import SkillTalk.PlaceModels
import SkillTalk.TextSearch

/-!
# The countries database

The table is written as calls of the two initializers for databases. The languages that the search
is told do not matter to it.
-/

namespace SkillTalk

/-- A call of one of the initializers, with its arguments. -/
inductive CountryEntry where
  | withCode (id name code flag : String) (dialCode : Option String) (isPopular : Bool)
  | withEnglishCode (id englishName englishCode englishRegion flag : String)
  deriving DecidableEq

namespace CountryEntry

def id : CountryEntry → String
  | .withCode id _ _ _ _ _ => id
  | .withEnglishCode id _ _ _ _ => id

def code : CountryEntry → String
  | .withCode _ _ code _ _ _ => code
  | .withEnglishCode _ _ englishCode _ _ => englishCode

def model (Double : Type) : CountryEntry → CountryModel Double
  | .withCode id name code flag dialCode isPopular =>
      .initWithCode id name code flag dialCode isPopular
  | .withEnglishCode id englishName englishCode englishRegion flag =>
      .initWithEnglishCode id englishName englishCode englishRegion flag

end CountryEntry

namespace CountriesDatabase

variable {Double : Type}

def searchCountries (lowercased : String → String) (countries : List (CountryModel Double))
    (query : String) : List (CountryModel Double) :=
  if query = "" then countries
  else
    countries.filter fun country =>
      containsText (lowercased country.name) (lowercased query)
        || country.region.any (fun region => containsText (lowercased region) (lowercased query))
        || containsText (lowercased country.code) (lowercased query)
        || containsText (lowercased country.id) (lowercased query)

end CountriesDatabase

end SkillTalk
