import SkillTalk.CountriesDatabase
import SkillTalk.LanguageService
import SkillTalk.Library.Grouping
import SkillTalk.ReferenceDataModels

/-!
# The grouped lists of the reference data

Four databases group their table for a picker. Three of them sort the groups afterwards, in the
order in which the dictionary has the keys; the language database sorts its table before. The tables
are parameters, as are the first character of a text and its upper and lower case; names are
compared scalar by scalar.
-/

namespace SkillTalk

open Dictionary (Enumeration)
open Grouping

/-- The two loops of a database: one over its table, one over the keys of the groups. -/
def groupedAndSorted {α : Type} (key name : α → String) (table : List α)
    (order : Enumeration (grouped key table)) : Dictionary String (List α) :=
  modifyAll (grouped key table) order.entries.keys (sortedBy name)

variable {Double : Type} (firstCharacter uppercased : String → String)

/-- `String(name.prefix(1).uppercased())`. -/
def firstLetter (name : String) : String := uppercased (firstCharacter name)

namespace CountryDatabase

def letter (country : CountryModel Double) : String :=
  firstLetter firstCharacter uppercased country.name

def getCountriesByAlphabet (allCountries : List (CountryModel Double))
    (order : Enumeration (grouped (letter firstCharacter uppercased) allCountries)) :
    Dictionary String (List (CountryModel Double)) :=
  groupedAndSorted (letter firstCharacter uppercased) CountryModel.name allCountries order

end CountryDatabase

namespace CountriesDatabase

def regionKey (country : CountryModel Double) : String := country.region.getD "Unknown"

def getCountriesByRegion (allCountries : List (CountryModel Double))
    (order : Enumeration (grouped regionKey allCountries)) :
    Dictionary String (List (CountryModel Double)) :=
  groupedAndSorted regionKey CountryModel.name allCountries order

end CountriesDatabase

namespace OccupationsDatabase

def getOccupationsByCategory (allOccupations : List OccupationModel)
    (order : Enumeration (grouped OccupationModel.englishCategory allOccupations)) :
    Dictionary String (List OccupationModel) :=
  groupedAndSorted OccupationModel.englishCategory OccupationModel.englishName allOccupations order

end OccupationsDatabase

structure LanguageDatabase where
  languages : List Language
  languagesByAlphabet : Dictionary String (List Language)

namespace LanguageDatabase

def getDefaultLanguages : List Language :=
  [⟨"en", "English", "English"⟩, ⟨"es", "Spanish", "Español"⟩, ⟨"fr", "French", "Français"⟩,
    ⟨"de", "German", "Deutsch"⟩, ⟨"zh", "Chinese", "中文"⟩, ⟨"ja", "Japanese", "日本語"⟩,
    ⟨"ko", "Korean", "한국어"⟩, ⟨"ar", "Arabic", "العربية"⟩, ⟨"hi", "Hindi", "हिन्दी"⟩,
    ⟨"pt", "Portuguese", "Português"⟩, ⟨"it", "Italian", "Italiano"⟩,
    ⟨"ru", "Russian", "Русский"⟩, ⟨"nl", "Dutch", "Nederlands"⟩, ⟨"sv", "Swedish", "Svenska"⟩,
    ⟨"no", "Norwegian", "Norsk"⟩, ⟨"da", "Danish", "Dansk"⟩, ⟨"fi", "Finnish", "Suomi"⟩,
    ⟨"pl", "Polish", "Polski"⟩, ⟨"tr", "Turkish", "Türkçe"⟩, ⟨"he", "Hebrew", "עברית"⟩]

def letter (language : Language) : String := firstLetter firstCharacter uppercased language.name

/-- The database that `loadLanguages` makes of what the bundle holds, if it holds anything. -/
def loadLanguages (bundled : Option (List Language)) : LanguageDatabase :=
  let languages := sortedBy Language.name (bundled.getD getDefaultLanguages)
  { languages
    languagesByAlphabet := grouped (letter firstCharacter uppercased) languages }

def searchLanguages (rules : TextRules) (database : LanguageDatabase) (query : String) :
    List Language :=
  let searchQuery := rules.trimmed (rules.lowercased query)
  if searchQuery = "" then database.languages
  else
    database.languages.filter fun language =>
      containsText (rules.lowercased language.name) searchQuery
        || containsText (rules.lowercased language.nativeName) searchQuery
        || containsText (rules.lowercased language.code) searchQuery

end LanguageDatabase

end SkillTalk
