import SkillTalk.JSONLoader

/-!
# Cities and countries

The two models, with the initializers that databases use for countries, as they are encoded and
decoded by their coding keys.
-/

namespace SkillTalk

structure CityModel (Double : Type) where
  id : String
  name : String
  countryCode : String
  region : Option String
  latitude : Option Double
  longitude : Option Double
  population : Option Int64
  timezone : Option String
  deriving DecidableEq

structure CountryModel (Double : Type) where
  id : String
  name : String
  nativeName : Option String
  flag : String
  phoneCode : Option String
  region : Option String
  subregion : Option String
  latitude : Option Double
  longitude : Option Double
  population : Option Int64
  languages : Option (List String)
  timezones : Option (List String)
  isPopular : Bool
  deriving DecidableEq

variable {Number Double : Type} (numbers : NumberFormat Number Double)
  (keyOrder : String → String → Bool)

namespace CityModel

def encode (city : CityModel Double) : Except EncodingError (JSON Number) := do
  let id ← SkillTalk.encode "id" .string city.id
  let name ← SkillTalk.encode "name" .string city.name
  let countryCode ← SkillTalk.encode "country_code" .string city.countryCode
  let region ← encodeIfPresent "region" .string city.region
  let latitude ← encodeIfPresent "lat" (.double numbers) city.latitude
  let longitude ← encodeIfPresent "lng" (.double numbers) city.longitude
  let population ← encodeIfPresent "population" (.int numbers) city.population
  let timezone ← encodeIfPresent "timezone" .string city.timezone
  return keyedObject keyOrder
    [id, name, countryCode, region, latitude, longitude, population, timezone]

def decode (json : JSON Number) : Except DecodingError (CityModel Double) := do
  let container ← keyedContainer json
  let id ← SkillTalk.decode container "id" .string
  let name ← SkillTalk.decode container "name" .string
  let countryCode ← SkillTalk.decode container "country_code" .string
  let region ← decodeIfPresent container "region" .string
  let latitude ← decodeIfPresent container "lat" (.double numbers)
  let longitude ← decodeIfPresent container "lng" (.double numbers)
  let population ← decodeIfPresent container "population" (.int numbers)
  let timezone ← decodeIfPresent container "timezone" .string
  return ⟨id, name, countryCode, region, latitude, longitude, population, timezone⟩

def coding : JSONCoding Number (CityModel Double) where
  encode := encode numbers keyOrder
  decode := decode numbers

end CityModel

namespace CountryModel

/-- An alias for the id. -/
def code (country : CountryModel Double) : String := country.id

/-- The initializer for the database; the code goes nowhere. -/
def initWithCode (id name _code flag : String) (dialCode : Option String) (isPopular : Bool) :
    CountryModel Double where
  id := id
  name := name
  nativeName := none
  flag := flag
  phoneCode := dialCode
  region := none
  subregion := none
  latitude := none
  longitude := none
  population := none
  languages := none
  timezones := none
  isPopular := isPopular

/-- The initializer that the database's table is written with; the code goes nowhere. -/
def initWithEnglishCode (id englishName _englishCode englishRegion flag : String) :
    CountryModel Double where
  id := id
  name := englishName
  nativeName := none
  flag := flag
  phoneCode := none
  region := some englishRegion
  subregion := none
  latitude := none
  longitude := none
  population := none
  languages := none
  timezones := none
  isPopular := false

def encode (country : CountryModel Double) : Except EncodingError (JSON Number) := do
  let id ← SkillTalk.encode "code" .string country.id
  let name ← SkillTalk.encode "name" .string country.name
  let nativeName ← encodeIfPresent "native_name" .string country.nativeName
  let flag ← SkillTalk.encode "flag" .string country.flag
  let phoneCode ← encodeIfPresent "phone_code" .string country.phoneCode
  let region ← encodeIfPresent "region" .string country.region
  let subregion ← encodeIfPresent "subregion" .string country.subregion
  let latitude ← encodeIfPresent "lat" (.double numbers) country.latitude
  let longitude ← encodeIfPresent "lng" (.double numbers) country.longitude
  let population ← encodeIfPresent "population" (.int numbers) country.population
  let languages ← encodeIfPresent "languages" (.array .string) country.languages
  let timezones ← encodeIfPresent "timezones" (.array .string) country.timezones
  let isPopular ← SkillTalk.encode "isPopular" .bool country.isPopular
  return keyedObject keyOrder
    [id, name, nativeName, flag, phoneCode, region, subregion, latitude, longitude, population,
      languages, timezones, isPopular]

def decode (json : JSON Number) : Except DecodingError (CountryModel Double) := do
  let container ← keyedContainer json
  let id ← SkillTalk.decode container "code" .string
  let name ← SkillTalk.decode container "name" .string
  let nativeName ← decodeIfPresent container "native_name" .string
  let flag ← SkillTalk.decode container "flag" .string
  let phoneCode ← decodeIfPresent container "phone_code" .string
  let region ← decodeIfPresent container "region" .string
  let subregion ← decodeIfPresent container "subregion" .string
  let latitude ← decodeIfPresent container "lat" (.double numbers)
  let longitude ← decodeIfPresent container "lng" (.double numbers)
  let population ← decodeIfPresent container "population" (.int numbers)
  let languages ← decodeIfPresent container "languages" (.array .string)
  let timezones ← decodeIfPresent container "timezones" (.array .string)
  let isPopular ← SkillTalk.decode container "isPopular" .bool
  return ⟨id, name, nativeName, flag, phoneCode, region, subregion, latitude, longitude,
    population, languages, timezones, isPopular⟩

def coding : JSONCoding Number (CountryModel Double) where
  encode := encode numbers keyOrder
  decode := decode numbers

end CountryModel

end SkillTalk
