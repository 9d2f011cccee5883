import SkillTalk.ServiceTypes
import SkillTalk.SkillModels

/-!
# Reference data models
-/

namespace SkillTalk

inductive ReferenceDataType where
  | skills
  | hobbies
  | languages
  | countries
  | cities
  | occupations
  deriving DecidableEq, Repr

def ReferenceDataType.rawValue : ReferenceDataType → String
  | .skills => "skills"
  | .hobbies => "hobbies"
  | .languages => "languages"
  | .countries => "countries"
  | .cities => "cities"
  | .occupations => "occupations"

def ReferenceDataType.allCases : List ReferenceDataType :=
  [.skills, .hobbies, .languages, .countries, .cities, .occupations]

inductive TranslationStatus where
  | notLoaded
  | loading
  | loaded (date : Date)
  | failed (message : String)
  deriving DecidableEq

inductive TranslationError where
  | parseError (message : String)
  | networkError (message : String)
  | invalidResponse (message : String)
  deriving DecidableEq

def TranslationError.errorDescription : TranslationError → String
  | .parseError message => "Parse error: " ++ message
  | .networkError message => "Network error: " ++ message
  | .invalidResponse message => "Invalid response: " ++ message

/-- `LocalizationHelper.TranslationLoadResult`. -/
structure TranslationLoadResult where
  languageCode : String
  itemCount : ℕ
  success : Bool
  errorMessage : Option String
  timestamp : Date
  translations : StringDictionary
  categories : Option StringDictionary
  deriving DecidableEq

def supportedLanguages : List String :=
  ["en", "es", "fr", "de", "it", "pt", "ru", "zh", "ja", "ko",
    "ar", "hi", "tr", "nl", "pl", "sv", "da", "no", "fi", "cs",
    "hu", "ro", "bg", "hr", "sk", "sl", "et", "lv", "lt", "mt"]

structure OccupationModel where
  id : String
  englishName : String
  englishCategory : String
  translations : Option StringDictionary
  categoryTranslations : Option StringDictionary
  isPopular : Bool
  deriving DecidableEq

def OccupationModel.popularOccupations : List String :=
  ["software-engineer", "data-scientist", "product-manager", "designer", "marketing-manager",
    "sales-representative", "teacher", "nurse", "doctor", "lawyer",
    "accountant", "consultant", "project-manager", "hr-manager", "business-analyst"]

/-- `OccupationModel.init`, which marks the listed occupations popular whatever it is told. -/
def OccupationModel.make (id englishName englishCategory : String)
    (translations categoryTranslations : Option StringDictionary) (isPopular : Bool) :
    OccupationModel where
  id := id
  englishName := englishName
  englishCategory := englishCategory
  translations := translations
  categoryTranslations := categoryTranslations
  isPopular := isPopular || popularOccupations.contains id

def OccupationModel.localizedName (occupation : OccupationModel) (language : String) : String :=
  (occupation.translations.bind fun translations => translations.lookup language).getD
    occupation.englishName

def OccupationModel.localizedCategory (occupation : OccupationModel) (language : String) : String :=
  (occupation.categoryTranslations.bind fun translations => translations.lookup language).getD
    occupation.englishCategory

def OccupationModel.withServerTranslations (occupation : OccupationModel)
    (nameTranslations categoryTranslations : StringDictionary) : OccupationModel :=
  .make occupation.id occupation.englishName occupation.englishCategory (some nameTranslations)
    (some categoryTranslations) occupation.isPopular

structure HobbyModel where
  id : String
  englishName : String
  englishCategory : String
  translations : Option StringDictionary
  categoryTranslations : Option StringDictionary
  isPopular : Bool
  deriving DecidableEq

def HobbyModel.popularHobbies : List String :=
  ["soccer", "basketball", "tennis", "swimming", "running",
    "painting", "photography", "guitar", "piano", "singing",
    "programming", "video-games", "reading", "writing", "cooking"]

/-- `HobbyModel.init`, which marks the listed hobbies popular whatever it is told. -/
def HobbyModel.make (id englishName englishCategory : String)
    (translations categoryTranslations : Option StringDictionary) (isPopular : Bool) :
    HobbyModel where
  id := id
  englishName := englishName
  englishCategory := englishCategory
  translations := translations
  categoryTranslations := categoryTranslations
  isPopular := isPopular || popularHobbies.contains id

end SkillTalk
