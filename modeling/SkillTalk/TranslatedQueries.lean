import SkillTalk.CountriesDatabase
import SkillTalk.OccupationsDatabase
import SkillTalk.ReferenceDataGroups

/-!
# Queries with and without translations

Three databases answer their queries twice over: from their table, and from the table after the
translations of the language have been loaded. Only the occupations take the translations in. The
tables are parameters, as is the lower-casing of strings.
-/

namespace SkillTalk

namespace BasicTranslationService

variable (clock : Clock Date) (bundle : TranslationBundle)

/-- The databases load the translations of a language unless they are cached. -/
def loadUnlessCached (s : BasicTranslationService) (languageCode : String)
    (referenceType : ReferenceDataType) : Except String Unit × BasicTranslationService :=
  if s.isTranslationCached languageCode referenceType then (.ok (), s)
  else
    match s.loadTranslations clock bundle languageCode referenceType with
    | (.error description, t) => (.error description, t)
    | (.ok _, t) => (.ok (), t)

end BasicTranslationService

/-- What a query with translations does with the items it got. -/
def answerQuery {α : Type} (answer : Except String (List α) × BasicTranslationService)
    (query : List α → List α) : Except String (List α) × BasicTranslationService :=
  match answer with
  | (.error description, t) => (.error description, t)
  | (.ok items, t) => (.ok (query items), t)

variable (clock : Clock Date) (bundle : TranslationBundle) (lowercased : String → String)

namespace CountriesDatabase

variable {Double : Type} (currentLanguage : String)

def inRegion (region : String) (countries : List (CountryModel Double)) :
    List (CountryModel Double) :=
  countries.filter fun country =>
    (country.region.map lowercased).getD "" = lowercased region

def getCountriesInRegion (allCountries : List (CountryModel Double)) (region : String) :
    List (CountryModel Double) :=
  inRegion lowercased region allCountries

/-- Both branches of the source return the countries as they are. -/
def applyServerTranslations (s : BasicTranslationService) (countries : List (CountryModel Double))
    (languageCode : String) : List (CountryModel Double) :=
  match s.getCachedTranslations languageCode .countries with
  | none => countries
  | some _ => countries

def getAllCountriesWithTranslations (allCountries : List (CountryModel Double))
    (s : BasicTranslationService) (languageCode : Option String) :
    Except String (List (CountryModel Double)) × BasicTranslationService :=
  let targetLanguage := languageCode.getD currentLanguage
  match s.loadUnlessCached clock bundle targetLanguage .countries with
  | (.error description, t) => (.error description, t)
  | (.ok _, t) => (.ok (applyServerTranslations t allCountries targetLanguage), t)

/-- The search repeats the conditions of `searchCountries` over the countries it got. -/
def searchCountriesWithTranslations (allCountries : List (CountryModel Double))
    (s : BasicTranslationService) (query : String) (languageCode : Option String) :
    Except String (List (CountryModel Double)) × BasicTranslationService :=
  answerQuery (getAllCountriesWithTranslations clock bundle currentLanguage allCountries s
    languageCode) fun countries => searchCountries lowercased countries query

def getCountriesByRegionWithTranslations (allCountries : List (CountryModel Double))
    (s : BasicTranslationService) (region : String) (languageCode : Option String) :
    Except String (List (CountryModel Double)) × BasicTranslationService :=
  answerQuery (getAllCountriesWithTranslations clock bundle currentLanguage allCountries s
    languageCode) (inRegion lowercased region)

end CountriesDatabase

namespace OccupationsDatabase

variable (currentLanguage : String)

def searchOccupations (allOccupations : List OccupationModel) (query : String) :
    List OccupationModel :=
  if query = "" then allOccupations
  else
    allOccupations.filter fun occupation =>
      containsText (lowercased occupation.englishName) (lowercased query)
        || containsText (lowercased occupation.englishCategory) (lowercased query)
        || containsText (lowercased occupation.id) (lowercased query)

def inCategory (category : String) (occupations : List OccupationModel) : List OccupationModel :=
  occupations.filter fun occupation =>
    lowercased occupation.englishCategory = lowercased category

def getOccupationsInCategory (allOccupations : List OccupationModel) (category : String) :
    List OccupationModel :=
  inCategory lowercased category allOccupations

def getOccupationsByCategoryWithTranslations (allOccupations : List OccupationModel)
    (s : BasicTranslationService) (category : String) (languageCode : Option String) :
    Except String (List OccupationModel) × BasicTranslationService :=
  answerQuery (getAllOccupationsWithTranslations clock bundle lowercased allOccupations
    currentLanguage s languageCode) (inCategory lowercased category)

end OccupationsDatabase

namespace HobbiesDatabase

def popularHobbyIds : List String :=
  ["photography", "reading", "cooking", "gaming", "music", "travel",
    "fitness", "yoga", "running", "soccer", "basketball", "guitar",
    "painting", "dancing", "hiking", "cycling", "swimming", "writing",
    "gardening", "meditation", "learning-languages", "volunteering",
    "programming", "netflix", "movies"]

variable (currentLanguage : String)

/-- The hobby as the queries without translations rebuild it. -/
def localizedHobby (hobby : HobbyModel) : HobbyModel :=
  .make hobby.id hobby.englishName hobby.englishCategory none none
    (popularHobbyIds.contains hobby.id)

def getAllHobbies (allHobbies : List HobbyModel) : List HobbyModel :=
  allHobbies.map localizedHobby

def getHobby (allHobbies : List HobbyModel) (id : String) : Option HobbyModel :=
  (allHobbies.find? fun hobby => hobby.id = id).map localizedHobby

def inCategory (category : String) (hobbies : List HobbyModel) : List HobbyModel :=
  hobbies.filter fun hobby => lowercased hobby.englishCategory = lowercased category

def getHobbiesByCategory (allHobbies : List HobbyModel) (category : String) : List HobbyModel :=
  (inCategory lowercased category allHobbies).map localizedHobby

/-- Ids are looked into as they are, and an empty query is not treated apart. -/
def searchHobbies (allHobbies : List HobbyModel) (query : String) : List HobbyModel :=
  (allHobbies.filter fun hobby =>
    containsText (lowercased hobby.englishName) (lowercased query)
      || containsText (lowercased hobby.englishCategory) (lowercased query)
      || containsText hobby.id (lowercased query)).map localizedHobby

def getPopularHobbies (allHobbies : List HobbyModel) : List HobbyModel :=
  (allHobbies.filter fun hobby => popularHobbyIds.contains hobby.id).map fun hobby =>
    .make hobby.id hobby.englishName hobby.englishCategory none none true

/-- Both branches of the source return the hobbies as they are. -/
def applyServerTranslations (s : BasicTranslationService) (hobbies : List HobbyModel)
    (languageCode : String) : List HobbyModel :=
  match s.getCachedTranslations languageCode .hobbies with
  | none => hobbies
  | some _ => hobbies

def getAllHobbiesWithTranslations (allHobbies : List HobbyModel) (s : BasicTranslationService)
    (languageCode : Option String) : Except String (List HobbyModel) × BasicTranslationService :=
  let targetLanguage := languageCode.getD currentLanguage
  match s.loadUnlessCached clock bundle targetLanguage .hobbies with
  | (.error description, t) => (.error description, t)
  | (.ok _, t) => (.ok (applyServerTranslations t allHobbies targetLanguage), t)

def searchHobbiesWithTranslations (allHobbies : List HobbyModel) (s : BasicTranslationService)
    (query : String) (languageCode : Option String) :
    Except String (List HobbyModel) × BasicTranslationService :=
  answerQuery (getAllHobbiesWithTranslations clock bundle currentLanguage allHobbies s
    languageCode) fun hobbies =>
      if query = "" then hobbies
      else
        hobbies.filter fun hobby =>
          containsText (lowercased hobby.englishName) (lowercased query)
            || containsText (lowercased hobby.englishCategory) (lowercased query)
            || containsText (lowercased hobby.id) (lowercased query)

def getHobbiesByCategoryWithTranslations (allHobbies : List HobbyModel)
    (s : BasicTranslationService) (category : String) (languageCode : Option String) :
    Except String (List HobbyModel) × BasicTranslationService :=
  answerQuery (getAllHobbiesWithTranslations clock bundle currentLanguage allHobbies s
    languageCode) (inCategory lowercased category)

end HobbiesDatabase

/-! ### Runs of queries -/

inductive TranslatedDatabase where
  | countries
  | occupations
  | hobbies
  deriving DecidableEq

def TranslatedDatabase.referenceType : TranslatedDatabase → ReferenceDataType
  | .countries => .countries
  | .occupations => .occupations
  | .hobbies => .hobbies

structure ReferenceTables (Double : Type) where
  countries : List (CountryModel Double)
  occupations : List OccupationModel
  hobbies : List HobbyModel

/-- The three ways to ask a database. -/
inductive TranslatedQuery where
  | all
  | search (query : String)
  | inGroup (group : String)

/-- What a database answers, by the function that is asked. -/
def TranslatedQuery.answer {α : Type} (all : α) (search inGroup : String → α) :
    TranslatedQuery → α
  | .all => all
  | .search query => search query
  | .inGroup group => inGroup group

/-- The service that the databases share and the languages of the two that keep one of their own.
The hobbies are in the language of the device's locale. -/
structure TranslatedQueries where
  service : BasicTranslationService
  countriesLanguage : String
  occupationsLanguage : String
  localeLanguage : String

inductive TranslatedQueriesAction where
  | ask (database : TranslatedDatabase) (query : TranslatedQuery) (languageCode : Option String)
  | setCurrentLanguage (database : TranslatedDatabase) (languageCode : String)
  | changeLocale (languageCode : String)
  | clearTranslationCache
  | clearCachedTranslations (languageCode : String) (referenceType : ReferenceDataType)

namespace TranslatedQueries

variable {Double : Type} (tables : ReferenceTables Double)

def askCountries (s : BasicTranslationService) (currentLanguage : String)
    (languageCode : Option String) (query : TranslatedQuery) :
    Except String (List (CountryModel Double)) × BasicTranslationService :=
  query.answer
    (CountriesDatabase.getAllCountriesWithTranslations clock bundle currentLanguage
      tables.countries s languageCode)
    (fun query => CountriesDatabase.searchCountriesWithTranslations clock bundle lowercased
      currentLanguage tables.countries s query languageCode)
    fun region => CountriesDatabase.getCountriesByRegionWithTranslations clock bundle lowercased
      currentLanguage tables.countries s region languageCode

def askOccupations (s : BasicTranslationService) (currentLanguage : String)
    (languageCode : Option String) (query : TranslatedQuery) :
    Except String (List OccupationModel) × BasicTranslationService :=
  query.answer
    (OccupationsDatabase.getAllOccupationsWithTranslations clock bundle lowercased
      tables.occupations currentLanguage s languageCode)
    (fun query => OccupationsDatabase.searchOccupationsWithTranslations clock bundle lowercased
      tables.occupations currentLanguage s query languageCode)
    fun category => OccupationsDatabase.getOccupationsByCategoryWithTranslations clock bundle
      lowercased currentLanguage tables.occupations s category languageCode

def askHobbies (s : BasicTranslationService) (currentLanguage : String)
    (languageCode : Option String) (query : TranslatedQuery) :
    Except String (List HobbyModel) × BasicTranslationService :=
  query.answer
    (HobbiesDatabase.getAllHobbiesWithTranslations clock bundle currentLanguage tables.hobbies s
      languageCode)
    (fun query => HobbiesDatabase.searchHobbiesWithTranslations clock bundle lowercased
      currentLanguage tables.hobbies s query languageCode)
    fun category => HobbiesDatabase.getHobbiesByCategoryWithTranslations clock bundle lowercased
      currentLanguage tables.hobbies s category languageCode

def currentLanguage (w : TranslatedQueries) : TranslatedDatabase → String
  | .countries => w.countriesLanguage
  | .occupations => w.occupationsLanguage
  | .hobbies => w.localeLanguage

/-- The hobbies' function only prints. -/
def setCurrentLanguage (w : TranslatedQueries) (languageCode : String) :
    TranslatedDatabase → TranslatedQueries
  | .countries => { w with countriesLanguage := languageCode }
  | .occupations => { w with occupationsLanguage := languageCode }
  | .hobbies => w

/-- What a query leaves of the service. -/
def ask (w : TranslatedQueries) (database : TranslatedDatabase) (query : TranslatedQuery)
    (languageCode : Option String) : BasicTranslationService :=
  let currentLanguage := w.currentLanguage database
  match database with
  | .countries =>
      (askCountries clock bundle lowercased tables w.service currentLanguage languageCode query).2
  | .occupations =>
      (askOccupations clock bundle lowercased tables w.service currentLanguage languageCode query).2
  | .hobbies =>
      (askHobbies clock bundle lowercased tables w.service currentLanguage languageCode query).2

def step (w : TranslatedQueries) : TranslatedQueriesAction → Option TranslatedQueries
  | .ask database query languageCode =>
      some { w with service := w.ask clock bundle lowercased tables database query languageCode }
  | .setCurrentLanguage database languageCode => some (w.setCurrentLanguage languageCode database)
  | .changeLocale languageCode => some { w with localeLanguage := languageCode }
  | .clearTranslationCache => some { w with service := w.service.clearTranslationCache }
  | .clearCachedTranslations languageCode referenceType =>
      some { w with service := w.service.clearCachedTranslations languageCode referenceType }

end TranslatedQueries

/-- Queries, one after another. Countries and occupations start in the language that the locale has
when they are first used, so in any. -/
def translatedQueries {Double : Type} (tables : ReferenceTables Double) :
    Machine TranslatedQueries TranslatedQueriesAction where
  Init w := w.service = .initial
  step := TranslatedQueries.step clock bundle lowercased tables

end SkillTalk
