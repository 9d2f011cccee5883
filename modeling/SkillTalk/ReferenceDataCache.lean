import SkillTalk.Library.ExpiringCache
import SkillTalk.PlaceModels
import SkillTalk.ReferenceDataModels
import SkillTalk.ReferenceDataService

/-!
# Loading reference data

Five loads read the bundle behind one cache keyed by text, into which downloaded translations are
put as well. `preloadReferenceData` runs four of the loads side by side and returns when all have
ended. The cache holds `Any`, and a load casts what it finds; the system may drop entries at any
time.
-/

namespace SkillTalk

structure LanguageModel where
  id : String
  englishName : String
  nativeName : String
  code : String
  isSupported : Bool
  deriving DecidableEq

inductive ReferenceData (Double : Type) where
  | languages (languages : List LanguageModel)
  | countries (countries : List (CountryModel Double))
  | cities (cities : List (CityModel Double))
  | occupations (occupations : List OccupationModel)
  | hobbies (hobbies : List HobbyModel)
  | translations (translations : StringDictionary)

inductive ReferenceKind where
  | languages
  | countries
  | cities
  | occupations
  | hobbies
  | translations
  deriving DecidableEq, Repr

namespace ReferenceData

variable {Double : Type}

def kind : ReferenceData Double → ReferenceKind
  | .languages _ => .languages
  | .countries _ => .countries
  | .cities _ => .cities
  | .occupations _ => .occupations
  | .hobbies _ => .hobbies
  | .translations _ => .translations

def isEmptyArray : ReferenceData Double → Bool
  | .languages values => values.isEmpty
  | .countries values => values.isEmpty
  | .cities values => values.isEmpty
  | .occupations values => values.isEmpty
  | .hobbies values => values.isEmpty
  | .translations _ => false

def emptyArray : ReferenceKind → Option (ReferenceData Double)
  | .languages => some (.languages [])
  | .countries => some (.countries [])
  | .cities => some (.cities [])
  | .occupations => some (.occupations [])
  | .hobbies => some (.hobbies [])
  | .translations => none

/-- `as?` to the type of the kind. An empty array is an array of every type. -/
def cast (data : ReferenceData Double) (kind : ReferenceKind) : Option (ReferenceData Double) :=
  if data.kind = kind then some data
  else if data.isEmptyArray then emptyArray kind
  else none

end ReferenceData

/-- What the service throws: its own `bundleFileNotFound` and `serverError`, or what reading a file,
the session or the decoder threw. -/
inductive ReferenceDataFailure (ε : Type) where
  | bundleFileNotFound (filename : String)
  | serverError (message : String)
  | thrown (error : ε)
  deriving DecidableEq

/-- What the bundle finds under a name, and what reading and decoding it as each type comes to. -/
structure ReferenceBundle (Double ε : Type) where
  languages : String → Option (Except ε (List LanguageModel))
  countries : String → Option (Except ε (List (CountryModel Double)))
  cities : String → Option (Except ε (List (CityModel Double)))
  occupations : String → Option (Except ε (List OccupationModel))
  hobbies : String → Option (Except ε (List HobbyModel))

inductive ReferenceCall where
  | loadLanguages
  | loadCountries
  | loadCities (countryCode : String)
  | loadOccupations
  | loadHobbies
  deriving DecidableEq, Repr

namespace ReferenceCall

def cacheKey : ReferenceCall → String
  | .loadLanguages => "languages"
  | .loadCountries => "countries"
  | .loadCities countryCode => "cities_" ++ countryCode
  | .loadOccupations => "occupations"
  | .loadHobbies => "hobbies"

/-- The type to which a load casts what it finds. -/
def kind : ReferenceCall → ReferenceKind
  | .loadLanguages => .languages
  | .loadCountries => .countries
  | .loadCities _ => .cities
  | .loadOccupations => .occupations
  | .loadHobbies => .hobbies

/-- The calls of `preloadReferenceData`, in the order in which it awaits them. -/
def preloaded : List ReferenceCall := [.loadLanguages, .loadCountries, .loadOccupations, .loadHobbies]

end ReferenceCall

section Reading

variable {Double Body ε : Type}

def loadBundled {α : Type} (file : String → Option (Except ε α)) (resource : String) :
    Except (ReferenceDataFailure ε) α :=
  match file resource with
  | none => .error (.bundleFileNotFound (resource ++ ".json"))
  | some decoded => decoded.mapError .thrown

/-- A load after its look into the cache. -/
def ReferenceBundle.read (bundle : ReferenceBundle Double ε) :
    ReferenceCall → Except (ReferenceDataFailure ε) (ReferenceData Double)
  | .loadLanguages => .languages <$> loadBundled bundle.languages "languages"
  | .loadCountries => .countries <$> loadBundled bundle.countries "countries"
  | .loadCities countryCode => .cities <$> loadBundled bundle.cities ("cities_" ++ countryCode)
  | .loadOccupations => .occupations <$> loadBundled bundle.occupations "occupations"
  | .loadHobbies => .hobbies <$> loadBundled bundle.hobbies "hobbies"

/-- What the answer of the server to a download comes to. -/
def downloadedTranslations (decode : Body → Except ε StringDictionary) (language : String) :
    SyncAnswer Body ε → Except (ReferenceDataFailure ε) StringDictionary
  | .failed error => .error (.thrown error)
  | .response statusCode body =>
      if statusCode ≠ some 200 then
        .error (.serverError ("Failed to download translations for " ++ language))
      else (decode body).mapError .thrown

end Reading

/-- A load, with the number of the preload that made it if one did, or a download that the server
has answered. -/
inductive ReferenceJob (Body ε : Type) where
  | load (preload : Option ℕ) (call : ReferenceCall)
  | download (language : String) (answer : SyncAnswer Body ε)

def ReferenceJob.isLoad {Body ε : Type} (call : ReferenceCall) : ReferenceJob Body ε → Bool
  | .load _ call' => call' = call
  | .download _ _ => false

def ReferenceJob.isPreload {Body ε : Type} (number : ℕ) (call : ReferenceCall) :
    ReferenceJob Body ε → Bool
  | .load preload call' => preload = some number ∧ call' = call
  | .download _ _ => false

section Jobs

variable {Double Body ε : Type} (bundle : ReferenceBundle Double ε)
  (decode : Body → Except ε StringDictionary)

def referenceJobs : ExpiringCache.Source (ReferenceJob Body ε) String (ReferenceData Double)
    (ReferenceDataFailure ε) where
  key
    | .load _ call => call.cacheKey
    | .download language _ => "translations_" ++ language
  looks
    | .load _ _ => true
    | .download _ _ => false
  accepts
    | .load _ call => fun data => data.cast call.kind
    | .download _ _ => fun _ => none
  read
    | .load _ call => bundle.read call
    | .download language answer => .translations <$> downloadedTranslations decode language answer

/-- What `preloadReferenceData` comes to without a cache. -/
def ReferenceBundle.preload : Except (ReferenceDataFailure ε) Unit :=
  ReferenceCall.preloaded.forM fun call => discard (bundle.read call)

end Jobs

structure ReferenceDataCache (Double Body ε : Type) where
  loads : ExpiringCache.Calls (ReferenceJob Body ε) String (ReferenceData Double)
    (ReferenceDataFailure ε) Date
  -- the calls of `preloadReferenceData` so far
  preloads : ℕ
  -- the language under `currentLanguageKey` in the user defaults
  currentLanguage : Option String

inductive ReferenceAction (Body ε : Type) where
  | load (call : ReferenceCall)
  | downloadTranslations (language : String) (answer : SyncAnswer Body ε)
  | preloadReferenceData
  | turn (index : ℕ)
  | evict (evicted : String → Bool)
  | clearCache
  | setCurrentLanguage (language : String)

namespace ReferenceDataCache

variable {Double Body ε : Type}

def cacheTimeout : TimeInterval := 86400

def expired (now stored : Date) : Bool := now - stored > cacheTimeout

def initial : ReferenceDataCache Double Body ε where
  loads := ⟨.empty, []⟩
  preloads := 0
  currentLanguage := none

/-- `languageCode` is that of the current locale. -/
def getCurrentLanguage (s : ReferenceDataCache Double Body ε) (languageCode : Option String) :
    String :=
  (s.currentLanguage.or languageCode).getD "en"

/-- What an action does to the cache and to the loads at it. -/
def cacheActions (s : ReferenceDataCache Double Body ε) :
    ReferenceAction Body ε → List (ExpiringCache.Action (ReferenceJob Body ε) String)
  | .load call => [.call (.load none call)]
  | .downloadTranslations language answer => [.call (.download language answer)]
  | .preloadReferenceData =>
      ReferenceCall.preloaded.map fun call => .call (.load (some s.preloads) call)
  | .turn index => [.turn index]
  | .evict evicted => [.drop evicted]
  | .clearCache => [.drop fun _ => true]
  | .setCurrentLanguage _ => [.drop fun _ => true]

/-- The actions write nothing but the cache, the number of preloads and the language. -/
def after (s : ReferenceDataCache Double Body ε) (action : ReferenceAction Body ε)
    (loads : ExpiringCache.Calls (ReferenceJob Body ε) String (ReferenceData Double)
      (ReferenceDataFailure ε) Date) : ReferenceDataCache Double Body ε :=
  match action with
  | .preloadReferenceData => { s with loads := loads, preloads := s.preloads + 1 }
  | .setCurrentLanguage language => { s with loads := loads, currentLanguage := some language }
  | _ => { s with loads := loads }

variable (bundle : ReferenceBundle Double ε) (decode : Body → Except ε StringDictionary)
  (clock : Clock Date)

def cache : Machine
    (ExpiringCache.Calls (ReferenceJob Body ε) String (ReferenceData Double)
      (ReferenceDataFailure ε) Date)
    (ExpiringCache.Action (ReferenceJob Body ε) String) :=
  ExpiringCache.machine (referenceJobs bundle decode) clock.reading expired

def step (s : ReferenceDataCache Double Body ε) (action : ReferenceAction Body ε) :
    Option (ReferenceDataCache Double Body ε) :=
  ((cache bundle decode clock).exec s.loads (s.cacheActions action)).map (s.after action)

/-- What the load that a preload made has returned, once it has. -/
def returnOf (s : ReferenceDataCache Double Body ε) (number : ℕ) (call : ReferenceCall) :
    Option (Except (ReferenceDataFailure ε) (ReferenceData Double)) :=
  (s.loads.shared.returned.find? fun x => x.1.isPreload number call).map Prod.snd

/-- What a call of `preloadReferenceData` comes to once its loads have all ended: the error of the
first that threw, in the order in which it awaits them. -/
def preloadReturn (s : ReferenceDataCache Double Body ε) (number : ℕ) :
    Option (Except (ReferenceDataFailure ε) Unit) :=
  (ReferenceCall.preloaded.mapM (s.returnOf number)).map fun results => results.forM discard

end ReferenceDataCache

def referenceDataCache {Double Body ε : Type} (bundle : ReferenceBundle Double ε)
    (decode : Body → Except ε StringDictionary) (clock : Clock Date) :
    Machine (ReferenceDataCache Double Body ε) (ReferenceAction Body ε) where
  Init s := s = ReferenceDataCache.initial
  step := ReferenceDataCache.step bundle decode clock

end SkillTalk
