import SkillTalk.Library.Clock
import SkillTalk.Library.TaskPool
import SkillTalk.ReferenceDataModels

/-!
# The translation service

A load writes its status, reads the bundle, fills the caches and writes its status again. It is a
task that suspends before each of these, so that other loads and the clearing of the caches may come
in between. Loads share the service and the list of what they returned.
-/

namespace SkillTalk

/-- A translation file by what reading and parsing it comes to. Of a dictionary the entries that are
dictionaries of strings count. -/
inductive TranslationFile where
  | unreadable (description : String)
  | notDictionary
  | dictionary (entries : String → Option StringDictionary)

/-- `JSONSerialization` of the file's data and the check of its outcome. -/
def TranslationFile.parse : TranslationFile → Except String (String → Option StringDictionary)
  | .unreadable description => .error description
  | .notDictionary => .error (TranslationError.parseError "Invalid JSON structure").errorDescription
  | .dictionary entries => .ok entries

/-- The `json` file of a name in a subdirectory of the bundle. -/
abbrev TranslationBundle := String → String → Option TranslationFile

namespace TranslationBundle

def fileName (languageCode : String) (referenceType : ReferenceDataType) : String :=
  referenceType.rawValue ++ "_" ++ languageCode

def url (bundle : TranslationBundle) (languageCode : String) (referenceType : ReferenceDataType) :
    Option TranslationFile :=
  (bundle (fileName languageCode referenceType) "translations").or
    (bundle languageCode ("translations/" ++ referenceType.rawValue))

/-- The result of a load whose reading of the clock is `timestamp`. -/
def load (bundle : TranslationBundle) (languageCode : String) (referenceType : ReferenceDataType)
    (timestamp : Date) : TranslationLoadResult :=
  let failure (errorMessage : String) : TranslationLoadResult :=
    ⟨languageCode, 0, false, some errorMessage, timestamp, ∅, none⟩
  match bundle.url languageCode referenceType with
  | none =>
      failure ("File not found: translations/" ++ fileName languageCode referenceType ++ ".json")
  | some file =>
      match file.parse with
      | .error description => failure description
      | .ok jsonDict =>
          let translations := (jsonDict referenceType.rawValue).getD ∅
          ⟨languageCode, translations.keys.card, true, none, timestamp, translations,
            jsonDict "categories"⟩

theorem languageCode_load (bundle : TranslationBundle) (languageCode : String)
    (referenceType : ReferenceDataType) (timestamp : Date) :
    (bundle.load languageCode referenceType timestamp).languageCode = languageCode := by
  unfold load
  dsimp only
  split
  · rfl
  · split <;> rfl

/-- The contents of a result do not depend on when it was loaded. -/
theorem load_contents (bundle : TranslationBundle) (languageCode : String)
    (referenceType : ReferenceDataType) (timestamp timestamp' : Date) :
    (bundle.load languageCode referenceType timestamp).translations
        = (bundle.load languageCode referenceType timestamp').translations
      ∧ (bundle.load languageCode referenceType timestamp).categories
        = (bundle.load languageCode referenceType timestamp').categories := by
  unfold load
  dsimp only
  cases bundle.url languageCode referenceType with
  | none => simp
  | some file => cases hparse : file.parse <;> simp [hparse]

end TranslationBundle

structure BasicTranslationService where
  translationCache : String → Option StringDictionary
  categoryCache : String → Option StringDictionary
  loadingStatus : String → Option TranslationStatus
  reads : ℕ
  -- the loads that were started, oldest first
  loads : List (String × ReferenceDataType)

namespace BasicTranslationService

def cacheKey (languageCode : String) (referenceType : ReferenceDataType) : String :=
  languageCode ++ "-" ++ referenceType.rawValue

def categoryKey (cacheKey : String) : String := cacheKey ++ "-categories"

def initial : BasicTranslationService where
  translationCache _ := none
  categoryCache _ := none
  loadingStatus key :=
    if ∃ languageCode ∈ supportedLanguages, ∃ referenceType ∈ ReferenceDataType.allCases,
        key = cacheKey languageCode referenceType then some .notLoaded
    else none
  reads := 0
  loads := []

def isTranslationCached (s : BasicTranslationService) (languageCode : String)
    (referenceType : ReferenceDataType) : Bool :=
  (s.translationCache (cacheKey languageCode referenceType)).isSome

def getCachedTranslations (s : BasicTranslationService) (languageCode : String)
    (referenceType : ReferenceDataType) : Option StringDictionary :=
  s.translationCache (cacheKey languageCode referenceType)

/-- The status `getTranslationStatus` gives for a language. -/
def status (s : BasicTranslationService) (languageCode : String)
    (referenceType : ReferenceDataType) : TranslationStatus :=
  (s.loadingStatus (cacheKey languageCode referenceType)).getD .notLoaded

def setStatus (s : BasicTranslationService) (languageCode : String)
    (referenceType : ReferenceDataType) (status : TranslationStatus) : BasicTranslationService :=
  { s with
    loadingStatus :=
      Function.update s.loadingStatus (cacheKey languageCode referenceType) (some status) }

def cacheTranslations (s : BasicTranslationService) (translations : StringDictionary)
    (languageCode : String) (referenceType : ReferenceDataType) : BasicTranslationService :=
  { s with
    translationCache :=
      Function.update s.translationCache (cacheKey languageCode referenceType)
        (some translations) }

def cacheCategoryTranslations (s : BasicTranslationService) (categories : StringDictionary)
    (languageCode : String) (referenceType : ReferenceDataType) : BasicTranslationService :=
  { s with
    categoryCache :=
      Function.update s.categoryCache (categoryKey (cacheKey languageCode referenceType))
        (some categories) }

def clearTranslationCache (s : BasicTranslationService) : BasicTranslationService :=
  { s with
    translationCache := fun _ => none
    categoryCache := fun _ => none
    loadingStatus := fun key => (s.loadingStatus key).map fun _ => .notLoaded }

def clearCachedTranslations (s : BasicTranslationService) (languageCode : String)
    (referenceType : ReferenceDataType) : BasicTranslationService :=
  let key := cacheKey languageCode referenceType
  { s with
    translationCache := Function.update s.translationCache key none
    categoryCache := Function.update s.categoryCache (categoryKey key) none
    loadingStatus := Function.update s.loadingStatus key (some .notLoaded) }

/-- The start of a load, up to its call of the bundle. -/
def startLoading (s : BasicTranslationService) (languageCode : String)
    (referenceType : ReferenceDataType) : BasicTranslationService :=
  { s.setStatus languageCode referenceType .loading with
    loads := s.loads ++ [(languageCode, referenceType)] }

variable (clock : Clock Date) (bundle : TranslationBundle)

/-- What is missing or cannot be read or parsed is reported in the result, so this throws in its
type only. -/
def loadTranslationsFromBundle (s : BasicTranslationService) (languageCode : String)
    (referenceType : ReferenceDataType) :
    Except String TranslationLoadResult × BasicTranslationService :=
  (.ok (bundle.load languageCode referenceType (clock.reading s.reads)),
    { s with reads := s.reads + 1 })

def markLoaded (s : BasicTranslationService) (languageCode : String)
    (referenceType : ReferenceDataType) : BasicTranslationService :=
  { s.setStatus languageCode referenceType (.loaded (clock.reading s.reads)) with
    reads := s.reads + 1 }

def loadTranslations (s : BasicTranslationService) (languageCode : String)
    (referenceType : ReferenceDataType) :
    Except String TranslationLoadResult × BasicTranslationService :=
  let started := s.startLoading languageCode referenceType
  match started.loadTranslationsFromBundle clock bundle languageCode referenceType with
  | (.error description, read) =>
      (.error description, read.setStatus languageCode referenceType (.failed description))
  | (.ok result, read) =>
      let cached := read.cacheTranslations result.translations languageCode referenceType
      let categorized :=
        match result.categories with
        | none => cached
        | some categories => cached.cacheCategoryTranslations categories languageCode referenceType
      (.ok result, categorized.markLoaded clock languageCode referenceType)

end BasicTranslationService

/-- Where a call of `loadTranslations` is suspended, or what it is about to hand to its caller. -/
inductive LoadStage where
  | created
  | reading
  | caching (result : TranslationLoadResult)
  | cachingCategories (result : TranslationLoadResult) (categories : StringDictionary)
  | marking (result : TranslationLoadResult)
  | returning (outcome : Except String TranslationLoadResult)

structure LoadTask where
  languageCode : String
  referenceType : ReferenceDataType
  stage : LoadStage

/-- The service and what the loads handed to their caller, oldest first. -/
structure TranslationLoads where
  service : BasicTranslationService
  returned : List (Except String TranslationLoadResult)

namespace TranslationLoads

variable (clock : Clock Date) (bundle : TranslationBundle)

/-- What the group of a batch hands on: the results in the order of completion, or what a load
threw. -/
def results (loads : TranslationLoads) : Except String (List TranslationLoadResult) :=
  loads.returned.mapM id

/-- A load up to its next suspension. -/
def turn (loads : TranslationLoads) (task : LoadTask) : TranslationLoads × Option LoadTask :=
  let ⟨languageCode, referenceType, stage⟩ := task
  let service := loads.service
  match stage with
  | .created =>
      (⟨service.startLoading languageCode referenceType, loads.returned⟩,
        some ⟨languageCode, referenceType, .reading⟩)
  | .reading =>
      match service.loadTranslationsFromBundle clock bundle languageCode referenceType with
      | (.error description, read) =>
          (⟨read.setStatus languageCode referenceType (.failed description), loads.returned⟩,
            some ⟨languageCode, referenceType, .returning (.error description)⟩)
      | (.ok result, read) =>
          (⟨read, loads.returned⟩, some ⟨languageCode, referenceType, .caching result⟩)
  | .caching result =>
      (⟨service.cacheTranslations result.translations languageCode referenceType, loads.returned⟩,
        match result.categories with
        | none => some ⟨languageCode, referenceType, .marking result⟩
        | some categories =>
            some ⟨languageCode, referenceType, .cachingCategories result categories⟩)
  | .cachingCategories result categories =>
      (⟨service.cacheCategoryTranslations categories languageCode referenceType, loads.returned⟩,
        some ⟨languageCode, referenceType, .marking result⟩)
  | .marking result =>
      (⟨service.markLoaded clock languageCode referenceType, loads.returned⟩,
        some ⟨languageCode, referenceType, .returning (.ok result)⟩)
  | .returning outcome => (⟨service, loads.returned ++ [outcome]⟩, none)

end TranslationLoads

abbrev TranslationCalls := TaskPool TranslationLoads LoadTask

/-- `loadBatchTranslations`: the tasks of its group run in any order, and what they return is
collected as they finish. -/
def loadBatchTranslations (clock : Clock Date) (bundle : TranslationBundle)
    (s : BasicTranslationService) (languageCodes : List String)
    (referenceType : ReferenceDataType) : Machine TranslationCalls ℕ :=
  TaskPool.machine (TranslationLoads.turn clock bundle)
    ⟨⟨s, []⟩, languageCodes.map fun languageCode => ⟨languageCode, referenceType, .created⟩⟩

inductive TranslationAction where
  | loadTranslations (languageCode : String) (referenceType : ReferenceDataType)
  | runLoad (index : ℕ)
  | clearCachedTranslations (languageCode : String) (referenceType : ReferenceDataType)
  | clearTranslationCache
  deriving DecidableEq

/-- Calls of the service, and turns of its loads. -/
def translationService (clock : Clock Date) (bundle : TranslationBundle) :
    Machine TranslationCalls TranslationAction where
  Init p := p = ⟨⟨.initial, []⟩, []⟩
  step p
    | .loadTranslations languageCode referenceType =>
        some (p.add ⟨languageCode, referenceType, .created⟩)
    | .runLoad index => p.run (TranslationLoads.turn clock bundle) index
    | .clearCachedTranslations languageCode referenceType =>
        some ⟨⟨p.shared.service.clearCachedTranslations languageCode referenceType,
          p.shared.returned⟩, p.tasks⟩
    | .clearTranslationCache =>
        some ⟨⟨p.shared.service.clearTranslationCache, p.shared.returned⟩, p.tasks⟩

end SkillTalk
