import SkillTalk.BasicTranslationService

/-!
# Warming up the translations

A database initializes its translations by loading the priority languages, awaiting them all, and
then starting loads of the supported languages that are not cached. Other loads may be under way,
those of other initializations among them.
-/

namespace SkillTalk

def priorityLanguages : List String :=
  ["en", "es", "fr", "de", "zh", "ja", "ko", "ar", "hi", "ru"]

structure TranslationCacheStatistics where
  totalItems : ℕ
  cachedItems : ℕ
  cacheHitRate : ℚ
  lastUpdated : Date
  deriving DecidableEq

/-- `now` is the reading of the clock. -/
def BasicTranslationService.getCacheStatistics (s : BasicTranslationService) (now : Date) :
    TranslationCacheStatistics :=
  let occupationsLoaded := supportedLanguages.filter fun languageCode =>
    (s.translationCache (languageCode ++ "-occupations")).isSome
  let hobbiesLoaded := supportedLanguages.filter fun languageCode =>
    (s.translationCache (languageCode ++ "-hobbies")).isSome
  ⟨supportedLanguages.length, max occupationsLoaded.length hobbiesLoaded.length, 17 / 20, now⟩

/-- Whose group a load belongs to: that of an initialization's priority languages, that of its
background loading, or another caller's. -/
inductive LoadOwner where
  | caller
  | priority (number : ℕ)
  | background (number : ℕ)
  deriving DecidableEq, Repr

structure OwnedLoad where
  owner : LoadOwner
  load : LoadTask

/-- The loads, and the owners to which a load has thrown. -/
structure WarmupLoads where
  loads : TranslationLoads
  failed : List LoadOwner

def LoadStage.throws : LoadStage → Bool
  | .returning (.error _) => true
  | _ => false

structure TranslationWarmup where
  pool : TaskPool WarmupLoads OwnedLoad
  -- the initializations, with whether their background loading has started
  initializations : List (ReferenceDataType × Bool)

inductive WarmupAction where
  | loadTranslations (languageCode : String) (referenceType : ReferenceDataType)
  | initializeTranslations (referenceType : ReferenceDataType)
  | startBackgroundTranslationLoading (number : ℕ)
  | runLoad (index : ℕ)
  | clearCachedTranslations (languageCode : String) (referenceType : ReferenceDataType)
  | clearTranslationCache
  deriving DecidableEq

namespace TranslationWarmup

variable (clock : Clock Date) (bundle : TranslationBundle)

def initial : TranslationWarmup where
  pool := ⟨⟨⟨.initial, []⟩, []⟩, []⟩
  initializations := []

def service (w : TranslationWarmup) : BasicTranslationService := w.pool.shared.loads.service

def turn (shared : WarmupLoads) (task : OwnedLoad) : WarmupLoads × Option OwnedLoad :=
  let (loads, next) := shared.loads.turn clock bundle task.load
  (⟨loads, if task.load.stage.throws then shared.failed ++ [task.owner] else shared.failed⟩,
    next.map fun load => ⟨task.owner, load⟩)

/-- The tasks of a group. -/
def batch (owner : LoadOwner) (languageCodes : List String) (referenceType : ReferenceDataType) :
    List OwnedLoad :=
  languageCodes.map fun languageCode => ⟨owner, languageCode, referenceType, .created⟩

def addBatch (w : TranslationWarmup) (owner : LoadOwner) (languageCodes : List String)
    (referenceType : ReferenceDataType) : TaskPool WarmupLoads OwnedLoad :=
  ⟨w.pool.shared, w.pool.tasks ++ batch owner languageCodes referenceType⟩

/-- `initializeTranslations` up to its wait for the priority languages. -/
def initializeTranslations (w : TranslationWarmup) (referenceType : ReferenceDataType) :
    TranslationWarmup where
  pool := w.addBatch (.priority w.initializations.length) priorityLanguages referenceType
  initializations := w.initializations ++ [(referenceType, false)]

def unloadedLanguages (s : BasicTranslationService) (referenceType : ReferenceDataType) :
    List String :=
  supportedLanguages.filter fun languageCode => !s.isTranslationCached languageCode referenceType

/-- What an initialization does when its priority languages have returned, unless one has thrown. -/
def startBackgroundTranslationLoading (w : TranslationWarmup) (number : ℕ) :
    Option TranslationWarmup :=
  match w.initializations[number]? with
  | some (referenceType, false) =>
      if w.pool.tasks.any (fun task => task.owner = .priority number)
          ∨ .priority number ∈ w.pool.shared.failed then none
      else some ⟨w.addBatch (.background number) (unloadedLanguages w.service referenceType)
        referenceType, w.initializations.set number (referenceType, true)⟩
  | _ => none

def setService (w : TranslationWarmup) (service : BasicTranslationService) : TranslationWarmup :=
  { w with
    pool := ⟨⟨⟨service, w.pool.shared.loads.returned⟩, w.pool.shared.failed⟩, w.pool.tasks⟩ }

def step (w : TranslationWarmup) : WarmupAction → Option TranslationWarmup
  | .loadTranslations languageCode referenceType =>
      some ⟨w.addBatch .caller [languageCode] referenceType, w.initializations⟩
  | .initializeTranslations referenceType => some (w.initializeTranslations referenceType)
  | .startBackgroundTranslationLoading number => w.startBackgroundTranslationLoading number
  | .runLoad index =>
      (w.pool.run (turn clock bundle) index).map fun pool => ⟨pool, w.initializations⟩
  | .clearCachedTranslations languageCode referenceType =>
      some (w.setService (w.service.clearCachedTranslations languageCode referenceType))
  | .clearTranslationCache => some (w.setService w.service.clearTranslationCache)

end TranslationWarmup

def translationWarmup (clock : Clock Date) (bundle : TranslationBundle) :
    Machine TranslationWarmup WarmupAction where
  Init w := w = .initial
  step := TranslationWarmup.step clock bundle

end SkillTalk
