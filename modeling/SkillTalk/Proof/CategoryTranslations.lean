import SkillTalk.Library.CacheEntries
import SkillTalk.Library.JoinedText
import SkillTalk.Proof.BatchTranslations
import SkillTalk.Proof.OccupationTranslations

/-!
# Translations of categories

A load puts the categories of its file into a cache of their own. Occupations look for their
categories in the cache of names, which holds what the file has under the occupations.
-/

namespace SkillTalk

open BasicTranslationService CacheEntries TaskPool

variable {clock : Clock Date} {bundle : TranslationBundle}

theorem referenceType_rawValue_injective : Function.Injective ReferenceDataType.rawValue := by
  intro referenceType referenceType' h
  cases referenceType <;> cases referenceType' <;> first | rfl | exact absurd h (by decide)

theorem not_mem_rawValue (referenceType : ReferenceDataType) :
    '-' ∉ referenceType.rawValue.toList := by
  cases referenceType <;> decide

/-- No type has the hyphen that joins it to the language. -/
theorem cacheKey_inj {languageCode languageCode' : String}
    {referenceType referenceType' : ReferenceDataType}
    (h : cacheKey languageCode referenceType = cacheKey languageCode' referenceType') :
    languageCode = languageCode' ∧ referenceType = referenceType' := by
  obtain ⟨hlanguage, htype⟩ := JoinedText.string_inj_of_not_mem_last rfl
    (not_mem_rawValue referenceType) (not_mem_rawValue referenceType') h
  exact ⟨hlanguage, referenceType_rawValue_injective htype⟩

/-- The names under a key are those of its language and type. -/
def NamesOf (bundle : TranslationBundle) (key : String) (names : StringDictionary) : Prop :=
  ∃ languageCode referenceType, key = cacheKey languageCode referenceType
    ∧ names = (bundle.load languageCode referenceType 0).translations

namespace TranslationCalls

/-- Whatever is cached or on its way to the cache came from the bundle. -/
structure FromBundle (bundle : TranslationBundle) (p : TranslationCalls) : Prop where
  names : AllEntries (NamesOf bundle) p.shared.service.translationCache
  carries : ∀ task ∈ p.tasks, task.Carries bundle task.referenceType

theorem allEntries_turn {loads : TranslationLoads} {task : LoadTask}
    (hnames : AllEntries (NamesOf bundle) loads.service.translationCache)
    (hcarries : task.Carries bundle task.referenceType) :
    AllEntries (NamesOf bundle) (loads.turn clock bundle task).1.service.translationCache := by
  obtain ⟨languageCode, referenceType, stage⟩ := task
  cases stage with
  | caching result =>
      obtain ⟨-, timestamp, hresult⟩ := hcarries
      dsimp only at hresult
      refine hnames.insert ⟨languageCode, referenceType, rfl, ?_⟩
      rw [(bundle.load_contents languageCode referenceType 0 timestamp).1, hresult]
  | _ => exact hnames

theorem FromBundle.run {p q : TranslationCalls} {index : ℕ} (hp : FromBundle bundle p)
    (hrun : p.run (TranslationLoads.turn clock bundle) index = some q) : FromBundle bundle q := by
  obtain ⟨task, htask, hshared, hbefore, hafter⟩ := exists_of_run hrun
  have hcarries : task.Carries bundle task.referenceType :=
    hp.carries task (List.mem_of_getElem? htask)
  constructor
  · rw [hshared]
    exact allEntries_turn hp.names hcarries
  · intro other hother
    rcases (hafter other).mp hother with hnext | hother
    · have hcarried := TranslationLoads.carries_turn p.shared task hcarries other hnext
      exact hcarried.1 ▸ hcarried
    · exact hp.carries other ((hbefore other).mpr (.inr hother))

theorem fromBundle_of_reachable {p : TranslationCalls}
    (hp : (translationService clock bundle).Reachable p) : FromBundle bundle p := by
  refine Machine.ReachableWhere.invariant (FromBundle bundle) ?_ ?_ hp
  · rintro p rfl
    refine ⟨.empty, ?_⟩
    intro task htask
    cases htask
  · intro p action q _ hp _ hstep
    cases action with
    | loadTranslations languageCode referenceType =>
        refine Option.some.inj hstep ▸ ⟨hp.names, List.forall_mem_append.mpr ⟨hp.carries, ?_⟩⟩
        exact List.forall_mem_singleton.mpr ⟨rfl, trivial⟩
    | runLoad index => exact hp.run hstep
    | clearCachedTranslations languageCode referenceType =>
        exact Option.some.inj hstep ▸ ⟨hp.names.erase _, hp.carries⟩
    | clearTranslationCache => exact Option.some.inj hstep ▸ ⟨.empty, hp.carries⟩

/-- What is cached for a language and type is what the bundle has for them. -/
theorem FromBundle.getCachedTranslations {p : TranslationCalls} (hp : FromBundle bundle p)
    {languageCode : String} {referenceType : ReferenceDataType} {names : StringDictionary}
    (hcached : p.shared.service.getCachedTranslations languageCode referenceType = some names) :
    names = (bundle.load languageCode referenceType 0).translations := by
  obtain ⟨languageCode', referenceType', hkey, hnames⟩ := hp.names _ names hcached
  obtain ⟨rfl, rfl⟩ := cacheKey_inj hkey
  exact hnames

end TranslationCalls

namespace OccupationsDatabase

open TranslationCalls

variable {lowercased : String → String} {currentLanguage : String}

/-- A load returns, and caches the names of its file. -/
theorem exists_loadTranslations (clock : Clock Date) (bundle : TranslationBundle)
    (s : BasicTranslationService) (languageCode : String) (referenceType : ReferenceDataType) :
    ∃ result t, s.loadTranslations clock bundle languageCode referenceType = (.ok result, t)
      ∧ t.getCachedTranslations languageCode referenceType
        = some (bundle.load languageCode referenceType 0).translations := by
  refine ⟨_, _, rfl, ?_⟩
  rw [(bundle.load_contents languageCode referenceType 0 (clock.reading s.reads)).1]
  cases (bundle.load languageCode referenceType
      (clock.reading (s.startLoading languageCode referenceType).reads)).categories <;>
    simp [getCachedTranslations, markLoaded, setStatus, cacheCategoryTranslations,
      cacheTranslations, startLoading]

variable (clock lowercased currentLanguage) in
/-- Cached or loaded, the names are those of the language's file. -/
theorem getAllOccupationsWithTranslations_eq {p : TranslationCalls} (hp : FromBundle bundle p)
    (occupations : List OccupationModel) (languageCode : Option String) :
    let language := languageCode.getD currentLanguage
    ∃ t, getAllOccupationsWithTranslations clock bundle lowercased occupations currentLanguage
        p.shared.service languageCode
      = (.ok (occupations.map
          (translated lowercased language
            (bundle.load language .occupations 0).translations)), t) := by
  intro language
  by_cases hcached : p.shared.service.isTranslationCached language .occupations = true
  · obtain ⟨names, hnames⟩ := Option.isSome_iff_exists.mp hcached
    have hfile := hp.getCachedTranslations hnames
    refine ⟨p.shared.service, ?_⟩
    rw [getAllOccupationsWithTranslations_of_cached lowercased clock bundle currentLanguage
      languageCode hnames, hfile]
  · obtain ⟨result, t, hload, hnames⟩ :=
      exists_loadTranslations clock bundle p.shared.service language .occupations
    refine ⟨t, ?_⟩
    rw [getAllOccupationsWithTranslations, if_neg hcached, hload]
    exact congrArg (fun occupations => (Except.ok occupations, t))
      (applyServerTranslations_of_cached lowercased hnames occupations)

/-- An entry of the table. -/
structure OccupationEntry where
  id : String
  englishName : String
  englishCategory : String

/-- The table's occupations come without translations. -/
def OccupationEntry.model (entry : OccupationEntry) : OccupationModel :=
  .make entry.id entry.englishName entry.englishCategory none none false

/-- The category is shown as these categories translate it, or else in English. -/
def ShowsCategory (lowercased : String → String) (language : String)
    (categories : StringDictionary) (occupation : OccupationModel) : Prop :=
  occupation.localizedCategory language
    = (categories.lookup (lowercased occupation.englishCategory)).getD occupation.englishCategory

/-- What the file has for the category among the occupations and among the categories is the same;
what it does not have counts as English. -/
def FileAgrees (lowercased : String → String) (names categories : StringDictionary)
    (englishCategory : String) : Prop :=
  (names.lookup (lowercased englishCategory)).getD englishCategory
    = (categories.lookup (lowercased englishCategory)).getD englishCategory

theorem showsCategory_translated_iff {language : String} {names categories : StringDictionary}
    (entry : OccupationEntry) :
    ShowsCategory lowercased language categories (translated lowercased language names entry.model)
      ↔ FileAgrees lowercased names categories entry.englishCategory := by
  rw [ShowsCategory, localizedCategory_translated]
  exact Iff.rfl

theorem translations_of_file {language : String}
    {entries : String → Option StringDictionary}
    (hfile : bundle.url language .occupations = some (.dictionary entries)) :
    (bundle.load language .occupations 0).translations = (entries "occupations").getD ∅ := by
  rw [TranslationBundle.load, hfile]
  rfl

/-- **Category translations reach the models exactly when the file has them twice**, among the
categories and among the occupations. -/
theorem category_translations_reach_iff (clock : Clock Date) (bundle : TranslationBundle)
    (lowercased : String → String)
    (table : List OccupationEntry) (currentLanguage : String) {p : TranslationCalls}
    (hp : (translationService clock bundle).Reachable p) (languageCode : Option String)
    {entries : String → Option StringDictionary}
    (hfile : bundle.url (languageCode.getD currentLanguage) .occupations
      = some (.dictionary entries)) :
    ∃ occupations t, getAllOccupationsWithTranslations clock bundle lowercased
          (table.map OccupationEntry.model) currentLanguage p.shared.service languageCode
        = (.ok occupations, t)
      ∧ ∀ categories, entries "categories" = some categories →
          ((∀ occupation ∈ occupations,
            ShowsCategory lowercased (languageCode.getD currentLanguage) categories occupation)
          ↔ ∀ entry ∈ table, FileAgrees lowercased ((entries "occupations").getD ∅) categories
              entry.englishCategory) := by
  obtain ⟨t, hall⟩ := getAllOccupationsWithTranslations_eq clock lowercased currentLanguage
    (fromBundle_of_reachable hp) (table.map OccupationEntry.model) languageCode
  refine ⟨_, t, hall, ?_⟩
  intro categories _
  rw [translations_of_file hfile, List.map_map, List.forall_mem_map]
  exact forall₂_congr fun entry _ => showsCategory_translated_iff entry

/-- The Swedish file has a name for the nurse and for her category. -/
def careBundle (names : StringDictionary) : TranslationBundle := fun resource subdirectory =>
  if resource = "occupations_sv" ∧ subdirectory = "translations" then
    some (.dictionary fun entry =>
      if entry = "occupations" then some names
      else if entry = "categories" then some (Finmap.singleton "healthcare" "vård")
      else none)
  else none

def nurseTable : List OccupationEntry := [⟨"nurse", "Nurse", "Healthcare"⟩]

/-- The category stands among the occupations too. -/
theorem category_translations_reach_of_both :
    let names := (Finmap.singleton "nurse" "sjuksköterska").insert "healthcare" "vård"
    ∃ occupations t, getAllOccupationsWithTranslations (Clock.ofGaps []) (careBundle names)
          String.toLower (nurseTable.map OccupationEntry.model) "sv" .initial none
        = (.ok occupations, t)
      ∧ ∀ occupation ∈ occupations,
          ShowsCategory String.toLower "sv" (Finmap.singleton "healthcare" "vård") occupation := by
  intro names
  obtain ⟨occupations, t, hall, hiff⟩ := category_translations_reach_iff (Clock.ofGaps [])
    (careBundle names) String.toLower nurseTable "sv" (p := ⟨⟨.initial, []⟩, []⟩) (.init rfl) none
    rfl
  refine ⟨occupations, t, hall, (hiff _ rfl).mpr (List.forall_mem_singleton.mpr ?_)⟩
  rw [FileAgrees]
  decide +kernel

/-- With the category among the categories only, it is shown in English. -/
theorem category_shown_in_english :
    ∃ occupations t, getAllOccupationsWithTranslations (Clock.ofGaps [])
          (careBundle (Finmap.singleton "nurse" "sjuksköterska")) String.toLower
          (nurseTable.map OccupationEntry.model) "sv" .initial none = (.ok occupations, t)
      ∧ ¬ ∀ occupation ∈ occupations,
          ShowsCategory String.toLower "sv" (Finmap.singleton "healthcare" "vård") occupation := by
  refine ⟨[translated String.toLower "sv" (Finmap.singleton "nurse" "sjuksköterska")
    (OccupationEntry.model ⟨"nurse", "Nurse", "Healthcare"⟩)], _, rfl, ?_⟩
  rw [List.forall_mem_singleton, showsCategory_translated_iff, FileAgrees]
  decide +kernel

end OccupationsDatabase

end SkillTalk
