import Mathlib.Data.Set.List
import SkillTalk.Library.TableWrites
import SkillTalk.Proof.TranslationStatus

/-!
# Batches of translation loads

The loads of a batch write the caches under their own keys, and loads of the same language write the
same. So the caches come out as if the languages were loaded one after another, whatever the order
of the turns, and each load hands on one result of its own language.
-/

namespace SkillTalk

open TaskPool

variable {clock : Clock Date} {bundle : TranslationBundle} {referenceType : ReferenceDataType}

/-- The load is of this type, and what it carries along came from the bundle. -/
def LoadTask.Carries (bundle : TranslationBundle) (referenceType : ReferenceDataType)
    (task : LoadTask) : Prop :=
  task.referenceType = referenceType
    ∧ match task.stage with
      | .created => True
      | .reading => True
      | .caching result => ∃ timestamp, bundle.load task.languageCode referenceType timestamp = result
      | .cachingCategories result categories =>
          (∃ timestamp, bundle.load task.languageCode referenceType timestamp = result)
            ∧ result.categories = some categories
      | .marking result => ∃ timestamp, bundle.load task.languageCode referenceType timestamp = result
      | .returning outcome =>
          ∃ timestamp, .ok (bundle.load task.languageCode referenceType timestamp) = outcome

theorem BasicTranslationService.cacheKey_injective (referenceType : ReferenceDataType) :
    Function.Injective fun languageCode =>
      BasicTranslationService.cacheKey languageCode referenceType := by
  intro languageCode languageCode' h
  exact (String.append_left_inj _).mp ((String.append_left_inj _).mp h)

namespace TranslationLoads

theorem carries_turn (loads : TranslationLoads) (task : LoadTask)
    (h : task.Carries bundle referenceType) :
    ∀ next ∈ (loads.turn clock bundle task).2, next.Carries bundle referenceType := by
  obtain ⟨languageCode, referenceType', stage⟩ := task
  obtain ⟨rfl, hstage⟩ := h
  intro next hnext
  cases stage with
  | created => exact Option.some.inj hnext ▸ ⟨rfl, trivial⟩
  | reading => exact Option.some.inj hnext ▸ ⟨rfl, _, rfl⟩
  | caching result =>
      simp only [turn] at hnext
      cases hcategories : result.categories with
      | none =>
          simp only [hcategories] at hnext
          exact Option.some.inj hnext ▸ ⟨rfl, hstage⟩
      | some categories =>
          simp only [hcategories] at hnext
          exact Option.some.inj hnext ▸ ⟨rfl, hstage, hcategories⟩
  | cachingCategories result categories => exact Option.some.inj hnext ▸ ⟨rfl, hstage.1⟩
  | marking result =>
      obtain ⟨timestamp, hresult⟩ := hstage
      exact Option.some.inj hnext ▸ ⟨rfl, timestamp, by rw [hresult]⟩
  | returning outcome => cases hnext

/-- The translations a language's key comes to hold. -/
noncomputable def translationsTarget (bundle : TranslationBundle)
    (referenceType : ReferenceDataType) : String → Option StringDictionary :=
  Function.extend (fun languageCode => BasicTranslationService.cacheKey languageCode referenceType)
    (fun languageCode => some (bundle.load languageCode referenceType 0).translations) fun _ => none

theorem translationsTarget_key (languageCode : String) :
    translationsTarget bundle referenceType
        (BasicTranslationService.cacheKey languageCode referenceType)
      = some (bundle.load languageCode referenceType 0).translations :=
  (BasicTranslationService.cacheKey_injective referenceType).extend_apply _ _ languageCode

theorem writes_translations :
    Writes (turn clock bundle) (LoadTask.Carries bundle referenceType) LoadTask.key
      (fun task => task.stage.cachesLater = true) (translationsTarget bundle referenceType)
      fun loads => loads.service.translationCache where
  valid := carries_turn
  keyed loads task next := key_of_turn
  other loads task k hkey := (turn_of_key_ne clock bundle loads hkey).1
  written loads task _ hstage := by
    obtain ⟨languageCode, referenceType', stage⟩ := task
    cases stage with
    | created => exact absurd rfl hstage
    | reading => exact absurd rfl hstage
    | caching result => exact absurd rfl hstage
    | cachingCategories result categories =>
        simp [turn, BasicTranslationService.cacheCategoryTranslations, LoadStage.cachesLater]
    | marking result =>
        simp [turn, BasicTranslationService.markLoaded, BasicTranslationService.setStatus,
          LoadStage.cachesLater]
    | returning outcome => simp [turn]
  writing loads task hcarries hstage := by
    obtain ⟨languageCode, referenceType', stage⟩ := task
    obtain ⟨rfl, hcarried⟩ := hcarries
    cases stage with
    | created => exact .inl ⟨_, rfl, rfl⟩
    | reading => exact .inl ⟨_, rfl, rfl⟩
    | caching result =>
        obtain ⟨timestamp, hresult⟩ := hcarried
        refine .inr ?_
        dsimp only at hresult
        change _ = translationsTarget _ _ (BasicTranslationService.cacheKey languageCode _)
        rw [translationsTarget_key, (bundle.load_contents languageCode _ 0 timestamp).1, hresult]
        simp [turn, BasicTranslationService.cacheTranslations, LoadTask.key]
    | cachingCategories result categories => cases hstage
    | marking result => cases hstage
    | returning outcome => cases hstage

/-- The load has yet to cache the category translations of its language. -/
def PendingCategories (bundle : TranslationBundle) (task : LoadTask) : Prop :=
  match task.stage with
  | .cachingCategories _ _ => True
  | .marking _ => False
  | .returning _ => False
  | _ => (bundle.load task.languageCode task.referenceType 0).categories ≠ none

/-- The category translations a language's key comes to hold, if it has any. -/
noncomputable def categoriesTarget (bundle : TranslationBundle)
    (referenceType : ReferenceDataType) : String → Option StringDictionary :=
  Function.extend
    (fun languageCode => BasicTranslationService.categoryKey
      (BasicTranslationService.cacheKey languageCode referenceType))
    (fun languageCode => (bundle.load languageCode referenceType 0).categories) fun _ => none

theorem categoriesTarget_key (languageCode : String) :
    categoriesTarget bundle referenceType (BasicTranslationService.categoryKey
        (BasicTranslationService.cacheKey languageCode referenceType))
      = (bundle.load languageCode referenceType 0).categories :=
  (categoryKey_injective.comp
    (BasicTranslationService.cacheKey_injective referenceType)).extend_apply _ _ languageCode

theorem writes_categories :
    Writes (turn clock bundle) (LoadTask.Carries bundle referenceType)
      (fun task => BasicTranslationService.categoryKey task.key) (PendingCategories bundle)
      (categoriesTarget bundle referenceType) fun loads => loads.service.categoryCache where
  valid := carries_turn
  keyed loads task next hnext := congrArg _ (key_of_turn hnext)
  other loads task k hkey := categoryCache_turn_of_ne clock bundle loads hkey
  written loads task hcarries hpending := by
    obtain ⟨languageCode, referenceType', stage⟩ := task
    obtain ⟨rfl, hcarried⟩ := hcarries
    cases stage with
    | created =>
        refine ⟨rfl, fun next hnext => ?_⟩
        exact Option.some.inj hnext ▸ hpending
    | reading =>
        refine ⟨rfl, fun next hnext => ?_⟩
        exact Option.some.inj hnext ▸ hpending
    | caching result =>
        obtain ⟨timestamp, hresult⟩ := hcarried
        have hnone : result.categories = none := by
          rw [← hresult, (bundle.load_contents languageCode _ timestamp 0).2]
          exact not_not.mp hpending
        refine ⟨rfl, fun next hnext => ?_⟩
        simp only [turn, hnone] at hnext
        exact Option.some.inj hnext ▸ id
    | cachingCategories result categories => exact absurd trivial hpending
    | marking result =>
        refine ⟨rfl, fun next hnext => ?_⟩
        exact Option.some.inj hnext ▸ id
    | returning outcome => simp [turn]
  writing loads task hcarries hpending := by
    obtain ⟨languageCode, referenceType', stage⟩ := task
    obtain ⟨rfl, hcarried⟩ := hcarries
    cases stage with
    | created => exact .inl ⟨_, rfl, hpending⟩
    | reading => exact .inl ⟨_, rfl, hpending⟩
    | caching result =>
        obtain ⟨timestamp, hresult⟩ := hcarried
        have hsome : result.categories ≠ none := by
          rw [← hresult, (bundle.load_contents languageCode _ timestamp 0).2]
          exact hpending
        obtain ⟨categories, hcategories⟩ := Option.ne_none_iff_exists'.mp hsome
        exact .inl ⟨⟨languageCode, referenceType', .cachingCategories result categories⟩,
          by simp [turn, hcategories], trivial⟩
    | cachingCategories result categories =>
        obtain ⟨⟨timestamp, hresult⟩, hcategories⟩ := hcarried
        refine .inr ?_
        dsimp only at hresult
        change _ = categoriesTarget _ _ (BasicTranslationService.categoryKey
          (BasicTranslationService.cacheKey languageCode _))
        rw [categoriesTarget_key, (bundle.load_contents languageCode _ 0 timestamp).2, hresult,
          hcategories]
        simp [turn, BasicTranslationService.cacheCategoryTranslations, LoadTask.key]
    | marking result => cases hpending
    | returning outcome => cases hpending

theorem writes_loaded :
    Writes (turn clock bundle) (LoadTask.Carries bundle referenceType) LoadTask.key
      (fun task => ∀ outcome, task.stage ≠ .returning outcome) (fun _ => True)
      fun loads key => Loaded key loads where
  valid := carries_turn
  keyed loads task next := key_of_turn
  other loads task k hkey := by simp only [Loaded, (turn_of_key_ne clock bundle loads hkey).2.2]
  written loads task _ hreturning := by
    obtain ⟨languageCode, referenceType', stage⟩ := task
    cases stage with
    | returning outcome =>
        exact ⟨rfl, fun next hnext => absurd hnext.symm (Option.some_ne_none next)⟩
    | _ => exact absurd (fun _ => LoadStage.noConfusion) hreturning
  writing loads task _ hreturning := by
    obtain ⟨languageCode, referenceType', stage⟩ := task
    cases stage with
    | created => exact .inl ⟨_, rfl, by simp⟩
    | reading => exact .inl ⟨_, rfl, by simp⟩
    | caching result =>
        refine .inl ?_
        simp only [turn]
        split <;> exact ⟨_, rfl, by simp⟩
    | cachingCategories result categories => exact .inl ⟨_, rfl, by simp⟩
    | marking result =>
        refine .inr (eq_true ?_)
        simp [Loaded, turn, BasicTranslationService.markLoaded, BasicTranslationService.setStatus,
          LoadTask.key]
    | returning outcome => exact absurd rfl (hreturning outcome)

/-! ### What the loads hand on -/

def returnedLanguage (outcome : Except String TranslationLoadResult) : Except String String :=
  outcome.map TranslationLoadResult.languageCode

def askedLanguage (task : LoadTask) : Except String String := .ok task.languageCode

theorem returned_turn (loads : TranslationLoads) (task : LoadTask)
    (h : task.Carries bundle referenceType) :
    ((loads.turn clock bundle task).1.returned.map returnedLanguage
        ++ (loads.turn clock bundle task).2.toList.map askedLanguage).Perm
      (loads.returned.map returnedLanguage ++ [askedLanguage task]) := by
  obtain ⟨languageCode, referenceType', stage⟩ := task
  obtain ⟨rfl, hcarried⟩ := h
  cases stage with
  | caching result =>
      cases hcategories : result.categories <;> simp [turn, hcategories, askedLanguage]
  | returning outcome =>
      obtain ⟨timestamp, houtcome⟩ := hcarried
      have hlanguage : returnedLanguage outcome = .ok languageCode := by
        rw [← houtcome]
        exact congrArg Except.ok (bundle.languageCode_load languageCode _ timestamp)
      simp [turn, hlanguage, askedLanguage]
  | _ => simp [turn, BasicTranslationService.loadTranslationsFromBundle, askedLanguage]

end TranslationLoads

open TranslationLoads

namespace BasicTranslationService

variable (clock bundle) in
/-- The languages loaded one after another. -/
def loadOneByOne (s : BasicTranslationService) (languageCodes : List String)
    (referenceType : ReferenceDataType) : BasicTranslationService :=
  languageCodes.foldl
    (fun t languageCode => (t.loadTranslations clock bundle languageCode referenceType).2) s

def loadedKeys (s : BasicTranslationService) : Set String :=
  {key | ∃ date, s.loadingStatus key = some (.loaded date)}

end BasicTranslationService

namespace TranslationCalls

variable {s : BasicTranslationService} {languageCodes : List String} {start p q : TranslationCalls}
  {indices : List ℕ}

/-- The turns of a load with none of another in between are a call of `loadTranslations`. -/
theorem exec_loadTranslations (clock : Clock Date) (bundle : TranslationBundle)
    (start : TranslationCalls) (s : BasicTranslationService)
    (returned : List (Except String TranslationLoadResult)) (languageCode : String)
    (referenceType : ReferenceDataType) (tasks : List LoadTask) :
    ∃ indices, (machine (turn clock bundle) start).exec
        ⟨⟨s, returned⟩, ⟨languageCode, referenceType, .created⟩ :: tasks⟩ indices
      = some ⟨⟨(s.loadTranslations clock bundle languageCode referenceType).2,
          returned ++ [(s.loadTranslations clock bundle languageCode referenceType).1]⟩, tasks⟩ := by
  cases hcategories :
      (bundle.load languageCode referenceType (clock.reading s.reads)).categories with
  | none =>
      refine ⟨[0, 0, 0, 0, 0], ?_⟩
      simp [Machine.exec, machine, run, turn, BasicTranslationService.loadTranslations,
        BasicTranslationService.loadTranslationsFromBundle, BasicTranslationService.startLoading,
        BasicTranslationService.setStatus, hcategories]
  | some categories =>
      refine ⟨[0, 0, 0, 0, 0, 0], ?_⟩
      simp [Machine.exec, machine, run, turn, BasicTranslationService.loadTranslations,
        BasicTranslationService.loadTranslationsFromBundle, BasicTranslationService.startLoading,
        BasicTranslationService.setStatus, hcategories]

/-- Loading one language after another is one of the runs of the batch. -/
theorem exec_loadOneByOne (clock : Clock Date) (bundle : TranslationBundle)
    (start : TranslationCalls) (s : BasicTranslationService)
    (returned : List (Except String TranslationLoadResult)) (languageCodes : List String)
    (referenceType : ReferenceDataType) :
    ∃ indices returned', (machine (turn clock bundle) start).exec
        ⟨⟨s, returned⟩, languageCodes.map fun languageCode => ⟨languageCode, referenceType, .created⟩⟩
        indices
      = some ⟨⟨s.loadOneByOne clock bundle languageCodes referenceType, returned'⟩, []⟩ := by
  induction languageCodes generalizing s returned with
  | nil => exact ⟨[], returned, rfl⟩
  | cons languageCode languageCodes ih =>
      obtain ⟨first, hfirst⟩ := exec_loadTranslations clock bundle start s
        returned languageCode referenceType
        (languageCodes.map fun languageCode => ⟨languageCode, referenceType, .created⟩)
      obtain ⟨rest, returned', hrest⟩ := ih
        (s.loadTranslations clock bundle languageCode referenceType).2
        (returned ++ [(s.loadTranslations clock bundle languageCode referenceType).1])
      refine ⟨first ++ rest, returned', ?_⟩
      rw [Machine.exec_append, List.map_cons, hfirst]
      exact hrest

theorem carries_of_init
    (hstart : (loadBatchTranslations clock bundle s languageCodes referenceType).Init start) :
    ∀ task ∈ start.tasks, task.Carries bundle referenceType := by
  obtain rfl := hstart
  intro task hmem
  obtain ⟨languageCode, -, htask⟩ := List.mem_map.mp hmem
  exact htask ▸ ⟨rfl, trivial⟩

theorem returned_run {index : ℕ}
    (hcarries : ∀ task ∈ p.tasks, task.Carries bundle referenceType)
    (h : p.run (turn clock bundle) index = some q) :
    (q.shared.returned.map returnedLanguage ++ q.tasks.map askedLanguage).Perm
      (p.shared.returned.map returnedLanguage ++ p.tasks.map askedLanguage) :=
  perm_of_run (fun loads => loads.returned.map returnedLanguage) h fun task hmem =>
    returned_turn p.shared task (hcarries task hmem)

theorem returned_exec
    (hcarries : ∀ task ∈ p.tasks, task.Carries bundle referenceType)
    (h : (machine (turn clock bundle) start).exec p indices = some q) :
    (q.shared.returned.map returnedLanguage ++ q.tasks.map askedLanguage).Perm
      (p.shared.returned.map returnedLanguage ++ p.tasks.map askedLanguage) :=
  Machine.exec_relates
    (fun p q => (q.shared.returned.map returnedLanguage ++ q.tasks.map askedLanguage).Perm
      (p.shared.returned.map returnedLanguage ++ p.tasks.map askedLanguage))
    (fun p => ∀ task ∈ p.tasks, task.Carries bundle referenceType) (fun _ => .refl _)
    (fun _ _ _ hfirst hrest => hrest.trans hfirst)
    (fun _ _ _ hstep hcarries => writes_translations.valid_run hcarries hstep)
    (fun _ _ _ hstep hcarries => returned_run hcarries hstep) h hcarries

/-- What was returned for these languages is results, none of it an error. -/
theorem exists_results {loads : TranslationLoads}
    (h : (loads.returned.map returnedLanguage).Perm (languageCodes.map .ok)) :
    ∃ results : List TranslationLoadResult, loads.results = .ok results
      ∧ (results.map TranslationLoadResult.languageCode).Perm languageCodes := by
  have hrange : loads.returned ∈ Set.range (List.map Except.ok) := by
    rw [Set.range_list_map]
    intro outcome hmem
    have hlanguage : returnedLanguage outcome ∈ languageCodes.map Except.ok :=
      h.subset (List.mem_map_of_mem hmem)
    cases outcome with
    | ok result => exact ⟨result, rfl⟩
    | error description => simp [returnedLanguage, Except.map] at hlanguage
  obtain ⟨results, hresults⟩ := hrange
  refine ⟨results, ?_, ?_⟩
  · rw [TranslationLoads.results, ← hresults, List.mapM_map]
    exact (List.mapM_pure (f := id)).trans (by simp; rfl)
  · rw [← hresults, List.map_map] at h
    have hok : ((results.map TranslationLoadResult.languageCode).map (Except.ok (ε := String))).Perm
        (languageCodes.map Except.ok) := by
      rw [List.map_map]
      exact h
    exact (List.map_perm_map_iff fun _ _ h => Except.ok.inj h).mp hok

theorem weight_of_init
    (hstart : (loadBatchTranslations clock bundle s languageCodes referenceType).Init start) :
    start.weight turnsLeft = 6 * languageCodes.length := by
  obtain rfl := hstart
  have hconst : turnsLeft ∘ (fun languageCode => ⟨languageCode, referenceType, .created⟩)
      = fun _ : String => 6 := rfl
  rw [weight, List.map_map, hconst, List.map_const', List.sum_replicate_nat, Nat.mul_comm]

/-- **A batch is complete and does not depend on the order of its turns.** It ends after at most six
turns a language and gets stuck before its end nowhere. It returns one result for each language
asked for, repeated ones included, and leaves the caches and the loaded statuses as loading one
language after another does. -/
theorem loadBatchTranslations_complete (clock : Clock Date) (bundle : TranslationBundle)
    (s : BasicTranslationService) (languageCodes : List String) (referenceType : ReferenceDataType)
    (start : TranslationCalls)
    (hstart : (loadBatchTranslations clock bundle s languageCodes referenceType).Init start)
    (indices : List ℕ) (p : TranslationCalls)
    (hexec : (loadBatchTranslations clock bundle s languageCodes referenceType).exec start indices
      = some p) :
    indices.length ≤ 6 * languageCodes.length
      ∧ (p.tasks ≠ [] → ∃ q,
          (loadBatchTranslations clock bundle s languageCodes referenceType).step p 0 = some q)
      ∧ (p.tasks = [] →
          (∃ results, p.shared.results = .ok results
              ∧ (results.map TranslationLoadResult.languageCode).Perm languageCodes)
            ∧ p.shared.service.translationCache
              = (s.loadOneByOne clock bundle languageCodes referenceType).translationCache
            ∧ p.shared.service.categoryCache
              = (s.loadOneByOne clock bundle languageCodes referenceType).categoryCache
            ∧ p.shared.service.loadedKeys
              = (s.loadOneByOne clock bundle languageCodes referenceType).loadedKeys) := by
  have hcarries : ∀ task ∈ start.tasks, task.Carries bundle referenceType :=
    carries_of_init hstart
  refine ⟨?_, fun htasks => exists_run (turn clock bundle) htasks, fun htasks => ?_⟩
  · have hlength := length_add_weight_le (turnsLeft_turn clock bundle) hexec
    rw [weight_of_init hstart] at hlength
    omega
  · obtain ⟨sequence, returned, hsequence⟩ := exec_loadOneByOne clock bundle start s []
      languageCodes referenceType
    obtain rfl := hstart
    refine ⟨exists_results ?_, ?_, ?_, ?_⟩
    · have hreturned := returned_exec hcarries hexec
      simpa [htasks, askedLanguage, Function.comp_def] using hreturned
    · exact writes_translations.table_eq_of_finished hcarries hexec hsequence htasks rfl
    · exact writes_categories.table_eq_of_finished hcarries hexec hsequence htasks rfl
    · exact writes_loaded.table_eq_of_finished hcarries hexec hsequence htasks rfl

/-- Swedish is asked for twice, and the last task is always ahead of the others. -/
theorem loadBatchTranslations_complete_of_repeated :
    let clock := Clock.ofGaps []
    let languageCodes := ["sv", "de", "sv"]
    let batch := loadBatchTranslations clock nurseBundle .initial languageCodes .occupations
    ∃ start p, batch.Init start
      ∧ batch.exec start [2, 1, 0, 2, 1, 0, 2, 1, 0, 2, 1, 0, 2, 0, 0] = some p
      ∧ p.tasks = []
      ∧ (∃ results, p.shared.results = .ok results
          ∧ (results.map TranslationLoadResult.languageCode).Perm languageCodes)
      ∧ p.shared.service.translationCache
        = (BasicTranslationService.initial.loadOneByOne clock nurseBundle languageCodes
          .occupations).translationCache := by
  intro clock languageCodes batch
  obtain ⟨p, hexec, -, hend⟩ : ∃ p, batch.exec
        ⟨⟨.initial, []⟩, [⟨"sv", .occupations, .created⟩, ⟨"de", .occupations, .created⟩,
          ⟨"sv", .occupations, .created⟩]⟩
        [2, 1, 0, 2, 1, 0, 2, 1, 0, 2, 1, 0, 2, 0, 0] = some p
      ∧ batch.Reachable p ∧ p.tasks.isEmpty = true :=
    Machine.exists_reachableWhere rfl _ (by decide +kernel) (by decide +kernel)
  have htasks : p.tasks = [] := List.isEmpty_iff.mp hend
  obtain ⟨-, -, hcomplete⟩ := loadBatchTranslations_complete clock nurseBundle .initial languageCodes
    .occupations _ rfl _ p hexec
  exact ⟨_, p, rfl, hexec, htasks, (hcomplete htasks).1, (hcomplete htasks).2.1⟩

end TranslationCalls

end SkillTalk
