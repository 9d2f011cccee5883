import SkillTalk.BasicTranslationService

/-!
# Translation status and translation cache

A load fills the cache before it marks its key loaded. A clear in between empties the cache again,
and the mark then stands for nothing, unless another load of the key has yet to fill the cache. A
key cleared otherwise is cached when its status is loaded. A key that is not loaded has nothing
cached in any run, since whatever load fills its caches marks it afterwards.
-/

namespace SkillTalk

open TaskPool

def LoadTask.key (task : LoadTask) : String :=
  BasicTranslationService.cacheKey task.languageCode task.referenceType

/-- The load has yet to cache its translations. -/
def LoadStage.cachesLater : LoadStage → Bool
  | .created => true
  | .reading => true
  | .caching _ => true
  | _ => false

/-- The load has cached its translations and has yet to mark them loaded. -/
def LoadStage.hasCached : LoadStage → Bool
  | .cachingCategories _ _ => true
  | .marking _ => true
  | _ => false

/-- The load has started and has yet to mark its translations loaded. -/
def LoadStage.marksLater : LoadStage → Bool
  | .created => false
  | .returning _ => false
  | _ => true

namespace TranslationLoads

variable {clock : Clock Date} {bundle : TranslationBundle} {key : String}

theorem categoryKey_injective : Function.Injective BasicTranslationService.categoryKey :=
  fun _ _ h => (String.append_left_inj _).mp h

theorem categoryCache_turn_of_ne (clock : Clock Date) (bundle : TranslationBundle)
    (loads : TranslationLoads) {task : LoadTask} {k : String}
    (hk : BasicTranslationService.categoryKey task.key ≠ k) :
    (loads.turn clock bundle task).1.service.categoryCache k = loads.service.categoryCache k := by
  obtain ⟨languageCode, referenceType, stage⟩ := task
  have hne : k ≠ BasicTranslationService.categoryKey
      (BasicTranslationService.cacheKey languageCode referenceType) := Ne.symm hk
  cases stage with
  | cachingCategories result categories =>
      simp [turn, BasicTranslationService.cacheCategoryTranslations, Function.update_of_ne hne]
  | _ => rfl

/-- A turn touches the entries of its own key only. -/
theorem turn_of_key_ne (clock : Clock Date) (bundle : TranslationBundle) (loads : TranslationLoads)
    {task : LoadTask} (hkey : task.key ≠ key) :
    (loads.turn clock bundle task).1.service.translationCache key
        = loads.service.translationCache key
      ∧ (loads.turn clock bundle task).1.service.categoryCache
          (BasicTranslationService.categoryKey key)
        = loads.service.categoryCache (BasicTranslationService.categoryKey key)
      ∧ (loads.turn clock bundle task).1.service.loadingStatus key
        = loads.service.loadingStatus key := by
  have hcategory := categoryCache_turn_of_ne clock bundle loads
    (categoryKey_injective.ne hkey)
  obtain ⟨languageCode, referenceType, stage⟩ := task
  have hne : key ≠ BasicTranslationService.cacheKey languageCode referenceType := Ne.symm hkey
  refine ⟨?_, hcategory, ?_⟩ <;> cases stage <;>
    simp [turn, BasicTranslationService.startLoading, BasicTranslationService.setStatus,
      BasicTranslationService.loadTranslationsFromBundle,
      BasicTranslationService.cacheTranslations,
      BasicTranslationService.cacheCategoryTranslations, BasicTranslationService.markLoaded,
      Function.update_of_ne hne]

theorem key_of_turn {loads : TranslationLoads} {task next : LoadTask}
    (h : next ∈ (loads.turn clock bundle task).2) : next.key = task.key := by
  obtain ⟨languageCode, referenceType, stage⟩ := task
  cases stage with
  | caching result =>
      simp only [turn] at h
      split at h <;> exact Option.some.inj h ▸ rfl
  | returning outcome => cases h
  | _ => exact Option.some.inj h ▸ rfl

/-- The load is one of the key and has come to a stage of this kind. -/
def InPhase (phase : LoadStage → Bool) (key : String) (_ : TranslationLoads) (task : LoadTask) :
    Prop :=
  task.key = key ∧ phase task.stage = true

theorem not_inPhase_of_turn {loads : TranslationLoads} {task : LoadTask} (hkey : task.key ≠ key)
    (phase : LoadStage → Bool) :
    ¬ ∃ next ∈ (loads.turn clock bundle task).2,
      InPhase phase key (loads.turn clock bundle task).1 next := by
  rintro ⟨next, hnext, hphase⟩
  exact hkey ((key_of_turn hnext).symm.trans hphase.1)

def Cached (key : String) (loads : TranslationLoads) : Prop :=
  loads.service.translationCache key ≠ none

def Loaded (key : String) (loads : TranslationLoads) : Prop :=
  ∃ date, loads.service.loadingStatus key = some (.loaded date)

/-- Its status says that the key is not loaded only if nothing is cached for it. -/
def EmptyUnlessLoaded (key : String) (loads : TranslationLoads) : Prop :=
  (loads.service.loadingStatus key).getD .notLoaded = .notLoaded →
    loads.service.translationCache key = none
      ∧ loads.service.categoryCache (BasicTranslationService.categoryKey key) = none

/-- Loads neither empty the cache nor forget to fill it. -/
theorem cached_turn_iff (loads : TranslationLoads) (task : LoadTask) :
    (Cached key (loads.turn clock bundle task).1
        ∨ ∃ next ∈ (loads.turn clock bundle task).2,
          InPhase LoadStage.cachesLater key (loads.turn clock bundle task).1 next)
      ↔ (Cached key loads ∨ InPhase LoadStage.cachesLater key loads task) := by
  by_cases hkey : task.key = key
  · obtain ⟨languageCode, referenceType, stage⟩ := task
    subst hkey
    cases stage with
    | created => simp [InPhase, turn, LoadStage.cachesLater, LoadTask.key]
    | reading =>
        simp [InPhase, turn, LoadStage.cachesLater,
          BasicTranslationService.loadTranslationsFromBundle, LoadTask.key]
    | caching result =>
        simp [Cached, InPhase, turn, LoadStage.cachesLater,
          BasicTranslationService.cacheTranslations, LoadTask.key]
    | cachingCategories result categories =>
        simp [Cached, InPhase, turn, LoadStage.cachesLater,
          BasicTranslationService.cacheCategoryTranslations]
    | marking result =>
        simp [Cached, InPhase, turn, LoadStage.cachesLater, BasicTranslationService.markLoaded,
          BasicTranslationService.setStatus]
    | returning outcome => simp [Cached, InPhase, turn, LoadStage.cachesLater]
  · have hcache := (turn_of_key_ne clock bundle loads hkey).1
    rw [or_iff_left (not_inPhase_of_turn hkey _), Cached, hcache]
    exact (or_iff_left fun hphase => hkey hphase.1).symm

/-- A load that has cached its translations goes on to mark them loaded. -/
theorem loaded_turn_iff {loads : TranslationLoads} {task : LoadTask}
    (h : ¬ InPhase LoadStage.cachesLater key loads task) :
    (Loaded key (loads.turn clock bundle task).1
        ∨ ∃ next ∈ (loads.turn clock bundle task).2,
          InPhase LoadStage.hasCached key (loads.turn clock bundle task).1 next)
      ↔ (Loaded key loads ∨ InPhase LoadStage.hasCached key loads task) := by
  by_cases hkey : task.key = key
  · obtain ⟨languageCode, referenceType, stage⟩ := task
    subst hkey
    cases stage with
    | created => simp [InPhase, LoadStage.cachesLater] at h
    | reading => simp [InPhase, LoadStage.cachesLater] at h
    | caching result => simp [InPhase, LoadStage.cachesLater] at h
    | cachingCategories result categories =>
        simp [InPhase, turn, LoadStage.hasCached, LoadTask.key]
    | marking result =>
        simp [Loaded, InPhase, turn, LoadStage.hasCached, BasicTranslationService.markLoaded,
          BasicTranslationService.setStatus, LoadTask.key]
    | returning outcome => simp [Loaded, InPhase, turn, LoadStage.hasCached]
  · have hstatus := (turn_of_key_ne clock bundle loads hkey).2.2
    rw [or_iff_left (not_inPhase_of_turn hkey _), Loaded, hstatus]
    exact (or_iff_left fun hphase => hkey hphase.1).symm

theorem emptyUnlessLoaded_turn {loads : TranslationLoads} {task : LoadTask}
    (h : EmptyUnlessLoaded key loads ∨ InPhase LoadStage.marksLater key loads task) :
    EmptyUnlessLoaded key (loads.turn clock bundle task).1
      ∨ ∃ next ∈ (loads.turn clock bundle task).2,
          InPhase LoadStage.marksLater key (loads.turn clock bundle task).1 next := by
  by_cases hkey : task.key = key
  · obtain ⟨languageCode, referenceType, stage⟩ := task
    subst hkey
    cases stage with
    | created => simp [InPhase, turn, LoadStage.marksLater, LoadTask.key]
    | reading =>
        simp [InPhase, turn, LoadStage.marksLater,
          BasicTranslationService.loadTranslationsFromBundle, LoadTask.key]
    | caching result =>
        cases hcategories : result.categories <;>
          simp [InPhase, turn, hcategories, LoadStage.marksLater, LoadTask.key]
    | cachingCategories result categories =>
        simp [InPhase, turn, LoadStage.marksLater, LoadTask.key]
    | marking result =>
        simp [EmptyUnlessLoaded, turn, BasicTranslationService.markLoaded,
          BasicTranslationService.setStatus, LoadTask.key]
    | returning outcome =>
        rcases h with h | h
        · exact .inl h
        · cases h.2
  · obtain ⟨hcache, hcategory, hstatus⟩ :=
      turn_of_key_ne clock bundle loads hkey
    refine .inl ?_
    rw [EmptyUnlessLoaded, hcache, hcategory, hstatus]
    exact h.resolve_right fun hphase => hkey hphase.1

end TranslationLoads

open TranslationLoads

namespace TranslationCalls

variable {clock : Clock Date} {bundle : TranslationBundle} {p q : TranslationCalls} {key : String}

/-- The key is cached, or a load is due to cache it. -/
def CachedInTime (key : String) (p : TranslationCalls) : Prop :=
  p.Owed (Cached key) (InPhase LoadStage.cachesLater key)

/-- The key is marked loaded, or a load that has cached it is due to mark it. -/
def LoadedInTime (key : String) (p : TranslationCalls) : Prop :=
  p.Owed (Loaded key) (InPhase LoadStage.hasCached key)

/-- The mark of the key is or will be backed by its translations. -/
def Backed (key : String) (p : TranslationCalls) : Prop :=
  p.LoadedInTime key → p.CachedInTime key

theorem cachedInTime_run_iff {index : ℕ} (h : p.run (turn clock bundle) index = some q) :
    q.CachedInTime key ↔ p.CachedInTime key :=
  owed_run_iff h (fun _ _ _ => Iff.rfl) fun task _ => cached_turn_iff p.shared task

theorem loadedInTime_run_iff {index : ℕ} (h : p.run (turn clock bundle) index = some q)
    (hcached : ¬ p.CachedInTime key) : q.LoadedInTime key ↔ p.LoadedInTime key := by
  refine owed_run_iff h (fun _ _ _ => Iff.rfl) fun task htask => loaded_turn_iff fun hphase => ?_
  exact hcached (.inr ⟨task, List.mem_of_getElem? htask, hphase⟩)

/-- The turns of loads decide nothing. -/
theorem backed_run_iff {index : ℕ} (h : p.run (turn clock bundle) index = some q) :
    q.Backed key ↔ p.Backed key := by
  rw [Backed, cachedInTime_run_iff h]
  by_cases hcached : p.CachedInTime key
  · exact iff_of_true (fun _ => hcached) fun _ => hcached
  · rw [loadedInTime_run_iff h hcached, Backed]

/-- A load of the key is between caching its translations and marking them, and no other has yet to
cache them. -/
def Unsettled (key : String) (p : TranslationCalls) : Prop :=
  (∃ task ∈ p.tasks, InPhase LoadStage.hasCached key p.shared task)
    ∧ ¬ ∃ task ∈ p.tasks, InPhase LoadStage.cachesLater key p.shared task

/-- A clear comes at a time when its keys are settled. -/
def ClearsSettled (p : TranslationCalls) : TranslationAction → Prop
  | .clearCachedTranslations languageCode referenceType =>
      ¬ p.Unsettled (BasicTranslationService.cacheKey languageCode referenceType)
  | .clearTranslationCache => ∀ task ∈ p.tasks, ¬ p.Unsettled task.key
  | _ => True

/-- A key that a clear leaves without cache and mark is backed if it was settled. -/
theorem backed_cleared_iff {loads : TranslationLoads} (hcache : ¬ Cached key loads)
    (hstatus : ¬ Loaded key loads) : Backed key ⟨loads, p.tasks⟩ ↔ ¬ p.Unsettled key := by
  simp only [Backed, LoadedInTime, CachedInTime, Owed, hcache, hstatus, false_or, Unsettled]
  exact not_and_not_right.symm

theorem backed_congr {loads : TranslationLoads}
    (hcache : loads.service.translationCache key = p.shared.service.translationCache key)
    (hstatus : loads.service.loadingStatus key = p.shared.service.loadingStatus key) :
    Backed key ⟨loads, p.tasks⟩ ↔ p.Backed key := by
  simp only [Backed, LoadedInTime, CachedInTime, Owed, Cached, Loaded, hcache, hstatus]
  exact Iff.rfl

theorem Backed.add_created (h : p.Backed key) (languageCode : String)
    (referenceType : ReferenceDataType) :
    Backed key (p.add ⟨languageCode, referenceType, .created⟩) := by
  intro hloaded
  refine Owed.add (h ?_) _
  rcases hloaded with hloaded | ⟨task, hmem, hphase⟩
  · exact .inl hloaded
  · rcases List.mem_append.mp hmem with hmem | hmem
    · exact .inr ⟨task, hmem, hphase⟩
    · rw [List.mem_singleton.mp hmem] at hphase
      cases hphase.2

theorem backed_clearCachedTranslations_iff (languageCode : String)
    (referenceType : ReferenceDataType) :
    Backed (BasicTranslationService.cacheKey languageCode referenceType)
        ⟨⟨p.shared.service.clearCachedTranslations languageCode referenceType, p.shared.returned⟩,
          p.tasks⟩
      ↔ ¬ p.Unsettled (BasicTranslationService.cacheKey languageCode referenceType) := by
  apply backed_cleared_iff
  · simp [Cached, BasicTranslationService.clearCachedTranslations]
  · simp [Loaded, BasicTranslationService.clearCachedTranslations]

theorem backed_clearTranslationCache_iff :
    Backed key ⟨⟨p.shared.service.clearTranslationCache, p.shared.returned⟩, p.tasks⟩
      ↔ ¬ p.Unsettled key := by
  apply backed_cleared_iff
  · simp [Cached, BasicTranslationService.clearTranslationCache]
  · simp [Loaded, BasicTranslationService.clearTranslationCache]

theorem backed_step {action : TranslationAction}
    (hstep : (translationService clock bundle).step p action = some q)
    (hsettled : p.ClearsSettled action) (h : p.Backed key) : q.Backed key := by
  cases action with
  | loadTranslations languageCode referenceType =>
      exact Option.some.inj hstep ▸ h.add_created languageCode referenceType
  | runLoad index => exact (backed_run_iff hstep).mpr h
  | clearCachedTranslations languageCode referenceType =>
      rw [← Option.some.inj hstep]
      by_cases hkey : key = BasicTranslationService.cacheKey languageCode referenceType
      · rw [hkey]
        exact (backed_clearCachedTranslations_iff languageCode referenceType).mpr hsettled
      · refine (backed_congr ?_ ?_).mpr h <;>
          simp [BasicTranslationService.clearCachedTranslations, Function.update_of_ne hkey]
  | clearTranslationCache =>
      rw [← Option.some.inj hstep]
      refine backed_clearTranslationCache_iff.mpr fun hunsettled => ?_
      obtain ⟨task, hmem, hphase⟩ := hunsettled.1
      exact hsettled task hmem (hphase.1 ▸ hunsettled)

/-- A clear of keys that are not settled leaves one of them unbacked. -/
theorem not_backed_of_clear {action : TranslationAction}
    (hstep : (translationService clock bundle).step p action = some q)
    (hunsettled : ¬ p.ClearsSettled action) :
    ∃ languageCode referenceType,
      ¬ q.Backed (BasicTranslationService.cacheKey languageCode referenceType) := by
  cases action with
  | loadTranslations languageCode referenceType => exact absurd trivial hunsettled
  | runLoad index => exact absurd trivial hunsettled
  | clearCachedTranslations languageCode referenceType =>
      refine ⟨languageCode, referenceType, fun hbacked => hunsettled ?_⟩
      rw [← Option.some.inj hstep] at hbacked
      exact (backed_clearCachedTranslations_iff languageCode referenceType).mp hbacked
  | clearTranslationCache =>
      have hexists : ∃ task ∈ p.tasks, p.Unsettled task.key := by
        simpa [ClearsSettled] using hunsettled
      obtain ⟨task, -, htask⟩ := hexists
      refine ⟨task.languageCode, task.referenceType, fun hbacked => ?_⟩
      rw [← Option.some.inj hstep] at hbacked
      exact backed_clearTranslationCache_iff.mp hbacked htask

/-- What is cached for a key that is not loaded is about to be marked. -/
def EmptyInTime (key : String) (p : TranslationCalls) : Prop :=
  p.Owed (EmptyUnlessLoaded key) (InPhase LoadStage.marksLater key)

theorem emptyInTime_step {action : TranslationAction}
    (hstep : (translationService clock bundle).step p action = some q)
    (h : p.EmptyInTime key) : q.EmptyInTime key := by
  cases action with
  | loadTranslations languageCode referenceType => exact Option.some.inj hstep ▸ h.add _
  | runLoad index =>
      have hrun : p.run (turn clock bundle) index = some q := hstep
      refine h.of_run hrun (fun _ _ _ hdue => hdue) fun task _ htask => ?_
      exact (emptyUnlessLoaded_turn htask).imp_right .inl
  | clearCachedTranslations languageCode referenceType =>
      rw [← Option.some.inj hstep]
      refine h.imp_left fun hempty => ?_
      by_cases hkey : key = BasicTranslationService.cacheKey languageCode referenceType
      · intro _
        simp [BasicTranslationService.clearCachedTranslations, hkey]
      · have hcategory := categoryKey_injective.ne hkey
        simpa [EmptyUnlessLoaded, BasicTranslationService.clearCachedTranslations,
          Function.update_of_ne hkey, Function.update_of_ne hcategory] using hempty
  | clearTranslationCache =>
      rw [← Option.some.inj hstep]
      refine .inl fun _ => ?_
      simp [BasicTranslationService.clearTranslationCache]

theorem initial_status (key : String) : BasicTranslationService.initial.loadingStatus key = none
    ∨ BasicTranslationService.initial.loadingStatus key = some .notLoaded := by
  simp only [BasicTranslationService.initial]
  split
  · exact .inr rfl
  · exact .inl rfl

theorem emptyInTime_of_reachable (hp : (translationService clock bundle).Reachable p) :
    p.EmptyInTime key := by
  refine Machine.ReachableWhere.invariant (EmptyInTime key) ?_ ?_ hp
  · rintro p rfl
    exact .inl fun _ => ⟨rfl, rfl⟩
  · exact fun p action q _ h _ hstep => emptyInTime_step hstep h

theorem backed_of_reachableWhere
    (hp : (translationService clock bundle).ReachableWhere ClearsSettled p) : p.Backed key := by
  refine Machine.ReachableWhere.invariant (Backed key) ?_ ?_ hp
  · rintro p rfl hloaded
    obtain ⟨date, hdate⟩ := Owed.paid hloaded rfl
    rcases initial_status key with hstatus | hstatus <;> simp [hstatus] at hdate
  · exact fun p action q _ h hsettled hstep => backed_step hstep hsettled h

/-- How many turns a load has left at most. -/
def turnsLeft (task : LoadTask) : ℕ :=
  match task.stage with
  | .created => 6
  | .reading => 5
  | .caching _ => 4
  | .cachingCategories _ _ => 3
  | .marking _ => 2
  | .returning _ => 1

theorem turnsLeft_turn (clock : Clock Date) (bundle : TranslationBundle) (loads : TranslationLoads)
    (task : LoadTask) :
    (((loads.turn clock bundle task).2.toList).map turnsLeft).sum < turnsLeft task := by
  obtain ⟨languageCode, referenceType, stage⟩ := task
  cases stage with
  | caching result => cases hcategories : result.categories <;> simp [turn, turnsLeft, hcategories]
  | _ => simp [turn, turnsLeft, BasicTranslationService.loadTranslationsFromBundle]

theorem exec_runLoad {start : TranslationCalls} {indices : List ℕ}
    (h : (machine (turn clock bundle) start).exec p indices = some q) :
    (translationService clock bundle).exec p (indices.map .runLoad) = some q := by
  induction indices generalizing p with
  | nil => exact h
  | cons index indices ih =>
      obtain ⟨t, hstep, hrest⟩ := Machine.exec_cons_eq_some h
      exact Option.bind_eq_some_iff.mpr ⟨t, hstep, ih hrest⟩

theorem backed_exec_iff {start : TranslationCalls} {indices : List ℕ}
    (h : (machine (turn clock bundle) start).exec p indices = some q) :
    q.Backed key ↔ p.Backed key :=
  Machine.exec_relates (fun p q : TranslationCalls => q.Backed key ↔ p.Backed key) (fun _ => True)
    (fun _ => Iff.rfl) (fun _ _ _ hfirst hrest => hrest.trans hfirst) (fun _ _ _ _ _ => trivial)
    (fun _ _ _ hstep _ => backed_run_iff hstep) h trivial

end TranslationCalls

/-- A language and type whose status is loaded is cached, and one whose status is not loaded has
nothing in the caches. -/
def BasicTranslationService.StatusAgrees (s : BasicTranslationService) : Prop :=
  ∀ languageCode referenceType,
    ((∃ date, s.status languageCode referenceType = .loaded date) →
        s.isTranslationCached languageCode referenceType = true)
      ∧ (s.status languageCode referenceType = .notLoaded →
        s.isTranslationCached languageCode referenceType = false
          ∧ s.categoryCache (categoryKey (cacheKey languageCode referenceType)) = none)

namespace TranslationCalls

variable {clock : Clock Date} {bundle : TranslationBundle} {p q : TranslationCalls}

theorem status_loaded_iff (s : BasicTranslationService) (languageCode : String)
    (referenceType : ReferenceDataType) (returned : List (Except String TranslationLoadResult)) :
    (∃ date, s.status languageCode referenceType = .loaded date)
      ↔ Loaded (BasicTranslationService.cacheKey languageCode referenceType) ⟨s, returned⟩ := by
  simp only [BasicTranslationService.status, Loaded]
  cases s.loadingStatus (BasicTranslationService.cacheKey languageCode referenceType) with
  | none => simp
  | some status => simp

/-- Where no call is in progress, the loaded half of the agreement says that every key is backed. -/
theorem backed_iff_of_idle (hidle : p.tasks = []) (languageCode : String)
    (referenceType : ReferenceDataType) :
    p.Backed (BasicTranslationService.cacheKey languageCode referenceType)
      ↔ ((∃ date, p.shared.service.status languageCode referenceType = .loaded date) →
        p.shared.service.isTranslationCached languageCode referenceType = true) := by
  have hnone : ∀ phase key, ¬ ∃ task ∈ p.tasks, InPhase phase key p.shared task := by
    simp [hidle]
  rw [status_loaded_iff _ _ _ p.shared.returned, Backed, LoadedInTime, CachedInTime, Owed, Owed,
    or_iff_left (hnone _ _), or_iff_left (hnone _ _), Cached,
    BasicTranslationService.isTranslationCached, Option.isSome_iff_ne_none]

/-- **Status and cache agree whenever no call is in progress**, in every run whose clears come when
their keys are settled. Any other clear makes them disagree as soon as the calls in progress have
finished. -/
theorem translation_status_agrees (clock : Clock Date) (bundle : TranslationBundle) :
    (∀ p, (translationService clock bundle).ReachableWhere ClearsSettled p → p.tasks = [] →
        p.shared.service.StatusAgrees)
      ∧ ∀ p action q, (translationService clock bundle).step p action = some q →
          ¬ p.ClearsSettled action →
          ∃ (indices : List ℕ) (w : TranslationCalls),
            (translationService clock bundle).exec q (indices.map .runLoad) = some w
            ∧ w.tasks = [] ∧ ¬ w.shared.service.StatusAgrees := by
  constructor
  · intro p hp hidle languageCode referenceType
    refine ⟨(backed_iff_of_idle hidle _ _).mp (backed_of_reachableWhere hp), fun hstatus => ?_⟩
    have hempty : p.EmptyInTime (BasicTranslationService.cacheKey languageCode referenceType) :=
      emptyInTime_of_reachable hp.reachable
    obtain ⟨hcache, hcategory⟩ := hempty.paid hidle hstatus
    exact ⟨by simp [BasicTranslationService.isTranslationCached, hcache], hcategory⟩
  · intro p action q hstep hunsettled
    obtain ⟨languageCode, referenceType, hbacked⟩ := not_backed_of_clear hstep hunsettled
    obtain ⟨indices, w, hexec, hidle⟩ :=
      exists_exec_finished (turnsLeft_turn clock bundle) q q
    refine ⟨indices, w, exec_runLoad hexec, hidle, fun hagrees => hbacked ?_⟩
    rw [← backed_exec_iff hexec, backed_iff_of_idle hidle]
    exact (hagrees languageCode referenceType).1

instance (phase : LoadStage → Bool) (key : String) (loads : TranslationLoads) (task : LoadTask) :
    Decidable (InPhase phase key loads task) :=
  inferInstanceAs (Decidable (_ ∧ _))

instance (p : TranslationCalls) (key : String) : Decidable (p.Unsettled key) :=
  inferInstanceAs (Decidable (_ ∧ _))

instance (p : TranslationCalls) (action : TranslationAction) :
    Decidable (p.ClearsSettled action) :=
  match action with
  | .clearCachedTranslations _ _ => inferInstanceAs (Decidable (¬ _))
  | .clearTranslationCache => inferInstanceAs (Decidable (∀ task ∈ p.tasks, ¬ _))
  | .loadTranslations _ _ => isTrue trivial
  | .runLoad _ => isTrue trivial

def nurseBundle : TranslationBundle := fun resource subdirectory =>
  if resource = "occupations_sv" ∧ subdirectory = "translations" then
    some (.dictionary fun entry =>
      if entry = "occupations" then some (Finmap.singleton "nurse" "sjuksköterska") else none)
  else none

/-- Two loads of the same key, the first of which has finished when the key is cleared. -/
theorem translation_status_agrees_of_two_loads :
    let clock := Clock.ofGaps []
    let run := TranslationAction.runLoad 0
    ∃ p, (translationService clock nurseBundle).exec ⟨⟨.initial, []⟩, []⟩
        [.loadTranslations "sv" .occupations, run, run, run, run, run,
          .loadTranslations "sv" .occupations, run, .clearCachedTranslations "sv" .occupations,
          run, run, run, run] = some p
      ∧ p.shared.service.isTranslationCached "sv" .occupations = true
      ∧ p.shared.service.StatusAgrees := by
  intro clock run
  obtain ⟨p, hexec, hreach, hend⟩ :
      ∃ p, (translationService clock nurseBundle).exec ⟨⟨.initial, []⟩, []⟩
          [.loadTranslations "sv" .occupations, run, run, run, run, run,
            .loadTranslations "sv" .occupations, run, .clearCachedTranslations "sv" .occupations,
            run, run, run, run] = some p
        ∧ (translationService clock nurseBundle).ReachableWhere ClearsSettled p
        ∧ (p.tasks.isEmpty && p.shared.service.isTranslationCached "sv" .occupations) = true :=
    Machine.exists_reachableWhere rfl _ (by decide +kernel) (by decide +kernel)
  simp only [Bool.and_eq_true, List.isEmpty_iff] at hend
  exact ⟨p, hexec, hend.2, (translation_status_agrees clock nurseBundle).1 p hreach hend.1⟩

/-- The key is cleared after the load has cached its translations and before it marks them. -/
theorem translation_marked_after_clear :
    ∃ (clock : Clock Date) (bundle : TranslationBundle) (p : TranslationCalls),
      (translationService clock bundle).Reachable p ∧ p.tasks = []
        ∧ ¬ p.shared.service.StatusAgrees := by
  let clock := Clock.ofGaps []
  let run := TranslationAction.runLoad 0
  obtain ⟨p, -, hreach, hend⟩ :
      ∃ p, (translationService clock nurseBundle).exec ⟨⟨.initial, []⟩, []⟩
          [.loadTranslations "sv" .occupations, run, run, run,
            .clearCachedTranslations "sv" .occupations, run, run] = some p
        ∧ (translationService clock nurseBundle).Reachable p
        ∧ (p.tasks.isEmpty && decide (p.shared.service.status "sv" .occupations = .loaded 0)
          && !p.shared.service.isTranslationCached "sv" .occupations) = true :=
    Machine.exists_reachableWhere rfl _ (by decide +kernel) (by decide +kernel)
  simp only [Bool.and_eq_true, List.isEmpty_iff, decide_eq_true_eq, Bool.not_eq_true'] at hend
  obtain ⟨⟨hidle, hstatus⟩, hcached⟩ := hend
  refine ⟨clock, nurseBundle, p, hreach, hidle, fun hagrees => ?_⟩
  have hbacked := (hagrees "sv" .occupations).1 ⟨0, hstatus⟩
  rw [hcached] at hbacked
  cases hbacked

end TranslationCalls

end SkillTalk
