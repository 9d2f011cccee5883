import SkillTalk.Proof.TranslationStatus
import SkillTalk.TranslationWarmup

/-!
# Translations after their initialization

Of each language of an initialization, its translations are cached or a load of its group has yet to
cache them. The priority languages are cached when background loading starts, which leaves them
out, and all supported languages are when the background loads have returned.
-/

namespace SkillTalk

open TaskPool TranslationLoads

namespace TranslationWarmup

variable {clock : Clock Date} {bundle : TranslationBundle} {w v : TranslationWarmup}

/-! ### One turn -/

theorem cached_turn {key : String} (loads : TranslationLoads) (task : LoadTask)
    (h : Cached key loads) : Cached key (loads.turn clock bundle task).1 := by
  by_cases hkey : task.key = key
  · obtain ⟨languageCode, referenceType, stage⟩ := task
    subst hkey
    cases stage with
    | caching result =>
        simp [Cached, TranslationLoads.turn, BasicTranslationService.cacheTranslations, LoadTask.key]
    | _ => exact h
  · rw [Cached, (turn_of_key_ne clock bundle loads hkey).1]
    exact h

theorem throws_turn {loads : TranslationLoads} {task next : LoadTask}
    (hthrows : task.stage.throws = false)
    (h : next ∈ (loads.turn clock bundle task).2) : next.stage.throws = false := by
  obtain ⟨languageCode, referenceType, stage⟩ := task
  cases stage with
  | caching result =>
      simp only [TranslationLoads.turn] at h
      split at h <;> exact Option.some.inj h ▸ rfl
  | returning outcome => cases h
  | _ => exact Option.some.inj h ▸ rfl

theorem languageCode_turn {loads : TranslationLoads} {task next : LoadTask}
    (h : next ∈ (loads.turn clock bundle task).2) : next.languageCode = task.languageCode := by
  obtain ⟨languageCode, referenceType, stage⟩ := task
  cases stage with
  | caching result =>
      simp only [TranslationLoads.turn] at h
      split at h <;> exact Option.some.inj h ▸ rfl
  | returning outcome => cases h
  | _ => exact Option.some.inj h ▸ rfl

theorem mem_turn {shared : WarmupLoads} {task next : OwnedLoad}
    (h : next ∈ (turn clock bundle shared task).2) :
    next.owner = task.owner ∧ next.load ∈ (shared.loads.turn clock bundle task.load).2 := by
  obtain ⟨load, hload, rfl⟩ := Option.map_eq_some_iff.mp h
  exact ⟨rfl, hload⟩

/-! ### What the groups owe -/

def CachedFor (key : String) (shared : WarmupLoads) : Prop := Cached key shared.loads

/-- The load is one of the owner that has yet to cache the key. -/
def Caching (owner : LoadOwner) (key : String) (shared : WarmupLoads) (task : OwnedLoad) : Prop :=
  task.owner = owner ∧ InPhase LoadStage.cachesLater key shared.loads task.load

/-- The key is cached, or a load of the owner has yet to cache it. -/
def Promised (owner : LoadOwner) (key : String) (p : TaskPool WarmupLoads OwnedLoad) : Prop :=
  p.Owed (CachedFor key) (Caching owner key)

theorem Promised.append {owner : LoadOwner} {key : String} {p : TaskPool WarmupLoads OwnedLoad}
    (h : Promised owner key p) (tasks : List OwnedLoad) :
    Promised owner key ⟨p.shared, p.tasks ++ tasks⟩ := by
  rcases h with hcached | ⟨task, hmem, hcaching⟩
  · exact .inl hcached
  · exact .inr ⟨task, List.mem_append_left _ hmem, hcaching⟩

theorem Promised.run {owner : LoadOwner} {key : String} {p q : TaskPool WarmupLoads OwnedLoad}
    {index : ℕ} (h : Promised owner key p) (hrun : p.run (turn clock bundle) index = some q) :
    Promised owner key q := by
  refine Owed.of_run h hrun (fun _ _ _ hcaching => hcaching) ?_
  intro task _ hcase
  rcases hcase with hcached | ⟨howner, hphase⟩
  · exact .inl (cached_turn p.shared.loads task.load hcached)
  · rcases (cached_turn_iff p.shared.loads task.load).mpr (.inr hphase) with
      hcached | ⟨next, hnext, hphase⟩
    · exact .inl hcached
    · refine .inr (.inl ⟨⟨task.owner, next⟩, ?_, howner, hphase⟩)
      exact Option.map_eq_some_iff.mpr ⟨next, hnext, rfl⟩

theorem promised_batch {owner : LoadOwner} {languageCodes : List String} {languageCode : String}
    (hmem : languageCode ∈ languageCodes) (referenceType : ReferenceDataType) :
    Promised owner (BasicTranslationService.cacheKey languageCode referenceType)
      (w.addBatch owner languageCodes referenceType) := by
  refine .inr ⟨⟨owner, languageCode, referenceType, .created⟩, ?_, rfl, rfl, rfl⟩
  exact List.mem_append_right _ (List.mem_map_of_mem hmem)

/-- The languages of a background group are supported ones and no priority languages. -/
def Leftover (task : OwnedLoad) : Prop :=
  ∀ number, task.owner = .background number →
    task.load.languageCode ∈ supportedLanguages ∧ task.load.languageCode ∉ priorityLanguages

structure Warming (w : TranslationWarmup) : Prop where
  failed : w.pool.shared.failed = []
  tasks : ∀ task ∈ w.pool.tasks, task.load.stage.throws = false ∧ Leftover task
  priority : ∀ number referenceType, w.initializations[number]? = some (referenceType, false) →
    ∀ languageCode ∈ priorityLanguages,
      Promised (.priority number) (BasicTranslationService.cacheKey languageCode referenceType)
        w.pool
  background : ∀ number referenceType, w.initializations[number]? = some (referenceType, true) →
    ∀ languageCode ∈ supportedLanguages,
      Promised (.background number) (BasicTranslationService.cacheKey languageCode referenceType)
        w.pool

theorem Warming.initial : Warming .initial := by
  refine ⟨rfl, ?_, ?_, ?_⟩
  · intro task hmem
    cases hmem
  · intro number referenceType hget
    cases hget
  · intro number referenceType hget
    cases hget

theorem Warming.append (h : Warming w) (tasks : List OwnedLoad)
    (htasks : ∀ task ∈ tasks, task.load.stage.throws = false ∧ Leftover task) :
    Warming ⟨⟨w.pool.shared, w.pool.tasks ++ tasks⟩, w.initializations⟩ := by
  refine ⟨h.failed, ?_, ?_, ?_⟩
  · intro task hmem
    rcases List.mem_append.mp hmem with hmem | hmem
    · exact h.tasks task hmem
    · exact htasks task hmem
  · intro number referenceType hget languageCode hlanguage
    exact (h.priority number referenceType hget languageCode hlanguage).append tasks
  · intro number referenceType hget languageCode hlanguage
    exact (h.background number referenceType hget languageCode hlanguage).append tasks

theorem batch_tasks {owner : LoadOwner} {languageCodes : List String}
    {referenceType : ReferenceDataType}
    (hleftover : ∀ number, owner = .background number → ∀ languageCode ∈ languageCodes,
      languageCode ∈ supportedLanguages ∧ languageCode ∉ priorityLanguages) :
    ∀ task ∈ batch owner languageCodes referenceType,
      task.load.stage.throws = false ∧ Leftover task := by
  intro task hmem
  obtain ⟨languageCode, hlanguage, rfl⟩ := List.mem_map.mp hmem
  exact ⟨rfl, fun number howner => hleftover number howner languageCode hlanguage⟩

theorem Warming.run (h : Warming w) {index : ℕ} {pool : TaskPool WarmupLoads OwnedLoad}
    (hrun : w.pool.run (turn clock bundle) index = some pool) :
    Warming ⟨pool, w.initializations⟩ := by
  refine ⟨?_, ?_, ?_, ?_⟩
  · obtain ⟨before, task, after, -, htasks, rfl⟩ := TaskPool.run_eq_some hrun
    have hthrows := (h.tasks task (by simp [htasks])).1
    change (if task.load.stage.throws then _ else w.pool.shared.failed) = []
    rw [hthrows]
    exact h.failed
  · obtain ⟨before, task, after, -, htasks, rfl⟩ := TaskPool.run_eq_some hrun
    obtain ⟨hthrows, hleftover⟩ := h.tasks task (by simp [htasks])
    intro other hother
    simp only [List.mem_append, Option.mem_toList] at hother
    rcases hother with (hother | hother) | hother
    · exact h.tasks other (by simp [htasks, hother])
    · obtain ⟨howner, hnext⟩ := mem_turn hother
      refine ⟨throws_turn hthrows hnext, ?_⟩
      intro number hnumber
      rw [languageCode_turn hnext]
      exact hleftover number (howner.symm.trans hnumber)
    · exact h.tasks other (by simp [htasks, hother])
  · intro number referenceType hget languageCode hlanguage
    exact (h.priority number referenceType hget languageCode hlanguage).run hrun
  · intro number referenceType hget languageCode hlanguage
    exact (h.background number referenceType hget languageCode hlanguage).run hrun

theorem getElem?_append_singleton {α : Type} {values : List α} {value other : α} {index : ℕ}
    (h : (values ++ [value])[index]? = some other) :
    values[index]? = some other ∨ index = values.length ∧ other = value := by
  rw [List.getElem?_append] at h
  split at h
  · exact .inl h
  · obtain ⟨hindex, hvalue⟩ := List.getElem?_eq_some_iff.mp h
    simp only [List.length_singleton] at hindex
    refine .inr ⟨by omega, ?_⟩
    simpa using hvalue.symm

theorem Warming.initializeTranslations (h : Warming w) (referenceType : ReferenceDataType) :
    Warming (w.initializeTranslations referenceType) := by
  have happend := h.append (batch (.priority w.initializations.length) priorityLanguages
    referenceType) (batch_tasks fun _ howner => by cases howner)
  refine ⟨happend.failed, happend.tasks, ?_, ?_⟩
  · intro number referenceType' hget languageCode hlanguage
    rcases getElem?_append_singleton hget with hold | ⟨rfl, hnew⟩
    · exact happend.priority number referenceType' hold languageCode hlanguage
    · obtain ⟨rfl, -⟩ := Prod.mk.inj hnew
      exact promised_batch hlanguage referenceType'
  · intro number referenceType' hget languageCode hlanguage
    rcases getElem?_append_singleton hget with hold | ⟨-, hnew⟩
    · exact happend.background number referenceType' hold languageCode hlanguage
    · cases (Prod.mk.inj hnew).2

theorem priority_cached (h : Warming w) {number : ℕ} {referenceType : ReferenceDataType}
    (hget : w.initializations[number]? = some (referenceType, false))
    (htasks : ∀ task ∈ w.pool.tasks, task.owner ≠ .priority number) {languageCode : String}
    (hlanguage : languageCode ∈ priorityLanguages) :
    w.service.isTranslationCached languageCode referenceType = true := by
  rcases h.priority number referenceType hget languageCode hlanguage with
    hcached | ⟨task, hmem, howner, -⟩
  · exact Option.isSome_iff_ne_none.mpr hcached
  · exact absurd howner (htasks task hmem)

theorem Warming.startBackgroundTranslationLoading (h : Warming w) {number : ℕ}
    (hstart : w.startBackgroundTranslationLoading number = some v) : Warming v := by
  unfold TranslationWarmup.startBackgroundTranslationLoading at hstart
  split at hstart
  case h_2 => cases hstart
  case h_1 referenceType hget =>
    split at hstart
    case isTrue => cases hstart
    case isFalse hready =>
      obtain rfl := Option.some.inj hstart
      rw [not_or] at hready
      have hended : ∀ task ∈ w.pool.tasks, task.owner ≠ .priority number := by
        intro task hmem howner
        exact hready.1 (List.any_eq_true.mpr ⟨task, hmem, decide_eq_true howner⟩)
      have happend := h.append (batch (.background number)
        (unloadedLanguages w.service referenceType) referenceType) <| batch_tasks <| by
          intro _ _ languageCode hmem
          obtain ⟨hsupported, hunloaded⟩ := List.mem_filter.mp hmem
          refine ⟨hsupported, fun hpriority => ?_⟩
          simp [priority_cached h hget hended hpriority] at hunloaded
      refine ⟨happend.failed, happend.tasks, ?_, ?_⟩
      · intro number' referenceType' hget' languageCode hlanguage
        by_cases hnumber : number' = number
        · subst hnumber
          simp [List.getElem?_set_self', hget] at hget'
        · rw [List.getElem?_set_ne (Ne.symm hnumber)] at hget'
          exact happend.priority number' referenceType' hget' languageCode hlanguage
      · intro number' referenceType' hget' languageCode hlanguage
        by_cases hnumber : number' = number
        · subst hnumber
          obtain rfl : referenceType = referenceType' := by
            simpa [List.getElem?_set_self', hget] using hget'
          by_cases hcached : w.service.isTranslationCached languageCode referenceType = true
          · exact .inl (Option.isSome_iff_ne_none.mp hcached)
          · refine promised_batch ?_ referenceType
            exact List.mem_filter.mpr ⟨hlanguage, by simp [hcached]⟩
        · rw [List.getElem?_set_ne (Ne.symm hnumber)] at hget'
          exact happend.background number' referenceType' hget' languageCode hlanguage

/-! ### Runs -/

def NoClears (_ : TranslationWarmup) : WarmupAction → Prop
  | .clearCachedTranslations _ _ => False
  | .clearTranslationCache => False
  | _ => True

instance (w : TranslationWarmup) : (action : WarmupAction) → Decidable (NoClears w action)
  | .clearCachedTranslations _ _ => isFalse id
  | .clearTranslationCache => isFalse id
  | .loadTranslations _ _ => isTrue trivial
  | .initializeTranslations _ => isTrue trivial
  | .startBackgroundTranslationLoading _ => isTrue trivial
  | .runLoad _ => isTrue trivial

theorem warming_of_reachable (hw : (translationWarmup clock bundle).ReachableWhere NoClears w) :
    Warming w := by
  refine Machine.ReachableWhere.invariant Warming ?_ ?_ hw
  · rintro w rfl
    exact .initial
  · intro w action v _ hw hclears hstep
    cases action with
    | loadTranslations languageCode referenceType =>
        obtain rfl := Option.some.inj hstep
        exact hw.append _ (batch_tasks fun _ howner => by cases howner)
    | initializeTranslations referenceType =>
        obtain rfl := Option.some.inj hstep
        exact hw.initializeTranslations referenceType
    | startBackgroundTranslationLoading number =>
        exact hw.startBackgroundTranslationLoading hstep
    | runLoad index =>
        obtain ⟨pool, hrun, rfl⟩ := Option.map_eq_some_iff.mp hstep
        exact hw.run hrun
    | clearCachedTranslations languageCode referenceType => exact hclears.elim
    | clearTranslationCache => exact hclears.elim

theorem cachedItems_of_cached {s : BasicTranslationService} {referenceType : ReferenceDataType}
    (hcached : ∀ languageCode ∈ supportedLanguages,
      s.isTranslationCached languageCode referenceType = true)
    (htype : referenceType = .occupations ∨ referenceType = .hobbies) (now : Date) :
    (s.getCacheStatistics now).cachedItems = (s.getCacheStatistics now).totalItems := by
  have hall : (supportedLanguages.filter fun languageCode =>
      s.isTranslationCached languageCode referenceType) = supportedLanguages :=
    List.filter_eq_self.mpr hcached
  have hkey : ∀ languageCode : String, (languageCode ++ "-" : String) ++ referenceType.rawValue
      = languageCode ++ ("-" ++ referenceType.rawValue) := by
    intro languageCode
    rw [String.append_assoc]
  simp only [BasicTranslationService.isTranslationCached, BasicTranslationService.cacheKey, hkey]
    at hall
  rcases htype with rfl | rfl
  · exact (congrArg (fun l => max (List.length l) _) hall).trans
      (max_eq_left (List.length_filter_le _ _))
  · exact (congrArg (fun l => max _ (List.length l)) hall).trans
      (max_eq_right (List.length_filter_le _ _))

/-- **An initialization warms every supported language.** In a run without clears no load of an
initialization throws, the loads of its background group are for supported languages that are not
priority ones, and once they have returned every supported language is cached, as the statistics say
for occupations and hobbies. -/
theorem initialization_complete (clock : Clock Date) (bundle : TranslationBundle)
    (w : TranslationWarmup) (hw : (translationWarmup clock bundle).ReachableWhere NoClears w) :
    w.pool.shared.failed = []
      ∧ (∀ task ∈ w.pool.tasks, ∀ number, task.owner = .background number →
          task.load.languageCode ∈ supportedLanguages
            ∧ task.load.languageCode ∉ priorityLanguages)
      ∧ ∀ number referenceType, w.initializations[number]? = some (referenceType, true) →
          (∀ task ∈ w.pool.tasks, task.owner ≠ .background number) →
          (∀ languageCode ∈ supportedLanguages,
              w.service.isTranslationCached languageCode referenceType = true)
            ∧ (referenceType = .occupations ∨ referenceType = .hobbies → ∀ now,
                (w.service.getCacheStatistics now).cachedItems = 30
                  ∧ (w.service.getCacheStatistics now).totalItems = 30) := by
  have hwarming := warming_of_reachable hw
  refine ⟨hwarming.failed, fun task hmem => (hwarming.tasks task hmem).2, ?_⟩
  intro number referenceType hget hended
  have hcached : ∀ languageCode ∈ supportedLanguages,
      w.service.isTranslationCached languageCode referenceType = true := by
    intro languageCode hlanguage
    rcases hwarming.background number referenceType hget languageCode hlanguage with
      hcached | ⟨task, hmem, howner, -⟩
    · exact Option.isSome_iff_ne_none.mpr hcached
    · exact absurd howner (hended task hmem)
  refine ⟨hcached, fun htype now => ?_⟩
  exact ⟨cachedItems_of_cached hcached htype now, rfl⟩

/-- The priority languages have returned and the others are being loaded. -/
def sampleWarmup : List WarmupAction :=
  .initializeTranslations .hobbies :: List.replicate 50 (.runLoad 0)
    ++ [.startBackgroundTranslationLoading 0]

/-- The other languages have returned too, one after another. -/
def finishedWarmup : List WarmupAction := sampleWarmup ++ List.replicate 100 (.runLoad 0)

/-- The background loads return one after another, and then all thirty languages are cached. -/
theorem initialization_complete_started :
    let warmup := translationWarmup (.ofGaps []) fun _ _ => none
    ∃ v w, warmup.exec .initial sampleWarmup = some v
      ∧ v.pool.tasks.length = 20
      ∧ (∀ task ∈ v.pool.tasks, ∀ number, task.owner = .background number →
          task.load.languageCode ∈ supportedLanguages
            ∧ task.load.languageCode ∉ priorityLanguages)
      ∧ warmup.exec .initial finishedWarmup = some w
      ∧ ∀ now, (w.service.getCacheStatistics now).cachedItems = 30 := by
  intro warmup
  obtain ⟨v, hexec, hreach, hlength⟩ : ∃ v, warmup.exec .initial sampleWarmup = some v
      ∧ warmup.ReachableWhere NoClears v ∧ decide (v.pool.tasks.length = 20) = true :=
    Machine.exists_reachableWhere rfl _ (by decide +kernel) (by decide +kernel)
  obtain ⟨w, hexec', hreach', hend⟩ :
      ∃ w, warmup.exec .initial finishedWarmup = some w
        ∧ warmup.ReachableWhere NoClears w
        ∧ (w.pool.tasks.isEmpty
          && decide (w.initializations[0]? = some (ReferenceDataType.hobbies, true))) = true :=
    Machine.exists_reachableWhere rfl _ (by decide +kernel) (by decide +kernel)
  obtain ⟨htasks, hinitialization⟩ := Bool.and_eq_true_iff.mp hend
  refine ⟨v, w, hexec, of_decide_eq_true hlength,
    (initialization_complete (.ofGaps []) (fun _ _ => none) v hreach).2.1, hexec', ?_⟩
  have hended : ∀ task ∈ w.pool.tasks, task.owner ≠ .background 0 := by
    rw [List.isEmpty_iff.mp htasks]
    exact fun _ htask => nomatch htask
  have hcached := (initialization_complete (.ofGaps []) (fun _ _ => none) w hreach').2.2 0 .hobbies
    (of_decide_eq_true hinitialization) hended
  exact fun now => (hcached.2 (.inr rfl) now).1

end TranslationWarmup

end SkillTalk
