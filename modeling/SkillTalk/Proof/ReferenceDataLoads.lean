import Mathlib.Tactic.Linarith
import SkillTalk.ReferenceDataCache

/-!
# What reference data loads return

A cache key names one load, and no download has a load's key. So an entry is what the load of its
key reads from the bundle, and the loads, at whatever turns they come, return what they would
without a cache. A preload is accounted for by its four loads.
-/

namespace SkillTalk

open ExpiringCache ReferenceDataCache

variable {Double Body ε : Type} {bundle : ReferenceBundle Double ε}
  {decode : Body → Except ε StringDictionary} {clock : Clock Date}

/-! ### Keys -/

theorem ReferenceCall.cacheKey_injective : Function.Injective cacheKey := by
  intro call call' h
  have hchars : call.cacheKey.toList = call'.cacheKey.toList := congrArg String.toList h
  cases call <;> cases call' <;> simp [cacheKey] at h hchars ⊢
  exact h

theorem ReferenceCall.cacheKey_ne_translations (call : ReferenceCall) (language : String) :
    call.cacheKey ≠ "translations_" ++ language := by
  intro h
  have hchars : call.cacheKey.toList = ("translations_" ++ language).toList :=
    congrArg String.toList h
  cases call <;> simp [cacheKey] at hchars

/-- What has the key of a load is that load, made by a preload or not. -/
theorem referenceJobs_key {job : ReferenceJob Body ε} {call : ReferenceCall}
    (h : (referenceJobs bundle decode).key job = call.cacheKey) :
    ∃ preload, job = .load preload call := by
  cases job with
  | load preload call' =>
      obtain rfl := ReferenceCall.cacheKey_injective h
      exact ⟨preload, rfl⟩
  | download language answer => exact absurd h.symm (call.cacheKey_ne_translations language)

/-! ### Casts -/

theorem kind_read {call : ReferenceCall} {data : ReferenceData Double}
    (h : bundle.read call = .ok data) : data.kind = call.kind := by
  have hmap : ∀ {α : Type} {wrap : α → ReferenceData Double}
      {loaded : Except (ReferenceDataFailure ε) α}, wrap <$> loaded = .ok data →
      ∃ values, wrap values = data := by
    intro α wrap loaded hloaded
    cases loaded with
    | ok values => exact ⟨values, Except.ok.inj hloaded⟩
    | error failure => cases hloaded
  cases call <;> obtain ⟨values, rfl⟩ := hmap h <;> rfl

theorem cast_read {call : ReferenceCall} {data : ReferenceData Double}
    (h : bundle.read call = .ok data) : data.cast call.kind = some data := by
  rw [ReferenceData.cast, if_pos (kind_read h)]

theorem read_of_origin {Good : ReferenceJob Body ε → Prop} (preload : Option ℕ)
    {call : ReferenceCall} {data : ReferenceData Double}
    (h : Origin (referenceJobs bundle decode) Good
      ((referenceJobs bundle decode).key (.load preload call)) data) :
    bundle.read call = .ok data := by
  obtain ⟨job, -, hkey, hread⟩ := h
  obtain ⟨preload', rfl⟩ := referenceJobs_key hkey
  exact hread

theorem referenceJobs_coherent (Good : ReferenceJob Body ε → Prop) :
    Coherent (referenceJobs bundle decode) Good := by
  intro job data accepted _ horigin haccepts
  cases job with
  | load preload call =>
      have hread : bundle.read call = .ok data := read_of_origin preload horigin
      have hdata : accepted = data := Option.some.inj (haccepts.symm.trans (cast_read hread))
      exact hdata ▸ hread
  | download language answer => cases haccepts

theorem referenceJobs_usable (Good : ReferenceJob Body ε → Prop) :
    Usable (referenceJobs bundle decode) Good := by
  intro job data _ hlooks horigin
  cases job with
  | load preload call =>
      have haccepts : data.cast call.kind = some data := cast_read (read_of_origin preload horigin)
      exact Option.isSome_iff_exists.mpr ⟨data, haccepts⟩
  | download language answer => cases hlooks

/-! ### Runs -/

namespace ReferenceDataCache

variable {s t : ReferenceDataCache Double Body ε}

theorem loads_after (s : ReferenceDataCache Double Body ε) (action : ReferenceAction Body ε)
    (loads : Calls (ReferenceJob Body ε) String (ReferenceData Double) (ReferenceDataFailure ε)
      Date) : (s.after action loads).loads = loads := by
  cases action <;> rfl

theorem step_eq_some {action : ReferenceAction Body ε}
    (h : (referenceDataCache bundle decode clock).step s action = some t) :
    (cache bundle decode clock).exec s.loads (s.cacheActions action) = some t.loads
      ∧ t = s.after action t.loads := by
  obtain ⟨loads, hexec, rfl⟩ := Option.map_eq_some_iff.mp h
  rw [loads_after]
  exact ⟨hexec, rfl⟩

/-- The runs of the service are runs of its cache. -/
theorem loads_reachable {allowed : ReferenceDataCache Double Body ε → ReferenceAction Body ε → Prop}
    {allowed' : _ → _ → Prop}
    (hallowed : ∀ (s : ReferenceDataCache Double Body ε) action, allowed s action →
      ∀ x ∈ (cache bundle decode clock).transitions s.loads (s.cacheActions action),
        allowed' x.1 x.2.1)
    (hs : (referenceDataCache bundle decode clock).ReachableWhere allowed s) :
    (cache bundle decode clock).ReachableWhere allowed' s.loads := by
  induction hs with
  | init hinit => exact .init (congrArg loads hinit)
  | step hs hguard hstep ih => exact ih.exec (step_eq_some hstep).1 (hallowed _ _ hguard)

theorem reachable_loads (hs : (referenceDataCache bundle decode clock).Reachable s) :
    (cache bundle decode clock).Reachable s.loads :=
  loads_reachable (fun _ _ _ _ _ => trivial) hs

theorem sound (hs : (referenceDataCache bundle decode clock).Reachable s) :
    Sound (referenceJobs bundle decode) (fun _ => True) s.loads := by
  refine sound_of_reachable (referenceJobs_coherent _) ((reachable_loads hs).mono ?_)
  intro p action _ _
  cases action <;> trivial

/-! ### Preloads -/

/-- Each preload so far made each of its calls once. -/
def Numbered (s : ReferenceDataCache Double Body ε) : Prop :=
  ∀ number call, s.loads.shared.called.countP (ReferenceJob.isPreload number call)
    = if number < s.preloads ∧ call ∈ ReferenceCall.preloaded then 1 else 0

def startsPreload : ReferenceAction Body ε → Bool
  | .preloadReferenceData => true
  | _ => false

theorem preloads_after (s : ReferenceDataCache Double Body ε) (action : ReferenceAction Body ε)
    (loads : Calls (ReferenceJob Body ε) String (ReferenceData Double) (ReferenceDataFailure ε)
      Date) :
    (s.after action loads).preloads
      = if startsPreload action then s.preloads + 1 else s.preloads := by
  cases action <;> rfl

theorem countP_cacheActions (s : ReferenceDataCache Double Body ε)
    (action : ReferenceAction Body ε) (number : ℕ) (call : ReferenceCall) :
    ((s.cacheActions action).filterMap Action.called?).countP (ReferenceJob.isPreload number call)
      = if startsPreload action = true ∧ number = s.preloads ∧ call ∈ ReferenceCall.preloaded
        then 1 else 0 := by
  cases action with
  | preloadReferenceData =>
      by_cases hnumber : number = s.preloads
      · cases call <;> simp [cacheActions, ReferenceCall.preloaded, Action.called?,
          ReferenceJob.isPreload, startsPreload, hnumber]
      · have hne : s.preloads ≠ number := Ne.symm hnumber
        simp [cacheActions, ReferenceCall.preloaded, Action.called?, ReferenceJob.isPreload,
          hnumber, hne]
  | _ => simp [cacheActions, Action.called?, ReferenceJob.isPreload, startsPreload]

theorem numbered (hs : (referenceDataCache bundle decode clock).Reachable s) : Numbered s := by
  refine Machine.ReachableWhere.invariant Numbered ?_ ?_ hs
  · rintro s rfl number call
    simp [initial, Cache.empty]
  · intro s action t _ hs _ hstep number call
    obtain ⟨hexec, ht⟩ := step_eq_some hstep
    have hcalled : t.loads.shared.called
        = s.loads.shared.called ++ (s.cacheActions action).filterMap Action.called? :=
      called_exec hexec
    have hpreloads : t.preloads = if startsPreload action then s.preloads + 1 else s.preloads := by
      rw [ht, preloads_after]
    rw [hcalled, List.countP_append, hs number call, countP_cacheActions, hpreloads]
    cases startsPreload action with
    | false => simp
    | true =>
        by_cases hcall : call ∈ ReferenceCall.preloaded
        · simp only [hcall, and_true, true_and, if_true]
          split <;> split <;> split <;> omega
        · simp [hcall]

/-- The load that a preload made for a call waits. -/
def Waits (s : ReferenceDataCache Double Body ε) (number : ℕ) (call : ReferenceCall) : Prop :=
  ∃ load ∈ s.loads.tasks, load.call.isPreload number call = true

theorem returnOf_eq_none_iff (hs : (referenceDataCache bundle decode clock).Reachable s)
    {number : ℕ} (hnumber : number < s.preloads) {call : ReferenceCall}
    (hcall : call ∈ ReferenceCall.preloaded) :
    s.returnOf number call = none ↔ s.Waits number call := by
  have hcount : s.loads.shared.returned.countP (fun x => x.1.isPreload number call)
      + s.loads.tasks.countP (fun load => load.call.isPreload number call) = 1 := by
    have hperm := (accounted_of_reachable (reachable_loads hs)).countP_eq
      (ReferenceJob.isPreload number call)
    rw [numbered hs number call, if_pos ⟨hnumber, hcall⟩, List.countP_append, List.countP_map,
      List.countP_map] at hperm
    exact hperm
  have hreturn : s.returnOf number call = none
      ↔ s.loads.shared.returned.countP (fun x => x.1.isPreload number call) = 0 := by
    rw [returnOf, Option.map_eq_none_iff, List.find?_eq_none, List.countP_eq_zero]
  have hwaits : s.Waits number call
      ↔ 0 < s.loads.tasks.countP (fun load => load.call.isPreload number call) :=
    List.countP_pos_iff.symm
  rw [hreturn, hwaits]
  omega

theorem read_of_returnOf (hs : (referenceDataCache bundle decode clock).Reachable s)
    {number : ℕ} {call : ReferenceCall}
    {result : Except (ReferenceDataFailure ε) (ReferenceData Double)}
    (h : s.returnOf number call = some result) : result = bundle.read call := by
  obtain ⟨⟨job, result'⟩, hfind, rfl⟩ := Option.map_eq_some_iff.mp h
  have hresult : result' = (referenceJobs bundle decode).read job :=
    (sound hs).returned _ (List.mem_of_find?_eq_some hfind)
  have hjob := List.find?_some hfind
  change job.isPreload number call = true at hjob
  change result' = bundle.read call
  cases job with
  | load preload call' =>
      obtain ⟨-, rfl⟩ : preload = some number ∧ call' = call := by
        simpa [ReferenceJob.isPreload] using hjob
      exact hresult
  | download language answer => simp [ReferenceJob.isPreload] at hjob

theorem mapM_eq_none_iff {α β : Type} {f : α → Option β} {values : List α} :
    values.mapM f = none ↔ ∃ value ∈ values, f value = none := by
  induction values with
  | nil => simp
  | cons value values ih =>
      rw [List.mapM_cons, List.exists_mem_cons_iff, ← ih]
      cases f value <;> cases values.mapM f <;> simp

theorem eq_map_of_mapM {α β : Type} {f : α → Option β} {g : α → β}
    (hfg : ∀ value result, f value = some result → result = g value) {values : List α}
    {results : List β} (h : values.mapM f = some results) : results = values.map g := by
  induction values generalizing results with
  | nil => simpa [eq_comm] using h
  | cons value values ih =>
      rw [List.mapM_cons] at h
      cases hvalue : f value with
      | none => simp [hvalue] at h
      | some result =>
          cases hrest : values.mapM f with
          | none => simp [hvalue, hrest] at h
          | some rest =>
              simp only [hvalue, hrest, Option.bind_eq_bind, Option.bind_some, Option.pure_def,
                Option.some.injEq] at h
              rw [← h, hfg value result hvalue, ih hrest, List.map_cons]

theorem preloadReturn_eq_none_iff (hs : (referenceDataCache bundle decode clock).Reachable s)
    {number : ℕ} (hnumber : number < s.preloads) :
    s.preloadReturn number = none
      ↔ ∃ call ∈ ReferenceCall.preloaded, s.Waits number call := by
  rw [preloadReturn, Option.map_eq_none_iff, mapM_eq_none_iff]
  refine exists_congr fun call => and_congr_right fun hcall => ?_
  exact returnOf_eq_none_iff hs hnumber hcall

theorem preloadReturn_eq (hs : (referenceDataCache bundle decode clock).Reachable s) {number : ℕ}
    {outcome : Except (ReferenceDataFailure ε) Unit}
    (h : s.preloadReturn number = some outcome) : outcome = bundle.preload := by
  obtain ⟨results, hresults, rfl⟩ := Option.map_eq_some_iff.mp h
  have hreads : results = ReferenceCall.preloaded.map bundle.read :=
    eq_map_of_mapM (fun _ _ hreturn => read_of_returnOf hs hreturn) hresults
  rw [hreads]
  rfl

/-! ### Sessions -/

/-- Nothing is dropped from the cache, and no turn is taken later than the cache's timeout after the
first reading of the clock. -/
def InSession (clock : Clock Date) (s : ReferenceDataCache Double Body ε) :
    ReferenceAction Body ε → Prop
  | .turn _ => clock.reading s.loads.shared.readings - clock.reading 0 ≤ cacheTimeout
  | .evict _ => False
  | .clearCache => False
  | .setCurrentLanguage _ => False
  | _ => True

instance (clock : Clock Date) (s : ReferenceDataCache Double Body ε) :
    (action : ReferenceAction Body ε) → Decidable (InSession clock s action)
  | .turn _ => inferInstanceAs (Decidable (_ - _ ≤ cacheTimeout))
  | .evict _ => isFalse id
  | .clearCache => isFalse id
  | .setCurrentLanguage _ => isFalse id
  | .load _ => isTrue trivial
  | .downloadTranslations _ _ => isTrue trivial
  | .preloadReferenceData => isTrue trivial

abbrev CacheInSession (clock : Clock Date) :=
  ExpiringCache.InSession (ι := ReferenceJob Body ε) (κ := String) (α := ReferenceData Double)
    (ε := ReferenceDataFailure ε) clock.reading expired fun _ => True

theorem cache_inSession {action : ReferenceAction Body ε} (hin : InSession clock s action) :
    ∀ x ∈ (cache bundle decode clock).transitions s.loads (s.cacheActions action),
      CacheInSession clock x.1 x.2.1 := by
  intro x hx
  cases action with
  | turn index =>
      change x ∈ (cache bundle decode clock).transitions s.loads [.turn index] at hx
      cases hstep : (cache bundle decode clock).step s.loads (.turn index) with
      | none => simp [Machine.transitions, hstep] at hx
      | some loads =>
          rw [Machine.transitions_cons_of_step hstep, Machine.transitions_nil,
            List.mem_singleton] at hx
          subst hx
          intro n _
          have hin : clock.reading s.loads.shared.readings - clock.reading 0 ≤ cacheTimeout := hin
          have hfirst : clock.reading 0 ≤ clock.reading n := clock.monotone (Nat.zero_le n)
          have hage : clock.reading s.loads.shared.readings - clock.reading n ≤ cacheTimeout := by
            linarith
          simpa [expired] using hage
  | load call =>
      obtain hlabel := List.mem_singleton.mp (Machine.label_mem_of_mem_transitions hx)
      rw [hlabel]
      trivial
  | downloadTranslations language answer =>
      obtain hlabel := List.mem_singleton.mp (Machine.label_mem_of_mem_transitions hx)
      rw [hlabel]
      trivial
  | preloadReferenceData =>
      obtain ⟨call, -, hlabel⟩ := List.mem_map.mp (Machine.label_mem_of_mem_transitions hx)
      rw [← hlabel]
      trivial
  | evict evicted => exact hin.elim
  | clearCache => exact hin.elim
  | setCurrentLanguage language => exact hin.elim

theorem exists_cache_exec {actions : List (ReferenceAction Body ε)}
    (hexec : (referenceDataCache bundle decode clock).exec s actions = some t)
    (hsession : ∀ x ∈ (referenceDataCache bundle decode clock).transitions s actions,
      InSession clock x.1 x.2.1) :
    ∃ steps, (cache bundle decode clock).exec s.loads steps = some t.loads
      ∧ ∀ x ∈ (cache bundle decode clock).transitions s.loads steps,
          CacheInSession clock x.1 x.2.1 := by
  induction actions generalizing s with
  | nil =>
      obtain rfl := Option.some.inj hexec
      exact ⟨[], rfl, by simp⟩
  | cons action actions ih =>
      obtain ⟨u, hstep, hrest⟩ := Machine.exec_cons_eq_some hexec
      rw [Machine.transitions_cons_of_step hstep, List.forall_mem_cons] at hsession
      obtain ⟨steps, hsteps, hin⟩ := ih hrest hsession.2
      have hfirst := (step_eq_some hstep).1
      refine ⟨s.cacheActions action ++ steps, ?_, ?_⟩
      · rw [Machine.exec_append, hfirst]
        exact hsteps
      · rw [Machine.transitions_append hfirst, List.forall_mem_append]
        exact ⟨cache_inSession hsession.1, hin⟩

/-- The times a call has read the bundle. -/
def readsOf (s : ReferenceDataCache Double Body ε) (call : ReferenceCall) : ℕ :=
  s.loads.shared.sourced.countP (ReferenceJob.isLoad call)

variable (bundle decode) in
theorem isLoad_eq (job : ReferenceJob Body ε) (call : ReferenceCall) :
    job.isLoad call = decide ((referenceJobs bundle decode).key job = call.cacheKey) := by
  rw [Bool.eq_iff_iff, decide_eq_true_iff]
  constructor
  · intro hjob
    cases job with
    | load preload call' =>
        obtain rfl : call' = call := by simpa [ReferenceJob.isLoad] using hjob
        rfl
    | download language answer => simp [ReferenceJob.isLoad] at hjob
  · intro hkey
    obtain ⟨preload, rfl⟩ := referenceJobs_key hkey
    simp [ReferenceJob.isLoad]

theorem exists_ok_of_preload {call : ReferenceCall} (hcall : call ∈ ReferenceCall.preloaded)
    (hpreload : bundle.preload = .ok ()) : ∃ data, bundle.read call = .ok data := by
  have hforM : ∀ calls : List ReferenceCall,
      (calls.forM fun call => discard (bundle.read call)) = .ok () →
      ∀ call ∈ calls, ∃ data, bundle.read call = .ok data := by
    intro calls
    induction calls with
    | nil => simp
    | cons first calls ih =>
        intro h call hmem
        change (discard (bundle.read first) >>= fun _ => calls.forM _) = _ at h
        cases hfirst : bundle.read first with
        | error failure =>
            rw [hfirst] at h
            cases h
        | ok data =>
            rw [hfirst] at h
            rcases List.mem_cons.mp hmem with rfl | hmem
            · exact ⟨data, hfirst⟩
            · exact ih h call hmem
  exact hforM _ hpreload call hcall

/-! ### Turns -/

def takesTurn : ReferenceAction Body ε → Bool
  | .turn _ => true
  | _ => false

theorem countP_isTurn (s : ReferenceDataCache Double Body ε) (action : ReferenceAction Body ε) :
    (s.cacheActions action).countP Action.isTurn = if takesTurn action then 1 else 0 := by
  cases action <;> simp [cacheActions, Action.isTurn, takesTurn, ReferenceCall.preloaded]

theorem turns_add_weight_le {actions : List (ReferenceAction Body ε)}
    (hexec : (referenceDataCache bundle decode clock).exec s actions = some t) :
    actions.countP takesTurn + t.loads.weight turnsLeft + 6 * s.loads.shared.called.length
      ≤ s.loads.weight turnsLeft + 6 * t.loads.shared.called.length := by
  induction actions generalizing s with
  | nil =>
      obtain rfl := Option.some.inj hexec
      simp
  | cons action actions ih =>
      obtain ⟨u, hstep, hrest⟩ := Machine.exec_cons_eq_some hexec
      have hle := ih hrest
      have hfirst := ExpiringCache.turns_add_weight_le (step_eq_some hstep).1
      rw [countP_isTurn] at hfirst
      rw [List.countP_cons]
      omega

/-! ### Results -/

/-- **The cache is transparent to loads that interleave.** Whatever the order of turns, evictions,
clears and downloads, each call returns at most once and what it reads without a cache, an entry
is what the load of its key reads or a download of its key, and a preload returns when its four
loads have, with the error of the first of them that fails without a cache. -/
theorem loads_transparent (bundle : ReferenceBundle Double ε)
    (decode : Body → Except ε StringDictionary) (clock : Clock Date)
    (s : ReferenceDataCache Double Body ε)
    (hs : (referenceDataCache bundle decode clock).Reachable s) :
    (∀ x ∈ s.loads.shared.returned, x.2 = (referenceJobs bundle decode).read x.1)
      ∧ (s.loads.shared.returned.map Prod.fst ++ s.loads.tasks.map Load.call).Perm
          s.loads.shared.called
      ∧ (∀ call data stored, s.loads.shared.entries call.cacheKey = some (data, stored) →
          bundle.read call = .ok data)
      ∧ (∀ number < s.preloads, s.preloadReturn number = none
          ↔ ∃ call ∈ ReferenceCall.preloaded, s.Waits number call)
      ∧ ∀ number outcome, s.preloadReturn number = some outcome → outcome = bundle.preload := by
  refine ⟨(sound hs).returned, accounted_of_reachable (reachable_loads hs), ?_, ?_, ?_⟩
  · intro call data stored hentry
    exact read_of_origin none ((sound hs).entries _ data stored hentry)
  · intro number hnumber
    exact preloadReturn_eq_none_iff hs hnumber
  · intro number outcome houtcome
    exact preloadReturn_eq hs houtcome

def sampleBundle : ReferenceBundle Unit String where
  languages _ := some (.ok [⟨"en", "English", "English", "en", true⟩])
  countries _ := some (.ok [])
  cities _ := none
  occupations _ := some (.ok [])
  hobbies _ := some (.ok [])

def sampleDecode (body : StringDictionary) : Except String StringDictionary := .ok body

/-- A preload with all the turns its loads take. -/
def samplePreload : List (ReferenceAction StringDictionary String) :=
  .preloadReferenceData :: List.replicate 16 (.turn 0)

theorem loads_transparent_preload :
    ∃ s, (referenceDataCache sampleBundle sampleDecode (.ofGaps [])).exec initial samplePreload
        = some s
      ∧ s.preloads = 1 ∧ s.loads.tasks.length = 0
      ∧ ∀ number outcome, s.preloadReturn number = some outcome →
        outcome = sampleBundle.preload := by
  refine ⟨_, rfl, rfl, rfl, ?_⟩
  exact (loads_transparent sampleBundle sampleDecode (.ofGaps []) _
    (Machine.reachableWhere_of_exec rfl samplePreload rfl fun _ _ => trivial)).2.2.2.2

/-- **No call hangs.** A run takes at most six turns for each load it makes, however they interleave
with clears and evictions. While a load waits, it can take its turn; once none waits, every call has
returned, and every preload with what it comes to without a cache. -/
theorem loads_end (bundle : ReferenceBundle Double ε) (decode : Body → Except ε StringDictionary)
    (clock : Clock Date) (actions : List (ReferenceAction Body ε))
    (s : ReferenceDataCache Double Body ε)
    (hexec : (referenceDataCache bundle decode clock).exec initial actions = some s) :
    actions.countP takesTurn ≤ 6 * s.loads.shared.called.length
      ∧ (∀ index < s.loads.tasks.length,
          ∃ t, (referenceDataCache bundle decode clock).step s (.turn index) = some t)
      ∧ (s.loads.tasks = [] →
          (s.loads.shared.returned.map Prod.fst).Perm s.loads.shared.called
            ∧ ∀ number < s.preloads, s.preloadReturn number = some bundle.preload) := by
  have hs : (referenceDataCache bundle decode clock).Reachable s :=
    Machine.reachableWhere_of_exec rfl actions hexec fun _ _ => trivial
  refine ⟨?_, ?_, fun hidle => ⟨?_, ?_⟩⟩
  · have hturns := turns_add_weight_le hexec
    simp only [initial, Cache.empty, TaskPool.weight, List.map_nil, List.sum_nil,
      List.length_nil] at hturns
    omega
  · intro index hindex
    obtain ⟨loads, hstep⟩ :=
      exists_turn (referenceJobs bundle decode) clock.reading expired hindex
    refine ⟨s.after (.turn index) loads, Option.map_eq_some_iff.mpr ⟨loads, ?_, rfl⟩⟩
    exact Option.bind_eq_some_iff.mpr ⟨loads, hstep, rfl⟩
  · have hreturned := accounted_of_reachable (reachable_loads hs)
    rwa [Accounted, hidle, List.map_nil, List.append_nil] at hreturned
  · intro number hnumber
    have hreturn : s.preloadReturn number ≠ none := by
      intro hnone
      obtain ⟨call, -, load, hload, -⟩ := (preloadReturn_eq_none_iff hs hnumber).mp hnone
      rw [hidle] at hload
      cases hload
    obtain ⟨outcome, houtcome⟩ := Option.ne_none_iff_exists'.mp hreturn
    rw [houtcome, preloadReturn_eq hs houtcome]

/-- The sample preload has taken all its turns. -/
theorem loads_end_preload :
    ∃ s, (referenceDataCache sampleBundle sampleDecode (.ofGaps [])).exec initial samplePreload
        = some s
      ∧ samplePreload.countP takesTurn ≤ 6 * s.loads.shared.called.length
      ∧ s.preloadReturn 0 = some sampleBundle.preload := by
  obtain ⟨s, hexec, hidle, hpreloads⟩ : ∃ s, (referenceDataCache sampleBundle sampleDecode
      (.ofGaps [])).exec initial samplePreload = some s
      ∧ s.loads.tasks = [] ∧ s.preloads = 1 := ⟨_, rfl, rfl, rfl⟩
  obtain ⟨hturns, -, hended⟩ := loads_end sampleBundle sampleDecode (.ofGaps []) samplePreload s hexec
  exact ⟨s, hexec, hturns, (hended hidle).2 0 (hpreloads ▸ Nat.one_pos)⟩

/-- **A preload spares the bundle.** In a session, which holds from the service's first step, in
which a preload has returned without error, a load that it covers reads the bundle again at most as
often as such loads were waiting then. -/
theorem preload_spares_bundle (bundle : ReferenceBundle Double ε)
    (decode : Body → Except ε StringDictionary) (clock : Clock Date)
    (s t : ReferenceDataCache Double Body ε)
    (hs : (referenceDataCache bundle decode clock).ReachableWhere (InSession clock) s)
    (number : ℕ) (hnumber : number < s.preloads) (hreturn : s.preloadReturn number = some (.ok ()))
    (actions : List (ReferenceAction Body ε))
    (hexec : (referenceDataCache bundle decode clock).exec s actions = some t)
    (hsession : ∀ x ∈ (referenceDataCache bundle decode clock).transitions s actions,
      InSession clock x.1 x.2.1)
    (call : ReferenceCall) (hcall : call ∈ ReferenceCall.preloaded) :
    t.readsOf call
      ≤ s.readsOf call + s.loads.tasks.countP (fun load => load.call.isLoad call) := by
  have hreachable := hs.reachable
  have hloads : (cache bundle decode clock).ReachableWhere (CacheInSession clock) s.loads :=
    loads_reachable (fun _ _ hin => cache_inSession hin) hs
  obtain ⟨data, hread⟩ := exists_ok_of_preload hcall (preloadReturn_eq hreachable hreturn).symm
  obtain ⟨job, hjob, hmem⟩ : ∃ job : ReferenceJob Body ε, job.isPreload number call = true
      ∧ (job, .ok data) ∈ s.loads.shared.returned := by
    obtain ⟨result, hresult⟩ : ∃ result, s.returnOf number call = some result := by
      rw [← Option.ne_none_iff_exists']
      intro hnone
      have hwaits := (returnOf_eq_none_iff hreachable hnumber hcall).mp hnone
      rw [(preloadReturn_eq_none_iff hreachable hnumber).mpr ⟨call, hcall, hwaits⟩] at hreturn
      cases hreturn
    obtain ⟨⟨job, result'⟩, hfind, rfl⟩ := Option.map_eq_some_iff.mp hresult
    obtain rfl : result' = .ok data := (read_of_returnOf hreachable hresult).trans hread
    have hjob := List.find?_some hfind
    exact ⟨job, hjob, List.mem_of_find?_eq_some hfind⟩
  have hkey : (referenceJobs bundle decode).key job = call.cacheKey := by
    have hload : job.isLoad call = true := by
      cases job <;> simp_all [ReferenceJob.isPreload, ReferenceJob.isLoad]
    exact of_decide_eq_true (isLoad_eq bundle decode job call ▸ hload)
  have hlooks : ∀ job', True → (referenceJobs bundle decode).key job'
      = (referenceJobs bundle decode).key job → (referenceJobs bundle decode).looks job' = true := by
    intro job' _ hkey'
    obtain ⟨preload, rfl⟩ := referenceJobs_key (hkey'.trans hkey)
    rfl
  obtain ⟨steps, hsteps, hin⟩ := exists_cache_exec hexec hsession
  have hspares := sourced_exec_le (referenceJobs_coherent _) (referenceJobs_usable _) hlooks
    (loads_reachable (fun _ _ hin => cache_inSession hin) hs) hmem hsteps hin
  rw [hkey] at hspares
  have hisLoad : ReferenceJob.isLoad call
      = fun job => decide ((referenceJobs bundle decode).key job = call.cacheKey) := by
    funext job
    exact isLoad_eq bundle decode job call
  rw [readsOf, readsOf, hisLoad]
  exact hspares

/-- After the preload a load of the languages comes and returns. -/
theorem preload_spares_languages :
    ∃ s t, (referenceDataCache sampleBundle sampleDecode (.ofGaps [])).exec initial samplePreload
        = some s
      ∧ (referenceDataCache sampleBundle sampleDecode (.ofGaps [])).exec s
          [.load .loadLanguages, .turn 0, .turn 0] = some t
      ∧ t.loads.shared.returned.length = 5 ∧ s.readsOf .loadLanguages = 1
      ∧ t.readsOf .loadLanguages ≤ 1 := by
  refine ⟨_, _, rfl, rfl, by decide +kernel, by decide +kernel, ?_⟩
  refine preload_spares_bundle sampleBundle sampleDecode (.ofGaps []) _ _
    (Machine.reachableWhere_of_exec rfl samplePreload rfl ?_) 0 Nat.one_pos rfl
    [.load .loadLanguages, .turn 0, .turn 0] rfl ?_ .loadLanguages (by decide)
  · decide +kernel
  · decide +kernel

end ReferenceDataCache

end SkillTalk
