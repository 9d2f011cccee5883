import Mathlib.Data.Set.Function
import Mathlib.Tactic.Linarith
import SkillTalk.Library.CacheEntries
import SkillTalk.Library.JoinedText
import SkillTalk.SkillCompatibilityService

/-!
# Which pair a cached score was calculated for

Both ids may contain the underscore that joins them, so two pairs may share a key. An entry holds a
score calculated for some pair with its key. It answers for the right pair as long as no two of the
pairs asked for are joined to the same text.
-/

namespace SkillTalk

open CacheEntries

namespace SkillCompatibilityService

variable {clock : Clock Date} {cacheTimeout : TimeInterval}

/-! ### Keys -/

/-- No two of the pairs are the same text when their ids are joined by an underscore. -/
def JoinedApart (pairs : Set (String × String)) : Prop :=
  pairs.InjOn fun pair => pair.1 ++ "_" ++ pair.2

theorem cacheKey_eq_iff {expertSkillId targetSkillId expertSkillId' targetSkillId' : String} :
    cacheKey expertSkillId targetSkillId = cacheKey expertSkillId' targetSkillId'
      ↔ expertSkillId ++ "_" ++ targetSkillId = expertSkillId' ++ "_" ++ targetSkillId' := by
  simp only [cacheKey, String.append_assoc, String.append_right_inj]

theorem joinedApart_iff {pairs : Set (String × String)} :
    JoinedApart pairs ↔ pairs.InjOn fun pair => cacheKey pair.1 pair.2 := by
  simp only [JoinedApart, Set.InjOn, cacheKey_eq_iff]

/-- Expert ids without underscores are enough. -/
theorem joinedApart_of_plain {pairs : Set (String × String)}
    (hplain : ∀ pair ∈ pairs, '_' ∉ pair.1.toList) : JoinedApart pairs := by
  intro pair hpair pair' hpair' htext
  obtain ⟨hexpert, htarget⟩ := JoinedText.string_inj_of_not_mem_first (by simp)
    (hplain pair hpair) (hplain pair' hpair') htext
  exact Prod.ext hexpert htarget

/-- The action calls for one of these pairs, if it calls. -/
def AsksFor (pairs : Set (String × String)) (_ : SkillCompatibilityService) :
    CompatibilityAction → Prop
  | .calculateCompatibility expertSkillId targetSkillId _ => (expertSkillId, targetSkillId) ∈ pairs
  | _ => True

/-! ### Entries and the scores returned -/

variable (cacheTimeout) in
/-- The score returned was calculated for the pair of the call, during the call or at most the
timeout before it. -/
def OwnScore (s : SkillCompatibilityService) (r : ReturnedScore) : Prop :=
  ∃ c ∈ s.calculations, c.expertSkillId = r.expertSkillId ∧ c.targetSkillId = r.targetSkillId
    ∧ c.score = r.score ∧ c.calculatedAt ≤ r.returnedAt
    ∧ (r.calledAt ≤ c.calculatedAt ∨ r.calledAt - c.calculatedAt ≤ cacheTimeout)

/-- The entry was calculated for one of the pairs, whose key it is under. -/
def EntryCalculated (pairs : Set (String × String)) (s : SkillCompatibilityService) (key : String)
    (data : CachedCompatibilityData) : Prop :=
  ∃ c ∈ s.calculations, (c.expertSkillId, c.targetSkillId) ∈ pairs
    ∧ cacheKey c.expertSkillId c.targetSkillId = key
    ∧ c.score = data.compatibilityScore ∧ c.calculatedAt = data.timestamp

variable (clock cacheTimeout) in
structure Accounted (pairs : Set (String × String)) (s : SkillCompatibilityService) : Prop where
  entries : AllEntries (EntryCalculated pairs s) s.cache
  calculations : ∀ c ∈ s.calculations, c.calculatedAt ≤ clock.reading s.reads
  returns : ∀ r ∈ s.returns, OwnScore cacheTimeout s r

variable {pairs : Set (String × String)}

theorem accounted_initial : Accounted clock cacheTimeout pairs initial := by
  refine ⟨.empty, ?_, ?_⟩ <;> intro x hx <;> simp [initial] at hx

theorem liveEntry_eq_some {s : SkillCompatibilityService} {key : String}
    {data : CachedCompatibilityData} (h : s.liveEntry clock cacheTimeout key = some data) :
    s.cache key = some data
      ∧ clock.reading (s.reads + 1) - data.timestamp ≤ cacheTimeout := by
  obtain ⟨hentry, hlive⟩ := Option.filter_eq_some_iff.mp h
  refine ⟨hentry, ?_⟩
  simpa [CachedCompatibilityData.isExpired] using hlive

theorem calculateCompatibility_of_live {s : SkillCompatibilityService}
    {expertSkillId targetSkillId : String} {data : CachedCompatibilityData}
    (hlive : s.liveEntry clock cacheTimeout (cacheKey expertSkillId targetSkillId) = some data)
    (randomFactor : ℚ) :
    s.calculateCompatibility clock cacheTimeout expertSkillId targetSkillId randomFactor
      = { s with
          reads := s.reads + 2
          returns := s.returns ++
            [⟨expertSkillId, targetSkillId, data.compatibilityScore, clock.reading s.reads,
              clock.reading (s.reads + 1)⟩] } := by
  simp only [calculateCompatibility, hlive]

theorem calculateCompatibility_of_none {s : SkillCompatibilityService}
    {expertSkillId targetSkillId : String}
    (hlive : s.liveEntry clock cacheTimeout (cacheKey expertSkillId targetSkillId) = none)
    (randomFactor : ℚ) :
    let score := performCompatibilityCalculation expertSkillId targetSkillId randomFactor
    let now := clock.reading (s.reads + 2)
    s.calculateCompatibility clock cacheTimeout expertSkillId targetSkillId randomFactor
      = ⟨Function.update s.cache (cacheKey expertSkillId targetSkillId) (some ⟨score, now⟩),
          s.reads + 3, s.calculations ++ [⟨expertSkillId, targetSkillId, score, now⟩],
          s.returns ++
            [⟨expertSkillId, targetSkillId, score, clock.reading s.reads, now⟩]⟩ := by
  simp only [calculateCompatibility, hlive]

theorem OwnScore.mono {s t : SkillCompatibilityService} (hsub : s.calculations ⊆ t.calculations)
    {r : ReturnedScore} (h : OwnScore cacheTimeout s r) : OwnScore cacheTimeout t r := by
  obtain ⟨c, hc, hown⟩ := h
  exact ⟨c, hsub hc, hown⟩

theorem EntryCalculated.mono {s t : SkillCompatibilityService}
    (hsub : s.calculations ⊆ t.calculations) {key : String} {data : CachedCompatibilityData}
    (h : EntryCalculated pairs s key data) : EntryCalculated pairs t key data := by
  obtain ⟨c, hc, hcalculated⟩ := h
  exact ⟨c, hsub hc, hcalculated⟩

theorem Accounted.served {s : SkillCompatibilityService}
    (hs : Accounted clock cacheTimeout pairs s) {r : ReturnedScore}
    (hr : OwnScore cacheTimeout s r) :
    Accounted clock cacheTimeout pairs
      { s with reads := s.reads + 2, returns := s.returns ++ [r] } := by
  have hlater : clock.reading s.reads ≤ clock.reading (s.reads + 2) :=
    clock.monotone (Nat.le_add_right _ 2)
  refine ⟨hs.entries, fun c hc => (hs.calculations c hc).trans hlater, ?_⟩
  exact List.forall_mem_append.mpr ⟨hs.returns, List.forall_mem_singleton.mpr hr⟩

/-- A calculation stored under its key, which its caller returns. -/
theorem Accounted.calculated {s : SkillCompatibilityService}
    (hs : Accounted clock cacheTimeout pairs s) {expertSkillId targetSkillId : String}
    (hasked : (expertSkillId, targetSkillId) ∈ pairs) (score : ℚ) :
    Accounted clock cacheTimeout pairs
      ⟨Function.update s.cache (cacheKey expertSkillId targetSkillId)
          (some ⟨score, clock.reading (s.reads + 2)⟩),
        s.reads + 3,
        s.calculations ++ [⟨expertSkillId, targetSkillId, score, clock.reading (s.reads + 2)⟩],
        s.returns ++ [⟨expertSkillId, targetSkillId, score, clock.reading s.reads,
          clock.reading (s.reads + 2)⟩]⟩ := by
  have hcalled : clock.reading s.reads ≤ clock.reading (s.reads + 2) :=
    clock.monotone (Nat.le_add_right _ 2)
  have hstamped : clock.reading (s.reads + 2) ≤ clock.reading (s.reads + 3) :=
    clock.monotone (Nat.le_succ _)
  refine ⟨?_, ?_, ?_⟩
  · refine AllEntries.insert (hs.entries.mono fun key data => ?_) ?_
    · exact EntryCalculated.mono (List.subset_append_left _ _)
    · exact ⟨_, List.mem_append_right _ List.mem_cons_self, hasked, rfl, rfl, rfl⟩
  · refine List.forall_mem_append.mpr ⟨fun c hc => ?_, List.forall_mem_singleton.mpr hstamped⟩
    exact (hs.calculations c hc).trans (hcalled.trans hstamped)
  · refine List.forall_mem_append.mpr ⟨fun r hr => ?_, List.forall_mem_singleton.mpr ?_⟩
    · exact (hs.returns r hr).mono (List.subset_append_left _ _)
    · exact ⟨_, List.mem_append_right _ List.mem_cons_self, rfl, rfl, rfl, le_rfl, .inl hcalled⟩

/-- A live entry has been calculated for the pair that is asked, since no other pair asked for has
its key. -/
theorem Accounted.calculateCompatibility {s : SkillCompatibilityService}
    (hs : Accounted clock cacheTimeout pairs s) (hapart : 0 ≤ cacheTimeout → JoinedApart pairs)
    {expertSkillId targetSkillId : String} (hasked : (expertSkillId, targetSkillId) ∈ pairs)
    (randomFactor : ℚ) :
    Accounted clock cacheTimeout pairs
      (s.calculateCompatibility clock cacheTimeout expertSkillId targetSkillId randomFactor) := by
  cases hlive : s.liveEntry clock cacheTimeout (cacheKey expertSkillId targetSkillId) with
  | some data =>
      obtain ⟨hentry, hage⟩ := liveEntry_eq_some hlive
      obtain ⟨c, hmem, hpair, hkey, hscore, hat⟩ := hs.entries _ data hentry
      have hcalled : clock.reading s.reads ≤ clock.reading (s.reads + 1) :=
        clock.monotone (Nat.le_succ _)
      have hcalculated : c.calculatedAt ≤ clock.reading s.reads := hs.calculations c hmem
      have hcage : clock.reading s.reads - c.calculatedAt ≤ cacheTimeout := by
        rw [hat]
        linarith
      have hsame := joinedApart_iff.mp (hapart (by linarith)) hpair hasked hkey
      obtain ⟨hexpert, htarget⟩ := Prod.mk.inj hsame
      rw [calculateCompatibility_of_live hlive]
      exact hs.served ⟨c, hmem, hexpert, htarget, hscore, hcalculated.trans hcalled, .inr hcage⟩
  | none =>
      rw [calculateCompatibility_of_none hlive]
      exact hs.calculated hasked _

theorem accounted_of_reachableWhere (hapart : 0 ≤ cacheTimeout → JoinedApart pairs)
    {s : SkillCompatibilityService}
    (hs : (skillCompatibility clock cacheTimeout).ReachableWhere (AsksFor pairs) s) :
    Accounted clock cacheTimeout pairs s := by
  refine Machine.ReachableWhere.invariant (Accounted clock cacheTimeout pairs) ?_ ?_ hs
  · rintro s rfl
    exact accounted_initial
  · intro s action t _ hs hasked hstep
    cases action with
    | calculateCompatibility expertSkillId targetSkillId randomFactor =>
        have hstep : (if 4 / 5 ≤ randomFactor ∧ randomFactor ≤ 6 / 5 then
            some (s.calculateCompatibility clock cacheTimeout expertSkillId targetSkillId randomFactor)
          else none) = some t := hstep
        obtain ⟨-, ht⟩ := Option.ite_none_right_eq_some.mp hstep
        exact Option.some.inj ht ▸ hs.calculateCompatibility hapart hasked randomFactor
    | clearCache =>
        exact Option.some.inj hstep ▸ ⟨.empty, hs.calculations, hs.returns⟩
    | evict evicted =>
        exact Option.some.inj hstep ▸ ⟨hs.entries.drop evicted, hs.calculations, hs.returns⟩

/-! ### Two calls at one time -/

def stoppedClock : Clock Date := ⟨fun _ => 0, monotone_const⟩

/-- The first call calculates, and a second one with its key returns the same score without a
calculation. -/
theorem calculateCompatibility_twice (hcacheTimeout : 0 ≤ cacheTimeout)
    {pair pair' : String × String} (hkey : cacheKey pair.1 pair.2 = cacheKey pair'.1 pair'.2) :
    let s := (initial.calculateCompatibility stoppedClock cacheTimeout pair.1 pair.2 1
      ).calculateCompatibility stoppedClock cacheTimeout pair'.1 pair'.2 1
    s.calculations = [⟨pair.1, pair.2, performCompatibilityCalculation pair.1 pair.2 1, 0⟩]
      ∧ ∃ r ∈ s.returns, r.expertSkillId = pair'.1 ∧ r.targetSkillId = pair'.2 := by
  have hnone : initial.liveEntry stoppedClock cacheTimeout (cacheKey pair.1 pair.2) = none := rfl
  have hlive : (initial.calculateCompatibility stoppedClock cacheTimeout pair.1 pair.2 1).liveEntry
        stoppedClock cacheTimeout (cacheKey pair'.1 pair'.2)
      = some ⟨performCompatibilityCalculation pair.1 pair.2 1, 0⟩ := by
    rw [calculateCompatibility_of_none hnone, hkey, liveEntry]
    simp [CachedCompatibilityData.isExpired, stoppedClock, hcacheTimeout]
  dsimp only
  rw [calculateCompatibility_of_live hlive, calculateCompatibility_of_none hnone]
  exact ⟨rfl, _, List.mem_append_right _ List.mem_cons_self, rfl, rfl⟩

theorem joinedApart_of_ownScores (hcacheTimeout : 0 ≤ cacheTimeout)
    (hown : ∀ (clock : Clock Date) (s : SkillCompatibilityService),
      (skillCompatibility clock cacheTimeout).ReachableWhere (AsksFor pairs) s →
        ∀ r ∈ s.returns, OwnScore cacheTimeout s r) : JoinedApart pairs := by
  rw [joinedApart_iff]
  intro pair hpair pair' hpair' hkey
  obtain ⟨hcalculations, r, hr, hexpert, htarget⟩ := calculateCompatibility_twice hcacheTimeout hkey
  have hfactor : (4 / 5 : ℚ) ≤ 1 ∧ (1 : ℚ) ≤ 6 / 5 := by norm_num
  have hfirst : (skillCompatibility stoppedClock cacheTimeout).ReachableWhere (AsksFor pairs)
      (initial.calculateCompatibility stoppedClock cacheTimeout pair.1 pair.2 1) :=
    .step (l := .calculateCompatibility pair.1 pair.2 1) (.init rfl) hpair (if_pos hfactor)
  have hsecond : (skillCompatibility stoppedClock cacheTimeout).ReachableWhere (AsksFor pairs)
      ((initial.calculateCompatibility stoppedClock cacheTimeout pair.1 pair.2 1
        ).calculateCompatibility stoppedClock cacheTimeout pair'.1 pair'.2 1) :=
    .step (l := .calculateCompatibility pair'.1 pair'.2 1) hfirst hpair' (if_pos hfactor)
  obtain ⟨c, hc, hcexpert, hctarget, -⟩ := hown stoppedClock _ hsecond r hr
  rw [hcalculations] at hc
  obtain rfl := List.mem_singleton.mp hc
  exact Prod.ext (hcexpert.trans hexpert) (hctarget.trans htarget)

/-- **Every score returned was calculated for its pair** in the runs that ask for these pairs
exactly if no two of them are joined to the same text, or the timeout is negative. -/
theorem scores_for_own_pair (cacheTimeout : TimeInterval) (pairs : Set (String × String)) :
    (∀ (clock : Clock Date) (s : SkillCompatibilityService),
      (skillCompatibility clock cacheTimeout).ReachableWhere (AsksFor pairs) s →
        ∀ r ∈ s.returns, OwnScore cacheTimeout s r)
      ↔ (0 ≤ cacheTimeout → JoinedApart pairs) := by
  constructor
  · intro hown hcacheTimeout
    exact joinedApart_of_ownScores hcacheTimeout hown
  · intro hapart clock s hs
    exact (accounted_of_reachableWhere hapart hs).returns

instance [DecidablePred fun pair => pair ∈ pairs] (s : SkillCompatibilityService)
    (action : CompatibilityAction) : Decidable (AsksFor pairs s action) :=
  match action with
  | .calculateCompatibility expertSkillId targetSkillId _ =>
      inferInstanceAs (Decidable ((expertSkillId, targetSkillId) ∈ pairs))
  | .clearCache => isTrue trivial
  | .evict _ => isTrue trivial

instance (s : SkillCompatibilityService) (r : ReturnedScore) :
    Decidable (OwnScore cacheTimeout s r) :=
  inferInstanceAs (Decidable (∃ c ∈ s.calculations, _))

/-- The second call for the pair is answered from the cache. -/
theorem scores_for_own_pair_of_hit :
    let clock := Clock.ofGaps [0, 0, 0, 3600]
    let calls : List CompatibilityAction := [.calculateCompatibility "python" "java_script" 1,
      .calculateCompatibility "java" "script" 1, .calculateCompatibility "python" "java_script" 1]
    ∃ s, (skillCompatibility clock 3600).exec initial calls = some s
      ∧ s.calculations.length = 2 ∧ s.returns.length = 3
      ∧ ∀ r ∈ s.returns, OwnScore 3600 s r := by
  intro clock calls
  let pairs : Set (String × String) := {pair | '_' ∉ pair.1.toList}
  obtain ⟨s, hexec, hreach, hend⟩ : ∃ s, (skillCompatibility clock 3600).exec initial calls = some s
      ∧ (skillCompatibility clock 3600).ReachableWhere (AsksFor pairs) s
      ∧ (decide (s.calculations.length = 2) && decide (s.returns.length = 3)) = true :=
    Machine.exists_reachableWhere rfl _ (by decide +kernel) (by decide +kernel)
  simp only [Bool.and_eq_true, decide_eq_true_eq] at hend
  refine ⟨s, hexec, hend.1, hend.2, (scores_for_own_pair 3600 pairs).mpr ?_ clock s hreach⟩
  intro _
  exact joinedApart_of_plain fun pair hpair => hpair

/-- `guitar` with `solo_jazz` and `guitar_solo` with `jazz` share a key, so the second call is
answered with the score of the first. -/
theorem score_of_another_pair :
    ∃ s, (skillCompatibility (Clock.ofGaps []) 3600).Reachable s
      ∧ ¬ ∀ r ∈ s.returns, OwnScore 3600 s r := by
  obtain ⟨s, -, hreach, hend⟩ : ∃ s, (skillCompatibility (Clock.ofGaps []) 3600).exec initial
        [.calculateCompatibility "guitar" "solo_jazz" 1,
          .calculateCompatibility "guitar_solo" "jazz" 1] = some s
      ∧ (skillCompatibility (Clock.ofGaps []) 3600).Reachable s
      ∧ decide (¬ ∀ r ∈ s.returns, OwnScore 3600 s r) = true :=
    Machine.exists_reachableWhere rfl _ (by decide +kernel) (by decide +kernel)
  exact ⟨s, hreach, of_decide_eq_true hend⟩

end SkillCompatibilityService

end SkillTalk
