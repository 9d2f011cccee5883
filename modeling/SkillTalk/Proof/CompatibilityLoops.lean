import Mathlib.Data.List.ProdSigma
import SkillTalk.Proof.CompatibilityScores
import SkillTalk.SkillMatching

/-!
# The calls of a loop

A loop over two lists of skills makes one call of `calculateCompatibility` for each pair, in order.
What it computes is a fold over these calls, each with the service it found.
-/

namespace SkillTalk

namespace SkillCompatibilityService

variable (clock : Clock Date) (cacheTimeout : TimeInterval) (contexts : ℕ → CallContext)

section

variable {ι : Type} (expert target : ι → String)

/-- The calls for these pairs of ids, `calls` calls having been made before. -/
def callsFor : ℕ → SkillCompatibilityService → List ι → List (CompatibilityCall ι)
  | _, _, [] => []
  | calls, s, pair :: pairs =>
      let found := s.interleave clock cacheTimeout (contexts calls).others
      let next := found.calculateCompatibility clock cacheTimeout (expert pair) (target pair)
        (contexts calls).randomFactor
      ⟨found, pair, (contexts calls).randomFactor⟩ :: callsFor (calls + 1) next pairs

/-- The service after these calls. -/
def afterCalls : ℕ → SkillCompatibilityService → List ι → SkillCompatibilityService
  | _, s, [] => s
  | calls, s, pair :: pairs =>
      let found := s.interleave clock cacheTimeout (contexts calls).others
      afterCalls (calls + 1) (found.calculateCompatibility clock cacheTimeout (expert pair)
        (target pair) (contexts calls).randomFactor) pairs

/-- The score that the call returns. -/
def callScore (call : CompatibilityCall ι) : ℚ :=
  call.found.compatibility clock cacheTimeout (expert call.pair) (target call.pair)
    call.randomFactor

variable {clock cacheTimeout contexts expert target}

/-- There is a call for each pair, in order. -/
theorem map_pair_callsFor (pairs : List ι) (calls : ℕ) (s : SkillCompatibilityService) :
    (callsFor clock cacheTimeout contexts expert target calls s pairs).map CompatibilityCall.pair
      = pairs := by
  induction pairs generalizing calls s with
  | nil => rfl
  | cons pair pairs ih =>
      rw [callsFor, List.map_cons, ih]

variable (clock cacheTimeout contexts expert target) in
/-- **A loop is a fold over its calls.** -/
theorem foldl_callNext {α : Type} (update : ι → ℚ → α → α) (pairs : List ι) (loop : CallLoop α) :
    pairs.foldl (fun loop pair => callNext clock cacheTimeout contexts loop (expert pair)
        (target pair) (update pair)) loop
      = { service := afterCalls clock cacheTimeout contexts expert target loop.calls loop.service
            pairs
          calls := loop.calls + pairs.length
          value := (callsFor clock cacheTimeout contexts expert target loop.calls loop.service
            pairs).foldl (fun value call =>
              update call.pair (callScore clock cacheTimeout expert target call) value)
            loop.value } := by
  induction pairs generalizing loop with
  | nil => rfl
  | cons pair pairs ih =>
      have hcalls : loop.calls + 1 + pairs.length = loop.calls + (pair :: pairs).length := by
        rw [List.length_cons]
        omega
      rw [List.foldl_cons, ih, callsFor, List.foldl_cons, afterCalls]
      simp only [callNext, callScore, hcalls]

/-- A loop in a loop is a loop over the pairs. -/
theorem foldl_foldl {α β γ : Type} (f : γ → α × β → γ) (l : List α) (l' : List β) (start : γ) :
    l.foldl (fun acc a => l'.foldl (fun acc b => f acc (a, b)) acc) start
      = (l ×ˢ l').foldl f start := by
  change _ = (l.flatMap fun a => l'.map (Prod.mk a)).foldl f start
  rw [List.foldl_flatMap]
  simp only [List.foldl_map]

variable (clock cacheTimeout) in
/-- The score of a call is the score that it returns. -/
theorem returns_calculateCompatibility (s : SkillCompatibilityService)
    (expertSkillId targetSkillId : String) (randomFactor : ℚ) :
    ∃ calledAt returnedAt,
      (s.calculateCompatibility clock cacheTimeout expertSkillId targetSkillId randomFactor).returns
        = s.returns ++ [⟨expertSkillId, targetSkillId,
            s.compatibility clock cacheTimeout expertSkillId targetSkillId randomFactor,
            calledAt, returnedAt⟩] := by
  cases hlive : s.liveEntry clock cacheTimeout (cacheKey expertSkillId targetSkillId) with
  | some data =>
      refine ⟨clock.reading s.reads, clock.reading (s.reads + 1), ?_⟩
      rw [calculateCompatibility_of_live hlive, compatibility, hlive]
  | none =>
      refine ⟨clock.reading s.reads, clock.reading (s.reads + 2), ?_⟩
      rw [calculateCompatibility_of_none hlive, compatibility, hlive]

/-! ### Runs -/

theorem reachable_interleave {s : SkillCompatibilityService}
    (hs : (skillCompatibility clock cacheTimeout).Reachable s)
    (actions : List CompatibilityAction) :
    (skillCompatibility clock cacheTimeout).Reachable
      (s.interleave clock cacheTimeout actions) := by
  induction actions generalizing s with
  | nil => exact hs
  | cons action actions ih =>
      refine ih (s := (s.step clock cacheTimeout action).getD s) ?_
      cases hstep : s.step clock cacheTimeout action with
      | none => exact hs
      | some t => exact hs.step trivial hstep

theorem reachable_calculateCompatibility {s : SkillCompatibilityService}
    (hs : (skillCompatibility clock cacheTimeout).Reachable s)
    (expertSkillId targetSkillId : String) (randomFactor : RandomFactor) :
    (skillCompatibility clock cacheTimeout).Reachable
      (s.calculateCompatibility clock cacheTimeout expertSkillId targetSkillId randomFactor) := by
  refine hs.step (l := .calculateCompatibility expertSkillId targetSkillId randomFactor) trivial ?_
  exact if_pos randomFactor.property

theorem reachable_afterCalls {s : SkillCompatibilityService}
    (hs : (skillCompatibility clock cacheTimeout).Reachable s) (pairs : List ι) (calls : ℕ) :
    (skillCompatibility clock cacheTimeout).Reachable
      (afterCalls clock cacheTimeout contexts expert target calls s pairs) := by
  induction pairs generalizing s calls with
  | nil => exact hs
  | cons pair pairs ih =>
      exact ih (reachable_calculateCompatibility (reachable_interleave hs _) _ _ _) _

theorem reachable_of_mem_callsFor {s : SkillCompatibilityService}
    (hs : (skillCompatibility clock cacheTimeout).Reachable s) {pairs : List ι} {calls : ℕ}
    {call : CompatibilityCall ι}
    (hcall : call ∈ callsFor clock cacheTimeout contexts expert target calls s pairs) :
    (skillCompatibility clock cacheTimeout).Reachable call.found := by
  induction pairs generalizing s calls with
  | nil => cases hcall
  | cons pair pairs ih =>
      have hfound := reachable_interleave hs (contexts calls).others
      rw [callsFor, List.mem_cons] at hcall
      rcases hcall with rfl | hcall
      · exact hfound
      · exact ih (reachable_calculateCompatibility hfound _ _ _) hcall

end

/-! ### Scores and categories -/

/-- A calculation comes out good exactly when the categories agree or are related. -/
theorem half_le_performCompatibilityCalculation (expertSkillId targetSkillId : String)
    (randomFactor : RandomFactor) :
    1 / 2 ≤ performCompatibilityCalculation expertSkillId targetSkillId randomFactor
      ↔ getSkillCategory expertSkillId = getSkillCategory targetSkillId
        ∨ areCategoriesRelated (getSkillCategory expertSkillId) (getSkillCategory targetSkillId)
          = true := by
  obtain ⟨factor, hlow, hhigh⟩ := randomFactor
  rw [performCompatibilityCalculation, calculateBaseCompatibility, le_min_iff]
  by_cases hsame : getSkillCategory expertSkillId = getSkillCategory targetSkillId
  · rw [if_pos hsame]
    refine iff_of_true ⟨by norm_num, ?_⟩ (.inl hsame)
    linarith
  · rw [if_neg hsame]
    by_cases hrelated : areCategoriesRelated (getSkillCategory expertSkillId)
        (getSkillCategory targetSkillId) = true
    · rw [if_pos hrelated]
      refine iff_of_true ⟨by norm_num, ?_⟩ (.inr hrelated)
      linarith
    · rw [if_neg hrelated]
      refine iff_of_false ?_ (not_or.mpr ⟨hsame, hrelated⟩)
      rintro ⟨-, hgood⟩
      linarith

end SkillCompatibilityService

end SkillTalk
