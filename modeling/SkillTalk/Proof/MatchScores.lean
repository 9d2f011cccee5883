import Mathlib.Algebra.Order.BigOperators.Group.List
import Mathlib.Algebra.BigOperators.Ring.List
import SkillTalk.Proof.CompatibilityLoops

/-!
# Match scores stay in range

Every score that the cache holds or a call returns lies between `0.24` and `1`. The match score is
the mean of the weighted scores of all pairs, so it lies between the smallest and the largest.
-/

namespace SkillTalk

open CacheEntries

namespace SkillCompatibilityService

variable (clock : Clock Date) (cacheTimeout : TimeInterval) (contexts : ℕ → CallContext)

/-! ### The scores of calls -/

structure ScoreInRange (score : ℚ) : Prop where
  low : 6 / 25 ≤ score
  high : score ≤ 1

structure ScoresInRange (s : SkillCompatibilityService) : Prop where
  entries : AllEntries (fun _ data => ScoreInRange data.compatibilityScore) s.cache
  returns : ∀ r ∈ s.returns, ScoreInRange r.score

variable {clock cacheTimeout contexts}

theorem scoresInRange_initial : ScoresInRange initial := by
  refine ⟨.empty, ?_⟩
  intro r hr
  cases hr

theorem calculateBaseCompatibility_bounds (expertSkillId targetSkillId : String) :
    3 / 10 ≤ calculateBaseCompatibility expertSkillId targetSkillId
      ∧ calculateBaseCompatibility expertSkillId targetSkillId ≤ 9 / 10 := by
  unfold calculateBaseCompatibility
  dsimp only
  split_ifs <;> norm_num

theorem scoreInRange_performCompatibilityCalculation (expertSkillId targetSkillId : String)
    {randomFactor : ℚ} (hlow : 4 / 5 ≤ randomFactor) :
    ScoreInRange
      (performCompatibilityCalculation expertSkillId targetSkillId randomFactor) := by
  obtain ⟨hbase, -⟩ := calculateBaseCompatibility_bounds expertSkillId targetSkillId
  refine ⟨le_min (by norm_num) ?_, min_le_left _ _⟩
  calc (6 / 25 : ℚ) = 3 / 10 * (4 / 5) := by norm_num
    _ ≤ calculateBaseCompatibility expertSkillId targetSkillId * randomFactor := by
        gcongr

theorem ScoresInRange.compatibility {s : SkillCompatibilityService} (hs : ScoresInRange s)
    (expertSkillId targetSkillId : String) {randomFactor : ℚ} (hlow : 4 / 5 ≤ randomFactor) :
    ScoreInRange (s.compatibility clock cacheTimeout expertSkillId targetSkillId randomFactor) := by
  rw [SkillCompatibilityService.compatibility]
  cases hlive : s.liveEntry clock cacheTimeout (cacheKey expertSkillId targetSkillId) with
  | some data => exact hs.entries _ data (liveEntry_eq_some hlive).1
  | none => exact scoreInRange_performCompatibilityCalculation _ _ hlow

/-- A call stores nothing but a score it calculated. -/
theorem ScoresInRange.calculateCompatibility {s : SkillCompatibilityService}
    (hs : ScoresInRange s) (expertSkillId targetSkillId : String) {randomFactor : ℚ}
    (hlow : 4 / 5 ≤ randomFactor) :
    ScoresInRange
      (s.calculateCompatibility clock cacheTimeout expertSkillId targetSkillId randomFactor) := by
  constructor
  · cases hlive : s.liveEntry clock cacheTimeout (cacheKey expertSkillId targetSkillId) with
    | some data =>
        rw [calculateCompatibility_of_live hlive]
        exact hs.entries
    | none =>
        rw [calculateCompatibility_of_none hlive]
        exact hs.entries.insert (scoreInRange_performCompatibilityCalculation _ _ hlow)
  · obtain ⟨calledAt, returnedAt, hreturns⟩ := returns_calculateCompatibility clock
      cacheTimeout s expertSkillId targetSkillId randomFactor
    rw [hreturns, List.forall_mem_append]
    exact ⟨hs.returns, List.forall_mem_singleton.mpr (hs.compatibility _ _ hlow)⟩

theorem scoresInRange_of_reachable {s : SkillCompatibilityService}
    (hs : (skillCompatibility clock cacheTimeout).Reachable s) : ScoresInRange s := by
  refine Machine.ReachableWhere.invariant ScoresInRange ?_ ?_ hs
  · rintro s rfl
    exact scoresInRange_initial
  · intro s action t _ hs _ hstep
    cases action with
    | calculateCompatibility expertSkillId targetSkillId randomFactor =>
        have hstep : (if 4 / 5 ≤ randomFactor ∧ randomFactor ≤ 6 / 5 then
            some (s.calculateCompatibility clock cacheTimeout expertSkillId targetSkillId
              randomFactor)
          else none) = some t := hstep
        obtain ⟨hfactor, ht⟩ := Option.ite_none_right_eq_some.mp hstep
        exact Option.some.inj ht ▸ hs.calculateCompatibility _ _ hfactor.1
    | clearCache => exact Option.some.inj hstep ▸ ⟨.empty, hs.returns⟩
    | evict evicted => exact Option.some.inj hstep ▸ ⟨hs.entries.drop evicted, hs.returns⟩

/-! ### The mean -/

variable {α : Type} (f : α → ℚ)

theorem sum_map_const_mean {l : List α} (hne : l ≠ []) :
    (l.map fun _ => (l.map f).sum / l.length).sum = (l.map f).sum := by
  have hlength : (l.length : ℚ) ≠ 0 := by
    rw [Nat.cast_ne_zero]
    exact mt List.length_eq_zero_iff.mp hne
  rw [List.map_const', List.sum_replicate, nsmul_eq_mul, mul_div_cancel₀ _ hlength]

theorem exists_le_mean {l : List α} (hne : l ≠ []) : ∃ x ∈ l, f x ≤ (l.map f).sum / l.length := by
  apply List.exists_le_of_sum_le hne f fun _ => (l.map f).sum / l.length
  rw [sum_map_const_mean f hne]

theorem exists_mean_le {l : List α} (hne : l ≠ []) : ∃ x ∈ l, (l.map f).sum / l.length ≤ f x := by
  apply List.exists_le_of_sum_le hne (fun _ => (l.map f).sum / l.length) f
  rw [sum_map_const_mean f hne]

theorem numericValue_bounds (level : ProficiencyLevel) :
    1 ≤ level.numericValue ∧ level.numericValue ≤ 5 := by
  cases level <;> decide

theorem weight_bounds (level : ProficiencyLevel) :
    0 < (level.numericValue : ℚ) / 5 ∧ (level.numericValue : ℚ) / 5 ≤ 1 := by
  obtain ⟨hlow, hhigh⟩ := numericValue_bounds level
  have hlow : (1 : ℚ) ≤ level.numericValue := by exact_mod_cast hlow
  have hhigh : (level.numericValue : ℚ) ≤ 5 := by exact_mod_cast hhigh
  constructor <;> linarith

/-! ### The match score -/

variable (clock cacheTimeout contexts)

/-- The calls for the pairs of a user skill and a target skill. -/
def matchCalls (s : SkillCompatibilityService) (userSkills targetSkills : List UserSkill) :
    List (CompatibilityCall (UserSkill × UserSkill)) :=
  callsFor clock cacheTimeout contexts (fun pair => pair.1.skillId) (fun pair => pair.2.skillId) 0
    s (userSkills ×ˢ targetSkills)

/-- The pairs in order, each with the score that its call returns. -/
def pairScores (s : SkillCompatibilityService) (userSkills targetSkills : List UserSkill) :
    List ((UserSkill × UserSkill) × ℚ) :=
  (matchCalls clock cacheTimeout contexts s userSkills targetSkills).map fun call =>
    (call.pair, callScore clock cacheTimeout (fun pair => pair.1.skillId)
      (fun pair => pair.2.skillId) call)

variable {clock cacheTimeout contexts}

/-- A pair's score times both its skills' levels, each out of five. -/
def timesWeights (scored : (UserSkill × UserSkill) × ℚ) : ℚ :=
  scored.2 * ((scored.1.1.proficiencyLevel.numericValue : ℚ) / 5)
    * ((scored.1.2.proficiencyLevel.numericValue : ℚ) / 5)

/-- The score is the mean over all pairs of their scores times both weights, in range and zero only
for want of pairs. -/
structure IsMatchScore (userSkills targetSkills : List UserSkill)
    (scored : List ((UserSkill × UserSkill) × ℚ)) (score : ℚ) : Prop where
  pairs : scored.map Prod.fst = userSkills ×ˢ targetSkills
  mean : userSkills ≠ [] → targetSkills ≠ [] →
    score = (scored.map timesWeights).sum / (userSkills.length * targetSkills.length)
  nonneg : 0 ≤ score
  le_one : score ≤ 1
  smallest_le : scored ≠ [] → ∃ x ∈ scored, timesWeights x ≤ score
  le_largest : scored ≠ [] → ∃ x ∈ scored, score ≤ timesWeights x
  zero_iff : score = 0 ↔ userSkills = [] ∨ targetSkills = []

/-- The code's weighted score is the score times both levels out of five. -/
theorem weightedScore_eq (scored : (UserSkill × UserSkill) × ℚ) :
    weightedScore scored.2 scored.1.1 scored.1.2 = timesWeights scored := rfl

theorem ScoreInRange.timesWeights {scored : (UserSkill × UserSkill) × ℚ}
    (hscore : ScoreInRange scored.2) : 0 < timesWeights scored ∧ timesWeights scored ≤ 1 := by
  obtain ⟨huser, huser'⟩ := weight_bounds scored.1.1.proficiencyLevel
  obtain ⟨htarget, htarget'⟩ := weight_bounds scored.1.2.proficiencyLevel
  have hpos : 0 < scored.2 := by linarith [hscore.low]
  rw [SkillCompatibilityService.timesWeights]
  refine ⟨by positivity, ?_⟩
  apply mul_le_one₀ _ htarget.le htarget'
  exact mul_le_one₀ hscore.high huser.le huser'

variable (clock cacheTimeout contexts) in
theorem map_fst_pairScores (s : SkillCompatibilityService)
    (userSkills targetSkills : List UserSkill) :
    (pairScores clock cacheTimeout contexts s userSkills targetSkills).map Prod.fst
      = userSkills ×ˢ targetSkills := by
  rw [pairScores, List.map_map]
  exact map_pair_callsFor _ _ _

theorem length_of_pairs {userSkills targetSkills : List UserSkill}
    {scored : List ((UserSkill × UserSkill) × ℚ)}
    (hpairs : scored.map Prod.fst = userSkills ×ˢ targetSkills) :
    scored.length = userSkills.length * targetSkills.length := by
  rw [← List.length_map (f := Prod.fst), hpairs, List.length_product]

theorem length_pos_of_pairs {userSkills targetSkills : List UserSkill}
    {scored : List ((UserSkill × UserSkill) × ℚ)}
    (hpairs : scored.map Prod.fst = userSkills ×ˢ targetSkills)
    (huser : userSkills ≠ []) (htarget : targetSkills ≠ []) : 0 < scored.length := by
  rw [length_of_pairs hpairs]
  exact Nat.mul_pos (List.length_pos_iff.mpr huser) (List.length_pos_iff.mpr htarget)

/-- The loop of the match score, as a fold over its calls. -/
theorem matchLoop_eq (s : SkillCompatibilityService) (userSkills targetSkills : List UserSkill) :
    userSkills.foldl (fun loop userSkill =>
        targetSkills.foldl (fun loop targetSkill =>
          callNext clock cacheTimeout contexts loop userSkill.skillId targetSkill.skillId
            fun compatibility totals =>
              (⟨totals.totalScore + weightedScore compatibility userSkill targetSkill,
                totals.matchCount + 1⟩ : MatchTotals)) loop) ⟨s, 0, ⟨0, 0⟩⟩
      = { service := afterCalls clock cacheTimeout contexts (fun pair => pair.1.skillId)
            (fun pair => pair.2.skillId) 0 s (userSkills ×ˢ targetSkills)
          calls := (userSkills ×ˢ targetSkills).length
          value := (pairScores clock cacheTimeout contexts s userSkills targetSkills).foldl
            (fun totals scored =>
              ⟨totals.totalScore + timesWeights scored, totals.matchCount + 1⟩)
            ⟨0, 0⟩ } := by
  have hloop := foldl_callNext clock cacheTimeout contexts
    (fun pair : UserSkill × UserSkill => pair.1.skillId) (fun pair => pair.2.skillId)
    (fun pair compatibility totals =>
      ⟨totals.totalScore + weightedScore compatibility pair.1 pair.2, totals.matchCount + 1⟩)
    (userSkills ×ˢ targetSkills) ⟨s, 0, (⟨0, 0⟩ : MatchTotals)⟩
  rw [← foldl_foldl, Nat.zero_add] at hloop
  simp only [pairScores, List.foldl_map, ← weightedScore_eq]
  exact hloop

theorem foldl_totals (scored : List ((UserSkill × UserSkill) × ℚ)) (totals : MatchTotals) :
    scored.foldl (fun totals x =>
        (⟨totals.totalScore + timesWeights x, totals.matchCount + 1⟩ : MatchTotals)) totals
      = ⟨totals.totalScore + (scored.map timesWeights).sum,
          totals.matchCount + scored.length⟩ := by
  induction scored generalizing totals with
  | nil => simp
  | cons x scored ih =>
      rw [List.foldl_cons, ih, List.map_cons, List.sum_cons, List.length_cons, add_assoc,
        add_assoc, Nat.add_comm 1]

/-- The divisor counts every pair. -/
theorem getSkillMatchScore_eq (s : SkillCompatibilityService)
    {userSkills targetSkills : List UserSkill} (huser : userSkills ≠ [])
    (htarget : targetSkills ≠ []) :
    let scored := pairScores clock cacheTimeout contexts s userSkills targetSkills
    (getSkillMatchScore clock cacheTimeout contexts s userSkills targetSkills).1
      = some ((scored.map timesWeights).sum / scored.length) := by
  intro scored
  have htotals := foldl_totals scored ⟨0, 0⟩
  have hpos : 0 < scored.length :=
    length_pos_of_pairs (map_fst_pairScores clock cacheTimeout contexts s _ _) huser htarget
  have hne : (scored.length : ℚ) ≠ 0 := by
    rw [Nat.cast_ne_zero]
    exact hpos.ne'
  rw [zero_add, Nat.zero_add] at htotals
  rw [getSkillMatchScore, if_neg (not_or.mpr ⟨huser, htarget⟩)]
  dsimp only
  rw [matchLoop_eq, htotals, if_pos hpos, quotient, if_neg hne]

theorem isMatchScore_zero {userSkills targetSkills : List UserSkill}
    (hempty : userSkills = [] ∨ targetSkills = []) :
    IsMatchScore userSkills targetSkills [] 0 := by
  have hpairs : userSkills ×ˢ targetSkills = [] := by
    rcases hempty with rfl | rfl
    · exact List.nil_product _
    · exact List.product_nil _
  refine ⟨hpairs.symm, ?_, le_rfl, zero_le_one, fun h => absurd rfl h, fun h => absurd rfl h,
    iff_of_true rfl hempty⟩
  intro huser htarget
  exact absurd hempty (not_or.mpr ⟨huser, htarget⟩)

/-- The mean of positive weighted scores, none above one. -/
theorem isMatchScore_mean {userSkills targetSkills : List UserSkill}
    {scored : List ((UserSkill × UserSkill) × ℚ)}
    (huser : userSkills ≠ []) (htarget : targetSkills ≠ [])
    (hpairs : scored.map Prod.fst = userSkills ×ˢ targetSkills)
    (hbounds : ∀ x ∈ scored, 0 < timesWeights x ∧ timesWeights x ≤ 1) :
    IsMatchScore userSkills targetSkills scored
      ((scored.map timesWeights).sum / scored.length) := by
  have hne : scored ≠ [] := List.length_pos_iff.mp (length_pos_of_pairs hpairs huser htarget)
  obtain ⟨smallest, hsmallest, hle⟩ := exists_le_mean timesWeights hne
  obtain ⟨largest, hlargest, hge⟩ := exists_mean_le timesWeights hne
  have hmean : 0 < (scored.map timesWeights).sum / scored.length :=
    (hbounds _ hsmallest).1.trans_le hle
  refine ⟨hpairs, ?_, hmean.le, hge.trans (hbounds _ hlargest).2, fun _ => ⟨_, hsmallest, hle⟩,
    fun _ => ⟨_, hlargest, hge⟩, iff_of_false hmean.ne' (not_or.mpr ⟨huser, htarget⟩)⟩
  intro _ _
  rw [length_of_pairs hpairs, Nat.cast_mul]

theorem pairScores_bounds {s : SkillCompatibilityService}
    (hs : (skillCompatibility clock cacheTimeout).Reachable s)
    (userSkills targetSkills : List UserSkill) :
    ∀ x ∈ pairScores clock cacheTimeout contexts s userSkills targetSkills,
      0 < timesWeights x ∧ timesWeights x ≤ 1 := by
  intro x hx
  obtain ⟨call, hcall, rfl⟩ := List.mem_map.mp hx
  have hfound := scoresInRange_of_reachable (reachable_of_mem_callsFor hs hcall)
  exact (hfound.compatibility _ _ call.randomFactor.property.1).timesWeights

/-- The loop's calls go on with the run. -/
theorem reachable_getSkillMatchScore {s : SkillCompatibilityService}
    (hs : (skillCompatibility clock cacheTimeout).Reachable s) (contexts : ℕ → CallContext)
    (userSkills targetSkills : List UserSkill) :
    (skillCompatibility clock cacheTimeout).Reachable
      (getSkillMatchScore clock cacheTimeout contexts s userSkills targetSkills).2 := by
  rw [getSkillMatchScore]
  by_cases hempty : userSkills = [] ∨ targetSkills = []
  · rw [if_pos hempty]
    exact hs
  · rw [if_neg hempty, matchLoop_eq]
    exact reachable_afterCalls hs _ _

/-- **Match scores stay in range.** In every run the scores returned lie between `0.24` and `1`, and
the match score of two lists is then the mean of their pairs' scores times both weights. -/
theorem match_scores_in_range {s : SkillCompatibilityService}
    (hs : (skillCompatibility clock cacheTimeout).Reachable s) :
    (∀ r ∈ s.returns, 6 / 25 ≤ r.score ∧ r.score ≤ 1)
      ∧ ∀ (contexts : ℕ → CallContext) (userSkills targetSkills : List UserSkill),
          ∃ score, (getSkillMatchScore clock cacheTimeout contexts s userSkills targetSkills).1
              = some score
            ∧ IsMatchScore userSkills targetSkills
                (pairScores clock cacheTimeout contexts s userSkills targetSkills) score
            ∧ (skillCompatibility clock cacheTimeout).Reachable
                (getSkillMatchScore clock cacheTimeout contexts s userSkills targetSkills).2 := by
  refine ⟨fun r hr => ?_, fun contexts userSkills targetSkills => ?_⟩
  · have hrange := (scoresInRange_of_reachable hs).returns r hr
    exact ⟨hrange.low, hrange.high⟩
  · have hafter := reachable_getSkillMatchScore hs contexts userSkills targetSkills
    by_cases hempty : userSkills = [] ∨ targetSkills = []
    · have hpairs := map_fst_pairScores clock cacheTimeout contexts s userSkills targetSkills
      have hnone : pairScores clock cacheTimeout contexts s userSkills targetSkills = [] := by
        rw [(isMatchScore_zero hempty).pairs.symm, List.map_nil, List.map_eq_nil_iff] at hpairs
        exact hpairs
      refine ⟨0, ?_, hnone ▸ isMatchScore_zero hempty, hafter⟩
      rw [getSkillMatchScore, if_pos hempty]
    · obtain ⟨huser, htarget⟩ := not_or.mp hempty
      exact ⟨_, getSkillMatchScore_eq s huser htarget,
        isMatchScore_mean huser htarget (map_fst_pairScores clock cacheTimeout contexts s _ _)
          (pairScores_bounds hs userSkills targetSkills), hafter⟩

/-- The pair's score is in the cache when the match score is asked for: `0.9`, for skills of one
category, times `5 / 5` and `2 / 5`. -/
theorem match_scores_in_range_of_hit :
    let clock := Clock.ofGaps []
    let contexts : ℕ → CallContext := fun _ => ⟨[], 6 / 5, by norm_num⟩
    let s := initial.calculateCompatibility clock 3600 "python" "java" 1
    (skillCompatibility clock 3600).exec initial [.calculateCompatibility "python" "java" 1] = some s
      ∧ (getSkillMatchScore clock 3600 contexts s [⟨"python", .expert⟩] [⟨"java", .beginner⟩]).1
        = some (9 / 10 * (5 / 5) * (2 / 5)) := by
  intro clock contexts s
  have hexec : (skillCompatibility clock 3600).exec initial
      [.calculateCompatibility "python" "java" 1] = some s := by
    rw [Machine.exec_cons_of_step (if_pos (by norm_num))]
    rfl
  have hreach : (skillCompatibility clock 3600).Reachable s :=
    Machine.reachableWhere_of_exec rfl _ hexec fun _ _ => trivial
  obtain ⟨score, hscore, hmean, -⟩ := (match_scores_in_range hreach).2 contexts
    [⟨"python", .expert⟩] [⟨"java", .beginner⟩]
  have hscored : pairScores clock 3600 contexts s [⟨"python", .expert⟩] [⟨"java", .beginner⟩]
      = [((⟨"python", .expert⟩, ⟨"java", .beginner⟩), 9 / 10)] := by
    decide +kernel
  refine ⟨hexec, ?_⟩
  rw [hscore, hmean.mean (by simp) (by simp), hscored]
  norm_num [timesWeights, ProficiencyLevel.numericValue]

end SkillCompatibilityService

end SkillTalk
