import SkillTalk.Library.TopK
import SkillTalk.Proof.CompatibilityLoops

/-!
# The optimal pairs

An entry is made for each call with a good score, and the available skill stands in both of its
places. So the entries are right exactly when every good call was for one and the same id.
-/

namespace SkillTalk

namespace SkillCompatibilityService

open TopK

variable (clock : Clock Date) (cacheTimeout : TimeInterval) (contexts : ℕ → CallContext)

/-- The calls for the pairs of a user skill and an available skill. -/
def pairCalls (s : SkillCompatibilityService) (userSkills : List UserSkill)
    (availableSkills : List Skill) : List (CompatibilityCall (UserSkill × Skill)) :=
  callsFor clock cacheTimeout contexts (fun pair => pair.1.skillId) (fun pair => pair.2.id) 0 s
    (userSkills ×ˢ availableSkills)

def pairScore (call : CompatibilityCall (UserSkill × Skill)) : ℚ :=
  callScore clock cacheTimeout (fun pair : UserSkill × Skill => pair.1.skillId)
    (fun pair => pair.2.id) call

def goodCalls (calls : List (CompatibilityCall (UserSkill × Skill))) :
    List (CompatibilityCall (UserSkill × Skill)) :=
  calls.filter fun call => 1 / 2 ≤ pairScore clock cacheTimeout call

/-- The entry names the skills of the call and its score. -/
structure EntryFor (call : CompatibilityCall (UserSkill × Skill)) (entry : OptimalPair) : Prop where
  expert : entry.expert.id = call.pair.1.skillId
  target : entry.target = call.pair.2
  score : entry.score = pairScore clock cacheTimeout call

/-- One entry for each call with a good score, in order of score. -/
structure ListsGoodPairs (calls : List (CompatibilityCall (UserSkill × Skill)))
    (pairs : List OptimalPair) : Prop where
  entries : ∃ entries, List.Forall₂ (EntryFor clock cacheTimeout)
    (goodCalls clock cacheTimeout calls) entries ∧ entries.Perm pairs
  descending : pairs.Pairwise fun a b => b.score ≤ a.score

/-- The service holds a low score for the pair of the call, or none and its calculation will come
out low. -/
def FindsLow (call : CompatibilityCall (UserSkill × Skill)) : Prop :=
  match call.found.liveEntry clock cacheTimeout (cacheKey call.pair.1.skillId call.pair.2.id) with
  | some cachedData => cachedData.compatibilityScore < 1 / 2
  | none =>
      getSkillCategory call.pair.1.skillId ≠ getSkillCategory call.pair.2.id
        ∧ areCategoriesRelated (getSkillCategory call.pair.1.skillId)
          (getSkillCategory call.pair.2.id) = false

variable {clock cacheTimeout contexts}

theorem findsLow_iff {call : CompatibilityCall (UserSkill × Skill)} :
    FindsLow clock cacheTimeout call ↔ pairScore clock cacheTimeout call < 1 / 2 := by
  rw [FindsLow, pairScore, callScore, compatibility]
  cases call.found.liveEntry clock cacheTimeout
      (cacheKey call.pair.1.skillId call.pair.2.id) with
  | some cachedData => exact Iff.rfl
  | none =>
      dsimp only
      rw [← not_le, half_le_performCompatibilityCalculation, not_or, Bool.not_eq_true]

/-- The entry that a good call makes. -/
def madeFor (clock : Clock Date) (cacheTimeout : TimeInterval)
    (call : CompatibilityCall (UserSkill × Skill)) : OptimalPair :=
  ⟨call.pair.2, call.pair.2, pairScore clock cacheTimeout call⟩

theorem foldl_goodPairs (calls : List (CompatibilityCall (UserSkill × Skill)))
    (pairs : List OptimalPair) :
    calls.foldl (fun pairs call =>
        if pairScore clock cacheTimeout call ≥ 1 / 2 then
          pairs ++ [madeFor clock cacheTimeout call]
        else pairs) pairs
      = pairs ++ (goodCalls clock cacheTimeout calls).map (madeFor clock cacheTimeout) := by
  induction calls generalizing pairs with
  | nil => simp [goodCalls]
  | cons call calls ih =>
      rw [List.foldl_cons, ih, goodCalls, goodCalls]
      by_cases hgood : pairScore clock cacheTimeout call ≥ 1 / 2
      · rw [if_pos hgood, List.filter_cons_of_pos (by simpa using hgood), List.map_cons,
          List.append_assoc, List.singleton_append]
      · rw [if_neg hgood, List.filter_cons_of_neg (by simpa using hgood)]

theorem getOptimalSkillPairs_eq (s : SkillCompatibilityService) (userSkills : List UserSkill)
    (availableSkills : List Skill) :
    (getOptimalSkillPairs clock cacheTimeout contexts s userSkills availableSkills).1
      = ((goodCalls clock cacheTimeout
            (pairCalls clock cacheTimeout contexts s userSkills availableSkills)).map
          (madeFor clock cacheTimeout)).mergeSort (descendingLE OptimalPair.score) := by
  have hloop := foldl_callNext clock cacheTimeout contexts
    (fun pair : UserSkill × Skill => pair.1.skillId) (fun pair => pair.2.id)
    (fun pair compatibility pairs =>
      if compatibility ≥ 1 / 2 then pairs ++ [⟨pair.2, pair.2, compatibility⟩] else pairs)
    (userSkills ×ˢ availableSkills) ⟨s, 0, ([] : List OptimalPair)⟩
  rw [← foldl_foldl] at hloop
  rw [getOptimalSkillPairs, hloop]
  exact congrArg (·.mergeSort (descendingLE OptimalPair.score))
    (foldl_goodPairs (pairCalls clock cacheTimeout contexts s userSkills availableSkills) [])

/-- Whatever is listed names one skill twice. -/
theorem expert_eq_target {s : SkillCompatibilityService} {userSkills : List UserSkill}
    {availableSkills : List Skill} {entry : OptimalPair}
    (hentry : entry ∈ (getOptimalSkillPairs clock cacheTimeout contexts s userSkills
      availableSkills).1) : entry.expert = entry.target := by
  rw [getOptimalSkillPairs_eq, List.mem_mergeSort, List.mem_map] at hentry
  obtain ⟨call, -, rfl⟩ := hentry
  rfl

theorem exists_of_mem_left {α β : Type*} {R : α → β → Prop} {l : List α} {l' : List β}
    (h : List.Forall₂ R l l') {a : α} (ha : a ∈ l) : ∃ b ∈ l', R a b := by
  induction h with
  | nil => cases ha
  | @cons a' b l l' hR _ ih =>
      rcases List.mem_cons.mp ha with rfl | ha
      · exact ⟨b, List.mem_cons_self, hR⟩
      · obtain ⟨b', hb', hR'⟩ := ih ha
        exact ⟨b', List.mem_cons_of_mem _ hb', hR'⟩

variable (clock cacheTimeout contexts) in
/-- **The entries are right exactly when each good call was for one id**: a call for two different
ids finds a low score, or none and the categories are neither equal nor related. -/
theorem optimal_pairs_listed_iff (s : SkillCompatibilityService) (userSkills : List UserSkill)
    (availableSkills : List Skill) :
    ListsGoodPairs clock cacheTimeout
        (pairCalls clock cacheTimeout contexts s userSkills availableSkills)
        (getOptimalSkillPairs clock cacheTimeout contexts s userSkills availableSkills).1
      ↔ ∀ call ∈ pairCalls clock cacheTimeout contexts s userSkills availableSkills,
          call.pair.1.skillId ≠ call.pair.2.id → FindsLow clock cacheTimeout call := by
  constructor
  · intro hlists call hcall hne
    obtain ⟨entries, hmatch, hperm⟩ := hlists.entries
    rw [findsLow_iff, ← not_le]
    intro hgood
    have hmem : call ∈ goodCalls clock cacheTimeout
        (pairCalls clock cacheTimeout contexts s userSkills availableSkills) :=
      List.mem_filter.mpr ⟨hcall, decide_eq_true hgood⟩
    obtain ⟨entry, hentry, hfor⟩ := exists_of_mem_left hmatch hmem
    have hsame : entry.expert = entry.target := expert_eq_target (hperm.mem_iff.mp hentry)
    apply hne
    rw [← hfor.expert, hsame, hfor.target]
  · intro hlow
    rw [getOptimalSkillPairs_eq]
    refine ⟨⟨_, ?_, (List.mergeSort_perm _ _).symm⟩, pairwise_sort OptimalPair.score _⟩
    rw [List.forall₂_map_right_iff, List.forall₂_same]
    intro call hcall
    obtain ⟨hcall, hgood⟩ := List.mem_filter.mp hcall
    refine ⟨?_, rfl, rfl⟩
    by_contra hne
    have hscore := findsLow_iff.mp (hlow call hcall (Ne.symm hne))
    exact absurd (of_decide_eq_true hgood) (not_le.mpr hscore)

/-- Python programming goes well with Swift programming, and the entry names Swift as the expert's
skill. -/
theorem expert_named_as_target :
    let clock := Clock.ofGaps []
    let contexts : ℕ → CallContext := fun _ => ⟨[], 1, by norm_num⟩
    let userSkills : List UserSkill := [⟨"python_programming", .expert⟩]
    let availableSkills : List Skill :=
      [⟨"swift_programming", "coding", "Swift", .beginner, 90, none, [], none⟩]
    ¬ ListsGoodPairs clock 3600 (pairCalls clock 3600 contexts initial userSkills availableSkills)
      (getOptimalSkillPairs clock 3600 contexts initial userSkills availableSkills).1 := by
  intro clock contexts userSkills availableSkills hlists
  obtain ⟨entries, hmatch, hperm⟩ := hlists.entries
  have hgood : (goodCalls clock 3600
      (pairCalls clock 3600 contexts initial userSkills availableSkills)).map
        (fun call => call.pair.1.skillId) = ["python_programming"] := by
    decide +kernel
  obtain ⟨call, hcall, hid⟩ := List.mem_map.mp (hgood ▸ List.mem_singleton_self _)
  obtain ⟨entry, hentry, hfor⟩ := exists_of_mem_left hmatch hcall
  have hlisted : (getOptimalSkillPairs clock 3600 contexts initial userSkills
      availableSkills).1.map (fun entry => entry.expert.id) = ["swift_programming"] := by
    decide +kernel
  have hexpert : entry.expert.id ∈ ["swift_programming"] :=
    hlisted ▸ List.mem_map_of_mem (hperm.mem_iff.mp hentry)
  rw [List.mem_singleton, hfor.expert, hid] at hexpert
  exact absurd hexpert (by decide)

end SkillCompatibilityService

end SkillTalk
