import Mathlib.Data.Finmap
import SkillTalk.SkillCompatibilityService
import SkillTalk.SkillModels

/-!
# Matching skills

The match score and the optimal pairs of two lists of skills come from one call of
`calculateCompatibility` for each pair. Between two calls of a loop the service may do anything for
others, and its cache may drop entries. Nothing in a call throws. The compatible skills of a skill
are a dictionary of the repository, whose entries come in any order.
-/

namespace SkillTalk

inductive ProficiencyLevel where
  | novice
  | beginner
  | intermediate
  | advanced
  | expert
  deriving DecidableEq, Repr

def ProficiencyLevel.numericValue : ProficiencyLevel → ℕ
  | .novice => 1
  | .beginner => 2
  | .intermediate => 3
  | .advanced => 4
  | .expert => 5

structure UserSkill where
  skillId : String
  proficiencyLevel : ProficiencyLevel
  deriving DecidableEq

/-- An element of `0.8...1.2`. -/
abbrev RandomFactor := {factor : ℚ // 4 / 5 ≤ factor ∧ factor ≤ 6 / 5}

/-- What comes before a call of a loop, and the factor that its calculation draws, if any. -/
structure CallContext where
  others : List CompatibilityAction
  randomFactor : RandomFactor

/-- A call as a loop makes it for one of its pairs. -/
structure CompatibilityCall (ι : Type) where
  found : SkillCompatibilityService
  pair : ι
  randomFactor : RandomFactor

/-- A loop of calls: the service, the number of calls made, and what the loop has computed. -/
structure CallLoop (α : Type) where
  service : SkillCompatibilityService
  calls : ℕ
  value : α

structure OptimalPair where
  expert : Skill
  target : Skill
  score : ℚ
  deriving DecidableEq

structure MatchTotals where
  totalScore : ℚ
  matchCount : ℕ
  deriving DecidableEq

/-- Division, without a result where the divisor is zero. -/
def quotient (dividend divisor : ℚ) : Option ℚ :=
  if divisor = 0 then none else some (dividend / divisor)

namespace SkillCompatibilityService

variable (clock : Clock Date) (cacheTimeout : TimeInterval)

/-- The score that `calculateCompatibility` returns. -/
def compatibility (s : SkillCompatibilityService) (expertSkillId targetSkillId : String)
    (randomFactor : ℚ) : ℚ :=
  match s.liveEntry clock cacheTimeout (cacheKey expertSkillId targetSkillId) with
  | some cachedData => cachedData.compatibilityScore
  | none => performCompatibilityCalculation expertSkillId targetSkillId randomFactor

/-- The service after these actions; one that is not enabled does nothing. -/
def interleave (s : SkillCompatibilityService) (actions : List CompatibilityAction) :
    SkillCompatibilityService :=
  actions.foldl (fun s action => (s.step clock cacheTimeout action).getD s) s

variable (contexts : ℕ → CallContext)

/-- The next call of a loop. -/
def callNext {α : Type} (loop : CallLoop α) (expertSkillId targetSkillId : String)
    (update : ℚ → α → α) : CallLoop α :=
  let context := contexts loop.calls
  let s := loop.service.interleave clock cacheTimeout context.others
  let compatibility := s.compatibility clock cacheTimeout expertSkillId targetSkillId
    context.randomFactor
  { service := s.calculateCompatibility clock cacheTimeout expertSkillId targetSkillId
      context.randomFactor
    calls := loop.calls + 1
    value := update compatibility loop.value }

def weightedScore (compatibility : ℚ) (userSkill targetSkill : UserSkill) : ℚ :=
  let userProficiencyWeight : ℚ := userSkill.proficiencyLevel.numericValue / 5
  let targetProficiencyWeight : ℚ := targetSkill.proficiencyLevel.numericValue / 5
  compatibility * userProficiencyWeight * targetProficiencyWeight

def getSkillMatchScore (s : SkillCompatibilityService) (userSkills targetSkills : List UserSkill) :
    Option ℚ × SkillCompatibilityService :=
  if userSkills = [] ∨ targetSkills = [] then (some 0, s)
  else
    let loop := userSkills.foldl (fun loop userSkill =>
      targetSkills.foldl (fun loop targetSkill =>
        callNext clock cacheTimeout contexts loop userSkill.skillId targetSkill.skillId
          fun compatibility totals =>
            ⟨totals.totalScore + weightedScore compatibility userSkill targetSkill,
              totals.matchCount + 1⟩) loop)
      ⟨s, 0, (⟨0, 0⟩ : MatchTotals)⟩
    let totals := loop.value
    (if totals.matchCount > 0 then quotient totals.totalScore totals.matchCount else some 0,
      loop.service)

def getOptimalSkillPairs (s : SkillCompatibilityService) (userSkills : List UserSkill)
    (availableSkills : List Skill) : List OptimalPair × SkillCompatibilityService :=
  let loop := userSkills.foldl (fun loop userSkill =>
    availableSkills.foldl (fun loop availableSkill =>
      callNext clock cacheTimeout contexts loop userSkill.skillId availableSkill.id
        fun compatibility pairs =>
          if compatibility ≥ 1 / 2 then pairs ++ [⟨availableSkill, availableSkill, compatibility⟩]
          else pairs) loop)
    ⟨s, 0, ([] : List OptimalPair)⟩
  (loop.value.mergeSort fun a b => !decide (b.score > a.score), loop.service)

end SkillCompatibilityService

/-! ### The compatible skills of a skill -/

/-- The entries of dictionaries in the order in which they are enumerated. -/
structure DictionaryOrder where
  enumerate : (Finmap fun _ : String => ℚ) → List (Σ _ : String, ℚ)
  entries_eq : ∀ dictionary,
    (enumerate dictionary : Multiset (Σ _ : String, ℚ)) = dictionary.entries

inductive SkillCompatibilityFailure where
  | fetchError (message : String)
  | trapped
  deriving DecidableEq

/-- `getSkillCompatibility skillId` is what the repository answers; a negative prefix traps. -/
def getCompatibleSkills (order : DictionaryOrder)
    (getSkillCompatibility : String → Except String SkillCompatibility) (skillId : String)
    (limit : Int) : Except SkillCompatibilityFailure (List SkillCompatibility) :=
  match getSkillCompatibility skillId with
  | .error description =>
      .error (.fetchError ("Failed to get compatible skills: " ++ description))
  | .ok compatibility =>
      let sorted := (order.enumerate compatibility.compatibleSkills).mergeSort fun a b =>
        !decide (b.2 > a.2)
      if limit < 0 then .error .trapped
      else .ok ((sorted.take limit.toNat).map fun entry =>
        ⟨entry.1, Finmap.singleton entry.1 entry.2⟩)

end SkillTalk
