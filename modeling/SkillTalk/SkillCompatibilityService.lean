import Mathlib.Algebra.Order.Ring.Rat
import SkillTalk.Library.Clock
import SkillTalk.Library.Machine
import SkillTalk.ServiceTypes
import SkillTalk.TextSearch

/-!
# The skill compatibility service

A score is calculated from the two skills' categories and a random factor, and cached under a key
made of both ids. Scores are exact rationals. A score is dated by the clock reading its cache entry
is stamped with, the first one after its calculation. The cache may drop any entries at any time.
-/

namespace SkillTalk

def getSkillCategory (skillId : String) : String :=
  if containsText skillId "programming" || containsText skillId "coding" then "technology"
  else if containsText skillId "design" || containsText skillId "art" then "creative"
  else if containsText skillId "language" || containsText skillId "speaking" then "communication"
  else if containsText skillId "sport" || containsText skillId "fitness" then "physical"
  else "general"

def relatedCategories : List (String × List String) :=
  [("technology", ["creative", "communication"]), ("creative", ["technology", "communication"]),
    ("communication", ["technology", "creative"]), ("physical", ["general"]),
    ("general", ["physical"])]

def areCategoriesRelated (category1 category2 : String) : Bool :=
  match relatedCategories.lookup category1 with
  | none => false
  | some related => related.contains category2

def calculateBaseCompatibility (expertSkillId targetSkillId : String) : ℚ :=
  let expertCategory := getSkillCategory expertSkillId
  let targetCategory := getSkillCategory targetSkillId
  if expertCategory = targetCategory then 9 / 10
  else if areCategoriesRelated expertCategory targetCategory then 7 / 10
  else 3 / 10

def performCompatibilityCalculation (expertSkillId targetSkillId : String) (randomFactor : ℚ) : ℚ :=
  min 1 (calculateBaseCompatibility expertSkillId targetSkillId * randomFactor)

structure CachedCompatibilityData where
  compatibilityScore : ℚ
  timestamp : Date
  deriving DecidableEq

def CachedCompatibilityData.isExpired (data : CachedCompatibilityData) (timeout : TimeInterval)
    (now : Date) : Bool := now - data.timestamp > timeout

/-- A score `performCompatibilityCalculation` produced. -/
structure CalculatedScore where
  expertSkillId : String
  targetSkillId : String
  score : ℚ
  calculatedAt : Date
  deriving DecidableEq

/-- A score `calculateCompatibility` returned. -/
structure ReturnedScore where
  expertSkillId : String
  targetSkillId : String
  score : ℚ
  calledAt : Date
  returnedAt : Date
  deriving DecidableEq

structure SkillCompatibilityService where
  cache : String → Option CachedCompatibilityData
  reads : ℕ
  -- every score calculated and every score returned, oldest first
  calculations : List CalculatedScore
  returns : List ReturnedScore

inductive CompatibilityAction where
  | calculateCompatibility (expertSkillId targetSkillId : String) (randomFactor : ℚ)
  | clearCache
  | evict (evicted : String → Bool)

namespace SkillCompatibilityService

def initial : SkillCompatibilityService where
  cache _ := none
  reads := 0
  calculations := []
  returns := []

def cacheKey (expertSkillId targetSkillId : String) : String :=
  "compatibility_" ++ expertSkillId ++ "_" ++ targetSkillId

variable (clock : Clock Date) (cacheTimeout : TimeInterval)

/-- The entry under the key, unless it has expired. The first reading of a call dates the call, and
the second one is what the entry's age is measured at. -/
def liveEntry (s : SkillCompatibilityService) (key : String) : Option CachedCompatibilityData :=
  (s.cache key).filter fun data => !data.isExpired cacheTimeout (clock.reading (s.reads + 1))

def calculateCompatibility (s : SkillCompatibilityService) (expertSkillId targetSkillId : String)
    (randomFactor : ℚ) : SkillCompatibilityService :=
  let key := cacheKey expertSkillId targetSkillId
  let calledAt := clock.reading s.reads
  match s.liveEntry clock cacheTimeout key with
  | some cachedData =>
      { s with
        reads := s.reads + 2
        returns := s.returns ++
          [⟨expertSkillId, targetSkillId, cachedData.compatibilityScore, calledAt,
            clock.reading (s.reads + 1)⟩] }
  | none =>
      let score := performCompatibilityCalculation expertSkillId targetSkillId randomFactor
      let now := clock.reading (s.reads + 2)
      { s with
        reads := s.reads + 3
        cache := Function.update s.cache key (some ⟨score, now⟩)
        calculations := s.calculations ++ [⟨expertSkillId, targetSkillId, score, now⟩]
        returns := s.returns ++ [⟨expertSkillId, targetSkillId, score, calledAt, now⟩] }

/-- Random factors are drawn from `0.8...1.2`. -/
def step (s : SkillCompatibilityService) : CompatibilityAction → Option SkillCompatibilityService
  | .calculateCompatibility expertSkillId targetSkillId randomFactor =>
      if 4 / 5 ≤ randomFactor ∧ randomFactor ≤ 6 / 5 then
        some (s.calculateCompatibility clock cacheTimeout expertSkillId targetSkillId randomFactor)
      else none
  | .clearCache => some { s with cache := fun _ => none }
  | .evict evicted => some { s with cache := fun key => if evicted key then none else s.cache key }

end SkillCompatibilityService

def skillCompatibility (clock : Clock Date) (cacheTimeout : TimeInterval) :
    Machine SkillCompatibilityService CompatibilityAction where
  Init s := s = SkillCompatibilityService.initial
  step := SkillCompatibilityService.step clock cacheTimeout

end SkillTalk
