import Mathlib.Data.Finmap
import Mathlib.Data.Rat.Defs

/-!
# Skill models

Scores are exact rationals, which no modelled function but the compatibility calculation computes
with. A string stands for all the strings the source's `==` identifies with it.
-/

namespace SkillTalk

abbrev StringDictionary := Finmap fun _ : String => String

structure SkillCategory where
  id : String
  englishName : String
  icon : Option String
  sortOrder : Int
  translations : Option StringDictionary
  deriving DecidableEq

structure SkillSubcategory where
  id : String
  categoryId : String
  englishName : String
  icon : Option String
  sortOrder : Int
  description : Option String
  translations : Option StringDictionary
  deriving DecidableEq

inductive SkillDifficulty where
  | beginner
  | intermediate
  | advanced
  | expert
  deriving DecidableEq, Repr

def SkillDifficulty.rawValue : SkillDifficulty → String
  | .beginner => "beginner"
  | .intermediate => "intermediate"
  | .advanced => "advanced"
  | .expert => "expert"

structure Skill where
  id : String
  subcategoryId : String
  englishName : String
  difficulty : SkillDifficulty
  popularity : Int
  icon : Option String
  tags : List String
  translations : Option StringDictionary
  deriving DecidableEq

inductive UserSkillType where
  | expert
  | target
  deriving DecidableEq, Repr

structure SkillCompatibility where
  skillId : String
  compatibleSkills : Finmap fun _ : String => ℚ
  deriving DecidableEq

structure SkillAnalytics where
  skillId : String
  selectionCount : Int
  averageMatchRate : ℚ
  userSatisfactionRate : ℚ
  regionalPopularity : Finmap fun _ : String => ℚ
  deriving DecidableEq

end SkillTalk
