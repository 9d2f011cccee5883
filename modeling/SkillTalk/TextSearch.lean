import Mathlib.Data.List.Infix

/-!
# Searching in texts
-/

namespace SkillTalk

/-- Foundation's `text.contains(pattern)`, which does not find an empty pattern. A `Char` stands for
a Swift `Character`, so texts are equal up to canonical equivalence. -/
def containsText (text pattern : String) : Bool :=
  pattern ≠ "" && decide (pattern.toList <:+: text.toList)

/-- The text contains the query, both in lower case. -/
def containsIgnoringCase (lowercased : String → String) (text query : String) : Bool :=
  containsText (lowercased text) (lowercased query)

end SkillTalk
