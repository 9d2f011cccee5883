import SkillTalk.SkillSelectionViewModel

/-!
# The skill selection view

The view is given a category and a subcategory and makes a view model of its own, for English. It
keeps the category for its header and passes it on to no one.
-/

namespace SkillTalk

structure SkillSelectionView where
  category : SkillCategory
  subcategory : SkillSubcategory
  deriving DecidableEq

namespace SkillSelectionView

/-- The load that `onAppear` and the button "Retry" start. -/
def load (view : SkillSelectionView) : SelectionAction := .loadSkills view.subcategory.id

/-- What the view does with its view model, and what goes on by itself. -/
def Does (view : SkillSelectionView) : SelectionAction → Prop
  | .loadSkills subcategoryId => subcategoryId = view.subcategory.id
  | .editSearch _ | .searchSkills | .clearSearch | .run _ _ => True
  | _ => False

end SkillSelectionView

end SkillTalk
