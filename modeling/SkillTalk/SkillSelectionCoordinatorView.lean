import SkillTalk.SkillSelectionViewModel

/-!
# The skill selection sheet

Each sheet has a view model of its own, which starts with nothing selected and whose loads run
while the user browses. The controls shown depend on the step the view model is on.
-/

namespace SkillTalk

namespace SkillSelectionCoordinatorView

/-- `init`, with the task that `onAppear` creates. -/
def opened : SkillSelection where
  shared := .initial
  tasks := [.created .loadCategories]

/-- The controls that browse, and what goes on by itself: the tasks, and the debounced search. -/
def Browses (s : SkillSelectionViewModel) : SelectionAction → Prop
  | .selectCategory category => s.currentStep = .categories ∧ category ∈ s.categories
  | .selectSubcategory subcategory => s.currentStep = .subcategories ∧ subcategory ∈ s.subcategories
  | .goBack => s.canGoBack = true
  | .editSearch _ => s.currentStep = .skills
  | .searchSkills => True
  | .run _ _ => True
  | _ => False

instance (s : SkillSelectionViewModel) : (action : SelectionAction) → Decidable (Browses s action)
  | .selectCategory category =>
      inferInstanceAs (Decidable (s.currentStep = .categories ∧ category ∈ s.categories))
  | .selectSubcategory subcategory =>
      inferInstanceAs (Decidable (s.currentStep = .subcategories ∧ subcategory ∈ s.subcategories))
  | .goBack => inferInstanceAs (Decidable (s.canGoBack = true))
  | .editSearch _ => inferInstanceAs (Decidable (s.currentStep = .skills))
  | .searchSkills | .run _ _ => inferInstanceAs (Decidable True)
  | .loadCategories | .clearSearch | .loadSkills _ | .loadPopularSkills | .loadSkillsByDifficulty _
  | .clearSelections => inferInstanceAs (Decidable False)

/-- The cards are those of `filteredSkills`, shown on the skills step. -/
def ShowsSkill (s : SkillSelectionViewModel) (skill : Skill) : Prop :=
  s.currentStep = .skills ∧ skill ∈ s.filteredSkills

instance (s : SkillSelectionViewModel) (skill : Skill) : Decidable (ShowsSkill s skill) :=
  inferInstanceAs (Decidable (_ ∧ _))

def tapSkillCard (s : SkillSelectionViewModel) (skill : Skill) : SkillSelectionViewModel :=
  if !s.selectedSkills.any (fun selected => selected.id == skill.id) then
    -- where an upgrade is needed, an alert is shown instead
    if s.isVIPUpgradeNeeded then s else s.toggleSkill skill
  else s.toggleSkill skill

/-- The button "Select n Skills" is shown on the skills step. -/
def CanConfirm (s : SkillSelectionViewModel) : Prop :=
  s.currentStep = .skills ∧ s.selectedSkills ≠ []

instance (s : SkillSelectionViewModel) : Decidable (CanConfirm s) :=
  inferInstanceAs (Decidable (_ ∧ _))

theorem tapSkillCard_eq_selectSkill (s : SkillSelectionViewModel) (skill : Skill) :
    tapSkillCard s skill = s.selectSkill skill := by
  unfold tapSkillCard
  split <;> rfl

end SkillSelectionCoordinatorView

end SkillTalk
