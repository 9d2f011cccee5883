import SkillTalk.Library.Machine
import SkillTalk.OnboardingCoordinator
import SkillTalk.SkillSelectionCoordinatorView

/-!
# The selections of the onboarding

The onboarding's view model keeps three lists that are added to and removed from, and the skill
selection's view model one whose skills are toggled. A value is looked for whole and removed by its
id; a language's id is its code.
-/

namespace SkillTalk

structure OnboardingViewModel (CountryModel UIImage : Type) where
  onboardingData : OnboardingData CountryModel UIImage

namespace OnboardingViewModel

variable {CountryModel UIImage : Type}

def addSecondLanguage (s : OnboardingViewModel CountryModel UIImage) (language : Language) :
    OnboardingViewModel CountryModel UIImage :=
  if language ∈ s.onboardingData.secondLanguages then s
  else
    { s with onboardingData.secondLanguages := s.onboardingData.secondLanguages ++ [language] }

def removeSecondLanguage (s : OnboardingViewModel CountryModel UIImage) (language : Language) :
    OnboardingViewModel CountryModel UIImage :=
  { s with
    onboardingData.secondLanguages := s.onboardingData.secondLanguages.filter fun other =>
      other.id != language.id }

def addExpertSkill (s : OnboardingViewModel CountryModel UIImage) (skill : Skill) :
    OnboardingViewModel CountryModel UIImage :=
  if skill ∈ s.onboardingData.expertSkills then s
  else { s with onboardingData.expertSkills := s.onboardingData.expertSkills ++ [skill] }

def removeExpertSkill (s : OnboardingViewModel CountryModel UIImage) (skill : Skill) :
    OnboardingViewModel CountryModel UIImage :=
  { s with
    onboardingData.expertSkills := s.onboardingData.expertSkills.filter fun other =>
      other.id != skill.id }

def addTargetSkill (s : OnboardingViewModel CountryModel UIImage) (skill : Skill) :
    OnboardingViewModel CountryModel UIImage :=
  if skill ∈ s.onboardingData.targetSkills then s
  else { s with onboardingData.targetSkills := s.onboardingData.targetSkills ++ [skill] }

def removeTargetSkill (s : OnboardingViewModel CountryModel UIImage) (skill : Skill) :
    OnboardingViewModel CountryModel UIImage :=
  { s with
    onboardingData.targetSkills := s.onboardingData.targetSkills.filter fun other =>
      other.id != skill.id }

end OnboardingViewModel

/-- The card's check mark. -/
def SkillSelectionCoordinatorView.isSelected (s : SkillSelectionViewModel) (skill : Skill) : Bool :=
  s.selectedSkills.any fun selected => selected.id == skill.id

inductive SelectionCall where
  | selectSkill (skill : Skill)
  | toggleSkill (skill : Skill)
  | addSecondLanguage (language : Language)
  | removeSecondLanguage (language : Language)
  | addExpertSkill (skill : Skill)
  | removeExpertSkill (skill : Skill)
  | addTargetSkill (skill : Skill)
  | removeTargetSkill (skill : Skill)
  deriving DecidableEq

/-- The two view models that hold selections. -/
structure OnboardingSelections (CountryModel UIImage : Type) where
  skillSelection : SkillSelectionViewModel
  onboarding : OnboardingViewModel CountryModel UIImage

namespace OnboardingSelections

variable {CountryModel UIImage : Type}

def initial : OnboardingSelections CountryModel UIImage where
  skillSelection := .initial
  onboarding := ⟨.initial⟩

def call (s : OnboardingSelections CountryModel UIImage) :
    SelectionCall → OnboardingSelections CountryModel UIImage
  | .selectSkill skill => { s with skillSelection := s.skillSelection.selectSkill skill }
  | .toggleSkill skill => { s with skillSelection := s.skillSelection.toggleSkill skill }
  | .addSecondLanguage language =>
      { s with onboarding := s.onboarding.addSecondLanguage language }
  | .removeSecondLanguage language =>
      { s with onboarding := s.onboarding.removeSecondLanguage language }
  | .addExpertSkill skill => { s with onboarding := s.onboarding.addExpertSkill skill }
  | .removeExpertSkill skill => { s with onboarding := s.onboarding.removeExpertSkill skill }
  | .addTargetSkill skill => { s with onboarding := s.onboarding.addTargetSkill skill }
  | .removeTargetSkill skill => { s with onboarding := s.onboarding.removeTargetSkill skill }

end OnboardingSelections

def onboardingSelections (CountryModel UIImage : Type) :
    Machine (OnboardingSelections CountryModel UIImage) SelectionCall where
  Init s := s = .initial
  step s call := some (s.call call)

end SkillTalk
