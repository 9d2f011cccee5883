import SkillTalk.LanguageService
import SkillTalk.SkillModels

/-!
# The onboarding coordinator

The coordinator moves through the steps in their order and checks nothing on the way. Countries and
images are data that nothing looks into.
-/

namespace SkillTalk

inductive OnboardingStep where
  | welcome
  | signIn
  | basicInfo
  | countrySelection
  | nativeLanguage
  | secondLanguage
  | expertise
  | targetSkill
  | profilePicture
  | complete
  deriving DecidableEq, Repr

def OnboardingStep.allCases : List OnboardingStep :=
  [.welcome, .signIn, .basicInfo, .countrySelection, .nativeLanguage, .secondLanguage, .expertise,
    .targetSkill, .profilePicture, .complete]

structure OnboardingData (CountryModel UIImage : Type) where
  isAuthenticated : Bool
  name : String
  username : String
  phoneNumber : String
  age : String
  country : Option CountryModel
  nativeLanguage : Option Language
  secondLanguages : List Language
  expertSkills : List Skill
  targetSkills : List Skill
  profilePicture : Option UIImage

namespace OnboardingData

variable {CountryModel UIImage : Type}

def initial : OnboardingData CountryModel UIImage where
  isAuthenticated := false
  name := ""
  username := ""
  phoneNumber := ""
  age := ""
  country := none
  nativeLanguage := none
  secondLanguages := []
  expertSkills := []
  targetSkills := []
  profilePicture := none

def isValid (data : OnboardingData CountryModel UIImage) : Bool :=
  data.name ≠ "" && data.username ≠ "" && data.country.isSome && data.nativeLanguage.isSome
    && !data.expertSkills.isEmpty && !data.targetSkills.isEmpty

def skills (data : OnboardingData CountryModel UIImage) : UserSkillType → List Skill
  | .expert => data.expertSkills
  | .target => data.targetSkills

def setSkills (data : OnboardingData CountryModel UIImage) (type : UserSkillType)
    (skills : List Skill) : OnboardingData CountryModel UIImage :=
  match type with
  | .expert => { data with expertSkills := skills }
  | .target => { data with targetSkills := skills }

end OnboardingData

structure OnboardingCoordinator (CountryModel UIImage : Type) where
  currentStep : OnboardingStep
  onboardingData : OnboardingData CountryModel UIImage
  -- `completeOnboarding` has been called, so the app has replaced the container
  onboardingCompleted : Bool

namespace OnboardingCoordinator

variable {CountryModel UIImage : Type}

def initial : OnboardingCoordinator CountryModel UIImage where
  currentStep := .welcome
  onboardingData := .initial
  onboardingCompleted := false

def completeOnboarding (c : OnboardingCoordinator CountryModel UIImage) :
    OnboardingCoordinator CountryModel UIImage :=
  { c with onboardingCompleted := true }

def nextStep (c : OnboardingCoordinator CountryModel UIImage) :
    OnboardingCoordinator CountryModel UIImage :=
  match OnboardingStep.allCases.idxOf? c.currentStep with
  | none => c.completeOnboarding
  | some currentIndex =>
      match OnboardingStep.allCases[currentIndex + 1]? with
      | none => c.completeOnboarding
      | some step => { c with currentStep := step }

def previousStep (c : OnboardingCoordinator CountryModel UIImage) :
    OnboardingCoordinator CountryModel UIImage :=
  match OnboardingStep.allCases.idxOf? c.currentStep with
  | none => c
  | some 0 => c
  | some (previousIndex + 1) =>
      match OnboardingStep.allCases[previousIndex]? with
      | none => c
      | some step => { c with currentStep := step }

def save (c : OnboardingCoordinator CountryModel UIImage)
    (onboardingData : OnboardingData CountryModel UIImage) :
    OnboardingCoordinator CountryModel UIImage :=
  { c with onboardingData := onboardingData }

end OnboardingCoordinator

end SkillTalk
