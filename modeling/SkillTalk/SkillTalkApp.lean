import SkillTalk.OnboardingContainerView

/-!
# The app

The window shows the onboarding until it is completed, and then the main screens, whose profile tab
has a button that starts the onboarding anew. Completing and resetting are also written to the user
defaults, which outlive the app. Each launch, and each return from the main screens, makes a new
container with a coordinator of its own.
-/

namespace SkillTalk

structure SkillTalkApp (CountryModel UIImage : Type) where
  isOnboardingCompleted : Bool
  container : OnboardingContainerView CountryModel UIImage
  -- the entry "onboardingCompleted" of the user defaults
  storedCompletion : Bool

inductive AppAction (CountryModel UIImage : Type) where
  | onboarding (action : OnboardingAction CountryModel UIImage)
  | resetOnboarding
  -- the app is terminated and launched again
  | relaunch

namespace SkillTalkApp

variable {CountryModel UIImage : Type} (rules : OnboardingText) (language : String)
  (repositories : ℕ → SkillRepository)

/-- The stored entry is not read; onboarding is forced for testing. -/
def launch (storedCompletion : Bool) : SkillTalkApp CountryModel UIImage where
  isOnboardingCompleted := false
  container := .entered rules .initial
  storedCompletion := storedCompletion

/-- The container after one action; when it is completed, the entry is written and the notification
is received by the view around it. -/
def receive (app : SkillTalkApp CountryModel UIImage)
    (container : OnboardingContainerView CountryModel UIImage) :
    SkillTalkApp CountryModel UIImage :=
  if container.coordinator.onboardingCompleted then ⟨true, container, true⟩
  else { app with container := container }

def step (app : SkillTalkApp CountryModel UIImage) :
    AppAction CountryModel UIImage → Option (SkillTalkApp CountryModel UIImage)
  | .onboarding action =>
      if app.isOnboardingCompleted then none
      else (app.container.step rules language repositories action).map app.receive
  | .resetOnboarding =>
      if app.isOnboardingCompleted then some (launch rules false) else none
  | .relaunch => some (launch rules app.storedCompletion)

end SkillTalkApp

/-- The runs of an app that is launched with what the user defaults have. -/
def skillTalkApp (CountryModel UIImage : Type) (rules : OnboardingText) (language : String)
    (repositories : ℕ → SkillRepository) :
    Machine (SkillTalkApp CountryModel UIImage) (AppAction CountryModel UIImage) where
  Init app := ∃ storedCompletion, app = SkillTalkApp.launch rules storedCompletion
  step := SkillTalkApp.step rules language repositories

end SkillTalk
