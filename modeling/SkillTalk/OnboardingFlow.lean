import SkillTalk.AuthServiceProtocol
import SkillTalk.OnboardingViewModel

/-!
# The flow of the onboarding's view model

The view model moves through the steps, signs in and completes the onboarding. A sign-in is
suspended until its service answers, the completion is a task of its own, and its notification is
posted from the main queue later still. Each of these may come after any other actions. A sign-in
moves on from the step that is current when it succeeds.
-/

namespace SkillTalk

inductive AuthProvider where
  | none
  | apple
  | google
  | facebook
  | email
  | phone
  deriving DecidableEq, Repr

namespace SignInMethod

def authProvider : SignInMethod → AuthProvider
  | .apple => .apple
  | .google => .google
  | .facebook => .facebook
  | .email _ _ => .email
  | .phone _ _ => .phone

/-- The message of a sign-in that threw an error with this description. -/
def failureText (method : SignInMethod) (localizedDescription : String) : String :=
  match method with
  | .apple => "Apple Sign-In failed: " ++ localizedDescription
  | .google => "Google Sign-In failed: " ++ localizedDescription
  | .facebook => "Facebook Sign-In failed: " ++ localizedDescription
  | .email _ _ => "Email Sign-In failed: " ++ localizedDescription
  | .phone _ _ => "Phone Sign-In failed: " ++ localizedDescription

end SignInMethod

structure OnboardingFlow (CountryModel UIImage : Type) where
  currentStep : OnboardingStep
  selections : OnboardingViewModel CountryModel UIImage
  -- the `authProvider` of the data
  authProvider : AuthProvider
  isLoading : Bool
  errorMessage : Option String
  -- the sign-ins that wait for their service
  signingIn : List SignInMethod
  -- the completions that have not run, and the notifications that are yet to be posted
  completing : ℕ
  posting : ℕ
  -- the flag under `onboardingCompleted` in the user defaults, and the notifications posted
  onboardingCompleted : Bool
  posted : ℕ
  -- ghosts: the sign-ins that succeeded and the messages of those that failed since one was last
  -- started, oldest first; the calls of `nextStep`, those at the last step, and the steps back
  succeeded : List SignInMethod
  failures : List String
  advances : ℕ
  finishes : ℕ
  backs : ℕ

inductive OnboardingFlowAction (CountryModel UIImage : Type) where
  | nextStep
  | previousStep
  | goToStep (step : OnboardingStep)
  | signIn (method : SignInMethod)
  | answer (index : ℕ) (result : Except String AuthUser)
  | saveOnboardingData
  | postCompletion
  | updateBasicInfo (name username phoneNumber : String)
  | selectCountry (country : CountryModel)
  | selectNativeLanguage (language : Language)
  | setProfilePicture (image : UIImage)
  | addSecondLanguage (language : Language)
  | removeSecondLanguage (language : Language)
  | addExpertSkill (skill : Skill)
  | removeExpertSkill (skill : Skill)
  | addTargetSkill (skill : Skill)
  | removeTargetSkill (skill : Skill)

namespace OnboardingFlow

variable {CountryModel UIImage : Type}

def initial : OnboardingFlow CountryModel UIImage where
  currentStep := .welcome
  selections := ⟨.initial⟩
  authProvider := .none
  isLoading := false
  errorMessage := none
  signingIn := []
  completing := 0
  posting := 0
  onboardingCompleted := false
  posted := 0
  succeeded := []
  failures := []
  advances := 0
  finishes := 0
  backs := 0

def onboardingData (f : OnboardingFlow CountryModel UIImage) : OnboardingData CountryModel UIImage :=
  f.selections.onboardingData

def setData (f : OnboardingFlow CountryModel UIImage)
    (onboardingData : OnboardingData CountryModel UIImage) : OnboardingFlow CountryModel UIImage :=
  { f with selections := ⟨onboardingData⟩ }

def completeOnboarding (f : OnboardingFlow CountryModel UIImage) :
    OnboardingFlow CountryModel UIImage :=
  { f with completing := f.completing + 1, advances := f.advances + 1, finishes := f.finishes + 1 }

def nextStep (f : OnboardingFlow CountryModel UIImage) : OnboardingFlow CountryModel UIImage :=
  match OnboardingStep.allCases.idxOf? f.currentStep with
  | none => f.completeOnboarding
  | some currentIndex =>
      match OnboardingStep.allCases[currentIndex + 1]? with
      | none => f.completeOnboarding
      | some step => { f with currentStep := step, advances := f.advances + 1 }

def previousStep (f : OnboardingFlow CountryModel UIImage) : OnboardingFlow CountryModel UIImage :=
  match OnboardingStep.allCases.idxOf? f.currentStep with
  | none => f
  | some 0 => f
  | some (previousIndex + 1) =>
      match OnboardingStep.allCases[previousIndex]? with
      | none => f
      | some step => { f with currentStep := step, backs := f.backs + 1 }

/-- A sign-in up to its call of the service. -/
def signIn (f : OnboardingFlow CountryModel UIImage) (method : SignInMethod) :
    OnboardingFlow CountryModel UIImage :=
  { f with
    isLoading := true
    errorMessage := none
    signingIn := f.signingIn ++ [method]
    failures := [] }

/-- A sign-in from the service's answer to its end. -/
def finishSignIn (f : OnboardingFlow CountryModel UIImage) (method : SignInMethod) :
    Except String AuthUser → OnboardingFlow CountryModel UIImage
  | .ok _ =>
      let authenticated := { f.setData { f.onboardingData with isAuthenticated := true } with
        authProvider := method.authProvider
        succeeded := f.succeeded ++ [method] }
      { authenticated.nextStep with isLoading := false }
  | .error localizedDescription =>
      { f with
        errorMessage := some (method.failureText localizedDescription)
        failures := f.failures ++ [method.failureText localizedDescription]
        isLoading := false }

/-- The task of `completeOnboarding`. Saving the profile neither suspends nor throws. -/
def saveOnboardingData (f : OnboardingFlow CountryModel UIImage) :
    OnboardingFlow CountryModel UIImage :=
  { f with
    completing := f.completing - 1
    onboardingCompleted := true
    posting := f.posting + 1
    isLoading := false }

/-- `onboardingData.isValid` asks for everything but the sign-in, the second languages and the
picture. -/
def validateCurrentStep (f : OnboardingFlow CountryModel UIImage) : Bool :=
  match f.currentStep with
  | .welcome => true
  | .signIn => f.onboardingData.isAuthenticated
  | .basicInfo => f.onboardingData.name ≠ "" && f.onboardingData.username ≠ ""
  | .countrySelection => f.onboardingData.country.isSome
  | .nativeLanguage => f.onboardingData.nativeLanguage.isSome
  | .secondLanguage => !f.onboardingData.secondLanguages.isEmpty
  | .expertise => !f.onboardingData.expertSkills.isEmpty
  | .targetSkill => !f.onboardingData.targetSkills.isEmpty
  | .profilePicture => f.onboardingData.profilePicture.isSome
  | .complete => f.onboardingData.isValid

def progress (f : OnboardingFlow CountryModel UIImage) : ℚ :=
  match OnboardingStep.allCases.idxOf? f.currentStep with
  | none => 0
  | some currentIndex => (currentIndex + 1) / OnboardingStep.allCases.length

def step (f : OnboardingFlow CountryModel UIImage) :
    OnboardingFlowAction CountryModel UIImage → Option (OnboardingFlow CountryModel UIImage)
  | .nextStep => some f.nextStep
  | .previousStep => some f.previousStep
  | .goToStep step => some { f with currentStep := step }
  | .signIn method => some (f.signIn method)
  | .answer index result =>
      f.signingIn[index]?.map fun method =>
        { f with signingIn := f.signingIn.eraseIdx index }.finishSignIn method result
  | .saveOnboardingData => if f.completing = 0 then none else some f.saveOnboardingData
  | .postCompletion =>
      if f.posting = 0 then none
      else some { f with posting := f.posting - 1, posted := f.posted + 1 }
  | .updateBasicInfo name username phoneNumber =>
      some (f.setData { f.onboardingData with name, username, phoneNumber })
  | .selectCountry country => some (f.setData { f.onboardingData with country := some country })
  | .selectNativeLanguage language =>
      some (f.setData { f.onboardingData with nativeLanguage := some language })
  | .setProfilePicture image =>
      some (f.setData { f.onboardingData with profilePicture := some image })
  | .addSecondLanguage language =>
      some { f with selections := f.selections.addSecondLanguage language }
  | .removeSecondLanguage language =>
      some { f with selections := f.selections.removeSecondLanguage language }
  | .addExpertSkill skill => some { f with selections := f.selections.addExpertSkill skill }
  | .removeExpertSkill skill => some { f with selections := f.selections.removeExpertSkill skill }
  | .addTargetSkill skill => some { f with selections := f.selections.addTargetSkill skill }
  | .removeTargetSkill skill => some { f with selections := f.selections.removeTargetSkill skill }

end OnboardingFlow

def onboardingFlow (CountryModel UIImage : Type) :
    Machine (OnboardingFlow CountryModel UIImage) (OnboardingFlowAction CountryModel UIImage) where
  Init f := f = .initial
  step := OnboardingFlow.step

end SkillTalk
