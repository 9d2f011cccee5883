import SkillTalk.AuthServiceProtocol
import SkillTalk.ProfileViewModel

/-!
# The profile screen

`UserProfileView` loads the profile when it appears, when it is pulled down and when Retry is
tapped, so loads may overlap, with each other and with the saves and changes of the view model. A
load calls the profile service three times, for the profile, its statistics and its analytics. A
deletion calls the profile service and then signs out.

As in the view model's own machine, what a call will answer is settled when it is made, and each is
answered by one of a family of services. Who is signed in may change at any time. The statistics and
the analytics are parameters, which nothing looks into.
-/

namespace SkillTalk

/-- The calls of the profile service and of the authentication that loads and deletions make. -/
structure ProfileLoadService (ProfilePrivacySettings Details ProfileStats ProfileAnalytics : Type)
    where
  getCurrentProfile : Except String (UserProfile ProfilePrivacySettings Details)
  getProfileStats : (userId : String) → Except String ProfileStats
  getProfileAnalytics : (userId : String) → Except String ProfileAnalytics
  deleteProfile : (userId : String) → Except String Unit
  signOut : Except String Unit

/-- The view model with its statistics, the user signed in, and how many profiles have been loaded.
What the saves and changes see of it is `profiles`. -/
structure ProfileScreenWorld
    (ProfilePrivacySettings Details ProfileStats ProfileAnalytics : Type) where
  profiles : ProfileWorld ProfilePrivacySettings Details
  profileStats : ProfileStats
  profileAnalytics : ProfileAnalytics
  currentUser : Option AuthUser
  loadedProfiles : ℕ

/-- A save, a change or a validation, or a load or a deletion, as it starts or as it waits with the
answer it will get. -/
inductive ProfileScreenTask
    (ProfilePrivacySettings Details ProfileStats ProfileAnalytics : Type) where
  | change (task : ProfileTask ProfilePrivacySettings Details)
  | loadProfile
  | loadingProfile (answer : Except String (UserProfile ProfilePrivacySettings Details))
  | loadingStats (answer : Except String ProfileStats)
  | loadingAnalytics (answer : Except String ProfileAnalytics)
  | deleteProfile
  | deletingProfile (answer : Except String Unit)
  | signingOut (answer : Except String Unit)

/-- What the body of the view is. -/
inductive ProfileScreenBody (ProfilePrivacySettings Details : Type) where
  | loadingView
  | profileContent (profile : UserProfile ProfilePrivacySettings Details)
  | emptyStateView

namespace ProfileScreenWorld

variable {ProfilePrivacySettings Details ProfileStats ProfileAnalytics : Type}

def viewModel
    (w : ProfileScreenWorld ProfilePrivacySettings Details ProfileStats ProfileAnalytics) :
    ProfileViewModel ProfilePrivacySettings Details := w.profiles.viewModel

def present (w : ProfileScreenWorld ProfilePrivacySettings Details ProfileStats ProfileAnalytics)
    (vm : ProfileViewModel ProfilePrivacySettings Details) :
    ProfileScreenWorld ProfilePrivacySettings Details ProfileStats ProfileAnalytics :=
  { w with profiles := w.profiles.present vm }

def body (w : ProfileScreenWorld ProfilePrivacySettings Details ProfileStats ProfileAnalytics) :
    ProfileScreenBody ProfilePrivacySettings Details :=
  if w.viewModel.isLoading then .loadingView
  else
    match w.viewModel.profile with
    | some profile => .profileContent profile
    | none => .emptyStateView

def endLoading
    (w : ProfileScreenWorld ProfilePrivacySettings Details ProfileStats ProfileAnalytics) :
    ProfileScreenWorld ProfilePrivacySettings Details ProfileStats ProfileAnalytics :=
  w.present { w.viewModel with isLoading := false }

/-- The loaded profile is shown, and editing starts from it. -/
def showProfile
    (w : ProfileScreenWorld ProfilePrivacySettings Details ProfileStats ProfileAnalytics)
    (userProfile : UserProfile ProfilePrivacySettings Details) :
    ProfileScreenWorld ProfilePrivacySettings Details ProfileStats ProfileAnalytics :=
  { w.present { w.viewModel with profile := some userProfile, editingProfile := some userProfile }
      with loadedProfiles := w.loadedProfiles + 1 }

def setStats (w : ProfileScreenWorld ProfilePrivacySettings Details ProfileStats ProfileAnalytics) :
    Except String ProfileStats →
      ProfileScreenWorld ProfilePrivacySettings Details ProfileStats ProfileAnalytics
  | .ok stats => { w with profileStats := stats }
  | .error _ => w

def setAnalytics
    (w : ProfileScreenWorld ProfilePrivacySettings Details ProfileStats ProfileAnalytics) :
    Except String ProfileAnalytics →
      ProfileScreenWorld ProfilePrivacySettings Details ProfileStats ProfileAnalytics
  | .ok analytics => { w with profileAnalytics := analytics }
  | .error _ => w

variable (service : ProfileService ProfilePrivacySettings Details)
  (loads : ProfileLoadService ProfilePrivacySettings Details ProfileStats ProfileAnalytics)

/-- A task from its start to its call of a service, or from the answer on. -/
def turn (w : ProfileScreenWorld ProfilePrivacySettings Details ProfileStats ProfileAnalytics) :
    ProfileScreenTask ProfilePrivacySettings Details ProfileStats ProfileAnalytics →
      ProfileScreenWorld ProfilePrivacySettings Details ProfileStats ProfileAnalytics
        × Option (ProfileScreenTask ProfilePrivacySettings Details ProfileStats ProfileAnalytics)
  | .change task =>
      ({ w with profiles := (w.profiles.turn service task).1 },
        (w.profiles.turn service task).2.map .change)
  | .loadProfile =>
      match w.currentUser with
      | none =>
          (w.present { w.viewModel with errorMessage := some "User not authenticated" }, none)
      | some _ =>
          (w.present w.viewModel.beginLoading, some (.loadingProfile loads.getCurrentProfile))
  | .loadingProfile (.ok userProfile) =>
      (w.showProfile userProfile, some (.loadingStats (loads.getProfileStats userProfile.userId)))
  | .loadingProfile (.error description) =>
      (w.present (w.viewModel.failLoading ("Failed to load profile: " ++ description)), none)
  | .loadingStats answer =>
      match w.viewModel.profile with
      | none => ((w.setStats answer).endLoading, none)
      | some profile =>
          (w.setStats answer, some (.loadingAnalytics (loads.getProfileAnalytics profile.userId)))
  | .loadingAnalytics answer => ((w.setAnalytics answer).endLoading, none)
  | .deleteProfile =>
      match w.viewModel.profile with
      | none => (w, none)
      | some profile =>
          (w.present w.viewModel.beginLoading,
            some (.deletingProfile (loads.deleteProfile profile.userId)))
  | .deletingProfile (.ok _) => (w, some (.signingOut loads.signOut))
  | .deletingProfile (.error description) =>
      (w.present (w.viewModel.failLoading ("Failed to delete profile: " ++ description)), none)
  | .signingOut (.ok _) => (w.endLoading, none)
  | .signingOut (.error description) =>
      (w.present (w.viewModel.failLoading ("Failed to delete profile: " ++ description)), none)

end ProfileScreenWorld

inductive ProfileScreenAction (ProfilePrivacySettings Details : Type) where
  | loadProfile
  | deleteProfile
  | startEditing
  | cancelEditing
  | edit (details : Details)
  | dismissError
  | saveProfile
  | uploadProfilePicture (imageData : List UInt8)
  | deleteProfilePicture
  | updatePrivacySettings (settings : ProfilePrivacySettings)
  -- the debounced validation of the edited profile
  | validateProfile
  | setCurrentUser (currentUser : Option AuthUser)
  | run (index answeredBy : ℕ)

abbrev ProfileScreen (ProfilePrivacySettings Details ProfileStats ProfileAnalytics : Type) :=
  TaskPool (ProfileScreenWorld ProfilePrivacySettings Details ProfileStats ProfileAnalytics)
    (ProfileScreenTask ProfilePrivacySettings Details ProfileStats ProfileAnalytics)

namespace ProfileScreen

variable {ProfilePrivacySettings Details ProfileStats ProfileAnalytics : Type}
  (services : ℕ → ProfileService ProfilePrivacySettings Details)
  (loads : ℕ → ProfileLoadService ProfilePrivacySettings Details ProfileStats ProfileAnalytics)

def present (p : ProfileScreen ProfilePrivacySettings Details ProfileStats ProfileAnalytics)
    (vm : ProfileViewModel ProfilePrivacySettings Details) :
    ProfileScreen ProfilePrivacySettings Details ProfileStats ProfileAnalytics :=
  ⟨p.shared.present vm, p.tasks⟩

def step (p : ProfileScreen ProfilePrivacySettings Details ProfileStats ProfileAnalytics) :
    ProfileScreenAction ProfilePrivacySettings Details →
      Option (ProfileScreen ProfilePrivacySettings Details ProfileStats ProfileAnalytics)
  | .loadProfile => some (p.add .loadProfile)
  | .deleteProfile => some (p.add .deleteProfile)
  | .startEditing => some (p.present p.shared.viewModel.startEditing)
  | .cancelEditing => some (p.present p.shared.viewModel.cancelEditing)
  | .edit details => some (p.present (p.shared.viewModel.edit details))
  | .dismissError => some (p.present { p.shared.viewModel with errorMessage := none })
  | .saveProfile => some (p.add (.change .saveProfile))
  | .uploadProfilePicture imageData => some (p.add (.change (.uploadProfilePicture imageData)))
  | .deleteProfilePicture => some (p.add (.change .deleteProfilePicture))
  | .updatePrivacySettings settings => some (p.add (.change (.updatePrivacySettings settings)))
  | .validateProfile =>
      match p.shared.viewModel.editingProfile with
      | none => some p
      | some edited => some (p.add (.change (.validateProfile edited)))
  | .setCurrentUser currentUser =>
      some ⟨{ p.shared with currentUser := currentUser }, p.tasks⟩
  | .run index answeredBy =>
      p.run (ProfileScreenWorld.turn (services answeredBy) (loads answeredBy)) index

end ProfileScreen

/-- A new view model, nothing loaded yet. -/
structure ProfileScreenWorld.Fresh
    {ProfilePrivacySettings Details ProfileStats ProfileAnalytics : Type}
    (w : ProfileScreenWorld ProfilePrivacySettings Details ProfileStats ProfileAnalytics) :
    Prop where
  profile : w.viewModel.profile = none
  editingProfile : w.viewModel.editingProfile = none
  isLoading : w.viewModel.isLoading = false
  isSaving : w.viewModel.isSaving = false
  loadedProfiles : w.loadedProfiles = 0

def profileScreen {ProfilePrivacySettings Details ProfileStats ProfileAnalytics : Type}
    (services : ℕ → ProfileService ProfilePrivacySettings Details)
    (loads : ℕ → ProfileLoadService ProfilePrivacySettings Details ProfileStats ProfileAnalytics) :
    Machine (ProfileScreen ProfilePrivacySettings Details ProfileStats ProfileAnalytics)
      (ProfileScreenAction ProfilePrivacySettings Details) where
  Init p := p.shared.Fresh ∧ p.tasks = []
  step := ProfileScreen.step services loads

end SkillTalk
