import SkillTalk.Library.TaskPool

/-!
# The profile view model

The saves and the changes of the picture and of the privacy settings are tasks on the main actor.
Each runs from its start to its call of the profile service, and from the answer to its end. The
service acts when it is called: it stores the profile, the picture or the settings unless it
throws, and what it will answer is settled then. Each call is answered by one of a family of
services.

A save is the action of the edit screen's Save controls, which look at the view model when the
save is over. Edits of the screen's fields concern neither the picture nor the settings, and have
the edited profile validated some time later. The privacy settings, and the details that nothing
looks into, are parameters.
-/

namespace SkillTalk

structure UserProfile (ProfilePrivacySettings Details : Type) where
  userId : String
  profilePictureURL : Option String
  privacySettings : ProfilePrivacySettings
  details : Details
  deriving DecidableEq

structure ProfileValidationResult where
  isValid : Bool
  deriving DecidableEq

structure ProfileService (ProfilePrivacySettings Details : Type) where
  validateProfile : UserProfile ProfilePrivacySettings Details →
    Except String ProfileValidationResult
  updateProfile : UserProfile ProfilePrivacySettings Details →
    Except String (UserProfile ProfilePrivacySettings Details)
  uploadProfilePicture : (userId : String) → (imageData : List UInt8) → Except String String
  deleteProfilePicture : (userId : String) → Except String Unit
  updatePrivacySettings : (userId : String) → ProfilePrivacySettings → Except String Unit

structure ProfileViewModel (ProfilePrivacySettings Details : Type) where
  profile : Option (UserProfile ProfilePrivacySettings Details)
  isLoading : Bool
  errorMessage : Option String
  isEditing : Bool
  editingProfile : Option (UserProfile ProfilePrivacySettings Details)
  validationResult : Option ProfileValidationResult
  isSaving : Bool

namespace ProfileViewModel

variable {ProfilePrivacySettings Details : Type}

def startEditing (vm : ProfileViewModel ProfilePrivacySettings Details) :
    ProfileViewModel ProfilePrivacySettings Details :=
  match vm.profile with
  | none => vm
  | some profile => { vm with editingProfile := some profile, isEditing := true }

def cancelEditing (vm : ProfileViewModel ProfilePrivacySettings Details) :
    ProfileViewModel ProfilePrivacySettings Details :=
  { vm with editingProfile := vm.profile, isEditing := false, validationResult := none }

/-- An edit of the screen's fields. -/
def edit (vm : ProfileViewModel ProfilePrivacySettings Details) (details : Details) :
    ProfileViewModel ProfilePrivacySettings Details :=
  { vm with
    editingProfile := vm.editingProfile.map fun edited => { edited with details := details } }

/-- `validationResult?.isValid == true`, which the edit screen closes on. -/
def validationPassed (vm : ProfileViewModel ProfilePrivacySettings Details) : Bool :=
  vm.validationResult.any ProfileValidationResult.isValid

def canSaveProfile (vm : ProfileViewModel ProfilePrivacySettings Details) : Bool :=
  vm.validationPassed && !vm.isSaving

def beginLoading (vm : ProfileViewModel ProfilePrivacySettings Details) :
    ProfileViewModel ProfilePrivacySettings Details :=
  { vm with isLoading := true, errorMessage := none }

def failLoading (vm : ProfileViewModel ProfilePrivacySettings Details) (failure : String) :
    ProfileViewModel ProfilePrivacySettings Details :=
  { vm with errorMessage := some failure, isLoading := false }

def failSaving (vm : ProfileViewModel ProfilePrivacySettings Details) (failure : String) :
    ProfileViewModel ProfilePrivacySettings Details :=
  { vm with errorMessage := some failure, isSaving := false }

/-- The edited profile and the profile take a change that the service has answered. -/
def applyChange (vm : ProfileViewModel ProfilePrivacySettings Details)
    (change : UserProfile ProfilePrivacySettings Details →
      UserProfile ProfilePrivacySettings Details) :
    ProfileViewModel ProfilePrivacySettings Details :=
  { vm with
    editingProfile := vm.editingProfile.map change
    profile := vm.profile.map change
    isLoading := false }

end ProfileViewModel

/-- How a save ended: whether the profile was replaced by what `updateProfile` returned, and
whether the screen was dismissed. -/
structure SaveOutcome where
  saved : Bool
  dismissed : Bool
  deriving DecidableEq

/-- The view model and the service's stored profile, with the picture and the settings of the last
changes completed, and the saves that are over. -/
structure ProfileWorld (ProfilePrivacySettings Details : Type) where
  viewModel : ProfileViewModel ProfilePrivacySettings Details
  stored : UserProfile ProfilePrivacySettings Details
  completedPicture : Option String
  completedSettings : ProfilePrivacySettings
  saves : List SaveOutcome

/-- A task that has not started, or one that waits for the service with the answer it will get. -/
inductive ProfileTask (ProfilePrivacySettings Details : Type) where
  | saveProfile
  | validatingSave (edited : UserProfile ProfilePrivacySettings Details)
      (answer : Except String ProfileValidationResult)
  | updating (answer : Except String (UserProfile ProfilePrivacySettings Details))
  | uploadProfilePicture (imageData : List UInt8)
  | uploading (answer : Except String String)
  | deleteProfilePicture
  | deleting (answer : Except String Unit)
  | updatePrivacySettings (settings : ProfilePrivacySettings)
  | updatingSettings (settings : ProfilePrivacySettings) (answer : Except String Unit)
  | validateProfile (profile : UserProfile ProfilePrivacySettings Details)
  | validating (answer : Except String ProfileValidationResult)

namespace ProfileWorld

variable {ProfilePrivacySettings Details : Type}

/-- The profile has just been loaded from the service. -/
def loaded (profile : UserProfile ProfilePrivacySettings Details)
    (vm : ProfileViewModel ProfilePrivacySettings Details) :
    ProfileWorld ProfilePrivacySettings Details where
  viewModel := { vm with profile := some profile }
  stored := profile
  completedPicture := profile.profilePictureURL
  completedSettings := profile.privacySettings
  saves := []

def present (w : ProfileWorld ProfilePrivacySettings Details)
    (vm : ProfileViewModel ProfilePrivacySettings Details) :
    ProfileWorld ProfilePrivacySettings Details :=
  { w with viewModel := vm }

/-- The service stores what it is given unless it throws. -/
def store {α : Type} (w : ProfileWorld ProfilePrivacySettings Details) (answer : Except String α)
    (change : α → UserProfile ProfilePrivacySettings Details →
      UserProfile ProfilePrivacySettings Details) : ProfileWorld ProfilePrivacySettings Details :=
  match answer with
  | .ok value => { w with stored := change value w.stored }
  | .error _ => w

/-- `saveProfile` has returned, and the screen is dismissed if the validation result says valid. -/
def endSave (w : ProfileWorld ProfilePrivacySettings Details)
    (vm : ProfileViewModel ProfilePrivacySettings Details) (saved : Bool) :
    ProfileWorld ProfilePrivacySettings Details :=
  { w with viewModel := vm, saves := w.saves ++ [⟨saved, vm.validationPassed⟩] }

def completePicture (w : ProfileWorld ProfilePrivacySettings Details) (picture : Option String) :
    ProfileWorld ProfilePrivacySettings Details :=
  { w with
    viewModel := w.viewModel.applyChange fun profile =>
      { profile with profilePictureURL := picture }
    completedPicture := picture }

def completeSettings (w : ProfileWorld ProfilePrivacySettings Details)
    (settings : ProfilePrivacySettings) : ProfileWorld ProfilePrivacySettings Details :=
  { w with
    viewModel := w.viewModel.applyChange fun profile =>
      { profile with privacySettings := settings }
    completedSettings := settings }

variable (service : ProfileService ProfilePrivacySettings Details)

/-- A task from its start to its call of the service, or from the answer on. -/
def turn (w : ProfileWorld ProfilePrivacySettings Details) :
    ProfileTask ProfilePrivacySettings Details →
      ProfileWorld ProfilePrivacySettings Details
        × Option (ProfileTask ProfilePrivacySettings Details)
  | .saveProfile =>
      match w.viewModel.editingProfile with
      | none => (w.endSave w.viewModel false, none)
      | some edited =>
          (w.present { w.viewModel with isSaving := true, errorMessage := none },
            some (.validatingSave edited (service.validateProfile edited)))
  | .validatingSave _ (.error description) =>
      (w.endSave (w.viewModel.failSaving ("Failed to save profile: " ++ description)) false, none)
  | .validatingSave edited (.ok validation) =>
      let validated := { w.viewModel with validationResult := some validation }
      if validation.isValid then
        ((w.present validated).store (service.updateProfile edited) fun _ _ => edited,
          some (.updating (service.updateProfile edited)))
      else (w.endSave (validated.failSaving "Please fix the errors before saving") false, none)
  | .updating (.ok updatedProfile) =>
      (w.endSave { w.viewModel with
        profile := some updatedProfile
        isEditing := false
        validationResult := none
        isSaving := false } true, none)
  | .updating (.error description) =>
      (w.endSave (w.viewModel.failSaving ("Failed to save profile: " ++ description)) false, none)
  | .uploadProfilePicture imageData =>
      match w.viewModel.profile with
      | none => (w, none)
      | some profile =>
          let answer := service.uploadProfilePicture profile.userId imageData
          ((w.present w.viewModel.beginLoading).store answer fun imageURL stored =>
            { stored with profilePictureURL := some imageURL }, some (.uploading answer))
  | .uploading (.ok imageURL) => (w.completePicture (some imageURL), none)
  | .uploading (.error description) =>
      (w.present
        (w.viewModel.failLoading ("Failed to upload profile picture: " ++ description)), none)
  | .deleteProfilePicture =>
      match w.viewModel.profile with
      | none => (w, none)
      | some profile =>
          let answer := service.deleteProfilePicture profile.userId
          ((w.present w.viewModel.beginLoading).store answer fun _ stored =>
            { stored with profilePictureURL := none }, some (.deleting answer))
  | .deleting (.ok _) => (w.completePicture none, none)
  | .deleting (.error description) =>
      (w.present
        (w.viewModel.failLoading ("Failed to delete profile picture: " ++ description)), none)
  | .updatePrivacySettings settings =>
      match w.viewModel.profile with
      | none => (w, none)
      | some profile =>
          let answer := service.updatePrivacySettings profile.userId settings
          ((w.present w.viewModel.beginLoading).store answer fun _ stored =>
            { stored with privacySettings := settings }, some (.updatingSettings settings answer))
  | .updatingSettings settings (.ok _) => (w.completeSettings settings, none)
  | .updatingSettings _ (.error description) =>
      (w.present
        (w.viewModel.failLoading ("Failed to update privacy settings: " ++ description)), none)
  | .validateProfile profile => (w, some (.validating (service.validateProfile profile)))
  | .validating (.ok result) =>
      (w.present { w.viewModel with validationResult := some result }, none)
  | .validating (.error _) => (w, none)

end ProfileWorld

inductive ProfileAction (ProfilePrivacySettings Details : Type) where
  | startEditing
  | cancelEditing
  | edit (details : Details)
  | saveProfile
  | uploadProfilePicture (imageData : List UInt8)
  | deleteProfilePicture
  | updatePrivacySettings (settings : ProfilePrivacySettings)
  -- the debounced validation of the edited profile
  | validateProfile
  | run (index answeredBy : ℕ)

abbrev ProfileEditing (ProfilePrivacySettings Details : Type) :=
  TaskPool (ProfileWorld ProfilePrivacySettings Details)
    (ProfileTask ProfilePrivacySettings Details)

namespace ProfileEditing

variable {ProfilePrivacySettings Details : Type}
  (services : ℕ → ProfileService ProfilePrivacySettings Details)

def present (p : ProfileEditing ProfilePrivacySettings Details)
    (vm : ProfileViewModel ProfilePrivacySettings Details) :
    ProfileEditing ProfilePrivacySettings Details :=
  ⟨p.shared.present vm, p.tasks⟩

def step (p : ProfileEditing ProfilePrivacySettings Details) :
    ProfileAction ProfilePrivacySettings Details →
      Option (ProfileEditing ProfilePrivacySettings Details)
  | .startEditing => some (p.present p.shared.viewModel.startEditing)
  | .cancelEditing => some (p.present p.shared.viewModel.cancelEditing)
  | .edit details => some (p.present (p.shared.viewModel.edit details))
  | .saveProfile => some (p.add .saveProfile)
  | .uploadProfilePicture imageData => some (p.add (.uploadProfilePicture imageData))
  | .deleteProfilePicture => some (p.add .deleteProfilePicture)
  | .updatePrivacySettings settings => some (p.add (.updatePrivacySettings settings))
  | .validateProfile =>
      match p.shared.viewModel.editingProfile with
      | none => some p
      | some edited => some (p.add (.validateProfile edited))
  | .run index answeredBy => p.run (ProfileWorld.turn (services answeredBy)) index

end ProfileEditing

/-- The runs from a given state on, nothing in flight. -/
def profileEditing {ProfilePrivacySettings Details : Type}
    (services : ℕ → ProfileService ProfilePrivacySettings Details)
    (start : ProfileWorld ProfilePrivacySettings Details) :
    Machine (ProfileEditing ProfilePrivacySettings Details)
      (ProfileAction ProfilePrivacySettings Details) where
  Init p := p = ⟨start, []⟩
  step := ProfileEditing.step services

end SkillTalk
