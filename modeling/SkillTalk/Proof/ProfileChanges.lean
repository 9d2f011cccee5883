import SkillTalk.Proof.ProfileSaving

/-!
# Changes of the picture and of the privacy settings

A change asks the service and, unless it throws, sets one field in the profile and in the edited
profile, which may differ by unsaved edits or be missing.
-/

namespace SkillTalk

open TaskPool

/-- A field that a change sets, with its new value. -/
inductive ProfileField (ProfilePrivacySettings : Type) where
  | profilePictureURL (picture : Option String)
  | privacySettings (settings : ProfilePrivacySettings)

inductive ProfileChange (ProfilePrivacySettings : Type) where
  | uploadProfilePicture (imageData : List UInt8)
  | deleteProfilePicture
  | updatePrivacySettings (settings : ProfilePrivacySettings)

variable {ProfilePrivacySettings Details : Type}

/-- The field is set and the others are as they were. -/
def ProfileField.SetsOnly (before after : UserProfile ProfilePrivacySettings Details) :
    ProfileField ProfilePrivacySettings → Prop
  | .profilePictureURL picture =>
      after.profilePictureURL = picture ∧ after.userId = before.userId
        ∧ after.privacySettings = before.privacySettings ∧ after.details = before.details
  | .privacySettings settings =>
      after.privacySettings = settings ∧ after.userId = before.userId
        ∧ after.profilePictureURL = before.profilePictureURL ∧ after.details = before.details

namespace ProfileChange

def action : ProfileChange ProfilePrivacySettings → ProfileAction ProfilePrivacySettings Details
  | .uploadProfilePicture imageData => .uploadProfilePicture imageData
  | .deleteProfilePicture => .deleteProfilePicture
  | .updatePrivacySettings settings => .updatePrivacySettings settings

def created : ProfileChange ProfilePrivacySettings → ProfileTask ProfilePrivacySettings Details
  | .uploadProfilePicture imageData => .uploadProfilePicture imageData
  | .deleteProfilePicture => .deleteProfilePicture
  | .updatePrivacySettings settings => .updatePrivacySettings settings

/-- The field to set, unless the service throws. -/
def answer (service : ProfileService ProfilePrivacySettings Details) (userId : String) :
    ProfileChange ProfilePrivacySettings → Except String (ProfileField ProfilePrivacySettings)
  | .uploadProfilePicture imageData =>
      (service.uploadProfilePicture userId imageData).map fun imageURL =>
        .profilePictureURL (some imageURL)
  | .deleteProfilePicture =>
      (service.deleteProfilePicture userId).map fun _ => .profilePictureURL none
  | .updatePrivacySettings settings =>
      (service.updatePrivacySettings userId settings).map fun _ => .privacySettings settings

def failure : ProfileChange ProfilePrivacySettings → String
  | .uploadProfilePicture _ => "Failed to upload profile picture: "
  | .deleteProfilePicture => "Failed to delete profile picture: "
  | .updatePrivacySettings _ => "Failed to update privacy settings: "

end ProfileChange

/-- How a change ends: nothing is touched and the failure is shown, or the field is set in both
copies, whichever of them there are. -/
structure EndsAtomically (failure : String)
    (answer : Except String (ProfileField ProfilePrivacySettings))
    (before after : ProfileViewModel ProfilePrivacySettings Details) : Prop where
  notLoading : after.isLoading = false
  failed : ∀ description, answer = .error description →
    after.profile = before.profile ∧ after.editingProfile = before.editingProfile
      ∧ after.errorMessage = some (failure ++ description)
  succeeded : ∀ field, answer = .ok field →
    Option.Rel (fun old new => field.SetsOnly old new) before.profile after.profile
      ∧ Option.Rel (fun old new => field.SetsOnly old new) before.editingProfile
          after.editingProfile
      ∧ after.errorMessage = none

theorem rel_map {α : Type} {R : α → α → Prop} {change : α → α} (h : ∀ a, R a (change a)) :
    ∀ o : Option α, Option.Rel R o (o.map change)
  | none => .none
  | some a => .some (h a)

namespace EndsAtomically

theorem of_failed {vm : ProfileViewModel ProfilePrivacySettings Details}
    (failure description : String) :
    EndsAtomically failure (.error description) vm
      (vm.beginLoading.failLoading (failure ++ description)) := by
  refine ⟨rfl, ?_, fun _ hanswer => by cases hanswer⟩
  intro description' hanswer
  obtain rfl := Except.error.inj hanswer
  exact ⟨rfl, rfl, rfl⟩

theorem of_applied {vm : ProfileViewModel ProfilePrivacySettings Details} (failure : String)
    {field : ProfileField ProfilePrivacySettings}
    {change : UserProfile ProfilePrivacySettings Details →
      UserProfile ProfilePrivacySettings Details}
    (hchange : ∀ profile, field.SetsOnly profile (change profile)) :
    EndsAtomically failure (.ok field) vm (vm.beginLoading.applyChange change) := by
  refine ⟨rfl, fun _ hanswer => (by cases hanswer), ?_⟩
  intro field' hanswer
  obtain rfl := Except.ok.inj hanswer
  exact ⟨rel_map hchange _, rel_map hchange _, rfl⟩

end EndsAtomically

/-- The two turns of a change. -/
theorem ProfileWorld.exists_turns
    (service laterService : ProfileService ProfilePrivacySettings Details)
    (w : ProfileWorld ProfilePrivacySettings Details)
    {profile : UserProfile ProfilePrivacySettings Details}
    (hprofile : w.viewModel.profile = some profile)
    (change : ProfileChange ProfilePrivacySettings) :
    ∃ waiting begun ended, w.turn service change.created = (begun, some waiting)
      ∧ begun.turn laterService waiting = (ended, none)
      ∧ EndsAtomically change.failure (change.answer service profile.userId) w.viewModel
          ended.viewModel := by
  cases change with
  | uploadProfilePicture imageData =>
      simp only [ProfileChange.created, ProfileChange.answer, turn, hprofile]
      cases service.uploadProfilePicture profile.userId imageData with
      | error description => exact ⟨_, _, _, rfl, rfl, .of_failed _ description⟩
      | ok imageURL =>
          exact ⟨_, _, _, rfl, rfl, .of_applied _ fun profile => ⟨rfl, rfl, rfl, rfl⟩⟩
  | deleteProfilePicture =>
      simp only [ProfileChange.created, ProfileChange.answer, turn, hprofile]
      cases service.deleteProfilePicture profile.userId with
      | error description => exact ⟨_, _, _, rfl, rfl, .of_failed _ description⟩
      | ok _ => exact ⟨_, _, _, rfl, rfl, .of_applied _ fun profile => ⟨rfl, rfl, rfl, rfl⟩⟩
  | updatePrivacySettings settings =>
      simp only [ProfileChange.created, ProfileChange.answer, turn, hprofile]
      cases service.updatePrivacySettings profile.userId settings with
      | error description => exact ⟨_, _, _, rfl, rfl, .of_failed _ description⟩
      | ok _ => exact ⟨_, _, _, rfl, rfl, .of_applied _ fun profile => ⟨rfl, rfl, rfl, rfl⟩⟩

namespace ProfileEditing

variable {services : ℕ → ProfileService ProfilePrivacySettings Details}

/-- A task runs from its creation to its end in two turns of its own. -/
theorem exec_two_turns {p : ProfileEditing ProfilePrivacySettings Details}
    {action : ProfileAction ProfilePrivacySettings Details}
    {created waiting : ProfileTask ProfilePrivacySettings Details}
    {w v : ProfileWorld ProfilePrivacySettings Details} {answeredBy later : ℕ}
    (haction : p.step services action = some (p.add created))
    (hfirst : p.shared.turn (services answeredBy) created = (w, some waiting))
    (hsecond : w.turn (services later) waiting = (v, none)) :
    (profileEditing services p.shared).exec p
        [action, .run p.tasks.length answeredBy, .run p.tasks.length later]
      = some ⟨v, p.tasks⟩ := by
  have hstart : run (ProfileWorld.turn (services answeredBy)) (p.add created) p.tasks.length
      = some ⟨w, p.tasks ++ [waiting]⟩ := by
    have hlast := run_last (ProfileWorld.turn (services answeredBy)) p.shared p.tasks created
    rw [hfirst] at hlast
    exact hlast
  have hend : run (ProfileWorld.turn (services later)) ⟨w, p.tasks ++ [waiting]⟩ p.tasks.length
      = some ⟨v, p.tasks⟩ := by
    have hlast := run_last (ProfileWorld.turn (services later)) w p.tasks waiting
    rw [hsecond] at hlast
    simpa using hlast
  calc (profileEditing services p.shared).exec p
        [action, .run p.tasks.length answeredBy, .run p.tasks.length later]
      = (profileEditing services p.shared).exec (p.add created)
          [.run p.tasks.length answeredBy, .run p.tasks.length later] :=
        Machine.exec_cons_of_step haction _
    _ = (profileEditing services p.shared).exec ⟨w, p.tasks ++ [waiting]⟩
          [.run p.tasks.length later] := Machine.exec_cons_of_step hstart _
    _ = some ⟨v, p.tasks⟩ := Machine.exec_cons_of_step hend _

variable (services) in
/-- **A change of the picture or the settings is atomic and local**: run to its end without another
turn in between, it fails and leaves both copies of the profile alone, or sets its one field in
both. -/
theorem profile_change_atomic (p : ProfileEditing ProfilePrivacySettings Details)
    {profile : UserProfile ProfilePrivacySettings Details}
    (hprofile : p.shared.viewModel.profile = some profile)
    (change : ProfileChange ProfilePrivacySettings) (answeredBy later : ℕ) :
    ∃ w, (profileEditing services p.shared).exec p
          [change.action, .run p.tasks.length answeredBy, .run p.tasks.length later]
        = some ⟨w, p.tasks⟩
      ∧ EndsAtomically change.failure (change.answer (services answeredBy) profile.userId)
          p.shared.viewModel w.viewModel := by
  obtain ⟨waiting, begun, ended, hfirst, hsecond, hends⟩ :=
    p.shared.exists_turns (services answeredBy) (services later) hprofile change
  refine ⟨ended, ?_, hends⟩
  refine exec_two_turns ?_ hfirst hsecond
  cases change <;> rfl

/-- With an edit unsaved, the picture is deleted from both copies. -/
theorem profile_change_atomic_of_edit :
    let p : ProfileEditing Bool String := ⟨ProfileWorld.loaded loadedProfile editedScreen, []⟩
    ∃ w, (profileEditing (fun _ => obligingService Bool String) p.shared).exec p
          [.deleteProfilePicture, .run 0 0, .run 0 0]
        = some ⟨w, []⟩
      ∧ EndsAtomically "Failed to delete profile picture: " (.ok (.profilePictureURL none))
          editedScreen w.viewModel := by
  intro p
  exact profile_change_atomic (fun _ => obligingService Bool String) p rfl .deleteProfilePicture 0 0

end ProfileEditing

end SkillTalk
