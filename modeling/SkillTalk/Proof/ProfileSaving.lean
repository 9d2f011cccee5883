import SkillTalk.ProfileViewModel

/-!
# When the edit screen closes

The screen is dismissed where the validation result says valid after `saveProfile`. A save that
succeeds has just forgotten the result, and one whose call throws may have left a valid one
behind, so only a save that ends unsaved and without a valid result does what the screen wants.
-/

namespace SkillTalk

variable {ProfilePrivacySettings Details : Type}
  {services : ℕ → ProfileService ProfilePrivacySettings Details}

/-- The screen is dismissed exactly when the profile was replaced by what `updateProfile`
returned. -/
def SaveOutcome.Agrees (outcome : SaveOutcome) : Prop := outcome.dismissed = outcome.saved

/-- A turn that ends a save ends it unsaved, and where no validation result says valid: the update
does not succeed, and a call that throws, or the lack of an edited profile, does not find such a
result. -/
def ProfileTask.EndsUnsaved (vm : ProfileViewModel ProfilePrivacySettings Details) :
    ProfileTask ProfilePrivacySettings Details → Prop
  | .saveProfile => vm.editingProfile = none → vm.validationPassed = false
  | .validatingSave _ (.error _) => vm.validationPassed = false
  | .updating (.ok _) => False
  | .updating (.error _) => vm.validationPassed = false
  | _ => True

namespace ProfileWorld

variable {w : ProfileWorld ProfilePrivacySettings Details}

theorem agrees_endSave_iff (h : ∀ outcome ∈ w.saves, outcome.Agrees)
    (vm : ProfileViewModel ProfilePrivacySettings Details) (saved : Bool) :
    (∀ outcome ∈ (w.endSave vm saved).saves, outcome.Agrees) ↔ vm.validationPassed = saved := by
  constructor
  · intro hall
    exact hall ⟨saved, vm.validationPassed⟩ (List.mem_append_right _ (List.mem_singleton_self _))
  · intro hagrees
    refine List.forall_mem_append.mpr ⟨h, fun outcome hmem => ?_⟩
    obtain rfl := List.mem_singleton.mp hmem
    exact hagrees

@[simp]
theorem saves_store {α : Type} (answer : Except String α)
    (change : α → UserProfile ProfilePrivacySettings Details →
      UserProfile ProfilePrivacySettings Details) : (w.store answer change).saves = w.saves := by
  cases answer <;> rfl

/-- **One turn.** -/
theorem agrees_turn_iff (service : ProfileService ProfilePrivacySettings Details)
    (h : ∀ outcome ∈ w.saves, outcome.Agrees)
    (task : ProfileTask ProfilePrivacySettings Details) :
    (∀ outcome ∈ (w.turn service task).1.saves, outcome.Agrees) ↔ task.EndsUnsaved w.viewModel := by
  cases task with
  | saveProfile =>
      cases hediting : w.viewModel.editingProfile with
      | none => simpa [turn, hediting, ProfileTask.EndsUnsaved] using agrees_endSave_iff h _ false
      | some edited =>
          refine iff_of_true ?_ (by simp [ProfileTask.EndsUnsaved, hediting])
          simpa [turn, hediting, present] using h
  | validatingSave edited answer =>
      cases answer with
      | error description => exact agrees_endSave_iff h _ false
      | ok validation =>
          refine iff_of_true ?_ trivial
          cases hvalid : validation.isValid with
          | true => simpa [turn, hvalid, present] using h
          | false =>
              simp only [turn, hvalid, Bool.false_eq_true, if_false]
              exact (agrees_endSave_iff h _ false).mpr hvalid
  | updating answer =>
      cases answer with
      | error description => exact agrees_endSave_iff h _ false
      | ok updatedProfile =>
          refine iff_of_false (fun hall => ?_) id
          have hclosed := (agrees_endSave_iff h _ true).mp hall
          cases hclosed
  | uploadProfilePicture imageData =>
      refine iff_of_true ?_ trivial
      cases hprofile : w.viewModel.profile <;> simpa [turn, hprofile, present] using h
  | deleteProfilePicture =>
      refine iff_of_true ?_ trivial
      cases hprofile : w.viewModel.profile <;> simpa [turn, hprofile, present] using h
  | updatePrivacySettings settings =>
      refine iff_of_true ?_ trivial
      cases hprofile : w.viewModel.profile <;> simpa [turn, hprofile, present] using h
  | uploading answer => cases answer <;> exact iff_of_true h trivial
  | deleting answer => cases answer <;> exact iff_of_true h trivial
  | updatingSettings settings answer => cases answer <;> exact iff_of_true h trivial
  | validateProfile profile => exact iff_of_true h trivial
  | validating answer => cases answer <;> exact iff_of_true h trivial

end ProfileWorld

namespace ProfileEditing

def ClosesWhenSaved (p : ProfileEditing ProfilePrivacySettings Details) : Prop :=
  ∀ outcome ∈ p.shared.saves, outcome.Agrees

def EndsUnsaved (p : ProfileEditing ProfilePrivacySettings Details) :
    ProfileAction ProfilePrivacySettings Details → Prop
  | .run index _ => ∀ task ∈ p.tasks[index]?, task.EndsUnsaved p.shared.viewModel
  | _ => True

variable {p q : ProfileEditing ProfilePrivacySettings Details}

theorem closesWhenSaved_step_iff {action : ProfileAction ProfilePrivacySettings Details}
    (h : p.step services action = some q) (hp : p.ClosesWhenSaved) :
    q.ClosesWhenSaved ↔ p.EndsUnsaved action := by
  cases action with
  | run index answeredBy =>
      have hrun : p.run (ProfileWorld.turn (services answeredBy)) index = some q := h
      obtain ⟨task, htask, hshared, -, -⟩ := TaskPool.exists_of_run hrun
      have hturn := ProfileWorld.agrees_turn_iff (services answeredBy) hp task
      rw [← hshared] at hturn
      simp only [EndsUnsaved, htask, Option.mem_some_iff, forall_eq']
      exact hturn
  | validateProfile =>
      refine iff_of_true ?_ trivial
      simp only [step] at h
      split at h <;> cases h <;> exact hp
  | _ =>
      cases h
      exact iff_of_true hp trivial

variable (services) in
/-- **The screen closes exactly when the profile was saved**, for all saves of a run, exactly when
each of them ends unsaved and without a valid result. -/
theorem screen_closes_when_saved (profile : UserProfile ProfilePrivacySettings Details)
    (vm : ProfileViewModel ProfilePrivacySettings Details)
    (actions : List (ProfileAction ProfilePrivacySettings Details)) :
    let start := ProfileWorld.loaded profile vm
    (∀ x ∈ (profileEditing services start).transitions ⟨start, []⟩ actions, x.2.2.ClosesWhenSaved)
      ↔ ∀ x ∈ (profileEditing services start).transitions ⟨start, []⟩ actions,
          x.1.EndsUnsaved x.2.1 := by
  intro start
  refine Machine.forall_transitions_iff ClosesWhenSaved (fun _ => True) (fun _ _ _ _ _ _ => trivial)
    ?_ actions trivial (by simp [ClosesWhenSaved, start, ProfileWorld.loaded])
  intro p action q hstep _ hp
  exact closesWhenSaved_step_iff hstep hp

end ProfileEditing

/-- Validates and stores whatever it is given. -/
def obligingService (ProfilePrivacySettings Details : Type) :
    ProfileService ProfilePrivacySettings Details where
  validateProfile _ := .ok ⟨true⟩
  updateProfile profile := .ok profile
  uploadProfilePicture _ _ := .ok "uploaded.jpg"
  deleteProfilePicture _ := .ok ()
  updatePrivacySettings _ _ := .ok ()

def loadedProfile : UserProfile Bool String := ⟨"ana", some "ana.jpg", true, "Ana"⟩

def editedProfile : UserProfile Bool String := { loadedProfile with details := "Ana Berg" }

/-- A name has been edited, and the edited profile found valid. -/
def editedScreen : ProfileViewModel Bool String where
  profile := some loadedProfile
  isLoading := false
  errorMessage := none
  isEditing := true
  editingProfile := some editedProfile
  validationResult := some ⟨true⟩
  isSaving := false

namespace ProfileEditing

/-- Everything succeeds, and the screen stays. -/
theorem saved_screen_stays :
    ∃ p, editedScreen.canSaveProfile = true
      ∧ (profileEditing (fun _ => obligingService Bool String)
          (ProfileWorld.loaded loadedProfile editedScreen)).exec
          ⟨ProfileWorld.loaded loadedProfile editedScreen, []⟩
          [.saveProfile, .run 0 0, .run 0 0, .run 0 0] = some p
      ∧ p.tasks = [] ∧ p.shared.viewModel.profile = some editedProfile
      ∧ ¬ p.ClosesWhenSaved := by
  obtain ⟨p, hexec, htasks, hprofile, hsaves⟩ :
      ∃ p, (profileEditing (fun _ => obligingService Bool String)
          (ProfileWorld.loaded loadedProfile editedScreen)).exec
          ⟨ProfileWorld.loaded loadedProfile editedScreen, []⟩
          [.saveProfile, .run 0 0, .run 0 0, .run 0 0] = some p
        ∧ p.tasks = [] ∧ p.shared.viewModel.profile = some editedProfile
        ∧ p.shared.saves = [⟨true, false⟩] := ⟨_, rfl, rfl, rfl, rfl⟩
  refine ⟨p, rfl, hexec, htasks, hprofile, fun hcloses => ?_⟩
  have hagrees : SaveOutcome.Agrees ⟨true, false⟩ := hcloses _ (by simp [hsaves])
  cases hagrees

end ProfileEditing

end SkillTalk
