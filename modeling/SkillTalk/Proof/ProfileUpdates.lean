import SkillTalk.Library.RemoteValue
import SkillTalk.Proof.ProfileSaving

/-!
# Updates of the profile that get lost

A save sends the profile it found edited when it started, however long its validation takes, and
then takes what the update returns for the profile. A picture or settings changed in between are
lost, at the service or in the view model. Both are values kept at the service and copied in the
profile.
-/

namespace SkillTalk

open TaskPool

variable {ProfilePrivacySettings Details : Type}

/-- The service never throws, and returns the profile it stores. -/
structure ProfileService.Succeeds (service : ProfileService ProfilePrivacySettings Details) :
    Prop where
  validateProfile : ∀ profile, ∃ result, service.validateProfile profile = .ok result
  updateProfile : ∀ profile, service.updateProfile profile = .ok profile
  uploadProfilePicture : ∀ userId imageData,
    ∃ imageURL, service.uploadProfilePicture userId imageData = .ok imageURL
  deleteProfilePicture : ∀ userId, service.deleteProfilePicture userId = .ok ()
  updatePrivacySettings : ∀ userId settings, service.updatePrivacySettings userId settings = .ok ()

namespace ProfileTask

/-- The picture of a change that the service has been called with. -/
def carriedPicture : ProfileTask ProfilePrivacySettings Details → Option (Option String)
  | .uploading (.ok imageURL) => some (some imageURL)
  | .deleting (.ok _) => some none
  | _ => none

def carriedSettings : ProfileTask ProfilePrivacySettings Details → Option ProfilePrivacySettings
  | .updatingSettings settings (.ok _) => some settings
  | _ => none

/-- A change of the picture or of the settings. -/
def IsChange : ProfileTask ProfilePrivacySettings Details → Prop
  | .uploadProfilePicture _ | .uploading _ | .deleteProfilePicture | .deleting _
  | .updatePrivacySettings _ | .updatingSettings _ _ => True
  | _ => False

/-- The validations of the edited profile that the view model makes by itself. -/
def IsBackground : ProfileTask ProfilePrivacySettings Details → Prop
  | .validateProfile _ | .validating _ => True
  | _ => False

end ProfileTask

/-- A value of the profile at the service and in the view model. -/
def profileValue {α : Type} (get : UserProfile ProfilePrivacySettings Details → α)
    (completed : ProfileWorld ProfilePrivacySettings Details → α)
    (carried : ProfileTask ProfilePrivacySettings Details → Option α) :
    RemoteValue (ProfileWorld ProfilePrivacySettings Details)
      (ProfileTask ProfilePrivacySettings Details) α where
  remote w := get w.stored
  copy w := w.viewModel.profile.map get
  completed := completed
  carried := carried
  sent
    | .validatingSave edited (.ok validation) =>
        if validation.isValid then some (get edited) else none
    | _ => none
  brought
    | .updating (.ok updatedProfile) => some (get updatedProfile)
    | task => carried task

abbrev pictureValue : RemoteValue (ProfileWorld ProfilePrivacySettings Details)
    (ProfileTask ProfilePrivacySettings Details) (Option String) :=
  profileValue UserProfile.profilePictureURL ProfileWorld.completedPicture
    ProfileTask.carriedPicture

abbrev settingsValue : RemoteValue (ProfileWorld ProfilePrivacySettings Details)
    (ProfileTask ProfilePrivacySettings Details) ProfilePrivacySettings :=
  profileValue UserProfile.privacySettings ProfileWorld.completedSettings
    ProfileTask.carriedSettings

namespace ProfileWorld

variable {service : ProfileService ProfilePrivacySettings Details}
  {w : ProfileWorld ProfilePrivacySettings Details}

/-- Saves and validations treat all values of the profile alike. -/
theorem turn_profileValue {α : Type} {get : UserProfile ProfilePrivacySettings Details → α}
    {completed : ProfileWorld ProfilePrivacySettings Details → α}
    {carried : ProfileTask ProfilePrivacySettings Details → Option α}
    (hcompleted : ∀ w w', w'.completedPicture = w.completedPicture →
      w'.completedSettings = w.completedSettings → completed w' = completed w)
    (hcarried : ∀ task, ¬ task.IsChange → carried task = none) (hservice : service.Succeeds)
    {task : ProfileTask ProfilePrivacySettings Details} (htask : ¬ task.IsChange) :
    (profileValue get completed carried).Turn w (w.turn service task).1 task
      (w.turn service task).2 := by
  have hnone : carried task = none := hcarried task htask
  cases task with
  | saveProfile =>
      cases hediting : w.viewModel.editingProfile with
      | none =>
          simp only [turn, hediting]
          exact .frame rfl rfl (hcompleted _ _ rfl rfl) hnone rfl hnone
      | some edited =>
          simp only [turn, hediting]
          exact .frame rfl rfl (hcompleted _ _ rfl rfl) hnone rfl hnone
  | validatingSave edited answer =>
      cases answer with
      | error description => exact .frame rfl rfl (hcompleted _ _ rfl rfl) hnone rfl hnone
      | ok validation =>
          cases hvalid : validation.isValid with
          | true =>
              simp only [turn, hvalid, if_true, hservice.updateProfile edited]
              exact .send rfl (hcompleted _ _ rfl rfl) hnone (by simp [profileValue, hvalid, store])
                hnone
          | false =>
              simp only [turn, hvalid, Bool.false_eq_true, if_false]
              exact .frame rfl rfl (hcompleted _ _ rfl rfl) hnone (by simp [profileValue, hvalid])
                hnone
  | updating answer =>
      cases answer with
      | error description => exact .frame rfl rfl (hcompleted _ _ rfl rfl) hnone rfl hnone
      | ok updatedProfile =>
          exact .refresh (get updatedProfile) rfl rfl (hcompleted _ _ rfl rfl) hnone rfl rfl
  | validateProfile profile => exact .frame rfl rfl (hcompleted _ _ rfl rfl) hnone rfl hnone
  | validating answer =>
      cases answer <;> exact .frame rfl rfl (hcompleted _ _ rfl rfl) hnone rfl hnone
  | _ => exact absurd trivial htask

/-- A completed change shows in the profile. -/
theorem copy_applyChange_of_profile {α : Type}
    {get : UserProfile ProfilePrivacySettings Details → α} {value : α}
    {profile : UserProfile ProfilePrivacySettings Details}
    {change : UserProfile ProfilePrivacySettings Details →
      UserProfile ProfilePrivacySettings Details}
    (hprofile : w.viewModel.profile = some profile)
    (hchange : ∀ profile, get (change profile) = value) :
    (w.viewModel.applyChange change).profile.map get = some value := by
  simp [ProfileViewModel.applyChange, hprofile, hchange]

theorem copy_applyChange {α : Type} {get : UserProfile ProfilePrivacySettings Details → α}
    {change : UserProfile ProfilePrivacySettings Details →
      UserProfile ProfilePrivacySettings Details}
    (hchange : ∀ profile, get (change profile) = get profile) :
    (w.viewModel.applyChange change).profile.map get = w.viewModel.profile.map get := by
  rw [ProfileViewModel.applyChange, Option.map_map]
  exact congrArg (fun f => w.viewModel.profile.map f) (funext hchange)

theorem turn_pictureValue (hservice : service.Succeeds) (hprofile : w.viewModel.profile ≠ none)
    (task : ProfileTask ProfilePrivacySettings Details) :
    pictureValue.Turn w (w.turn service task).1 task (w.turn service task).2 := by
  obtain ⟨profile, hprofile⟩ := Option.ne_none_iff_exists'.mp hprofile
  cases task with
  | uploadProfilePicture imageData =>
      obtain ⟨imageURL, hanswer⟩ := hservice.uploadProfilePicture profile.userId imageData
      simp only [turn, hprofile, hanswer]
      exact .call rfl rfl rfl rfl ⟨_, rfl, rfl⟩
  | uploading answer =>
      cases answer with
      | error description => exact .frame rfl rfl rfl rfl rfl rfl
      | ok imageURL =>
          exact .answer (some imageURL) rfl (copy_applyChange_of_profile hprofile fun _ => rfl)
            rfl rfl rfl
  | deleteProfilePicture =>
      simp only [turn, hprofile, hservice.deleteProfilePicture profile.userId]
      exact .call rfl rfl rfl rfl ⟨_, rfl, rfl⟩
  | deleting answer =>
      cases answer with
      | error description => exact .frame rfl rfl rfl rfl rfl rfl
      | ok _ =>
          exact .answer none rfl (copy_applyChange_of_profile hprofile fun _ => rfl) rfl rfl rfl
  | updatePrivacySettings settings =>
      simp only [turn, hprofile, hservice.updatePrivacySettings profile.userId settings]
      exact .frame rfl rfl rfl rfl rfl rfl
  | updatingSettings settings answer =>
      cases answer with
      | error description => exact .frame rfl rfl rfl rfl rfl rfl
      | ok _ => exact .frame rfl (copy_applyChange fun _ => rfl) rfl rfl rfl rfl
  | _ =>
      refine turn_profileValue (fun _ _ hpicture _ => hpicture) ?_ hservice id
      intro task htask
      cases task <;> first | rfl | exact absurd trivial htask

theorem turn_settingsValue (hservice : service.Succeeds) (hprofile : w.viewModel.profile ≠ none)
    (task : ProfileTask ProfilePrivacySettings Details) :
    settingsValue.Turn w (w.turn service task).1 task (w.turn service task).2 := by
  obtain ⟨profile, hprofile⟩ := Option.ne_none_iff_exists'.mp hprofile
  cases task with
  | uploadProfilePicture imageData =>
      obtain ⟨imageURL, hanswer⟩ := hservice.uploadProfilePicture profile.userId imageData
      simp only [turn, hprofile, hanswer]
      exact .frame rfl rfl rfl rfl rfl rfl
  | uploading answer =>
      cases answer with
      | error description => exact .frame rfl rfl rfl rfl rfl rfl
      | ok imageURL => exact .frame rfl (copy_applyChange fun _ => rfl) rfl rfl rfl rfl
  | deleteProfilePicture =>
      simp only [turn, hprofile, hservice.deleteProfilePicture profile.userId]
      exact .frame rfl rfl rfl rfl rfl rfl
  | deleting answer =>
      cases answer with
      | error description => exact .frame rfl rfl rfl rfl rfl rfl
      | ok _ => exact .frame rfl (copy_applyChange fun _ => rfl) rfl rfl rfl rfl
  | updatePrivacySettings settings =>
      simp only [turn, hprofile, hservice.updatePrivacySettings profile.userId settings]
      exact .call rfl rfl rfl rfl ⟨_, rfl, rfl⟩
  | updatingSettings settings answer =>
      cases answer with
      | error description => exact .frame rfl rfl rfl rfl rfl rfl
      | ok _ =>
          exact .answer settings rfl (copy_applyChange_of_profile hprofile fun _ => rfl) rfl rfl rfl
  | _ =>
      refine turn_profileValue (fun _ _ _ hsettings => hsettings) ?_ hservice id
      intro task htask
      cases task <;> first | rfl | exact absurd trivial htask

end ProfileWorld

namespace ProfileEditing

/-- All calls have returned; the view model may still validate the edited profile. -/
def AllReturned (p : ProfileEditing ProfilePrivacySettings Details) : Prop :=
  ∀ task ∈ p.tasks, task.IsBackground

/-- Once all calls have returned, the profile has the picture and the settings of the last change
of each that completed, and so does the service. -/
def UpToDate (p : ProfileEditing ProfilePrivacySettings Details) : Prop :=
  p.AllReturned → ∃ profile, p.shared.viewModel.profile = some profile
    ∧ profile.profilePictureURL = p.shared.completedPicture
    ∧ profile.privacySettings = p.shared.completedSettings
    ∧ p.shared.stored.profilePictureURL = p.shared.completedPicture
    ∧ p.shared.stored.privacySettings = p.shared.completedSettings

/-- A save calls `updateProfile` with the picture and the settings that the service stores. An
answer brings those it stores, unless a change that the service has stored is still to be
answered. -/
def CarriesStored (p : ProfileEditing ProfilePrivacySettings Details) :
    ProfileAction ProfilePrivacySettings Details → Prop
  | .run index _ => pictureValue.Current p index ∧ settingsValue.Current p index
  | _ => True

/-- What holds along the runs that meet the condition. -/
structure InOrder (p : ProfileEditing ProfilePrivacySettings Details) : Prop where
  profile : p.shared.viewModel.profile ≠ none
  picture : pictureValue.Accounted p
  settings : settingsValue.Accounted p

variable {p q : ProfileEditing ProfilePrivacySettings Details}

theorem AllReturned.carried_eq_none (h : p.AllReturned)
    {task : ProfileTask ProfilePrivacySettings Details} (hmem : task ∈ p.tasks) :
    task.carriedPicture = none ∧ task.carriedSettings = none := by
  have hbackground := h task hmem
  cases task <;> first | exact ⟨rfl, rfl⟩ | exact absurd hbackground id

theorem upToDate_iff (hprofile : p.shared.viewModel.profile ≠ none) :
    p.UpToDate
      ↔ (p.AllReturned → pictureValue.InStep p.shared ∧ settingsValue.InStep p.shared) := by
  obtain ⟨profile, hprofile⟩ := Option.ne_none_iff_exists'.mp hprofile
  refine imp_congr_right fun _ => ?_
  constructor
  · rintro ⟨profile', hprofile', hpicture, hsettings, hstoredPicture, hstoredSettings⟩
    refine ⟨⟨?_, hstoredPicture.symm⟩, ⟨?_, hstoredSettings.symm⟩⟩
    · simp [profileValue, hprofile', hpicture, hstoredPicture]
    · simp [profileValue, hprofile', hsettings, hstoredSettings]
  · rintro ⟨⟨hpicture, hstoredPicture⟩, ⟨hsettings, hstoredSettings⟩⟩
    simp only [profileValue, hprofile, Option.map_some, Option.some.injEq] at hpicture hsettings
    exact ⟨profile, hprofile, hpicture.trans hstoredPicture.symm,
      hsettings.trans hstoredSettings.symm, hstoredPicture.symm, hstoredSettings.symm⟩

theorem InOrder.upToDate (h : p.InOrder) : p.UpToDate :=
  (upToDate_iff h.profile).mpr fun hreturned =>
    ⟨h.picture.inStep fun _ hmem => (hreturned.carried_eq_none hmem).1,
      h.settings.inStep fun _ hmem => (hreturned.carried_eq_none hmem).2⟩

/-- The service and the profile stay, and tasks may be added. -/
theorem InOrder.frame (h : p.InOrder)
    (hprofile : q.shared.viewModel.profile = p.shared.viewModel.profile)
    (hstored : q.shared.stored = p.shared.stored)
    (hpicture : q.shared.completedPicture = p.shared.completedPicture)
    (hsettings : q.shared.completedSettings = p.shared.completedSettings)
    (htasks : ∀ task ∈ p.tasks, task ∈ q.tasks) : q.InOrder where
  profile := hprofile ▸ h.profile
  picture := h.picture.frame (by simp [profileValue, hstored]) (by simp [profileValue, hprofile])
    hpicture htasks
  settings := h.settings.frame (by simp [profileValue, hstored]) (by simp [profileValue, hprofile])
    hsettings htasks

variable {services : ℕ → ProfileService ProfilePrivacySettings Details} {index answeredBy : ℕ}

/-- The user's actions and the starts of tasks. -/
theorem InOrder.act (h : p.InOrder) {action : ProfileAction ProfilePrivacySettings Details}
    (hrun : ∀ index answeredBy, action ≠ .run index answeredBy)
    (hstep : p.step services action = some q) : q.InOrder := by
  have hadded : ∀ task, InOrder (p.add task) := by
    intro task
    exact h.frame rfl rfl rfl rfl fun other hmem => List.mem_append_left [task] hmem
  cases action with
  | startEditing =>
      cases hstep
      refine h.frame ?_ rfl rfl rfl fun _ hmem => hmem
      change p.shared.viewModel.startEditing.profile = p.shared.viewModel.profile
      unfold ProfileViewModel.startEditing
      split <;> rfl
  | cancelEditing =>
      cases hstep
      exact h.frame rfl rfl rfl rfl fun _ hmem => hmem
  | edit details =>
      cases hstep
      exact h.frame rfl rfl rfl rfl fun _ hmem => hmem
  | validateProfile =>
      simp only [step] at hstep
      split at hstep <;> cases hstep
      · exact h
      · exact hadded _
  | run index answeredBy => exact absurd rfl (hrun index answeredBy)
  | _ =>
      cases hstep
      exact hadded _

theorem InOrder.run (h : p.InOrder) (hservice : ∀ n, (services n).Succeeds)
    (hrun : p.run (ProfileWorld.turn (services answeredBy)) index = some q)
    (hpicture : pictureValue.Current p index) (hsettings : settingsValue.Current p index) :
    q.InOrder where
  profile := by
    obtain ⟨task, -, hshared, -, -⟩ := exists_of_run hrun
    have hturn := ProfileWorld.turn_pictureValue (hservice answeredBy) h.profile task
    have hcopy := hturn.copy_ne_none (mt Option.map_eq_none_iff.mp h.profile)
    rw [hshared]
    exact mt Option.map_eq_none_iff.mpr hcopy
  picture := h.picture.of_run hrun
    (fun task _ => ProfileWorld.turn_pictureValue (hservice answeredBy) h.profile task) hpicture
  settings := h.settings.of_run hrun
    (fun task _ => ProfileWorld.turn_settingsValue (hservice answeredBy) h.profile task) hsettings

theorem inOrder_of_reachableWhere (hservice : ∀ n, (services n).Succeeds)
    {profile : UserProfile ProfilePrivacySettings Details}
    {vm : ProfileViewModel ProfilePrivacySettings Details}
    (hp : (profileEditing services (.loaded profile vm)).ReachableWhere CarriesStored p) :
    p.InOrder := by
  refine hp.invariant InOrder ?_ ?_
  · rintro p rfl
    exact ⟨Option.some_ne_none _, .inl ⟨rfl, rfl⟩, .inl ⟨rfl, rfl⟩⟩
  · intro p action q _ h hcarries hstep
    have hstep : p.step services action = some q := hstep
    cases action with
    | run index answeredBy => exact h.run hservice hstep hcarries.1 hcarries.2
    | _ => exact h.act (by simp) hstep

/-- At the end nothing less will do. -/
theorem InOrder.upToDate_iff_carriesStored (h : p.InOrder) (hservice : ∀ n, (services n).Succeeds)
    {action : ProfileAction ProfilePrivacySettings Details}
    (hstep : p.step services action = some q) (hreturned : q.AllReturned) :
    q.UpToDate ↔ p.CarriesStored action := by
  cases action with
  | run index answeredBy =>
      have hrun : p.run (ProfileWorld.turn (services answeredBy)) index = some q := hstep
      refine ⟨fun hdate => ?_, fun hcarries => (h.run hservice hrun hcarries.1 hcarries.2).upToDate⟩
      obtain ⟨profile, hprofile, -⟩ := hdate hreturned
      obtain ⟨hpicture, hsettings⟩ := (upToDate_iff (by simp [hprofile])).mp hdate hreturned
      constructor
      · refine (h.picture.inStep_iff_current hrun ?_ ?_).mp hpicture
        · exact fun task _ => ProfileWorld.turn_pictureValue (hservice answeredBy) h.profile task
        · exact fun task hmem => (hreturned.carried_eq_none hmem).1
      · refine (h.settings.inStep_iff_current hrun ?_ ?_).mp hsettings
        · exact fun task _ => ProfileWorld.turn_settingsValue (hservice answeredBy) h.profile task
        · exact fun task hmem => (hreturned.carried_eq_none hmem).2
  | _ => exact iff_of_true (h.act (by simp) hstep).upToDate trivial

/-- **No update is lost** in the runs in which nothing out of date is sent or brought back. When
the last call returns, this is also necessary. -/
theorem no_update_lost (hservice : ∀ n, (services n).Succeeds)
    {profile : UserProfile ProfilePrivacySettings Details}
    {vm : ProfileViewModel ProfilePrivacySettings Details}
    (hp : (profileEditing services (.loaded profile vm)).ReachableWhere CarriesStored p) :
    p.UpToDate ∧ ∀ action q, p.step services action = some q → q.AllReturned →
      (q.UpToDate ↔ p.CarriesStored action) := by
  have hinOrder : p.InOrder := inOrder_of_reachableWhere hservice hp
  refine ⟨hinOrder.upToDate, fun action q hstep hreturned => ?_⟩
  exact hinOrder.upToDate_iff_carriesStored hservice hstep hreturned

instance [DecidableEq ProfilePrivacySettings] (p : ProfileEditing ProfilePrivacySettings Details) :
    (action : ProfileAction ProfilePrivacySettings Details) → Decidable (p.CarriesStored action)
  | .run index _ =>
      inferInstanceAs (Decidable (pictureValue.Current p index ∧ settingsValue.Current p index))
  | .startEditing | .cancelEditing | .edit _ | .saveProfile | .uploadProfilePicture _
  | .deleteProfilePicture | .updatePrivacySettings _ | .validateProfile =>
      inferInstanceAs (Decidable True)

theorem succeeds_obligingService :
    (obligingService ProfilePrivacySettings Details).Succeeds where
  validateProfile _ := ⟨_, rfl⟩
  updateProfile _ := rfl
  uploadProfilePicture _ _ := ⟨_, rfl⟩
  deleteProfilePicture _ := rfl
  updatePrivacySettings _ _ := rfl

/-- An upload and a change of the settings side by side, and a save after them. -/
theorem no_update_lost_of_save_after_upload :
    ∃ p, (profileEditing (fun _ => obligingService Bool String)
        (.loaded loadedProfile editedScreen)).exec ⟨.loaded loadedProfile editedScreen, []⟩
        [.uploadProfilePicture [], .updatePrivacySettings false, .run 0 0, .run 1 0, .run 1 0,
          .run 0 0, .saveProfile, .run 0 0, .run 0 0, .run 0 0] = some p
      ∧ p.tasks = [] ∧ p.UpToDate := by
  obtain ⟨p, hexec, hreach, hend⟩ :
      ∃ p, (profileEditing (fun _ => obligingService Bool String)
          (.loaded loadedProfile editedScreen)).exec ⟨.loaded loadedProfile editedScreen, []⟩
          [.uploadProfilePicture [], .updatePrivacySettings false, .run 0 0, .run 1 0, .run 1 0,
            .run 0 0, .saveProfile, .run 0 0, .run 0 0, .run 0 0] = some p
        ∧ (profileEditing (fun _ => obligingService Bool String)
          (.loaded loadedProfile editedScreen)).ReachableWhere CarriesStored p
        ∧ p.tasks.isEmpty = true :=
    Machine.exists_reachableWhere rfl _ (by decide +kernel) (by decide +kernel)
  refine ⟨p, hexec, List.isEmpty_iff.mp hend, ?_⟩
  exact (no_update_lost (fun _ => succeeds_obligingService) hreach).1

/-- A picture is uploaded while a save waits for its validation. -/
theorem uploaded_picture_lost :
    ∃ (services : ℕ → ProfileService Bool String) (profile : UserProfile Bool String)
      (vm : ProfileViewModel Bool String) (p : ProfileEditing Bool String),
      (∀ n, (services n).Succeeds) ∧ (profileEditing services (.loaded profile vm)).Reachable p
        ∧ ¬ p.UpToDate := by
  obtain ⟨p, hexec, htasks, hcompleted, hstored⟩ :
      ∃ p, (profileEditing (fun _ => obligingService Bool String)
          (.loaded loadedProfile editedScreen)).exec ⟨.loaded loadedProfile editedScreen, []⟩
          [.saveProfile, .run 0 0, .uploadProfilePicture [], .run 1 0, .run 1 0, .run 0 0,
            .run 0 0] = some p
        ∧ p.tasks = [] ∧ p.shared.completedPicture = some "uploaded.jpg"
        ∧ p.shared.stored.profilePictureURL = some "ana.jpg" := ⟨_, rfl, rfl, rfl, rfl⟩
  refine ⟨_, _, _, p, fun _ => succeeds_obligingService, Machine.reachable_of_exec rfl hexec, ?_⟩
  intro hdate
  obtain ⟨profile, -, -, -, hpicture, -⟩ := hdate (by simp [AllReturned, htasks])
  rw [hstored, hcompleted, Option.some.injEq] at hpicture
  exact absurd hpicture (by decide)

end ProfileEditing

end SkillTalk
