import SkillTalk.Proof.ProfileSaving
import SkillTalk.ProfileScreen

/-!
# What the profile screen shows

A profile comes from a load, and nothing takes it away again: no failed load, no change of the user
signed in, not even a deletion. A task that turns the spinner on turns it off when it ends, so the
spinner turns with some task in flight.
-/

namespace SkillTalk

open TaskPool

variable {ProfilePrivacySettings Details ProfileStats ProfileAnalytics : Type}

namespace ProfileTask

/-- A save that has found a profile to save. -/
def savesEdited : ProfileTask ProfilePrivacySettings Details → Bool
  | .validatingSave _ _ | .updating _ => true
  | _ => false

/-- A change that has turned the spinner on. -/
def loads : ProfileTask ProfilePrivacySettings Details → Bool
  | .uploading _ | .deleting _ | .updatingSettings _ _ => true
  | _ => false

end ProfileTask

namespace ProfileScreenTask

def savesEdited :
    ProfileScreenTask ProfilePrivacySettings Details ProfileStats ProfileAnalytics → Bool
  | .change task => task.savesEdited
  | _ => false

/-- A task that has turned the spinner on. -/
def loads : ProfileScreenTask ProfilePrivacySettings Details ProfileStats ProfileAnalytics → Bool
  | .change task => task.loads
  | .loadingProfile _ | .loadingStats _ | .loadingAnalytics _ | .deletingProfile _
  | .signingOut _ => true
  | .loadProfile | .deleteProfile => false

end ProfileScreenTask

/-- What one turn of a task does to the view model: whether there is a profile stays, and so does
whether one is edited; a save goes on with an edited profile only; and the two spinners are off,
or a task is left that turns them off, if they were off or the task's to turn off. -/
structure ProfileViewModel.Turned {Task : Type}
    (vm vm' : ProfileViewModel ProfilePrivacySettings Details)
    (savesEdited loads : Task → Bool) (task : Task) (next : Option Task) : Prop where
  profile : vm'.profile.isSome = vm.profile.isSome
  editingProfile : vm'.editingProfile.isSome = vm.editingProfile.isSome
  saves : ∀ task' ∈ next, savesEdited task' = true → vm.profile.isSome = true
  loading : vm.isLoading = false ∨ loads task = true →
    vm'.isLoading = false ∨ ∃ task' ∈ next, loads task' = true
  saving : vm.isSaving = false ∨ savesEdited task = true →
    vm'.isSaving = false ∨ ∃ task' ∈ next, savesEdited task' = true

theorem ProfileWorld.viewModel_store {α : Type} (w : ProfileWorld ProfilePrivacySettings Details)
    (answer : Except String α)
    (change : α → UserProfile ProfilePrivacySettings Details →
      UserProfile ProfilePrivacySettings Details) :
    (w.store answer change).viewModel = w.viewModel := by
  cases answer <;> rfl

/-- A turn of a save, a change or a validation. -/
theorem ProfileWorld.turned (service : ProfileService ProfilePrivacySettings Details)
    (w : ProfileWorld ProfilePrivacySettings Details)
    (task : ProfileTask ProfilePrivacySettings Details)
    (hedited : w.viewModel.editingProfile.isSome = w.viewModel.profile.isSome)
    (htask : task.savesEdited = true → w.viewModel.profile.isSome = true) :
    w.viewModel.Turned (w.turn service task).1.viewModel ProfileTask.savesEdited ProfileTask.loads
      task (w.turn service task).2 := by
  cases task with
  | saveProfile =>
      cases hediting : w.viewModel.editingProfile with
      | none =>
          simp only [turn, hediting]
          constructor <;> simp [endSave, ProfileTask.savesEdited, ProfileTask.loads]
      | some edited =>
          rw [hediting] at hedited
          simp only [turn, hediting]
          constructor <;>
            simp [present, hediting, ProfileTask.savesEdited, ProfileTask.loads, ← hedited]
  | validatingSave edited answer =>
      cases answer with
      | error description =>
          constructor <;> simp [turn, endSave, ProfileViewModel.failSaving, ProfileTask.loads]
      | ok validation =>
          simp only [turn]
          split
          · constructor <;>
              simp [present, viewModel_store, ProfileTask.savesEdited, ProfileTask.loads, htask rfl]
          · constructor <;> simp [endSave, ProfileViewModel.failSaving, ProfileTask.loads]
  | updating answer =>
      cases answer with
      | error description =>
          constructor <;> simp [turn, endSave, ProfileViewModel.failSaving, ProfileTask.loads]
      | ok updatedProfile =>
          constructor <;> simp [turn, endSave, htask rfl, ProfileTask.loads]
  | uploadProfilePicture | deleteProfilePicture | updatePrivacySettings =>
      cases hprofile : w.viewModel.profile with
      | none =>
          simp only [turn, hprofile]
          constructor <;> simp [hprofile, ProfileTask.savesEdited, ProfileTask.loads]
      | some profile =>
          simp only [turn, hprofile]
          constructor <;> simp [present, viewModel_store, hprofile, ProfileViewModel.beginLoading,
            ProfileTask.savesEdited, ProfileTask.loads]
  | uploading answer | deleting answer | updatingSettings settings answer =>
      cases answer <;> constructor <;>
        simp [turn, present, completePicture, completeSettings, ProfileViewModel.applyChange,
          ProfileViewModel.failLoading, ProfileTask.savesEdited]
  | validateProfile profile =>
      constructor <;> simp [turn, ProfileTask.savesEdited, ProfileTask.loads]
  | validating answer =>
      cases answer <;> constructor <;>
        simp [turn, present, ProfileTask.savesEdited, ProfileTask.loads]

namespace ProfileScreenWorld

/-- There is a profile where one has been loaded, and it can be edited. -/
structure Shows
    (w : ProfileScreenWorld ProfilePrivacySettings Details ProfileStats ProfileAnalytics) :
    Prop where
  profile : w.viewModel.profile.isSome = true ↔ 0 < w.loadedProfiles
  editingProfile : w.viewModel.editingProfile.isSome = w.viewModel.profile.isSome

variable (service : ProfileService ProfilePrivacySettings Details)
  (loads : ProfileLoadService ProfilePrivacySettings Details ProfileStats ProfileAnalytics)
  {w : ProfileScreenWorld ProfilePrivacySettings Details ProfileStats ProfileAnalytics}

@[simp]
theorem viewModel_present (vm : ProfileViewModel ProfilePrivacySettings Details) :
    (w.present vm).viewModel = vm := rfl

@[simp]
theorem viewModel_setStats (answer : Except String ProfileStats) :
    (w.setStats answer).viewModel = w.viewModel := by
  cases answer <;> rfl

@[simp]
theorem viewModel_setAnalytics (answer : Except String ProfileAnalytics) :
    (w.setAnalytics answer).viewModel = w.viewModel := by
  cases answer <;> rfl

theorem loadedProfiles_setStats (answer : Except String ProfileStats) :
    (w.setStats answer).loadedProfiles = w.loadedProfiles := by
  cases answer <;> rfl

theorem loadedProfiles_setAnalytics (answer : Except String ProfileAnalytics) :
    (w.setAnalytics answer).loadedProfiles = w.loadedProfiles := by
  cases answer <;> rfl

/-- What one turn does to the screen. -/
structure TurnedTo (w w' : ProfileScreenWorld ProfilePrivacySettings Details ProfileStats
      ProfileAnalytics)
    (task : ProfileScreenTask ProfilePrivacySettings Details ProfileStats ProfileAnalytics)
    (next : Option (ProfileScreenTask ProfilePrivacySettings Details ProfileStats
      ProfileAnalytics)) : Prop where
  shows : w'.Shows
  loadedProfiles : w.loadedProfiles ≤ w'.loadedProfiles
  saves : ∀ task' ∈ next, task'.savesEdited = true → 0 < w'.loadedProfiles
  loading : w.viewModel.isLoading = false ∨ task.loads = true →
    w'.viewModel.isLoading = false ∨ ∃ task' ∈ next, task'.loads = true
  saving : w.viewModel.isSaving = false ∨ task.savesEdited = true →
    w'.viewModel.isSaving = false ∨ ∃ task' ∈ next, task'.savesEdited = true

theorem Shows.turnedTo {w' : ProfileScreenWorld ProfilePrivacySettings Details ProfileStats
      ProfileAnalytics}
    {task : ProfileScreenTask ProfilePrivacySettings Details ProfileStats ProfileAnalytics}
    {next : Option (ProfileScreenTask ProfilePrivacySettings Details ProfileStats
      ProfileAnalytics)} (hw : w.Shows) (hloaded : w'.loadedProfiles = w.loadedProfiles)
    (h : w.viewModel.Turned w'.viewModel ProfileScreenTask.savesEdited ProfileScreenTask.loads task
      next) : w.TurnedTo w' task next where
  shows := by
    constructor
    · rw [h.profile, hloaded]
      exact hw.profile
    · rw [h.editingProfile, h.profile]
      exact hw.editingProfile
  loadedProfiles := Nat.le_of_eq hloaded.symm
  saves := by
    intro task' hnext hsaves
    rw [hloaded]
    exact hw.profile.mp (h.saves task' hnext hsaves)
  loading := h.loading
  saving := h.saving

theorem Shows.turn (hw : w.Shows)
    (task : ProfileScreenTask ProfilePrivacySettings Details ProfileStats ProfileAnalytics)
    (htask : task.savesEdited = true → 0 < w.loadedProfiles) :
    w.TurnedTo (w.turn service loads task).1 task (w.turn service loads task).2 := by
  cases task with
  | change task =>
      have hturned := ProfileWorld.turned service w.profiles task hw.editingProfile
        fun hsaves => hw.profile.mpr (htask hsaves)
      refine hw.turnedTo rfl ⟨hturned.profile, hturned.editingProfile, ?_, ?_, ?_⟩
      · intro task' hnext hsaves
        obtain ⟨next, hmem, rfl⟩ := Option.map_eq_some_iff.mp hnext
        exact hturned.saves next hmem hsaves
      · intro hcase
        refine (hturned.loading hcase).imp_right ?_
        rintro ⟨next, hnext, hloads⟩
        exact ⟨.change next, Option.mem_map_of_mem _ hnext, hloads⟩
      · intro hcase
        refine (hturned.saving hcase).imp_right ?_
        rintro ⟨next, hnext, hsaves⟩
        exact ⟨.change next, Option.mem_map_of_mem _ hnext, hsaves⟩
  | loadProfile =>
      cases huser : w.currentUser with
      | none =>
          simp only [ProfileScreenWorld.turn, huser]
          refine hw.turnedTo rfl ?_
          constructor <;> simp [ProfileScreenTask.loads, ProfileScreenTask.savesEdited]
      | some user =>
          simp only [ProfileScreenWorld.turn, huser]
          refine hw.turnedTo rfl ?_
          constructor <;> simp [ProfileViewModel.beginLoading, ProfileScreenTask.loads,
            ProfileScreenTask.savesEdited]
  | loadingProfile answer =>
      cases answer with
      | error description =>
          refine hw.turnedTo rfl ?_
          constructor <;> simp [ProfileScreenWorld.turn, ProfileViewModel.failLoading,
            ProfileScreenTask.savesEdited]
      | ok userProfile =>
          -- the one turn after which there is a profile where there may have been none
          constructor
          · exact ⟨iff_of_true rfl (Nat.succ_pos _), rfl⟩
          · exact Nat.le_succ _
          · simp [ProfileScreenWorld.turn, ProfileScreenTask.savesEdited]
          · exact fun _ => .inr ⟨_, rfl, rfl⟩
          · exact fun hcase => .inl (hcase.resolve_right Bool.false_ne_true)
  | loadingStats answer =>
      cases hprofile : w.viewModel.profile with
      | none =>
          simp only [ProfileScreenWorld.turn, hprofile]
          refine hw.turnedTo (loadedProfiles_setStats answer) ?_
          constructor <;> simp [endLoading, hprofile, ProfileScreenTask.savesEdited]
      | some profile =>
          simp only [ProfileScreenWorld.turn, hprofile]
          refine hw.turnedTo (loadedProfiles_setStats answer) ?_
          constructor <;> simp [hprofile, ProfileScreenTask.loads, ProfileScreenTask.savesEdited]
  | loadingAnalytics answer =>
      refine hw.turnedTo (loadedProfiles_setAnalytics answer) ?_
      constructor <;> simp [ProfileScreenWorld.turn, endLoading, ProfileScreenTask.savesEdited]
  | deleteProfile =>
      cases hprofile : w.viewModel.profile with
      | none =>
          simp only [ProfileScreenWorld.turn, hprofile]
          refine hw.turnedTo rfl ?_
          constructor <;> simp [ProfileScreenTask.loads, ProfileScreenTask.savesEdited]
      | some profile =>
          simp only [ProfileScreenWorld.turn, hprofile]
          refine hw.turnedTo rfl ?_
          constructor <;> simp [ProfileViewModel.beginLoading, hprofile, ProfileScreenTask.loads,
            ProfileScreenTask.savesEdited]
  | deletingProfile answer | signingOut answer =>
      cases answer <;> refine hw.turnedTo rfl ?_ <;> constructor <;>
        simp [ProfileScreenWorld.turn, endLoading, ProfileViewModel.failLoading,
          ProfileScreenTask.loads, ProfileScreenTask.savesEdited]

end ProfileScreenWorld

namespace ProfileScreen

variable {services : ℕ → ProfileService ProfilePrivacySettings Details}
  {loads : ℕ → ProfileLoadService ProfilePrivacySettings Details ProfileStats ProfileAnalytics}
  {p q : ProfileScreen ProfilePrivacySettings Details ProfileStats ProfileAnalytics}

/-- The profile is there where one has been loaded, saves in flight have one, and each spinner that
turns has a task in flight that turns it off. -/
structure Settles (p : ProfileScreen ProfilePrivacySettings Details ProfileStats ProfileAnalytics) :
    Prop where
  shows : p.shared.Shows
  saves : ∀ task ∈ p.tasks, task.savesEdited = true → 0 < p.shared.loadedProfiles
  loading : p.Owed (fun w => w.viewModel.isLoading = false) fun _ task => task.loads = true
  saving : p.Owed (fun w => w.viewModel.isSaving = false) fun _ task => task.savesEdited = true

theorem Settles.add (h : p.Settles)
    (task : ProfileScreenTask ProfilePrivacySettings Details ProfileStats ProfileAnalytics)
    (htask : task.savesEdited = false) : Settles (p.add task) where
  shows := h.shows
  saves := by
    intro other hmem hsaves
    rcases List.mem_append.mp hmem with hmem | hmem
    · exact h.saves other hmem hsaves
    · rw [List.mem_singleton.mp hmem, htask] at hsaves
      cases hsaves
  loading := h.loading.add task
  saving := h.saving.add task

theorem Settles.present (h : p.Settles) {vm : ProfileViewModel ProfilePrivacySettings Details}
    (hprofile : vm.profile = p.shared.viewModel.profile)
    (hedited : vm.editingProfile.isSome = p.shared.viewModel.editingProfile.isSome)
    (hloading : vm.isLoading = p.shared.viewModel.isLoading)
    (hsaving : vm.isSaving = p.shared.viewModel.isSaving) : Settles (p.present vm) where
  shows := by
    constructor
    · change vm.profile.isSome = true ↔ _
      rw [hprofile]
      exact h.shows.profile
    · change vm.editingProfile.isSome = vm.profile.isSome
      rw [hprofile, hedited]
      exact h.shows.editingProfile
  saves := h.saves
  loading := h.loading.imp_left hloading.trans
  saving := h.saving.imp_left hsaving.trans

theorem Settles.run (h : p.Settles) (service : ProfileService ProfilePrivacySettings Details)
    (load : ProfileLoadService ProfilePrivacySettings Details ProfileStats ProfileAnalytics)
    {index : ℕ} (hrun : TaskPool.run (ProfileScreenWorld.turn service load) p index = some q) :
    q.Settles ∧ p.shared.loadedProfiles ≤ q.shared.loadedProfiles := by
  have hturned : ∀ task, p.tasks[index]? = some task →
      p.shared.TurnedTo (p.shared.turn service load task).1 task
        (p.shared.turn service load task).2 := by
    intro task htask
    exact h.shows.turn service load task (h.saves task (List.mem_of_getElem? htask))
  obtain ⟨task, htask, hshared, -, htasks⟩ := TaskPool.exists_of_run hrun
  have hturn := hturned task htask
  refine ⟨⟨?_, ?_, ?_, ?_⟩, ?_⟩
  · rw [hshared]
    exact hturn.shows
  · intro other hmem hsaves
    rw [hshared]
    rcases (htasks other).mp hmem with hnext | hother
    · exact hturn.saves other hnext hsaves
    · exact Nat.lt_of_lt_of_le (h.saves other (List.mem_of_mem_eraseIdx hother) hsaves)
        hturn.loadedProfiles
  · refine h.loading.of_run_ended hrun fun task htask hcase => ?_
    exact ((hturned task htask).loading hcase).imp_right .inl
  · refine h.saving.of_run_ended hrun fun task htask hcase => ?_
    exact ((hturned task htask).saving hcase).imp_right .inl
  · rw [hshared]
    exact hturn.loadedProfiles

theorem Settles.step (h : p.Settles) {action : ProfileScreenAction ProfilePrivacySettings Details}
    (hstep : p.step services loads action = some q) :
    q.Settles ∧ p.shared.loadedProfiles ≤ q.shared.loadedProfiles := by
  cases action with
  | loadProfile | deleteProfile | saveProfile | uploadProfilePicture | deleteProfilePicture
  | updatePrivacySettings =>
      obtain rfl := Option.some.inj hstep
      exact ⟨h.add _ rfl, Nat.le_refl _⟩
  | startEditing =>
      obtain rfl := Option.some.inj hstep
      refine ⟨?_, Nat.le_refl _⟩
      unfold ProfileViewModel.startEditing
      cases hprofile : p.shared.viewModel.profile with
      | none => exact h.present rfl rfl rfl rfl
      | some profile =>
          refine h.present hprofile.symm ?_ rfl rfl
          rw [h.shows.editingProfile, hprofile]
  | cancelEditing =>
      obtain rfl := Option.some.inj hstep
      exact ⟨h.present rfl h.shows.editingProfile.symm rfl rfl, Nat.le_refl _⟩
  | edit details =>
      obtain rfl := Option.some.inj hstep
      exact ⟨h.present rfl (Option.isSome_map ..) rfl rfl, Nat.le_refl _⟩
  | dismissError =>
      obtain rfl := Option.some.inj hstep
      exact ⟨h.present rfl rfl rfl rfl, Nat.le_refl _⟩
  | validateProfile =>
      simp only [ProfileScreen.step] at hstep
      split at hstep
      · exact Option.some.inj hstep ▸ ⟨h, Nat.le_refl _⟩
      · obtain rfl := Option.some.inj hstep
        exact ⟨h.add _ rfl, Nat.le_refl _⟩
  | setCurrentUser currentUser =>
      obtain rfl := Option.some.inj hstep
      exact ⟨⟨⟨h.shows.profile, h.shows.editingProfile⟩, h.saves, h.loading, h.saving⟩,
        Nat.le_refl _⟩
  | run index answeredBy => exact h.run _ _ hstep

theorem settles_of_reachable (hp : (profileScreen services loads).Reachable p) : p.Settles := by
  refine Machine.ReachableWhere.invariant Settles ?_ ?_ hp
  · rintro s ⟨hfresh, htasks⟩
    refine ⟨⟨?_, ?_⟩, ?_, .inl hfresh.isLoading, .inl hfresh.isSaving⟩
    · rw [hfresh.profile, hfresh.loadedProfiles]
      simp
    · rw [hfresh.profile, hfresh.editingProfile]
    · intro task hmem
      rw [htasks] at hmem
      cases hmem
  · intro s action t _ hs _ hstep
    exact (hs.step hstep).1

/-- **The screen shows a profile where one was loaded** and never withdraws it: in every state of
every run there is a profile, and one to edit, where a load has been answered with one; no step
takes it away, a deletion, a sign-out and a failed load included; and with nothing in flight neither
spinner turns, and the empty state with its Retry is shown where no load has been answered. -/
theorem profile_screen_content (hp : (profileScreen services loads).Reachable p) :
    (p.shared.viewModel.profile.isSome = true ↔ 0 < p.shared.loadedProfiles)
      ∧ p.shared.viewModel.editingProfile.isSome = p.shared.viewModel.profile.isSome
      ∧ (∀ action q, (profileScreen services loads).step p action = some q →
          p.shared.viewModel.profile.isSome = true → q.shared.viewModel.profile.isSome = true)
      ∧ (p.tasks = [] → p.shared.viewModel.isSaving = false ∧ p.shared.body ≠ .loadingView
          ∧ (p.shared.body = .emptyStateView ↔ p.shared.loadedProfiles = 0)) := by
  have hsettles : p.Settles := settles_of_reachable hp
  refine ⟨hsettles.shows.profile, hsettles.shows.editingProfile, ?_, ?_⟩
  · intro action q hstep hprofile
    obtain ⟨hq, hle⟩ := hsettles.step hstep
    have hloaded : 0 < p.shared.loadedProfiles := hsettles.shows.profile.mp hprofile
    exact hq.shows.profile.mpr (Nat.lt_of_lt_of_le hloaded hle)
  · intro htasks
    have hloading : p.shared.viewModel.isLoading = false := hsettles.loading.paid htasks
    have hprofile := hsettles.shows.profile
    refine ⟨hsettles.saving.paid htasks, ?_⟩
    rw [ProfileScreenWorld.body, hloading]
    cases hshown : p.shared.viewModel.profile with
    | none =>
        rw [hshown] at hprofile
        have hnone : p.shared.loadedProfiles = 0 := by simpa using hprofile
        simp [hnone]
    | some profile =>
        rw [hshown] at hprofile
        have hloaded : 0 < p.shared.loadedProfiles := by simpa using hprofile
        simp [Nat.ne_of_gt hloaded]

def obligingLoads : ProfileLoadService Bool String ℕ ℕ where
  getCurrentProfile := .ok loadedProfile
  getProfileStats _ := .ok 1
  getProfileAnalytics _ := .ok 1
  deleteProfile _ := .ok ()
  signOut := .ok ()

def freshScreen : ProfileScreen Bool String ℕ ℕ where
  shared :=
    { profiles :=
        { viewModel :=
            { profile := none
              isLoading := false
              errorMessage := none
              isEditing := false
              editingProfile := none
              validationResult := none
              isSaving := false }
          stored := loadedProfile
          completedPicture := none
          completedSettings := false
          saves := [] }
      profileStats := 0
      profileAnalytics := 0
      currentUser := some ⟨"ana", none, none, none, false, "email"⟩
      loadedProfiles := 0 }
  tasks := []

/-- Two loads that overlap, a deletion that succeeds, and the sign-out heard of: the profile is
still there. -/
theorem profile_screen_content_deleted :
    ∃ p, (profileScreen (fun _ => obligingService Bool String) fun _ => obligingLoads).exec
        freshScreen [.loadProfile, .loadProfile, .run 0 0, .run 1 0, .run 0 0, .run 0 0, .run 0 0,
          .deleteProfile, .run 0 0, .run 1 0, .run 0 0, .run 1 0, .run 0 0, .run 0 0,
          .setCurrentUser none] = some p
      ∧ p.tasks = [] ∧ p.shared.currentUser = none
      ∧ p.shared.viewModel.profile.isSome = true := by
  obtain ⟨p, hexec, htasks, huser, hloaded⟩ :
      ∃ p, (profileScreen (fun _ => obligingService Bool String) fun _ => obligingLoads).exec
          freshScreen [.loadProfile, .loadProfile, .run 0 0, .run 1 0, .run 0 0, .run 0 0,
            .run 0 0, .deleteProfile, .run 0 0, .run 1 0, .run 0 0, .run 1 0, .run 0 0, .run 0 0,
            .setCurrentUser none] = some p
        ∧ p.tasks = [] ∧ p.shared.currentUser = none ∧ p.shared.loadedProfiles = 2 :=
    ⟨_, rfl, rfl, rfl, rfl⟩
  have hreachable := Machine.reachable_of_exec (m := profileScreen (fun _ => obligingService Bool
    String) fun _ => obligingLoads) ⟨⟨rfl, rfl, rfl, rfl, rfl⟩, rfl⟩ hexec
  refine ⟨p, hexec, htasks, huser, (profile_screen_content hreachable).1.mpr ?_⟩
  rw [hloaded]
  exact Nat.two_pos

end ProfileScreen

end SkillTalk
