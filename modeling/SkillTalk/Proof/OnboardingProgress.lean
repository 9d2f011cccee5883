import SkillTalk.OnboardingContainerView

/-!
# Onboarding is finished with its data only

Each view lets the user on only once its own part of the data is there, and no view touches another
one's part. So the steps before the current one are filled, whatever way the user came. The views of
the skills write their local list to the coordinator, and therefore have to agree with it.
-/

namespace SkillTalk

variable {CountryModel UIImage : Type} {rules : OnboardingText} {language : String}
  {repositories : ℕ → SkillRepository}

/-- The steps the user comes through before a step. -/
def OnboardingStep.earlier (step : OnboardingStep) : List OnboardingStep :=
  allCases.takeWhile fun other => other != step

/-- The step whose view a kind of skills is chosen in. -/
def UserSkillType.step : UserSkillType → OnboardingStep
  | .expert => .expertise
  | .target => .targetSkill

namespace OnboardingData

/-- The part of the data that a step asks for. -/
def Filled (data : OnboardingData CountryModel UIImage) : OnboardingStep → Prop
  | .signIn => data.isAuthenticated = true
  | .basicInfo => data.name ≠ "" ∧ data.username ≠ ""
  | .countrySelection => data.country ≠ none
  | .nativeLanguage => data.nativeLanguage ≠ none
  | .secondLanguage => data.secondLanguages ≠ []
  | .expertise => data.expertSkills ≠ []
  | .targetSkill => data.targetSkills ≠ []
  | .profilePicture => data.profilePicture ≠ none
  | .welcome | .complete => True

/-- Two states of the data agree in the part that a step asks for. -/
def SamePart (data data' : OnboardingData CountryModel UIImage) : OnboardingStep → Prop
  | .signIn => data'.isAuthenticated = data.isAuthenticated
  | .basicInfo => data'.name = data.name ∧ data'.username = data.username
  | .countrySelection => data'.country = data.country
  | .nativeLanguage => data'.nativeLanguage = data.nativeLanguage
  | .secondLanguage => data'.secondLanguages = data.secondLanguages
  | .expertise => data'.expertSkills = data.expertSkills
  | .targetSkill => data'.targetSkills = data.targetSkills
  | .profilePicture => data'.profilePicture = data.profilePicture
  | .welcome | .complete => True

/-- Only the part that one step asks for may have changed. -/
def KeptBut (step : OnboardingStep) (data data' : OnboardingData CountryModel UIImage) : Prop :=
  ∀ other, other ≠ step → SamePart data data' other

variable {data data' : OnboardingData CountryModel UIImage}

theorem SamePart.filled {step : OnboardingStep} (h : SamePart data data' step)
    (hfilled : data.Filled step) : data'.Filled step := by
  cases step <;> simp_all [SamePart, Filled]

theorem KeptBut.skills {step : OnboardingStep} (h : KeptBut step data data') {type : UserSkillType}
    (hne : type.step ≠ step) : data'.skills type = data.skills type := by
  cases type <;> exact h _ hne

theorem keptBut_refl (step : OnboardingStep) : KeptBut step data data := by
  intro other _
  cases other <;> trivial

theorem keptBut_setSkills (type : UserSkillType) (skills : List Skill) :
    KeptBut type.step data (data.setSkills type skills) := by
  intro other hother
  cases type <;> cases other <;> trivial

theorem keptBut_saved (v : BasicInfoView) : KeptBut .basicInfo data (v.saved data) := by
  intro other hother
  cases other <;> trivial

theorem skills_setSkills (type : UserSkillType) (skills : List Skill) :
    (data.setSkills type skills).skills type = skills := by
  cases type <;> rfl

theorem filled_step_iff (type : UserSkillType) :
    data.Filled type.step ↔ data.skills type ≠ [] := by
  cases type <;> exact Iff.rfl

end OnboardingData

namespace OnboardingCoordinator

variable {c : OnboardingCoordinator CountryModel UIImage}

theorem nextStep_eq (h : c.currentStep ≠ .complete) :
    ∃ step, c.nextStep = { c with currentStep := step }
      ∧ step.earlier = c.currentStep.earlier ++ [c.currentStep] := by
  unfold nextStep
  cases hstep : c.currentStep with
  | complete => exact absurd hstep h
  | _ => exact ⟨_, rfl, rfl⟩

theorem previousStep_eq (c : OnboardingCoordinator CountryModel UIImage) :
    ∃ step, c.previousStep = { c with currentStep := step }
      ∧ ∀ other ∈ step.earlier, other ∈ c.currentStep.earlier := by
  unfold previousStep
  cases hstep : c.currentStep with
  | welcome => exact ⟨c.currentStep, rfl, by simp [hstep]⟩
  | _ => exact ⟨_, rfl, by decide⟩

end OnboardingCoordinator

namespace StepView

def step : StepView UIImage → OnboardingStep
  | .welcome => .welcome
  | .signIn _ => .signIn
  | .basicInfo _ => .basicInfo
  | .countrySelection => .countrySelection
  | .nativeLanguage => .nativeLanguage
  | .secondLanguage _ => .secondLanguage
  | .expertise _ => .expertise
  | .targetSkill _ => .targetSkill
  | .profilePicture _ => .profilePicture
  | .complete => .complete

/-- The local list of skills is the coordinator's. -/
def Agrees (data : OnboardingData CountryModel UIImage) : StepView UIImage → Prop
  | .expertise v => v.selectedSkills = data.expertSkills
  | .targetSkill v => v.selectedSkills = data.targetSkills
  | _ => True

/-- `ExpertiseView` or `TargetSkillView`. -/
def ofSkills : UserSkillType → SkillListView → StepView UIImage
  | .expert => .expertise
  | .target => .targetSkill

@[simp]
theorem step_ofSkills (type : UserSkillType) (v : SkillListView) :
    (ofSkills type v : StepView UIImage).step = type.step := by
  cases type <;> rfl

@[simp]
theorem agrees_ofSkills (data : OnboardingData CountryModel UIImage) (type : UserSkillType)
    (v : SkillListView) :
    (ofSkills type v : StepView UIImage).Agrees data ↔ v.selectedSkills = data.skills type := by
  cases type <;> exact Iff.rfl

end StepView

/-- The actions that change nothing but what is over the view. -/
def SkillListAction.IsLocal : SkillListAction → Prop
  | .confirm | .remove _ | .continue => False
  | _ => True

namespace SkillListView

variable {type : UserSkillType} {v w : SkillListView}

theorem selectedSkills_of_add (h : v.add type = some w) : w.selectedSkills = v.selectedSkills := by
  unfold add at h
  split at h
  · cases h
  · split at h <;> cases h <;> rfl

theorem selectedSkills_of_browse {action : SelectionAction}
    (h : v.browse language repositories action = some w) :
    w.selectedSkills = v.selectedSkills := by
  obtain ⟨sheet, -, h⟩ := Option.bind_eq_some_iff.mp h
  split at h
  · obtain ⟨sheet', -, rfl⟩ := Option.map_eq_some_iff.mp h
    rfl
  · cases h

theorem selectedSkills_of_tapSkill {skill : Skill} (h : v.tapSkill skill = some w) :
    w.selectedSkills = v.selectedSkills := by
  obtain ⟨sheet, -, h⟩ := Option.bind_eq_some_iff.mp h
  split at h <;> cases h
  rfl

end SkillListView

namespace OnboardingContainerView

open OnboardingData

theorem step_currentStepView (c : OnboardingCoordinator CountryModel UIImage) :
    (currentStepView rules c).step = c.currentStep := by
  unfold currentStepView
  cases c.currentStep <;> rfl

theorem agrees_currentStepView (c : OnboardingCoordinator CountryModel UIImage) :
    (currentStepView rules c).Agrees c.onboardingData := by
  unfold currentStepView
  cases c.currentStep <;> trivial

/-- What holds of the container in every run. -/
structure InProgress (s : OnboardingContainerView CountryModel UIImage) : Prop where
  view : s.view.step = s.coordinator.currentStep
  agrees : s.view.Agrees s.coordinator.onboardingData
  filled : ∀ step ∈ s.coordinator.currentStep.earlier, s.coordinator.onboardingData.Filled step
  completed : s.coordinator.onboardingCompleted = true → s.coordinator.currentStep = .complete

variable (rules) in
/-- What one action of the user comes to. -/
inductive Outcome (s : OnboardingContainerView CountryModel UIImage) :
    OnboardingContainerView CountryModel UIImage → Prop
  | stay {data : OnboardingData CountryModel UIImage} {view : StepView UIImage}
      (hkept : KeptBut s.view.step s.coordinator.onboardingData data)
      (hview : view.step = s.view.step) (hagrees : view.Agrees data) :
      Outcome s ⟨s.coordinator.save data, view⟩
  | advance {data : OnboardingData CountryModel UIImage}
      (hkept : KeptBut s.view.step s.coordinator.onboardingData data)
      (hfilled : data.Filled s.view.step) (hstep : s.view.step ≠ .complete) :
      Outcome s (entered rules (s.coordinator.save data).nextStep)
  | back : Outcome s (entered rules s.coordinator.previousStep)
  | finish (hview : s.view = .complete) :
      Outcome s ⟨s.coordinator.completeOnboarding, .complete⟩

variable {c : OnboardingCoordinator CountryModel UIImage}
  {t : OnboardingContainerView CountryModel UIImage}

/-- The view's local state has changed, and nothing else. -/
theorem Outcome.local {view view' : StepView UIImage} (hview : view'.step = view.step)
    (hagrees : view'.Agrees c.onboardingData) :
    Outcome rules ⟨c, view⟩ ⟨c, view'⟩ :=
  have hkept : KeptBut view.step c.onboardingData c.onboardingData := keptBut_refl view.step
  .stay (s := ⟨c, view⟩) hkept hview hagrees

/-- The user goes on, and the data is as it was. -/
theorem Outcome.proceed {view : StepView UIImage} (hfilled : c.onboardingData.Filled view.step)
    (hstep : view.step ≠ .complete) : Outcome rules ⟨c, view⟩ (entered rules c.nextStep) := by
  have hkept : KeptBut view.step c.onboardingData c.onboardingData := keptBut_refl view.step
  exact .advance (s := ⟨c, view⟩) hkept hfilled hstep

theorem outcome_signInStep {v : SignInView} {action : SignInAction}
    (h : signInStep rules c v action = some t) :
    Outcome rules ⟨c, .signIn v⟩ t := by
  unfold signInStep at h
  split at h
  · split at h
    · obtain rfl := Option.some.inj h
      refine .advance (s := ⟨c, .signIn v⟩) ?_ rfl (by simp [StepView.step])
      intro other hother
      cases other <;> trivial
    · obtain rfl := Option.some.inj h
      exact .local rfl trivial
  · cases h

theorem filled_saved {v : BasicInfoView} (hvalid : v.isFormValid = true)
    (data : OnboardingData CountryModel UIImage) : (v.saved data).Filled .basicInfo := by
  simp only [BasicInfoView.isFormValid, Bool.and_eq_true, decide_eq_true_eq] at hvalid
  exact ⟨hvalid.1.1.1.1.1.1.2, hvalid.1.1.1.1.2⟩

theorem outcome_basicInfoStep {v : BasicInfoView} {action : BasicInfoAction}
    (h : basicInfoStep rules c v action = some t) :
    Outcome rules ⟨c, .basicInfo v⟩ t := by
  cases action with
  | edit field text =>
      obtain rfl := Option.some.inj h
      exact .local rfl trivial
  | submit field =>
      obtain rfl := Option.some.inj h
      exact .local rfl trivial
  | next =>
      simp only [basicInfoStep] at h
      split at h
      · rename_i hvalid
        split at h
        · obtain rfl := Option.some.inj h
          exact .advance (s := ⟨c, .basicInfo v⟩) (keptBut_saved v)
            (filled_saved hvalid c.onboardingData) (by simp [StepView.step])
        · obtain rfl := Option.some.inj h
          exact .local rfl trivial
      · cases h

theorem outcome_secondLanguageStep {v : SecondLanguageView} {action : SecondLanguageAction}
    (h : secondLanguageStep rules c v action = some t) :
    Outcome rules ⟨c, .secondLanguage v⟩ t := by
  cases action with
  | next =>
      simp only [secondLanguageStep] at h
      split at h
      · cases h
      · rename_i hselected
        obtain rfl := Option.some.inj h
        refine .advance (s := ⟨c, .secondLanguage v⟩) ?_ ?_ (by simp [StepView.step])
        · intro other hother
          cases other <;> trivial
        · exact fun hnil => hselected (List.map_eq_nil_iff.mp hnil)
  | _ =>
      obtain rfl := Option.some.inj h
      exact .local rfl trivial

theorem outcome_profilePictureStep {v : ProfilePictureView UIImage}
    {action : ProfilePictureAction UIImage} (h : profilePictureStep rules c v action = some t) :
    Outcome rules ⟨c, .profilePicture v⟩ t := by
  have hkept : ∀ picture, KeptBut .profilePicture c.onboardingData
      { c.onboardingData with profilePicture := picture } := by
    intro picture other hother
    cases other <;> trivial
  cases action <;> simp only [profilePictureStep] at h <;> split at h <;> cases h
  · exact .local rfl trivial
  · exact .stay (s := ⟨c, .profilePicture v⟩) (hkept _) rfl trivial
  · exact .local rfl trivial
  · rename_i hopen
    refine .advance (s := ⟨c, .profilePicture v⟩) (hkept _) ?_ (by simp [StepView.step])
    intro hnone
    exact hopen (.inr (Option.isNone_iff_eq_none.mpr hnone))

theorem skillListStep_local {type : UserSkillType} {v : SkillListView}
    {present : SkillListView → StepView UIImage} {action : SkillListAction}
    (hlocal : action.IsLocal)
    (h : skillListStep rules language repositories type present c v action = some t) :
    ∃ w, t = ⟨c, present w⟩ ∧ w.selectedSkills = v.selectedSkills := by
  cases action with
  | add =>
      obtain ⟨w, hw, rfl⟩ := Option.map_eq_some_iff.mp h
      exact ⟨w, rfl, SkillListView.selectedSkills_of_add hw⟩
  | upgradeToVIP =>
      obtain ⟨w, hw, rfl⟩ := Option.map_eq_some_iff.mp h
      unfold SkillListView.upgradeToVIP at hw
      split at hw <;> cases hw
      exact ⟨_, rfl, rfl⟩
  | cancelUpgrade =>
      obtain ⟨w, hw, rfl⟩ := Option.map_eq_some_iff.mp h
      unfold SkillListView.cancelUpgrade at hw
      split at hw <;> cases hw
      exact ⟨_, rfl, rfl⟩
  | browse action =>
      obtain ⟨w, hw, rfl⟩ := Option.map_eq_some_iff.mp h
      exact ⟨w, rfl, SkillListView.selectedSkills_of_browse hw⟩
  | tapSkill skill =>
      obtain ⟨w, hw, rfl⟩ := Option.map_eq_some_iff.mp h
      exact ⟨w, rfl, SkillListView.selectedSkills_of_tapSkill hw⟩
  | dismiss =>
      obtain ⟨w, hw, rfl⟩ := Option.map_eq_some_iff.mp h
      obtain ⟨sheet, -, rfl⟩ := Option.map_eq_some_iff.mp hw
      exact ⟨_, rfl, rfl⟩
  | _ => exact absurd hlocal id

theorem outcome_skillListStep {type : UserSkillType} {v : SkillListView}
    {action : SkillListAction} (hagrees : v.selectedSkills = c.onboardingData.skills type)
    (h : skillListStep rules language repositories type (StepView.ofSkills type) c v action
      = some t) :
    Outcome rules ⟨c, .ofSkills type v⟩ t := by
  have hstep : (StepView.ofSkills type v : StepView UIImage).step = type.step :=
    StepView.step_ofSkills type v
  have hkept : ∀ skills, KeptBut (StepView.ofSkills type v : StepView UIImage).step
      c.onboardingData (c.onboardingData.setSkills type skills) :=
    fun skills => hstep ▸ keptBut_setSkills type skills
  by_cases hlocal : action.IsLocal
  · obtain ⟨w, rfl, hw⟩ := skillListStep_local hlocal h
    exact .local (by simp) (by simpa using hw.trans hagrees)
  cases action with
  | confirm =>
      obtain ⟨skills, -, rfl⟩ := Option.map_eq_some_iff.mp h
      refine .stay (s := ⟨c, .ofSkills type v⟩) (hkept skills) (by simp) ?_
      simp [SkillListView.onSkillsSelected, skills_setSkills]
  | remove skill =>
      obtain ⟨w, -, rfl⟩ := Option.map_eq_some_iff.mp h
      refine .stay (s := ⟨c, .ofSkills type v⟩) (hkept w.selectedSkills) (by simp) ?_
      simp [skills_setSkills]
  | «continue» =>
      simp only [skillListStep] at h
      split at h <;> cases h
      rename_i hcontinue
      refine .proceed ?_ ?_
      · rw [StepView.step_ofSkills, filled_step_iff, ← hagrees]
        exact hcontinue.2
      · rw [StepView.step_ofSkills]
        cases type <;> decide
  | _ => exact absurd trivial hlocal

/-- Every action of the user comes to one of the four. -/
theorem outcome_of_step {s : OnboardingContainerView CountryModel UIImage}
    {action : OnboardingAction CountryModel UIImage} (hs : s.InProgress)
    (h : step rules language repositories s action = some t) :
    s.coordinator.onboardingCompleted = false ∧ Outcome rules s t := by
  obtain ⟨c, view⟩ := s
  dsimp only [step] at h
  split at h
  · cases h
  rename_i hopen
  refine ⟨by simpa using hopen, ?_⟩
  have hagrees : view.Agrees c.onboardingData := hs.agrees
  split at h
  · split at h <;> cases h
    exact .back
  · cases h
    exact .proceed trivial (by simp [StepView.step])
  · exact outcome_signInStep h
  · exact outcome_basicInfoStep h
  · cases h
    refine .advance (s := ⟨c, .countrySelection⟩) ?_ (Option.some_ne_none _)
      (by simp [StepView.step])
    intro other hother
    cases other <;> trivial
  · cases h
    refine .advance (s := ⟨c, .nativeLanguage⟩) ?_ (Option.some_ne_none _) (by simp [StepView.step])
    intro other hother
    cases other <;> trivial
  · exact outcome_secondLanguageStep h
  · exact outcome_skillListStep (show _ = c.onboardingData.skills .expert from hagrees) h
  · exact outcome_skillListStep (show _ = c.onboardingData.skills .target from hagrees) h
  · exact outcome_profilePictureStep h
  · cases h
    exact .finish rfl
  · cases h

theorem ne_of_mem_earlier {step other : OnboardingStep} (h : other ∈ step.earlier) :
    other ≠ step := by
  have hall : step.earlier.all fun other => other != step := List.all_takeWhile
  simpa using List.all_eq_true.mp hall other h

/-- The view of a step appears where the steps before it are filled. -/
theorem inProgress_entered
    (hfilled : ∀ step ∈ c.currentStep.earlier, c.onboardingData.Filled step)
    (hopen : c.onboardingCompleted = false) : (entered rules c).InProgress where
  view := step_currentStepView c
  agrees := agrees_currentStepView c
  filled := hfilled
  completed := by
    intro hcompleted
    exact absurd (hopen.symm.trans hcompleted) Bool.false_ne_true

theorem InProgress.keptBut {s : OnboardingContainerView CountryModel UIImage} (hs : s.InProgress)
    {data : OnboardingData CountryModel UIImage}
    (hkept : KeptBut s.view.step s.coordinator.onboardingData data) :
    ∀ step ∈ s.coordinator.currentStep.earlier, data.Filled step := by
  intro step hmem
  refine (hkept step ?_).filled (hs.filled step hmem)
  rw [hs.view]
  exact ne_of_mem_earlier hmem

/-- **One action.** -/
theorem InProgress.outcome {s : OnboardingContainerView CountryModel UIImage} (hs : s.InProgress)
    (hopen : s.coordinator.onboardingCompleted = false) (h : Outcome rules s t) :
    t.InProgress := by
  cases h with
  | stay hkept hview hagrees =>
      exact ⟨hview.trans hs.view, hagrees, hs.keptBut hkept, hs.completed⟩
  | @advance data hkept hfilled hstep =>
      obtain ⟨next, hnext, hearlier⟩ :=
        OnboardingCoordinator.nextStep_eq (c := s.coordinator.save data) (hs.view ▸ hstep)
      rw [hnext]
      refine inProgress_entered ?_ hopen
      intro step hmem
      rw [hearlier] at hmem
      rcases List.mem_append.mp hmem with hmem | hmem
      · exact hs.keptBut hkept step hmem
      · have hcurrent : step = s.view.step := (List.mem_singleton.mp hmem).trans hs.view.symm
        rw [hcurrent]
        exact hfilled
  | back =>
      obtain ⟨previous, hprevious, hearlier⟩ :=
        OnboardingCoordinator.previousStep_eq s.coordinator
      rw [hprevious]
      exact inProgress_entered (fun step hmem => hs.filled step (hearlier step hmem)) hopen
  | finish hview =>
      have hcomplete : s.coordinator.currentStep = .complete := by
        rw [← hs.view, hview]
        rfl
      exact ⟨hcomplete.symm, trivial, hs.filled, fun _ => hcomplete⟩

theorem inProgress_initial :
    (entered rules .initial : OnboardingContainerView CountryModel UIImage).InProgress :=
  inProgress_entered (by simp [OnboardingCoordinator.initial, OnboardingStep.earlier,
    OnboardingStep.allCases]) rfl

/-- **Every run.** -/
theorem inProgress_of_reachable {s : OnboardingContainerView CountryModel UIImage}
    (h : (onboarding CountryModel UIImage rules language repositories).Reachable s) :
    s.InProgress := by
  refine h.invariant InProgress ?_ ?_
  · rintro s rfl
    exact inProgress_initial
  · intro s action t _ hs _ hstep
    obtain ⟨hopen, houtcome⟩ := outcome_of_step hs hstep
    exact hs.outcome hopen houtcome

/-- Every step has been filled. -/
theorem InProgress.filled_of_complete {s : OnboardingContainerView CountryModel UIImage}
    (hs : s.InProgress) (hend : s.coordinator.currentStep = .complete
      ∨ s.coordinator.onboardingCompleted = true) (step : OnboardingStep) :
    s.coordinator.onboardingData.Filled step := by
  have hcomplete : s.coordinator.currentStep = .complete := hend.elim id hs.completed
  by_cases hstep : step = .complete
  · rw [hstep]
    trivial
  · refine hs.filled step ?_
    rw [hcomplete]
    cases step <;> first | decide | exact absurd rfl hstep

end OnboardingContainerView

/-- **Onboarding cannot be finished with missing data**, whatever the user does on the way. -/
theorem onboarding_finished_with_data {s : OnboardingContainerView CountryModel UIImage}
    (h : (onboarding CountryModel UIImage rules language repositories).Reachable s)
    (hend : s.coordinator.currentStep = .complete ∨ s.coordinator.onboardingCompleted = true) :
    s.coordinator.onboardingData.isValid = true
      ∧ s.coordinator.onboardingData.isAuthenticated = true
      ∧ s.coordinator.onboardingData.secondLanguages ≠ []
      ∧ s.coordinator.onboardingData.profilePicture ≠ none := by
  have hfilled : ∀ step, s.coordinator.onboardingData.Filled step :=
    (OnboardingContainerView.inProgress_of_reachable h).filled_of_complete hend
  refine ⟨?_, hfilled .signIn, hfilled .secondLanguage, hfilled .profilePicture⟩
  have hinfo : s.coordinator.onboardingData.name ≠ ""
      ∧ s.coordinator.onboardingData.username ≠ "" := hfilled .basicInfo
  have hcountry : s.coordinator.onboardingData.country ≠ none := hfilled .countrySelection
  have hnative : s.coordinator.onboardingData.nativeLanguage ≠ none := hfilled .nativeLanguage
  have hexpert : s.coordinator.onboardingData.expertSkills ≠ [] := hfilled .expertise
  have htarget : s.coordinator.onboardingData.targetSkills ≠ [] := hfilled .targetSkill
  simp [OnboardingData.isValid, hinfo, hexpert, htarget, Option.isSome_iff_ne_none.mpr hcountry,
    Option.isSome_iff_ne_none.mpr hnative]

def artsCategory : SkillCategory := ⟨"arts", "Arts", none, 0, none⟩

def fineArts : SkillSubcategory := ⟨"fine-arts", "arts", "Fine arts", none, 0, none, none⟩

def drawing : Skill := ⟨"drawing", "fine-arts", "Drawing", .beginner, 80, none, [], none⟩

def painting : Skill := ⟨"painting", "fine-arts", "Painting", .intermediate, 60, none, [], none⟩

/-- A category with one subcategory and two skills. -/
def artsRepository : SkillRepository where
  getCategories _ := .ok [artsCategory]
  getSubcategories _ _ := .ok [fineArts]
  getSkills _ _ := .ok [drawing, painting]
  searchSkills _ _ := .ok []
  getPopularSkills _ _ := .ok []
  getSkillsByDifficulty _ _ := .ok []

/-- The sheet is opened, and the user goes to its skills. -/
def openArts : List (OnboardingAction String String) :=
  [.skills .add, .skills (.browse (.run 0 0)), .skills (.browse (.run 0 0)),
    .skills (.browse (.selectCategory artsCategory)), .skills (.browse (.run 0 0)),
    .skills (.browse (.run 0 0)), .skills (.browse (.selectSubcategory fineArts)),
    .skills (.browse (.run 0 0)), .skills (.browse (.run 0 0))]

/-- From the first step to that of the expert skills. -/
def toExpertise : List (OnboardingAction String String) :=
  [.getStarted, .signIn .socialButton, .basicInfo (.edit .name "Ana"),
    .basicInfo (.edit .username "ana_1"), .basicInfo (.edit .phoneNumber "555 123 4567"),
    .basicInfo (.edit .age "30"), .basicInfo .next, .selectCountry "NO",
    .selectNativeLanguage ⟨"no", "Norwegian", "Norsk"⟩,
    .secondLanguage (.select ⟨"en", "English", "English"⟩ .advanced), .secondLanguage .next]

/-- All the way, with a step back to the expert skills, which are then chosen anew. -/
def walkThrough : List (OnboardingAction String String) :=
  toExpertise ++ openArts ++ [.skills (.tapSkill drawing), .skills .confirm, .skills .continue,
    .back, .skills (.remove drawing)] ++ openArts ++ [.skills (.tapSkill painting),
    .skills .confirm, .skills .continue] ++ openArts ++ [.skills (.tapSkill drawing),
    .skills .confirm, .skills .continue, .profilePicture (.pick "photo"),
    .profilePicture (.crop "portrait"), .profilePicture .startLearning, .finish]

theorem onboarding_finished_with_data_of_walk :
    ∃ s, (onboarding String String asciiText "en" fun _ => artsRepository).exec
        (.entered asciiText .initial) walkThrough = some s
      ∧ s.coordinator.onboardingCompleted = true
      ∧ s.coordinator.onboardingData.isValid = true
      ∧ s.coordinator.onboardingData.profilePicture ≠ none := by
  obtain ⟨s, hexec, hend⟩ : ∃ s, (onboarding String String asciiText "en"
      fun _ => artsRepository).exec (.entered asciiText .initial) walkThrough = some s
      ∧ s.coordinator.onboardingCompleted = true := ⟨_, rfl, rfl⟩
  have hdata := onboarding_finished_with_data (Machine.reachable_of_exec rfl hexec) (.inr hend)
  exact ⟨s, hexec, hend, hdata.1, hdata.2.2.2⟩

end SkillTalk
