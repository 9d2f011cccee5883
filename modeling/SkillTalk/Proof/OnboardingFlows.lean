import Mathlib.Tactic.Linarith
import SkillTalk.OnboardingFlow

/-!
# What the onboarding's view model keeps

The data say who signed in last, the message is that of the last failure since a sign-in was
started, and the flag of loading is off when no sign-in waits. Completions are accounted for by the
calls of `nextStep` at the last step. Steps are counted: forward and back, a run that never jumps is
where its calls have brought it.
-/

namespace SkillTalk

namespace OnboardingStep

def index (step : OnboardingStep) : ℕ := allCases.idxOf step

/-- The step after, or the last step again. -/
def following (step : OnboardingStep) : OnboardingStep := allCases.getD (step.index + 1) .complete

/-- The step before, or the first step again. -/
def preceding (step : OnboardingStep) : OnboardingStep := allCases.getD (step.index - 1) .welcome

def isLast (step : OnboardingStep) : ℕ := if step = .complete then 1 else 0

theorem index_following (step : OnboardingStep) :
    step.following.index + step.isLast = step.index + 1 := by
  cases step <;> rfl

theorem index_preceding (step : OnboardingStep) :
    step.preceding.index + (if step = .welcome then 0 else 1) = step.index := by
  cases step <;> rfl

theorem index_le (step : OnboardingStep) : step.index ≤ 9 := by
  cases step <;> decide

theorem isLast_eq (step : OnboardingStep) : step.isLast = if step.index = 9 then 1 else 0 := by
  cases step <;> rfl

end OnboardingStep

namespace OnboardingFlow

variable {CountryModel UIImage : Type} {f g : OnboardingFlow CountryModel UIImage}

/-! ### Steps -/

theorem nextStep_eq (f : OnboardingFlow CountryModel UIImage) :
    f.nextStep = { f with
      currentStep := f.currentStep.following
      completing := f.completing + f.currentStep.isLast
      advances := f.advances + 1
      finishes := f.finishes + f.currentStep.isLast } := by
  obtain ⟨currentStep, _⟩ := f
  cases currentStep <;> rfl

theorem previousStep_eq (f : OnboardingFlow CountryModel UIImage) :
    f.previousStep = { f with
      currentStep := f.currentStep.preceding
      backs := f.backs + if f.currentStep = .welcome then 0 else 1 } := by
  obtain ⟨currentStep, _⟩ := f
  cases currentStep <;> rfl

/-! ### Signing in and completing -/

structure Consistent (f : OnboardingFlow CountryModel UIImage) : Prop where
  authenticated : f.onboardingData.isAuthenticated = true ↔ f.succeeded ≠ []
  provider : f.authProvider = (f.succeeded.getLast?.map SignInMethod.authProvider).getD .none
  loading : f.isLoading = true → f.signingIn ≠ []
  message : f.errorMessage = f.failures.getLast?
  finishes : f.finishes = f.completing + f.posting + f.posted
  completed : f.onboardingCompleted = true ↔ 0 < f.posting + f.posted

theorem consistent_initial : (initial : OnboardingFlow CountryModel UIImage).Consistent := by
  refine ⟨?_, rfl, ?_, rfl, rfl, ?_⟩ <;> simp [initial, onboardingData, OnboardingData.initial]

/-- The selections leave alone who is signed in. -/
theorem Consistent.setSelections (h : f.Consistent)
    {selections : OnboardingViewModel CountryModel UIImage}
    (hsame : selections.onboardingData.isAuthenticated = f.onboardingData.isAuthenticated) :
    ({ f with selections := selections } : OnboardingFlow CountryModel UIImage).Consistent :=
  ⟨hsame ▸ h.authenticated, h.provider, h.loading, h.message, h.finishes, h.completed⟩

theorem Consistent.nextStep (h : f.Consistent) : f.nextStep.Consistent := by
  rw [nextStep_eq]
  refine ⟨h.authenticated, h.provider, h.loading, h.message, ?_, h.completed⟩
  have hfinishes := h.finishes
  dsimp only
  omega

theorem Consistent.previousStep (h : f.Consistent) : f.previousStep.Consistent := by
  rw [previousStep_eq]
  exact ⟨h.authenticated, h.provider, h.loading, h.message, h.finishes, h.completed⟩

theorem Consistent.signIn (h : f.Consistent) (method : SignInMethod) :
    (f.signIn method).Consistent :=
  ⟨h.authenticated, h.provider, fun _ => by simp [OnboardingFlow.signIn], rfl, h.finishes,
    h.completed⟩

theorem Consistent.finishSignIn (h : f.Consistent) (index : ℕ) (method : SignInMethod)
    (result : Except String AuthUser) :
    ({ f with signingIn := f.signingIn.eraseIdx index }.finishSignIn method result).Consistent := by
  cases result with
  | error localizedDescription =>
      refine ⟨h.authenticated, h.provider, fun hloading => Bool.noConfusion hloading, ?_, h.finishes,
        h.completed⟩
      simp [OnboardingFlow.finishSignIn]
  | ok user =>
      simp only [OnboardingFlow.finishSignIn, nextStep_eq]
      refine ⟨?_, ?_, fun hloading => Bool.noConfusion hloading, h.message, ?_, h.completed⟩
      · simp [onboardingData, setData]
      · simp
      · have hfinishes := h.finishes
        simp only [setData]
        omega

theorem Consistent.saveOnboardingData (h : f.Consistent) (hcompleting : f.completing ≠ 0) :
    f.saveOnboardingData.Consistent := by
  refine ⟨h.authenticated, h.provider, fun hloading => Bool.noConfusion hloading, h.message, ?_, ?_⟩
  · have hfinishes := h.finishes
    simp only [OnboardingFlow.saveOnboardingData]
    omega
  · simp only [OnboardingFlow.saveOnboardingData, true_iff]
    omega

theorem Consistent.postCompletion (h : f.Consistent) (hposting : f.posting ≠ 0) :
    ({ f with posting := f.posting - 1, posted := f.posted + 1 } :
      OnboardingFlow CountryModel UIImage).Consistent := by
  have hmoved : f.posting - 1 + (f.posted + 1) = f.posting + f.posted := by omega
  refine ⟨h.authenticated, h.provider, h.loading, h.message, ?_, ?_⟩
  · have hfinishes := h.finishes
    dsimp only
    omega
  · rw [hmoved]
    exact h.completed

theorem isAuthenticated_addSecondLanguage (s : OnboardingViewModel CountryModel UIImage)
    (language : Language) : (s.addSecondLanguage language).onboardingData.isAuthenticated
      = s.onboardingData.isAuthenticated := by
  unfold OnboardingViewModel.addSecondLanguage
  split <;> rfl

theorem isAuthenticated_addExpertSkill (s : OnboardingViewModel CountryModel UIImage)
    (skill : Skill) : (s.addExpertSkill skill).onboardingData.isAuthenticated
      = s.onboardingData.isAuthenticated := by
  unfold OnboardingViewModel.addExpertSkill
  split <;> rfl

theorem isAuthenticated_addTargetSkill (s : OnboardingViewModel CountryModel UIImage)
    (skill : Skill) : (s.addTargetSkill skill).onboardingData.isAuthenticated
      = s.onboardingData.isAuthenticated := by
  unfold OnboardingViewModel.addTargetSkill
  split <;> rfl

theorem consistent_of_reachable (hf : (onboardingFlow CountryModel UIImage).Reachable f) :
    f.Consistent := by
  refine Machine.ReachableWhere.invariant Consistent ?_ ?_ hf
  · rintro f rfl
    exact consistent_initial
  · intro f action g _ hf _ hstep
    cases action with
    | nextStep =>
        obtain rfl := Option.some.inj hstep
        exact hf.nextStep
    | previousStep =>
        obtain rfl := Option.some.inj hstep
        exact hf.previousStep
    | goToStep step =>
        obtain rfl := Option.some.inj hstep
        exact ⟨hf.authenticated, hf.provider, hf.loading, hf.message, hf.finishes, hf.completed⟩
    | signIn method =>
        obtain rfl := Option.some.inj hstep
        exact hf.signIn method
    | answer index result =>
        obtain ⟨method, -, rfl⟩ := Option.map_eq_some_iff.mp hstep
        exact hf.finishSignIn index method result
    | saveOnboardingData =>
        obtain ⟨hcompleting, hg⟩ := Option.ite_none_left_eq_some.mp hstep
        exact Option.some.inj hg ▸ hf.saveOnboardingData hcompleting
    | postCompletion =>
        obtain ⟨hposting, hg⟩ := Option.ite_none_left_eq_some.mp hstep
        exact Option.some.inj hg ▸ hf.postCompletion hposting
    | addSecondLanguage language =>
        obtain rfl := Option.some.inj hstep
        exact hf.setSelections (isAuthenticated_addSecondLanguage _ _)
    | addExpertSkill skill =>
        obtain rfl := Option.some.inj hstep
        exact hf.setSelections (isAuthenticated_addExpertSkill _ _)
    | addTargetSkill skill =>
        obtain rfl := Option.some.inj hstep
        exact hf.setSelections (isAuthenticated_addTargetSkill _ _)
    | _ =>
        obtain rfl := Option.some.inj hstep
        exact hf.setSelections rfl

/-- **Sign-ins.** Whatever sign-ins overlap and whatever else is done: the data are authenticated
exactly when some sign-in succeeded and name the provider of the latest success, the message is
that of the latest failure since a sign-in was last started, and what shows as loading has a sign-in
that waits. -/
theorem onboarding_signIns (hf : (onboardingFlow CountryModel UIImage).Reachable f) :
    (f.onboardingData.isAuthenticated = true ↔ f.succeeded ≠ [])
      ∧ f.authProvider = (f.succeeded.getLast?.map SignInMethod.authProvider).getD .none
      ∧ f.errorMessage = f.failures.getLast?
      ∧ (f.isLoading = true → f.signingIn ≠ []) := by
  have hconsistent : f.Consistent := consistent_of_reachable hf
  exact ⟨hconsistent.authenticated, hconsistent.provider, hconsistent.message, hconsistent.loading⟩

def overlappingSignIns : List (OnboardingFlowAction Unit Unit) :=
  [.nextStep, .signIn .apple, .signIn .google,
    .answer 1 (.ok ⟨"guest", none, none, none, false, "google.com"⟩), .answer 0 (.error "cancelled")]

/-- A sign-in that fails after another has succeeded keeps the other's provider. -/
theorem onboarding_signIns_overlapping : ∃ f : OnboardingFlow Unit Unit,
    (onboardingFlow Unit Unit).exec .initial overlappingSignIns = some f
      ∧ f.authProvider = .google
      ∧ f.errorMessage = some "Apple Sign-In failed: cancelled" := by
  have hexec : (onboardingFlow Unit Unit).exec .initial overlappingSignIns = some _ := rfl
  obtain ⟨-, hprovider, hmessage, -⟩ := onboarding_signIns (Machine.reachable_of_exec rfl hexec)
  exact ⟨_, hexec, hprovider, hmessage⟩

/-! ### Counting the steps -/

def NoJumps (_ : OnboardingFlow CountryModel UIImage) :
    OnboardingFlowAction CountryModel UIImage → Prop
  | .goToStep _ => False
  | _ => True

structure Counted (f : OnboardingFlow CountryModel UIImage) : Prop where
  advances : f.currentStep.index + f.backs + f.finishes = f.advances
  finished : 0 < f.finishes → 9 ≤ f.currentStep.index + f.backs

theorem Counted.nextStep (h : f.Counted) : f.nextStep.Counted := by
  have hadvances := h.advances
  have hindex := f.currentStep.index_following
  have hisLast := f.currentStep.isLast_eq
  rw [nextStep_eq]
  refine ⟨?_, fun hfinished => ?_⟩
  · dsimp only
    omega
  · dsimp only at hfinished ⊢
    by_cases hlast : f.currentStep.index = 9
    · rw [if_pos hlast] at hisLast
      omega
    · rw [if_neg hlast] at hisLast
      have hnine := h.finished (by omega)
      omega

theorem Counted.previousStep (h : f.Counted) : f.previousStep.Counted := by
  have hadvances := h.advances
  have hindex := f.currentStep.index_preceding
  rw [previousStep_eq]
  refine ⟨?_, fun hfinished => ?_⟩
  · dsimp only
    omega
  · have hnine := h.finished hfinished
    dsimp only
    omega

theorem Counted.finishSignIn (h : f.Counted) (index : ℕ) (method : SignInMethod)
    (result : Except String AuthUser) :
    ({ f with signingIn := f.signingIn.eraseIdx index }.finishSignIn method result).Counted := by
  cases result with
  | error localizedDescription => exact ⟨h.advances, h.finished⟩
  | ok user =>
      have hnext := h.nextStep
      rw [nextStep_eq] at hnext
      simp only [OnboardingFlow.finishSignIn, nextStep_eq]
      exact ⟨hnext.advances, hnext.finished⟩

theorem counted_of_reachableWhere
    (hf : (onboardingFlow CountryModel UIImage).ReachableWhere NoJumps f) : f.Counted := by
  refine Machine.ReachableWhere.invariant Counted ?_ ?_ hf
  · rintro f rfl
    exact ⟨rfl, fun hfinished => absurd hfinished (Nat.lt_irrefl 0)⟩
  · intro f action g _ hf hallowed hstep
    cases action with
    | goToStep step => exact hallowed.elim
    | nextStep =>
        obtain rfl := Option.some.inj hstep
        exact hf.nextStep
    | previousStep =>
        obtain rfl := Option.some.inj hstep
        exact hf.previousStep
    | answer index result =>
        obtain ⟨method, -, rfl⟩ := Option.map_eq_some_iff.mp hstep
        exact hf.finishSignIn index method result
    | saveOnboardingData =>
        obtain ⟨-, hg⟩ := Option.ite_none_left_eq_some.mp hstep
        exact Option.some.inj hg ▸ ⟨hf.advances, hf.finished⟩
    | postCompletion =>
        obtain ⟨-, hg⟩ := Option.ite_none_left_eq_some.mp hstep
        exact Option.some.inj hg ▸ ⟨hf.advances, hf.finished⟩
    | _ =>
        obtain rfl := Option.some.inj hstep
        exact ⟨hf.advances, hf.finished⟩

/-- Moving on from any step to the last one, and past it. -/
theorem exec_nextStep (remaining : ℕ) (f : OnboardingFlow CountryModel UIImage)
    (hremaining : f.currentStep.index + remaining = 9) :
    ∃ g : OnboardingFlow CountryModel UIImage,
      (onboardingFlow CountryModel UIImage).exec f (List.replicate (remaining + 1) .nextStep) = some g
        ∧ g.onboardingData = f.onboardingData ∧ g.completing = f.completing + 1 := by
  induction remaining generalizing f with
  | zero =>
      have hlast : f.currentStep.isLast = 1 := by
        rw [OnboardingStep.isLast_eq, if_pos (by omega)]
      refine ⟨f.nextStep, rfl, ?_, ?_⟩
      · rw [nextStep_eq]
        rfl
      · rw [nextStep_eq, hlast]
  | succ remaining ih =>
      have hearlier : f.currentStep.isLast = 0 := by
        rw [OnboardingStep.isLast_eq, if_neg (by omega)]
      have hindex := f.currentStep.index_following
      obtain ⟨g, hexec, hdata, hcompleting⟩ := ih f.nextStep (by
        rw [nextStep_eq]
        dsimp only
        omega)
      refine ⟨g, hexec, ?_, ?_⟩
      · rw [hdata, nextStep_eq]
        rfl
      · rw [hcompleting, nextStep_eq, hearlier]
        rfl

/-- **Completion.** Completions and notifications are accounted for by the calls of `nextStep` at
the last step, the flag is set exactly when one of them has run, and a run that never jumps needs at
least ten moves forward for it. Nothing is asked of the data: from every state reached, moving on to
the last step and once more completes the onboarding with the data as they are. -/
theorem onboarding_completion
    (hf : (onboardingFlow CountryModel UIImage).ReachableWhere NoJumps f) :
    f.finishes = f.completing + f.posting + f.posted
      ∧ (f.onboardingCompleted = true ↔ 0 < f.posting + f.posted)
      ∧ f.currentStep.index + f.backs + f.finishes = f.advances
      ∧ (f.onboardingCompleted = true → 10 ≤ f.advances)
      ∧ ∃ g, (onboardingFlow CountryModel UIImage).exec f
          (List.replicate (10 - f.currentStep.index) .nextStep ++ [.saveOnboardingData]) = some g
        ∧ g.onboardingCompleted = true ∧ g.onboardingData = f.onboardingData := by
  have hconsistent : f.Consistent := consistent_of_reachable hf.reachable
  have hcounted : f.Counted := counted_of_reachableWhere hf
  have hadvances := hcounted.advances
  have hfinishes := hconsistent.finishes
  refine ⟨hfinishes, hconsistent.completed, hadvances, fun hcompleted => ?_, ?_⟩
  · have hran : 0 < f.posting + f.posted := hconsistent.completed.mp hcompleted
    have hnine := hcounted.finished (by omega)
    omega
  · have hindex := f.currentStep.index_le
    obtain ⟨g, hexec, hdata, hcompleting⟩ :=
      exec_nextStep (9 - f.currentStep.index) f (by omega)
    have hmoves : 10 - f.currentStep.index = 9 - f.currentStep.index + 1 := by omega
    have hsave : (onboardingFlow CountryModel UIImage).step g .saveOnboardingData
        = some g.saveOnboardingData := if_neg (by omega)
    refine ⟨g.saveOnboardingData, ?_, rfl, hdata⟩
    rw [hmoves, Machine.exec_append, hexec, Option.bind_some, Machine.exec_cons_of_step hsave]
    rfl

def stepsThere : List (OnboardingFlowAction Unit Unit) :=
  [.nextStep, .nextStep, .previousStep, .updateBasicInfo "guest" "guest" ""]

theorem onboarding_completion_stepsThere : ∃ f g : OnboardingFlow Unit Unit,
    (onboardingFlow Unit Unit).exec .initial stepsThere = some f ∧ f.advances = 2 ∧ f.backs = 1
      ∧ (onboardingFlow Unit Unit).exec f
          (List.replicate (10 - f.currentStep.index) .nextStep ++ [.saveOnboardingData]) = some g
      ∧ g.onboardingCompleted = true ∧ g.onboardingData = f.onboardingData := by
  have hexec : (onboardingFlow Unit Unit).exec .initial stepsThere = some _ := rfl
  have hallowed : ∀ x ∈ (onboardingFlow Unit Unit).transitions .initial stepsThere,
      NoJumps x.1 x.2.1 := by
    rintro x (_ | ⟨_, _ | ⟨_, _ | ⟨_, _ | ⟨_, hx⟩⟩⟩⟩) <;> first | exact trivial | cases hx
  obtain ⟨-, -, -, -, g, hmoves, hcompleted, hdata⟩ :=
    onboarding_completion (Machine.reachableWhere_of_exec rfl stepsThere hexec hallowed)
  exact ⟨_, g, hexec, rfl, rfl, hmoves, hcompleted, hdata⟩

end OnboardingFlow

end SkillTalk
