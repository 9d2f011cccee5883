import SkillTalk.Library.LastWrite
import SkillTalk.Proof.OnboardingProgress
import SkillTalk.SkillTalkApp

/-!
# When the app shows its main screens

The last completion, reset or launch decides which screens are shown, and the last completion or
reset what the user defaults have. A launch keeps the entry and starts the onboarding anew, so an
entry that says completed is of no effect.
-/

namespace SkillTalk

variable {CountryModel UIImage : Type} {rules : OnboardingText} {language : String}
  {repositories : ℕ → SkillRepository}

namespace OnboardingContainerView

/-- Only the last screen's buttons complete the onboarding. -/
theorem completed_iff_of_step {s t : OnboardingContainerView CountryModel UIImage}
    {action : OnboardingAction CountryModel UIImage} (hs : s.InProgress)
    (hstep : step rules language repositories s action = some t) :
    t.coordinator.onboardingCompleted = true ↔ action = .finish := by
  obtain ⟨hopen, houtcome⟩ := outcome_of_step hs hstep
  constructor
  · intro hcompleted
    cases houtcome with
    | stay hkept hview hagrees => exact absurd (hopen.symm.trans hcompleted) Bool.false_ne_true
    | @advance data hkept hfilled hne =>
        obtain ⟨next, hnext, -⟩ :=
          OnboardingCoordinator.nextStep_eq (c := s.coordinator.save data) (hs.view ▸ hne)
        rw [hnext] at hcompleted
        exact absurd (hopen.symm.trans hcompleted) Bool.false_ne_true
    | back =>
        obtain ⟨previous, hprevious, -⟩ := OnboardingCoordinator.previousStep_eq s.coordinator
        rw [hprevious] at hcompleted
        exact absurd (hopen.symm.trans hcompleted) Bool.false_ne_true
    | finish hview =>
        obtain ⟨c, view⟩ := s
        obtain rfl : view = .complete := hview
        cases action with
        | finish => rfl
        | back =>
            obtain ⟨-, hback⟩ : _ ∧ entered rules c.previousStep = _ := by
              simpa [step, CanGoBack] using hstep
            obtain ⟨previous, hprevious, -⟩ := OnboardingCoordinator.previousStep_eq c
            rw [hprevious] at hback
            have hsame : c.onboardingCompleted = true :=
              congrArg (fun s => s.coordinator.onboardingCompleted) hback
            exact absurd (hopen.symm.trans hsame) Bool.false_ne_true
        | _ => simp [step] at hstep
  · rintro rfl
    obtain ⟨c, view⟩ := s
    cases view <;> simp [step] at hstep
    exact hstep.2 ▸ rfl

end OnboardingContainerView

namespace SkillTalkApp

open OnboardingContainerView OnboardingData

variable {app next : SkillTalkApp CountryModel UIImage}

/-- What holds of the app in every run. -/
structure Consistent (app : SkillTalkApp CountryModel UIImage) : Prop where
  inProgress : app.container.InProgress
  completed : app.container.coordinator.onboardingCompleted = app.isOnboardingCompleted
  stored : app.isOnboardingCompleted = true → app.storedCompletion = true

theorem consistent_launch (storedCompletion : Bool) :
    (launch rules storedCompletion : SkillTalkApp CountryModel UIImage).Consistent where
  inProgress := inProgress_initial
  completed := rfl
  stored := by
    intro h
    cases h

theorem Consistent.receive (h : app.Consistent) (hopen : app.isOnboardingCompleted = false)
    {container : OnboardingContainerView CountryModel UIImage} (hcontainer : container.InProgress) :
    (app.receive container).Consistent := by
  unfold SkillTalkApp.receive
  split
  · exact ⟨hcontainer, by assumption, fun _ => rfl⟩
  · rename_i hrunning
    refine ⟨hcontainer, ?_, h.stored⟩
    exact (Bool.eq_false_iff.mpr hrunning).trans hopen.symm

theorem Consistent.step {action : AppAction CountryModel UIImage} (h : app.Consistent)
    (hstep : app.step rules language repositories action = some next) : next.Consistent := by
  cases action with
  | onboarding action =>
      obtain ⟨hopen, hnext⟩ := Option.ite_none_left_eq_some.mp hstep
      obtain ⟨container, hcontainer, rfl⟩ := Option.map_eq_some_iff.mp hnext
      obtain ⟨hrunning, houtcome⟩ := outcome_of_step h.inProgress hcontainer
      exact h.receive (by simpa using hopen) (h.inProgress.outcome hrunning houtcome)
  | resetOnboarding =>
      obtain ⟨-, hlaunch⟩ := Option.ite_none_right_eq_some.mp hstep
      exact Option.some.inj hlaunch ▸ consistent_launch false
  | relaunch =>
      obtain rfl := Option.some.inj hstep
      exact consistent_launch app.storedCompletion

theorem consistent_of_reachable
    (h : (skillTalkApp CountryModel UIImage rules language repositories).Reachable app) :
    app.Consistent := by
  refine h.invariant Consistent ?_ ?_
  · rintro app ⟨storedCompletion, rfl⟩
    exact consistent_launch storedCompletion
  · intro app action next _ happ _ hstep
    exact happ.step hstep

/-- What an action makes the app show, if it decides that: its main screens or the onboarding. -/
def shows : AppAction CountryModel UIImage → Option Bool
  | .onboarding .finish => some true
  | .onboarding _ => none
  | .resetOnboarding | .relaunch => some false

/-- What an action writes to the user defaults. -/
def stores : AppAction CountryModel UIImage → Option Bool
  | .onboarding .finish => some true
  | .onboarding _ | .relaunch => none
  | .resetOnboarding => some false

/-- The switch of the screens and of the entry in one step. -/
theorem writes_of_step {action : AppAction CountryModel UIImage} (h : app.Consistent)
    (hstep : app.step rules language repositories action = some next) :
    next.isOnboardingCompleted = (shows action).getD app.isOnboardingCompleted
      ∧ next.storedCompletion = (stores action).getD app.storedCompletion := by
  cases action with
  | onboarding action =>
      obtain ⟨hopen, hnext⟩ := Option.ite_none_left_eq_some.mp hstep
      obtain ⟨container, hcontainer, rfl⟩ := Option.map_eq_some_iff.mp hnext
      have hcompleted := completed_iff_of_step h.inProgress hcontainer
      by_cases hfinish : action = .finish
      · rw [receive, if_pos (hcompleted.mpr hfinish), hfinish]
        exact ⟨rfl, rfl⟩
      · rw [receive, if_neg (mt hcompleted.mp hfinish)]
        cases action <;> first | exact absurd rfl hfinish | exact ⟨rfl, rfl⟩
  | resetOnboarding =>
      obtain ⟨-, hlaunch⟩ := Option.ite_none_right_eq_some.mp hstep
      exact Option.some.inj hlaunch ▸ ⟨rfl, rfl⟩
  | relaunch => exact Option.some.inj hstep ▸ ⟨rfl, rfl⟩

/-- Two apps that differ at most in the entry show the same. -/
def ShowSame (app app' : SkillTalkApp CountryModel UIImage) : Prop :=
  app'.isOnboardingCompleted = app.isOnboardingCompleted ∧ app'.container = app.container

theorem showSame_step (app app' : SkillTalkApp CountryModel UIImage)
    (action : AppAction CountryModel UIImage) (next : SkillTalkApp CountryModel UIImage)
    (hsame : ShowSame app app') (hstep : app.step rules language repositories action = some next) :
    ∃ next', app'.step rules language repositories action = some next' ∧ ShowSame next next' := by
  obtain ⟨hcompleted, hcontainer⟩ := hsame
  cases action with
  | onboarding action =>
      obtain ⟨hopen, hnext⟩ := Option.ite_none_left_eq_some.mp hstep
      obtain ⟨container, hstepped, rfl⟩ := Option.map_eq_some_iff.mp hnext
      refine ⟨app'.receive container, ?_, ?_⟩
      · rw [SkillTalkApp.step, hcompleted, hcontainer, if_neg hopen, hstepped]
        rfl
      · unfold receive
        split
        · exact ⟨rfl, rfl⟩
        · exact ⟨hcompleted, rfl⟩
  | resetOnboarding =>
      obtain ⟨hshown, hlaunch⟩ := Option.ite_none_right_eq_some.mp hstep
      refine ⟨launch rules false, ?_, Option.some.inj hlaunch ▸ ⟨rfl, rfl⟩⟩
      rw [SkillTalkApp.step, hcompleted, if_pos hshown]
  | relaunch =>
      exact ⟨launch rules app'.storedCompletion, rfl, Option.some.inj hstep ▸ ⟨rfl, rfl⟩⟩

/-- **The main screens follow a completed onboarding of the same launch.** They are shown exactly if
the last completion, reset or launch is a completion; every step's data are then there. The user
defaults have what the last completion or reset wrote, and what they had before the run changes
nothing that is shown. -/
theorem main_screens_shown {stored : Bool} {actions : List (AppAction CountryModel UIImage)}
    (hexec : (skillTalkApp CountryModel UIImage rules language repositories).exec
      (launch rules stored) actions = some app) :
    app.isOnboardingCompleted = (actions.filterMap shows).getLast?.getD false
      ∧ app.storedCompletion = (actions.filterMap stores).getLast?.getD stored
      ∧ (app.isOnboardingCompleted = true → app.storedCompletion = true
        ∧ ∀ step, app.container.coordinator.onboardingData.Filled step)
      ∧ ∀ stored', ∃ app',
        (skillTalkApp CountryModel UIImage rules language repositories).exec
            (launch rules stored') actions = some app'
          ∧ ShowSame app app' := by
  have hgood : ∀ (s : SkillTalkApp CountryModel UIImage) l t,
      (skillTalkApp CountryModel UIImage rules language repositories).step s l = some t →
        s.Consistent → t.Consistent := fun s l t hstep hs => hs.step hstep
  have hlaunch : (launch rules stored : SkillTalkApp CountryModel UIImage).Consistent :=
    consistent_launch stored
  have happ : app.Consistent :=
    consistent_of_reachable (Machine.reachable_of_exec ⟨stored, rfl⟩ hexec)
  refine ⟨?_, ?_, ?_, ?_⟩
  · exact Machine.exec_last_write isOnboardingCompleted shows Consistent hgood
      (fun s l t hstep hs => (writes_of_step hs hstep).1) hexec hlaunch
  · exact Machine.exec_last_write storedCompletion stores Consistent hgood
      (fun s l t hstep hs => (writes_of_step hs hstep).2) hexec hlaunch
  · intro hshown
    have hcompleted : app.container.coordinator.onboardingCompleted = true :=
      happ.completed.trans hshown
    exact ⟨happ.stored hshown, happ.inProgress.filled_of_complete (.inr hcompleted)⟩
  · intro stored'
    have hsame : ShowSame (launch rules stored) (launch rules stored' :
        SkillTalkApp CountryModel UIImage) := ⟨rfl, rfl⟩
    exact Machine.exec_in_step ShowSame showSame_step hsame hexec

/-- The walk through the onboarding, then the app is launched again: the entry says completed, and
the onboarding is shown. -/
theorem main_screens_shown_of_walk :
    let m := skillTalkApp String String asciiText "en" fun _ => artsRepository
    ∃ app app', m.exec (launch asciiText false) (walkThrough.map .onboarding) = some app
      ∧ app.isOnboardingCompleted = true
      ∧ m.exec (launch asciiText false) (walkThrough.map .onboarding ++ [.relaunch]) = some app'
      ∧ app'.isOnboardingCompleted = false ∧ app'.storedCompletion = true := by
  intro m
  obtain ⟨app, hwalk⟩ : ∃ app, m.exec (launch asciiText false) (walkThrough.map .onboarding)
      = some app := ⟨_, rfl⟩
  obtain ⟨app', hrelaunched⟩ : ∃ app', m.exec (launch asciiText false)
      (walkThrough.map .onboarding ++ [.relaunch]) = some app' := ⟨_, rfl⟩
  obtain ⟨hshown, -⟩ := main_screens_shown hwalk
  obtain ⟨hshown', hstored, -⟩ := main_screens_shown hrelaunched
  exact ⟨app, app', hwalk, hshown, hrelaunched, hshown', hstored⟩

end SkillTalkApp

end SkillTalk
