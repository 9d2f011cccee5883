import SkillTalk.Proof.OnboardingProgress

/-!
# Skills confirmed in one sheet and the next

A sheet starts with nothing selected, and its selection replaces the lists of the screen and of
the coordinator. So a skill confirmed earlier survives a sheet that is confirmed only if it is
picked there again. The record beside a run lists the ids of the skills confirmed and not removed
since, by a card's control or by a toggle in a sheet.
-/

namespace SkillTalk

open OnboardingData

variable {CountryModel UIImage : Type} {rules : OnboardingText} {language : String}
  {repositories : ℕ → SkillRepository}

/-- Each id is that of a skill of the list. -/
def IncludesIds (skills : List Skill) (ids : List String) : Prop :=
  ∀ id ∈ ids, ∃ skill ∈ skills, skill.id = id

theorem includesIds_nil (skills : List Skill) : IncludesIds skills [] := by
  intro id hid
  cases hid

theorem includesIds_append_self_iff (skills : List Skill) (ids : List String) :
    IncludesIds skills (ids ++ skills.map Skill.id) ↔ IncludesIds skills ids := by
  refine ⟨fun h id hid => h id (List.mem_append_left _ hid), fun h => ?_⟩
  refine List.forall_mem_append.mpr ⟨h, fun id hid => ?_⟩
  obtain ⟨skill, hskill, rfl⟩ := List.mem_map.mp hid
  exact ⟨skill, hskill, rfl⟩

theorem IncludesIds.filter {skills : List Skill} {ids : List String} (h : IncludesIds skills ids)
    (p : String → Bool) : IncludesIds skills (ids.filter p) :=
  fun id hid => h id (List.mem_of_mem_filter hid)

theorem IncludesIds.eraseP {skills : List Skill} {ids : List String} (h : IncludesIds skills ids)
    (removed : String) :
    IncludesIds (skills.eraseP fun skill => skill.id == removed)
      (ids.filter fun id => id != removed) := by
  intro id hid
  obtain ⟨hmem, hne⟩ := List.mem_filter.mp hid
  obtain ⟨skill, hskill, rfl⟩ := h id hmem
  refine ⟨skill, ?_, rfl⟩
  rw [List.mem_eraseP_of_neg (by simpa using hne)]
  exact hskill

namespace SkillListView

/-- What is selected in the sheet. -/
def picked (v : SkillListView) : List Skill :=
  v.sheet.elim [] fun sheet => sheet.shared.selectedSkills

/-- The ids of the skills confirmed and not removed since, after an action. -/
def confirmedAfter (v : SkillListView) (ids : List String) : SkillListAction → List String
  | .confirm => ids ++ v.picked.map Skill.id
  | .tapSkill skill => if skill ∈ v.picked then ids.filter fun id => id != skill.id else ids
  | .remove skill => ids.filter fun id => id != skill.id
  | _ => ids

/-- A selection that is confirmed has every skill again that was confirmed and not removed since. -/
def PicksAgain (v : SkillListView) (ids : List String) : SkillListAction → Prop
  | .confirm => IncludesIds v.picked ids
  | _ => True

variable {v w : SkillListView}

theorem confirmed_eq_picked {skills : List Skill} (h : v.confirmed = some skills) :
    skills = v.picked := by
  obtain ⟨sheet, hsheet, h⟩ := Option.bind_eq_some_iff.mp h
  split at h <;> cases h
  simp [picked, hsheet]

theorem selectedSkills_of_remove {skill : Skill} (h : v.remove skill = some w) :
    w.selectedSkills = v.selectedSkills.eraseP fun selected => selected.id == skill.id := by
  unfold remove at h
  split at h <;> cases h
  rfl

theorem includesIds_confirmedAfter_of_local {action : SkillListAction} (hlocal : action.IsLocal)
    {skills : List Skill} {ids : List String} (h : IncludesIds skills ids) :
    IncludesIds skills (v.confirmedAfter ids action) := by
  cases action with
  | tapSkill skill =>
      change IncludesIds skills (if skill ∈ v.picked then _ else ids)
      split
      · exact h.filter _
      · exact h
  | confirm => exact absurd hlocal id
  | remove skill => exact absurd hlocal id
  | «continue» => exact absurd hlocal id
  | _ => exact h

end SkillListView

/-- The container, and the ids of the skills confirmed and not removed since, of each kind. -/
structure SkillRounds (CountryModel UIImage : Type) where
  container : OnboardingContainerView CountryModel UIImage
  confirmed : UserSkillType → List String

namespace SkillRounds

def confirmedAfter (s : SkillRounds CountryModel UIImage) :
    OnboardingAction CountryModel UIImage → UserSkillType → List String
  | .skills action =>
      match s.container.view with
      | .expertise v =>
          Function.update s.confirmed .expert (v.confirmedAfter (s.confirmed .expert) action)
      | .targetSkill v =>
          Function.update s.confirmed .target (v.confirmedAfter (s.confirmed .target) action)
      | _ => s.confirmed
  | _ => s.confirmed

def PicksAgain (s : SkillRounds CountryModel UIImage) :
    OnboardingAction CountryModel UIImage → Prop
  | .skills action =>
      match s.container.view with
      | .expertise v => v.PicksAgain (s.confirmed .expert) action
      | .targetSkill v => v.PicksAgain (s.confirmed .target) action
      | _ => True
  | _ => True

/-- Every skill confirmed and not removed since is still in the coordinator's list. -/
def KeepsConfirmed (s : SkillRounds CountryModel UIImage) : Prop :=
  ∀ type, IncludesIds (s.container.coordinator.onboardingData.skills type) (s.confirmed type)

end SkillRounds

/-- Runs of the onboarding with the record of confirmed skills beside them. -/
def skillRounds (CountryModel UIImage : Type) (rules : OnboardingText) (language : String)
    (repositories : ℕ → SkillRepository) :
    Machine (SkillRounds CountryModel UIImage) (OnboardingAction CountryModel UIImage) where
  Init s := s = ⟨.entered rules .initial, fun _ => []⟩
  step s action :=
    (s.container.step rules language repositories action).map fun container =>
      ⟨container, s.confirmedAfter action⟩

namespace OnboardingCoordinator

variable (c : OnboardingCoordinator CountryModel UIImage)

@[simp]
theorem onboardingData_nextStep : c.nextStep.onboardingData = c.onboardingData := by
  unfold nextStep
  split
  · rfl
  · split <;> rfl

@[simp]
theorem onboardingData_previousStep : c.previousStep.onboardingData = c.onboardingData := by
  unfold previousStep
  split
  · rfl
  · rfl
  · split <;> rfl

end OnboardingCoordinator

namespace OnboardingContainerView

variable {c : OnboardingCoordinator CountryModel UIImage}
  {t : OnboardingContainerView CountryModel UIImage} {type : UserSkillType} {v : SkillListView}

/-- What the views of the skills make of their list, and what the record makes of it. -/
theorem includesIds_skillListStep_iff {action : SkillListAction} {ids : List String}
    (hagrees : v.selectedSkills = c.onboardingData.skills type)
    (hids : IncludesIds (c.onboardingData.skills type) ids)
    (h : skillListStep rules language repositories type (StepView.ofSkills type) c v action
      = some t) :
    IncludesIds (t.coordinator.onboardingData.skills type) (v.confirmedAfter ids action)
      ↔ v.PicksAgain ids action := by
  by_cases hlocal : action.IsLocal
  · obtain ⟨w, rfl, -⟩ := skillListStep_local hlocal h
    refine iff_of_true (SkillListView.includesIds_confirmedAfter_of_local hlocal hids) ?_
    cases action <;> trivial
  cases action with
  | confirm =>
      obtain ⟨skills, hskills, rfl⟩ := Option.map_eq_some_iff.mp h
      obtain rfl := SkillListView.confirmed_eq_picked hskills
      change IncludesIds ((c.onboardingData.setSkills type v.picked).skills type)
        (ids ++ v.picked.map Skill.id) ↔ IncludesIds v.picked ids
      rw [skills_setSkills]
      exact includesIds_append_self_iff v.picked ids
  | remove skill =>
      obtain ⟨w, hw, rfl⟩ := Option.map_eq_some_iff.mp h
      refine iff_of_true ?_ trivial
      change IncludesIds ((c.onboardingData.setSkills type w.selectedSkills).skills type) _
      rw [skills_setSkills, SkillListView.selectedSkills_of_remove hw, hagrees]
      exact hids.eraseP skill.id
  | «continue» =>
      simp only [skillListStep] at h
      split at h <;> cases h
      refine iff_of_true ?_ trivial
      simpa [entered, SkillListView.confirmedAfter] using hids
  | _ => exact absurd trivial hlocal

/-- The skills of one kind are written in their own view only. -/
theorem Outcome.skills {s : OnboardingContainerView CountryModel UIImage} (h : Outcome rules s t)
    (hne : type.step ≠ s.view.step) :
    t.coordinator.onboardingData.skills type = s.coordinator.onboardingData.skills type := by
  cases h with
  | stay hkept hview hagrees => exact hkept.skills hne
  | @advance data hkept hfilled hstep =>
      have hnext : (entered rules (s.coordinator.save data).nextStep).coordinator.onboardingData
          = data := by simp [entered, OnboardingCoordinator.save]
      rw [hnext]
      exact hkept.skills hne
  | back => simp [entered]
  | finish hview => rfl

/-- In the views of the skills, the chevron is the only other control. -/
theorem eq_back_of_step {s : OnboardingContainerView CountryModel UIImage}
    {action : OnboardingAction CountryModel UIImage} (hview : s.view.step = type.step)
    (haction : ∀ skillAction, action ≠ .skills skillAction)
    (h : step rules language repositories s action = some t) :
    t = entered rules s.coordinator.previousStep := by
  obtain ⟨c, view⟩ := s
  dsimp only [step] at h hview
  split at h
  · cases h
  cases action with
  | back =>
      split at h
      · split at h <;> cases h
        rfl
      all_goals simp_all
  | skills skillAction => exact absurd rfl (haction skillAction)
  | _ => cases type <;> cases view <;> cases hview <;> cases h

/-- Only the actions of the skills write the skills. -/
theorem skills_of_step {s : OnboardingContainerView CountryModel UIImage}
    {action : OnboardingAction CountryModel UIImage} (hs : s.InProgress) (type : UserSkillType)
    (haction : ∀ skillAction, action ≠ .skills skillAction)
    (h : step rules language repositories s action = some t) :
    t.coordinator.onboardingData.skills type = s.coordinator.onboardingData.skills type := by
  by_cases hview : s.view.step = type.step
  · rw [eq_back_of_step hview haction h]
    simp [entered]
  · exact (outcome_of_step hs h).2.skills (Ne.symm hview)

theorem exists_of_step_skills {s : OnboardingContainerView CountryModel UIImage}
    {action : SkillListAction} (h : step rules language repositories s (.skills action) = some t) :
    ∃ type v, s.view = .ofSkills type v
      ∧ skillListStep rules language repositories type (StepView.ofSkills type) s.coordinator v
        action = some t := by
  obtain ⟨c, view⟩ := s
  dsimp only [step] at h
  split at h
  · cases h
  cases view with
  | expertise v => exact ⟨.expert, v, rfl, h⟩
  | targetSkill v => exact ⟨.target, v, rfl, h⟩
  | _ => cases h

end OnboardingContainerView

namespace SkillRounds

variable {s t : SkillRounds CountryModel UIImage} {action : OnboardingAction CountryModel UIImage}

/-- An action in the view of one kind of skills. -/
theorem keepsConfirmed_skillListStep_iff {type : UserSkillType} {v : SkillListView}
    {skillAction : SkillListAction} {container : OnboardingContainerView CountryModel UIImage}
    (hs : s.container.InProgress) (hkeeps : s.KeepsConfirmed)
    (hview : s.container.view = .ofSkills type v)
    (h : OnboardingContainerView.skillListStep rules language repositories type
      (StepView.ofSkills type) s.container.coordinator v skillAction = some container) :
    KeepsConfirmed ⟨container,
        Function.update s.confirmed type (v.confirmedAfter (s.confirmed type) skillAction)⟩
      ↔ v.PicksAgain (s.confirmed type) skillAction := by
  have hagrees : v.selectedSkills = s.container.coordinator.onboardingData.skills type := by
    have h := hs.agrees
    rw [hview] at h
    simpa using h
  have hiff := OnboardingContainerView.includesIds_skillListStep_iff hagrees (hkeeps type) h
  rw [← hiff]
  constructor
  · intro hafter
    simpa using hafter type
  · intro hafter other
    by_cases hother : other = type
    · subst hother
      simpa using hafter
    · have houtcome := OnboardingContainerView.outcome_skillListStep hagrees h
      have hne : other.step ≠ type.step := by
        cases other <;> cases type <;> first | decide | exact absurd rfl hother
      have hsame := houtcome.skills (by simpa using hne)
      simpa [Function.update_of_ne hother, hsame] using hkeeps other

theorem confirmedAfter_skills {type : UserSkillType} {v : SkillListView}
    (hview : s.container.view = .ofSkills type v) (skillAction : SkillListAction) :
    s.confirmedAfter (.skills skillAction)
      = Function.update s.confirmed type (v.confirmedAfter (s.confirmed type) skillAction) := by
  cases type <;> simp [confirmedAfter, hview, StepView.ofSkills]

theorem picksAgain_skills_iff {type : UserSkillType} {v : SkillListView}
    (hview : s.container.view = .ofSkills type v) (skillAction : SkillListAction) :
    s.PicksAgain (.skills skillAction) ↔ v.PicksAgain (s.confirmed type) skillAction := by
  cases type <;> simp [PicksAgain, hview, StepView.ofSkills]

theorem keepsConfirmed_step_iff (hs : s.container.InProgress) (hkeeps : s.KeepsConfirmed)
    (h : (skillRounds CountryModel UIImage rules language repositories).step s action = some t) :
    t.KeepsConfirmed ↔ s.PicksAgain action := by
  obtain ⟨container, hstep, rfl⟩ := Option.map_eq_some_iff.mp h
  by_cases haction : ∃ skillAction, action = .skills skillAction
  · obtain ⟨skillAction, rfl⟩ := haction
    obtain ⟨type, v, hview, hlist⟩ := OnboardingContainerView.exists_of_step_skills hstep
    rw [picksAgain_skills_iff hview, confirmedAfter_skills hview]
    exact keepsConfirmed_skillListStep_iff hs hkeeps hview hlist
  · have hnot : ∀ skillAction, action ≠ .skills skillAction :=
      fun skillAction heq => haction ⟨skillAction, heq⟩
    have hrecord : s.confirmedAfter action = s.confirmed := by
      cases action <;> first | rfl | exact absurd rfl (hnot _)
    refine iff_of_true (fun type => ?_) ?_
    · rw [OnboardingContainerView.skills_of_step hs type hnot hstep, hrecord]
      exact hkeeps type
    · cases action <;> first | trivial | exact absurd rfl (hnot _)

theorem inProgress_step (hs : s.container.InProgress)
    (h : (skillRounds CountryModel UIImage rules language repositories).step s action = some t) :
    t.container.InProgress := by
  obtain ⟨container, hstep, rfl⟩ := Option.map_eq_some_iff.mp h
  obtain ⟨hopen, houtcome⟩ := OnboardingContainerView.outcome_of_step hs hstep
  exact hs.outcome hopen houtcome

variable (rules language repositories) in
/-- **No confirmed skill is dropped** along a run exactly when each selection that is confirmed has
every skill again that was confirmed and not removed since. -/
theorem confirmed_skills_kept (actions : List (OnboardingAction CountryModel UIImage)) :
    let start : SkillRounds CountryModel UIImage := ⟨.entered rules .initial, fun _ => []⟩
    let runs := skillRounds CountryModel UIImage rules language repositories
    (∀ x ∈ runs.transitions start actions, x.2.2.KeepsConfirmed)
      ↔ ∀ x ∈ runs.transitions start actions, x.1.PicksAgain x.2.1 := by
  intro start runs
  have hstart : start.container.InProgress := OnboardingContainerView.inProgress_initial
  refine Machine.forall_transitions_iff KeepsConfirmed (fun s => s.container.InProgress) ?_ ?_
    actions hstart (fun type => includesIds_nil _)
  · intro s action t hstep hs _
    exact inProgress_step hs hstep
  · intro s action t hstep hs hkeeps
    exact keepsConfirmed_step_iff hs hkeeps hstep

/-- One expert skill is confirmed, then another one in a second sheet. -/
theorem confirmed_skill_dropped :
    ∃ (rules : OnboardingText) (language : String) (repositories : ℕ → SkillRepository)
      (s : SkillRounds String String),
      (skillRounds String String rules language repositories).Reachable s
        ∧ ¬ s.KeepsConfirmed := by
  obtain ⟨s, hexec, hconfirmed, hskills⟩ :
      ∃ s, (skillRounds String String asciiText "en" fun _ => artsRepository).exec
          ⟨.entered asciiText .initial, fun _ => []⟩
          (toExpertise ++ openArts ++ [.skills (.tapSkill drawing), .skills .confirm] ++ openArts
            ++ [.skills (.tapSkill painting), .skills .confirm]) = some s
        ∧ s.confirmed .expert = ["drawing", "painting"]
        ∧ s.container.coordinator.onboardingData.skills .expert = [painting] :=
    ⟨_, rfl, rfl, rfl⟩
  refine ⟨asciiText, "en", _, s, Machine.reachable_of_exec rfl hexec, fun hkeeps => ?_⟩
  obtain ⟨skill, hskill, hid⟩ := hkeeps .expert "drawing" (by simp [hconfirmed])
  rw [hskills, List.mem_singleton] at hskill
  rw [hskill] at hid
  exact absurd hid (by decide)

end SkillRounds

end SkillTalk
