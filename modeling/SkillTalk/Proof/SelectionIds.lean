import SkillTalk.Library.KeyedSelection
import SkillTalk.OnboardingViewModel

/-!
# Selections as sets of ids

A value that is looked for whole is missed where the selection holds another value with its id. Then
a second entry with the id comes in, which the card's check mark cannot tell from the first.
-/

namespace SkillTalk

open KeyedSelection SkillSelectionCoordinatorView

namespace OnboardingSelections

variable {CountryModel UIImage : Type}

/-- No list holds two entries with one id. -/
structure DistinctIds (s : OnboardingSelections CountryModel UIImage) : Prop where
  selectedSkills : Distinct Skill.id s.skillSelection.selectedSkills
  secondLanguages : Distinct Language.id s.onboarding.onboardingData.secondLanguages
  expertSkills : Distinct Skill.id s.onboarding.onboardingData.expertSkills
  targetSkills : Distinct Skill.id s.onboarding.onboardingData.targetSkills

/-- The skill is toggled by its id, and its card's check mark with it. -/
structure TogglesSkill (s : SkillSelectionViewModel) (skill : Skill) (t : SkillSelectionViewModel) :
    Prop where
  toggles : Toggles Skill.id s.selectedSkills skill t.selectedSkills
  mark : isSelected t skill = !isSelected s skill

def ActsById (s : OnboardingSelections CountryModel UIImage) (call : SelectionCall)
    (t : OnboardingSelections CountryModel UIImage) : Prop :=
  match call with
  | .selectSkill skill | .toggleSkill skill => TogglesSkill s.skillSelection skill t.skillSelection
  | _ => True

/-- What the list holds under the id of the value to toggle or add is that value. -/
def MeetsItself (s : OnboardingSelections CountryModel UIImage) : SelectionCall → Prop
  | .selectSkill skill | .toggleSkill skill =>
      Agrees Skill.id s.skillSelection.selectedSkills skill
  | .addSecondLanguage language =>
      Agrees Language.id s.onboarding.onboardingData.secondLanguages language
  | .addExpertSkill skill => Agrees Skill.id s.onboarding.onboardingData.expertSkills skill
  | .addTargetSkill skill => Agrees Skill.id s.onboarding.onboardingData.targetSkills skill
  | .removeSecondLanguage _ | .removeExpertSkill _ | .removeTargetSkill _ => True

theorem distinctIds_initial :
    (initial : OnboardingSelections CountryModel UIImage).DistinctIds :=
  ⟨.nil, .nil, .nil, .nil⟩

theorem isSelected_iff {s : SkillSelectionViewModel} {skill : Skill} :
    isSelected s skill = true ↔ Holds Skill.id s.selectedSkills skill := by
  simp [isSelected, Holds]

theorem TogglesSkill.of_toggles {s t : SkillSelectionViewModel} {skill : Skill}
    (h : Toggles Skill.id s.selectedSkills skill t.selectedSkills) : TogglesSkill s skill t := by
  refine ⟨h, ?_⟩
  by_cases hheld : Holds Skill.id s.selectedSkills skill
  · rw [isSelected_iff.mpr hheld, Bool.not_true, Bool.eq_false_iff]
    exact mt isSelected_iff.mp (h.removed hheld)
  · have hadded : Holds Skill.id t.selectedSkills skill := .of_mem (h.added hheld)
    have hfalse : isSelected s skill = false := Bool.eq_false_iff.mpr (mt isSelected_iff.mp hheld)
    rw [isSelected_iff.mpr hadded, hfalse, Bool.not_false]

theorem selectSkill_eq (s : SkillSelectionViewModel) (skill : Skill) :
    s.selectSkill skill
      = { s with
          selectedSkills :=
            if skill ∈ s.selectedSkills then
              s.selectedSkills.filter fun other => other.id != skill.id
            else s.selectedSkills ++ [skill] } := by
  unfold SkillSelectionViewModel.selectSkill
  split <;> rfl

theorem addSecondLanguage_eq (s : OnboardingViewModel CountryModel UIImage) (language : Language) :
    s.addSecondLanguage language
      = { s with
          onboardingData.secondLanguages :=
            if language ∈ s.onboardingData.secondLanguages then s.onboardingData.secondLanguages
            else s.onboardingData.secondLanguages ++ [language] } := by
  unfold OnboardingViewModel.addSecondLanguage
  split <;> rfl

theorem addExpertSkill_eq (s : OnboardingViewModel CountryModel UIImage) (skill : Skill) :
    s.addExpertSkill skill
      = { s with
          onboardingData.expertSkills :=
            if skill ∈ s.onboardingData.expertSkills then s.onboardingData.expertSkills
            else s.onboardingData.expertSkills ++ [skill] } := by
  unfold OnboardingViewModel.addExpertSkill
  split <;> rfl

theorem addTargetSkill_eq (s : OnboardingViewModel CountryModel UIImage) (skill : Skill) :
    s.addTargetSkill skill
      = { s with
          onboardingData.targetSkills :=
            if skill ∈ s.onboardingData.targetSkills then s.onboardingData.targetSkills
            else s.onboardingData.targetSkills ++ [skill] } := by
  unfold OnboardingViewModel.addTargetSkill
  split <;> rfl

/-- A skill is selected by its id, and the ids stay distinct, exactly when it meets itself. -/
theorem selectSkill_iff {s : OnboardingSelections CountryModel UIImage} (hs : s.DistinctIds)
    (skill : Skill) :
    (DistinctIds { s with skillSelection := s.skillSelection.selectSkill skill }
        ∧ TogglesSkill s.skillSelection skill (s.skillSelection.selectSkill skill))
      ↔ Agrees Skill.id s.skillSelection.selectedSkills skill := by
  rw [selectSkill_eq]
  refine Iff.trans ?_ (toggle_iff hs.selectedSkills)
  constructor
  · rintro ⟨hdistinct, htoggles⟩
    exact ⟨hdistinct.selectedSkills, htoggles.toggles⟩
  · rintro ⟨hdistinct, htoggles⟩
    exact ⟨⟨hdistinct, hs.secondLanguages, hs.expertSkills, hs.targetSkills⟩,
      .of_toggles htoggles⟩

/-- What a call from a state with distinct ids does. -/
theorem call_iff {s : OnboardingSelections CountryModel UIImage} (hs : s.DistinctIds)
    (call : SelectionCall) :
    ((s.call call).DistinctIds ∧ s.ActsById call (s.call call)) ↔ s.MeetsItself call := by
  cases call with
  | selectSkill skill => exact selectSkill_iff hs skill
  | toggleSkill skill => exact selectSkill_iff hs skill
  | addSecondLanguage language =>
      rw [OnboardingSelections.call, addSecondLanguage_eq, MeetsItself,
        ← distinct_add_iff hs.secondLanguages]
      refine ⟨fun h => h.1.secondLanguages, fun h => ⟨⟨?_, h, ?_, ?_⟩, trivial⟩⟩
      · exact hs.selectedSkills
      · exact hs.expertSkills
      · exact hs.targetSkills
  | addExpertSkill skill =>
      rw [OnboardingSelections.call, addExpertSkill_eq, MeetsItself,
        ← distinct_add_iff hs.expertSkills]
      refine ⟨fun h => h.1.expertSkills, fun h => ⟨⟨?_, ?_, h, ?_⟩, trivial⟩⟩
      · exact hs.selectedSkills
      · exact hs.secondLanguages
      · exact hs.targetSkills
  | addTargetSkill skill =>
      rw [OnboardingSelections.call, addTargetSkill_eq, MeetsItself,
        ← distinct_add_iff hs.targetSkills]
      refine ⟨fun h => h.1.targetSkills, fun h => ⟨⟨?_, ?_, ?_, h⟩, trivial⟩⟩
      · exact hs.selectedSkills
      · exact hs.secondLanguages
      · exact hs.expertSkills
  | removeSecondLanguage language =>
      refine iff_of_true ⟨⟨hs.selectedSkills, ?_, hs.expertSkills, hs.targetSkills⟩, trivial⟩
        trivial
      exact hs.secondLanguages.filter _
  | removeExpertSkill skill =>
      refine iff_of_true ⟨⟨hs.selectedSkills, hs.secondLanguages, ?_, hs.targetSkills⟩, trivial⟩
        trivial
      exact hs.expertSkills.filter _
  | removeTargetSkill skill =>
      refine iff_of_true ⟨⟨hs.selectedSkills, hs.secondLanguages, hs.expertSkills, ?_⟩, trivial⟩
        trivial
      exact hs.targetSkills.filter _

/-- **A selection is a set of ids** all along a run, and skills are selected by id, exactly when
each value to toggle or add meets nothing under its id but itself. -/
theorem selections_by_id_iff (calls : List SelectionCall) :
    (∀ x ∈ (onboardingSelections CountryModel UIImage).transitions initial calls,
        x.2.2.DistinctIds ∧ x.1.ActsById x.2.1 x.2.2)
      ↔ ∀ x ∈ (onboardingSelections CountryModel UIImage).transitions initial calls,
          x.1.MeetsItself x.2.1 := by
  refine Machine.forall_steps_iff (fun s call t => t.DistinctIds ∧ s.ActsById call t) DistinctIds
    ?_ ?_ calls distinctIds_initial
  · intro s call t _ _ h
    exact h.1
  · intro s call t hstep hs
    exact Option.some.inj hstep ▸ call_iff hs call

/-- The skill is reloaded with another popularity, and selecting it again adds it a second time. -/
theorem reloaded_skill_selected_twice :
    let fingerstyle : Skill :=
      ⟨"skill_1", "music_guitar", "Fingerstyle", .intermediate, 80, none, [], none⟩
    ¬ ∀ x ∈ (onboardingSelections Unit Unit).transitions initial
        [.selectSkill fingerstyle, .selectSkill { fingerstyle with popularity := 81 }],
        x.2.2.DistinctIds ∧ x.1.ActsById x.2.1 x.2.2 := by
  intro fingerstyle h
  have hrun : ∃ x ∈ (onboardingSelections Unit Unit).transitions initial
      [.selectSkill fingerstyle, .selectSkill { fingerstyle with popularity := 81 }],
      x.2.2.skillSelection.selectedSkills.map Skill.id = ["skill_1", "skill_1"] :=
    ⟨_, List.mem_cons_of_mem _ (List.mem_singleton_self _), by decide +kernel⟩
  obtain ⟨x, hx, hids⟩ := hrun
  have hdistinct := (h x hx).1.selectedSkills
  rw [Distinct, hids] at hdistinct
  exact absurd hdistinct (by decide)

end OnboardingSelections

end SkillTalk
