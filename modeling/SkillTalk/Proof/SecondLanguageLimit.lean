import SkillTalk.Library.KeyedSelection
import SkillTalk.SecondLanguageScreen

/-!
# The limit on second languages

A language is added only where a pick finds it unselected and the limit not reached, whatever was
tapped before. So neither the delay nor the variable that the taps share matters.
-/

namespace SkillTalk

open KeyedSelection

namespace SecondLanguageScreen

variable {vip : VIPService}

/-- Each language once, and no more of them than allowed. -/
structure WithinLimit (vip : VIPService) (v : SecondLanguageView) : Prop where
  distinct : Distinct (fun selected => selected.language.id) v.selectedLanguages
  length_le : v.selectedLanguages.length ≤ vip.maxLanguagesAllowed

theorem withinLimit_appear : WithinLimit vip .appear :=
  ⟨.nil, Nat.zero_le _⟩

theorem isLanguageSelected_iff {v : SecondLanguageView} {language : Language}
    {proficiency : LanguageProficiency} :
    v.isLanguageSelected language = true
      ↔ Holds (fun selected : LanguageWithProficiency => selected.language.id) v.selectedLanguages
          ⟨language, proficiency⟩ := by
  simp [SecondLanguageView.isLanguageSelected, Holds, Language.id]

/-- A pick adds a language only where it is new and fits. -/
theorem WithinLimit.onSelect {v : SecondLanguageView} (hv : WithinLimit vip v)
    (language : Language) (proficiency : LanguageProficiency) :
    WithinLimit vip (v.onSelect vip language proficiency) := by
  unfold SecondLanguageView.onSelect
  split
  · rename_i hadd
    obtain ⟨hnew, hroom⟩ := (Bool.and_eq_true _ _).mp hadd
    have hnew : ¬ v.isLanguageSelected language = true := by simpa using hnew
    have hroom : v.selectedLanguages.length < vip.maxLanguagesAllowed := of_decide_eq_true hroom
    refine ⟨distinct_concat.mpr ⟨hv.distinct, mt isLanguageSelected_iff.mpr hnew⟩, ?_⟩
    rw [List.length_append, List.length_singleton]
    omega
  · exact hv

theorem WithinLimit.removeLanguage {v : SecondLanguageView} (hv : WithinLimit vip v)
    (language : Language) : WithinLimit vip (v.removeLanguage language) :=
  ⟨hv.distinct.filter _, (List.length_filter_le _ _).trans hv.length_le⟩

/-- The view with another proficiency for one language. -/
def withProficiency (v : SecondLanguageView) (language : Language)
    (proficiency : LanguageProficiency) : SecondLanguageView :=
  ⟨v.selectedLanguages.map fun selected =>
    if selected.language.id = language.id then { selected with proficiency := proficiency }
    else selected⟩

theorem selectedLanguages_updateProficiency (v : SecondLanguageView) (language : Language)
    (proficiency : LanguageProficiency) :
    (v.updateProficiency language proficiency).selectedLanguages
      = match v.selectedLanguages.findIdx? fun selected => selected.language.id == language.id with
        | none => v.selectedLanguages
        | some index =>
            v.selectedLanguages.modify index fun selected =>
              { selected with proficiency := proficiency } := by
  unfold SecondLanguageView.updateProficiency Language.id
  cases v.selectedLanguages.findIdx? fun selected => selected.language.code == language.code <;> rfl

/-- Changing a proficiency changes nothing else. -/
theorem WithinLimit.updateProficiency_eq {v : SecondLanguageView} (hv : WithinLimit vip v)
    (language : Language) (proficiency : LanguageProficiency) :
    v.updateProficiency language proficiency = withProficiency v language proficiency := by
  have hlists : (v.updateProficiency language proficiency).selectedLanguages
      = (withProficiency v language proficiency).selectedLanguages := by
    rw [selectedLanguages_updateProficiency]
    exact hv.distinct.modify_first language.id _
  exact congrArg SecondLanguageView.mk hlists

/-- Only proficiencies differ, so the languages are the same. -/
theorem map_language_withProficiency (v : SecondLanguageView) (language : Language)
    (proficiency : LanguageProficiency) :
    (withProficiency v language proficiency).selectedLanguages.map (fun selected =>
        selected.language)
      = v.selectedLanguages.map fun selected => selected.language := by
  rw [withProficiency, List.map_map]
  apply List.map_congr_left
  intro selected _
  dsimp only [Function.comp]
  split <;> rfl

theorem WithinLimit.updateProficiency {v : SecondLanguageView} (hv : WithinLimit vip v)
    (language : Language) (proficiency : LanguageProficiency) :
    WithinLimit vip (v.updateProficiency language proficiency) := by
  have hlanguages := map_language_withProficiency v language proficiency
  rw [hv.updateProficiency_eq]
  constructor
  · have hids := congrArg (List.map Language.id) hlanguages
    rw [List.map_map, List.map_map] at hids
    rw [Distinct]
    exact hids ▸ hv.distinct
  · have hlength := congrArg List.length hlanguages
    rw [List.length_map, List.length_map] at hlength
    exact hlength ▸ hv.length_le

theorem withinLimit_of_step {s t : SecondLanguageScreen} {event : SecondLanguageEvent}
    (hs : WithinLimit vip s.view) (hstep : s.step vip event = some t) :
    WithinLimit vip t.view := by
  cases event with
  | tapRow language =>
      obtain rfl := Option.some.inj hstep
      rw [tapRow]
      split <;> exact hs
  | runDelayed index =>
      obtain ⟨language, -, rfl⟩ := Option.map_eq_some_iff.mp hstep
      exact hs
  | render => exact Option.some.inj hstep ▸ hs
  | pick proficiency =>
      obtain ⟨language, -, rfl⟩ := Option.map_eq_some_iff.mp hstep
      exact hs.onSelect language proficiency
  | dismiss => exact Option.some.inj hstep ▸ hs
  | remove language => exact Option.some.inj hstep ▸ hs.removeLanguage language
  | changeProficiency language proficiency =>
      exact Option.some.inj hstep ▸ hs.updateProficiency language proficiency
  | appear => exact Option.some.inj hstep ▸ withinLimit_appear

theorem withinLimit_of_reachable {s : SecondLanguageScreen}
    (hs : (secondLanguageScreen vip).Reachable s) : WithinLimit vip s.view := by
  refine Machine.ReachableWhere.invariant (fun s => WithinLimit vip s.view) ?_ ?_ hs
  · rintro s rfl
    exact withinLimit_appear
  · intro s event t _ hs _ hstep
    exact withinLimit_of_step hs hstep

/-- **The limit on second languages holds** in every run, each language is selected once, and
another proficiency for a language changes nothing else. -/
theorem second_languages_within_limit {s : SecondLanguageScreen}
    (hs : (secondLanguageScreen vip).Reachable s) :
    (s.view.selectedLanguages.map fun selected => selected.language.id).Nodup
      ∧ s.view.selectedLanguages.length ≤ vip.maxLanguagesAllowed
      ∧ ∀ language proficiency, s.step vip (.changeProficiency language proficiency)
          = some { s with view := withProficiency s.view language proficiency } := by
  have hlimit := withinLimit_of_reachable hs
  refine ⟨hlimit.distinct, hlimit.length_le, ?_⟩
  intro language proficiency
  rw [step, hlimit.updateProficiency_eq]

/-- Two rows are tapped before the first sheet comes up, and that sheet is picked from twice. -/
theorem second_languages_within_limit_of_taps :
    let norwegian : Language := ⟨"no", "Norwegian", "Norsk"⟩
    let finnish : Language := ⟨"fi", "Finnish", "Suomi"⟩
    ∃ s, (secondLanguageScreen .initial).exec initial
        [.tapRow norwegian, .tapRow finnish, .runDelayed 0, .render, .runDelayed 0,
          .pick .beginner, .pick .advanced, .tapRow finnish, .render]
        = some s
      ∧ s.view.selectedLanguages ≠ [] ∧ s.view.selectedLanguages.length ≤ 1 := by
  intro norwegian finnish
  obtain ⟨s, hexec, hreach, hend⟩ : ∃ s, (secondLanguageScreen .initial).exec initial
        [.tapRow norwegian, .tapRow finnish, .runDelayed 0, .render, .runDelayed 0,
          .pick .beginner, .pick .advanced, .tapRow finnish, .render] = some s
      ∧ (secondLanguageScreen .initial).Reachable s
      ∧ decide (s.view.selectedLanguages ≠ []) = true :=
    Machine.exists_reachableWhere rfl _ (by decide +kernel) (by decide +kernel)
  exact ⟨s, hexec, of_decide_eq_true hend, (second_languages_within_limit hreach).2.1⟩

/-! ### Undisturbed picks -/

/-- What the container view takes for one action: a tap, its delayed block, the sheet and a pick. -/
theorem select_eq_exec {v : SecondLanguageView} {language : Language}
    (hroom : VIPService.initial.canSelectAdditionalLanguage v.selectedLanguages.length = true)
    (proficiency : LanguageProficiency) :
    (secondLanguageScreen .initial).exec ⟨v, none, false, [], none⟩
        [.tapRow language, .runDelayed 0, .render, .pick proficiency, .render]
      = some ⟨v.select language proficiency, none, false, [], none⟩ := by
  simp [Machine.exec, secondLanguageScreen, step, tapRow, runDelayed, render, pick, hroom,
    SecondLanguageView.onSelect, SecondLanguageView.select]

end SecondLanguageScreen

end SkillTalk
