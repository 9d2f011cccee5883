import SkillTalk.Proof.SkillPicker

/-!
# Navigation of the skill picker

The user acts when nothing is in flight. Then the selection and the lists follow the step, but for
two actions: clearing the selections keeps the lists, and going back from skills that were not
reached through a category finds no category to go back to.
-/

namespace SkillTalk

open TaskPool SkillSelectionViewModel

variable {language : String} {repositories : ℕ → SkillRepository}

namespace SkillSelectionViewModel

structure ConsistentNavigation (s : SkillSelectionViewModel) : Prop where
  categories : s.currentStep = .categories →
    s.selectedCategory = none ∧ s.selectedSubcategory = none
      ∧ s.subcategories = [] ∧ s.skills = [] ∧ s.filteredSkills = []
  subcategories : s.currentStep = .subcategories →
    s.selectedCategory ≠ none ∧ s.selectedSubcategory = none

/-- Skills are listed on the skills step only, and the search box is empty. -/
structure Navigable (s : SkillSelectionViewModel) : Prop where
  consistent : s.ConsistentNavigation
  skills : s.currentStep ≠ .skills → s.skills = [] ∧ s.filteredSkills = []
  searchQuery : s.searchQuery = ""

/-- The step on which a task can be in flight. -/
def Fits (step : SkillSelectionStep) : SelectionTask → Prop
  | .created (.loadSubcategories _) => step = .subcategories
  | .getSubcategories _ => step = .subcategories
  | .created (.loadSkills _) => step = .skills
  | .getSkills _ => step = .skills
  | .created .searchSkills => True
  | .created .loadPopularSkills => True
  | .getPopularSkills => True
  | .created (.loadSkillsByDifficulty _) => True
  | .getSkillsByDifficulty _ => True
  | _ => False

theorem navigable_of_skills {s : SkillSelectionViewModel} (hstep : s.currentStep = .skills)
    (hquery : s.searchQuery = "") : s.Navigable := by
  constructor
  · constructor <;> simp [hstep]
  · simp [hstep]
  · exact hquery

/-- What neither the navigation nor the lists depend on may change. -/
theorem Navigable.frame {s : SkillSelectionViewModel} (h : s.Navigable) (isLoading : Bool)
    (errorMessage : Option String) :
    Navigable { s with isLoading := isLoading, errorMessage := errorMessage } :=
  ⟨⟨h.consistent.categories, h.consistent.subcategories⟩, h.skills, h.searchQuery⟩

end SkillSelectionViewModel

namespace SkillSelection

/-- The user acts when nothing is in flight, and selects on the step that offers the selection. The
run of `searchSkills` that follows the emptying of the box may come then too. -/
def InTurn (p : SkillSelection) : SelectionAction → Prop
  | .selectCategory _ => p.tasks = [] ∧ p.shared.currentStep = .categories
  | .selectSubcategory _ => p.tasks = [] ∧ p.shared.currentStep = .subcategories
  | .goBack => p.tasks = []
  | .loadPopularSkills => p.tasks = []
  | .loadSkillsByDifficulty _ => p.tasks = []
  | .clearSelections => p.tasks = []
  | .clearSearch => p.tasks = []
  | .searchSkills => p.tasks = []
  | .run _ _ => True
  | _ => False

/-- Selections are cleared where no list is left behind, and the way back from the skills leads to a
category. -/
def LeadsBack (p : SkillSelection) : SelectionAction → Prop
  | .goBack => p.shared.currentStep = .skills → p.shared.selectedCategory ≠ none
  | .clearSelections => p.shared.subcategories = [] ∧ p.shared.skills = []
  | _ => True

structure Orderly (p : SkillSelection) : Prop where
  navigable : p.shared.Navigable
  tasks : p.tasks = [] ∨ ∃ task, p.tasks = [task] ∧ Fits p.shared.currentStep task

variable {p q : SkillSelection}

theorem orderly_act {s : SkillSelectionViewModel} {job : SelectionJob} (hs : s.Navigable)
    (hidle : p.tasks = []) (hfits : Fits s.currentStep (.created job)) :
    (p.act s (some job)).Orderly :=
  ⟨hs, .inr ⟨.created job, by simp [act, hidle], hfits⟩⟩

theorem orderly_act_none {s : SkillSelectionViewModel} (hs : s.Navigable) (hidle : p.tasks = []) :
    (p.act s none).Orderly :=
  ⟨hs, .inl (by simp [act, hidle])⟩

theorem orderly_start {s : SkillSelectionViewModel} {job : SelectionJob} (hs : s.Navigable)
    (hfits : Fits s.currentStep (.created job)) :
    Orderly ⟨(s.start job).1, (s.start job).2.toList⟩ := by
  cases job with
  | loadSkills subcategoryId =>
      cases hcategory : s.selectedCategory with
      | none =>
          have hstart : s.start (.loadSkills subcategoryId)
              = ({ s.beginLoading with
                  errorMessage := some "No category selected", isLoading := false }, none) := by
            simp [start, hcategory]
          rw [hstart]
          exact ⟨hs.frame _ _, .inl rfl⟩
      | some category =>
          rw [start_loadSkills (by simp [hcategory])]
          exact ⟨hs.frame _ _, .inr ⟨_, rfl, hfits⟩⟩
  | searchSkills =>
      rw [start_searchSkills_of_empty hs.searchQuery]
      refine ⟨⟨⟨fun hstep => ?_, hs.consistent.subcategories⟩, fun hstep => ?_, hs.searchQuery⟩,
        .inl rfl⟩
      · obtain ⟨hcategory, hsubcategory, hsubcategories, hskills, -⟩ :=
          hs.consistent.categories hstep
        exact ⟨hcategory, hsubcategory, hsubcategories, hskills, hskills⟩
      · exact ⟨(hs.skills hstep).1, (hs.skills hstep).1⟩
  | loadCategories => exact absurd hfits id
  | _ => exact ⟨hs.frame _ _, .inr ⟨_, rfl, hfits⟩⟩

/-- A task that fits the step leaves everything in order, whether its call succeeds or fails. -/
theorem orderly_turn {s : SkillSelectionViewModel} (repository : SkillRepository)
    {task : SelectionTask} (hs : s.Navigable) (hfits : Fits s.currentStep task) :
    Orderly ⟨(s.turn language repository task).1, (s.turn language repository task).2.toList⟩ := by
  cases task with
  | created job => exact orderly_start hs hfits
  | getSubcategories categoryId =>
      have hstep : s.currentStep = .subcategories := hfits
      refine ⟨finishLoading_cases _ _ (fun subcategories => ?_) (hs.frame _), .inl rfl⟩
      refine ⟨⟨fun hcategories => ?_, hs.consistent.subcategories⟩, hs.skills, hs.searchQuery⟩
      rw [hstep] at hcategories
      cases hcategories
  | getSkills subcategoryId =>
      have hstep : s.currentStep = .skills := hfits
      refine ⟨finishLoading_cases _ _ (fun skills => ?_) (hs.frame _), .inl rfl⟩
      exact navigable_of_skills hstep hs.searchQuery
  | getPopularSkills =>
      refine ⟨finishLoading_cases _ _ (fun skills => ?_) (hs.frame _), .inl rfl⟩
      exact navigable_of_skills rfl hs.searchQuery
  | getSkillsByDifficulty difficulty =>
      refine ⟨finishLoading_cases _ _ (fun skills => ?_) (hs.frame _), .inl rfl⟩
      exact navigable_of_skills rfl hs.searchQuery
  | getCategories => exact absurd hfits id
  | searchSkills query => exact absurd hfits id

theorem Orderly.run {index answeredBy : ℕ} (h : p.Orderly)
    (hrun : p.run (turn language (repositories answeredBy)) index = some q) : q.Orderly := by
  obtain ⟨before, task, after, -, htasks, hq⟩ := run_eq_some hrun
  rcases h.tasks with hidle | ⟨only, honly, hfits⟩
  · simp [hidle] at htasks
  · rw [honly] at htasks
    have hparts : before = [] ∧ after = [] ∧ only = task := by
      cases before with
      | nil => simp_all
      | cons first before => simp at htasks
    obtain ⟨hbefore, hafter, htask⟩ := hparts
    rw [hq, hbefore, hafter, ← htask, List.nil_append, List.append_nil]
    exact orderly_turn _ h.navigable hfits

theorem navigable_goBack {s : SkillSelectionViewModel} (hs : s.Navigable)
    (hback : s.currentStep = .skills → s.selectedCategory ≠ none) : s.goBack.Navigable := by
  cases hstep : s.currentStep with
  | categories =>
      have hgo : s.goBack = s := by simp [goBack, hstep]
      rw [hgo]
      exact hs
  | subcategories =>
      have hgo : s.goBack = { s with
          currentStep := .categories, selectedCategory := none, subcategories := [] } := by
        simp [goBack, hstep]
      have hskills := hs.skills (by simp [hstep])
      rw [hgo]
      refine ⟨⟨fun _ => ?_, by simp⟩, fun _ => hskills, hs.searchQuery⟩
      exact ⟨rfl, (hs.consistent.subcategories hstep).2, rfl, hskills⟩
  | skills =>
      have hgo : s.goBack = { s with
          currentStep := .subcategories
          selectedSubcategory := none
          skills := []
          filteredSkills := [] } := by
        simp [goBack, hstep]
      rw [hgo]
      exact ⟨⟨by simp, fun _ => ⟨hback hstep, rfl⟩⟩, fun _ => ⟨rfl, rfl⟩, hs.searchQuery⟩

theorem navigable_clearSelections {s : SkillSelectionViewModel} (hsubcategories : s.subcategories = [])
    (hskills : s.skills = []) : s.clearSelections.Navigable := by
  constructor
  · constructor <;> simp [clearSelections, hsubcategories, hskills]
  · simp [clearSelections, hskills]
  · rfl

theorem navigable_clearSearch {s : SkillSelectionViewModel} (hs : s.Navigable) :
    s.clearSearch.Navigable := by
  refine ⟨⟨fun hstep => ?_, hs.consistent.subcategories⟩, fun hstep => ?_, rfl⟩
  · obtain ⟨hcategory, hsubcategory, hsubcategories, hskills, -⟩ := hs.consistent.categories hstep
    exact ⟨hcategory, hsubcategory, hsubcategories, hskills, hskills⟩
  · exact ⟨(hs.skills hstep).1, (hs.skills hstep).1⟩

theorem navigable_selectCategory {s : SkillSelectionViewModel} (hs : s.Navigable)
    (hstep : s.currentStep = .categories) (category : SkillCategory) :
    (s.selectCategory category).Navigable := by
  obtain ⟨-, hsubcategory, -, hskills, hfiltered⟩ := hs.consistent.categories hstep
  refine ⟨⟨by simp [selectCategory], fun _ => ?_⟩, fun _ => ⟨hskills, hfiltered⟩, hs.searchQuery⟩
  exact ⟨by simp [selectCategory], hsubcategory⟩

theorem Orderly.step {action : SelectionAction} (h : p.Orderly)
    (hstep : p.step language repositories action = some q) (hturn : p.InTurn action)
    (hback : p.LeadsBack action) : q.Orderly := by
  cases action with
  | selectCategory category =>
      rw [← Option.some.inj hstep]
      exact orderly_act (navigable_selectCategory h.navigable hturn.2 category) hturn.1 rfl
  | selectSubcategory subcategory =>
      rw [← Option.some.inj hstep]
      exact orderly_act (navigable_of_skills rfl h.navigable.searchQuery) hturn.1 rfl
  | goBack =>
      rw [← Option.some.inj hstep]
      exact orderly_act_none (navigable_goBack h.navigable hback) hturn
  | loadPopularSkills =>
      rw [← Option.some.inj hstep]
      exact orderly_act h.navigable hturn trivial
  | loadSkillsByDifficulty difficulty =>
      rw [← Option.some.inj hstep]
      exact orderly_act h.navigable hturn trivial
  | clearSelections =>
      rw [← Option.some.inj hstep]
      exact orderly_act_none (navigable_clearSelections hback.1 hback.2) hturn
  | clearSearch =>
      rw [← Option.some.inj hstep]
      exact orderly_act_none (navigable_clearSearch h.navigable) hturn
  | searchSkills =>
      rw [← Option.some.inj hstep]
      have hs : Navigable { p.shared with searchDue := false, emptiedDue := false } :=
        ⟨⟨h.navigable.consistent.categories, h.navigable.consistent.subcategories⟩,
          h.navigable.skills, h.navigable.searchQuery⟩
      exact orderly_act hs hturn trivial
  | run index answeredBy => exact h.run hstep
  | _ => exact absurd hturn id

theorem orderly_of_reachableWhere {start : SkillSelectionViewModel} (hstart : start.Navigable)
    (hp : (skillSelection language repositories start).ReachableWhere
      (fun p action => p.InTurn action ∧ p.LeadsBack action) p) : p.Orderly := by
  refine Machine.ReachableWhere.invariant Orderly ?_ ?_ hp
  · rintro p rfl
    exact ⟨hstart, .inl rfl⟩
  · exact fun p action q _ h hallowed hstep => h.step hstep hallowed.1 hallowed.2

/-- An action that does not lead back breaks the navigation at once. -/
theorem leadsBack_of_consistent {action : SelectionAction} (hturn : p.InTurn action)
    (hstep : p.step language repositories action = some q)
    (hq : q.shared.ConsistentNavigation) : p.LeadsBack action := by
  cases action with
  | goBack =>
      intro hskills
      rw [← Option.some.inj hstep] at hq
      have hcategory := hq.subcategories (by simp [act, goBack, hskills])
      simpa [act, goBack, hskills] using hcategory.1
  | clearSelections =>
      rw [← Option.some.inj hstep] at hq
      obtain ⟨-, -, hsubcategories, hskills, -⟩ := hq.categories rfl
      exact ⟨hsubcategories, hskills⟩
  | _ => trivial

theorem navigable_initial : SkillSelectionViewModel.initial.Navigable := by
  constructor
  · constructor <;> simp [initial]
  · simp [initial]
  · rfl

/-- **The navigation state is consistent as long as every action leads back**, whatever the loads
answer. The first action that does not makes it inconsistent. -/
theorem navigation_consistent (language : String) (repositories : ℕ → SkillRepository)
    (p : SkillSelection)
    (hp : (skillSelection language repositories .initial).ReachableWhere
      (fun p action => p.InTurn action ∧ p.LeadsBack action) p) :
    p.shared.ConsistentNavigation
      ∧ ∀ action q, p.InTurn action → p.step language repositories action = some q →
        (q.shared.ConsistentNavigation ↔ p.LeadsBack action) := by
  have horderly : p.Orderly := orderly_of_reachableWhere navigable_initial hp
  refine ⟨horderly.navigable.consistent, fun action q hturn hstep => ⟨?_, fun hback => ?_⟩⟩
  · exact leadsBack_of_consistent hturn hstep
  · exact (horderly.step hstep hturn hback).navigable.consistent

instance (p : SkillSelection) (action : SelectionAction) : Decidable (p.InTurn action) :=
  match action with
  | .selectCategory _ => inferInstanceAs (Decidable (_ ∧ _))
  | .selectSubcategory _ => inferInstanceAs (Decidable (_ ∧ _))
  | .goBack => inferInstanceAs (Decidable (_ = _))
  | .loadPopularSkills => inferInstanceAs (Decidable (_ = _))
  | .loadSkillsByDifficulty _ => inferInstanceAs (Decidable (_ = _))
  | .clearSelections => inferInstanceAs (Decidable (_ = _))
  | .clearSearch => inferInstanceAs (Decidable (_ = _))
  | .searchSkills => inferInstanceAs (Decidable (_ = _))
  | .run _ _ => isTrue trivial
  | .loadCategories => isFalse id
  | .editSearch _ => isFalse id
  | .loadSkills _ => isFalse id

instance (p : SkillSelection) (action : SelectionAction) : Decidable (p.LeadsBack action) :=
  match action with
  | .goBack => inferInstanceAs (Decidable (_ → _))
  | .clearSelections => inferInstanceAs (Decidable (_ ∧ _))
  | .loadCategories => isTrue trivial
  | .selectCategory _ => isTrue trivial
  | .selectSubcategory _ => isTrue trivial
  | .editSearch _ => isTrue trivial
  | .searchSkills => isTrue trivial
  | .clearSearch => isTrue trivial
  | .loadSkills _ => isTrue trivial
  | .loadPopularSkills => isTrue trivial
  | .loadSkillsByDifficulty _ => isTrue trivial
  | .run _ _ => isTrue trivial

/-- To the skills of a category and back to the categories. -/
theorem navigation_consistent_of_round_trip :
    let actions := [.selectCategory ⟨"arts", "Arts", none, 0, none⟩, .run 0 0, .run 0 0,
      .selectSubcategory ⟨"basics", "arts", "Basics", none, 0, none, none⟩, .run 0 0, .run 0 0,
      .goBack, .goBack, .clearSelections]
    ∃ p, (skillSelection "en" (fun _ => basicsRepository) .initial).exec ⟨.initial, []⟩ actions
        = some p
      ∧ p.shared.currentStep = .categories ∧ p.shared.ConsistentNavigation := by
  intro actions
  obtain ⟨p, hexec, hreach, hend⟩ :
      ∃ p, (skillSelection "en" (fun _ => basicsRepository) .initial).exec ⟨.initial, []⟩ actions
          = some p
        ∧ (skillSelection "en" (fun _ => basicsRepository) .initial).ReachableWhere
          (fun p action => p.InTurn action ∧ p.LeadsBack action) p
        ∧ decide (p.shared.currentStep = .categories) = true :=
    Machine.exists_reachableWhere rfl _ (by decide +kernel) (by decide +kernel)
  refine ⟨p, hexec, of_decide_eq_true hend, ?_⟩
  exact (navigation_consistent "en" (fun _ => basicsRepository) p hreach).1

/-- Back from the popular skills there is no category. -/
theorem popular_skills_without_category :
    ∃ (language : String) (repositories : ℕ → SkillRepository) (p : SkillSelection),
      (skillSelection language repositories .initial).ReachableWhere InTurn p
        ∧ ¬ p.shared.ConsistentNavigation := by
  obtain ⟨p, -, hreach, hend⟩ :
      ∃ p, (skillSelection "en" (fun _ => basicsRepository) .initial).exec ⟨.initial, []⟩
          [.loadPopularSkills, .run 0 0, .run 0 0, .goBack] = some p
        ∧ (skillSelection "en" (fun _ => basicsRepository) .initial).ReachableWhere InTurn p
        ∧ (decide (p.shared.currentStep = .subcategories)
          && decide (p.shared.selectedCategory = none)) = true :=
    Machine.exists_reachableWhere rfl _ (by decide +kernel) (by decide +kernel)
  simp only [Bool.and_eq_true, decide_eq_true_eq] at hend
  exact ⟨"en", _, p, hreach, fun hconsistent => (hconsistent.subcategories hend.1).1 hend.2⟩

end SkillSelection

end SkillTalk
