import SkillTalk.SkillSelectionViewModel

/-!
# What the skill picker shows

A load writes its answer whatever is selected by then. The list shown is the selection's own as long
as the load of an earlier selection that finishes late is followed by a load of the current one. The
invariant is that each list is right already, or a load that will set it right is in flight.
-/

namespace SkillTalk

open TaskPool

theorem exists_of_isOk {α : Type} {answer : Except String α} (h : answer.isOk = true) :
    ∃ value, answer = .ok value := by
  cases answer with
  | ok value => exact ⟨value, rfl⟩
  | error description => cases h

/-- The category whose subcategories the task loads. -/
def SelectionTask.categoryLoaded : SelectionTask → Option String
  | .created (.loadSubcategories categoryId) => some categoryId
  | .getSubcategories categoryId => some categoryId
  | _ => none

def SelectionTask.subcategoryLoaded : SelectionTask → Option String
  | .created (.loadSkills subcategoryId) => some subcategoryId
  | .getSkills subcategoryId => some subcategoryId
  | _ => none

namespace SkillSelectionViewModel

variable {language : String} {repository : SkillRepository} {s : SkillSelectionViewModel}

/-- A load ends with its answer shown, or with the lists and the step as they were. -/
theorem finishLoading_cases {α : Type} {P : SkillSelectionViewModel → Prop} (failure : String)
    (answer : Except String α) {present : α → SkillSelectionViewModel}
    (hok : ∀ value, P { present value with isLoading := false })
    (herror : ∀ errorMessage, P { s with errorMessage := errorMessage, isLoading := false }) :
    P (s.finishLoading failure answer present) := by
  cases answer with
  | ok value => exact hok value
  | error description => exact herror _

/-- What only the user's actions change. -/
theorem turn_selection (language : String) (repository : SkillRepository)
    (s : SkillSelectionViewModel) (task : SelectionTask) :
    (s.turn language repository task).1.selectedCategory = s.selectedCategory
      ∧ (s.turn language repository task).1.selectedSubcategory = s.selectedSubcategory
      ∧ (s.turn language repository task).1.searchQuery = s.searchQuery
      ∧ (s.turn language repository task).1.searchDue = s.searchDue := by
  cases task with
  | created job =>
      cases job with
      | loadSkills subcategoryId =>
          simp only [turn, start]
          split <;> exact ⟨rfl, rfl, rfl, rfl⟩
      | searchSkills =>
          simp only [turn, start]
          split <;> exact ⟨rfl, rfl, rfl, rfl⟩
      | _ => exact ⟨rfl, rfl, rfl, rfl⟩
  | _ =>
      simp only [turn, finishLoading]
      split <;> exact ⟨rfl, rfl, rfl, rfl⟩

/-- Starting changes no list but the filtered one. -/
theorem start_lists (s : SkillSelectionViewModel) (job : SelectionJob) :
    (s.start job).1.subcategories = s.subcategories ∧ (s.start job).1.skills = s.skills
      ∧ (s.start job).1.currentStep = s.currentStep := by
  cases job with
  | loadSkills subcategoryId =>
      simp only [start]
      split <;> exact ⟨rfl, rfl, rfl⟩
  | searchSkills =>
      simp only [start]
      split <;> exact ⟨rfl, rfl, rfl⟩
  | _ => exact ⟨rfl, rfl, rfl⟩

theorem start_loadSkills (h : s.selectedCategory ≠ none) (subcategoryId : String) :
    s.start (.loadSkills subcategoryId) = (s.beginLoading, some (.getSkills subcategoryId)) := by
  obtain ⟨category, hcategory⟩ := Option.ne_none_iff_exists'.mp h
  simp [start, hcategory]

theorem start_searchSkills_of_empty (h : s.searchQuery = "") :
    s.start .searchSkills = ({ s with filteredSkills := s.skills }, none) := by
  simp [start, h]

theorem turn_getSubcategories {categoryId : String} {subcategories : List SkillSubcategory}
    (h : repository.getSubcategories categoryId language = .ok subcategories) :
    s.turn language repository (.getSubcategories categoryId)
      = ({ s with subcategories := subcategories, isLoading := false }, none) := by
  simp only [turn, h, finishLoading]

theorem turn_getSkills {subcategoryId : String} {skills : List Skill}
    (h : repository.getSkills subcategoryId language = .ok skills) :
    s.turn language repository (.getSkills subcategoryId)
      = ({ s with skills := skills, filteredSkills := skills, isLoading := false }, none) := by
  simp only [turn, h, finishLoading]

variable (language repository)

/-- The task will show what the repository answers for the category, if the load succeeds. -/
def LoadsSubcategories (category : SkillCategory) (task : SelectionTask) : Prop :=
  ∃ categoryId ∈ task.categoryLoaded,
    repository.getSubcategories categoryId language
      = repository.getSubcategories category.id language

def LoadsSkills (subcategory : SkillSubcategory) (task : SelectionTask) : Prop :=
  ∃ subcategoryId ∈ task.subcategoryLoaded,
    repository.getSkills subcategoryId language = repository.getSkills subcategory.id language

/-- The lists shown are the repository's answers for what is selected. -/
structure ShowsSelection (s : SkillSelectionViewModel) : Prop where
  subcategories : s.currentStep = .subcategories → ∃ category, s.selectedCategory = some category
    ∧ repository.getSubcategories category.id language = .ok s.subcategories
  skills : s.currentStep = .skills → ∃ subcategory, s.selectedSubcategory = some subcategory
    ∧ repository.getSkills subcategory.id language = .ok s.skills

end SkillSelectionViewModel

open SkillSelectionViewModel

namespace SkillSelection

variable (language : String) (repository : SkillRepository)

/-- The task may take its turn: it does not fail, and if it finishes for another selection than the
current one, then a load of the current one is still to come. -/
def TimelyTurn (p : SkillSelection) (index : ℕ) : SelectionTask → Prop
  | .created (.loadSkills _) => p.shared.selectedCategory ≠ none
  | .getSubcategories categoryId =>
      (repository.getSubcategories categoryId language).isOk = true
        ∧ ∀ category ∈ p.shared.selectedCategory,
          LoadsSubcategories language repository category (.getSubcategories categoryId)
            ∨ ∃ other ∈ p.tasks.eraseIdx index, LoadsSubcategories language repository category other
  | .getSkills subcategoryId =>
      (repository.getSkills subcategoryId language).isOk = true
        ∧ (p.shared.currentStep = .skills → ∀ subcategory ∈ p.shared.selectedSubcategory,
          LoadsSkills language repository subcategory (.getSkills subcategoryId)
            ∨ ∃ other ∈ p.tasks.eraseIdx index, LoadsSkills language repository subcategory other)
  | .getPopularSkills => False
  | .getSkillsByDifficulty _ => False
  | _ => True

/-- The user selects and goes back, and tasks take turns that are timely. -/
def TimelyLoads (p : SkillSelection) : SelectionAction → Prop
  | .selectCategory _ => True
  | .selectSubcategory _ => True
  | .goBack => True
  | .run index _ => ∀ task ∈ p.tasks[index]?, p.TimelyTurn language repository index task
  | _ => False

structure ShownInTime (p : SkillSelection) : Prop where
  subcategories : ∀ category ∈ p.shared.selectedCategory,
    p.Owed (fun s => repository.getSubcategories category.id language = .ok s.subcategories)
      fun _ => LoadsSubcategories language repository category
  skills : p.shared.currentStep = .skills → ∀ subcategory ∈ p.shared.selectedSubcategory,
    p.Owed (fun s => repository.getSkills subcategory.id language = .ok s.skills)
      fun _ => LoadsSkills language repository subcategory
  -- a load that finds no category selected would fail
  category : p.shared.currentStep ≠ .categories → p.shared.selectedCategory = none →
    ∃ subcategoryId, SelectionTask.created (.loadSkills subcategoryId) ∈ p.tasks
  subcategory : p.shared.currentStep = .skills → p.shared.selectedSubcategory ≠ none

variable {language repository} {p q : SkillSelection} {index : ℕ}

theorem currentStep_of_timely {task : SelectionTask}
    (h : p.TimelyTurn language repository index task) :
    (p.shared.turn language repository task).1.currentStep = p.shared.currentStep := by
  cases task with
  | created job => exact (start_lists p.shared job).2.2
  | getPopularSkills => exact absurd h id
  | getSkillsByDifficulty difficulty => exact absurd h id
  | _ =>
      simp only [turn, finishLoading]
      split <;> rfl

theorem owed_act {Paid : SkillSelectionViewModel → Prop}
    {Due : SkillSelectionViewModel → SelectionTask → Prop} {s : SkillSelectionViewModel}
    {job : Option SelectionJob} (h : p.Owed Paid Due) (hpaid : Paid p.shared → Paid s)
    (hdue : ∀ task, Due p.shared task → Due s task) : (p.act s job).Owed Paid Due := by
  rcases h with h | ⟨task, hmem, htask⟩
  · exact .inl (hpaid h)
  · exact .inr ⟨task, List.mem_append_left _ hmem, hdue task htask⟩

theorem shownInTime_selectCategory (p : SkillSelection) (category : SkillCategory) :
    (p.act (p.shared.selectCategory category) (some (.loadSubcategories category.id))).ShownInTime
      language repository where
  subcategories := by
    intro selected hselected
    have heq : category = selected := Option.some.inj hselected
    refine .inr ⟨.created (.loadSubcategories category.id), by simp [act], category.id, rfl, ?_⟩
    rw [heq]
  skills hstep := nomatch hstep
  category _ hnone := nomatch hnone
  subcategory hstep := nomatch hstep

theorem ShownInTime.selectSubcategory (h : p.ShownInTime language repository)
    (subcategory : SkillSubcategory) :
    (p.act (p.shared.selectSubcategory subcategory) (some (.loadSkills subcategory.id))).ShownInTime
      language repository where
  subcategories category hselected := owed_act (h.subcategories category hselected) id fun _ => id
  skills := by
    intro _ selected hselected
    have heq : subcategory = selected := Option.some.inj hselected
    refine .inr ⟨.created (.loadSkills subcategory.id), by simp [act], subcategory.id, rfl, ?_⟩
    rw [heq]
  category _ _ := ⟨subcategory.id, by simp [act]⟩
  subcategory _ hnone := nomatch hnone

theorem ShownInTime.goBack (h : p.ShownInTime language repository) :
    (p.act p.shared.goBack none).ShownInTime language repository := by
  cases hstep : p.shared.currentStep with
  | categories =>
      have hback : p.shared.goBack = p.shared := by simp [SkillSelectionViewModel.goBack, hstep]
      rw [hback]
      simpa [act] using h
  | subcategories =>
      constructor <;> simp [SkillSelectionViewModel.goBack, hstep, act]
  | skills =>
      have hback : p.shared.goBack = { p.shared with
          currentStep := .subcategories
          selectedSubcategory := none
          skills := []
          filteredSkills := [] } := by
        simp [SkillSelectionViewModel.goBack, hstep]
      rw [hback]
      refine ⟨?_, by simp [act], ?_, by simp [act]⟩
      · exact fun category hselected => owed_act (h.subcategories category hselected) id fun _ => id
      · intro _ hnone
        obtain ⟨subcategoryId, hmem⟩ := h.category (by simp [hstep]) hnone
        exact ⟨subcategoryId, List.mem_append_left _ hmem⟩

/-- What a timely turn makes of the subcategories shown. -/
theorem subcategories_turn {task : SelectionTask}
    (h : p.TimelyTurn language repository index task) {category : SkillCategory}
    (hselected : category ∈ p.shared.selectedCategory)
    (hpaid : repository.getSubcategories category.id language = .ok p.shared.subcategories
      ∨ LoadsSubcategories language repository category task) :
    repository.getSubcategories category.id language
        = .ok (p.shared.turn language repository task).1.subcategories
      ∨ (∃ next ∈ (p.shared.turn language repository task).2,
        LoadsSubcategories language repository category next)
      ∨ (p.shared.turn language repository task).2 = none
        ∧ ∃ other ∈ p.tasks.eraseIdx index,
          LoadsSubcategories language repository category other := by
  cases task with
  | created job =>
      rcases hpaid with hpaid | hdue
      · exact .inl ((start_lists p.shared job).1 ▸ hpaid)
      · cases job with
        | loadSubcategories categoryId => exact .inr (.inl ⟨_, rfl, hdue⟩)
        | _ => simp [LoadsSubcategories, SelectionTask.categoryLoaded] at hdue
  | getSubcategories categoryId =>
      obtain ⟨hok, hcurrent⟩ := h
      obtain ⟨subcategories, hanswer⟩ := exists_of_isOk hok
      rcases hcurrent category hselected with ⟨_, hloaded, hsame⟩ | hother
      · refine .inl ?_
        rw [turn_getSubcategories hanswer, ← hanswer, ← hsame, ← Option.some.inj hloaded]
      · exact .inr (.inr ⟨rfl, hother⟩)
  | getPopularSkills => exact absurd h id
  | getSkillsByDifficulty difficulty => exact absurd h id
  | _ =>
      have hkept := hpaid.resolve_right (by simp [LoadsSubcategories, SelectionTask.categoryLoaded])
      refine .inl ?_
      simp only [turn, finishLoading]
      split <;> exact hkept

theorem skills_turn {task : SelectionTask} (h : p.TimelyTurn language repository index task)
    (hstep : p.shared.currentStep = .skills) {subcategory : SkillSubcategory}
    (hselected : subcategory ∈ p.shared.selectedSubcategory)
    (hpaid : repository.getSkills subcategory.id language = .ok p.shared.skills
      ∨ LoadsSkills language repository subcategory task) :
    repository.getSkills subcategory.id language
        = .ok (p.shared.turn language repository task).1.skills
      ∨ (∃ next ∈ (p.shared.turn language repository task).2,
        LoadsSkills language repository subcategory next)
      ∨ (p.shared.turn language repository task).2 = none
        ∧ ∃ other ∈ p.tasks.eraseIdx index, LoadsSkills language repository subcategory other := by
  cases task with
  | created job =>
      rcases hpaid with hpaid | hdue
      · exact .inl ((start_lists p.shared job).2.1 ▸ hpaid)
      · cases job with
        | loadSkills subcategoryId =>
            refine .inr (.inl ⟨.getSkills subcategoryId, ?_, hdue⟩)
            rw [turn, start_loadSkills h]
            rfl
        | _ => simp [LoadsSkills, SelectionTask.subcategoryLoaded] at hdue
  | getSkills subcategoryId =>
      obtain ⟨hok, hcurrent⟩ := h
      obtain ⟨skills, hanswer⟩ := exists_of_isOk hok
      rcases hcurrent hstep subcategory hselected with ⟨_, hloaded, hsame⟩ | hother
      · refine .inl ?_
        rw [turn_getSkills hanswer, ← hanswer, ← hsame, ← Option.some.inj hloaded]
      · exact .inr (.inr ⟨rfl, hother⟩)
  | getPopularSkills => exact absurd h id
  | getSkillsByDifficulty difficulty => exact absurd h id
  | _ =>
      have hkept := hpaid.resolve_right (by simp [LoadsSkills, SelectionTask.subcategoryLoaded])
      refine .inl ?_
      simp only [turn, finishLoading]
      split <;> exact hkept

theorem ShownInTime.run {answeredBy : ℕ} (h : p.ShownInTime language repository)
    (hrun : p.run (turn language repository) index = some q)
    (htimely : p.TimelyLoads language repository (.run index answeredBy)) :
    q.ShownInTime language repository := by
  obtain ⟨before, task, after, htask, htasks, hq⟩ := run_eq_some hrun
  have hturn : p.TimelyTurn language repository index task := htimely task htask
  obtain ⟨hcategory, hsubcategory, -, -⟩ :=
    turn_selection language repository p.shared task
  have hstep := currentStep_of_timely hturn
  have hshared : q.shared = (p.shared.turn language repository task).1 := by rw [hq]
  rw [← hshared] at hcategory hsubcategory hstep
  refine ⟨?_, ?_, ?_, ?_⟩
  · intro category hselected
    rw [hcategory] at hselected
    refine (h.subcategories category hselected).of_run_ended hrun fun task' htask' => ?_
    exact subcategories_turn (htimely task' htask') hselected
  · intro hskills subcategory hselected
    rw [hstep] at hskills
    rw [hsubcategory] at hselected
    refine (h.skills hskills subcategory hselected).of_run_ended hrun fun task' htask' => ?_
    exact skills_turn (htimely task' htask') hskills hselected
  · intro hne hnone
    rw [hstep] at hne
    rw [hcategory] at hnone
    obtain ⟨subcategoryId, hmem⟩ := h.category hne hnone
    refine ⟨subcategoryId, ?_⟩
    have hother : task ≠ .created (.loadSkills subcategoryId) := by
      rintro rfl
      exact hturn hnone
    rw [htasks] at hmem
    rw [hq]
    simp only [List.mem_append, List.mem_cons, hother.symm, false_or] at hmem ⊢
    tauto
  · rw [hstep, hsubcategory]
    exact h.subcategory

theorem ShownInTime.step {action : SelectionAction} (h : p.ShownInTime language repository)
    (hstep : p.step language (fun _ => repository) action = some q)
    (htimely : p.TimelyLoads language repository action) : q.ShownInTime language repository := by
  cases action with
  | selectCategory category =>
      exact Option.some.inj hstep ▸ shownInTime_selectCategory p category
  | selectSubcategory subcategory =>
      exact Option.some.inj hstep ▸ h.selectSubcategory subcategory
  | goBack => exact Option.some.inj hstep ▸ h.goBack
  | run index answeredBy => exact h.run hstep htimely
  | _ => exact absurd htimely id

/-- **The picker shows what is selected** whenever nothing is in flight, in every run whose loads
succeed and in which no load of another selection has the last word. -/
theorem picker_shows_selection (language : String) (repository : SkillRepository)
    (p : SkillSelection)
    (hp : (skillSelection language (fun _ => repository) .initial).ReachableWhere
      (TimelyLoads language repository) p) (hidle : p.tasks = []) :
    p.shared.ShowsSelection language repository := by
  have hshown : p.ShownInTime language repository := by
    refine Machine.ReachableWhere.invariant (ShownInTime language repository) ?_ ?_ hp
    · rintro p rfl
      constructor <;> simp [initial]
    · exact fun p action q _ h htimely hstep => h.step hstep htimely
  constructor
  · intro hstep
    have hsome : p.shared.selectedCategory ≠ none := by
      intro hnone
      obtain ⟨subcategoryId, hmem⟩ := hshown.category (by simp [hstep]) hnone
      simp [hidle] at hmem
    obtain ⟨category, hcategory⟩ := Option.ne_none_iff_exists'.mp hsome
    exact ⟨category, hcategory, (hshown.subcategories category hcategory).paid hidle⟩
  · intro hstep
    obtain ⟨subcategory, hsubcategory⟩ :=
      Option.ne_none_iff_exists'.mp (hshown.subcategory hstep)
    exact ⟨subcategory, hsubcategory, (hshown.skills hstep subcategory hsubcategory).paid hidle⟩

instance (category : SkillCategory) (task : SelectionTask) :
    Decidable (LoadsSubcategories language repository category task) :=
  inferInstanceAs (Decidable (∃ _ ∈ _, _))

instance (subcategory : SkillSubcategory) (task : SelectionTask) :
    Decidable (LoadsSkills language repository subcategory task) :=
  inferInstanceAs (Decidable (∃ _ ∈ _, _))

instance (p : SkillSelection) (index : ℕ) (task : SelectionTask) :
    Decidable (p.TimelyTurn language repository index task) :=
  match task with
  | .created (.loadSkills _) => inferInstanceAs (Decidable (_ ≠ _))
  | .getSubcategories _ => inferInstanceAs (Decidable (_ ∧ _))
  | .getSkills _ => inferInstanceAs (Decidable (_ ∧ (_ → _)))
  | .getPopularSkills => isFalse id
  | .getSkillsByDifficulty _ => isFalse id
  | .created .loadCategories => isTrue trivial
  | .created (.loadSubcategories _) => isTrue trivial
  | .created .searchSkills => isTrue trivial
  | .created .loadPopularSkills => isTrue trivial
  | .created (.loadSkillsByDifficulty _) => isTrue trivial
  | .getCategories => isTrue trivial
  | .searchSkills _ => isTrue trivial

instance (p : SkillSelection) (action : SelectionAction) :
    Decidable (p.TimelyLoads language repository action) :=
  match action with
  | .run _ _ => inferInstanceAs (Decidable (∀ _ ∈ _, _))
  | .selectCategory _ => isTrue trivial
  | .selectSubcategory _ => isTrue trivial
  | .goBack => isTrue trivial
  | .loadCategories => isFalse id
  | .editSearch _ => isFalse id
  | .searchSkills => isFalse id
  | .clearSearch => isFalse id
  | .loadSkills _ => isFalse id
  | .loadPopularSkills => isFalse id
  | .loadSkillsByDifficulty _ => isFalse id
  | .clearSelections => isFalse id

/-- Each category has one subcategory, and each subcategory no skills. -/
def basicsRepository : SkillRepository where
  getCategories _ := .ok []
  getSubcategories categoryId _ := .ok [⟨"basics", categoryId, "Basics", none, 0, none, none⟩]
  getSkills _ _ := .ok []
  searchSkills _ _ := .ok []
  getPopularSkills _ _ := .ok []
  getSkillsByDifficulty _ _ := .ok []

/-- A category is selected, left for another one, and the loads of both are under way. -/
def switchedCategory : List SelectionAction :=
  [.selectCategory ⟨"technology", "Technology", none, 0, none⟩, .run 0 0, .goBack,
    .selectCategory ⟨"arts", "Arts", none, 1, none⟩, .run 1 0]

/-- The load of the first category finishes before that of the second. -/
theorem picker_shows_selection_of_switched :
    ∃ p, (skillSelection "en" (fun _ => basicsRepository) .initial).exec ⟨.initial, []⟩
        (switchedCategory ++ [.run 0 0, .run 0 0]) = some p
      ∧ p.shared.currentStep = .subcategories
      ∧ p.shared.ShowsSelection "en" basicsRepository := by
  obtain ⟨p, hexec, hreach, hend⟩ :
      ∃ p, (skillSelection "en" (fun _ => basicsRepository) .initial).exec ⟨.initial, []⟩
          (switchedCategory ++ [.run 0 0, .run 0 0]) = some p
        ∧ (skillSelection "en" (fun _ => basicsRepository) .initial).ReachableWhere
          (TimelyLoads "en" basicsRepository) p
        ∧ (p.tasks.isEmpty && decide (p.shared.currentStep = .subcategories)) = true :=
    Machine.exists_reachableWhere rfl _ (by decide +kernel) (by decide +kernel)
  simp only [Bool.and_eq_true, List.isEmpty_iff, decide_eq_true_eq] at hend
  exact ⟨p, hexec, hend.2, picker_shows_selection "en" basicsRepository p hreach hend.1⟩

/-- The load of the first category finishes last. -/
theorem picker_shows_earlier_category :
    ∃ (language : String) (repository : SkillRepository) (p : SkillSelection),
      (skillSelection language (fun _ => repository) .initial).Reachable p ∧ p.tasks = []
        ∧ ¬ p.shared.ShowsSelection language repository := by
  obtain ⟨p, -, hreach, hend⟩ :
      ∃ p, (skillSelection "en" (fun _ => basicsRepository) .initial).exec ⟨.initial, []⟩
          (switchedCategory ++ [.run 1 0, .run 0 0]) = some p
        ∧ (skillSelection "en" (fun _ => basicsRepository) .initial).Reachable p
        ∧ (p.tasks.isEmpty && decide (p.shared.currentStep = .subcategories)
          && decide ((p.shared.selectedCategory.map SkillCategory.id) = some "arts")
          && decide (p.shared.subcategories.map SkillSubcategory.categoryId = ["technology"]))
            = true :=
    Machine.exists_reachableWhere rfl _ (by decide +kernel) (by decide +kernel)
  simp only [Bool.and_eq_true, List.isEmpty_iff, decide_eq_true_eq] at hend
  obtain ⟨⟨⟨hidle, hstep⟩, hselected⟩, hshown⟩ := hend
  refine ⟨"en", basicsRepository, p, hreach, hidle, fun hshows => ?_⟩
  obtain ⟨category, hcategory, hanswer⟩ := hshows.subcategories hstep
  have hid : category.id = "arts" := by simpa [hcategory] using hselected
  have hsubcategories := Except.ok.inj hanswer
  rw [← hsubcategories, hid] at hshown
  simp at hshown

end SkillSelection

end SkillTalk
