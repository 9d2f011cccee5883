import SkillTalk.Proof.SkillPicker
import SkillTalk.SkillSelectionView

/-!
# The two routes to the skills of a subcategory

A load of skills asks the repository only where a category is selected. Selecting a category and
then a subcategory does that, and the skill selection view never does. So whatever the repository
has, its load ends with a failure.
-/

namespace SkillTalk

open TaskPool SkillSelectionViewModel

variable {language : String} {repositories : ℕ → SkillRepository}

namespace SkillSelectionViewModel

/-- The load has come to these skills. -/
structure Lists (s : SkillSelectionViewModel) (answer : List Skill) : Prop where
  skills : s.skills = answer
  filteredSkills : s.filteredSkills = answer
  errorMessage : s.errorMessage = none

theorem start_loadSkills_of_none {s : SkillSelectionViewModel} (h : s.selectedCategory = none)
    (subcategoryId : String) :
    s.start (.loadSkills subcategoryId)
      = ({ s.beginLoading with errorMessage := some "No category selected", isLoading := false },
          none) := by
  simp [start, h]

end SkillSelectionViewModel

namespace SkillSelectionView

variable {view : SkillSelectionView} {p q : SkillSelection}

/-- Without a category no load gets as far as the repository. -/
structure NeverAsks (p : SkillSelection) : Prop where
  selectedCategory : p.shared.selectedCategory = none
  tasks : ∀ task ∈ p.tasks, ∀ subcategoryId, task ≠ .getSkills subcategoryId

theorem neverAsks_turn {s : SkillSelectionViewModel} (hs : s.selectedCategory = none)
    (repository : SkillRepository) (task : SelectionTask) (subcategoryId : String) :
    (s.turn language repository task).2 ≠ some (.getSkills subcategoryId) := by
  cases task with
  | created job =>
      cases job with
      | loadSkills subcategoryId' =>
          rw [turn, start_loadSkills_of_none hs]
          exact Option.some_ne_none _ |>.symm
      | searchSkills =>
          rw [turn, start]
          split <;> simp
      | _ => simp [turn, start]
  | _ => simp [turn]

theorem NeverAsks.act (h : NeverAsks p) {s : SkillSelectionViewModel}
    (hs : s.selectedCategory = none) (job : Option SelectionJob) : NeverAsks (p.act s job) := by
  refine ⟨hs, ?_⟩
  intro task htask
  rcases List.mem_append.mp htask with htask | htask
  · exact h.tasks task htask
  · intro subcategoryId
    obtain ⟨job, -, rfl⟩ := Option.map_eq_some_iff.mp (Option.mem_toList.mp htask)
    simp

theorem NeverAsks.run {index : ℕ} {repository : SkillRepository} (h : NeverAsks p)
    (hrun : p.run (turn language repository) index = some q) : NeverAsks q := by
  obtain ⟨task, -, hshared, hbefore, hafter⟩ := exists_of_run hrun
  constructor
  · rw [hshared, (turn_selection language repository p.shared task).1]
    exact h.selectedCategory
  · intro other hother subcategoryId
    rcases (hafter other).mp hother with hnext | hold
    · rintro rfl
      exact neverAsks_turn h.selectedCategory repository task subcategoryId hnext
    · exact h.tasks other ((hbefore other).mpr (.inr hold)) subcategoryId

theorem neverAsks_of_reachableWhere
    (hp : (skillSelection language repositories .initial).ReachableWhere
      (fun _ action => view.Does action) p) : NeverAsks p := by
  refine Machine.ReachableWhere.invariant NeverAsks ?_ ?_ hp
  · rintro p rfl
    refine ⟨rfl, ?_⟩
    intro task htask
    cases htask
  · intro p action q _ hp hdoes hstep
    cases action with
    | loadSkills subcategoryId =>
        exact Option.some.inj hstep ▸ hp.act hp.selectedCategory (some (.loadSkills subcategoryId))
    | editSearch query =>
        have hs : (p.shared.editSearch query).selectedCategory = none := hp.selectedCategory
        exact Option.some.inj hstep ▸ hp.act hs none
    | searchSkills =>
        have hs : { p.shared with searchDue := false, emptiedDue := false }.selectedCategory = none :=
          hp.selectedCategory
        exact Option.some.inj hstep ▸ hp.act hs (some .searchSkills)
    | clearSearch =>
        have hs : p.shared.clearSearch.selectedCategory = none := hp.selectedCategory
        exact Option.some.inj hstep ▸ hp.act hs none
    | run index answeredBy => exact hp.run hstep
    | _ => exact absurd hdoes id

/-- A load of the view's ends with its first turn. -/
theorem NeverAsks.turn_load {index : ℕ} {repository : SkillRepository} {task : SelectionTask}
    {subcategoryId : String} (h : NeverAsks p) (htask : p.tasks[index]? = some task)
    (hload : task.subcategoryLoaded = some subcategoryId)
    (hrun : p.run (turn language repository) index = some q) :
    q.shared = { p.shared with errorMessage := some "No category selected", isLoading := false }
      ∧ q.tasks = p.tasks.eraseIdx index := by
  have hcreated : task = .created (.loadSkills subcategoryId) := by
    cases task with
    | created job =>
        cases job with
        | loadSkills subcategoryId' => rw [Option.some.inj hload]
        | _ => cases hload
    | getSkills subcategoryId' =>
        exact absurd rfl (h.tasks _ (List.mem_of_getElem? htask) subcategoryId')
    | _ => cases hload
  subst hcreated
  have hturn : p.shared.turn language repository (.created (.loadSkills subcategoryId)) = _ :=
    start_loadSkills_of_none h.selectedCategory subcategoryId
  constructor
  · obtain ⟨task, htask', hshared, -, -⟩ := exists_of_run hrun
    obtain rfl := Option.some.inj (htask.symm.trans htask')
    rw [hshared, hturn]
    rfl
  · refine tasks_of_run_ended hrun ?_
    intro task htask'
    obtain rfl := Option.some.inj (htask.symm.trans htask')
    rw [hturn]

/-- To the skills by way of a category, each load running to its end before the next selection. -/
def selections (category : SkillCategory) (subcategory : SkillSubcategory)
    (browsedBy answeredBy : ℕ) : List SelectionAction :=
  [.selectCategory category, .run 0 browsedBy, .run 0 browsedBy]
    ++ [.selectSubcategory subcategory, .run 0 answeredBy, .run 0 answeredBy]

variable (language repositories) in
/-- With nothing in flight, a load runs from its action to its end in two turns of its own. -/
theorem exec_load (action : SelectionAction) (answeredBy : ℕ) {s t u w : SkillSelectionViewModel}
    {job : SelectionJob} {waiting : SelectionTask}
    (haction : SkillSelection.step language repositories ⟨s, []⟩ action
      = some ⟨t, [.created job]⟩)
    (hfirst : t.start job = (u, some waiting))
    (hsecond : u.turn language (repositories answeredBy) waiting = (w, none)) :
    (skillSelection language repositories .initial).exec ⟨s, []⟩
        [action, .run 0 answeredBy, .run 0 answeredBy] = some ⟨w, []⟩ := by
  have hstart := run_last (turn language (repositories answeredBy)) t [] (.created job)
  have hend := run_last (turn language (repositories answeredBy)) u [] waiting
  rw [turn, hfirst] at hstart
  rw [hsecond] at hend
  calc (skillSelection language repositories .initial).exec ⟨s, []⟩
        [action, .run 0 answeredBy, .run 0 answeredBy]
      = (skillSelection language repositories .initial).exec ⟨t, [.created job]⟩
          [.run 0 answeredBy, .run 0 answeredBy] := Machine.exec_cons_of_step haction _
    _ = (skillSelection language repositories .initial).exec ⟨u, [waiting]⟩
          [.run 0 answeredBy] := Machine.exec_cons_of_step hstart _
    _ = some ⟨w, []⟩ := Machine.exec_cons_of_step hend _

/-- The second load finds the category that the first selection left. -/
theorem exec_selections (category : SkillCategory) {subcategory : SkillSubcategory}
    (browsedBy : ℕ) {answeredBy : ℕ} {answer : List Skill}
    (hanswer : (repositories answeredBy).getSkills subcategory.id language = .ok answer) :
    ∃ s, (skillSelection language repositories .initial).exec ⟨.initial, []⟩
        (selections category subcategory browsedBy answeredBy) = some ⟨s, []⟩
      ∧ s.Lists answer := by
  let begun := (SkillSelectionViewModel.initial.selectCategory category).beginLoading
  let browsed := begun.turn language (repositories browsedBy) (.getSubcategories category.id)
  have hcategory : browsed.1.selectedCategory ≠ none := by
    rw [(turn_selection language (repositories browsedBy) begun _).1]
    exact Option.some_ne_none category
  have hchosen : (browsed.1.selectSubcategory subcategory).selectedCategory ≠ none := hcategory
  have hbrowsed : browsed = (browsed.1, none) := rfl
  have hfirst := exec_load language repositories (.selectCategory category) browsedBy
    (s := .initial) rfl rfl hbrowsed
  have hsecond := exec_load language repositories (.selectSubcategory subcategory) answeredBy
    (s := browsed.1) rfl (start_loadSkills hchosen subcategory.id) (turn_getSkills hanswer)
  have hexec := Machine.exec_append (m := skillSelection language repositories .initial)
    ⟨.initial, []⟩ [.selectCategory category, .run 0 browsedBy, .run 0 browsedBy]
    [.selectSubcategory subcategory, .run 0 answeredBy, .run 0 answeredBy]
  rw [hfirst, Option.bind_some, hsecond] at hexec
  exact ⟨_, hexec, rfl, rfl, rfl⟩

/-- **Only a selection lists the skills.** A load of the skill selection view ends with a failure in
every run, whatever the repository has. -/
theorem skills_listed_by_selection_only (repositories : ℕ → SkillRepository)
    (browsedBy answeredBy : ℕ) (view : SkillSelectionView) {answer : List Skill}
    (hanswer : (repositories answeredBy).getSkills view.subcategory.id language = .ok answer) :
    (∀ p, (skillSelection language repositories .initial).ReachableWhere
        (fun _ action => view.Does action) p → ∀ index q task, p.tasks[index]? = some task →
      task.subcategoryLoaded = some view.subcategory.id →
      p.run (turn language (repositories answeredBy)) index = some q →
        q.tasks = p.tasks.eraseIdx index ∧ ¬ q.shared.Lists answer)
    ∧ ∃ s, (skillSelection language repositories .initial).exec ⟨.initial, []⟩
        (selections view.category view.subcategory browsedBy answeredBy) = some ⟨s, []⟩
      ∧ s.Lists answer := by
  refine ⟨?_, exec_selections view.category browsedBy hanswer⟩
  intro p hp index q task htask hload hrun
  obtain ⟨hshared, htasks⟩ := (neverAsks_of_reachableWhere hp).turn_load htask hload hrun
  refine ⟨htasks, ?_⟩
  intro hlists
  rw [hshared] at hlists
  exact absurd hlists.errorMessage (Option.some_ne_none _)

def guitarView : SkillSelectionView where
  category := ⟨"music", "Music", none, 0, none⟩
  subcategory := ⟨"music_guitar", "music", "Guitar", none, 0, none, none⟩

def fingerstyle : Skill :=
  ⟨"skill_1", "music_guitar", "Fingerstyle", .intermediate, 80, none, [], none⟩

def guitarRepository : SkillRepository :=
  { SkillSelection.basicsRepository with getSkills := fun _ _ => .ok [fingerstyle] }

/-- The selections list the one skill, and the view's load, with a search ahead of it, does not. -/
theorem skills_listed_by_selection_only_of_guitar :
    (∃ q, (skillSelection "en" (fun _ => guitarRepository) .initial).exec ⟨.initial, []⟩
        [.searchSkills, guitarView.load, .run 0 0, .run 0 0] = some q
      ∧ q.tasks = [] ∧ ¬ q.shared.Lists [fingerstyle])
    ∧ ∃ s, (skillSelection "en" (fun _ => guitarRepository) .initial).exec ⟨.initial, []⟩
        (selections guitarView.category guitarView.subcategory 0 0) = some ⟨s, []⟩
      ∧ s.Lists [fingerstyle] := by
  have hanswer : guitarRepository.getSkills guitarView.subcategory.id "en" = .ok [fingerstyle] :=
    rfl
  obtain ⟨hview, hselections⟩ :=
    skills_listed_by_selection_only (fun _ => guitarRepository) 0 0 guitarView hanswer
  refine ⟨⟨_, rfl, ?_⟩, hselections⟩
  have hdoes : ∀ action ∈ [.searchSkills, guitarView.load, .run 0 0], guitarView.Does action := by
    simp [load, Does]
  have hreach : (skillSelection "en" (fun _ => guitarRepository) .initial).ReachableWhere
      (fun _ action => guitarView.Does action) _ :=
    Machine.reachableWhere_of_exec rfl [.searchSkills, guitarView.load, .run 0 0] rfl
      fun x hx => hdoes x.2.1 (Machine.label_mem_of_mem_transitions hx)
  exact hview _ hreach 0 _ _ rfl rfl rfl

/-- The view opens, and its load comes to nothing. -/
theorem opened_view_lists_nothing :
    ∃ s, (skillSelection "en" (fun _ => guitarRepository) .initial).exec ⟨.initial, []⟩
        [guitarView.load, .run 0 0] = some ⟨s, []⟩
      ∧ guitarRepository.getSkills guitarView.subcategory.id "en" = .ok [fingerstyle]
      ∧ ¬ s.Lists [fingerstyle] := by
  refine ⟨_, rfl, rfl, ?_⟩
  intro hlists
  exact absurd hlists.errorMessage (Option.some_ne_none _)

end SkillSelectionView

end SkillTalk
