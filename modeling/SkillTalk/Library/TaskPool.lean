import Mathlib.Algebra.BigOperators.Group.List.Basic
import Mathlib.Algebra.GroupWithZero.Nat
import Mathlib.Data.List.Perm.Basic
import Mathlib.Logic.Relation
import SkillTalk.Library.Machine

/-!
# Pools of tasks

Tasks share a state and take turns in any order. A turn changes the shared state and leaves its task
waiting for another turn, or ends it. A property of the waiting tasks is kept when each turn keeps
it for its own task and disturbs no other. What the state owes may be due from a waiting task, and
is owed until some task has paid it.
-/

structure TaskPool (Shared Task : Type*) where
  shared : Shared
  tasks : List Task

namespace TaskPool

variable {Shared Task ι : Type*}

def add (p : TaskPool Shared Task) (task : Task) : TaskPool Shared Task where
  shared := p.shared
  tasks := p.tasks ++ [task]

def run (turn : Shared → Task → Shared × Option Task) (p : TaskPool Shared Task) (index : ℕ) :
    Option (TaskPool Shared Task) :=
  p.tasks[index]?.map fun task =>
    let (shared, next) := turn p.shared task
    ⟨shared, p.tasks.take index ++ next.toList ++ p.tasks.drop (index + 1)⟩

/-- The runs of a pool to which no task is added. -/
def machine (turn : Shared → Task → Shared × Option Task) (start : TaskPool Shared Task) :
    Machine (TaskPool Shared Task) ℕ where
  Init p := p = start
  step := run turn

variable {turn : Shared → Task → Shared × Option Task} {p q : TaskPool Shared Task} {index : ℕ}

theorem run_eq_some (h : run turn p index = some q) :
    ∃ before task after, p.tasks[index]? = some task ∧ p.tasks = before ++ task :: after
      ∧ q = ⟨(turn p.shared task).1, before ++ (turn p.shared task).2.toList ++ after⟩ := by
  obtain ⟨task, htask, hq⟩ := Option.map_eq_some_iff.mp h
  obtain ⟨hlt, hget⟩ := List.getElem?_eq_some_iff.mp htask
  refine ⟨p.tasks.take index, task, p.tasks.drop (index + 1), htask, ?_, hq.symm⟩
  rw [← hget, List.getElem_cons_drop, List.take_append_drop]

/-- The task whose turn it was, and the tasks before and after by membership. -/
theorem exists_of_run (h : run turn p index = some q) :
    ∃ task, p.tasks[index]? = some task ∧ q.shared = (turn p.shared task).1
      ∧ (∀ other, other ∈ p.tasks ↔ other = task ∨ other ∈ p.tasks.eraseIdx index)
      ∧ ∀ other, other ∈ q.tasks
          ↔ other ∈ (turn p.shared task).2 ∨ other ∈ p.tasks.eraseIdx index := by
  obtain ⟨task, htask, hq⟩ := Option.map_eq_some_iff.mp h
  obtain ⟨hlt, hget⟩ := List.getElem?_eq_some_iff.mp htask
  refine ⟨task, htask, by rw [← hq], ?_, ?_⟩
  · intro other
    rw [← (List.getElem_cons_eraseIdx_perm hlt).mem_iff, List.mem_cons, hget]
  · intro other
    rw [← hq, List.eraseIdx_eq_take_drop_succ]
    simp only [List.mem_append, Option.mem_toList]
    tauto

theorem tasks_of_run_ended (h : run turn p index = some q)
    (hended : ∀ task ∈ p.tasks[index]?, (turn p.shared task).2 = none) :
    q.tasks = p.tasks.eraseIdx index := by
  obtain ⟨task, htask, hq⟩ := Option.map_eq_some_iff.mp h
  rw [← hq, List.eraseIdx_eq_take_drop_succ]
  simp [hended task htask]

/-- The turn of the task between these. -/
theorem run_between (turn : Shared → Task → Shared × Option Task) (shared : Shared)
    (before : List Task) (task : Task) (after : List Task) :
    run turn ⟨shared, before ++ task :: after⟩ before.length
      = some ⟨(turn shared task).1, before ++ (turn shared task).2.toList ++ after⟩ := by
  have hget : (before ++ task :: after)[before.length]? = some task := by simp
  have hafter : (before ++ task :: after).drop (before.length + 1) = after := by
    rw [List.append_cons]
    exact List.drop_left' (by simp)
  rw [run, hget, Option.map_some, List.take_left, hafter]

/-- The turn of the task created last. -/
theorem run_last (turn : Shared → Task → Shared × Option Task) (shared : Shared)
    (tasks : List Task) (task : Task) :
    run turn ⟨shared, tasks ++ [task]⟩ tasks.length
      = some ⟨(turn shared task).1, tasks ++ (turn shared task).2.toList⟩ := by
  rw [run_between, List.append_nil]

theorem exists_run (turn : Shared → Task → Shared × Option Task) (h : p.tasks ≠ []) :
    ∃ q, run turn p 0 = some q := by
  cases htasks : p.tasks with
  | nil => exact absurd htasks h
  | cons task tasks =>
      unfold run
      simp [htasks]

/-! ### What a turn keeps -/

/-- **Non-interference.** -/
theorem forall_of_run {T : Shared → Task → Prop} (h : run turn p index = some q)
    (hturn : ∀ task, T p.shared task → ∀ next ∈ (turn p.shared task).2,
      T (turn p.shared task).1 next)
    (hother : ∀ task other, T p.shared task → T p.shared other → T (turn p.shared task).1 other)
    (hall : ∀ task ∈ p.tasks, T p.shared task) : ∀ task ∈ q.tasks, T q.shared task := by
  obtain ⟨before, task, after, -, htasks, rfl⟩ := run_eq_some h
  rw [htasks] at hall
  have htask : T p.shared task := hall task (by simp)
  intro other hmem
  simp only [List.mem_append, Option.mem_toList] at hmem
  rcases hmem with (hmem | hmem) | hmem
  · exact hother task other htask (hall other (by simp [hmem]))
  · exact hturn task htask other hmem
  · exact hother task other htask (hall other (by simp [hmem]))

/-- **Conservation.** What is done and what waits make up the same list in every order of turns, if
each turn only moves the name of its task. -/
theorem perm_of_run (done : Shared → List ι) {name : Task → ι} (h : run turn p index = some q)
    (hturn : ∀ task ∈ p.tasks,
      (done (turn p.shared task).1 ++ (turn p.shared task).2.toList.map name).Perm
        (done p.shared ++ [name task])) :
    (done q.shared ++ q.tasks.map name).Perm (done p.shared ++ p.tasks.map name) := by
  obtain ⟨before, task, after, -, htasks, rfl⟩ := run_eq_some h
  have hmoved : ∀ done names : List ι, (done ++ (before.map name ++ (names ++ after.map name))).Perm
      (done ++ names ++ (before.map name ++ after.map name)) := by
    intro done names
    rw [List.append_assoc done names]
    exact (List.perm_append_comm_assoc _ _ _).append_left done
  rw [htasks, List.append_assoc, List.map_append, List.map_append, List.map_append, List.map_cons]
  have hafter := (hturn task (by simp [htasks])).append_right (before.map name ++ after.map name)
  exact (hmoved _ _).trans (hafter.trans (hmoved _ [name task]).symm)

def weight (measure : Task → ℕ) (p : TaskPool Shared Task) : ℕ := (p.tasks.map measure).sum

theorem weight_of_run {measure : Task → ℕ} (h : run turn p index = some q)
    (hturn : ∀ task, (((turn p.shared task).2.toList).map measure).sum < measure task) :
    q.weight measure < p.weight measure := by
  obtain ⟨before, task, after, -, htasks, rfl⟩ := run_eq_some h
  have hlt := hturn task
  simp only [weight, htasks, List.map_append, List.map_cons, List.sum_append, List.sum_cons]
  omega

/-- A pool whose tasks each have finitely many turns left runs for no longer. -/
theorem length_add_weight_le {measure : Task → ℕ}
    (hturn : ∀ s task, (((turn s task).2.toList).map measure).sum < measure task)
    {start : TaskPool Shared Task} {indices : List ℕ} {p q : TaskPool Shared Task}
    (hexec : (machine turn start).exec p indices = some q) :
    indices.length + q.weight measure ≤ p.weight measure := by
  induction indices generalizing p with
  | nil =>
      obtain rfl := Option.some.inj hexec
      simp
  | cons index indices ih =>
      obtain ⟨t, hstep, hrest⟩ := Machine.exec_cons_eq_some hexec
      have hlt : t.weight measure < p.weight measure := weight_of_run hstep (hturn p.shared)
      have hle : indices.length + q.weight measure ≤ t.weight measure := ih hrest
      rw [List.length_cons]
      omega

/-! ### Where turns can lead -/

/-- Turns lead from one pool to the other. -/
def Runs (turn : Shared → Task → Shared × Option Task) :
    TaskPool Shared Task → TaskPool Shared Task → Prop :=
  Relation.ReflTransGen fun p q => ∃ index, run turn p index = some q

theorem runs_between (shared : Shared) (before : List Task) (task : Task) (after : List Task) :
    Runs turn ⟨shared, before ++ task :: after⟩
      ⟨(turn shared task).1, before ++ (turn shared task).2.toList ++ after⟩ :=
  .single ⟨before.length, run_between turn shared before task after⟩

theorem exists_exec_of_runs (h : Runs turn p q) (start : TaskPool Shared Task) :
    ∃ indices, (machine turn start).exec p indices = some q := by
  induction h using Relation.ReflTransGen.head_induction_on with
  | refl => exact ⟨[], rfl⟩
  | head hrun _ ih =>
      obtain ⟨index, hrun⟩ := hrun
      obtain ⟨indices, hexec⟩ := ih
      exact ⟨index :: indices, Option.bind_eq_some_iff.mpr ⟨_, hrun, hexec⟩⟩

section Finishing

variable {measure : Task → ℕ}
  (hturn : ∀ s task, (((turn s task).2.toList).map measure).sum < measure task)
  {K : Shared → Prop} {T : Task → Prop}
  (hkeep : ∀ s task, K s → T task → K (turn s task).1 ∧ ∀ next ∈ (turn s task).2, T next)

include hturn hkeep

/-- A task with finitely many turns left can run to its end while the others wait. -/
theorem exists_runs_ended (before after : List Task) {task : Task} {s : Shared} (hs : K s)
    (htask : T task) :
    ∃ t, K t ∧ Runs turn ⟨s, before ++ task :: after⟩ ⟨t, before ++ after⟩ := by
  induction hn : measure task using Nat.strongRecOn generalizing task s with
  | _ n ih =>
      obtain ⟨hkept, hnext⟩ := hkeep s task hs htask
      have hfirst : Runs turn ⟨s, before ++ task :: after⟩
          ⟨(turn s task).1, before ++ (turn s task).2.toList ++ after⟩ :=
        runs_between s before task after
      cases hcase : (turn s task).2 with
      | none =>
          rw [hcase] at hfirst
          exact ⟨_, hkept, by simpa using hfirst⟩
      | some next =>
          have hlt : measure next < n := by
            have := hturn s task
            rw [hcase] at this
            simpa [hn] using this
          obtain ⟨t, ht, hruns⟩ := ih _ hlt hkept (hnext next hcase) rfl
          rw [hcase, Option.toList_some, List.append_assoc, List.singleton_append] at hfirst
          exact ⟨t, ht, Relation.ReflTransGen.trans hfirst hruns⟩

/-- **Any tasks may wait until the others have run to their end.** -/
theorem exists_runs_sublist {kept tasks : List Task} (hsub : kept.Sublist tasks)
    (before : List Task) {s : Shared} (hs : K s) (htasks : ∀ task ∈ tasks, T task) :
    ∃ t, K t ∧ Runs turn ⟨s, before ++ tasks⟩ ⟨t, before ++ kept⟩ := by
  induction hsub generalizing before s with
  | slnil => exact ⟨s, hs, .refl⟩
  | @cons kept tasks task _ ih =>
      obtain ⟨htask, htasks⟩ := List.forall_mem_cons.mp htasks
      obtain ⟨u, hu, hended⟩ := exists_runs_ended hturn hkeep before tasks hs htask
      obtain ⟨t, ht, hruns⟩ := ih before hu htasks
      exact ⟨t, ht, Relation.ReflTransGen.trans hended hruns⟩
  | @cons_cons kept tasks task _ ih =>
      obtain ⟨-, htasks⟩ := List.forall_mem_cons.mp htasks
      obtain ⟨t, ht, hruns⟩ := ih (before ++ [task]) hs htasks
      exact ⟨t, ht, by simpa using hruns⟩

end Finishing

/-- Of two tasks each may be the one to wait longer. -/
theorem exists_runs_pair {measure : Task → ℕ}
    (hturn : ∀ s task, (((turn s task).2.toList).map measure).sum < measure task) {x y : Task}
    (hne : x ≠ y) (hx : x ∈ p.tasks) (hy : y ∈ p.tasks) :
    ∃ t, Runs turn p ⟨t, [x, y]⟩ ∨ Runs turn p ⟨t, [y, x]⟩ := by
  have hwait : ∀ kept : List Task, kept.Sublist p.tasks → ∃ t, Runs turn p ⟨t, kept⟩ := by
    intro kept hsub
    obtain ⟨t, -, hruns⟩ := exists_runs_sublist (K := fun _ => True) (T := fun _ => True) hturn
      (fun _ _ _ _ => ⟨trivial, fun _ _ => trivial⟩) hsub [] trivial fun _ _ => trivial
    exact ⟨t, hruns⟩
  obtain ⟨before, after, hsplit⟩ := List.append_of_mem hx
  rw [hsplit, List.mem_append, List.mem_cons] at hy
  rcases hy with hy | rfl | hy
  · have hsub : [y, x].Sublist p.tasks := by
      rw [hsplit]
      exact (List.singleton_sublist.mpr hy).append (List.singleton_sublist.mpr List.mem_cons_self)
    obtain ⟨t, hruns⟩ := hwait [y, x] hsub
    exact ⟨t, .inr hruns⟩
  · exact absurd rfl hne
  · have hsub : [x, y].Sublist p.tasks := by
      rw [hsplit]
      exact ((List.singleton_sublist.mpr hy).cons_cons x).trans (List.sublist_append_right _ _)
    obtain ⟨t, hruns⟩ := hwait [x, y] hsub
    exact ⟨t, .inl hruns⟩

/-- A pool of such tasks can always run to its end. -/
theorem exists_exec_finished {measure : Task → ℕ}
    (hturn : ∀ s task, (((turn s task).2.toList).map measure).sum < measure task)
    (start p : TaskPool Shared Task) :
    ∃ indices q, (machine turn start).exec p indices = some q ∧ q.tasks = [] := by
  obtain ⟨t, -, hruns⟩ := exists_runs_sublist (K := fun _ => True) (T := fun _ => True) hturn
    (fun _ _ _ _ => ⟨trivial, fun _ _ => trivial⟩) (List.nil_sublist p.tasks) [] trivial
    fun _ _ => trivial
  obtain ⟨indices, hexec⟩ := exists_exec_of_runs hruns start
  exact ⟨indices, _, hexec, rfl⟩

/-! ### What is owed -/

/-- It holds, or a waiting task is due to bring it about. -/
def Owed (Paid : Shared → Prop) (Due : Shared → Task → Prop) (p : TaskPool Shared Task) : Prop :=
  Paid p.shared ∨ ∃ task ∈ p.tasks, Due p.shared task

variable {Paid : Shared → Prop} {Due : Shared → Task → Prop}

/-- At the end nothing is due any more. -/
theorem Owed.paid (h : p.Owed Paid Due) (htasks : p.tasks = []) : Paid p.shared := by
  rcases h with h | ⟨task, hmem, -⟩
  · exact h
  · simp [htasks] at hmem

theorem Owed.add (h : p.Owed Paid Due) (task : Task) : (p.add task).Owed Paid Due := by
  rcases h with h | ⟨other, hmem, hdue⟩
  · exact .inl h
  · exact .inr ⟨other, List.mem_append_left _ hmem, hdue⟩

/-- What is owed before a turn is owed after it and the other way round, if this is so of its own
task and the turn neither makes other tasks due nor relieves them. -/
theorem owed_run_iff (h : run turn p index = some q)
    (hother : ∀ task other, p.tasks[index]? = some task →
      (Due (turn p.shared task).1 other ↔ Due p.shared other))
    (hturn : ∀ task, p.tasks[index]? = some task →
      ((Paid (turn p.shared task).1
          ∨ ∃ next ∈ (turn p.shared task).2, Due (turn p.shared task).1 next)
        ↔ (Paid p.shared ∨ Due p.shared task))) : q.Owed Paid Due ↔ p.Owed Paid Due := by
  obtain ⟨before, task, after, htask, htasks, hq⟩ := run_eq_some h
  have hp : p.Owed Paid Due
      ↔ (Paid p.shared ∨ Due p.shared task) ∨ ∃ other ∈ before ++ after, Due p.shared other := by
    rw [Owed, htasks]
    simp only [List.mem_append, List.mem_cons]
    grind
  rw [hp, ← hturn task htask, hq, Owed]
  simp only [List.mem_append, Option.mem_toList, Option.mem_def, hother task _ htask]
  grind

/-- **A debt outlives a turn** that leaves the other tasks due, if its own task pays, stays due, or
leaves alone what is paid, or if some other task is due in the end. -/
theorem Owed.of_run (howed : p.Owed Paid Due) (h : run turn p index = some q)
    (hother : ∀ task other, p.tasks[index]? = some task → Due p.shared other →
      Due (turn p.shared task).1 other)
    (hturn : ∀ task, p.tasks[index]? = some task → Paid p.shared ∨ Due p.shared task →
      Paid (turn p.shared task).1
        ∨ (∃ next ∈ (turn p.shared task).2, Due (turn p.shared task).1 next)
        ∨ ∃ other ∈ q.tasks, Due q.shared other) : q.Owed Paid Due := by
  obtain ⟨before, task, after, htask, htasks, hq⟩ := run_eq_some h
  have hown : Paid p.shared ∨ Due p.shared task → q.Owed Paid Due := by
    intro hcase
    rcases hturn task htask hcase with hpaid | ⟨next, hnext, hdue⟩ | ⟨other, hmem, hdue⟩
    · exact .inl (by rw [hq]; exact hpaid)
    · refine .inr ⟨next, ?_, ?_⟩ <;> rw [hq]
      · simp [Option.mem_def.mp hnext]
      · exact hdue
    · exact .inr ⟨other, hmem, hdue⟩
  rcases howed with hpaid | ⟨other, hmem, hdue⟩
  · exact hown (.inl hpaid)
  · rw [htasks] at hmem
    rcases List.mem_append.mp hmem with hmem | hmem
    · exact .inr ⟨other, by simp [hq, hmem], by rw [hq]; exact hother task other htask hdue⟩
    · rcases List.mem_cons.mp hmem with hmem | hmem
      · exact hown (.inr (hmem ▸ hdue))
      · exact .inr ⟨other, by simp [hq, hmem], by rw [hq]; exact hother task other htask hdue⟩

/-- Where what is due does not depend on the state, no turn disturbs another task, and a task may
end unpaid while another one is due. -/
theorem Owed.of_run_ended {Due : Task → Prop} (howed : p.Owed Paid fun _ => Due)
    (h : run turn p index = some q)
    (hturn : ∀ task, p.tasks[index]? = some task → Paid p.shared ∨ Due task →
      Paid (turn p.shared task).1 ∨ (∃ next ∈ (turn p.shared task).2, Due next)
        ∨ (turn p.shared task).2 = none ∧ ∃ other ∈ p.tasks.eraseIdx index, Due other) :
    q.Owed Paid fun _ => Due := by
  refine howed.of_run h (fun _ _ _ hdue => hdue) fun task htask hcase => ?_
  rcases hturn task htask hcase with hpaid | hnext | ⟨hended, hother⟩
  · exact .inl hpaid
  · exact .inr (.inl hnext)
  · have htasks : q.tasks = p.tasks.eraseIdx index := by
      refine tasks_of_run_ended h fun task' htask' => ?_
      rw [htask] at htask'
      exact Option.some.inj htask' ▸ hended
    rw [htasks]
    exact .inr (.inr hother)

end TaskPool
