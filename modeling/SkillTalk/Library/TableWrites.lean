import SkillTalk.Library.TaskPool

/-!
# Tables that tasks write

Each task of a pool writes one key of a table, and tasks with the same key write the same value in
the end. Then what the table comes to hold does not depend on the order of the turns: a key that
some task has yet to write will hold its final value, and every other key holds it already.
-/

namespace TaskPool

variable {Shared Task κ α : Type*}

/-- A turn leaves the other keys alone, and its own once the task has written it. The last turn
before that leaves the final value. -/
structure Writes (turn : Shared → Task → Shared × Option Task) (Valid : Task → Prop) (key : Task → κ)
    (Pending : Task → Prop) (target : κ → α) (table : Shared → κ → α) : Prop where
  valid : ∀ s task, Valid task → ∀ next ∈ (turn s task).2, Valid next
  keyed : ∀ s task, ∀ next ∈ (turn s task).2, key next = key task
  other : ∀ s task k, key task ≠ k → table (turn s task).1 k = table s k
  written : ∀ s task, Valid task → ¬ Pending task →
    table (turn s task).1 (key task) = table s (key task)
      ∧ ∀ next ∈ (turn s task).2, ¬ Pending next
  writing : ∀ s task, Valid task → Pending task →
    (∃ next ∈ (turn s task).2, Pending next)
      ∨ table (turn s task).1 (key task) = target (key task)

open Classical in
/-- What the table comes to hold under a key. -/
noncomputable def outcome (key : Task → κ) (Pending : Task → Prop) (target : κ → α)
    (table : Shared → κ → α) (p : TaskPool Shared Task) (k : κ) : α :=
  if ∃ task ∈ p.tasks, key task = k ∧ Pending task then target k else table p.shared k

variable {turn : Shared → Task → Shared × Option Task} {Valid : Task → Prop} {key : Task → κ}
  {Pending : Task → Prop} {target : κ → α} {table : Shared → κ → α} {p q : TaskPool Shared Task}

theorem outcome_of_pending {k : κ} (h : ∃ task ∈ p.tasks, key task = k ∧ Pending task) :
    outcome key Pending target table p k = target k :=
  if_pos h

theorem outcome_of_not_pending {k : κ} (h : ¬ ∃ task ∈ p.tasks, key task = k ∧ Pending task) :
    outcome key Pending target table p k = table p.shared k :=
  if_neg h

theorem outcome_of_finished (h : p.tasks = []) (k : κ) :
    outcome key Pending target table p k = table p.shared k := by
  apply outcome_of_not_pending
  simp [h]

/-- **The outcome does not change.** -/
theorem Writes.outcome_run (hw : Writes turn Valid key Pending target table)
    (hvalid : ∀ task ∈ p.tasks, Valid task) {index : ℕ} (h : run turn p index = some q) (k : κ) :
    outcome key Pending target table q k = outcome key Pending target table p k := by
  obtain ⟨before, task, after, -, htasks, hq⟩ := run_eq_some h
  by_cases hothers : ∃ other ∈ before ++ after, key other = k ∧ Pending other
  · obtain ⟨other, hmem, hother⟩ := hothers
    have hp : other ∈ p.tasks := by
      rw [htasks]
      grind
    have hmem' : other ∈ q.tasks := by
      rw [hq]
      grind
    rw [outcome_of_pending ⟨other, hp, hother⟩, outcome_of_pending ⟨other, hmem', hother⟩]
  · have hp : (∃ other ∈ p.tasks, key other = k ∧ Pending other) ↔ key task = k ∧ Pending task := by
      rw [htasks]
      grind
    have hq' : (∃ other ∈ q.tasks, key other = k ∧ Pending other)
        ↔ ∃ next ∈ (turn p.shared task).2, key next = k ∧ Pending next := by
      rw [hq]
      simp only [List.mem_append, Option.mem_toList, Option.mem_def]
      grind
    have hshared : q.shared = (turn p.shared task).1 := by rw [hq]
    have htask : Valid task := hvalid task (by simp [htasks])
    by_cases hkey : key task = k
    · subst hkey
      by_cases hpending : Pending task
      · rw [outcome_of_pending (hp.mpr ⟨rfl, hpending⟩)]
        by_cases hnext : ∃ next ∈ (turn p.shared task).2, Pending next
        · obtain ⟨next, hmem, hnext⟩ := hnext
          exact outcome_of_pending (hq'.mpr ⟨next, hmem, hw.keyed _ _ next hmem, hnext⟩)
        · rw [outcome_of_not_pending, hshared]
          · exact (hw.writing _ task htask hpending).resolve_left hnext
          · rw [hq']
            exact fun ⟨next, hmem, _, hnext'⟩ => hnext ⟨next, hmem, hnext'⟩
      · obtain ⟨htable, hnext⟩ := hw.written p.shared task htask hpending
        rw [outcome_of_not_pending, outcome_of_not_pending, hshared, htable]
        · exact fun h => hpending (hp.mp h).2
        · rw [hq']
          exact fun ⟨next, hmem, _, hnext'⟩ => hnext next hmem hnext'
    · rw [outcome_of_not_pending, outcome_of_not_pending, hshared, hw.other _ _ _ hkey]
      · exact fun h => hkey (hp.mp h).1
      · rw [hq']
        exact fun ⟨next, hmem, hkey', _⟩ => hkey ((hw.keyed _ _ next hmem).symm.trans hkey')

theorem Writes.valid_run (hw : Writes turn Valid key Pending target table)
    (hvalid : ∀ task ∈ p.tasks, Valid task) {index : ℕ} (h : run turn p index = some q) :
    ∀ task ∈ q.tasks, Valid task :=
  forall_of_run (T := fun _ => Valid) h (fun task => hw.valid _ task) (fun _ _ _ h => h) hvalid

theorem Writes.outcome_exec (hw : Writes turn Valid key Pending target table)
    {start : TaskPool Shared Task} (hvalid : ∀ task ∈ p.tasks, Valid task) {indices : List ℕ}
    (h : (machine turn start).exec p indices = some q) (k : κ) :
    outcome key Pending target table q k = outcome key Pending target table p k :=
  Machine.exec_relates
    (fun p q => outcome key Pending target table q k = outcome key Pending target table p k)
    (fun p => ∀ task ∈ p.tasks, Valid task) (fun _ => rfl)
    (fun _ _ _ hfirst hrest => hrest.trans hfirst)
    (fun _ _ _ hstep hvalid => hw.valid_run hvalid hstep)
    (fun _ _ _ hstep hvalid => hw.outcome_run hvalid hstep k) h hvalid

/-- **Order independence.** Any two runs to the end leave the same table. -/
theorem Writes.table_eq_of_finished (hw : Writes turn Valid key Pending target table)
    {start p q r : TaskPool Shared Task} (hvalid : ∀ task ∈ p.tasks, Valid task)
    {indices indices' : List ℕ} (hq : (machine turn start).exec p indices = some q)
    (hr : (machine turn start).exec p indices' = some r) (hqtasks : q.tasks = [])
    (hrtasks : r.tasks = []) : table q.shared = table r.shared := by
  funext k
  calc
    table q.shared k = outcome key Pending target table q k := (outcome_of_finished hqtasks k).symm
    _ = outcome key Pending target table p k := hw.outcome_exec hvalid hq k
    _ = outcome key Pending target table r k := (hw.outcome_exec hvalid hr k).symm
    _ = table r.shared k := outcome_of_finished hrtasks k

end TaskPool
