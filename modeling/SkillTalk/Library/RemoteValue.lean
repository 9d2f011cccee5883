import SkillTalk.Library.TaskPool

/-!
# A remote value and its local copy

A change of the value is applied remotely when it is called, and to the local copy when it is
answered. Other tasks may send a value that replaces the remote one, or bring one that replaces
the copy. The value is accounted for while the copy and the last change completed are in step with
the remote value, or while a change that carries the remote value is still to be answered. This
lasts as long as no task sends or brings anything that is out of date.
-/

structure RemoteValue (Shared Task α : Type*) where
  remote : Shared → α
  copy : Shared → Option α
  completed : Shared → α
  -- the value of a change that has been called and not answered
  carried : Task → Option α
  -- what the turn of a task replaces the remote value with, other than by a change
  sent : Task → Option α
  -- what the turn of a task replaces the copy with
  brought : Task → Option α

namespace RemoteValue

open TaskPool

variable {Shared Task α : Type*} (v : RemoteValue Shared Task α)

structure InStep (s : Shared) : Prop where
  copy : v.copy s = some (v.remote s)
  completed : v.completed s = v.remote s

def Due (s : Shared) (task : Task) : Prop := v.carried task = some (v.remote s)

def Accounted (p : TaskPool Shared Task) : Prop := p.Owed v.InStep v.Due

/-- What a turn does to the value. -/
inductive Turn (s t : Shared) (task : Task) (next : Option Task) : Prop
  | frame (hremote : v.remote t = v.remote s) (hcopy : v.copy t = v.copy s)
      (hcompleted : v.completed t = v.completed s) (hcarried : v.carried task = none)
      (hsent : v.sent task = none) (hbrought : v.brought task = none)
  | call (hcopy : v.copy t = v.copy s) (hcarried : v.carried task = none)
      (hsent : v.sent task = none) (hbrought : v.brought task = none)
      (hnext : ∃ called ∈ next, v.carried called = some (v.remote t))
  | send (hcopy : v.copy t = v.copy s) (hcompleted : v.completed t = v.completed s)
      (hcarried : v.carried task = none) (hsent : v.sent task = some (v.remote t))
      (hbrought : v.brought task = none)
  | refresh (value : α) (hremote : v.remote t = v.remote s) (hcopy : v.copy t = some value)
      (hcompleted : v.completed t = v.completed s) (hcarried : v.carried task = none)
      (hsent : v.sent task = none) (hbrought : v.brought task = some value)
  | answer (value : α) (hremote : v.remote t = v.remote s) (hcopy : v.copy t = some value)
      (hcompleted : v.completed t = value) (hsent : v.sent task = none)
      (hbrought : v.brought task = some value)

/-- The task sends the remote value itself, and brings it too unless a change carries it. -/
def Current (p : TaskPool Shared Task) (index : ℕ) : Prop :=
  ∀ task ∈ p.tasks[index]?, (∀ value ∈ v.sent task, value = v.remote p.shared)
    ∧ ∀ value ∈ v.brought task, value = v.remote p.shared
      ∨ ∃ other ∈ p.tasks.eraseIdx index, v.Due p.shared other

instance [DecidableEq α] (s : Shared) (task : Task) : Decidable (v.Due s task) :=
  inferInstanceAs (Decidable (_ = _))

instance [DecidableEq α] (p : TaskPool Shared Task) (index : ℕ) : Decidable (v.Current p index) :=
  inferInstanceAs (Decidable (∀ task ∈ p.tasks[index]?, _ ∧ _))

variable {v} {turn : Shared → Task → Shared × Option Task} {p q : TaskPool Shared Task} {index : ℕ}

/-- A copy that is there is never taken away. -/
theorem Turn.copy_ne_none {s t : Shared} {task : Task} {next : Option Task}
    (h : v.Turn s t task next) (hs : v.copy s ≠ none) : v.copy t ≠ none := by
  cases h with
  | frame _ hcopy _ _ _ _ => exact hcopy ▸ hs
  | call hcopy _ _ _ _ => exact hcopy ▸ hs
  | send hcopy _ _ _ _ => exact hcopy ▸ hs
  | refresh value _ hcopy _ _ _ _ => exact hcopy ▸ Option.some_ne_none value
  | answer value _ hcopy _ _ _ => exact hcopy ▸ Option.some_ne_none value

theorem Accounted.inStep (h : v.Accounted p)
    (hreturned : ∀ task ∈ p.tasks, v.carried task = none) : v.InStep p.shared := by
  rcases h with h | ⟨task, hmem, hdue⟩
  · exact h
  · rw [Due, hreturned task hmem] at hdue
    cases hdue

/-- Where the value is left alone, tasks may be added. -/
theorem Accounted.frame (h : v.Accounted p) (hremote : v.remote q.shared = v.remote p.shared)
    (hcopy : v.copy q.shared = v.copy p.shared)
    (hcompleted : v.completed q.shared = v.completed p.shared)
    (htasks : ∀ task ∈ p.tasks, task ∈ q.tasks) : v.Accounted q := by
  rcases h with ⟨hcopied, hdone⟩ | ⟨task, hmem, hdue⟩
  · exact .inl ⟨by rw [hcopy, hcopied, hremote], by rw [hcompleted, hdone, hremote]⟩
  · exact .inr ⟨task, htasks task hmem, by rw [Due, hremote]; exact hdue⟩

/-- **One turn.** -/
theorem Accounted.of_run (h : v.Accounted p) (hrun : run turn p index = some q)
    (hturn : ∀ task, p.tasks[index]? = some task →
      v.Turn p.shared (turn p.shared task).1 task (turn p.shared task).2)
    (hcurrent : v.Current p index) : v.Accounted q := by
  obtain ⟨task, htask, hshared, hbefore, hafter⟩ := exists_of_run hrun
  obtain ⟨hsends, hbrings⟩ := hcurrent task htask
  have hrest : ∀ other ∈ p.tasks.eraseIdx index, other ∈ q.tasks :=
    fun other hmem => (hafter other).mpr (.inr hmem)
  -- the tasks that stay are due as long as the remote value stays
  have hstays : v.carried task = none → v.remote q.shared = v.remote p.shared →
      (∃ other ∈ p.tasks, v.Due p.shared other) → ∃ other ∈ q.tasks, v.Due q.shared other := by
    rintro hcarried hremote ⟨other, hmem, hdue⟩
    refine ⟨other, hrest other ?_, by rw [Due, hremote]; exact hdue⟩
    rcases (hbefore other).mp hmem with rfl | hmem
    · rw [Due, hcarried] at hdue
      cases hdue
    · exact hmem
  have hothers : v.remote q.shared = v.remote p.shared →
      (∃ other ∈ p.tasks.eraseIdx index, v.Due p.shared other) →
      ∃ other ∈ q.tasks, v.Due q.shared other := by
    rintro hremote ⟨other, hmem, hdue⟩
    exact ⟨other, hrest other hmem, by rw [Due, hremote]; exact hdue⟩
  have hcase := hturn task htask
  rw [← hshared] at hcase
  cases hcase with
  | frame hremote hcopy hcompleted hcarried hsent hbrought =>
      rcases h with ⟨hcopied, hdone⟩ | hdue
      · exact .inl ⟨by rw [hcopy, hcopied, hremote], by rw [hcompleted, hdone, hremote]⟩
      · exact .inr (hstays hcarried hremote hdue)
  | call hcopy hcarried hsent hbrought hnext =>
      obtain ⟨called, hmem, hcalled⟩ := hnext
      exact .inr ⟨called, (hafter called).mpr (.inl hmem), hcalled⟩
  | send hcopy hcompleted hcarried hsent hbrought =>
      have hremote : v.remote q.shared = v.remote p.shared := hsends _ hsent
      rcases h with ⟨hcopied, hdone⟩ | hdue
      · exact .inl ⟨by rw [hcopy, hcopied, hremote], by rw [hcompleted, hdone, hremote]⟩
      · exact .inr (hstays hcarried hremote hdue)
  | refresh value hremote hcopy hcompleted hcarried hsent hbrought =>
      rcases hbrings value hbrought with hvalue | hdue
      · rcases h with ⟨hcopied, hdone⟩ | hdue
        · exact .inl ⟨by rw [hcopy, hvalue, hremote], by rw [hcompleted, hdone, hremote]⟩
        · exact .inr (hstays hcarried hremote hdue)
      · exact .inr (hothers hremote hdue)
  | answer value hremote hcopy hcompleted hsent hbrought =>
      rcases hbrings value hbrought with hvalue | hdue
      · exact .inl ⟨by rw [hcopy, hvalue, hremote], by rw [hcompleted, hvalue, hremote]⟩
      · exact .inr (hothers hremote hdue)

/-- **The last turn.** Where no change is left to be answered, nothing less will do. -/
theorem Accounted.inStep_iff_current (h : v.Accounted p) (hrun : run turn p index = some q)
    (hturn : ∀ task, p.tasks[index]? = some task →
      v.Turn p.shared (turn p.shared task).1 task (turn p.shared task).2)
    (hreturned : ∀ task ∈ q.tasks, v.carried task = none) :
    v.InStep q.shared ↔ v.Current p index := by
  refine ⟨fun hstep => ?_, fun hcurrent => (h.of_run hrun hturn hcurrent).inStep hreturned⟩
  obtain ⟨task, htask, hshared, hbefore, hafter⟩ := exists_of_run hrun
  have hquiet : v.carried task = none → v.InStep p.shared := by
    intro hcarried
    refine h.inStep fun other hmem => ?_
    rcases (hbefore other).mp hmem with rfl | hmem
    · exact hcarried
    · exact hreturned other ((hafter other).mpr (.inr hmem))
  intro task' htask'
  obtain rfl : task = task' := Option.some.inj (htask.symm.trans htask')
  have hcase := hturn task htask
  rw [← hshared] at hcase
  cases hcase with
  | frame hremote hcopy hcompleted hcarried hsent hbrought => simp [hsent, hbrought]
  | call hcopy hcarried hsent hbrought hnext => simp [hsent, hbrought]
  | send hcopy hcompleted hcarried hsent hbrought =>
      have hbefore : v.InStep p.shared := hquiet hcarried
      have hremote : v.remote q.shared = v.remote p.shared := by
        rw [← hstep.completed, hcompleted, hbefore.completed]
      simp [hsent, hbrought, hremote]
  | refresh value hremote hcopy hcompleted hcarried hsent hbrought =>
      have hvalue : value = v.remote p.shared := by
        rw [← hremote, ← Option.some.injEq, ← hcopy, hstep.copy]
      simp [hsent, hbrought, hvalue]
  | answer value hremote hcopy hcompleted hsent hbrought =>
      have hvalue : value = v.remote p.shared := by
        rw [← hremote, ← hstep.completed, hcompleted]
      simp [hsent, hbrought, hvalue]

end RemoteValue
