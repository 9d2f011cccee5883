import Mathlib.Data.List.Basic
import Mathlib.Data.Option.Basic

/-!
# Machines with partial labelled steps

A label is disabled in a state where its step is `none`. An invariant is proved once, over
`ReachableWhere`: the states of the runs each of whose steps is taken where a guard allows it.
Executing a list of labels gives concrete runs, and `transitions` lists what such a run did.
-/

structure Machine (State Label : Type*) where
  Init : State → Prop
  step : State → Label → Option State

namespace Machine

variable {State Label : Type*} (m : Machine State Label)

/-- The states of runs each of whose steps is taken where `allowed` holds. -/
inductive ReachableWhere (allowed : State → Label → Prop) : State → Prop
  | init {s : State} (hinit : m.Init s) : ReachableWhere allowed s
  | step {s t : State} {l : Label} (hs : ReachableWhere allowed s) (hallowed : allowed s l)
      (hstep : m.step s l = some t) : ReachableWhere allowed t

abbrev Reachable : State → Prop := m.ReachableWhere fun _ _ => True

variable {m} {allowed : State → Label → Prop}

theorem ReachableWhere.mono {allowed' : State → Label → Prop}
    (hle : ∀ s l, m.ReachableWhere allowed s → allowed s l → allowed' s l) {s : State}
    (hs : m.ReachableWhere allowed s) : m.ReachableWhere allowed' s := by
  induction hs with
  | init hinit => exact .init hinit
  | step hs hallowed hstep ih => exact .step ih (hle _ _ hs hallowed) hstep

theorem ReachableWhere.reachable {s : State} (hs : m.ReachableWhere allowed s) :
    m.Reachable s :=
  hs.mono fun _ _ _ _ => trivial

/-- What holds initially and is kept by every allowed step holds in every state reached. -/
theorem ReachableWhere.invariant (Inv : State → Prop) (hinit : ∀ s, m.Init s → Inv s)
    (hstep : ∀ s l t, m.ReachableWhere allowed s → Inv s → allowed s l → m.step s l = some t →
      Inv t)
    {s : State} (hs : m.ReachableWhere allowed s) : Inv s := by
  induction hs with
  | init h => exact hinit _ h
  | step hs hallowed h ih => exact hstep _ _ _ hs ih hallowed h

variable (m) in
def exec : State → List Label → Option State
  | s, [] => some s
  | s, l :: ls => (m.step s l).bind fun t => exec t ls

variable (m) in
/-- The steps an execution takes: the state before, the label and the state after. -/
def transitions : State → List Label → List (State × Label × State)
  | _, [] => []
  | s, l :: ls =>
      match m.step s l with
      | none => []
      | some t => (s, l, t) :: transitions t ls

@[simp]
theorem transitions_nil (s : State) : m.transitions s [] = [] := rfl

theorem transitions_cons_of_step {s t : State} {l : Label} (hstep : m.step s l = some t)
    (ls : List Label) : m.transitions s (l :: ls) = (s, l, t) :: m.transitions t ls := by
  rw [transitions, hstep]

theorem exec_cons_eq_some {s u : State} {l : Label} {ls : List Label}
    (h : m.exec s (l :: ls) = some u) : ∃ t, m.step s l = some t ∧ m.exec t ls = some u :=
  Option.bind_eq_some_iff.mp h

theorem exec_cons_of_step {s t : State} {l : Label} (hstep : m.step s l = some t)
    (ls : List Label) : m.exec s (l :: ls) = m.exec t ls := by
  rw [exec, hstep, Option.bind_some]

/-- What every step relates, a whole execution relates. -/
theorem exec_relates (R : State → State → Prop) (Good : State → Prop) (hrefl : ∀ s, R s s)
    (htrans : ∀ s t u, R s t → R t u → R s u)
    (hgood : ∀ s l t, m.step s l = some t → Good s → Good t)
    (hstep : ∀ s l t, m.step s l = some t → Good s → R s t) {ls : List Label} {s t : State}
    (hexec : m.exec s ls = some t) (hs : Good s) : R s t := by
  induction ls generalizing s with
  | nil =>
      obtain rfl := Option.some.inj hexec
      exact hrefl s
  | cons l ls ih =>
      obtain ⟨u, hfirst, hrest⟩ := exec_cons_eq_some hexec
      have hu : Good u := hgood s l u hfirst hs
      exact htrans s u t (hstep s l u hfirst hs) (ih hrest hu)

theorem exec_append (s : State) (ls ls' : List Label) :
    m.exec s (ls ++ ls') = (m.exec s ls).bind fun t => m.exec t ls' := by
  induction ls generalizing s with
  | nil => rfl
  | cons l ls ih =>
      rw [List.cons_append, exec, exec, Option.bind_assoc]
      congr 1
      funext t
      exact ih t

theorem transitions_append {s t : State} {ls : List Label} (hexec : m.exec s ls = some t)
    (ls' : List Label) : m.transitions s (ls ++ ls') = m.transitions s ls ++ m.transitions t ls' := by
  induction ls generalizing s with
  | nil =>
      obtain rfl := Option.some.inj hexec
      rfl
  | cons l ls ih =>
      obtain ⟨u, hstep, hrest⟩ := exec_cons_eq_some hexec
      rw [List.cons_append, transitions_cons_of_step hstep, transitions_cons_of_step hstep, ih hrest,
        List.cons_append]

theorem label_mem_of_mem_transitions {s : State} {ls : List Label} {x : State × Label × State}
    (hx : x ∈ m.transitions s ls) : x.2.1 ∈ ls := by
  induction ls generalizing s with
  | nil => simp at hx
  | cons l ls ih =>
      cases hstep : m.step s l with
      | none => simp [transitions, hstep] at hx
      | some t =>
          rw [transitions_cons_of_step hstep] at hx
          rcases List.mem_cons.mp hx with rfl | hx
          · exact List.mem_cons_self
          · exact List.mem_cons_of_mem _ (ih hx)

theorem ReachableWhere.exec {ls : List Label} {s t : State} (hs : m.ReachableWhere allowed s)
    (hexec : m.exec s ls = some t)
    (hallowed : ∀ x ∈ m.transitions s ls, allowed x.1 x.2.1) : m.ReachableWhere allowed t := by
  induction ls generalizing s with
  | nil => exact Option.some.inj hexec ▸ hs
  | cons l ls ih =>
      obtain ⟨u, hstep, hrest⟩ := exec_cons_eq_some hexec
      rw [transitions_cons_of_step hstep] at hallowed
      refine ih (hs.step (hallowed _ List.mem_cons_self) hstep) hrest ?_
      exact fun x hx => hallowed x (List.mem_cons_of_mem _ hx)

/-- The end of a run given by its labels. -/
theorem reachableWhere_of_exec {s t : State} (hinit : m.Init s) (ls : List Label)
    (hexec : m.exec s ls = some t)
    (hallowed : ∀ x ∈ m.transitions s ls, allowed x.1 x.2.1) : m.ReachableWhere allowed t :=
  .exec (.init hinit) hexec hallowed

theorem reachable_of_exec {ls : List Label} {s t : State} (hinit : m.Init s)
    (hexec : m.exec s ls = some t) : m.Reachable t :=
  ReachableWhere.exec (.init hinit) hexec fun _ _ => trivial

/-- A run given by its labels, its guards and its end checked by evaluation. -/
theorem exists_reachableWhere [∀ s l, Decidable (allowed s l)] {s : State} (hinit : m.Init s)
    (ls : List Label) {p : State → Bool}
    (hguards : (m.transitions s ls).all (fun x => allowed x.1 x.2.1) = true)
    (hend : (m.exec s ls).any p = true) :
    ∃ t, m.exec s ls = some t ∧ m.ReachableWhere allowed t ∧ p t = true := by
  obtain ⟨t, hexec, hp⟩ := (Option.any_eq_true _ _).mp hend
  refine ⟨t, hexec, ReachableWhere.exec (.init hinit) hexec ?_, hp⟩
  simpa using hguards

theorem mem_transitions {ls : List Label} {s : State} (hs : m.Reachable s)
    {x : State × Label × State} (hx : x ∈ m.transitions s ls) :
    m.Reachable x.1 ∧ m.step x.1 x.2.1 = some x.2.2 := by
  induction ls generalizing s with
  | nil => simp at hx
  | cons l ls ih =>
      cases hstep : m.step s l with
      | none => simp [transitions, hstep] at hx
      | some t =>
          rw [transitions_cons_of_step hstep] at hx
          rcases List.mem_cons.mp hx with rfl | hx
          · exact ⟨hs, hstep⟩
          · exact ih (hs.step trivial hstep) hx

/-- **The last marked step decides.** If a marked step establishes `P` exactly when its guard holds,
and no other step establishes or breaks `P`, then the guard of the last marked step says whether `P`
holds at the end of an execution. -/
theorem exec_iff_last {P : State → Prop} (Good : State → Prop) (marked : Label → Bool)
    (hgood : ∀ s l t, m.step s l = some t → Good s → Good t)
    (hmarked : ∀ s l t, m.step s l = some t → Good s → marked l = true → (P t ↔ allowed s l))
    (hother : ∀ s l t, m.step s l = some t → Good s → marked l = false → (P t ↔ P s))
    {ls : List Label} {s t : State} (hexec : m.exec s ls = some t) (hs : Good s) :
    P t ↔ ((m.transitions s ls).filter fun x => marked x.2.1).getLast?.elim (P s)
      fun x => allowed x.1 x.2.1 := by
  induction ls generalizing s with
  | nil =>
      obtain rfl := Option.some.inj hexec
      exact Iff.rfl
  | cons l ls ih =>
      obtain ⟨u, hstep, hrest⟩ := exec_cons_eq_some hexec
      rw [transitions_cons_of_step hstep, ih hrest (hgood s l u hstep hs)]
      cases hmark : marked l with
      | true =>
          have hiff : P u ↔ allowed s l := hmarked s l u hstep hs hmark
          rw [List.filter_cons_of_pos (by exact hmark), List.getLast?_cons]
          cases ((m.transitions u ls).filter fun x => marked x.2.1).getLast? with
          | none => exact hiff
          | some x => exact Iff.rfl
      | false =>
          have hiff : P u ↔ P s := hother s l u hstep hs hmark
          rw [List.filter_cons_of_neg (by simp [hmark]), hiff]

/-- **What is lost once is lost for good.** If a step keeps `P` exactly when its guard holds, and no
step brings `P` back, then `P` holds at the end of an execution that starts with it exactly when
every step met the guard. -/
theorem exec_iff_forall (P Good : State → Prop)
    (hgood : ∀ s l t, m.step s l = some t → Good s → Good t)
    (hkeep : ∀ s l t, m.step s l = some t → Good s → P s → (P t ↔ allowed s l))
    (hlost : ∀ s l t, m.step s l = some t → Good s → ¬ P s → ¬ P t)
    {ls : List Label} {s t : State} (hexec : m.exec s ls = some t) (hs : Good s) (hP : P s) :
    P t ↔ ∀ x ∈ m.transitions s ls, allowed x.1 x.2.1 := by
  have hstays : ∀ {ls : List Label} {s t : State}, m.exec s ls = some t → Good s → ¬ P s →
      ¬ P t :=
    exec_relates (fun s t => ¬ P s → ¬ P t) Good (fun _ => id) (fun _ _ _ hst htu => htu ∘ hst)
      hgood hlost
  induction ls generalizing s with
  | nil =>
      obtain rfl := Option.some.inj hexec
      simpa using hP
  | cons l ls ih =>
      obtain ⟨u, hstep, hrest⟩ := exec_cons_eq_some hexec
      have hu : Good u := hgood s l u hstep hs
      have hkept : P u ↔ allowed s l := hkeep s l u hstep hs hP
      rw [transitions_cons_of_step hstep, List.forall_mem_cons]
      by_cases hguard : allowed s l
      · have hrun : P t ↔ ∀ x ∈ m.transitions u ls, allowed x.1 x.2.1 :=
          ih hrest hu (hkept.mpr hguard)
        exact hrun.trans (and_iff_right hguard).symm
      · have hend : ¬ P t := hstays hrest hu fun h => hguard (hkept.mp h)
        exact iff_of_false hend fun h => hguard h.1

/-- **What a run's steps do.** If a step from a good state does what `R` says exactly when its guard
holds, and then leads to a good state, then all steps of a run from a good state do what `R` says
exactly when all meet the guard. -/
theorem forall_steps_iff (R : State → Label → State → Prop) (Good : State → Prop)
    (hgood : ∀ s l t, m.step s l = some t → Good s → R s l t → Good t)
    (hkeep : ∀ s l t, m.step s l = some t → Good s → (R s l t ↔ allowed s l))
    (ls : List Label) {s : State} (hs : Good s) :
    (∀ x ∈ m.transitions s ls, R x.1 x.2.1 x.2.2)
      ↔ ∀ x ∈ m.transitions s ls, allowed x.1 x.2.1 := by
  induction ls generalizing s with
  | nil => simp
  | cons l ls ih =>
      cases hstep : m.step s l with
      | none => simp [transitions, hstep]
      | some t =>
          rw [transitions_cons_of_step hstep, List.forall_mem_cons, List.forall_mem_cons]
          have hiff : R s l t ↔ allowed s l := hkeep s l t hstep hs
          constructor
          · rintro ⟨hR, hrest⟩
            exact ⟨hiff.mp hR, (ih (hgood s l t hstep hs hR)).mp hrest⟩
          · rintro ⟨hguard, hrest⟩
            have hR : R s l t := hiff.mpr hguard
            exact ⟨hR, (ih (hgood s l t hstep hs hR)).mpr hrest⟩

/-- **Kept all along.** If a step from a state with `P` leads to one with `P` exactly when its guard
holds, then a run from a state with `P` stays where `P` holds exactly when it meets the guard. -/
theorem forall_transitions_iff (P Good : State → Prop)
    (hgood : ∀ s l t, m.step s l = some t → Good s → P s → Good t)
    (hkeep : ∀ s l t, m.step s l = some t → Good s → P s → (P t ↔ allowed s l))
    (ls : List Label) {s : State} (hs : Good s) (hP : P s) :
    (∀ x ∈ m.transitions s ls, P x.2.2) ↔ ∀ x ∈ m.transitions s ls, allowed x.1 x.2.1 := by
  refine forall_steps_iff (fun _ _ t => P t) (fun s => Good s ∧ P s) ?_ ?_ ls ⟨hs, hP⟩
  · rintro s l t hstep ⟨hs, hP⟩ hPt
    exact ⟨hgood s l t hstep hs hP, hPt⟩
  · rintro s l t hstep ⟨hs, hP⟩
    exact hkeep s l t hstep hs hP

end Machine
