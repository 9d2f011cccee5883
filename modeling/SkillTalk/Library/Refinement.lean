import Mathlib.Control.Monad.Basic
import Mathlib.Logic.Basic

/-!
# Stateful computations that refine pure ones

A computation refines a pure one under an invariant when, started where the invariant holds, it
returns or throws what the pure one does and ends where the invariant holds. Sequencing and loops
keep this. A cache in front of a pure computation refines it as long as a hit is what the
computation returns. An error that no part of a computation throws is not thrown by the whole.
-/

namespace Refinement

variable {ε σ α β γ : Type}

/-- A pure outcome reached in a state. -/
def reach : Except ε α → σ → EStateM.Result ε σ α
  | .ok value, s => .ok value s
  | .error error, s => .error error s

def Refines (Inv : σ → Prop) (run : EStateM ε σ α) (spec : Except ε α) : Prop :=
  ∀ s, Inv s → ∃ t, Inv t ∧ run s = reach spec t

/-- A computation behind a cache. What throws stores nothing. -/
def cached (lookup : σ → Option α) (store : σ → α → σ) (load : Except ε α) : EStateM ε σ α :=
  fun s =>
    match lookup s with
    | some value => .ok value s
    | none =>
        match load with
        | .ok value => .ok value (store s value)
        | .error error => .error error s

variable {Inv : σ → Prop}

theorem Refines.pure (value : α) : Refines Inv (pure value : EStateM ε σ α) (pure value) := by
  intro s hs
  exact ⟨s, hs, rfl⟩

theorem Refines.throw (error : ε) : Refines Inv (throw error : EStateM ε σ α) (throw error) := by
  intro s hs
  exact ⟨s, hs, rfl⟩

theorem Refines.bind {run : EStateM ε σ α} {spec : Except ε α} {next : α → EStateM ε σ β}
    {nextSpec : α → Except ε β} (h : Refines Inv run spec)
    (hnext : ∀ value, Refines Inv (next value) (nextSpec value)) :
    Refines Inv (run >>= next) (spec >>= nextSpec) := by
  intro s hs
  obtain ⟨t, ht, hrun⟩ := h s hs
  cases spec with
  | error error =>
      refine ⟨t, ht, ?_⟩
      change EStateM.bind run next s = _
      rw [EStateM.bind, hrun]
      rfl
  | ok value =>
      obtain ⟨u, hu, hrest⟩ := hnext value t ht
      refine ⟨u, hu, ?_⟩
      change EStateM.bind run next s = _
      rw [EStateM.bind, hrun]
      exact hrest

theorem Refines.map {run : EStateM ε σ α} {spec : Except ε α} (h : Refines Inv run spec)
    (f : α → β) : Refines Inv (f <$> run) (f <$> spec) := by
  rw [map_eq_pure_bind, map_eq_pure_bind]
  exact h.bind fun value => .pure (f value)

theorem Refines.foldlM {step : β → α → EStateM ε σ β} {stepSpec : β → α → Except ε β}
    (h : ∀ acc value, Refines Inv (step acc value) (stepSpec acc value)) (acc : β)
    (values : List α) : Refines Inv (values.foldlM step acc) (values.foldlM stepSpec acc) := by
  induction values generalizing acc with
  | nil => exact .pure acc
  | cons value values ih =>
      rw [List.foldlM_cons, List.foldlM_cons]
      exact (h acc value).bind ih

/-- **A cache is transparent** when a hit is what the load returns and storing what it returns keeps
the invariant. -/
theorem Refines.cached {lookup : σ → Option α} {store : σ → α → σ} {load : Except ε α}
    (hhit : ∀ s value, Inv s → lookup s = some value → load = .ok value)
    (hstore : ∀ s value, Inv s → load = .ok value → Inv (store s value)) :
    Refines Inv (cached lookup store load) load := by
  intro s hs
  unfold Refinement.cached
  cases hlookup : lookup s with
  | some value => exact ⟨s, hs, by rw [hhit s value hs hlookup]; rfl⟩
  | none =>
      cases load with
      | ok value => exact ⟨store s value, hstore s value hs rfl, rfl⟩
      | error error => exact ⟨s, hs, rfl⟩

theorem map_eq_error {run : EStateM ε σ α} {f : α → β} {s t : σ} {error : ε}
    (h : (f <$> run) s = .error error t) : run s = .error error t := by
  change EStateM.map f run s = _ at h
  rw [EStateM.map] at h
  cases hrun : run s with
  | ok value u => simp [hrun] at h
  | error error' u => simpa [hrun] using h

theorem cached_of_error {lookup : σ → Option α} {store : σ → α → σ} {load : Except ε α}
    {s t : σ} {error : ε} (h : cached lookup store load s = .error error t) : t = s := by
  unfold cached at h
  split at h
  · cases h
  · cases load with
    | ok value => cases h
    | error error =>
        cases h
        rfl

/-- A pure loop that appends what it finds for each value. -/
theorem foldlM_append {step : List β → α → Except ε (List β)} {found : α → List β}
    (h : ∀ acc value, step acc value = .ok (acc ++ found value)) (acc : List β)
    (values : List α) : values.foldlM step acc = .ok (acc ++ values.flatMap found) := by
  induction values generalizing acc with
  | nil => simp [Pure.pure, Except.pure]
  | cons value values ih =>
      rw [List.foldlM_cons, h, List.flatMap_cons, ← List.append_assoc]
      exact ih (acc ++ found value)

/-! ### Errors that are not thrown -/

/-- The computation does not throw the error, wherever it starts. -/
def Avoids (error : ε) (run : EStateM ε σ α) : Prop := ∀ s t, run s ≠ .error error t

variable {error : ε}

theorem Avoids.pure (value : α) : Avoids error (pure value : EStateM ε σ α) := by
  intro s t h
  cases h

theorem Avoids.bind {run : EStateM ε σ α} {next : α → EStateM ε σ β} (h : Avoids error run)
    (hnext : ∀ value, Avoids error (next value)) : Avoids error (run >>= next) := by
  intro s t hthrows
  change EStateM.bind run next s = _ at hthrows
  rw [EStateM.bind] at hthrows
  cases hrun : run s with
  | ok value u =>
      rw [hrun] at hthrows
      exact hnext value u t hthrows
  | error error' u =>
      rw [hrun] at hthrows
      cases hthrows
      exact h s t hrun

theorem Avoids.map {run : EStateM ε σ α} (h : Avoids error run) (f : α → β) :
    Avoids error (f <$> run) := by
  intro s t hthrows
  exact h s t (map_eq_error hthrows)

theorem Avoids.foldlM {step : β → α → EStateM ε σ β}
    (h : ∀ acc value, Avoids error (step acc value)) (acc : β) (values : List α) :
    Avoids error (values.foldlM step acc) := by
  induction values generalizing acc with
  | nil => exact .pure acc
  | cons value values ih =>
      rw [List.foldlM_cons]
      exact (h acc value).bind ih

theorem Avoids.cached {lookup : σ → Option α} {store : σ → α → σ} {load : Except ε α}
    (h : load ≠ .error error) : Avoids error (cached lookup store load) := by
  intro s t hthrows
  unfold Refinement.cached at hthrows
  split at hthrows
  · cases hthrows
  · cases load with
    | ok value => cases hthrows
    | error error' =>
        cases hthrows
        exact h rfl

end Refinement
