import Mathlib.Logic.Basic

/-!
# The first of two sources to answer

A call may throw, and leaves a state either way. A question is put to a first source and, where it
has none or it throws, to a second one; a default stands in where neither source is there. With both
there, the default is never taken, and the second source is asked once: only what the first throws
is caught.
-/

/-- A call that may throw, from the state it meets to the state it leaves. -/
abbrev Throwing (σ ε : Type) := ExceptT ε (StateM σ)

namespace FirstAnswer

variable {σ ε α : Type}

/-- The call of a source that may not be there. -/
def optionally : Option (Throwing σ ε α) → Throwing σ ε (Option α)
  | none => pure none
  | some call => some <$> call

def firstAnswer (standIn : α) (first second : Option (Throwing σ ε α)) : Throwing σ ε α :=
  tryCatch
    (do
      match ← optionally first with
      | some answer => return answer
      | none =>
          match ← optionally second with
          | some answer => return answer
          | none => return standIn)
    fun _ => do
      match ← optionally second with
      | some answer => return answer
      | none => return standIn

/-- A source that is there answers with what its call comes to, or its call throws. -/
theorem optionally_some (call otherwise : Throwing σ ε α) :
    (do
      match ← optionally (some call) with
      | some answer => return answer
      | none => otherwise) = call := by
  rw [optionally, bind_map_left]
  exact bind_pure call

/-- **With both sources there**, the second is asked where the first throws. -/
theorem firstAnswer_some (standIn : α) (first second : Throwing σ ε α) :
    firstAnswer standIn (some first) (some second) = tryCatch first fun _ => second := by
  rw [firstAnswer, optionally_some, optionally_some]

theorem tryCatch_apply (first : Throwing σ ε α) (handler : ε → Throwing σ ε α) (s : σ) :
    tryCatch first handler s
      = match first s with
        | (.ok answer, t) => (.ok answer, t)
        | (.error error, t) => handler error t := by
  change (match (first s).1 with
    | .ok answer => (pure (.ok answer) : StateM σ (Except ε α))
    | .error error => handler error) (first s).2 = _
  rcases first s with ⟨_ | _, t⟩ <;> rfl

end FirstAnswer
