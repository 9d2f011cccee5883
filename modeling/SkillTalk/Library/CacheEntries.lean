import Mathlib.Logic.Function.Basic

/-!
# What the entries of a cache satisfy

A cache is a partial map. A property of keys and values that holds of every entry goes on to hold
when an entry with it is stored, and whatever entries are dropped.
-/

namespace CacheEntries

variable {κ α : Type*}

def AllEntries (P : κ → α → Prop) (cache : κ → Option α) : Prop :=
  ∀ key value, cache key = some value → P key value

variable {P Q : κ → α → Prop} {cache : κ → Option α}

theorem AllEntries.empty : AllEntries P fun _ => none := by
  intro key value hentry
  cases hentry

theorem AllEntries.mono (h : AllEntries P cache) (hle : ∀ key value, P key value → Q key value) :
    AllEntries Q cache :=
  fun key value hentry => hle key value (h key value hentry)

theorem AllEntries.insert [DecidableEq κ] (h : AllEntries P cache) {key : κ} {value : α}
    (hvalue : P key value) : AllEntries P (Function.update cache key (some value)) := by
  intro key' value' hentry
  by_cases heq : key' = key
  · subst heq
    rw [Function.update_self] at hentry
    exact Option.some.inj hentry ▸ hvalue
  · rw [Function.update_of_ne heq] at hentry
    exact h key' value' hentry

theorem AllEntries.erase [DecidableEq κ] (h : AllEntries P cache) (key : κ) :
    AllEntries P (Function.update cache key none) := by
  intro key' value hentry
  by_cases heq : key' = key
  · subst heq
    simp at hentry
  · rw [Function.update_of_ne heq] at hentry
    exact h key' value hentry

theorem AllEntries.drop (h : AllEntries P cache) (dropped : κ → Bool) :
    AllEntries P fun key => if dropped key then none else cache key := by
  intro key value hentry
  by_cases hdropped : dropped key = true
  · simp [hdropped] at hentry
  · simp only [hdropped] at hentry
    exact h key value hentry

end CacheEntries
