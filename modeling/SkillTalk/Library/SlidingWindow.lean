import Mathlib.Data.List.DropRight

/-!
# Sliding windows

A window keeps the newest `n` of the entries pushed into it. What a push cuts off never matters
later: after any pushes the window is the end of everything pushed. Where a property, once it holds
of an entry, holds of all later ones, the window counts it right up to `n`.
-/

namespace SlidingWindow

variable {α : Type*} {n : ℕ}

/-- Append, and cut off what is too much. -/
def push (n : ℕ) (window : List α) (entry : α) : List α :=
  if (window ++ [entry]).length > n then (window ++ [entry]).rtake n else window ++ [entry]

theorem rtake_suffix (n : ℕ) (l : List α) : l.rtake n <:+ l := List.drop_suffix _ _

theorem length_rtake (n : ℕ) (l : List α) : (l.rtake n).length = min n l.length := by
  rw [List.rtake, List.length_drop]
  omega

theorem rtake_of_length_le {l : List α} (h : l.length ≤ n) : l.rtake n = l := by
  rw [List.rtake, Nat.sub_eq_zero_of_le h, List.drop_zero]

theorem push_eq_rtake (window : List α) (entry : α) :
    push n window entry = (window ++ [entry]).rtake n := by
  unfold push
  split
  · rfl
  · rename_i hshort
    exact (rtake_of_length_le (not_lt.mp hshort)).symm

theorem rtake_rtake_succ (l : List α) : (l.rtake (n + 1)).rtake n = l.rtake n := by
  rw [List.rtake_eq_reverse_take_reverse, List.rtake_eq_reverse_take_reverse,
    List.reverse_reverse, List.take_take, Nat.min_eq_left (Nat.le_succ n),
    ← List.rtake_eq_reverse_take_reverse]

/-- **One push.** A window on the end of `l` becomes a window on the end of what has been pushed. -/
theorem push_rtake (l : List α) (entry : α) :
    push n (l.rtake n) entry = (l ++ [entry]).rtake n := by
  rw [push_eq_rtake]
  cases n with
  | zero => simp
  | succ n => rw [List.rtake_concat_succ, List.rtake_concat_succ, rtake_rtake_succ]

/-- **A window counts right up to its size** what stays true of later entries. -/
theorem countP_rtake {p : α → Bool} {l : List α}
    (hp : l.Pairwise fun earlier later => p earlier = true → p later = true) (n : ℕ) :
    (l.rtake n).countP p = min n (l.countP p) := by
  induction l using List.reverseRecOn generalizing n with
  | nil => simp
  | append_singleton l entry ih =>
      obtain ⟨hl, -, hentry⟩ := List.pairwise_append.mp hp
      cases n with
      | zero => simp
      | succ n =>
          rw [List.rtake_concat_succ, List.countP_append, List.countP_append, ih hl]
          cases hlast : p entry with
          | true =>
              rw [List.countP_singleton, if_pos hlast]
              omega
          | false =>
              -- nothing before the last entry has the property either
              have hnone : l.countP p = 0 := by
                refine List.countP_eq_zero.mpr ?_
                intro earlier hearlier hholds
                have hlater := hentry earlier hearlier entry List.mem_cons_self hholds
                rw [hlast] at hlater
                cases hlater
              rw [hnone, List.countP_singleton, hlast]
              simp

end SlidingWindow
