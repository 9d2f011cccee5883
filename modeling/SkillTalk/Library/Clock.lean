import Mathlib.Algebra.Order.BigOperators.Group.List
import Mathlib.Algebra.Order.Ring.Rat
import Mathlib.Data.Nat.Cast.Order.Ring

/-!
# Clocks

A clock is what a program sees of time: one reading after another, none before an earlier one.
-/

structure Clock (Time : Type*) [Preorder Time] where
  reading : ℕ → Time
  monotone : Monotone reading

namespace Clock

section StopAt

variable {Time : Type*} [Preorder Time] {clock : Clock Time} {n : ℕ} {time : Time}

/-- The clock as it goes before a reading, standing at the given time from then on. -/
def stopAt (clock : Clock Time) (n : ℕ) (time : Time) (h : ∀ m < n, clock.reading m ≤ time) :
    Clock Time where
  reading m := if m < n then clock.reading m else time
  monotone := by
    intro earlier later hle
    by_cases hlater : later < n
    · simpa [hlater, hle.trans_lt hlater] using clock.monotone hle
    · by_cases hearlier : earlier < n
      · simpa [hlater, hearlier] using h earlier hearlier
      · simp [hlater, hearlier]

theorem reading_stopAt_of_lt (h : ∀ m < n, clock.reading m ≤ time) {m : ℕ} (hm : m < n) :
    (clock.stopAt n time h).reading m = clock.reading m := if_pos hm

theorem reading_stopAt_self (h : ∀ m < n, clock.reading m ≤ time) :
    (clock.stopAt n time h).reading n = time := if_neg (lt_irrefl n)

end StopAt

/-- The clock whose readings are the given numbers of seconds apart, and which stands still after
the last of them. -/
def ofGaps (gaps : List ℕ) : Clock ℚ where
  reading n := (gaps.take (n + 1)).sum
  monotone := by
    intro earlier later hle
    have hprefix : gaps.take (earlier + 1) <+: gaps.take (later + 1) :=
      List.take_prefix_take_left (by omega)
    have hsum : (gaps.take (earlier + 1)).sum ≤ (gaps.take (later + 1)).sum :=
      hprefix.sublist.sum_le_sum fun gap _ => Nat.zero_le gap
    simpa using (Nat.cast_le (α := ℚ)).mpr hsum

end Clock
