import Mathlib.Data.Int.Log
import Mathlib.Data.Rat.Floor
import Mathlib.Tactic.Linarith
import Mathlib.Tactic.NormNum
import Mathlib.Tactic.Positivity

/-!
# Rounding to 53 bits

Binary floating point rounds an exact result to the nearest number with a significand of 53 bits,
and of two as near to the one whose last bit is zero. Numbers are rationals here and exponents are
unbounded, so nothing overflows and nothing is subnormal. What a sum or an average of numbers below
a bound can come to is bounded in turn: by the bound itself where it is a small whole number, and
else up to the errors of the roundings on the way.
-/

namespace Binary64

def roundEven (q : ℚ) : ℤ :=
  if 1 / 2 < Int.fract q ∨ Int.fract q = 1 / 2 ∧ ⌊q⌋ % 2 = 1 then ⌊q⌋ + 1 else ⌊q⌋

/-- The distance of the numbers around `q` that have 53 bits. -/
def ulp (q : ℚ) : ℚ := 2 ^ (Int.log 2 |q| - 52)

def round (q : ℚ) : ℚ := roundEven (q / ulp q) * ulp q

/-- The numbers are rounded and added from the left, and each sum is rounded. -/
def sum (numbers : List ℚ) : ℚ :=
  numbers.foldl (fun total number => round (total + round number)) 0

def average (numbers : List ℚ) : ℚ := round (sum numbers / numbers.length)

/-! ### One rounding -/

theorem abs_roundEven_sub_le (q : ℚ) : |roundEven q - q| ≤ 1 / 2 := by
  have hq : q = ⌊q⌋ + Int.fract q := (Int.floor_add_fract q).symm
  have hnonneg := Int.fract_nonneg q
  unfold roundEven
  split
  · rename_i hup
    have hhalf : 1 / 2 ≤ Int.fract q := hup.elim le_of_lt fun h => h.1.ge
    have hlt := Int.fract_lt_one q
    push_cast
    rw [abs_le]
    constructor <;> linarith
  · rename_i hdown
    have hhalf : Int.fract q ≤ 1 / 2 := not_lt.mp fun h => hdown (.inl h)
    rw [abs_le]
    constructor <;> linarith

theorem roundEven_le {q : ℚ} {n : ℤ} (h : q ≤ n) : roundEven q ≤ n := by
  have hfloor : ⌊q⌋ ≤ n := Int.cast_le.mp ((Int.floor_le q).trans h)
  unfold roundEven
  split
  · rename_i hup
    have hfract : 0 < Int.fract q :=
      hup.elim (fun h => lt_trans (by norm_num) h) fun h => h.1 ▸ by norm_num
    have hlt : (⌊q⌋ : ℚ) < n := by
      have hq := Int.floor_add_fract q
      linarith
    exact Int.add_one_le_iff.mpr (Int.cast_lt.mp hlt)
  · exact hfloor

theorem ulp_pos (q : ℚ) : 0 < ulp q := zpow_pos two_pos _

theorem ulp_le {q : ℚ} (h : q ≠ 0) : ulp q ≤ |q| / 2 ^ 52 := by
  have hlog : (2 : ℚ) ^ Int.log 2 |q| ≤ |q| := Int.zpow_log_le_self one_lt_two (abs_pos.mpr h)
  rw [ulp, zpow_sub₀ two_ne_zero]
  exact div_le_div_of_nonneg_right hlog (by positivity)

@[simp]
theorem round_zero : round 0 = 0 := by
  have hzero : roundEven 0 = 0 := by simp [roundEven]
  simp [round, hzero]

theorem abs_round_sub_le (q : ℚ) : |round q - q| ≤ |q| / 2 ^ 53 := by
  by_cases hq : q = 0
  · simp [hq]
  · have hpos := ulp_pos q
    calc |round q - q| = |(roundEven (q / ulp q) - q / ulp q) * ulp q| := by
          rw [sub_mul, div_mul_cancel₀ _ hpos.ne', round]
      _ = |roundEven (q / ulp q) - q / ulp q| * ulp q := by rw [abs_mul, abs_of_pos hpos]
      _ ≤ 1 / 2 * (|q| / 2 ^ 52) :=
          mul_le_mul (abs_roundEven_sub_le _) (ulp_le hq) hpos.le (by norm_num)
      _ = |q| / 2 ^ 53 := by ring

/-- A rounding passes a bound by no more than its error at the bound. -/
theorem round_le_mul {q bound : ℚ} (hbound : 0 ≤ bound) (h : q ≤ bound) :
    round q ≤ bound * (1 + 1 / 2 ^ 53) := by
  have herror := (abs_le.mp (abs_round_sub_le q)).2
  rcases le_total 0 q with hq | hq
  · rw [abs_of_nonneg hq] at herror
    linarith
  · rw [abs_of_nonpos hq] at herror
    linarith

/-- No rounding passes a small whole number. -/
theorem round_le_natCast {q : ℚ} {n : ℕ} (hn : n < 2 ^ 53) (h : q ≤ n) : round q ≤ n := by
  rcases le_or_gt q 0 with hq | hq
  · have hbound : roundEven (q / ulp q) ≤ 0 := by
      refine roundEven_le ?_
      rw [Int.cast_zero]
      exact div_nonpos_of_nonpos_of_nonneg hq (ulp_pos q).le
    have hround : round q ≤ 0 :=
      mul_nonpos_of_nonpos_of_nonneg (by exact_mod_cast hbound) (ulp_pos q).le
    exact hround.trans n.cast_nonneg
  · have hlog : Int.log 2 |q| ≤ 52 := by
      have hlt : |q| < ((2 : ℕ) : ℚ) ^ (53 : ℤ) := by
        rw [abs_of_pos hq]
        refine h.trans_lt ?_
        exact_mod_cast hn
      exact Int.lt_add_one_iff.mp ((Int.lt_zpow_iff_log_lt one_lt_two (abs_pos.mpr hq.ne')).mp hlt)
    -- below `2 ^ 53` every whole number is a multiple of the distance
    obtain ⟨k, hk⟩ : ∃ k : ℕ, Int.log 2 |q| - 52 = -(k : ℤ) :=
      ⟨(52 - Int.log 2 |q|).toNat, by omega⟩
    have hulp : ulp q * 2 ^ k = 1 := by
      rw [ulp, hk, zpow_neg, zpow_natCast]
      exact inv_mul_cancel₀ (by positivity)
    have hbound : roundEven (q / ulp q) ≤ (n * 2 ^ k : ℤ) := by
      refine roundEven_le ?_
      rw [div_le_iff₀ (ulp_pos q)]
      push_cast
      calc q ≤ n := h
        _ = n * 2 ^ k * ulp q := by rw [mul_assoc, mul_comm (2 ^ k), hulp, mul_one]
    calc round q ≤ (n * 2 ^ k : ℤ) * ulp q :=
          mul_le_mul_of_nonneg_right (Int.cast_le.mpr hbound) (ulp_pos q).le
      _ = n := by
          push_cast
          rw [mul_assoc, mul_comm (2 ^ k), hulp, mul_one]

/-! ### Sums and averages -/

@[simp]
theorem sum_nil : sum [] = 0 := rfl

@[simp]
theorem sum_concat (numbers : List ℚ) (number : ℚ) :
    sum (numbers ++ [number]) = round (sum numbers + round number) := by
  simp [sum]

theorem sum_le_natCast {numbers : List ℚ} {bound : ℕ} (h : ∀ number ∈ numbers, number ≤ bound)
    (hsmall : numbers.length * bound < 2 ^ 53) : sum numbers ≤ (numbers.length * bound : ℕ) := by
  induction numbers using List.reverseRecOn with
  | nil => simp
  | append_singleton numbers number ih =>
      obtain ⟨hall, hlast⟩ := List.forall_mem_append.mp h
      rw [List.length_append, List.length_singleton, Nat.add_one_mul] at hsmall ⊢
      have hsum : sum numbers ≤ (numbers.length * bound : ℕ) := ih hall (by omega)
      have hround : round number ≤ bound :=
        round_le_natCast (by omega) (hlast number (List.mem_singleton_self _))
      rw [sum_concat]
      refine round_le_natCast hsmall ?_
      rw [Nat.cast_add]
      exact add_le_add hsum hround

/-- An average of numbers up to a small whole number does not pass it. -/
theorem average_le_natCast {numbers : List ℚ} {bound : ℕ} (h : ∀ number ∈ numbers, number ≤ bound)
    (hsmall : numbers.length * bound < 2 ^ 53) : average numbers ≤ bound := by
  rcases Nat.eq_zero_or_pos numbers.length with hempty | hpos
  · simp [average, hempty]
  · have hcast : (0 : ℚ) < numbers.length := by exact_mod_cast hpos
    refine round_le_natCast (lt_of_le_of_lt (Nat.le_mul_of_pos_left _ hpos) hsmall) ?_
    rw [div_le_iff₀ hcast, mul_comm]
    exact_mod_cast sum_le_natCast h hsmall

theorem sum_le_mul {numbers : List ℚ} {bound : ℚ} (hbound : 0 ≤ bound)
    (h : ∀ number ∈ numbers, number ≤ bound) :
    sum numbers ≤ numbers.length * bound * (1 + 1 / 2 ^ 53) ^ (numbers.length + 1) := by
  induction numbers using List.reverseRecOn with
  | nil => simp
  | append_singleton numbers number ih =>
      obtain ⟨hall, hlast⟩ := List.forall_mem_append.mp h
      have hround : round number ≤ bound * (1 + 1 / 2 ^ 53) :=
        round_le_mul hbound (hlast number (List.mem_singleton_self _))
      have hgrows : bound * (1 + 1 / 2 ^ 53) ≤ bound * (1 + 1 / 2 ^ 53) ^ (numbers.length + 1) :=
        mul_le_mul_of_nonneg_left (le_self_pow₀ (by norm_num) (Nat.succ_ne_zero _)) hbound
      have htotal : sum numbers + round number
          ≤ (numbers.length + 1) * bound * (1 + 1 / 2 ^ 53) ^ (numbers.length + 1) := by
        have hsum := ih hall
        linarith
      rw [sum_concat, List.length_append, List.length_singleton, Nat.cast_add, Nat.cast_one,
        pow_succ _ (numbers.length + 1), ← mul_assoc]
      exact round_le_mul (by positivity) htotal

/-- An average passes a bound of its numbers by no more than the roundings on the way to it. -/
theorem average_le_mul {numbers : List ℚ} {bound : ℚ} (hbound : 0 ≤ bound)
    (h : ∀ number ∈ numbers, number ≤ bound) :
    average numbers ≤ bound * (1 + 1 / 2 ^ 53) ^ (numbers.length + 2) := by
  rcases Nat.eq_zero_or_pos numbers.length with hempty | hpos
  · simp only [average, hempty, Nat.cast_zero, div_zero, round_zero]
    positivity
  · have hcast : (0 : ℚ) < numbers.length := by exact_mod_cast hpos
    rw [pow_succ, ← mul_assoc]
    refine round_le_mul (by positivity) ?_
    rw [div_le_iff₀ hcast]
    exact (sum_le_mul hbound h).trans_eq (by ring)

/-- Three tenths average to more than a tenth. -/
example : round (1 / 10) < average [1 / 10, 1 / 10, 1 / 10] := by decide +kernel

end Binary64
