import Mathlib.Data.List.Basic
import Mathlib.Data.List.Count
import Mathlib.Data.List.Nodup

/-!
# Ranks in a stable sort

A stable sort puts one entry of a list before another when it compares lower, or when the two tie
and it came first. The rank of an entry is the number of entries put before it, so cutting the
sorted list off keeps the entries of small rank.
-/

namespace StableRank

variable {α : Type*}

/-! ### Lists in strict order -/

section

variable {R : α → α → Prop} [DecidableRel R]

/-- In a list in strict order, the entries of a prefix are those that few entries precede. -/
theorem take_eq_filter {l : List α} (hirrefl : ∀ x, ¬ R x x) (hasymm : ∀ x y, R x y → ¬ R y x)
    (hl : l.Pairwise R) (n : ℕ) :
    l.take n = l.filter fun x => l.countP (fun y => R y x) < n := by
  induction l generalizing n with
  | nil => simp
  | cons a l ih =>
      obtain ⟨ha, hrest⟩ := List.pairwise_cons.mp hl
      have hzero : (a :: l).countP (fun y => R y a) = 0 := by
        rw [List.countP_eq_zero]
        intro y hy
        rcases List.mem_cons.mp hy with rfl | hy
        · simpa using hirrefl y
        · simpa using hasymm a y (ha y hy)
      have hsucc : ∀ x ∈ l, (a :: l).countP (fun y => R y x) = l.countP (fun y => R y x) + 1 := by
        intro x hx
        exact List.countP_cons_of_pos (by simpa using ha x hx)
      cases n with
      | zero => simp
      | succ n =>
          have hfilter : (l.filter fun x => (a :: l).countP (fun y => R y x) < n + 1)
              = l.filter fun x => l.countP (fun y => R y x) < n := by
            apply List.filter_congr
            intro x hx
            rw [hsucc x hx]
            simp
          rw [List.take_succ_cons, ih hrest n, List.filter_cons_of_pos (by simp [hzero]), hfilter]

end

/-! ### Stable sorts -/

variable (le : α → α → Bool)

/-- The first entry is put before the second; entries come with their positions. -/
def Before (x y : α × ℕ) : Prop := le x.1 y.1 = true ∧ (le y.1 x.1 = true → x.2 < y.2)

instance : DecidableRel (Before le) := fun _ _ => inferInstanceAs (Decidable (_ ∧ _))

def rank (l : List α) (x : α × ℕ) : ℕ := l.zipIdx.countP fun y => Before le y x

variable {le} {l : List α}

theorem before_irrefl (x : α × ℕ) : ¬ Before le x x := by
  rintro ⟨hle, hlt⟩
  exact absurd (hlt hle) (Nat.lt_irrefl _)

theorem before_asymm (x y : α × ℕ) (hxy : Before le x y) : ¬ Before le y x := by
  intro hyx
  have hlt : x.2 < y.2 := hxy.2 hyx.1
  have hgt : y.2 < x.2 := hyx.2 hxy.1
  omega

/-- Of two equal entries, the one that comes first ranks no higher. -/
theorem rank_mono {a : α} {i j : ℕ} (hij : i ≤ j) : rank le l (a, i) ≤ rank le l (a, j) := by
  apply List.countP_mono_left
  intro y _ hy
  obtain ⟨hle, hlt⟩ := of_decide_eq_true hy
  refine decide_eq_true ⟨hle, fun hback => ?_⟩
  have hpos : y.2 < i := hlt hback
  exact Nat.lt_of_lt_of_le hpos hij

variable (htrans : ∀ a b c, le a b = true → le b c = true → le a c = true)
  (htotal : ∀ a b, (le a b || le b a) = true)

include htrans htotal in
theorem pairwise_before (l : List α) :
    (l.zipIdx.mergeSort (List.zipIdxLE le)).Pairwise (Before le) := by
  have hsorted : (l.zipIdx.mergeSort (List.zipIdxLE le)).Pairwise
      fun x y => List.zipIdxLE le x y = true :=
    List.pairwise_mergeSort (List.zipIdxLE_trans htrans) (List.zipIdxLE_total htotal) _
  have hpositions : (l.zipIdx.mergeSort (List.zipIdxLE le)).Pairwise fun x y => x.2 ≠ y.2 := by
    rw [← List.pairwise_map (f := Prod.snd) (R := fun i j => i ≠ j)]
    have hperm := (List.mergeSort_perm l.zipIdx (List.zipIdxLE le)).map Prod.snd
    exact hperm.nodup_iff.mpr (by simp [List.zipIdx_map_snd, List.nodup_range'])
  refine (hsorted.and hpositions).imp ?_
  rintro x y ⟨hle, hne⟩
  unfold List.zipIdxLE at hle
  by_cases hxy : le x.1 y.1 = true
  · by_cases hyx : le y.1 x.1 = true
    · rw [if_pos hxy, if_pos hyx] at hle
      have hpos : x.2 ≤ y.2 := of_decide_eq_true hle
      exact ⟨hxy, fun _ => by omega⟩
    · exact ⟨hxy, fun h => absurd h hyx⟩
  · rw [if_neg hxy] at hle
    cases hle

include htrans htotal in
/-- **What a cut keeps.** A value occurs in the first `n` of the sorted list as often as it occurs
with a rank below `n`. -/
theorem count_take_mergeSort [DecidableEq α] (l : List α) (n : ℕ) (a : α) :
    ((l.mergeSort le).take n).count a
      = l.zipIdx.countP fun x => x.1 = a ∧ rank le l x < n := by
  have hperm := List.mergeSort_perm l.zipIdx (List.zipIdxLE le)
  have hrank : ∀ x, (l.zipIdx.mergeSort (List.zipIdxLE le)).countP (fun y => Before le y x)
      = rank le l x := fun x => hperm.countP_eq _
  calc ((l.mergeSort le).take n).count a
      = ((l.zipIdx.mergeSort (List.zipIdxLE le)).take n).countP (fun x => x.1 = a) := by
        rw [← List.mergeSort_zipIdx, ← List.map_take, List.count, List.countP_map]
        apply List.countP_congr
        intro x _
        simp
    _ = ((l.zipIdx.mergeSort (List.zipIdxLE le)).filter fun x => rank le l x < n).countP
          (fun x => x.1 = a) := by
        rw [take_eq_filter before_irrefl before_asymm (pairwise_before htrans htotal l)]
        simp only [hrank]
    _ = l.zipIdx.countP fun x => x.1 = a ∧ rank le l x < n := by
        rw [List.countP_filter, hperm.countP_eq]
        simp

/-! ### Values listed once -/

/-- The entry's value does not occur before it. -/
def First (l : List α) (x : α × ℕ) : Prop := x.1 ∉ l.take x.2

variable [DecidableEq α]

theorem first_iff {a : α} {i : ℕ} (hi : l[i]? = some a) : First l (a, i) ↔ i = l.idxOf a := by
  have ha : a ∈ l := List.mem_of_getElem? hi
  have hmem : a ∈ l.take (i + 1) := by
    rw [List.take_add_one, hi]
    simp
  have hle : l.idxOf a < i + 1 := (List.mem_take_iff_idxOf_lt ha).mp hmem
  rw [First, List.mem_take_iff_idxOf_lt ha]
  omega

include htrans htotal in
/-- **Listed once.** A value is kept exactly once when its first entry is kept and no other is. -/
theorem count_take_eq_one_iff {a : α} (ha : a ∈ l) (n : ℕ) :
    ((l.mergeSort le).take n).count a = 1
      ↔ ∀ i, l[i]? = some a → (rank le l (a, i) < n ↔ First l (a, i)) := by
  rw [count_take_mergeSort htrans htotal, List.countP_eq_length_filter]
  have hnodup : (l.zipIdx.filter fun x => x.1 = a ∧ rank le l x < n).Nodup := by
    apply List.Nodup.filter
    exact List.Nodup.of_map Prod.snd (by simp [List.zipIdx_map_snd, List.nodup_range'])
  have hmem : ∀ x, x ∈ l.zipIdx.filter (fun x => x.1 = a ∧ rank le l x < n)
      ↔ l[x.2]? = some a ∧ x.1 = a ∧ rank le l x < n := by
    intro x
    rw [List.mem_filter, List.mem_zipIdx_iff_getElem?]
    grind
  have hfirst : l[l.idxOf a]? = some a := List.getElem?_idxOf ha
  constructor
  · intro hone i hi
    obtain ⟨x, hx⟩ := List.length_eq_one_iff.mp hone
    obtain ⟨hget, hvalue, hlt⟩ := (hmem x).mp (hx ▸ List.mem_singleton_self x)
    have hle : l.idxOf a ≤ x.2 := by
      have hmem : a ∈ l.take (x.2 + 1) := by
        rw [List.take_add_one, hget]
        simp
      exact Nat.le_of_lt_succ ((List.mem_take_iff_idxOf_lt ha).mp hmem)
    have hkept : rank le l (a, l.idxOf a) < n := by
      have hmono : rank le l (a, l.idxOf a) ≤ rank le l (a, x.2) := rank_mono hle
      rw [show (a, x.2) = x from Prod.ext hvalue.symm rfl] at hmono
      omega
    rw [first_iff hi]
    constructor
    · intro hi'
      have h : (a, i) ∈ [x] := hx ▸ (hmem (a, i)).mpr ⟨hi, rfl, hi'⟩
      have h' : (a, l.idxOf a) ∈ [x] := hx ▸ (hmem _).mpr ⟨hfirst, rfl, hkept⟩
      rw [List.mem_singleton] at h h'
      exact congrArg Prod.snd (h.trans h'.symm)
    · rintro rfl
      exact hkept
  · intro hranks
    apply List.length_eq_one_iff.mpr
    refine ⟨(a, l.idxOf a), ?_⟩
    apply List.perm_singleton.mp
    rw [List.perm_ext_iff_of_nodup hnodup (List.nodup_singleton _)]
    intro x
    rw [hmem, List.mem_singleton]
    constructor
    · rintro ⟨hget, hvalue, hlt⟩
      have hx : x = (a, x.2) := Prod.ext hvalue rfl
      rw [hx] at hlt
      rw [hx, (first_iff hget).mp ((hranks x.2 hget).mp hlt)]
    · rintro rfl
      exact ⟨hfirst, rfl, (hranks _ hfirst).mpr ((first_iff hfirst).mpr rfl)⟩

end StableRank
