import Mathlib.Data.Multiset.MapFold
import Mathlib.Data.Multiset.UnionInter
import Mathlib.Order.Basic

/-!
# The largest entries of a collection

A collection may hold entries with equal keys, so its `limit` largest entries are determined only up
to ties: they are entries of the collection, none of which is smaller than one left out. Sorting by
key and cutting off gives such entries.
-/

namespace TopK

variable {α κ : Type*} [LinearOrder κ] (key : α → κ)

/-- The order of a sort that puts larger keys first. -/
def descendingLE (a b : α) : Bool := !decide (key b > key a)

structure IsTop (limit : ℕ) (candidates : Multiset α) (top : List α) : Prop where
  length_eq : top.length = min limit candidates.card
  largest : ∃ rest : Multiset α, top + rest = candidates ∧ ∀ a ∈ top, ∀ b ∈ rest, key b ≤ key a
  descending : top.Pairwise fun a b => key b ≤ key a

variable {key}

theorem descendingLE_iff {a b : α} : descendingLE key a b = true ↔ key b ≤ key a := by
  simp [descendingLE]

theorem descendingLE_trans (a b c : α) (hab : descendingLE key a b = true)
    (hbc : descendingLE key b c = true) : descendingLE key a c = true := by
  rw [descendingLE_iff] at hab hbc ⊢
  exact hbc.trans hab

theorem descendingLE_total (a b : α) : (descendingLE key a b || descendingLE key b a) = true := by
  rw [Bool.or_eq_true, descendingLE_iff, descendingLE_iff]
  exact le_total (key b) (key a)

variable (key) in
theorem pairwise_sort (l : List α) :
    (l.mergeSort (descendingLE key)).Pairwise fun a b => key b ≤ key a :=
  (List.pairwise_mergeSort descendingLE_trans descendingLE_total l).imp descendingLE_iff.mp

variable (key) in
/-- **Sort and cut off.** -/
theorem isTop_take_sort (limit : ℕ) (l : List α) :
    IsTop key limit l ((l.mergeSort (descendingLE key)).take limit) := by
  have hsorted := pairwise_sort key l
  have hperm : (l.mergeSort (descendingLE key)).Perm l := List.mergeSort_perm l _
  refine ⟨?_, ⟨(l.mergeSort (descendingLE key)).drop limit, ?_, ?_⟩, ?_⟩
  · rw [List.length_take, hperm.length_eq, Multiset.coe_card]
  · rw [Multiset.coe_add, List.take_append_drop]
    exact Multiset.coe_eq_coe.mpr hperm
  · intro a ha b hb
    rw [← List.take_append_drop limit (l.mergeSort _), List.pairwise_append] at hsorted
    exact hsorted.2.2 a ha b hb
  · exact hsorted.sublist (List.take_sublist limit _)

/-- Each of the largest entries is a candidate. -/
theorem IsTop.mem {limit : ℕ} {candidates : Multiset α} {top : List α}
    (h : IsTop key limit candidates top) {a : α} (ha : a ∈ top) : a ∈ candidates := by
  obtain ⟨rest, hsum, -⟩ := h.largest
  rw [← hsum, Multiset.mem_add]
  exact .inl ha

/-- The largest of candidates that `f` tells apart are distinct under `f`. -/
theorem IsTop.nodup_map {β : Type*} {f : α → β} {limit : ℕ} {candidates : Multiset α} {top : List α}
    (h : IsTop key limit candidates top) (hcandidates : (candidates.map f).Nodup) :
    (top.map f).Nodup := by
  obtain ⟨rest, hsum, -⟩ := h.largest
  have hle : ((top.map f : List β) : Multiset β) ≤ candidates.map f := by
    rw [← hsum, Multiset.map_add, Multiset.map_coe]
    exact Multiset.le_add_right _ _
  exact Multiset.coe_nodup.mp (Multiset.nodup_of_le hle hcandidates)

end TopK
