import Mathlib.Data.List.Basic

/-!
# Filtered lists

Two filters of one list, compared by what they let through.
-/

namespace FilteredLists

variable {α β : Type*} {p q : α → Bool} {l : List α}

theorem filter_sublist_filter_iff :
    (l.filter p).Sublist (l.filter q) ↔ ∀ x ∈ l, p x = true → q x = true := by
  constructor
  · intro hsub x hx hp
    have hmem : x ∈ l.filter q := hsub.subset (List.mem_filter.mpr ⟨hx, hp⟩)
    exact (List.mem_filter.mp hmem).2
  · intro himp
    have hboth : l.filter p = (l.filter q).filter p := by
      rw [List.filter_filter]
      apply List.filter_congr
      intro x hx
      cases hp : p x with
      | false => rfl
      | true => rw [himp x hx hp, Bool.and_self]
    rw [hboth]
    exact List.filter_sublist

/-- Images tell two filters apart when one lets through what the other does: there are more of
them. -/
theorem map_filter_eq_iff (f : α → β) (hpq : ∀ x ∈ l, p x = true → q x = true) :
    (l.filter p).map f = (l.filter q).map f ↔ ∀ x ∈ l, q x = true → p x = true := by
  rw [← filter_sublist_filter_iff]
  constructor
  · intro himages
    have hlength : (l.filter p).length = (l.filter q).length := by
      simpa only [List.length_map] using congrArg List.length himages
    have hsame : l.filter p = l.filter q :=
      (filter_sublist_filter_iff.mpr hpq).eq_of_length hlength
    exact hsame ▸ .refl _
  · intro hsub
    rw [(filter_sublist_filter_iff.mpr hpq).antisymm hsub]

end FilteredLists
