import Mathlib.Data.List.DropRight

/-!
# Trimming text

A map of characters to texts that leaves spaces alone and makes no space out of anything else, nor
lets it vanish, commutes with trimming: the same spaces stand at the two ends.
-/

namespace Trimming

variable {α : Type*}

/-- The text without the spaces at its ends. -/
def trim (isSpace : α → Bool) (text : List α) : List α :=
  (text.dropWhile isSpace).rdropWhile isSpace

/-- Spaces stay, and everything else is mapped to something without a space. -/
structure KeepsSpaces (isSpace : α → Bool) (image : α → List α) : Prop where
  space : ∀ c, isSpace c = true → image c = [c]
  ne_nil : ∀ c, isSpace c = false → image c ≠ []
  no_space : ∀ c, isSpace c = false → ∀ d ∈ image c, isSpace d = false

variable {isSpace : α → Bool} {image : α → List α}

theorem KeepsSpaces.reverse (h : KeepsSpaces isSpace image) :
    KeepsSpaces isSpace (List.reverse ∘ image) := by
  constructor
  · intro c hc
    rw [Function.comp_apply, h.space c hc, List.reverse_singleton]
  · intro c hc
    exact List.reverse_ne_nil_iff.mpr (h.ne_nil c hc)
  · intro c hc d hd
    exact h.no_space c hc d (List.mem_reverse.mp hd)

theorem KeepsSpaces.image_ne_nil (h : KeepsSpaces isSpace image) (c : α) : image c ≠ [] := by
  cases hc : isSpace c with
  | true =>
      rw [h.space c hc]
      exact List.cons_ne_nil c []
  | false => exact h.ne_nil c hc

/-- Nothing vanishes. -/
theorem KeepsSpaces.flatMap_eq_nil_iff (h : KeepsSpaces isSpace image) {text : List α} :
    text.flatMap image = [] ↔ text = [] := by
  cases text with
  | nil => simp
  | cons c text => simp [h.image_ne_nil c]

theorem KeepsSpaces.dropWhile_flatMap (h : KeepsSpaces isSpace image) (text : List α) :
    (text.flatMap image).dropWhile isSpace = (text.dropWhile isSpace).flatMap image := by
  induction text with
  | nil => rfl
  | cons c text ih =>
      cases hc : isSpace c with
      | true =>
          rw [List.flatMap_cons, h.space c hc, List.singleton_append, List.dropWhile_cons_of_pos hc,
            List.dropWhile_cons_of_pos hc, ih]
      | false =>
          obtain ⟨first, rest, himage⟩ := List.exists_cons_of_ne_nil (h.ne_nil c hc)
          have hfirst : isSpace first = false :=
            h.no_space c hc first (himage ▸ List.mem_cons_self)
          rw [List.dropWhile_cons_of_neg (by simp [hc]), List.flatMap_cons, himage,
            List.cons_append, List.dropWhile_cons_of_neg (by simp [hfirst])]

theorem KeepsSpaces.rdropWhile_flatMap (h : KeepsSpaces isSpace image) (text : List α) :
    (text.flatMap image).rdropWhile isSpace = (text.rdropWhile isSpace).flatMap image := by
  calc (text.flatMap image).rdropWhile isSpace
      = ((text.flatMap image).reverse.dropWhile isSpace).reverse := by
        rw [← List.rdropWhile_reverse, List.reverse_reverse]
    _ = ((text.reverse.dropWhile isSpace).flatMap (List.reverse ∘ image)).reverse := by
        rw [List.reverse_flatMap, h.reverse.dropWhile_flatMap]
    _ = (text.reverse.dropWhile isSpace).reverse.flatMap image := by
        rw [List.flatMap_reverse]
    _ = (text.rdropWhile isSpace).flatMap image := by
        rw [← List.rdropWhile_reverse, List.reverse_reverse]

/-- **Trimming commutes with the map.** -/
theorem KeepsSpaces.trim_flatMap (h : KeepsSpaces isSpace image) (text : List α) :
    trim isSpace (text.flatMap image) = (trim isSpace text).flatMap image := by
  rw [trim, h.dropWhile_flatMap, h.rdropWhile_flatMap]
  rfl

end Trimming
