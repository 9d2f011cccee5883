import Mathlib.Data.List.Basic

/-!
# Texts joined by a separator

A text made by joining two parts with a separator determines the parts as soon as the separator
cannot occur in one of them: the first occurrence splits the text if it is not in the first part,
and the last one if it is not in the second. Parts that both contain it can be cut in more than one
way.
-/

namespace JoinedText

variable {α : Type*} {sep : α} {a b l m : List α}

theorem inj_of_not_mem_first (ha : sep ∉ a) (hb : sep ∉ b) (h : a ++ sep :: l = b ++ sep :: m) :
    a = b ∧ l = m := by
  rcases List.append_eq_append_iff.mp h with ⟨rest, hb', hrest⟩ | ⟨rest, ha', hrest⟩
  · cases rest with
    | nil => simpa [eq_comm] using And.intro hb' hrest
    | cons c rest =>
        obtain ⟨rfl, -⟩ := List.cons.inj hrest
        exact absurd (hb' ▸ by simp) hb
  · cases rest with
    | nil => simpa [eq_comm] using And.intro ha' hrest
    | cons c rest =>
        obtain ⟨rfl, -⟩ := List.cons.inj hrest
        exact absurd (ha' ▸ by simp) ha

theorem inj_of_not_mem_last (hl : sep ∉ l) (hm : sep ∉ m) (h : a ++ sep :: l = b ++ sep :: m) :
    a = b ∧ l = m := by
  have hreverse : l.reverse ++ sep :: a.reverse = m.reverse ++ sep :: b.reverse := by
    simpa using congrArg List.reverse h
  have hparts : l.reverse = m.reverse ∧ a.reverse = b.reverse :=
    inj_of_not_mem_first (by simpa using hl) (by simpa using hm) hreverse
  exact ⟨List.reverse_injective hparts.2, List.reverse_injective hparts.1⟩

variable {text : String} {c : Char} {s t u v : String}

/-- A text of one character separates strings as its character separates lists. -/
theorem toList_joined (htext : text.toList = [c]) (s u : String) :
    (s ++ text ++ u).toList = s.toList ++ c :: u.toList := by
  simp [htext]

theorem string_inj_of_not_mem_first (htext : text.toList = [c]) (hs : c ∉ s.toList)
    (ht : c ∉ t.toList) (h : s ++ text ++ u = t ++ text ++ v) : s = t ∧ u = v := by
  have hlist : s.toList ++ c :: u.toList = t.toList ++ c :: v.toList := by
    rw [← toList_joined htext, ← toList_joined htext, h]
  have hparts : s.toList = t.toList ∧ u.toList = v.toList := inj_of_not_mem_first hs ht hlist
  exact ⟨String.toList_injective hparts.1, String.toList_injective hparts.2⟩

theorem string_inj_of_not_mem_last (htext : text.toList = [c]) (hu : c ∉ u.toList)
    (hv : c ∉ v.toList) (h : s ++ text ++ u = t ++ text ++ v) : s = t ∧ u = v := by
  have hlist : s.toList ++ c :: u.toList = t.toList ++ c :: v.toList := by
    rw [← toList_joined htext, ← toList_joined htext, h]
  have hparts : s.toList = t.toList ∧ u.toList = v.toList := inj_of_not_mem_last hu hv hlist
  exact ⟨String.toList_injective hparts.1, String.toList_injective hparts.2⟩

end JoinedText
