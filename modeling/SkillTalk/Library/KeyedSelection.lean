import Mathlib.Data.List.Nodup

/-!
# Selections by key

A selection is a list of values with distinct keys, such as the choices of a user. Code may look for
a value whole where the selection goes by its key. Both come to the same as long as the selection
holds no other value under the key.
-/

namespace KeyedSelection

variable {α κ : Type*} (key : α → κ)

/-- No two entries have the same key. -/
def Distinct (l : List α) : Prop := (l.map key).Nodup

/-- An entry has the key of the value. -/
def Holds (l : List α) (x : α) : Prop := ∃ y ∈ l, key y = key x

/-- What has the key of the value is the value. -/
def Agrees (l : List α) (x : α) : Prop := ∀ y ∈ l, key y = key x → y = x

/-- The value is added or what has its key is removed, and the rest stays as it is. -/
structure Toggles [DecidableEq κ] (before : List α) (x : α) (after : List α) : Prop where
  added : ¬ Holds key before x → x ∈ after
  removed : Holds key before x → ¬ Holds key after x
  others : (after.filter fun y => key y != key x) = before.filter fun y => key y != key x

variable {key} {l : List α} {x : α}

theorem Distinct.nil : Distinct key [] := List.nodup_nil

theorem Distinct.filter (h : Distinct key l) (p : α → Bool) : Distinct key (l.filter p) :=
  h.sublist (List.filter_sublist.map key)

theorem Distinct.eq_of_key (h : Distinct key l) {y z : α} (hy : y ∈ l) (hz : z ∈ l)
    (heq : key y = key z) : y = z :=
  List.inj_on_of_nodup_map h hy hz heq

theorem distinct_concat : Distinct key (l ++ [x]) ↔ Distinct key l ∧ ¬ Holds key l x := by
  rw [Distinct, List.map_append, List.map_singleton, List.nodup_append, Distinct]
  constructor
  · rintro ⟨hl, -, hdisjoint⟩
    refine ⟨hl, ?_⟩
    rintro ⟨y, hy, heq⟩
    exact hdisjoint (key y) (List.mem_map_of_mem hy) (key x) (List.mem_singleton_self _) heq
  · rintro ⟨hl, hnew⟩
    refine ⟨hl, List.nodup_singleton _, ?_⟩
    rintro k hk k' hk' rfl
    obtain ⟨y, hy, rfl⟩ := List.mem_map.mp hk
    exact hnew ⟨y, hy, List.mem_singleton.mp hk'⟩

theorem Holds.of_mem (h : x ∈ l) : Holds key l x := ⟨x, h, rfl⟩

/-- Under its key, only the value itself can be found. -/
theorem Agrees.mem_iff (h : Agrees key l x) : x ∈ l ↔ Holds key l x := by
  refine ⟨Holds.of_mem, ?_⟩
  rintro ⟨y, hy, heq⟩
  exact h y hy heq ▸ hy

/-- In a selection that contains the value, nothing else has its key. -/
theorem Distinct.agrees (h : Distinct key l) (hx : x ∈ l) : Agrees key l x :=
  fun _ hy heq => h.eq_of_key hy hx heq

theorem Agrees.of_not_holds (h : ¬ Holds key l x) : Agrees key l x :=
  fun y hy heq => absurd ⟨y, hy, heq⟩ h

section

variable [DecidableEq κ]

theorem toggles_concat (h : ¬ Holds key l x) : Toggles key l x (l ++ [x]) where
  added _ := List.mem_append_right l (List.mem_singleton_self x)
  removed hholds := absurd hholds h
  others := by simp [List.filter_append]

theorem toggles_filter (h : Holds key l x) :
    Toggles key l x (l.filter fun y => key y != key x) where
  added hnot := absurd h hnot
  removed _ := by
    rintro ⟨y, hy, heq⟩
    exact bne_iff_ne.mp (List.mem_filter.mp hy).2 heq
  others := by
    rw [List.filter_filter]
    simp

end

/-- **Changing the first entry with a key** changes the only one. -/
theorem Distinct.modify_first [DecidableEq κ] (h : Distinct key l) (k : κ) (f : α → α) :
    (match l.findIdx? fun y => key y == k with
      | none => l
      | some index => l.modify index f)
      = l.map fun y => if key y = k then f y else y := by
  induction l with
  | nil => rfl
  | cons y l ih =>
      obtain ⟨hfirst, hrest⟩ := List.nodup_cons.mp h
      rw [List.findIdx?_cons, List.map_cons]
      by_cases hy : key y = k
      · have hothers : l.map (fun y => if key y = k then f y else y) = l := by
          refine (List.map_congr_left fun z hz => ?_).trans l.map_id
          have hz : key z ≠ k := fun heq => hfirst (List.mem_map.mpr ⟨z, hz, heq.trans hy.symm⟩)
          exact if_neg hz
        rw [if_pos (beq_iff_eq.mpr hy), if_pos hy, hothers]
        rfl
      · rw [if_neg (mt beq_iff_eq.mp hy), if_neg hy, ← ih hrest]
        cases l.findIdx? fun y => key y == k <;> rfl

section

variable [DecidableEq α]

/-- **Adding what is not there whole** keeps the keys distinct exactly when nothing else has the
value's key. -/
theorem distinct_add_iff (h : Distinct key l) :
    Distinct key (if x ∈ l then l else l ++ [x]) ↔ Agrees key l x := by
  by_cases hx : x ∈ l
  · rw [if_pos hx]
    exact iff_of_true h (h.agrees hx)
  · rw [if_neg hx, distinct_concat]
    constructor
    · rintro ⟨-, hnew⟩
      exact .of_not_holds hnew
    · intro hagrees
      exact ⟨h, mt hagrees.mem_iff.mpr hx⟩

/-- **Looking for a value whole and removing it by key** toggles the key exactly when nothing else
has the value's key. -/
theorem toggle_iff [DecidableEq κ] (h : Distinct key l) :
    let after := if x ∈ l then l.filter (fun y => key y != key x) else l ++ [x]
    (Distinct key after ∧ Toggles key l x after) ↔ Agrees key l x := by
  dsimp only
  by_cases hx : x ∈ l
  · rw [if_pos hx]
    exact iff_of_true ⟨h.filter _, toggles_filter (.of_mem hx)⟩ (h.agrees hx)
  · rw [if_neg hx, distinct_concat]
    constructor
    · rintro ⟨⟨-, hnew⟩, -⟩
      exact .of_not_holds hnew
    · intro hagrees
      have hnew : ¬ Holds key l x := mt hagrees.mem_iff.mpr hx
      exact ⟨⟨h, hnew⟩, toggles_concat hnew⟩

end

end KeyedSelection
