import Mathlib.Data.List.Nodup

/-!
# Joining keyed lists

Each child names the key of its parent. The join lists the children parent by parent. With unique
parent keys a child occurs in it as often as among the children, if it has a parent at all.
-/

namespace KeyedJoin

variable {α β κ ι : Type*} [DecidableEq κ]

def join (parents : List α) (key : α → κ) (children : List β) (foreign : β → κ) : List β :=
  parents.flatMap fun parent => children.filter fun child => foreign child = key parent

variable {parents : List α} {key : α → κ} {children : List β} {foreign : β → κ}

theorem mem_join {child : β} : child ∈ join parents key children foreign
    ↔ child ∈ children ∧ ∃ parent ∈ parents, key parent = foreign child := by
  simp only [join, List.mem_flatMap, List.mem_filter, decide_eq_true_eq]
  constructor
  · rintro ⟨parent, hparent, hchild, hforeign⟩
    exact ⟨hchild, parent, hparent, hforeign.symm⟩
  · rintro ⟨hchild, parent, hparent, hforeign⟩
    exact ⟨parent, hparent, hchild, hforeign.symm⟩

theorem nodup_join (hparents : (parents.map key).Nodup) (hchildren : children.Nodup) :
    (join parents key children foreign).Nodup := by
  refine List.nodup_flatMap.mpr ⟨fun parent _ => hchildren.filter _, ?_⟩
  have hne : parents.Pairwise fun p q => key p ≠ key q := List.pairwise_map.mp hparents
  apply hne.imp
  intro p q hpq child hp hq
  have hkey : foreign child = key p := by simpa using (List.mem_filter.mp hp).2
  have hkey' : foreign child = key q := by simpa using (List.mem_filter.mp hq).2
  exact hpq (hkey.symm.trans hkey')

/-- **The join repeats no child**, whichever unique name the children go by. -/
theorem nodup_map_join {name : β → ι} (hparents : (parents.map key).Nodup)
    (hchildren : (children.map name).Nodup) :
    ((join parents key children foreign).map name).Nodup := by
  apply List.Nodup.map_on
  · intro first hfirst second hsecond hname
    exact List.inj_on_of_nodup_map hchildren (mem_join.mp hfirst).1 (mem_join.mp hsecond).1 hname
  · exact nodup_join hparents (List.Nodup.of_map name hchildren)

/-! ### Records translated one by one -/

variable {f : α → Option β} {l : List α}

/-- Leaving records out and renaming the others keeps unique names unique. -/
theorem map_filterMap_sublist {name : α → ι} {name' : β → ι}
    (hname : ∀ a b, f a = some b → name' b = name a) :
    ((l.filterMap f).map name').Sublist (l.map name) := by
  induction l with
  | nil => simp
  | cons a l ih =>
      cases hf : f a with
      | none =>
          rw [List.filterMap_cons_none hf, List.map_cons]
          exact ih.cons _
      | some b =>
          rw [List.filterMap_cons_some hf, List.map_cons, List.map_cons, hname a b hf]
          exact ih.cons_cons _

theorem filterMap_filter_comm {p : α → Bool} {q : β → Bool}
    (hpq : ∀ a b, f a = some b → q b = p a) :
    (l.filter p).filterMap f = (l.filterMap f).filter q := by
  rw [List.filterMap_filter, List.filter_filterMap]
  congr 1
  funext a
  cases hf : f a with
  | none => simp
  | some b => simp [Option.filter, hpq a b hf]

end KeyedJoin
