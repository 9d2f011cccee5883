import Mathlib.Data.Finmap

/-!
# Dictionaries and loops over them

A loop over a dictionary meets its entries in some order. Assigning a missing value removes the key,
so after a loop of assignments each key has what was assigned to it last. Merging a dictionary into
another gives the union in which the merged one wins, in whatever order it is enumerated.
-/

abbrev Dictionary (κ ν : Type*) := Finmap fun _ : κ => ν

namespace Dictionary

variable {κ ν : Type*}

/-- The entries of a dictionary in an order in which a loop may meet them. -/
structure Enumeration (d : Dictionary κ ν) where
  entries : List (Σ _ : κ, ν)
  entries_eq : (entries : Multiset (Σ _ : κ, ν)) = d.entries

namespace Enumeration

variable {d : Dictionary κ ν} (order : Enumeration d)

theorem nodupKeys : order.entries.NodupKeys := by
  have h := d.nodupKeys
  rw [← order.entries_eq] at h
  exact h

variable [DecidableEq κ]

theorem dlookup_eq (key : κ) : order.entries.dlookup key = d.lookup key := by
  have hd : d = AList.toFinmap ⟨order.entries, order.nodupKeys⟩ := Finmap.ext order.entries_eq.symm
  conv_rhs => rw [hd]
  exact (Finmap.lookup_toFinmap key ⟨order.entries, order.nodupKeys⟩).symm

theorem mem_entries_iff {key : κ} {value : ν} :
    ⟨key, value⟩ ∈ order.entries ↔ d.lookup key = some value := by
  rw [← order.dlookup_eq]
  exact (List.mem_dlookup_iff order.nodupKeys).symm

end Enumeration

variable [DecidableEq κ]

/-- `d[key] = value`. -/
def assign (d : Dictionary κ ν) (key : κ) : Option ν → Dictionary κ ν
  | some value => d.insert key value
  | none => d.erase key

def assignAll (d : Dictionary κ ν) (items : List (κ × Option ν)) : Dictionary κ ν :=
  items.foldl (fun d item => d.assign item.1 item.2) d

/-- A loop that sets every entry of the list. -/
def setAll (d : Dictionary κ ν) (entries : List (Σ _ : κ, ν)) : Dictionary κ ν :=
  entries.foldl (fun d entry => d.insert entry.1 entry.2) d

theorem lookup_assign (d : Dictionary κ ν) (key : κ) (value : Option ν) (other : κ) :
    (d.assign key value).lookup other = if other = key then value else d.lookup other := by
  cases value with
  | some value =>
      split
      · rename_i heq
        subst heq
        exact Finmap.lookup_insert _
      · rename_i hne
        exact Finmap.lookup_insert_of_ne _ hne
  | none =>
      split
      · rename_i heq
        subst heq
        exact Finmap.lookup_erase _ _
      · rename_i hne
        exact Finmap.lookup_erase_ne hne

/-- **The last assignment stands**, also where it removes the key. -/
theorem lookup_assignAll (d : Dictionary κ ν) (items : List (κ × Option ν)) (key : κ) :
    (d.assignAll items).lookup key
      = (items.filter fun item => item.1 = key).getLast?.elim (d.lookup key) Prod.snd := by
  induction items using List.reverseRecOn with
  | nil => rfl
  | append_singleton items item ih =>
      have hlast : d.assignAll (items ++ [item])
          = (d.assignAll items).assign item.1 item.2 := by
        rw [assignAll, List.foldl_concat]
        rfl
      rw [hlast, lookup_assign, List.filter_append, ih]
      by_cases heq : item.1 = key
      · simp [heq]
      · simp [heq, Ne.symm heq]

/-- Assigning present values sets them. -/
theorem assignAll_present (d : Dictionary κ ν) (entries : List (Σ _ : κ, ν)) :
    d.assignAll (entries.map fun entry => (entry.1, some entry.2)) = d.setAll entries := by
  rw [assignAll, List.foldl_map]
  rfl

theorem lookup_setAll {entries : List (Σ _ : κ, ν)} (hentries : entries.NodupKeys)
    (d : Dictionary κ ν) (key : κ) :
    (d.setAll entries).lookup key = (entries.dlookup key).or (d.lookup key) := by
  induction entries generalizing d with
  | nil => rfl
  | cons entry entries ih =>
      obtain ⟨name, value⟩ := entry
      obtain ⟨hfresh, hrest⟩ := List.nodupKeys_cons.mp hentries
      have hset : d.setAll (⟨name, value⟩ :: entries) = setAll (d.insert name value) entries := rfl
      rw [hset, ih hrest]
      by_cases heq : name = key
      · subst heq
        have hnone : entries.dlookup name = none := List.dlookup_eq_none.mpr hfresh
        rw [hnone, Option.none_or, Finmap.lookup_insert, List.dlookup_cons_eq, Option.some_or]
      · rw [Finmap.lookup_insert_of_ne _ (Ne.symm heq), List.dlookup_cons_ne _ _ (Ne.symm heq)]

theorem lookup_union (d other : Dictionary κ ν) (key : κ) :
    (other ∪ d).lookup key = (other.lookup key).or (d.lookup key) := by
  by_cases hkey : key ∈ other
  · obtain ⟨value, hvalue⟩ := Finmap.mem_iff.mp hkey
    rw [Finmap.lookup_union_left hkey, hvalue, Option.some_or]
  · rw [Finmap.lookup_union_right hkey, Finmap.lookup_eq_none.mpr hkey, Option.none_or]

/-- **Merging is the union in which the merged dictionary wins.** -/
theorem setAll_enumeration (d : Dictionary κ ν) {other : Dictionary κ ν}
    (order : Enumeration other) : d.setAll order.entries = other ∪ d := by
  refine Finmap.ext_lookup fun key => ?_
  rw [lookup_setAll order.nodupKeys, order.dlookup_eq, lookup_union]

end Dictionary
