import SkillTalk.Library.Dictionary

/-!
# Grouping a table by a key

A loop opens a group for each new key and appends every item to the group of its own; another loop
then sorts the groups one by one, in any order. Each group holds the items of its key, so together
they hold the table.
-/

namespace Grouping

open Dictionary (Enumeration)

variable {α κ ν : Type*} [DecidableEq κ]

/-- `groups[key]?` changed in place. -/
def modify (groups : Dictionary κ ν) (key : κ) (change : ν → ν) : Dictionary κ ν :=
  match groups.lookup key with
  | none => groups
  | some group => groups.insert key (change group)

def addTo (key : α → κ) (groups : Dictionary κ (List α)) (item : α) : Dictionary κ (List α) :=
  let opened := if groups.lookup (key item) = none then groups.insert (key item) [] else groups
  modify opened (key item) (· ++ [item])

def grouped (key : α → κ) (items : List α) : Dictionary κ (List α) :=
  items.foldl (addTo key) ∅

def modifyAll (groups : Dictionary κ ν) (keys : List κ) (change : ν → ν) : Dictionary κ ν :=
  keys.foldl (fun groups key => modify groups key change) groups

/-- The order that `<` on names gives to a sort. -/
def nameLE [LinearOrder ν] (name : α → ν) (a b : α) : Bool := !decide (name b < name a)

def sortedBy [LinearOrder ν] (name : α → ν) (items : List α) : List α :=
  items.mergeSort (nameLE name)

/-- The groups are not empty, hold the items of the table under their own keys, and are sorted. -/
structure IsGrouping [LinearOrder ν] (key : α → κ) (name : α → ν) (items : List α)
    (groups : Dictionary κ (List α)) : Prop where
  nonempty : ∀ k group, groups.lookup k = some group → group ≠ []
  ownKey : ∀ k group, groups.lookup k = some group → ∀ item ∈ group, key item = k
  perm : ∀ order : Enumeration groups, (order.entries.flatMap Sigma.snd).Perm items
  sorted : ∀ k group, groups.lookup k = some group → group.Pairwise fun a b => name a ≤ name b

/-! ### The loops -/

theorem lookup_modify (groups : Dictionary κ ν) (key : κ) (change : ν → ν) (other : κ) :
    (modify groups key change).lookup other
      = if other = key then (groups.lookup key).map change else groups.lookup other := by
  cases hgroup : groups.lookup key with
  | none =>
      have hsame : modify groups key change = groups := by rw [modify, hgroup]
      rw [hsame]
      split
      · rename_i heq
        rw [heq, hgroup, Option.map_none]
      · rfl
  | some group =>
      have hchanged : modify groups key change = groups.insert key (change group) := by
        rw [modify, hgroup]
      rw [hchanged]
      split
      · rename_i heq
        rw [heq, Finmap.lookup_insert, Option.map_some]
      · rename_i hne
        exact Finmap.lookup_insert_of_ne _ hne

theorem lookup_addTo (key : α → κ) (groups : Dictionary κ (List α)) (item : α) (k : κ) :
    (addTo key groups item).lookup k
      = if k = key item then some ((groups.lookup k).getD [] ++ [item]) else groups.lookup k := by
  rw [addTo, lookup_modify]
  by_cases heq : k = key item
  · subst heq
    rw [if_pos rfl, if_pos rfl]
    cases hgroup : groups.lookup (key item) with
    | none => rw [if_pos rfl, Finmap.lookup_insert, Option.map_some, Option.getD_none]
    | some group =>
        rw [if_neg (Option.some_ne_none group), hgroup, Option.map_some, Option.getD_some]
  · rw [if_neg heq, if_neg heq]
    split
    · exact Finmap.lookup_insert_of_ne _ heq
    · rfl

/-- **The group of a key** holds its items in the order of the table. -/
theorem lookup_grouped (key : α → κ) (items : List α) (k : κ) :
    (grouped key items).lookup k
      = if (items.filter fun item => key item = k) = [] then none
        else some (items.filter fun item => key item = k) := by
  induction items using List.reverseRecOn with
  | nil => exact Finmap.lookup_empty k
  | append_singleton items item ih =>
      have hlast : grouped key (items ++ [item]) = addTo key (grouped key items) item := by
        rw [grouped, List.foldl_concat]
        rfl
      rw [hlast, lookup_addTo, List.filter_append, ih]
      by_cases heq : k = key item
      · subst heq
        by_cases hempty : (items.filter fun other => key other = key item) = []
        · simp [hempty]
        · simp [hempty]
      · simp [heq, Ne.symm heq]

/-- Each group is changed once. -/
theorem lookup_modifyAll {keys : List κ} (hkeys : keys.Nodup) (groups : Dictionary κ ν)
    (change : ν → ν) (k : κ) :
    (modifyAll groups keys change).lookup k
      = if k ∈ keys then (groups.lookup k).map change else groups.lookup k := by
  induction keys generalizing groups with
  | nil => rfl
  | cons key keys ih =>
      obtain ⟨hfresh, hrest⟩ := List.nodup_cons.mp hkeys
      have hfirst : modifyAll groups (key :: keys) change
          = modifyAll (modify groups key change) keys change := rfl
      rw [hfirst, ih hrest, lookup_modify]
      by_cases heq : k = key
      · subst heq
        rw [if_neg hfresh, if_pos rfl, if_pos List.mem_cons_self]
      · simp [heq]

/-! ### The groups -/

theorem pairwise_sortedBy [LinearOrder ν] (name : α → ν) (items : List α) :
    (sortedBy name items).Pairwise fun a b => name a ≤ name b := by
  have hle : ∀ a b, nameLE name a b = true ↔ name a ≤ name b := by
    intro a b
    rw [nameLE, Bool.not_eq_true', decide_eq_false_iff_not, not_lt]
  refine (List.pairwise_mergeSort ?_ ?_ items).imp fun h => (hle _ _).mp h
  · intro a b c hab hbc
    rw [hle] at hab hbc ⊢
    exact hab.trans hbc
  · intro a b
    rw [Bool.or_eq_true, hle, hle]
    exact le_total _ _

theorem sortedBy_perm [LinearOrder ν] (name : α → ν) (items : List α) :
    (sortedBy name items).Perm items :=
  List.mergeSort_perm _ _

/-- **The groups together are the table**, if every item is of one of their keys. -/
theorem flatMap_perm (key : α → κ) {entries : List (Σ _ : κ, List α)} {items : List α}
    (hkeys : entries.NodupKeys)
    (hgroups : ∀ entry ∈ entries, entry.2.Perm (items.filter fun item => key item = entry.1))
    (hall : ∀ item ∈ items, key item ∈ entries.keys) :
    (entries.flatMap Sigma.snd).Perm items := by
  induction entries generalizing items with
  | nil =>
      have hnone : items = [] := List.eq_nil_iff_forall_not_mem.mpr fun item hitem =>
        List.not_mem_nil (hall item hitem)
      rw [hnone, List.flatMap_nil]
  | cons entry entries ih =>
      obtain ⟨hfresh, hrest⟩ := List.nodupKeys_cons.mp hkeys
      obtain ⟨hfirst, hothers⟩ := List.forall_mem_cons.mp hgroups
      -- the other groups see nothing of the items of the first key
      have hremaining : (entries.flatMap Sigma.snd).Perm
          (items.filter fun item => ¬ key item = entry.1) := by
        refine ih hrest ?_ ?_
        · intro other hother
          have hne : entry.1 ≠ other.1 := by
            intro heq
            exact hfresh (heq ▸ List.mem_keys_of_mem hother)
          rw [List.filter_filter]
          refine (hothers other hother).trans (List.Perm.of_eq ?_)
          refine List.filter_congr fun item _ => ?_
          by_cases heq : key item = other.1
          · simp [heq, Ne.symm hne]
          · simp [heq]
        · intro item hitem
          obtain ⟨hmem, hkey⟩ := List.mem_filter.mp hitem
          exact (List.mem_cons.mp (hall item hmem)).resolve_left (of_decide_eq_true hkey)
      rw [List.flatMap_cons]
      refine (hfirst.append hremaining).trans ?_
      have hsplit := List.filter_append_perm (fun item => decide (key item = entry.1)) items
      simpa only [decide_not] using hsplit

/-- What the groups are looked up as makes them a grouping. -/
theorem isGrouping_of_lookup [LinearOrder ν] {key : α → κ} {name : α → ν} {items : List α}
    {groups : Dictionary κ (List α)} (arrange : List α → List α)
    (hperm : ∀ group, (arrange group).Perm group)
    (hsorted : ∀ k, (arrange (items.filter fun item => key item = k)).Pairwise
      fun a b => name a ≤ name b)
    (hlookup : ∀ k, groups.lookup k
      = if (items.filter fun item => key item = k) = [] then none
        else some (arrange (items.filter fun item => key item = k))) :
    IsGrouping key name items groups := by
  have hgroup : ∀ k group, groups.lookup k = some group →
      (items.filter fun item => key item = k) ≠ []
        ∧ group = arrange (items.filter fun item => key item = k) := by
    intro k group hk
    rw [hlookup] at hk
    split at hk
    · cases hk
    · rename_i hne
      exact ⟨hne, (Option.some.inj hk).symm⟩
  constructor
  · intro k group hk hempty
    obtain ⟨hne, rfl⟩ := hgroup k group hk
    exact hne (List.perm_nil.mp (hempty ▸ (hperm _).symm))
  · intro k group hk item hitem
    obtain ⟨-, rfl⟩ := hgroup k group hk
    exact of_decide_eq_true (List.mem_filter.mp ((hperm _).mem_iff.mp hitem)).2
  · intro order
    refine flatMap_perm key order.nodupKeys ?_ ?_
    · intro entry hentry
      obtain ⟨-, hentry⟩ := hgroup entry.1 entry.2 (order.mem_entries_iff.mp hentry)
      rw [hentry]
      exact hperm _
    · intro item hitem
      have hne : (items.filter fun other => key other = key item) ≠ [] :=
        List.ne_nil_of_mem (List.mem_filter.mpr ⟨hitem, decide_eq_true rfl⟩)
      have hk := hlookup (key item)
      rw [if_neg hne] at hk
      exact List.mem_keys_of_mem (order.mem_entries_iff.mpr hk)
  · intro k group hk
    obtain ⟨-, rfl⟩ := hgroup k group hk
    exact hsorted k

end Grouping
