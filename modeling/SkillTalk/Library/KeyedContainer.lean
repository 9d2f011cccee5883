import Mathlib.Data.List.Nodup

/-!
# Keyed containers under a conversion of their keys

A writer converts the key of each field that has a value and puts the members in some order. A
reader converts the keys again before it looks for one. It finds what was written under every key
that the two conversions give back, and nothing under a key that no key is converted to.
-/

namespace KeyedContainer

variable {κ ν : Type*} (encodeKey decodeKey : κ → κ) (order : κ → κ → Bool)

def present (fields : List (κ × Option ν)) : List (κ × ν) :=
  fields.filterMap fun field => field.2.map (field.1, ·)

def members (fields : List (κ × Option ν)) : List (κ × ν) :=
  ((present fields).map fun field => (encodeKey field.1, field.2)).mergeSort
    fun left right => order left.1 right.1

/-- The first member whose converted key is the one looked for. -/
def value? [DecidableEq κ] (members : List (κ × ν)) (key : κ) : Option ν :=
  (members.find? fun field => decodeKey field.1 = key).map Prod.snd

variable {encodeKey decodeKey order} {fields : List (κ × Option ν)} {key : κ}

theorem mem_present {field : κ × ν} :
    field ∈ present fields ↔ (field.1, some field.2) ∈ fields := by
  simp only [present, List.mem_filterMap, Option.map_eq_some_iff]
  constructor
  · rintro ⟨⟨key, _⟩, hmem, value, rfl, rfl⟩
    exact hmem
  · intro hmem
    exact ⟨_, hmem, field.2, rfl, rfl⟩

theorem mem_members {field : κ × ν} : field ∈ members encodeKey order fields ↔
    ∃ key, (key, some field.2) ∈ fields ∧ encodeKey key = field.1 := by
  rw [members, (List.mergeSort_perm _ _).mem_iff, List.mem_map]
  constructor
  · rintro ⟨⟨key, value⟩, hmem, rfl⟩
    exact ⟨key, mem_present.1 hmem, rfl⟩
  · rintro ⟨key, hmem, hkey⟩
    exact ⟨(key, field.2), mem_present.2 hmem, Prod.ext hkey rfl⟩

theorem value?_eq_none_of_forall_ne [DecidableEq κ] {members : List (κ × ν)}
    (h : ∀ k, decodeKey k ≠ key) : value? decodeKey members key = none := by
  rw [value?, Option.map_eq_none_iff, List.find?_eq_none]
  intro field _
  simpa using h field.1

/-- **A field is read back**, present or not, if no other has its key and the conversions give back
the keys that are written. -/
theorem value?_members [DecidableEq κ] (hkeys : (fields.map Prod.fst).Nodup)
    (hread : ∀ key value, (key, some value) ∈ fields → decodeKey (encodeKey key) = key)
    {value : Option ν} (hfield : (key, value) ∈ fields) :
    value? decodeKey (members encodeKey order fields) key = value := by
  have hunique : ∀ field ∈ members encodeKey order fields, decodeKey field.1 = key →
      some field.2 = value := by
    intro field hmem hkey
    obtain ⟨written, hwritten, hencoded⟩ := mem_members.1 hmem
    have hsame : written = key := by
      rw [← hread written field.2 hwritten, hencoded, hkey]
    subst hsame
    exact congrArg Prod.snd (List.inj_on_of_nodup_map hkeys hwritten hfield rfl)
  cases value with
  | none =>
    rw [value?, Option.map_eq_none_iff, List.find?_eq_none]
    intro field hmem hkey
    exact absurd (hunique field hmem (by simpa using hkey)) (by simp)
  | some value =>
    have hmem : (encodeKey key, value) ∈ members encodeKey order fields :=
      mem_members.2 ⟨key, hfield, rfl⟩
    have hfound : ((members encodeKey order fields).find?
        fun field => decodeKey field.1 = key).isSome := by
      rw [List.find?_isSome]
      exact ⟨_, hmem, by simpa using hread key value hfield⟩
    obtain ⟨field, hfield⟩ := Option.isSome_iff_exists.1 hfound
    rw [value?, hfield, Option.map_some]
    exact hunique field (List.mem_of_find?_eq_some hfield) (by simpa using List.find?_some hfield)

end KeyedContainer
