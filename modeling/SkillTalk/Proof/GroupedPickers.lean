import SkillTalk.ReferenceDataGroups

/-!
# Grouped pickers show every item once

Sorting its groups after the grouping and sorting the table before it come to the same: each group
holds the items of its key, sorted by name.
-/

namespace SkillTalk

open Dictionary (Enumeration)
open Grouping

variable {α : Type}

/-- **The two loops of a database** make a grouping of its table. -/
theorem isGrouping_groupedAndSorted (key name : α → String) (table : List α)
    (order : Enumeration (grouped key table)) :
    IsGrouping key name table (groupedAndSorted key name table order) := by
  refine isGrouping_of_lookup (sortedBy name) (sortedBy_perm name)
    (fun k => pairwise_sortedBy name _) ?_
  intro k
  rw [groupedAndSorted, lookup_modifyAll order.nodupKeys]
  by_cases hempty : (table.filter fun item => key item = k) = []
  · rw [lookup_grouped, if_pos hempty, if_pos hempty, Option.map_none, ite_self]
  · have hgroup : (grouped key table).lookup k
        = some (table.filter fun item => key item = k) := by
      rw [lookup_grouped, if_neg hempty]
    have hkey : k ∈ order.entries.keys :=
      List.mem_keys_of_mem (order.mem_entries_iff.mpr hgroup)
    rw [if_pos hkey, hgroup, Option.map_some, if_neg hempty]

/-- **Sorting before grouping** makes a grouping too: a group keeps the order of the table. -/
theorem isGrouping_grouped_sortedBy (key name : α → String) (table : List α) :
    IsGrouping key name table (grouped key (sortedBy name table)) := by
  have hsorted : IsGrouping key name (sortedBy name table)
      (grouped key (sortedBy name table)) := by
    refine isGrouping_of_lookup id (fun group => .refl group) ?_
      (lookup_grouped key (sortedBy name table))
    intro k
    exact (pairwise_sortedBy name table).filter _
  exact { hsorted with
    perm := fun order => (hsorted.perm order).trans (sortedBy_perm name table) }

/-- **Every item once, under its own heading.** All four databases group their tables so, whatever
the tables hold and in whatever order the groups are sorted. -/
theorem grouped_pickers (firstCharacter uppercased : String → String) {Double : Type} :
    (∀ (allCountries : List (CountryModel Double)) order,
        IsGrouping (fun country => uppercased (firstCharacter country.name)) CountryModel.name
          allCountries
          (CountryDatabase.getCountriesByAlphabet firstCharacter uppercased allCountries order))
      ∧ (∀ (allCountries : List (CountryModel Double)) order,
          IsGrouping (fun country => country.region.getD "Unknown") CountryModel.name allCountries
            (CountriesDatabase.getCountriesByRegion allCountries order))
      ∧ (∀ allOccupations order,
          IsGrouping OccupationModel.englishCategory OccupationModel.englishName allOccupations
            (OccupationsDatabase.getOccupationsByCategory allOccupations order))
      ∧ ∀ bundled : Option (List Language),
          IsGrouping (fun language => uppercased (firstCharacter language.name)) Language.name
            (bundled.getD LanguageDatabase.getDefaultLanguages)
            (LanguageDatabase.loadLanguages firstCharacter uppercased
              bundled).languagesByAlphabet :=
  ⟨fun _ order => isGrouping_groupedAndSorted _ _ _ order,
    fun _ order => isGrouping_groupedAndSorted _ _ _ order,
    fun _ order => isGrouping_groupedAndSorted _ _ _ order,
    fun _ => isGrouping_grouped_sortedBy _ _ _⟩

end SkillTalk
