import SkillTalk.CountriesDatabase
import SkillTalk.Library.FilteredLists

/-!
# Country codes

The initializers for databases drop the code they are given, and a country's code is its id. So a
search by code finds a country only where its id, name or region contains the query as well.
-/

namespace SkillTalk

namespace CountriesDatabase

open FilteredLists

variable (lowercased : String → String)

/-- The name, the region, the code that the country was built with or the id contains the query. -/
def Matches (Double : Type) (query : String) (entry : CountryEntry) : Bool :=
  let country := entry.model Double
  containsIgnoringCase lowercased country.name query
    || country.region.any (fun region => containsIgnoringCase lowercased region query)
    || containsIgnoringCase lowercased entry.code query
    || containsIgnoringCase lowercased country.id query

/-- The search over the table finds what matches, in order, and everything for the empty query. -/
def SearchesTable (Double : Type) (table : List CountryEntry) (query : String) : Prop :=
  searchCountries lowercased (table.map (CountryEntry.model Double)) query
    = if query = "" then table.map (CountryEntry.model Double)
      else (table.filter (Matches lowercased Double query)).map (CountryEntry.model Double)

/-- What the search looks at matches. -/
def Found (Double : Type) (query : String) (entry : CountryEntry) : Bool :=
  let country := entry.model Double
  containsIgnoringCase lowercased country.name query
    || country.region.any (fun region => containsIgnoringCase lowercased region query)
    || containsIgnoringCase lowercased country.id query

variable {lowercased} {Double : Type} {query : String}

theorem code_model (entry : CountryEntry) : (entry.model Double).code = entry.id := by
  cases entry <;> rfl

theorem id_model (entry : CountryEntry) : (entry.model Double).id = entry.id := by
  cases entry <;> rfl

/-- The initializers keep the codes that are ids. -/
theorem codes_kept_iff {table : List CountryEntry} :
    (∀ entry ∈ table, (entry.model Double).code = entry.code)
      ↔ ∀ entry ∈ table, entry.id = entry.code := by
  refine forall₂_congr fun entry _ => ?_
  rw [code_model]

theorem searchCountries_table (table : List CountryEntry) (hquery : query ≠ "") :
    searchCountries lowercased (table.map (CountryEntry.model Double)) query
      = (table.filter (Found lowercased Double query)).map (CountryEntry.model Double) := by
  rw [searchCountries, if_neg hquery, List.filter_map]
  congr 1
  apply List.filter_congr
  intro entry _
  have hcode : (entry.model Double).code = (entry.model Double).id :=
    (code_model entry).trans (id_model entry).symm
  rw [Function.comp_apply, Found, hcode, Bool.or_assoc, Bool.or_self]
  rfl

theorem matches_iff {entry : CountryEntry} :
    Matches lowercased Double query entry = true
      ↔ Found lowercased Double query entry = true
        ∨ containsIgnoringCase lowercased entry.code query = true := by
  rw [Matches, Found]
  simp only [Bool.or_eq_true]
  tauto

/-- A search is right when what matches by its code is found otherwise. -/
theorem searchesTable_iff {table : List CountryEntry} :
    SearchesTable lowercased Double table query
      ↔ (query ≠ "" → ∀ entry ∈ table, containsIgnoringCase lowercased entry.code query = true →
          Found lowercased Double query entry = true) := by
  by_cases hquery : query = ""
  · rw [SearchesTable, searchCountries, if_pos hquery, if_pos hquery]
    exact iff_of_true rfl (absurd hquery)
  · have hfound : ∀ entry ∈ table, Found lowercased Double query entry = true →
        Matches lowercased Double query entry = true :=
      fun entry _ hfound => matches_iff.mpr (.inl hfound)
    rw [SearchesTable, searchCountries_table table hquery, if_neg hquery,
      map_filter_eq_iff _ hfound]
    constructor
    · intro hmatches _ entry hentry hcode
      exact hmatches entry hentry (matches_iff.mpr (.inr hcode))
    · intro hcodes entry hentry hmatches
      rcases matches_iff.mp hmatches with hfound | hcode
      · exact hfound
      · exact hcodes hquery entry hentry hcode

theorem found_of_id {entry : CountryEntry}
    (hid : containsIgnoringCase lowercased entry.id query = true) :
    Found lowercased Double query entry = true := by
  rw [Found, id_model, hid, Bool.or_true]

variable (lowercased Double) in
/-- **Countries keep their codes exactly when the codes are their ids**, and a search misses just
those that it could find by the lost code alone. -/
theorem countries_keep_codes_iff (table : List CountryEntry) :
    (((∀ entry ∈ table, (entry.model Double).code = entry.code)
        ∧ ∀ query, SearchesTable lowercased Double table query)
      ↔ ∀ entry ∈ table, entry.id = entry.code)
    ∧ ∀ query, SearchesTable lowercased Double table query
      ↔ (query ≠ "" → ∀ entry ∈ table, containsIgnoringCase lowercased entry.code query = true →
          Found lowercased Double query entry = true) := by
  refine ⟨⟨?_, ?_⟩, fun query => searchesTable_iff⟩
  · rintro ⟨hkept, -⟩
    exact codes_kept_iff.mp hkept
  · intro hids
    refine ⟨codes_kept_iff.mpr hids, ?_⟩
    intro query
    rw [searchesTable_iff]
    intro _ entry hentry hcode
    exact found_of_id (hids entry hentry ▸ hcode)

def cambodia : CountryEntry := .withEnglishCode "cambodia" "Cambodia" "KH" "Asia" "🇰🇭"

/-- Cambodia has lost its code, and is not found by it. -/
theorem cambodia_loses_code :
    (cambodia.model ℚ).code ≠ cambodia.code
      ∧ ¬ SearchesTable String.toLower ℚ [cambodia] "KH" := by
  refine ⟨by decide, ?_⟩
  rw [searchesTable_iff]
  decide +kernel

end CountriesDatabase

end SkillTalk
