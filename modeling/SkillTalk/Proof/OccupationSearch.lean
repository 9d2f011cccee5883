import SkillTalk.Library.FilteredLists
import SkillTalk.Proof.OccupationTranslations

/-!
# Searching occupations with translations

The search runs over translated occupations and looks at their English names and categories. So what
is shown is searched only where the English texts or the id contain the query as well.
-/

namespace SkillTalk

namespace OccupationsDatabase

open BasicTranslationService FilteredLists

variable (lowercased : String → String)

/-- The name or category shown to the user, or the id, contains the query. -/
def ShownMatches (language query : String) (occupation : OccupationModel) : Bool :=
  containsIgnoringCase lowercased (occupation.localizedName language) query
    || containsIgnoringCase lowercased (occupation.localizedCategory language) query
    || containsIgnoringCase lowercased occupation.id query

/-- The English name or category or the id contains the query. -/
def EnglishMatches (query : String) (occupation : OccupationModel) : Bool :=
  containsIgnoringCase lowercased occupation.englishName query
    || containsIgnoringCase lowercased occupation.englishCategory query
    || containsIgnoringCase lowercased occupation.id query

/-- Of the occupations, in their order, all that match as shown are found, and none that matches
neither so nor in English. -/
structure FindsShown (language query : String) (occupations found : List OccupationModel) :
    Prop where
  ordered : found.Sublist occupations
  complete : (occupations.filter (ShownMatches lowercased language query)).Sublist found
  sound : ∀ occupation ∈ found, ShownMatches lowercased language query occupation = true
    ∨ EnglishMatches lowercased query occupation = true

/-- A search in English finds what is shown exactly when that matches in English. -/
theorem findsShown_filter_iff {language query : String} {occupations : List OccupationModel} :
    FindsShown lowercased language query occupations
        (occupations.filter (EnglishMatches lowercased query))
      ↔ ∀ occupation ∈ occupations, ShownMatches lowercased language query occupation = true →
          EnglishMatches lowercased query occupation = true := by
  rw [← filter_sublist_filter_iff]
  constructor
  · exact FindsShown.complete
  · intro hcomplete
    refine ⟨List.filter_sublist, hcomplete, ?_⟩
    intro occupation hfound
    exact .inr (List.mem_filter.mp hfound).2

variable {lowercased}

theorem searchOccupationsWithTranslations_eq (clock : Clock Date) (bundle : TranslationBundle)
    {s : BasicTranslationService} {language : String} {names : StringDictionary}
    (hcached : s.getCachedTranslations language .occupations = some names)
    (occupations : List OccupationModel) (currentLanguage : String) {query : String}
    (hquery : query ≠ "") :
    searchOccupationsWithTranslations clock bundle lowercased occupations currentLanguage s query
        (some language)
      = (.ok ((occupations.map (translated lowercased language names)).filter
          (EnglishMatches lowercased query)), s) := by
  have hall := getAllOccupationsWithTranslations_of_cached lowercased clock bundle currentLanguage
    (some language) hcached occupations
  rw [searchOccupationsWithTranslations, hall]
  dsimp only
  rw [if_neg hquery]
  rfl

/-- What is shown of an occupation of the table, by these names, contains the query. -/
def ShownBy (lowercased : String → String) (language query : String) (names : StringDictionary)
    (occupation : OccupationModel) : Prop :=
  containsIgnoringCase lowercased
      ((names.lookup occupation.id).getD (occupation.localizedName language)) query = true
    ∨ containsIgnoringCase lowercased
      ((names.lookup (lowercased occupation.englishCategory)).getD
        (occupation.localizedCategory language)) query = true

instance (lowercased : String → String) (language query : String) (names : StringDictionary)
    (occupation : OccupationModel) :
    Decidable (ShownBy lowercased language query names occupation) :=
  inferInstanceAs (Decidable (_ ∨ _))

/-- The id is searched either way. -/
theorem shown_imp_english_iff {language query : String} {names : StringDictionary}
    {occupation : OccupationModel} :
    (ShownMatches lowercased language query (translated lowercased language names occupation) = true
        → EnglishMatches lowercased query (translated lowercased language names occupation) = true)
      ↔ (ShownBy lowercased language query names occupation →
          EnglishMatches lowercased query occupation = true) := by
  have henglish : EnglishMatches lowercased query (translated lowercased language names occupation)
      = EnglishMatches lowercased query occupation := rfl
  have hid : (translated lowercased language names occupation).id = occupation.id := rfl
  rw [henglish, ShownMatches, localizedName_translated, localizedCategory_translated, hid,
    Bool.or_eq_true, Bool.or_eq_true]
  constructor
  · intro h hshown
    exact h (.inl hshown)
  · rintro h (hshown | hid)
    · exact h hshown
    · rw [EnglishMatches, hid, Bool.or_true]

variable (lowercased) in
/-- **A search finds what the user reads exactly when that can be found in English.** -/
theorem search_finds_shown_iff (clock : Clock Date) (bundle : TranslationBundle)
    (occupations : List OccupationModel) (currentLanguage : String) {s : BasicTranslationService}
    {language : String} {names : StringDictionary}
    (hcached : s.getCachedTranslations language .occupations = some names) {query : String}
    (hquery : query ≠ "") :
    ∃ found, searchOccupationsWithTranslations clock bundle lowercased occupations currentLanguage s
          query (some language) = (.ok found, s)
      ∧ (FindsShown lowercased language query
          (applyServerTranslations lowercased s occupations language) found
        ↔ ∀ occupation ∈ occupations, ShownBy lowercased language query names occupation →
            EnglishMatches lowercased query occupation = true) := by
  refine ⟨_, searchOccupationsWithTranslations_eq clock bundle hcached occupations currentLanguage
    hquery, ?_⟩
  rw [applyServerTranslations_of_cached lowercased hcached, findsShown_filter_iff,
    List.forall_mem_map]
  exact forall₂_congr fun occupation _ => shown_imp_english_iff

def swedishService : BasicTranslationService :=
  { initial with
    translationCache := fun _ => some (Finmap.singleton "nurse" "sjuksköterska") }

def nurse : OccupationModel := .make "nurse" "Nurse" "Healthcare" none none false

theorem swedishService_cached : swedishService.getCachedTranslations "sv" .occupations
    = some (Finmap.singleton "nurse" "sjuksköterska") := rfl

/-- The nurse can be found in English. -/
theorem search_finds_shown_of_english :
    ∃ found, searchOccupationsWithTranslations (Clock.ofGaps []) (fun _ _ => none) String.toLower
          [nurse] "en" swedishService "NURSE" (some "sv") = (.ok found, swedishService)
      ∧ FindsShown String.toLower "sv" "NURSE"
          (applyServerTranslations String.toLower swedishService [nurse] "sv") found := by
  have hquery : "NURSE" ≠ "" := by decide
  obtain ⟨found, hfound, hiff⟩ := search_finds_shown_iff String.toLower (Clock.ofGaps [])
    (fun _ _ => none) [nurse] "en" swedishService_cached hquery
  exact ⟨found, hfound, hiff.mpr (by decide +kernel)⟩

/-- She is shown as a sjuksköterska, and not found as one. -/
theorem shown_name_not_found :
    ∃ found, searchOccupationsWithTranslations (Clock.ofGaps []) (fun _ _ => none) String.toLower
          [nurse] "en" swedishService "sjuk" (some "sv") = (.ok found, swedishService)
      ∧ ¬ FindsShown String.toLower "sv" "sjuk"
          (applyServerTranslations String.toLower swedishService [nurse] "sv") found := by
  have hquery : "sjuk" ≠ "" := by decide
  refine ⟨_, searchOccupationsWithTranslations_eq (Clock.ofGaps []) (fun _ _ => none)
    swedishService_cached [nurse] "en" hquery, ?_⟩
  rw [applyServerTranslations_of_cached String.toLower swedishService_cached,
    findsShown_filter_iff]
  decide +kernel

end OccupationsDatabase

end SkillTalk
