import SkillTalk.OccupationsDatabase

/-!
# Applying occupation translations

Where a file gives a name, the name is put into the occupation's dictionary under the language;
nothing else of the occupation changes. The initializer that rebuilds it marks as popular only what
it marked when the table was built.
-/

namespace SkillTalk

/-- What the initializer has made. -/
inductive OccupationModel.Built : OccupationModel → Prop
  | make (id englishName englishCategory : String)
      (translations categoryTranslations : Option StringDictionary) (isPopular : Bool) :
      Built (.make id englishName englishCategory translations categoryTranslations isPopular)

/-- The dictionary with the value put in, if there is one. -/
def overlaid (language : String) (value : Option String) (dictionary : Option StringDictionary) :
    StringDictionary :=
  match value with
  | none => dictionary.getD ∅
  | some value => (dictionary.getD ∅).insert language value

section

variable {language other : String} (value : Option String) (dictionary : Option StringDictionary)

theorem lookup_getD (language : String) (dictionary : Option StringDictionary) :
    (dictionary.getD ∅).lookup language = dictionary.bind fun d => d.lookup language := by
  cases dictionary with
  | none => exact Finmap.lookup_empty language
  | some d => rfl

theorem lookup_overlaid : (overlaid language value dictionary).lookup language
    = value.or (dictionary.bind fun d => d.lookup language) := by
  cases value with
  | none => rw [overlaid, lookup_getD, Option.none_or]
  | some value => rw [overlaid, Finmap.lookup_insert, Option.some_or]

theorem lookup_overlaid_of_ne (hne : other ≠ language) :
    (overlaid language value dictionary).lookup other
      = dictionary.bind fun d => d.lookup other := by
  cases value with
  | none => rw [overlaid, lookup_getD]
  | some value => rw [overlaid, Finmap.lookup_insert_of_ne _ hne, lookup_getD]

theorem overlaid_overlaid :
    overlaid language value (some (overlaid language value dictionary))
      = overlaid language value dictionary := by
  cases value with
  | none => rfl
  | some value => exact Finmap.insert_insert _

end

namespace OccupationsDatabase

open BasicTranslationService

variable (lowercased : String → String) {languageCode : String}

/-- An occupation with the translations of these names. -/
def translated (languageCode : String) (names : StringDictionary) (occupation : OccupationModel) :
    OccupationModel :=
  occupation.withServerTranslations
    (overlaid languageCode (names.lookup occupation.id) occupation.translations)
    (overlaid languageCode (names.lookup (lowercased occupation.englishCategory))
      occupation.categoryTranslations)

theorem applyServerTranslations_of_cached {s : BasicTranslationService} {names : StringDictionary}
    (hcached : s.getCachedTranslations languageCode .occupations = some names)
    (occupations : List OccupationModel) :
    applyServerTranslations lowercased s occupations languageCode
      = occupations.map (translated lowercased languageCode names) := by
  rw [applyServerTranslations, hcached]
  rfl

/-- With names cached, nothing is loaded. -/
theorem getAllOccupationsWithTranslations_of_cached (clock : Clock Date)
    (bundle : TranslationBundle) (currentLanguage : String) (language : Option String)
    {s : BasicTranslationService} {names : StringDictionary}
    (hcached : s.getCachedTranslations (language.getD currentLanguage) .occupations = some names)
    (occupations : List OccupationModel) :
    getAllOccupationsWithTranslations clock bundle lowercased occupations currentLanguage s language
      = (.ok (occupations.map
          (translated lowercased (language.getD currentLanguage) names)), s) := by
  have hhit : s.isTranslationCached (language.getD currentLanguage) .occupations = true :=
    Option.isSome_iff_exists.mpr ⟨names, hcached⟩
  rw [getAllOccupationsWithTranslations, if_pos hhit,
    applyServerTranslations_of_cached lowercased hcached]

theorem applyServerTranslations_of_none {s : BasicTranslationService}
    (hcached : s.getCachedTranslations languageCode .occupations = none)
    (occupations : List OccupationModel) :
    applyServerTranslations lowercased s occupations languageCode = occupations := by
  rw [applyServerTranslations, hcached]

theorem localizedName_translated (names : StringDictionary) (occupation : OccupationModel) :
    (translated lowercased languageCode names occupation).localizedName languageCode
      = (names.lookup occupation.id).getD (occupation.localizedName languageCode) := by
  change ((overlaid _ _ _).lookup languageCode).getD occupation.englishName = _
  rw [lookup_overlaid, Option.getD_or]
  rfl

theorem localizedCategory_translated (names : StringDictionary) (occupation : OccupationModel) :
    (translated lowercased languageCode names occupation).localizedCategory languageCode
      = (names.lookup (lowercased occupation.englishCategory)).getD
          (occupation.localizedCategory languageCode) := by
  change ((overlaid _ _ _).lookup languageCode).getD occupation.englishCategory = _
  rw [lookup_overlaid, Option.getD_or]
  rfl

/-- The dictionaries are settled by the first update, and so is the mark. -/
theorem translated_translated (names : StringDictionary) (occupation : OccupationModel) :
    translated lowercased languageCode names (translated lowercased languageCode names occupation)
      = translated lowercased languageCode names occupation := by
  simp only [translated, OccupationModel.withServerTranslations, OccupationModel.make,
    overlaid_overlaid, Bool.or_assoc, Bool.or_self]

theorem isPopular_translated (names : StringDictionary) {occupation : OccupationModel}
    (hbuilt : occupation.Built) :
    (translated lowercased languageCode names occupation).isPopular = occupation.isPopular := by
  cases hbuilt with
  | make id englishName englishCategory translations categoryTranslations isPopular =>
      exact (Bool.or_assoc _ _ _).trans (congrArg (isPopular || ·) (Bool.or_self _))

/-- Only the translations into the language are new. -/
structure LocallyUpdated (languageCode : String) (names : StringDictionary)
    (before after : OccupationModel) : Prop where
  id : after.id = before.id
  englishName : after.englishName = before.englishName
  englishCategory : after.englishCategory = before.englishCategory
  isPopular : after.isPopular = before.isPopular
  otherNames : ∀ language, language ≠ languageCode →
    (after.translations.bind fun d => d.lookup language)
      = before.translations.bind fun d => d.lookup language
  otherCategories : ∀ language, language ≠ languageCode →
    (after.categoryTranslations.bind fun d => d.lookup language)
      = before.categoryTranslations.bind fun d => d.lookup language
  localizedName : after.localizedName languageCode
    = (names.lookup before.id).getD (before.localizedName languageCode)

theorem locallyUpdated_translated (names : StringDictionary) {occupation : OccupationModel}
    (hbuilt : occupation.Built) :
    LocallyUpdated languageCode names occupation
      (translated lowercased languageCode names occupation) where
  id := rfl
  englishName := rfl
  englishCategory := rfl
  isPopular := isPopular_translated lowercased names hbuilt
  otherNames _ hne := lookup_overlaid_of_ne _ _ hne
  otherCategories _ hne := lookup_overlaid_of_ne _ _ hne
  localizedName := localizedName_translated lowercased names occupation

/-- Without translations everything stays. -/
theorem locallyUpdated_refl (occupation : OccupationModel) :
    LocallyUpdated languageCode ∅ occupation occupation where
  id := rfl
  englishName := rfl
  englishCategory := rfl
  isPopular := rfl
  otherNames _ _ := rfl
  otherCategories _ _ := rfl
  localizedName := by rw [Finmap.lookup_empty, Option.getD_none]

/-- **Applying translations is a local and idempotent update** of a table that the initializer
built. -/
theorem apply_translations_local (s : BasicTranslationService) {occupations : List OccupationModel}
    (hbuilt : ∀ occupation ∈ occupations, occupation.Built) (languageCode : String) :
    let updated := applyServerTranslations lowercased s occupations languageCode
    List.Forall₂
        (LocallyUpdated languageCode
          ((s.getCachedTranslations languageCode .occupations).getD ∅)) occupations updated
      ∧ applyServerTranslations lowercased s updated languageCode = updated := by
  intro updated
  cases hcached : s.getCachedTranslations languageCode .occupations with
  | none =>
      have hupdated : updated = occupations :=
        applyServerTranslations_of_none lowercased hcached occupations
      rw [hupdated, applyServerTranslations_of_none lowercased hcached]
      exact ⟨List.forall₂_same.mpr fun occupation _ => locallyUpdated_refl occupation, rfl⟩
  | some names =>
      have hupdated : updated = occupations.map (translated lowercased languageCode names) :=
        applyServerTranslations_of_cached lowercased hcached occupations
      rw [hupdated, applyServerTranslations_of_cached lowercased hcached, List.map_map]
      constructor
      · rw [List.forall₂_map_right_iff, List.forall₂_same]
        intro occupation hmem
        exact locallyUpdated_translated lowercased names (hbuilt occupation hmem)
      · apply List.map_congr_left
        intro occupation _
        exact translated_translated lowercased names occupation

/-- The teacher is on the list of popular occupations, and gets a Swedish name beside the German
one. -/
theorem apply_translations_local_of_teacher :
    let s := { initial with
      translationCache := fun _ => some (Finmap.singleton "teacher" "lärare") }
    let teacher : OccupationModel := .make "teacher" "Teacher" "Education"
      (some (Finmap.singleton "de" "Lehrer")) none false
    let updated := applyServerTranslations id s [teacher] "sv"
    updated.map (fun occupation => occupation.localizedName "sv") = ["lärare"]
      ∧ applyServerTranslations id s updated "sv" = updated := by
  intro s teacher updated
  obtain ⟨hlocal, hidempotent⟩ := apply_translations_local id s
    (List.forall_mem_singleton.mpr (.make "teacher" "Teacher" "Education"
      (some (Finmap.singleton "de" "Lehrer")) none false)) "sv"
  exact ⟨by decide +kernel, hidempotent⟩

end OccupationsDatabase

end SkillTalk
