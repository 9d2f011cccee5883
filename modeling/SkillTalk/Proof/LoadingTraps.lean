import SkillTalk.Proof.DatabaseCaches

/-!
# When loading the database traps

A loader decodes a core file and a file of translations, and makes a dictionary of the translations.
Everything that goes wrong before is thrown, but the dictionary stops the process when an id is
repeated.
-/

namespace SkillTalk

open Refinement SkillDatabaseService

variable {ε : Type}

/-- If both files decode, then no two translations share an id. -/
def TranslationsUnique {α : Type} (core : Except ε (List α))
    (translations : Except ε (List NameTranslation)) : Prop :=
  ∀ records names, core = .ok records → translations = .ok names →
    (names.map NameTranslation.id).Nodup

/-- The body of the three loaders, with what they make of the records and the dictionary. -/
theorem load_ne_trapped_iff {α β : Type} (core : Except ε (List α))
    (translations : Except ε (List NameTranslation))
    (combine : List α → (String → Option String) → β) :
    (do
        let records ← core.mapError DatabaseFailure.thrown
        let translations ← translations.mapError .thrown
        let names ← translationsDict translations
        return combine records names) ≠ .error DatabaseFailure.trapped
      ↔ TranslationsUnique core translations := by
  cases core with
  | error error => exact iff_of_true (by rintro ⟨⟩) (by rintro _ _ ⟨⟩)
  | ok records =>
      cases translations with
      | error error => exact iff_of_true (by rintro ⟨⟩) (by rintro _ _ _ ⟨⟩)
      | ok names =>
          by_cases hnodup : (names.map NameTranslation.id).Nodup
          · refine iff_of_true ?_ ?_
            · simp only [Except.mapError, bind, Except.bind, translationsDict, if_pos hnodup]
              rintro ⟨⟩
            · rintro _ _ - ⟨⟩
              exact hnodup
          · refine iff_of_false ?_ fun h => hnodup (h records names rfl rfl)
            simp only [Except.mapError, bind, Except.bind, translationsDict, if_neg hnodup]
            exact fun h => h rfl

namespace DatabaseFiles

variable (files : DatabaseFiles ε) (language : String)

theorem readCategories_ne_trapped_iff :
    files.readCategories language ≠ .error .trapped
      ↔ TranslationsUnique (files.coreCategories (files.corePath "categories.json"))
          (files.categoryTranslations (files.translationsPath language "categories.json")) :=
  load_ne_trapped_iff _ _ _

theorem readSubcategories_ne_trapped_iff (categoryId : String) :
    files.readSubcategories categoryId language ≠ .error .trapped
      ↔ TranslationsUnique (files.coreSubcategories (files.corePath "subcategories.json"))
          (files.subcategoryTranslations
            (files.translationsPath language "subcategories.json")) :=
  load_ne_trapped_iff _ _ _

theorem readSkills_ne_trapped_iff (subcategoryId : String) :
    files.readSkills subcategoryId language ≠ .error .trapped
      ↔ TranslationsUnique (files.coreSkills (files.corePath "skills.json"))
          (files.skillTranslations (files.translationsPath language "skills.json")) :=
  load_ne_trapped_iff _ _ _

/-- No file of translations in the language that is decoded with its core file repeats an id. -/
structure RepeatsNoId : Prop where
  categories : TranslationsUnique (files.coreCategories (files.corePath "categories.json"))
    (files.categoryTranslations (files.translationsPath language "categories.json"))
  subcategories : TranslationsUnique (files.coreSubcategories (files.corePath "subcategories.json"))
    (files.subcategoryTranslations (files.translationsPath language "subcategories.json"))
  skills : TranslationsUnique (files.coreSkills (files.corePath "skills.json"))
    (files.skillTranslations (files.translationsPath language "skills.json"))

end DatabaseFiles

variable {files : DatabaseFiles ε} {contains : String → String → Bool} {language : String}

theorem loadAllSkills_avoids (hfiles : files.RepeatsNoId language) :
    Avoids .trapped ((skillDatabaseService files).loadAllSkills language) := by
  apply Avoids.bind (.cached ((files.readCategories_ne_trapped_iff language).mpr hfiles.categories))
  intro categories
  apply Avoids.foldlM
  intro allSkills category
  apply Avoids.bind (.cached
    ((files.readSubcategories_ne_trapped_iff language category.id).mpr hfiles.subcategories))
  intro subcategories
  apply Avoids.foldlM
  intro allSkills subcategory
  apply Avoids.bind
    (.cached ((files.readSkills_ne_trapped_iff language subcategory.id).mpr hfiles.skills))
  intro skills
  exact .pure _

/-- A limit, if the call has one, is not negative. -/
def DatabaseCall.LimitNonneg : DatabaseCall → Prop
  | .getPopularSkills _ limit => 0 ≤ limit
  | _ => True

theorem perform_avoids {call : DatabaseCall} (hfiles : files.RepeatsNoId call.language)
    (hlimit : call.LimitNonneg) :
    Avoids .trapped ((skillDatabaseService files).perform contains call) := by
  cases call with
  | loadCategories language =>
      exact (Avoids.cached
        ((files.readCategories_ne_trapped_iff language).mpr hfiles.categories)).map _
  | loadSubcategories categoryId language =>
      exact (Avoids.cached
        ((files.readSubcategories_ne_trapped_iff language categoryId).mpr
          hfiles.subcategories)).map _
  | loadSkills subcategoryId language =>
      exact (Avoids.cached
        ((files.readSkills_ne_trapped_iff language subcategoryId).mpr hfiles.skills)).map _
  | searchSkills query language =>
      refine ((loadAllSkills_avoids hfiles).bind fun allSkills => ?_).map _
      exact .pure _
  | getPopularSkills language limit =>
      refine ((loadAllSkills_avoids hfiles).bind fun allSkills => ?_).map _
      have hnonneg : ¬ limit < 0 := Int.not_lt.mpr hlimit
      simp only [if_neg hnonneg]
      exact .pure _

/-- The first load of a service answers what it reads. -/
theorem ne_trapped_of_call {α : Type} {call : DatabaseCall} {read : Except (DatabaseFailure ε) α}
    {wrap : α → DatabaseAnswer} {lookup : SkillDatabaseService → Option α}
    {store : SkillDatabaseService → α → SkillDatabaseService}
    (hperform : (skillDatabaseService files).perform contains call
      = wrap <$> cached lookup store read)
    (hempty : lookup initial = none)
    (h : ∀ t, (skillDatabaseService files).perform contains call initial ≠ .error .trapped t) :
    read ≠ .error .trapped := by
  intro hread
  apply h initial
  rw [hperform, hread]
  change EStateM.map wrap (cached lookup store _) initial = _
  rw [EStateM.map, cached, hempty]

/-- **A repeated id is what traps.** In every state that calls lead to, every call in the language
returns or throws, exactly when no file of translations that is decoded repeats an id. -/
theorem loading_never_traps (files : DatabaseFiles ε) (contains : String → String → Bool)
    (language : String) :
    (∀ s, (skillDatabase files contains).Reachable s →
        ∀ call : DatabaseCall, call.language = language → call.LimitNonneg →
          ∀ t, (skillDatabaseService files).perform contains call s ≠ .error .trapped t)
      ↔ files.RepeatsNoId language := by
  constructor
  · intro h
    have hfirst := h initial (.init rfl)
    constructor
    · rw [← files.readCategories_ne_trapped_iff]
      exact ne_trapped_of_call rfl rfl (hfirst (.loadCategories language) rfl trivial)
    · rw [← files.readSubcategories_ne_trapped_iff language ""]
      exact ne_trapped_of_call rfl rfl (hfirst (.loadSubcategories "" language) rfl trivial)
    · rw [← files.readSkills_ne_trapped_iff language ""]
      exact ne_trapped_of_call rfl rfl (hfirst (.loadSkills "" language) rfl trivial)
  · rintro hfiles s - call rfl hlimit
    exact perform_avoids hfiles hlimit s

/-- The sample with the one category translated twice. -/
def translatedTwice : DatabaseFiles String :=
  { sampleFiles with
    categoryTranslations := fun _ => .ok [⟨"music", "Music"⟩, ⟨"music", "Musique"⟩] }

/-- A search in a language with a repeated translation stops the process. -/
theorem repeated_translation_traps :
    (skillDatabaseService translatedTwice).perform (fun text query => text = query)
      (.searchSkills "guitar" "en") initial = .error .trapped initial := rfl

end SkillTalk
