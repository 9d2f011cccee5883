import SkillTalk.BasicTranslationService
import SkillTalk.TextSearch

/-!
# The occupations database

`occupations` is the table `_allOccupations`, and `lowercased` the lower-casing of strings.
-/

namespace SkillTalk

namespace OccupationsDatabase

open BasicTranslationService

def applyServerTranslations (lowercased : String → String) (s : BasicTranslationService)
    (occupations : List OccupationModel) (languageCode : String) : List OccupationModel :=
  match s.getCachedTranslations languageCode .occupations with
  | none => occupations
  | some translations =>
      occupations.map fun occupation =>
        let updatedTranslations := occupation.translations.getD ∅
        let updatedCategoryTranslations := occupation.categoryTranslations.getD ∅
        occupation.withServerTranslations
          (match translations.lookup occupation.id with
            | none => updatedTranslations
            | some serverTranslation => updatedTranslations.insert languageCode serverTranslation)
          (match translations.lookup (lowercased occupation.englishCategory) with
            | none => updatedCategoryTranslations
            | some serverCategoryTranslation =>
                updatedCategoryTranslations.insert languageCode serverCategoryTranslation)

variable (clock : Clock Date) (bundle : TranslationBundle) (lowercased : String → String)
  (occupations : List OccupationModel) (currentLanguage : String)

def getAllOccupationsWithTranslations (s : BasicTranslationService)
    (languageCode : Option String) :
    Except String (List OccupationModel) × BasicTranslationService :=
  let targetLanguage := languageCode.getD currentLanguage
  if s.isTranslationCached targetLanguage .occupations then
    (.ok (applyServerTranslations lowercased s occupations targetLanguage), s)
  else
    match s.loadTranslations clock bundle targetLanguage .occupations with
    | (.error description, t) => (.error description, t)
    | (.ok _, t) => (.ok (applyServerTranslations lowercased t occupations targetLanguage), t)

/-- Text that is to be looked for is compared in lower case. -/
def searchOccupationsWithTranslations (s : BasicTranslationService) (query : String)
    (languageCode : Option String) :
    Except String (List OccupationModel) × BasicTranslationService :=
  match getAllOccupationsWithTranslations clock bundle lowercased occupations currentLanguage s
      languageCode with
  | (.error description, t) => (.error description, t)
  | (.ok allOccupations, t) =>
      if query = "" then (.ok allOccupations, t)
      else
        (.ok (allOccupations.filter fun occupation =>
          containsText (lowercased occupation.englishName) (lowercased query)
            || containsText (lowercased occupation.englishCategory) (lowercased query)
            || containsText (lowercased occupation.id) (lowercased query)), t)

end OccupationsDatabase

end SkillTalk
