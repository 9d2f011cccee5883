import SkillTalk.OccupationsDatabase

/-!
# Failed translation loads

A load reports a failure in its result, and what follows does not look there: the empty translations
of the failed result are cached and the status becomes loaded. A cached empty dictionary counts as
cached, so nothing tries the load again.
-/

namespace SkillTalk

variable {clock : Clock Date} {bundle : TranslationBundle} {languageCode : String}
  {referenceType : ReferenceDataType} {timestamp : Date}

theorem TranslationBundle.load_of_failed
    (h : (bundle.load languageCode referenceType timestamp).success = false) :
    (bundle.load languageCode referenceType timestamp).translations = ∅
      ∧ (bundle.load languageCode referenceType timestamp).categories = none := by
  unfold load at h ⊢
  dsimp only at h ⊢
  cases hurl : bundle.url languageCode referenceType with
  | none => simp
  | some file =>
      cases hparse : file.parse with
      | error description => simp [hparse]
      | ok jsonDict => simp [hurl, hparse] at h

namespace BasicTranslationService

/-- `t` is what a failed load should make of `s`. -/
structure FailureContained (s t : BasicTranslationService) (languageCode : String)
    (referenceType : ReferenceDataType) : Prop where
  translations : t.translationCache = s.translationCache
  categories : t.categoryCache = s.categoryCache
  cached : t.isTranslationCached languageCode referenceType = true →
    s.isTranslationCached languageCode referenceType = true
  status : ∀ date, t.status languageCode referenceType ≠ .loaded date
  retried : s.isTranslationCached languageCode .occupations = false →
    referenceType = .occupations →
    ∀ clock bundle lowercased occupations currentLanguage,
      (OccupationsDatabase.getAllOccupationsWithTranslations clock bundle lowercased occupations
          currentLanguage t (some languageCode)).2.loads
        = t.loads ++ [(languageCode, .occupations)]

/-- What a failed load makes of the service. -/
theorem loadTranslations_of_failed (s : BasicTranslationService)
    (h : (bundle.load languageCode referenceType (clock.reading s.reads)).success = false) :
    (s.loadTranslations clock bundle languageCode referenceType).2
      = { s with
          translationCache :=
            Function.update s.translationCache (cacheKey languageCode referenceType) (some ∅)
          loadingStatus :=
            Function.update s.loadingStatus (cacheKey languageCode referenceType)
              (some (.loaded (clock.reading (s.reads + 1))))
          reads := s.reads + 2
          loads := s.loads ++ [(languageCode, referenceType)] } := by
  obtain ⟨htranslations, hcategories⟩ := TranslationBundle.load_of_failed h
  have hread : (s.startLoading languageCode referenceType).reads = s.reads := by
    simp [startLoading, setStatus]
  simp only [loadTranslations, loadTranslationsFromBundle, hread, hcategories, htranslations]
  simp [markLoaded, cacheTranslations, setStatus, startLoading]

/-- **A failed load is never contained.** It leaves an empty dictionary cached, in place of whatever
was cached before, and the status loaded, so that the occupations are served without a retry. Only
the category cache is left alone. -/
theorem failed_load_not_contained (clock : Clock Date) (bundle : TranslationBundle)
    (s : BasicTranslationService) (languageCode : String) (referenceType : ReferenceDataType)
    (hfailed : (bundle.load languageCode referenceType (clock.reading s.reads)).success = false) :
    let t := (s.loadTranslations clock bundle languageCode referenceType).2
    ¬ FailureContained s t languageCode referenceType
      ∧ t.getCachedTranslations languageCode referenceType = some ∅
      ∧ t.categoryCache = s.categoryCache
      ∧ (∃ date, t.status languageCode referenceType = .loaded date)
      ∧ (referenceType = .occupations → ∀ bundle lowercased occupations currentLanguage,
          (OccupationsDatabase.getAllOccupationsWithTranslations clock bundle lowercased occupations
            currentLanguage t (some languageCode)).2 = t) := by
  intro t
  have ht := loadTranslations_of_failed s hfailed
  have hcached : t.getCachedTranslations languageCode referenceType = some ∅ := by
    simp [t, ht, getCachedTranslations]
  have hstatus : t.status languageCode referenceType
      = .loaded (clock.reading (s.reads + 1)) := by
    simp [t, ht, status]
  refine ⟨fun h => h.status _ hstatus, hcached, by simp [t, ht], ⟨_, hstatus⟩, ?_⟩
  intro htype bundle lowercased occupations currentLanguage
  have hhit : t.isTranslationCached languageCode .occupations = true := by
    rw [htype] at hcached
    simp only [isTranslationCached]
    rw [getCachedTranslations] at hcached
    simp [hcached]
  simp [OccupationsDatabase.getAllOccupationsWithTranslations, hhit]

/-- There is no file for Maltese in an empty bundle. -/
theorem failed_load_not_contained_of_missing :
    let clock := Clock.ofGaps []
    let t := (initial.loadTranslations clock (fun _ _ => none) "mt" .occupations).2
    ¬ FailureContained initial t "mt" .occupations
      ∧ t.getCachedTranslations "mt" .occupations = some ∅ := by
  intro clock t
  have hfailed := failed_load_not_contained clock (fun _ _ => none) initial "mt" .occupations
    (by decide +kernel)
  exact ⟨hfailed.1, hfailed.2.1⟩

/-- A file that is not JSON makes Swedish hobbies cached. -/
theorem unreadable_file_cached :
    ∃ (clock : Clock Date) (bundle : TranslationBundle) (s : BasicTranslationService)
      (languageCode : String) (referenceType : ReferenceDataType),
      (bundle.load languageCode referenceType (clock.reading s.reads)).success = false
        ∧ ¬ FailureContained s (s.loadTranslations clock bundle languageCode referenceType).2
            languageCode referenceType := by
  refine ⟨Clock.ofGaps [], fun _ _ => some (.unreadable "not JSON"), initial, "sv", .hobbies,
    by decide +kernel, fun h => ?_⟩
  have hkept := h.cached (by decide +kernel)
  revert hkept
  decide +kernel

end BasicTranslationService

end SkillTalk
