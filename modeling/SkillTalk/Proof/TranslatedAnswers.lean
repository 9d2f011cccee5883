import SkillTalk.Proof.CategoryTranslations
import SkillTalk.TranslatedQueries

/-!
# What the queries with translations answer, and how often they load

A load never throws and always leaves an entry, of a missing file an empty one. A query therefore
answers from its table whatever the bundle holds, and loads a language once until it is dropped.
-/

namespace SkillTalk

namespace BasicTranslationService

variable (clock : Clock Date) (bundle : TranslationBundle) (s : BasicTranslationService)
  (languageCode : String) (referenceType : ReferenceDataType)

/-- The service once the translations of a language are there. -/
def ensured : BasicTranslationService :=
  if s.isTranslationCached languageCode referenceType then s
  else (s.loadTranslations clock bundle languageCode referenceType).2

theorem loadUnlessCached_eq : s.loadUnlessCached clock bundle languageCode referenceType
    = (.ok (), s.ensured clock bundle languageCode referenceType) := by
  by_cases hcached : s.isTranslationCached languageCode referenceType = true
  · rw [loadUnlessCached, ensured, if_pos hcached, if_pos hcached]
  · rw [loadUnlessCached, ensured, if_neg hcached, if_neg hcached]
    rfl

/-- What loading leaves of the caches and of the list of loads. -/
theorem loadTranslations_snd :
    let t := (s.loadTranslations clock bundle languageCode referenceType).2
    t.loads = s.loads ++ [(languageCode, referenceType)]
      ∧ t.translationCache = Function.update s.translationCache
          (cacheKey languageCode referenceType)
          (some (bundle.load languageCode referenceType 0).translations) := by
  rw [(bundle.load_contents languageCode referenceType 0 (clock.reading s.reads)).1]
  intro t
  cases hcategories :
      (bundle.load languageCode referenceType (clock.reading s.reads)).categories <;>
    simp [t, loadTranslations, loadTranslationsFromBundle, hcategories, markLoaded, setStatus,
      cacheCategoryTranslations, cacheTranslations, startLoading]

theorem loads_ensured : (s.ensured clock bundle languageCode referenceType).loads
    = if s.isTranslationCached languageCode referenceType then s.loads
      else s.loads ++ [(languageCode, referenceType)] := by
  by_cases hcached : s.isTranslationCached languageCode referenceType = true
  · rw [ensured, if_pos hcached, if_pos hcached]
  · rw [ensured, if_neg hcached, if_neg hcached]
    exact (loadTranslations_snd clock bundle s languageCode referenceType).1

/-- Other languages and types are cached as before. -/
theorem isTranslationCached_ensured (language : String) (type : ReferenceDataType) :
    (s.ensured clock bundle languageCode referenceType).isTranslationCached language type
      = (s.isTranslationCached language type
          || decide ((language, type) = (languageCode, referenceType))) := by
  by_cases hcached : s.isTranslationCached languageCode referenceType = true
  · rw [ensured, if_pos hcached]
    by_cases htarget : (language, type) = (languageCode, referenceType)
    · cases htarget
      rw [hcached, Bool.true_or]
    · rw [decide_eq_false htarget, Bool.or_false]
  · rw [ensured, if_neg hcached, isTranslationCached,
      (loadTranslations_snd clock bundle s languageCode referenceType).2]
    by_cases htarget : (language, type) = (languageCode, referenceType)
    · cases htarget
      simp
    · have hkey : cacheKey language type ≠ cacheKey languageCode referenceType := by
        intro h
        obtain ⟨rfl, rfl⟩ := cacheKey_inj h
        exact htarget rfl
      rw [Function.update_of_ne hkey, decide_eq_false htarget, Bool.or_false]
      rfl

theorem getCachedTranslations_ensured :
    ∃ names, (s.ensured clock bundle languageCode referenceType).getCachedTranslations languageCode
      referenceType = some names := by
  apply Option.isSome_iff_exists.mp
  have hcached := isTranslationCached_ensured clock bundle s languageCode referenceType
    languageCode referenceType
  rwa [decide_eq_true rfl, Bool.or_true] at hcached

theorem isTranslationCached_clearCachedTranslations (language : String) (type : ReferenceDataType) :
    (s.clearCachedTranslations languageCode referenceType).isTranslationCached language type
      = (s.isTranslationCached language type
          && !decide ((language, type) = (languageCode, referenceType))) := by
  rw [clearCachedTranslations, isTranslationCached]
  dsimp only
  by_cases htarget : (language, type) = (languageCode, referenceType)
  · cases htarget
    simp
  · have hkey : cacheKey language type ≠ cacheKey languageCode referenceType := by
      intro h
      obtain ⟨rfl, rfl⟩ := cacheKey_inj h
      exact htarget rfl
    rw [Function.update_of_ne hkey, decide_eq_false htarget, Bool.not_false, Bool.and_true]
    rfl

end BasicTranslationService

open BasicTranslationService

variable (clock : Clock Date) (bundle : TranslationBundle) (lowercased : String → String)
  (s : BasicTranslationService) (languageCode : Option String) (currentLanguage : String)

namespace CountriesDatabase

variable {Double : Type} (countries : List (CountryModel Double))

theorem getAllCountriesWithTranslations_eq :
    getAllCountriesWithTranslations clock bundle currentLanguage countries s languageCode
      = (.ok countries,
        s.ensured clock bundle (languageCode.getD currentLanguage) .countries) := by
  rw [getAllCountriesWithTranslations, loadUnlessCached_eq]
  dsimp only
  rw [applyServerTranslations]
  split <;> rfl

end CountriesDatabase

namespace HobbiesDatabase

variable (hobbies : List HobbyModel)

theorem getAllHobbiesWithTranslations_eq :
    getAllHobbiesWithTranslations clock bundle currentLanguage hobbies s languageCode
      = (.ok hobbies, s.ensured clock bundle (languageCode.getD currentLanguage) .hobbies) := by
  rw [getAllHobbiesWithTranslations, loadUnlessCached_eq]
  dsimp only
  rw [applyServerTranslations]
  split <;> rfl

end HobbiesDatabase

namespace OccupationsDatabase

variable (occupations : List OccupationModel)

/-- Each occupation is translated by the names that are cached afterwards. -/
theorem exists_getAllOccupationsWithTranslations :
    let language := languageCode.getD currentLanguage
    let t := s.ensured clock bundle language .occupations
    ∃ names, t.getCachedTranslations language .occupations = some names
      ∧ getAllOccupationsWithTranslations clock bundle lowercased occupations currentLanguage s
          languageCode
        = (.ok (occupations.map (translated lowercased language names)), t) := by
  intro language t
  obtain ⟨names, hnames⟩ := getCachedTranslations_ensured clock bundle s
    (languageCode.getD currentLanguage) .occupations
  refine ⟨names, hnames, ?_⟩
  rw [← applyServerTranslations_of_cached lowercased hnames, getAllOccupationsWithTranslations]
  by_cases hcached : s.isTranslationCached (languageCode.getD currentLanguage) .occupations = true
  · rw [if_pos hcached]
    simp only [t, language, ensured, if_pos hcached]
  · rw [if_neg hcached]
    simp only [t, language, ensured, if_neg hcached]
    rfl

end OccupationsDatabase

/-! ### The answers -/

/-- Whatever is asked, the items found are among all of them. -/
theorem OccupationsDatabase.mem_of_mem_answer {lowercased : String → String}
    {occupations : List OccupationModel} (query : TranslatedQuery) {occupation : OccupationModel}
    (hmem : occupation ∈ query.answer occupations (searchOccupations lowercased occupations)
      (getOccupationsInCategory lowercased occupations)) : occupation ∈ occupations := by
  cases query with
  | all => exact hmem
  | search query =>
      change occupation ∈ searchOccupations lowercased occupations query at hmem
      rw [searchOccupations] at hmem
      split at hmem
      · exact hmem
      · exact List.mem_of_mem_filter hmem
  | inGroup category => exact List.mem_of_mem_filter hmem

namespace HobbiesDatabase

/-- An entry of the table. -/
structure HobbyEntry where
  id : String
  englishName : String
  englishCategory : String

/-- The table's hobbies come without translations and without marks of their own. -/
def HobbyEntry.model (entry : HobbyEntry) : HobbyModel :=
  .make entry.id entry.englishName entry.englishCategory none none false

/-- The hobby, with the database's list of popular hobbies taken in. -/
def marked (hobby : HobbyModel) : HobbyModel :=
  { hobby with isPopular := hobby.isPopular || popularHobbyIds.contains hobby.id }

theorem localizedHobby_model (entry : HobbyEntry) :
    localizedHobby entry.model = marked entry.model := by
  simp only [localizedHobby, marked, HobbyEntry.model, HobbyModel.make, Bool.false_or,
    Bool.or_comm]

theorem map_localizedHobby {hobbies : List HobbyModel}
    (hmodels : ∀ hobby ∈ hobbies, ∃ entry : HobbyEntry, entry.model = hobby) :
    hobbies.map localizedHobby = hobbies.map marked := by
  apply List.map_congr_left
  intro hobby hmem
  obtain ⟨entry, rfl⟩ := hmodels hobby hmem
  exact localizedHobby_model entry

/-- A hobby found by its id is the one among all of them. -/
theorem getHobby_eq (hobbies : List HobbyModel) (id : String) :
    getHobby hobbies id = (getAllHobbies hobbies).find? fun hobby => hobby.id = id := by
  rw [getHobby, getAllHobbies, List.find?_map]
  rfl

/-- The popular hobbies are those that the database lists, not those that the model marks. -/
theorem getPopularHobbies_eq (hobbies : List HobbyModel) :
    getPopularHobbies hobbies
      = (getAllHobbies hobbies).filter fun hobby => popularHobbyIds.contains hobby.id := by
  rw [getPopularHobbies, getAllHobbies, List.filter_map]
  apply List.map_congr_left
  intro hobby hmem
  have hpopular : popularHobbyIds.contains hobby.id = true := (List.mem_filter.mp hmem).2
  rw [localizedHobby, hpopular]

variable (table : List HobbyEntry)

theorem exists_entry_of_mem_filter (p : HobbyModel → Bool) :
    ∀ hobby ∈ (table.map HobbyEntry.model).filter p, ∃ entry : HobbyEntry, entry.model = hobby := by
  intro hobby hmem
  obtain ⟨entry, -, hentry⟩ := List.mem_map.mp (List.mem_of_mem_filter hmem)
  exact ⟨entry, hentry⟩

theorem getAllHobbies_model :
    getAllHobbies (table.map HobbyEntry.model) = (table.map HobbyEntry.model).map marked := by
  apply map_localizedHobby
  simpa only [List.filter_true] using exists_entry_of_mem_filter table fun _ => true

end HobbiesDatabase

namespace TranslatedQueries

open OccupationsDatabase HobbiesDatabase

variable {Double : Type} (countries : List (CountryModel Double))
  (occupations : List OccupationEntry) (hobbies : List HobbyEntry)

/-- The tables as the databases hold them. -/
def tablesOf : ReferenceTables Double :=
  ⟨countries, occupations.map OccupationEntry.model, hobbies.map HobbyEntry.model⟩

variable (query : TranslatedQuery)

theorem askCountries_eq (tables : ReferenceTables Double) :
    askCountries clock bundle lowercased tables s currentLanguage languageCode query
    = (.ok (query.answer tables.countries
          (CountriesDatabase.searchCountries lowercased tables.countries)
          (CountriesDatabase.getCountriesInRegion lowercased tables.countries)),
        s.ensured clock bundle (languageCode.getD currentLanguage) .countries) := by
  cases query with
  | all =>
      change CountriesDatabase.getAllCountriesWithTranslations .. = _
      rw [CountriesDatabase.getAllCountriesWithTranslations_eq]
      rfl
  | search query =>
      change CountriesDatabase.searchCountriesWithTranslations .. = _
      rw [CountriesDatabase.searchCountriesWithTranslations,
        CountriesDatabase.getAllCountriesWithTranslations_eq]
      rfl
  | inGroup region =>
      change CountriesDatabase.getCountriesByRegionWithTranslations .. = _
      rw [CountriesDatabase.getCountriesByRegionWithTranslations,
        CountriesDatabase.getAllCountriesWithTranslations_eq]
      rfl

/-- The occupations without translations are found, and then translated. -/
theorem exists_askOccupations (tables : ReferenceTables Double) :
    let language := languageCode.getD currentLanguage
    let t := s.ensured clock bundle language .occupations
    ∃ names, t.getCachedTranslations language .occupations = some names
      ∧ askOccupations clock bundle lowercased tables s currentLanguage languageCode query
        = (.ok ((query.answer tables.occupations
            (searchOccupations lowercased tables.occupations)
            (getOccupationsInCategory lowercased tables.occupations)).map
              (translated lowercased language names)), t) := by
  obtain ⟨names, hnames, hall⟩ := exists_getAllOccupationsWithTranslations clock bundle lowercased
    s languageCode currentLanguage tables.occupations
  refine ⟨names, hnames, ?_⟩
  cases query with
  | all => exact hall
  | search query =>
      change searchOccupationsWithTranslations .. = _
      rw [searchOccupationsWithTranslations, hall]
      dsimp only [TranslatedQuery.answer]
      by_cases hquery : query = ""
      · rw [if_pos hquery, searchOccupations, if_pos hquery]
      · rw [if_neg hquery, searchOccupations, if_neg hquery]
        exact congrArg (fun found => (Except.ok found, _)) List.filter_map
  | inGroup category =>
      change getOccupationsByCategoryWithTranslations .. = _
      rw [getOccupationsByCategoryWithTranslations, hall]
      exact congrArg (fun found => (Except.ok found, _)) List.filter_map

theorem askHobbies_snd (tables : ReferenceTables Double) :
    (askHobbies clock bundle lowercased tables s currentLanguage languageCode query).2
      = s.ensured clock bundle (languageCode.getD currentLanguage) .hobbies := by
  cases query with
  | all =>
      change (getAllHobbiesWithTranslations ..).2 = _
      rw [getAllHobbiesWithTranslations_eq]
  | search query =>
      change (searchHobbiesWithTranslations ..).2 = _
      rw [searchHobbiesWithTranslations, getAllHobbiesWithTranslations_eq]
      rfl
  | inGroup category =>
      change (getHobbiesByCategoryWithTranslations ..).2 = _
      rw [getHobbiesByCategoryWithTranslations, getAllHobbiesWithTranslations_eq]
      rfl

/-- The hobbies with translations are found, and then marked. -/
theorem exists_askHobbies (hids : ∀ entry ∈ hobbies, lowercased entry.id = entry.id)
    (hquery : query ≠ .search "") :
    ∃ found, (askHobbies clock bundle lowercased (tablesOf countries occupations hobbies) s
        currentLanguage languageCode query).1 = .ok found
      ∧ query.answer (getAllHobbies (hobbies.map HobbyEntry.model))
          (searchHobbies lowercased (hobbies.map HobbyEntry.model))
          (getHobbiesByCategory lowercased (hobbies.map HobbyEntry.model))
        = found.map marked := by
  cases query with
  | all =>
      refine ⟨hobbies.map HobbyEntry.model, ?_, getAllHobbies_model hobbies⟩
      change (getAllHobbiesWithTranslations ..).1 = _
      rw [getAllHobbiesWithTranslations_eq]
      rfl
  | search query =>
      have hne : query ≠ "" := fun h => hquery (congrArg _ h)
      refine ⟨_, ?_, map_localizedHobby (exists_entry_of_mem_filter hobbies _)⟩
      change (searchHobbiesWithTranslations ..).1 = _
      rw [searchHobbiesWithTranslations, getAllHobbiesWithTranslations_eq]
      refine congrArg Except.ok ?_
      dsimp only
      rw [if_neg hne]
      apply List.filter_congr
      intro hobby hmem
      obtain ⟨entry, hentry, rfl⟩ := List.mem_map.mp hmem
      have hid : lowercased entry.model.id = entry.model.id := hids entry hentry
      rw [hid]
  | inGroup category =>
      refine ⟨_, ?_, map_localizedHobby (exists_entry_of_mem_filter hobbies _)⟩
      change (getHobbiesByCategoryWithTranslations ..).1 = _
      rw [getHobbiesByCategoryWithTranslations, getAllHobbiesWithTranslations_eq]
      rfl

/-- **Queries with translations answer as those without**: they never throw, and whatever is cached
or in the bundle, countries are the same, occupations differ in their translations only, and
hobbies in not being marked by the database's list of popular ones. -/
theorem translated_queries_agree (hids : ∀ entry ∈ hobbies, lowercased entry.id = entry.id)
    (hquery : query ≠ .search "") :
    let tables : ReferenceTables Double := tablesOf countries occupations hobbies
    let language := languageCode.getD currentLanguage
    (askCountries clock bundle lowercased tables s currentLanguage languageCode query).1
        = .ok (query.answer tables.countries
          (CountriesDatabase.searchCountries lowercased tables.countries)
          (CountriesDatabase.getCountriesInRegion lowercased tables.countries))
      ∧ (∃ found t names,
          askOccupations clock bundle lowercased tables s currentLanguage languageCode query
            = (.ok found, t)
          ∧ t.getCachedTranslations language .occupations = some names
          ∧ List.Forall₂ (LocallyUpdated language names)
              (query.answer tables.occupations
                (searchOccupations lowercased tables.occupations)
                (getOccupationsInCategory lowercased tables.occupations))
              found)
      ∧ ∃ found,
          (askHobbies clock bundle lowercased tables s currentLanguage languageCode query).1
            = .ok found
          ∧ query.answer (getAllHobbies tables.hobbies) (searchHobbies lowercased tables.hobbies)
              (getHobbiesByCategory lowercased tables.hobbies)
            = found.map marked := by
  intro tables language
  refine ⟨?_, ?_, exists_askHobbies clock bundle lowercased s languageCode currentLanguage countries
    occupations hobbies query hids hquery⟩
  · rw [askCountries_eq]
  · obtain ⟨names, hnames, hask⟩ := exists_askOccupations clock bundle lowercased s languageCode
      currentLanguage query tables
    refine ⟨_, _, names, hask, hnames, ?_⟩
    rw [List.forall₂_map_right_iff, List.forall₂_same]
    intro occupation hmem
    have hbuilt : occupation.Built := by
      obtain ⟨entry, -, rfl⟩ := List.mem_map.mp (mem_of_mem_answer query hmem)
      exact .make _ _ _ _ _ _
    exact locallyUpdated_translated lowercased names hbuilt

/-- Gaming is on the database's list of popular hobbies and not on that of the initializer. -/
theorem translated_queries_agree_gaming :
    let hobbies : List HobbyEntry := [⟨"gaming", "Gaming", "Technology"⟩]
    ∃ found,
      (askHobbies (Clock.ofGaps []) (fun _ _ => none) String.toLower
          (tablesOf ([] : List (CountryModel ℕ)) [] hobbies) .initial "en" (some "sv")
          (.search "Gam")).1 = .ok found
        ∧ searchHobbies String.toLower (hobbies.map HobbyEntry.model) "Gam" = found.map marked := by
  intro hobbies
  have hids : ∀ entry ∈ hobbies, String.toLower entry.id = entry.id :=
    List.forall_mem_singleton.mpr (by decide +kernel)
  have hquery : TranslatedQuery.search "Gam" ≠ .search "" := by simp
  exact (translated_queries_agree (Clock.ofGaps []) (fun _ _ => none) String.toLower .initial
    (some "sv") "en" ([] : List (CountryModel ℕ)) [] hobbies (.search "Gam") hids hquery).2.2

/-! ### The loads -/

/-- The language and type whose translations a query needs. -/
def target (w : TranslatedQueries) (database : TranslatedDatabase) (languageCode : Option String) :
    String × ReferenceDataType :=
  (languageCode.getD (w.currentLanguage database), database.referenceType)

variable {clock bundle lowercased} {tables : ReferenceTables Double} {w w' : TranslatedQueries}
  (key : String × ReferenceDataType)

/-- The action is a query that needs the translations. -/
def needs (w : TranslatedQueries) : TranslatedQueriesAction → Bool
  | .ask database _ languageCode => w.target database languageCode = key
  | _ => false

/-- The action drops the translations. -/
def drops : TranslatedQueriesAction → Bool
  | .clearTranslationCache => true
  | .clearCachedTranslations languageCode referenceType => (languageCode, referenceType) = key
  | _ => false

/-- The translations are cached. -/
def holds (w : TranslatedQueries) : Bool := w.service.isTranslationCached key.1 key.2

/-- How often the translations have been loaded. -/
def loadCount (w : TranslatedQueries) : ℕ := w.service.loads.count key

theorem ask_eq (tables : ReferenceTables Double) (database : TranslatedDatabase)
    (languageCode : Option String) :
    w.ask clock bundle lowercased tables database query languageCode
      = w.service.ensured clock bundle (w.target database languageCode).1
          (w.target database languageCode).2 := by
  cases database with
  | countries => exact congrArg Prod.snd (askCountries_eq ..)
  | occupations =>
      obtain ⟨_, -, hask⟩ := exists_askOccupations clock bundle lowercased w.service languageCode
        (w.currentLanguage .occupations) query tables
      exact congrArg Prod.snd hask
  | hobbies => exact askHobbies_snd ..

theorem loadCount_ask (database : TranslatedDatabase) (languageCode : Option String) :
    (w.service.ensured clock bundle (w.target database languageCode).1
        (w.target database languageCode).2).loads.count key
      = w.loadCount key
        + if w.target database languageCode = key ∧ w.holds key = false then 1 else 0 := by
  rw [loads_ensured]
  by_cases htarget : w.target database languageCode = key
  · subst htarget
    cases hholds : w.holds (w.target database languageCode) with
    | true => simp [holds] at hholds; simp [hholds, loadCount]
    | false => simp [holds] at hholds; simp [hholds, loadCount]
  · simp only [htarget, false_and, if_false, Nat.add_zero]
    split
    · rfl
    · rw [List.count_append, List.count_singleton, loadCount]
      simp [htarget]

/-- What a step does to the translations of a language and type. -/
theorem step_spec {action : TranslatedQueriesAction}
    (hstep : (translatedQueries clock bundle lowercased tables).step w action = some w') :
    w'.loadCount key
        = w.loadCount key + (if w.needs key action = true ∧ w.holds key = false then 1 else 0)
      ∧ w'.holds key = ((w.holds key || w.needs key action) && !drops key action) := by
  cases action with
  | ask database query languageCode =>
      obtain rfl := Option.some.inj hstep
      constructor
      · rw [loadCount]
        dsimp only
        rw [ask_eq]
        simpa only [needs, decide_eq_true_eq] using loadCount_ask key database languageCode
      · rw [holds]
        dsimp only
        rw [ask_eq, isTranslationCached_ensured]
        simp only [drops, Bool.not_false, Bool.and_true, holds, needs, Prod.mk.eta, eq_comm]
  | setCurrentLanguage database languageCode =>
      obtain rfl := Option.some.inj hstep
      cases database <;> simp [setCurrentLanguage, needs, drops, loadCount, holds]
  | changeLocale languageCode =>
      obtain rfl := Option.some.inj hstep
      simp [needs, drops, loadCount, holds]
  | clearTranslationCache =>
      obtain rfl := Option.some.inj hstep
      simp [needs, drops, loadCount, holds, clearTranslationCache, isTranslationCached]
  | clearCachedTranslations languageCode referenceType =>
      obtain rfl := Option.some.inj hstep
      constructor
      · simp [needs, loadCount, clearCachedTranslations]
      · rw [holds]
        dsimp only
        rw [isTranslationCached_clearCachedTranslations]
        simp only [drops, holds, needs, Bool.or_false, Prod.mk.eta, eq_comm]

theorem exec_potential {actions : List TranslatedQueriesAction}
    (hexec : (translatedQueries clock bundle lowercased tables).exec w actions = some w') :
    w'.loadCount key + (w.holds key).toNat
      ≤ w.loadCount key + (w'.holds key).toNat + actions.countP (drops key) := by
  induction actions generalizing w with
  | nil =>
      obtain rfl := Option.some.inj hexec
      exact Nat.le_refl _
  | cons action actions ih =>
      obtain ⟨u, hstep, hrest⟩ := Machine.exec_cons_eq_some hexec
      obtain ⟨hcount, hholds⟩ := step_spec key hstep
      have hle := ih hrest
      rw [hcount, hholds] at hle
      rw [List.countP_cons]
      cases hw : w.holds key <;> cases hdrops : drops key action <;>
        by_cases hneeds : w.needs key action = true <;> simp_all <;> omega

variable (clock bundle lowercased tables w) in
/-- Some query of the run needs the translations. -/
def needed (actions : List TranslatedQueriesAction) : Bool :=
  ((translatedQueries clock bundle lowercased tables).transitions w actions).any fun x =>
    x.1.needs key x.2.1

theorem exec_without_drops {actions : List TranslatedQueriesAction}
    (hexec : (translatedQueries clock bundle lowercased tables).exec w actions = some w')
    (hkept : ∀ action ∈ actions, drops key action = false) :
    w'.loadCount key = w.loadCount key
      + if needed clock bundle lowercased tables w key actions && !w.holds key then 1 else 0 := by
  induction actions generalizing w with
  | nil =>
      obtain rfl := Option.some.inj hexec
      simp [needed]
  | cons action actions ih =>
      obtain ⟨u, hstep, hrest⟩ := Machine.exec_cons_eq_some hexec
      obtain ⟨hcount, hholds⟩ := step_spec key hstep
      obtain ⟨hkept, hkepts⟩ := List.forall_mem_cons.mp hkept
      rw [ih hrest hkepts, hcount, hholds, hkept, needed, needed,
        Machine.transitions_cons_of_step hstep, List.any_cons]
      generalize List.any _ _ = asked
      cases w.holds key <;> cases w.needs key action <;> cases asked <;> rfl

/-- **Translations are loaded once until they are dropped**, also where the file is missing: by
queries one after another at most once more than they were dropped, and while they are not dropped
exactly if a query needs them that are not there. -/
theorem translations_load_once {actions : List TranslatedQueriesAction}
    (hexec : (translatedQueries clock bundle lowercased tables).exec w actions = some w') :
    w'.loadCount key ≤ w.loadCount key + actions.countP (drops key) + 1
      ∧ ((∀ action ∈ actions, drops key action = false) →
        w'.loadCount key = w.loadCount key
          + if needed clock bundle lowercased tables w key actions && !w.holds key
            then 1 else 0) := by
  refine ⟨?_, exec_without_drops key hexec⟩
  have hpotential := exec_potential key hexec
  have hle := Bool.toNat_le (w'.holds key)
  omega

/-- Swedish, whose file is missing, is loaded once for the hobbies: the locale is Swedish, and setting
their language does not change it. -/
theorem translations_load_once_missing :
    let queries := translatedQueries (Clock.ofGaps []) (fun _ _ => none) id
      (⟨[], [], []⟩ : ReferenceTables ℕ)
    let actions : List TranslatedQueriesAction :=
      [.changeLocale "sv", .ask .hobbies .all none, .setCurrentLanguage .hobbies "de",
        .ask .hobbies .all none, .ask .hobbies (.search "a") (some "sv")]
    ∃ w', queries.exec ⟨.initial, "en", "en", "en"⟩ actions = some w'
      ∧ w'.loadCount ("sv", .hobbies) = 1 := by
  intro queries actions
  obtain ⟨w', hexec⟩ : ∃ w', queries.exec ⟨.initial, "en", "en", "en"⟩ actions = some w' := ⟨_, rfl⟩
  refine ⟨w', hexec, ((translations_load_once ("sv", .hobbies) hexec).2 ?_).trans ?_⟩
  · decide
  · decide +kernel

end TranslatedQueries

end SkillTalk
