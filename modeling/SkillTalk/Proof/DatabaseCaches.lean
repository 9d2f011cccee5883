import SkillTalk.Library.CacheEntries
import SkillTalk.Library.JoinedText
import SkillTalk.SkillDatabaseService

/-!
# What the database service caches

Every cache entry is what its load returns when it reads the files. A key determines the id and the
language it was made of when the language has no underscore, so a call finds the entry of its own
load or none, and answers as a service without caches does.
-/

namespace SkillTalk

open CacheEntries Refinement SkillDatabaseService

variable {ε : Type} (files : DatabaseFiles ε) (contains : String → String → Bool)

theorem cacheKey_injective {id language id' language' : String} (hlanguage : '_' ∉ language.toList)
    (hlanguage' : '_' ∉ language'.toList) (hkey : cacheKey id language = cacheKey id' language') :
    id = id' ∧ language = language' :=
  JoinedText.string_inj_of_not_mem_last (by simp) hlanguage hlanguage' hkey

/-- The key and the value are those of a load that returns, for a language without underscore. -/
def ReadAs {α : Type} (read : String → String → Except (DatabaseFailure ε) α) (key : String)
    (value : α) : Prop :=
  ∃ id language, '_' ∉ language.toList ∧ key = cacheKey id language
    ∧ read id language = .ok value

theorem ReadAs.read_eq {α : Type} {read : String → String → Except (DatabaseFailure ε) α}
    {id language : String} {value : α} (h : ReadAs read (cacheKey id language) value)
    (hlanguage : '_' ∉ language.toList) : read id language = .ok value := by
  obtain ⟨id', language', hlanguage', hkey, hread⟩ := h
  obtain ⟨rfl, rfl⟩ := cacheKey_injective hlanguage hlanguage' hkey
  exact hread

/-- Each entry is what the load it belongs to reads. -/
structure EntriesRead (s : SkillDatabaseService) : Prop where
  categories : AllEntries (fun language value => files.readCategories language = .ok value)
    s.categoriesCache
  subcategories : AllEntries (ReadAs files.readSubcategories) s.subcategoriesCache
  skills : AllEntries (ReadAs files.readSkills) s.skillsCache

theorem entriesRead_initial : EntriesRead files initial := ⟨.empty, .empty, .empty⟩

/-! ### The loads -/

theorem loadCategories_refines (language : String) :
    Refines (EntriesRead files) ((skillDatabaseService files).loadCategories language)
      (files.readCategories language) := by
  apply Refines.cached
  · intro s value hs hentry
    exact hs.categories language value hentry
  · intro s value hs hread
    exact ⟨hs.categories.insert hread, hs.subcategories, hs.skills⟩

theorem loadSubcategories_refines (categoryId : String) {language : String}
    (hlanguage : '_' ∉ language.toList) :
    Refines (EntriesRead files) ((skillDatabaseService files).loadSubcategories categoryId language)
      (files.readSubcategories categoryId language) := by
  apply Refines.cached
  · intro s value hs hentry
    exact (hs.subcategories _ value hentry).read_eq hlanguage
  · intro s value hs hread
    have hentry : ReadAs files.readSubcategories (cacheKey categoryId language) value :=
      ⟨categoryId, language, hlanguage, rfl, hread⟩
    exact ⟨hs.categories, hs.subcategories.insert hentry, hs.skills⟩

theorem loadSkills_refines (subcategoryId : String) {language : String}
    (hlanguage : '_' ∉ language.toList) :
    Refines (EntriesRead files) ((skillDatabaseService files).loadSkills subcategoryId language)
      (files.readSkills subcategoryId language) := by
  apply Refines.cached
  · intro s value hs hentry
    exact (hs.skills _ value hentry).read_eq hlanguage
  · intro s value hs hread
    have hentry : ReadAs files.readSkills (cacheKey subcategoryId language) value :=
      ⟨subcategoryId, language, hlanguage, rfl, hread⟩
    exact ⟨hs.categories, hs.subcategories, hs.skills.insert hentry⟩

/-! ### Searching -/

theorem loadAllSkills_refines {language : String} (hlanguage : '_' ∉ language.toList) :
    Refines (EntriesRead files) ((skillDatabaseService files).loadAllSkills language)
      ((cachelessService files).loadAllSkills language) := by
  apply Refines.bind (loadCategories_refines files language)
  intro categories
  apply Refines.foldlM
  intro allSkills category
  apply Refines.bind (loadSubcategories_refines files category.id hlanguage)
  intro subcategories
  apply Refines.foldlM
  intro allSkills subcategory
  apply Refines.bind (loadSkills_refines files subcategory.id hlanguage)
  intro skills
  exact Refines.pure _

theorem searchSkills_refines (query : String) {language : String}
    (hlanguage : '_' ∉ language.toList) :
    Refines (EntriesRead files)
      ((skillDatabaseService files).searchSkills contains query language)
      ((cachelessService files).searchSkills contains query language) := by
  apply Refines.bind (loadAllSkills_refines files hlanguage)
  intro allSkills
  exact Refines.pure _

theorem getPopularSkills_refines {language : String} (limit : Int)
    (hlanguage : '_' ∉ language.toList) :
    Refines (EntriesRead files) ((skillDatabaseService files).getPopularSkills language limit)
      ((cachelessService files).getPopularSkills language limit) := by
  apply Refines.bind (loadAllSkills_refines files hlanguage)
  intro allSkills
  by_cases hlimit : limit < 0
  · simp only [if_pos hlimit]
    exact Refines.throw _
  · simp only [if_neg hlimit]
    exact Refines.pure _

theorem perform_refines {call : DatabaseCall} (hlanguage : '_' ∉ call.language.toList) :
    Refines (EntriesRead files) ((skillDatabaseService files).perform contains call)
      ((cachelessService files).perform contains call) := by
  cases call with
  | loadCategories language => exact (loadCategories_refines files language).map _
  | loadSubcategories categoryId language =>
      exact (loadSubcategories_refines files categoryId hlanguage).map _
  | loadSkills subcategoryId language =>
      exact (loadSkills_refines files subcategoryId hlanguage).map _
  | searchSkills query language =>
      exact (searchSkills_refines files contains query hlanguage).map _
  | getPopularSkills language limit =>
      exact (getPopularSkills_refines files limit hlanguage).map _

/-! ### Runs -/

theorem cachedAnswers_eq {s : SkillDatabaseService} (hs : EntriesRead files s)
    {calls : List DatabaseCall} (hlanguages : ∀ call ∈ calls, '_' ∉ call.language.toList) :
    cachedAnswers files contains s calls = cachelessAnswers files contains calls := by
  induction calls generalizing s with
  | nil => rfl
  | cons call calls ih =>
      rw [List.forall_mem_cons] at hlanguages
      obtain ⟨t, ht, hrun⟩ := perform_refines files contains hlanguages.1 s hs
      have hrest : cachedAnswers files contains t calls = cachelessAnswers files contains calls :=
        ih ht hlanguages.2
      rw [cachedAnswers, cachelessAnswers, hrun]
      cases (cachelessService files).perform contains call with
      | ok answer => simp only [reach, hrest]
      | error failure => cases failure <;> simp only [reach, hrest]

/-- The languages of the calls have no underscore. -/
def PlainLanguage (_ : SkillDatabaseService) (call : DatabaseCall) : Prop :=
  '_' ∉ call.language.toList

variable {files contains} in
theorem entriesRead_of_reachable {s : SkillDatabaseService}
    (hs : (skillDatabase files contains).ReachableWhere PlainLanguage s) : EntriesRead files s := by
  refine Machine.ReachableWhere.invariant (EntriesRead files) ?_ ?_ hs
  · rintro s rfl
    exact entriesRead_initial files
  · intro s call t _ hs hlanguage hstep
    obtain ⟨u, hu, hrun⟩ := perform_refines files contains hlanguage s hs
    simp only [skillDatabase, hrun] at hstep
    cases hspec : (cachelessService files).perform contains call with
    | ok answer =>
        rw [hspec] at hstep
        exact Option.some.inj hstep ▸ hu
    | error failure =>
        rw [hspec] at hstep
        cases failure with
        | thrown error => exact Option.some.inj hstep ▸ hu
        | trapped => cases hstep

def DatabaseCall.isLoad : DatabaseCall → Bool
  | .loadCategories _ => true
  | .loadSubcategories _ _ => true
  | .loadSkills _ _ => true
  | _ => false

theorem load_error_keeps_caches {call : DatabaseCall} (hload : call.isLoad = true)
    {s t : SkillDatabaseService} {failure : DatabaseFailure ε}
    (h : (skillDatabaseService files).perform contains call s = .error failure t) : t = s := by
  cases call with
  | loadCategories language => exact cached_of_error (map_eq_error h)
  | loadSubcategories categoryId language => exact cached_of_error (map_eq_error h)
  | loadSkills subcategoryId language => exact cached_of_error (map_eq_error h)
  | searchSkills query language => cases hload
  | getPopularSkills language limit => cases hload

/-- **The caches are transparent.** Runs answer as without caches, keys are not shared, every entry
is what its load returns, and a load that throws leaves the caches as they were. -/
theorem caches_transparent (files : DatabaseFiles ε) (contains : String → String → Bool) :
    (∀ calls : List DatabaseCall, (∀ call ∈ calls, '_' ∉ call.language.toList) →
        cachedAnswers files contains initial calls = cachelessAnswers files contains calls)
      ∧ (∀ id language id' language', '_' ∉ language.toList → '_' ∉ language'.toList →
          cacheKey id language = cacheKey id' language' → id = id' ∧ language = language')
      ∧ (∀ s, (skillDatabase files contains).ReachableWhere PlainLanguage s → EntriesRead files s)
      ∧ ∀ call s failure t, call.isLoad = true →
          (skillDatabaseService files).perform contains call s = .error failure t → t = s := by
  refine ⟨?_, ?_, ?_, ?_⟩
  · intro calls hlanguages
    exact cachedAnswers_eq files contains (entriesRead_initial files) hlanguages
  · intro id language id' language' hlanguage hlanguage' hkey
    exact cacheKey_injective hlanguage hlanguage' hkey
  · intro s hs
    exact entriesRead_of_reachable hs
  · intro call s failure t hload hthrows
    exact load_error_keeps_caches files contains hload hthrows

/-- One category with one subcategory with one skill, in every language. -/
def sampleFiles : DatabaseFiles String where
  databasePath := "database"
  coreCategories _ := .ok [⟨"music", none, none, 1⟩]
  coreSubcategories _ := .ok [⟨"music_guitar", "music", none, 1⟩]
  coreSkills _ := .ok [⟨"skill_1", "music_guitar", 2, 80, false, false, ["strings"], ∅⟩]
  categoryTranslations _ := .ok [⟨"music", "Music"⟩]
  subcategoryTranslations _ := .ok [⟨"music_guitar", "Guitar"⟩]
  skillTranslations _ := .ok [⟨"skill_1", "Fingerstyle"⟩]

def withoutSubcategories : DatabaseFiles String :=
  { sampleFiles with coreSubcategories := fun _ => .error "no such file" }

/-- A search that throws at the subcategories leaves the entry of its categories. -/
theorem search_throws_and_caches :
    ∃ t, (skillDatabaseService withoutSubcategories).perform (fun text query => text = query)
          (.searchSkills "guitar" "en") initial = .error (.thrown "no such file") t
      ∧ initial.categoriesCache "en" = none
      ∧ t.categoriesCache "en" = some [⟨"music", "Music", none, 1, none⟩] :=
  ⟨_, rfl, rfl, rfl⟩

end SkillTalk
