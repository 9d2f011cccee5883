import SkillTalk.Library.Machine
import SkillTalk.Library.Refinement
import SkillTalk.SkillModels

/-!
# The skill database service

The service reads six kinds of files and keeps three caches. A call returns, throws what a file
threw, or traps: a dictionary made from repeated keys and a negative prefix stop the process.
`SkillLoads` is what searching needs of a service, so that it can be asked of one without caches.
-/

namespace SkillTalk

structure CoreCategory where
  id : String
  iconUrl : Option String
  colorCode : Option String
  sortOrder : Int
  deriving DecidableEq

structure CoreSubcategory where
  id : String
  categoryId : String
  iconUrl : Option String
  sortOrder : Int
  deriving DecidableEq

structure CoreSkill where
  id : String
  subcategoryId : String
  difficultyLevel : Int
  popularityScore : Int
  isProfessional : Bool
  requiresCertification : Bool
  tags : List String
  regionalPopularity : Finmap fun _ : String => Int
  deriving DecidableEq

/-- The shape of `CategoryTranslation`, `SubcategoryTranslation` and `SkillTranslation`. -/
structure NameTranslation where
  id : String
  name : String
  deriving DecidableEq

abbrev CategoryTranslation := NameTranslation

abbrev SubcategoryTranslation := NameTranslation

abbrev SkillTranslation := NameTranslation

/-- What reading and decoding the file at a path comes to, for each type of record. -/
structure DatabaseFiles (ε : Type) where
  databasePath : String
  coreCategories : String → Except ε (List CoreCategory)
  coreSubcategories : String → Except ε (List CoreSubcategory)
  coreSkills : String → Except ε (List CoreSkill)
  categoryTranslations : String → Except ε (List CategoryTranslation)
  subcategoryTranslations : String → Except ε (List SubcategoryTranslation)
  skillTranslations : String → Except ε (List SkillTranslation)

inductive DatabaseFailure (ε : Type) where
  | thrown (error : ε)
  | trapped
  deriving DecidableEq

/-- `Dictionary(uniqueKeysWithValues:)` of the translations' ids and names. -/
def translationsDict {ε : Type} (translations : List NameTranslation) :
    Except (DatabaseFailure ε) (String → Option String) :=
  if (translations.map NameTranslation.id).Nodup then
    .ok fun id => (translations.find? fun t => t.id = id).map NameTranslation.name
  else .error .trapped

def mapDifficultyLevel (level : Int) : SkillDifficulty :=
  if level = 1 then .beginner
  else if level = 2 then .intermediate
  else if level = 3 then .advanced
  else if level = 4 then .expert
  else .beginner

def CoreCategory.translated (coreCategory : CoreCategory) (translatedName : String) :
    SkillCategory where
  id := coreCategory.id
  englishName := translatedName
  icon := coreCategory.iconUrl
  sortOrder := coreCategory.sortOrder
  translations := none

def CoreSubcategory.translated (coreSubcategory : CoreSubcategory) (translatedName : String) :
    SkillSubcategory where
  id := coreSubcategory.id
  categoryId := coreSubcategory.categoryId
  englishName := translatedName
  icon := coreSubcategory.iconUrl
  sortOrder := coreSubcategory.sortOrder
  description := none
  translations := none

def CoreSkill.translated (coreSkill : CoreSkill) (translatedName : String) : Skill where
  id := coreSkill.id
  subcategoryId := coreSkill.subcategoryId
  englishName := translatedName
  difficulty := mapDifficultyLevel coreSkill.difficultyLevel
  popularity := coreSkill.popularityScore
  icon := none
  tags := coreSkill.tags
  translations := none

namespace DatabaseFiles

variable {ε : Type} (files : DatabaseFiles ε)

def corePath (name : String) : String := files.databasePath ++ "/core/" ++ name

def translationsPath (language name : String) : String :=
  files.databasePath ++ "/languages/" ++ language ++ "/" ++ name

/-- `loadCategories` after its look into the cache. -/
def readCategories (language : String) : Except (DatabaseFailure ε) (List SkillCategory) := do
  let coreCategories ←
    (files.coreCategories (files.corePath "categories.json")).mapError .thrown
  let translations ←
    (files.categoryTranslations (files.translationsPath language "categories.json")).mapError .thrown
  let names ← translationsDict translations
  return coreCategories.filterMap fun coreCategory =>
    (names coreCategory.id).map coreCategory.translated

/-- `loadSubcategories` after its look into the cache. -/
def readSubcategories (categoryId language : String) :
    Except (DatabaseFailure ε) (List SkillSubcategory) := do
  let coreSubcategories ←
    (files.coreSubcategories (files.corePath "subcategories.json")).mapError .thrown
  let categorySubcategories := coreSubcategories.filter fun s => s.categoryId = categoryId
  let translations ←
    (files.subcategoryTranslations
      (files.translationsPath language "subcategories.json")).mapError .thrown
  let names ← translationsDict translations
  return categorySubcategories.filterMap fun coreSubcategory =>
    (names coreSubcategory.id).map coreSubcategory.translated

/-- `loadSkills` after its look into the cache. -/
def readSkills (subcategoryId language : String) : Except (DatabaseFailure ε) (List Skill) := do
  let coreSkills ← (files.coreSkills (files.corePath "skills.json")).mapError .thrown
  let subcategorySkills := coreSkills.filter fun s => s.subcategoryId = subcategoryId
  let translations ←
    (files.skillTranslations (files.translationsPath language "skills.json")).mapError .thrown
  let names ← translationsDict translations
  return subcategorySkills.filterMap fun coreSkill =>
    (names coreSkill.id).map coreSkill.translated

end DatabaseFiles

/-- The loads of a service, whatever they run in. -/
structure SkillLoads (m : Type → Type) where
  loadCategories (language : String) : m (List SkillCategory)
  loadSubcategories (categoryId language : String) : m (List SkillSubcategory)
  loadSkills (subcategoryId language : String) : m (List Skill)

namespace SkillLoads

variable {m : Type → Type} [Monad m] (loads : SkillLoads m)

def loadAllSkills (language : String) : m (List Skill) := do
  let categories ← loads.loadCategories language
  categories.foldlM (fun allSkills category => do
    let subcategories ← loads.loadSubcategories category.id language
    subcategories.foldlM (fun allSkills subcategory => do
      let skills ← loads.loadSkills subcategory.id language
      return allSkills ++ skills) allSkills) []

/-- `contains text query` is `text.localizedCaseInsensitiveContains(query)`. -/
def searchSkills (contains : String → String → Bool) (query language : String) :
    m (List Skill) := do
  let allSkills ← loads.loadAllSkills language
  return allSkills.filter fun skill =>
    contains skill.englishName query || skill.tags.any fun tag => contains tag query

def getPopularSkills {ε : Type} [MonadExcept (DatabaseFailure ε) m] (language : String)
    (limit : Int) : m (List Skill) := do
  let allSkills ← loads.loadAllSkills language
  let sorted := allSkills.mergeSort fun a b => !decide (b.popularity > a.popularity)
  if limit < 0 then throw .trapped else return sorted.take limit.toNat

end SkillLoads

structure SkillDatabaseService where
  categoriesCache : String → Option (List SkillCategory)
  subcategoriesCache : String → Option (List SkillSubcategory)
  skillsCache : String → Option (List Skill)

namespace SkillDatabaseService

def initial : SkillDatabaseService where
  categoriesCache _ := none
  subcategoriesCache _ := none
  skillsCache _ := none

def cacheKey (id language : String) : String := id ++ "_" ++ language

def cacheCategories (s : SkillDatabaseService) (language : String)
    (categories : List SkillCategory) : SkillDatabaseService :=
  { s with categoriesCache := Function.update s.categoriesCache language (some categories) }

def cacheSubcategories (s : SkillDatabaseService) (key : String)
    (subcategories : List SkillSubcategory) : SkillDatabaseService :=
  { s with subcategoriesCache := Function.update s.subcategoriesCache key (some subcategories) }

def cacheSkills (s : SkillDatabaseService) (key : String) (skills : List Skill) :
    SkillDatabaseService :=
  { s with skillsCache := Function.update s.skillsCache key (some skills) }

end SkillDatabaseService

open SkillDatabaseService Refinement

variable {ε : Type} (files : DatabaseFiles ε)

/-- Each load looks into its cache first, and caches what it returns. -/
def skillDatabaseService : SkillLoads (EStateM (DatabaseFailure ε) SkillDatabaseService) where
  loadCategories language :=
    cached (fun s => s.categoriesCache language) (fun s => s.cacheCategories language)
      (files.readCategories language)
  loadSubcategories categoryId language :=
    cached (fun s => s.subcategoriesCache (cacheKey categoryId language))
      (fun s => s.cacheSubcategories (cacheKey categoryId language))
      (files.readSubcategories categoryId language)
  loadSkills subcategoryId language :=
    cached (fun s => s.skillsCache (cacheKey subcategoryId language))
      (fun s => s.cacheSkills (cacheKey subcategoryId language))
      (files.readSkills subcategoryId language)

/-- A service without any cache. -/
def cachelessService : SkillLoads (Except (DatabaseFailure ε)) where
  loadCategories := files.readCategories
  loadSubcategories := files.readSubcategories
  loadSkills := files.readSkills

inductive DatabaseCall where
  | loadCategories (language : String)
  | loadSubcategories (categoryId language : String)
  | loadSkills (subcategoryId language : String)
  | searchSkills (query language : String)
  | getPopularSkills (language : String) (limit : Int)
  deriving DecidableEq, Repr

def DatabaseCall.language : DatabaseCall → String
  | .loadCategories language => language
  | .loadSubcategories _ language => language
  | .loadSkills _ language => language
  | .searchSkills _ language => language
  | .getPopularSkills language _ => language

inductive DatabaseAnswer where
  | categories (categories : List SkillCategory)
  | subcategories (subcategories : List SkillSubcategory)
  | skills (skills : List Skill)
  deriving DecidableEq

def SkillLoads.perform {m : Type → Type} [Monad m] [MonadExcept (DatabaseFailure ε) m]
    (loads : SkillLoads m) (contains : String → String → Bool) :
    DatabaseCall → m DatabaseAnswer
  | .loadCategories language => .categories <$> loads.loadCategories language
  | .loadSubcategories categoryId language =>
      .subcategories <$> loads.loadSubcategories categoryId language
  | .loadSkills subcategoryId language => .skills <$> loads.loadSkills subcategoryId language
  | .searchSkills query language => .skills <$> loads.searchSkills contains query language
  | .getPopularSkills language limit =>
      .skills <$> loads.getPopularSkills language limit

/-- One call after another. A call that throws leaves a state, a call that traps leaves none. -/
def skillDatabase (contains : String → String → Bool) :
    Machine SkillDatabaseService DatabaseCall where
  Init s := s = initial
  step s call :=
    match (skillDatabaseService files).perform contains call s with
    | .ok _ t => some t
    | .error (.thrown _) t => some t
    | .error .trapped _ => none

/-- What the calls return or throw, up to the first that traps. -/
def cachedAnswers (contains : String → String → Bool) :
    SkillDatabaseService → List DatabaseCall →
      List (Except (DatabaseFailure ε) DatabaseAnswer)
  | _, [] => []
  | s, call :: calls =>
      match (skillDatabaseService files).perform contains call s with
      | .ok answer t => .ok answer :: cachedAnswers contains t calls
      | .error (.thrown error) t => .error (.thrown error) :: cachedAnswers contains t calls
      | .error .trapped _ => [.error .trapped]

def cachelessAnswers (contains : String → String → Bool) :
    List DatabaseCall → List (Except (DatabaseFailure ε) DatabaseAnswer)
  | [] => []
  | call :: calls =>
      match (cachelessService files).perform contains call with
      | .ok answer => .ok answer :: cachelessAnswers contains calls
      | .error (.thrown error) => .error (.thrown error) :: cachelessAnswers contains calls
      | .error .trapped => [.error .trapped]

end SkillTalk
