import SkillTalk.Library.Clock
import SkillTalk.Library.ExpiringCache
import SkillTalk.SkillAPIService

/-!
# The local skill service

The service stands in for the API: it reads the categories from the bundle and makes up everything
else, behind a cache of its own with the keys of the API's calls. The calls for compatibility,
analytics and regions neither use the cache nor depend on anything.
-/

namespace SkillTalk

inductive LocalSkillCall where
  | loadCategories (language : String)
  | loadSubcategories (categoryId language : String)
  | loadSkills (subcategoryId categoryId language : String)
  | searchSkills (query language : String) (limit : Int)
  | getSkillsByDifficulty (difficulty : SkillDifficulty) (language : String)
  | getPopularSkills (limit : Int) (language : String)
  deriving DecidableEq, Repr

/-- The call of the API for which a call stands in, with its cache key and type. -/
def LocalSkillCall.endpoint : LocalSkillCall → SkillEndpoint
  | .loadCategories language => .categories language
  | .loadSubcategories categoryId language => .subcategories categoryId language
  | .loadSkills subcategoryId categoryId language => .skills subcategoryId categoryId language
  | .searchSkills query language limit => .search query language limit
  | .getSkillsByDifficulty difficulty language => .difficulty difficulty language
  | .getPopularSkills limit language => .popular limit language

inductive LocalSkillFailure (ε : Type) where
  | fileNotFound (message : String)
  | thrown (error : ε)
  deriving DecidableEq

namespace LocalSkillService

variable {ε : Type}

def cacheTimeout : TimeInterval := 3600

def expired (now stored : Date) : Bool := now - stored > cacheTimeout

/-- `categories` is what finding, reading and decoding `categories.json` comes to. -/
def categories (categories : Option (Except ε (List SkillCategory))) :
    Except (LocalSkillFailure ε) (List SkillCategory) :=
  match categories with
  | none => .error (.fileNotFound "categories.json not found in bundle")
  | some decoded => decoded.mapError .thrown

def subcategories (categoryId : String) : List SkillSubcategory :=
  [⟨"programming", categoryId, "Programming", some "💻", 1,
      some "Learn to code and develop software", none⟩,
    ⟨"design", categoryId, "Design", some "🎨", 2, some "Learn design principles and tools", none⟩,
    ⟨"marketing", categoryId, "Marketing", some "📢", 3,
      some "Learn marketing strategies and techniques", none⟩]

def swift (subcategoryId : String) (difficulty : SkillDifficulty) : Skill :=
  ⟨"swift", subcategoryId, "Swift", difficulty, 100, some "📱", ["ios", "mobile", "programming"],
    none⟩

def python (subcategoryId : String) : Skill :=
  ⟨"python", subcategoryId, "Python", .beginner, 95, some "🐍", ["programming", "data", "ai"], none⟩

def javascript (subcategoryId : String) : Skill :=
  ⟨"javascript", subcategoryId, "JavaScript", .beginner, 90, some "🌐",
    ["web", "programming", "frontend"], none⟩

def react (subcategoryId : String) : Skill :=
  ⟨"react", subcategoryId, "React", .intermediate, 85, some "⚛️", ["web", "frontend", "javascript"],
    none⟩

def nodejs (subcategoryId : String) : Skill :=
  ⟨"nodejs", subcategoryId, "Node.js", .intermediate, 80, some "🟢",
    ["backend", "javascript", "server"], none⟩

def skills (subcategoryId : String) : List Skill :=
  [swift subcategoryId .intermediate, python subcategoryId, javascript subcategoryId,
    react subcategoryId, nodejs subcategoryId]

/-- `contains text query` is `text.localizedCaseInsensitiveContains(query)`. -/
def foundSkills (contains : String → String → Bool) (query : String) : List Skill :=
  [swift "programming" .intermediate, python "programming"].filter fun skill =>
    contains skill.englishName query || skill.tags.any fun tag => contains tag query

def skillsByDifficulty (difficulty : SkillDifficulty) : List Skill := [swift "programming" difficulty]

def popularSkills : List Skill :=
  [swift "programming" .intermediate, python "programming", javascript "programming"]

section Service

variable (bundled : Option (Except ε (List SkillCategory))) (contains : String → String → Bool)

/-- A call after its look into the cache. -/
def read : LocalSkillCall → Except (LocalSkillFailure ε) SkillPayload
  | .loadCategories _ => .categories <$> categories bundled
  | .loadSubcategories categoryId _ => .ok (.subcategories (subcategories categoryId))
  | .loadSkills subcategoryId _ _ => .ok (.skills (skills subcategoryId))
  | .searchSkills query _ _ => .ok (.skills (foundSkills contains query))
  | .getSkillsByDifficulty difficulty _ => .ok (.skills (skillsByDifficulty difficulty))
  | .getPopularSkills _ _ => .ok (.skills popularSkills)

def source : ExpiringCache.Source LocalSkillCall String SkillPayload (LocalSkillFailure ε) where
  key call := call.endpoint.cacheKey
  looks _ := true
  accepts call data := data.cast call.endpoint.kind
  read := read bundled contains

end Service

end LocalSkillService

abbrev LocalSkillAction := ExpiringCache.Action LocalSkillCall String

def LocalSkillAction.clearCache : LocalSkillAction := .drop fun _ => true

def LocalSkillAction.preloadPopularSkills (language : String) : LocalSkillAction :=
  .call (.getPopularSkills 20 language)

def localSkillService {ε : Type} (bundled : Option (Except ε (List SkillCategory)))
    (contains : String → String → Bool) (clock : Clock Date) :
    Machine (ExpiringCache.Calls LocalSkillCall String SkillPayload (LocalSkillFailure ε) Date)
      LocalSkillAction :=
  ExpiringCache.machine (LocalSkillService.source bundled contains) clock.reading
    LocalSkillService.expired

end SkillTalk
