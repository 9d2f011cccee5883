import Mathlib.Algebra.Order.Ring.Rat
import SkillTalk.Library.Clock
import SkillTalk.Library.Machine
import SkillTalk.SkillCompatibilityService

/-!
# The language service and its cache

Each call finishes before the next, the clearing of the cache that `setCurrentLanguage` starts
included. A response carries the number of the call that received it and the time at which it
arrived, which has a reading of the clock of its own: the cache entry is stamped after it. A check
of the cache takes a reading also where it finds nothing to compare it with.

The rules of text (trimming, lower-casing and upper-casing) are parameters.
-/

namespace SkillTalk

structure CacheManager (Value : Type) where
  cache : String → Option Value
  timestamps : String → Option Date

namespace CacheManager

variable {Value : Type}

def empty : CacheManager Value where
  cache _ := none
  timestamps _ := none

def get (m : CacheManager Value) (key : String) : Option Value := m.cache key

def set (m : CacheManager Value) (key : String) (value : Value) (now : Date) :
    CacheManager Value where
  cache := Function.update m.cache key (some value)
  timestamps := Function.update m.timestamps key (some now)

def isExpired (m : CacheManager Value) (key : String) (ttl : TimeInterval) (now : Date) : Bool :=
  match m.timestamps key with
  | none => true
  | some timestamp => ttl < now - timestamp

def remove (m : CacheManager Value) (key : String) : CacheManager Value where
  cache := Function.update m.cache key none
  timestamps := Function.update m.timestamps key none

end CacheManager

structure Language where
  code : String
  name : String
  nativeName : String
  deriving DecidableEq

def Language.id (language : Language) : String := language.code

structure LanguageResponse where
  languages : List Language
  call : ℕ
  receivedAt : Date
  deriving DecidableEq

abbrev LanguageGroups := String → Option (List Language)

structure TextRules where
  trimmed : String → String
  lowercased : String → String
  uppercased : String → String

/-- `Dictionary(grouping: languages)` by the upper-cased first letter of the name. -/
def groupedByLetter (rules : TextRules) (languages : List Language) : LanguageGroups := fun letter =>
  let group := languages.filter fun language =>
    rules.uppercased (String.ofList (language.name.toList.take 1)) = letter
  if group = [] then none else some group

/-- What the cache holds, with the response it was made from. -/
inductive CachedLanguages where
  | all (response : LanguageResponse)
  | byAlphabet (groups : LanguageGroups) (response : LanguageResponse)

structure LanguageService where
  currentLanguage : String
  cacheManager : CacheManager CachedLanguages
  reads : ℕ
  calls : ℕ

inductive LanguageCall where
  | getAllLanguages
  | getLanguagesByAlphabet
  | searchLanguages (query : String)
  | setCurrentLanguage (languageCode : String)
  deriving DecidableEq

/-- What a call returns, with the response it was made from. -/
inductive LanguageResult where
  | list (languages : List Language) (response : LanguageResponse)
  | grouping (groups : LanguageGroups) (response : LanguageResponse)
  | none

def allLanguagesKey : String := "languages_all"

def languagesByAlphabetKey : String := "languages_alphabet"

def languageCacheTTL : TimeInterval := 86400

namespace LanguageService

def initial (currentLanguage : String) : LanguageService where
  currentLanguage := currentLanguage
  cacheManager := .empty
  reads := 0
  calls := 0

variable {ε : Type} (clock : Clock Date) (rules : TextRules)
  (server : ℕ → Except ε (List Language))

def store (s : LanguageService) (key : String) (value : CachedLanguages) : LanguageService :=
  { s with
    cacheManager := s.cacheManager.set key value (clock.reading s.reads)
    reads := s.reads + 1 }

/-- A look into the cache: the entry that has not expired. -/
def live (s : LanguageService) (key : String) : Option CachedLanguages :=
  (s.cacheManager.get key).filter fun _ =>
    s.cacheManager.isExpired key languageCacheTTL (clock.reading s.reads) = false

def looked (s : LanguageService) : LanguageService := { s with reads := s.reads + 1 }

/-- The time of a response has been read. -/
def received (s : LanguageService) : LanguageService := { s with reads := s.reads + 1 }

/-- The server's answer to the call, after a look into the cache. -/
def response (s : LanguageService) (languages : List Language) : LanguageResponse where
  languages := languages
  call := s.calls
  receivedAt := clock.reading s.looked.reads

def getAllLanguages (s : LanguageService) : Except ε LanguageResponse × LanguageService :=
  match s.live clock allLanguagesKey with
  | some (.all response) => (.ok response, s.looked)
  | _ =>
      match server s.calls with
      | .error error => (.error error, s.looked)
      | .ok languages =>
          (.ok (s.response clock languages),
            s.looked.received.store clock allLanguagesKey (.all (s.response clock languages)))

def getLanguagesByAlphabet (s : LanguageService) :
    Except ε (LanguageGroups × LanguageResponse) × LanguageService :=
  match s.live clock languagesByAlphabetKey with
  | some (.byAlphabet groups response) => (.ok (groups, response), s.looked)
  | _ =>
      match s.looked.getAllLanguages clock server with
      | (.error error, t) => (.error error, t)
      | (.ok response, t) =>
          let groups := groupedByLetter rules response.languages
          (.ok (groups, response),
            t.store clock languagesByAlphabetKey (.byAlphabet groups response))

def matchesQuery (searchQuery : String) (language : Language) : Bool :=
  containsText (rules.lowercased language.name) (rules.lowercased searchQuery)
    || containsText (rules.lowercased language.nativeName) (rules.lowercased searchQuery)
    || containsText (rules.lowercased language.code) (rules.lowercased searchQuery)

def searchLanguages (s : LanguageService) (query : String) :
    Except ε (List Language × LanguageResponse) × LanguageService :=
  let searchQuery := rules.trimmed query
  match s.getAllLanguages clock server with
  | (.error error, t) => (.error error, t)
  | (.ok response, t) =>
      if searchQuery = "" then (.ok (response.languages, response), t)
      else (.ok (response.languages.filter (matchesQuery rules searchQuery), response), t)

def clearLanguageCache (s : LanguageService) : LanguageService :=
  { s with
    cacheManager := (s.cacheManager.remove allLanguagesKey).remove languagesByAlphabetKey }

def setCurrentLanguage (s : LanguageService) (languageCode : String) : LanguageService :=
  { s with currentLanguage := languageCode }.clearLanguageCache

def perform (s : LanguageService) : LanguageCall → Except ε LanguageResult × LanguageService
  | .getAllLanguages =>
      let (result, t) := s.getAllLanguages clock server
      (result.map fun response => .list response.languages response, t)
  | .getLanguagesByAlphabet =>
      let (result, t) := s.getLanguagesByAlphabet clock rules server
      (result.map fun found => .grouping found.1 found.2, t)
  | .searchLanguages query =>
      let (result, t) := s.searchLanguages clock rules server query
      (result.map fun found => .list found.1 found.2, t)
  | .setCurrentLanguage languageCode => (.ok .none, s.setCurrentLanguage languageCode)

def step (s : LanguageService) (call : LanguageCall) : Option LanguageService :=
  let t := (s.perform clock rules server call).2
  some { t with calls := s.calls + 1 }

end LanguageService

/-- The service over a server that answers the request of each call as given. -/
def languageService {ε : Type} (clock : Clock Date) (rules : TextRules)
    (server : ℕ → Except ε (List Language)) (currentLanguage : String) :
    Machine LanguageService LanguageCall where
  Init s := s = .initial currentLanguage
  step := LanguageService.step clock rules server

end SkillTalk
