import SkillTalk.Library.Clock
import SkillTalk.Library.Machine
import SkillTalk.Library.QueryString
import SkillTalk.ServiceTypes
import SkillTalk.SkillModels

/-!
# The skill API service

Nine endpoints share one cache keyed by text. A call answers from the cache or sends a request, and
the response may arrive any number of steps later; from its arrival to the call's return there is no
suspension. A response is dated by the first clock reading after it, which is the one its cache
entry is stamped with. The cache may drop any entries at any time.

`makeURL` is `URL(string:)`, whose result the calls force. `SkillDecoder` is what decoding a body as
each type comes to.
-/

namespace SkillTalk

inductive SkillEndpoint where
  | categories (language : String)
  | subcategories (categoryId language : String)
  | skills (subcategoryId categoryId language : String)
  | search (query language : String) (limit : Int)
  | difficulty (level : SkillDifficulty) (language : String)
  | popular (limit : Int) (language : String)
  | compatibility (skillId : String)
  | analytics (skillId : String)
  | popularByRegion (region : String) (limit : Int)
  deriving DecidableEq, Repr

/-! ### Percent encoding -/

/-- The characters of `.urlQueryAllowed`. -/
def urlQueryAllowed (c : Char) : Bool := c.isAlphanum || "-._~!$&'()*+,;=:@/?".toList.contains c

/-- Every string has an encoding. -/
def addingPercentEncoding (text : String) : Option String :=
  some (String.ofList (QueryString.escape urlQueryAllowed text.toList))

def baseURL : String := "https://api.skilltalk.com/v1"

namespace SkillEndpoint

/-- The language a call names, if it names one. -/
def language : SkillEndpoint → Option String
  | .categories language => some language
  | .subcategories _ language => some language
  | .skills _ _ language => some language
  | .search _ language _ => some language
  | .difficulty _ language => some language
  | .popular _ language => some language
  | .compatibility _ => none
  | .analytics _ => none
  | .popularByRegion _ _ => none

def cacheKey : SkillEndpoint → String
  | .categories language => "categories_" ++ language
  | .subcategories categoryId language => "subcategories_" ++ categoryId ++ "_" ++ language
  | .skills subcategoryId _ language => "skills_" ++ subcategoryId ++ "_" ++ language
  | .search query language limit =>
      "search_" ++ query ++ "_" ++ language ++ "_" ++ toString limit
  | .difficulty level language => "difficulty_" ++ level.rawValue ++ "_" ++ language
  | .popular limit language => "popular_" ++ toString limit ++ "_" ++ language
  | .compatibility skillId => "compatibility_" ++ skillId
  | .analytics skillId => "analytics_" ++ skillId
  | .popularByRegion region limit => "popular_region_" ++ region ++ "_" ++ toString limit

def url : SkillEndpoint → String
  | .categories language => baseURL ++ "/skills/categories?language=" ++ language
  | .subcategories categoryId language =>
      baseURL ++ "/skills/categories/" ++ categoryId ++ "/subcategories?language=" ++ language
  | .skills subcategoryId _ language =>
      baseURL ++ "/skills/subcategories/" ++ subcategoryId ++ "/skills?language=" ++ language
  | .search query language limit =>
      let encodedQuery := (addingPercentEncoding query).getD query
      baseURL ++ "/skills/search?q=" ++ encodedQuery ++ "&language=" ++ language ++ "&limit="
        ++ toString limit
  | .difficulty level language =>
      baseURL ++ "/skills/difficulty/" ++ level.rawValue ++ "?language=" ++ language
  | .popular limit language =>
      baseURL ++ "/skills/popular?limit=" ++ toString limit ++ "&language=" ++ language
  | .compatibility skillId => baseURL ++ "/skills/" ++ skillId ++ "/compatibility"
  | .analytics skillId => baseURL ++ "/skills/" ++ skillId ++ "/analytics"
  | .popularByRegion region limit =>
      baseURL ++ "/skills/popular/region/" ++ region ++ "?limit=" ++ toString limit

/-- The text of the error thrown for a response that is not a 200. -/
def invalidResponseText : SkillEndpoint → String
  | .categories _ => "Failed to load categories"
  | .subcategories _ _ => "Failed to load subcategories"
  | .skills _ _ _ => "Failed to load skills"
  | .search _ _ _ => "Failed to search skills"
  | .difficulty _ _ => "Failed to load skills by difficulty"
  | .popular _ _ => "Failed to load popular skills"
  | .compatibility _ => "Failed to load skill compatibility"
  | .analytics _ => "Failed to load skill analytics"
  | .popularByRegion _ _ => "Failed to load regional popular skills"

end SkillEndpoint

/-! ### What the cache holds -/

inductive PayloadKind where
  | categories
  | subcategories
  | skills
  | compatibility
  | analytics
  deriving DecidableEq, Repr

inductive SkillPayload where
  | categories (values : List SkillCategory)
  | subcategories (values : List SkillSubcategory)
  | skills (values : List Skill)
  | compatibility (value : SkillCompatibility)
  | analytics (value : SkillAnalytics)
  deriving DecidableEq

def SkillPayload.kind : SkillPayload → PayloadKind
  | .categories _ => .categories
  | .subcategories _ => .subcategories
  | .skills _ => .skills
  | .compatibility _ => .compatibility
  | .analytics _ => .analytics

def SkillPayload.isEmptyArray : SkillPayload → Bool
  | .categories values => values.isEmpty
  | .subcategories values => values.isEmpty
  | .skills values => values.isEmpty
  | _ => false

def PayloadKind.emptyArray : PayloadKind → Option SkillPayload
  | .categories => some (.categories [])
  | .subcategories => some (.subcategories [])
  | .skills => some (.skills [])
  | _ => none

/-- `as?` to the type of the kind. An empty array is an array of every type. -/
def SkillPayload.cast (payload : SkillPayload) (kind : PayloadKind) : Option SkillPayload :=
  if payload.kind = kind then some payload
  else if payload.isEmptyArray then kind.emptyArray
  else none

def SkillEndpoint.kind : SkillEndpoint → PayloadKind
  | .categories _ => .categories
  | .subcategories _ _ => .subcategories
  | .compatibility _ => .compatibility
  | .analytics _ => .analytics
  | _ => .skills

structure SkillDecoder (Body ε : Type) where
  categories : Body → Except ε (List SkillCategory)
  subcategories : Body → Except ε (List SkillSubcategory)
  skills : Body → Except ε (List Skill)
  compatibility : Body → Except ε SkillCompatibility
  analytics : Body → Except ε SkillAnalytics

def SkillDecoder.decode {Body ε : Type} (decoder : SkillDecoder Body ε) (body : Body) :
    PayloadKind → Except ε SkillPayload
  | .categories => .categories <$> decoder.categories body
  | .subcategories => .subcategories <$> decoder.subcategories body
  | .skills => .skills <$> decoder.skills body
  | .compatibility => .compatibility <$> decoder.compatibility body
  | .analytics => .analytics <$> decoder.analytics body

structure CachedSkillData where
  data : SkillPayload
  timestamp : Date
  deriving DecidableEq

/-! ### The service -/

/-- What a call throws: what the session threw, `SkillAPIError.invalidResponse`, or what the decoder
threw. -/
inductive SkillAPIFailure (ε : Type) where
  | session (error : ε)
  | invalidResponse (message : String)
  | decoding (error : ε)
  deriving DecidableEq

structure SkillRequest (URL : Type) where
  endpoint : SkillEndpoint
  url : URL
  calledAt : Date

/-- A response has no status code if it is not an `HTTPURLResponse`. -/
structure SkillResponse (URL Body : Type) where
  url : URL
  statusCode : Option Int
  body : Body
  receivedAt : Date

structure SkillReturn (ε : Type) where
  endpoint : SkillEndpoint
  calledAt : Date
  returnedAt : Date
  result : Except (SkillAPIFailure ε) SkillPayload

structure SkillAPIService (URL Body ε : Type) where
  cache : String → Option CachedSkillData
  reads : ℕ
  requests : List (SkillRequest URL)
  -- every response received and every call returned, oldest first
  responses : List (SkillResponse URL Body)
  returns : List (SkillReturn ε)

/-- What a request comes to. -/
inductive SkillOutcome (Body ε : Type) where
  | failed (error : ε)
  | response (statusCode : Option Int) (body : Body)

inductive SkillAPIAction (Body ε : Type) where
  | call (endpoint : SkillEndpoint)
  | finish (index : ℕ) (outcome : SkillOutcome Body ε)
  | evict (evicted : String → Bool)

namespace SkillAPIService

def cacheTimeout : TimeInterval := 3600

variable {URL Body ε : Type} (clock : Clock Date) (makeURL : String → Option URL)
  (decoder : SkillDecoder Body ε)

def initial : SkillAPIService URL Body ε where
  cache _ := none
  reads := 0
  requests := []
  responses := []
  returns := []

/-- The data found under the key, and the cache without the entry if it has expired. -/
def getCachedData (s : SkillAPIService URL Body ε) (key : String) (now : Date) :
    Option SkillPayload × SkillAPIService URL Body ε :=
  match s.cache key with
  | none => (none, s)
  | some cachedData =>
      if now - cachedData.timestamp > cacheTimeout then
        (none, { s with cache := Function.update s.cache key none })
      else (some cachedData.data, s)

def setCachedData (s : SkillAPIService URL Body ε) (data : SkillPayload) (key : String)
    (now : Date) : SkillAPIService URL Body ε :=
  { s with cache := Function.update s.cache key (some ⟨data, now⟩) }

/-- A call up to its return from the cache or to its request; `none` if its URL cannot be formed.
The first reading dates the call. -/
def call (s : SkillAPIService URL Body ε) (endpoint : SkillEndpoint) :
    Option (SkillAPIService URL Body ε) :=
  let calledAt := clock.reading s.reads
  let now := clock.reading (s.reads + 1)
  let (cached, looked) := { s with reads := s.reads + 2 }.getCachedData endpoint.cacheKey now
  match cached.bind fun data => data.cast endpoint.kind with
  | some data =>
      some { looked with returns := looked.returns ++ [⟨endpoint, calledAt, now, .ok data⟩] }
  | none =>
      (makeURL endpoint.url).map fun url =>
        { looked with requests := looked.requests ++ [⟨endpoint, url, calledAt⟩] }

/-- A call from the response to its return. -/
def receive (s : SkillAPIService URL Body ε) (request : SkillRequest URL)
    (outcome : SkillOutcome Body ε) : SkillAPIService URL Body ε :=
  let now := clock.reading s.reads
  let returning (result : Except (SkillAPIFailure ε) SkillPayload)
      (t : SkillAPIService URL Body ε) : SkillAPIService URL Body ε :=
    { t with
      reads := t.reads + 1
      returns := t.returns ++ [⟨request.endpoint, request.calledAt, now, result⟩] }
  match outcome with
  | .failed error => returning (.error (.session error)) s
  | .response statusCode body =>
      let received := { s with
        responses := s.responses ++ [⟨request.url, statusCode, body, now⟩] }
      if statusCode ≠ some 200 then
        returning (.error (.invalidResponse request.endpoint.invalidResponseText)) received
      else
        match decoder.decode body request.endpoint.kind with
        | .error error => returning (.error (.decoding error)) received
        | .ok data => returning (.ok data) (received.setCachedData data request.endpoint.cacheKey now)

def step (s : SkillAPIService URL Body ε) :
    SkillAPIAction Body ε → Option (SkillAPIService URL Body ε)
  | .call endpoint => s.call clock makeURL endpoint
  | .finish index outcome =>
      s.requests[index]?.map fun request =>
        receive clock decoder { s with requests := s.requests.eraseIdx index } request outcome
  | .evict evicted => some { s with cache := fun key => if evicted key then none else s.cache key }

end SkillAPIService

def skillAPI {URL Body ε : Type} (clock : Clock Date) (makeURL : String → Option URL)
    (decoder : SkillDecoder Body ε) :
    Machine (SkillAPIService URL Body ε) (SkillAPIAction Body ε) where
  Init s := s = SkillAPIService.initial
  step := SkillAPIService.step clock makeURL decoder

end SkillTalk
