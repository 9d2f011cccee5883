import Mathlib.Tactic.Linarith
import SkillTalk.Library.CacheEntries
import SkillTalk.Library.JoinedText
import SkillTalk.SkillAPIService

/-!
# Which request a cached answer comes from

A cache key is the endpoint's tag and its arguments, joined by underscores. Tags, limits,
difficulties and languages contain none, so the key gives back everything the URL is made of. Hence
an entry under the key of a call holds what was decoded from a response to the call's own URL, and
its stamp bounds the response's age.
-/

namespace SkillTalk

open CacheEntries

/-! ### Keys -/

namespace SkillEndpoint

/-- The call names no language with an underscore. -/
def Plain (endpoint : SkillEndpoint) : Prop :=
  ∀ language ∈ endpoint.language, '_' ∉ language.toList

def tag : SkillEndpoint → String
  | .categories _ => "categories"
  | .subcategories _ _ => "subcategories"
  | .skills _ _ _ => "skills"
  | .search _ _ _ => "search"
  | .difficulty _ _ => "difficulty"
  | .popular _ _ => "popular"
  | .compatibility _ => "compatibility"
  | .analytics _ => "analytics"
  | .popularByRegion _ _ => "popular"

def arguments : SkillEndpoint → String
  | .categories language => language
  | .subcategories categoryId language => categoryId ++ "_" ++ language
  | .skills subcategoryId _ language => subcategoryId ++ "_" ++ language
  | .search query language limit => query ++ "_" ++ language ++ "_" ++ toString limit
  | .difficulty level language => level.rawValue ++ "_" ++ language
  | .popular limit language => toString limit ++ "_" ++ language
  | .compatibility skillId => skillId
  | .analytics skillId => skillId
  | .popularByRegion region limit => "region" ++ "_" ++ (region ++ "_" ++ toString limit)

theorem cacheKey_eq (endpoint : SkillEndpoint) :
    endpoint.cacheKey = endpoint.tag ++ "_" ++ endpoint.arguments := by
  apply String.toList_injective
  unfold cacheKey tag arguments
  cases endpoint <;> simp

theorem tag_plain (endpoint : SkillEndpoint) : '_' ∉ endpoint.tag.toList := by
  cases endpoint <;> simp [tag]

end SkillEndpoint

theorem toList_toString_int (n : ℤ) : (toString n).toList
    = if 0 ≤ n then Nat.toDigits 10 n.toNat else '-' :: Nat.toDigits 10 (-n).toNat := by
  rw [Int.toString_eq_repr, Int.repr_eq_if]
  split
  · rw [Nat.toList_repr]
  · rw [String.toList_append, Nat.toList_repr]
    rfl

theorem isDigit_of_mem_toDigits {n : ℕ} {c : Char} (hc : c ∈ Nat.toDigits 10 n) :
    c.isDigit = true :=
  Nat.isDigit_of_mem_toDigits (by decide) (by decide) hc

theorem mem_toString_int {n : ℤ} {c : Char} (hc : c ∈ (toString n).toList) :
    c.isDigit = true ∨ c = '-' := by
  rw [toList_toString_int] at hc
  split at hc
  · exact .inl (isDigit_of_mem_toDigits hc)
  · rcases List.mem_cons.mp hc with rfl | hc
    · exact .inr rfl
    · exact .inl (isDigit_of_mem_toDigits hc)

theorem underscore_not_mem_toString_int (n : ℤ) : '_' ∉ (toString n).toList := by
  intro hc
  rcases mem_toString_int hc with h | h <;> simp at h

theorem toString_int_ne_region (n : ℤ) : toString n ≠ "region" := by
  intro h
  have hr : 'r' ∈ (toString n).toList := by simp [h]
  rcases mem_toString_int hr with h | h <;> simp at h

theorem toDigits_injective {m n : ℕ} (h : Nat.toDigits 10 m = Nat.toDigits 10 n) : m = n := by
  rw [← Nat.ofDigitChars_ten_toDigits (n := m), h, Nat.ofDigitChars_ten_toDigits]

theorem toString_int_injective {m n : ℤ} (h : toString m = toString n) : m = n := by
  have hminus (k : ℕ) (chars : List Char) : Nat.toDigits 10 k ≠ '-' :: chars := by
    intro hk
    have hdigit := isDigit_of_mem_toDigits (hk ▸ List.mem_cons_self)
    simp at hdigit
  have hlist := congrArg String.toList h
  rw [toList_toString_int, toList_toString_int] at hlist
  by_cases hm : 0 ≤ m <;> by_cases hn : 0 ≤ n <;> simp only [hm, hn, if_true, if_false] at hlist
  · have hnat := toDigits_injective hlist
    omega
  · exact absurd hlist (hminus _ _)
  · exact absurd hlist.symm (hminus _ _)
  · have hnat := toDigits_injective (List.cons.inj hlist).2
    omega

theorem rawValue_injective : Function.Injective SkillDifficulty.rawValue := by
  intro level level' h
  cases level <;> cases level' <;> simp_all [SkillDifficulty.rawValue]

/-- **The key of a call determines its URL** and the type it decodes. -/
theorem url_kind_of_cacheKey {first second : SkillEndpoint} (hfirst : first.Plain)
    (hsecond : second.Plain) (hkey : first.cacheKey = second.cacheKey) :
    first.url = second.url ∧ first.kind = second.kind := by
  rw [SkillEndpoint.cacheKey_eq, SkillEndpoint.cacheKey_eq] at hkey
  obtain ⟨htag, harguments⟩ := JoinedText.string_inj_of_not_mem_first (by simp)
    first.tag_plain second.tag_plain hkey
  unfold SkillEndpoint.tag at htag
  unfold SkillEndpoint.arguments at harguments
  cases first with
  | categories language =>
      cases second <;> simp at htag
      obtain rfl := harguments
      exact ⟨rfl, rfl⟩
  | subcategories categoryId language =>
      cases second <;> simp at htag
      obtain ⟨rfl, rfl⟩ := JoinedText.string_inj_of_not_mem_last (by simp)
        (hfirst _ rfl) (hsecond _ rfl) harguments
      exact ⟨rfl, rfl⟩
  | skills subcategoryId categoryId language =>
      cases second <;> simp at htag
      obtain ⟨rfl, rfl⟩ := JoinedText.string_inj_of_not_mem_last (by simp)
        (hfirst _ rfl) (hsecond _ rfl) harguments
      exact ⟨rfl, rfl⟩
  | search query language limit =>
      cases second <;> simp at htag
      obtain ⟨hquery, hlimit⟩ := JoinedText.string_inj_of_not_mem_last (by simp)
        (underscore_not_mem_toString_int _) (underscore_not_mem_toString_int _) harguments
      obtain rfl := toString_int_injective hlimit
      obtain ⟨rfl, rfl⟩ := JoinedText.string_inj_of_not_mem_last (by simp)
        (hfirst _ rfl) (hsecond _ rfl) hquery
      exact ⟨rfl, rfl⟩
  | difficulty level language =>
      cases second <;> simp at htag
      obtain ⟨hlevel, rfl⟩ := JoinedText.string_inj_of_not_mem_last (by simp)
        (hfirst _ rfl) (hsecond _ rfl) harguments
      obtain rfl := rawValue_injective hlevel
      exact ⟨rfl, rfl⟩
  | popular limit language =>
      cases second <;> simp at htag
      · obtain ⟨hlimit, rfl⟩ := JoinedText.string_inj_of_not_mem_last (by simp)
          (hfirst _ rfl) (hsecond _ rfl) harguments
        obtain rfl := toString_int_injective hlimit
        exact ⟨rfl, rfl⟩
      · obtain ⟨hlimit, -⟩ := JoinedText.string_inj_of_not_mem_first (by simp)
          (underscore_not_mem_toString_int _) (by simp) harguments
        exact absurd hlimit (toString_int_ne_region limit)
  | compatibility skillId =>
      cases second <;> simp at htag
      obtain rfl := harguments
      exact ⟨rfl, rfl⟩
  | analytics skillId =>
      cases second <;> simp at htag
      obtain rfl := harguments
      exact ⟨rfl, rfl⟩
  | popularByRegion region limit =>
      cases second <;> simp at htag
      · obtain ⟨hlimit, -⟩ := JoinedText.string_inj_of_not_mem_first (by simp)
          (by simp) (underscore_not_mem_toString_int _) harguments
        exact absurd hlimit.symm (toString_int_ne_region _)
      · have hregion := (String.append_right_inj ("region" ++ "_")).mp harguments
        obtain ⟨rfl, hlimit⟩ := JoinedText.string_inj_of_not_mem_last (by simp)
          (underscore_not_mem_toString_int _) (underscore_not_mem_toString_int _) hregion
        obtain rfl := toString_int_injective hlimit
        exact ⟨rfl, rfl⟩

/-! ### What a call returns -/

variable {URL Body ε : Type} {clock : Clock Date} {makeURL : String → Option URL}
  {decoder : SkillDecoder Body ε}

theorem kind_of_decode {body : Body} {kind : PayloadKind} {data : SkillPayload}
    (h : decoder.decode body kind = .ok data) : data.kind = kind := by
  have hmap : ∀ {α : Type} (read : Except ε α) (wrap : α → SkillPayload),
      (∀ value, (wrap value).kind = kind) → wrap <$> read = .ok data → data.kind = kind := by
    intro α read wrap hwrap hread
    cases read with
    | error error => cases hread
    | ok value =>
        cases hread
        exact hwrap value
  cases kind with
  | categories => exact hmap _ _ (fun _ => rfl) h
  | subcategories => exact hmap _ _ (fun _ => rfl) h
  | skills => exact hmap _ _ (fun _ => rfl) h
  | compatibility => exact hmap _ _ (fun _ => rfl) h
  | analytics => exact hmap _ _ (fun _ => rfl) h

theorem cast_of_kind {data : SkillPayload} {kind : PayloadKind} (h : data.kind = kind) :
    data.cast kind = some data := by
  rw [SkillPayload.cast, if_pos h]

namespace SkillAPIService

variable (makeURL decoder) in
/-- The data was decoded from a 200 response, received then, to a request with the call's URL. -/
def Answered (s : SkillAPIService URL Body ε) (endpoint : SkillEndpoint) (data : SkillPayload)
    (receivedAt : Date) : Prop :=
  ∃ url, makeURL endpoint.url = some url
    ∧ ∃ response ∈ s.responses, response.url = url ∧ response.statusCode = some 200
      ∧ decoder.decode response.body endpoint.kind = .ok data
      ∧ response.receivedAt = receivedAt

theorem Answered.mono {s t : SkillAPIService URL Body ε} (hsub : s.responses ⊆ t.responses)
    {endpoint : SkillEndpoint} {data : SkillPayload} {receivedAt : Date}
    (h : Answered makeURL decoder s endpoint data receivedAt) :
    Answered makeURL decoder t endpoint data receivedAt := by
  obtain ⟨url, hurl, response, hmem, hanswer⟩ := h
  exact ⟨url, hurl, response, hsub hmem, hanswer⟩

/-- The answer to one call is the answer to every call with its key. -/
theorem Answered.of_cacheKey {s : SkillAPIService URL Body ε} {first second : SkillEndpoint}
    (hfirst : first.Plain) (hsecond : second.Plain) (hkey : first.cacheKey = second.cacheKey)
    {data : SkillPayload} {receivedAt : Date}
    (h : Answered makeURL decoder s first data receivedAt) :
    Answered makeURL decoder s second data receivedAt := by
  obtain ⟨hurl, hkind⟩ := url_kind_of_cacheKey hfirst hsecond hkey
  rwa [Answered, hurl, hkind] at h

variable (makeURL decoder) in
/-- The entry holds the answer to a call with its key, received at its stamp. -/
def EntryAnswered (s : SkillAPIService URL Body ε) (key : String) (entry : CachedSkillData) : Prop :=
  ∃ endpoint : SkillEndpoint, endpoint.Plain ∧ endpoint.cacheKey = key
    ∧ Answered makeURL decoder s endpoint entry.data entry.timestamp

variable (makeURL decoder) in
/-- A call that returned data returned the answer to its own request, received no more than the
timeout before the call and no later than its return. -/
def ReturnAnswered (s : SkillAPIService URL Body ε) (r : SkillReturn ε) : Prop :=
  ∀ data, r.result = .ok data →
    ∃ receivedAt, Answered makeURL decoder s r.endpoint data receivedAt
      ∧ r.calledAt - cacheTimeout ≤ receivedAt ∧ receivedAt ≤ r.returnedAt

variable (clock makeURL decoder) in
structure Accounted (s : SkillAPIService URL Body ε) : Prop where
  entries : AllEntries (EntryAnswered makeURL decoder s) s.cache
  requests : ∀ request ∈ s.requests, request.endpoint.Plain
    ∧ makeURL request.endpoint.url = some request.url
    ∧ request.calledAt ≤ clock.reading s.reads
  responses : ∀ response ∈ s.responses, response.receivedAt ≤ clock.reading s.reads
  returns : ∀ r ∈ s.returns, ReturnAnswered makeURL decoder s r

theorem accounted_initial :
    Accounted clock makeURL decoder (initial : SkillAPIService URL Body ε) := by
  refine ⟨.empty, ?_, ?_, ?_⟩ <;> intro x hx <;> simp [initial] at hx

theorem EntryAnswered.mono {s t : SkillAPIService URL Body ε} (hsub : s.responses ⊆ t.responses)
    {key : String} {entry : CachedSkillData} (h : EntryAnswered makeURL decoder s key entry) :
    EntryAnswered makeURL decoder t key entry := by
  obtain ⟨endpoint, hplain, hkey, hanswer⟩ := h
  exact ⟨endpoint, hplain, hkey, hanswer.mono hsub⟩

theorem ReturnAnswered.mono {s t : SkillAPIService URL Body ε} (hsub : s.responses ⊆ t.responses)
    {r : SkillReturn ε} (h : ReturnAnswered makeURL decoder s r) :
    ReturnAnswered makeURL decoder t r := by
  intro data hdata
  obtain ⟨receivedAt, hanswer, hage⟩ := h data hdata
  exact ⟨receivedAt, hanswer.mono hsub, hage⟩

/-- A look into the cache finds an entry that has not expired or nothing, and at most drops the
entry. -/
theorem getCachedData_cases (s : SkillAPIService URL Body ε) (key : String) (now : Date) :
    (∃ entry, s.cache key = some entry ∧ now - entry.timestamp ≤ cacheTimeout
        ∧ s.getCachedData key now = (some entry.data, s))
      ∨ ∃ cache, (∀ P, AllEntries P s.cache → AllEntries P cache)
          ∧ s.getCachedData key now = (none, { s with cache }) := by
  unfold getCachedData
  cases hentry : s.cache key with
  | none => exact .inr ⟨s.cache, fun _ h => h, rfl⟩
  | some entry =>
      by_cases hexpired : now - entry.timestamp > cacheTimeout
      · simp only [if_pos hexpired]
        exact .inr ⟨_, fun _ h => h.erase key, rfl⟩
      · simp only [if_neg hexpired]
        exact .inl ⟨entry, rfl, not_lt.mp hexpired, rfl⟩

theorem Accounted.later {s : SkillAPIService URL Body ε} (hs : Accounted clock makeURL decoder s)
    (count : ℕ) : Accounted clock makeURL decoder { s with reads := s.reads + count } := by
  have hlater : clock.reading s.reads ≤ clock.reading (s.reads + count) :=
    clock.monotone (Nat.le_add_right _ _)
  refine ⟨hs.entries, ?_, ?_, hs.returns⟩
  · intro request hrequest
    obtain ⟨hplain, hurl, hat⟩ := hs.requests request hrequest
    exact ⟨hplain, hurl, hat.trans hlater⟩
  · exact fun response hresponse => (hs.responses response hresponse).trans hlater

theorem Accounted.requested {s : SkillAPIService URL Body ε}
    (hs : Accounted clock makeURL decoder s) {request : SkillRequest URL}
    (hplain : request.endpoint.Plain) (hurl : makeURL request.endpoint.url = some request.url)
    (hat : request.calledAt ≤ clock.reading s.reads) :
    Accounted clock makeURL decoder { s with requests := s.requests ++ [request] } := by
  refine ⟨hs.entries, ?_, hs.responses, hs.returns⟩
  refine List.forall_mem_append.mpr ⟨hs.requests, ?_⟩
  exact List.forall_mem_singleton.mpr ⟨hplain, hurl, hat⟩

theorem Accounted.returned {s : SkillAPIService URL Body ε}
    (hs : Accounted clock makeURL decoder s) {r : SkillReturn ε}
    (hr : ReturnAnswered makeURL decoder s r) :
    Accounted clock makeURL decoder { s with returns := s.returns ++ [r] } := by
  refine ⟨hs.entries, hs.requests, hs.responses, ?_⟩
  exact List.forall_mem_append.mpr ⟨hs.returns, List.forall_mem_singleton.mpr hr⟩

/-- A live entry under the key of a call holds the answer to the call, so that the cast gives all of
it. -/
theorem Accounted.hit {s : SkillAPIService URL Body ε} (hs : Accounted clock makeURL decoder s)
    {endpoint : SkillEndpoint} (hplain : endpoint.Plain) {entry : CachedSkillData}
    (hentry : s.cache endpoint.cacheKey = some entry) {now : Date}
    (hnow : clock.reading s.reads ≤ now) (hfresh : now - entry.timestamp ≤ cacheTimeout) :
    entry.data.cast endpoint.kind = some entry.data
      ∧ ReturnAnswered makeURL decoder s
        ⟨endpoint, clock.reading s.reads, now, .ok entry.data⟩ := by
  obtain ⟨other, hother, hkey, hanswer⟩ := hs.entries _ entry hentry
  have hown : Answered makeURL decoder s endpoint entry.data entry.timestamp :=
    hanswer.of_cacheKey hother hplain hkey
  have ⟨_, _, response, hmem, _, _, hdecode, hat⟩ := hown
  have hreceived : entry.timestamp ≤ clock.reading s.reads := by
    rw [← hat]
    exact hs.responses response hmem
  refine ⟨cast_of_kind (kind_of_decode hdecode), fun data hdata => ?_⟩
  obtain rfl := Except.ok.inj hdata
  refine ⟨entry.timestamp, hown, ?_, hreceived.trans hnow⟩
  change clock.reading s.reads - cacheTimeout ≤ entry.timestamp
  linarith

theorem Accounted.call {s t : SkillAPIService URL Body ε} (hs : Accounted clock makeURL decoder s)
    {endpoint : SkillEndpoint} (hplain : endpoint.Plain)
    (hcall : s.call clock makeURL endpoint = some t) : Accounted clock makeURL decoder t := by
  have hnow : clock.reading s.reads ≤ clock.reading (s.reads + 1) :=
    clock.monotone (Nat.le_succ _)
  have hlater : Accounted clock makeURL decoder { s with reads := s.reads + 2 } := hs.later 2
  unfold SkillAPIService.call at hcall
  rcases getCachedData_cases { s with reads := s.reads + 2 } endpoint.cacheKey
    (clock.reading (s.reads + 1)) with ⟨entry, hentry, hfresh, hlook⟩ | ⟨cache, hcache, hlook⟩
  · obtain ⟨hcast, hanswered⟩ := hs.hit hplain hentry hnow hfresh
    simp only [hlook, Option.bind_some, hcast, Option.some.injEq] at hcall
    subst hcall
    exact hlater.returned hanswered
  · simp only [hlook, Option.bind_none] at hcall
    obtain ⟨url, hurl, rfl⟩ := Option.map_eq_some_iff.mp hcall
    have hlooked : Accounted clock makeURL decoder { s with reads := s.reads + 2, cache } :=
      ⟨hcache _ hs.entries, hlater.requests, hlater.responses, hs.returns⟩
    exact hlooked.requested hplain hurl (clock.monotone (Nat.le_add_right _ 2))

theorem Accounted.received {s : SkillAPIService URL Body ε}
    (hs : Accounted clock makeURL decoder s) (url : URL) (statusCode : Option Int) (body : Body) :
    Accounted clock makeURL decoder
      { s with responses := s.responses ++ [⟨url, statusCode, body, clock.reading s.reads⟩] } := by
  have hsub : s.responses ⊆ s.responses ++ [⟨url, statusCode, body, clock.reading s.reads⟩] :=
    List.subset_append_left _ _
  refine ⟨hs.entries.mono fun _ _ => EntryAnswered.mono hsub, hs.requests, ?_, ?_⟩
  · exact List.forall_mem_append.mpr ⟨hs.responses, List.forall_mem_singleton.mpr le_rfl⟩
  · exact fun r hr => (hs.returns r hr).mono hsub

theorem Accounted.setCachedData {s : SkillAPIService URL Body ε}
    (hs : Accounted clock makeURL decoder s) {endpoint : SkillEndpoint} (hplain : endpoint.Plain)
    {data : SkillPayload} {now : Date} (hanswer : Answered makeURL decoder s endpoint data now) :
    Accounted clock makeURL decoder (s.setCachedData data endpoint.cacheKey now) := by
  have hentry : EntryAnswered makeURL decoder s endpoint.cacheKey ⟨data, now⟩ :=
    ⟨endpoint, hplain, by simp, hanswer⟩
  exact ⟨hs.entries.insert hentry, hs.requests, hs.responses, hs.returns⟩

theorem Accounted.receive {s : SkillAPIService URL Body ε}
    (hs : Accounted clock makeURL decoder s) {request : SkillRequest URL}
    (hplain : request.endpoint.Plain) (hurl : makeURL request.endpoint.url = some request.url)
    (hcalled : request.calledAt ≤ clock.reading s.reads) (outcome : SkillOutcome Body ε) :
    Accounted clock makeURL decoder (s.receive clock decoder request outcome) := by
  have hthrows : ∀ {t : SkillAPIService URL Body ε} (failure : SkillAPIFailure ε),
      ReturnAnswered makeURL decoder t
        ⟨request.endpoint, request.calledAt, clock.reading s.reads, .error failure⟩ := by
    intro t failure data hdata
    cases hdata
  unfold SkillAPIService.receive
  cases outcome with
  | failed error => exact (hs.later 1).returned (hthrows _)
  | response statusCode body =>
      have hreceived := hs.received request.url statusCode body
      by_cases hstatus : statusCode = some 200
      · simp only [hstatus, ne_eq, not_true_eq_false, if_false]
        rw [hstatus] at hreceived
        cases hdecode : decoder.decode body request.endpoint.kind with
        | error error => exact (hreceived.later 1).returned (hthrows _)
        | ok data =>
            have hanswer : Answered makeURL decoder
                { s with responses := s.responses
                    ++ [⟨request.url, some 200, body, clock.reading s.reads⟩] }
                request.endpoint data (clock.reading s.reads) :=
              ⟨request.url, hurl, _, List.mem_append_right _ List.mem_cons_self, by simp, by simp,
                hdecode, by simp⟩
            refine ((hreceived.setCachedData hplain hanswer).later 1).returned ?_
            intro data' hdata
            obtain rfl := Except.ok.inj hdata
            refine ⟨_, hanswer, ?_, le_rfl⟩
            change request.calledAt - cacheTimeout ≤ clock.reading s.reads
            have htimeout : (0 : ℚ) ≤ cacheTimeout := by norm_num [cacheTimeout]
            linarith
      · simp only [ne_eq, hstatus, not_false_eq_true, if_true]
        exact (hreceived.later 1).returned (hthrows _)

/-- The calls name no language with an underscore. -/
def PlainCall (_ : SkillAPIService URL Body ε) : SkillAPIAction Body ε → Prop
  | .call endpoint => endpoint.Plain
  | _ => True

theorem accounted_of_reachable {s : SkillAPIService URL Body ε}
    (hs : (skillAPI clock makeURL decoder).ReachableWhere PlainCall s) :
    Accounted clock makeURL decoder s := by
  refine Machine.ReachableWhere.invariant (Accounted clock makeURL decoder) ?_ ?_ hs
  · rintro s rfl
    exact accounted_initial
  · intro s action t _ hs hplain hstep
    cases action with
    | call endpoint => exact hs.call hplain hstep
    | finish index outcome =>
        obtain ⟨request, hindex, hreceive⟩ := Option.map_eq_some_iff.mp hstep
        obtain ⟨hp, hurl, hat⟩ := hs.requests request (List.mem_of_getElem? hindex)
        have herased : Accounted clock makeURL decoder
            { s with requests := s.requests.eraseIdx index } :=
          ⟨hs.entries, fun request hrequest => hs.requests request (List.mem_of_mem_eraseIdx hrequest),
            hs.responses, hs.returns⟩
        exact hreceive ▸ herased.receive hp hurl hat outcome
    | evict evicted =>
        have ht := Option.some.inj hstep
        exact ht ▸ ⟨hs.entries.drop evicted, hs.requests, hs.responses, hs.returns⟩

/-- **The cache answers for no other request.** Data a call returned was decoded from a 200 response
to a request with the call's own URL, received at most the timeout before the call or during it. -/
theorem cached_answers_own_request {s : SkillAPIService URL Body ε}
    (hs : (skillAPI clock makeURL decoder).ReachableWhere PlainCall s)
    {r : SkillReturn ε} (hr : r ∈ s.returns) {data : SkillPayload} (hdata : r.result = .ok data) :
    ∃ url, makeURL r.endpoint.url = some url
      ∧ ∃ response ∈ s.responses, response.url = url ∧ response.statusCode = some 200
        ∧ decoder.decode response.body r.endpoint.kind = .ok data
        ∧ r.calledAt - 3600 ≤ response.receivedAt ∧ response.receivedAt ≤ r.returnedAt := by
  obtain ⟨receivedAt, ⟨url, hurl, response, hmem, hresponse, hstatus, hdecode, hat⟩, hage⟩ :=
    (accounted_of_reachable hs).returns r hr data hdata
  rw [← hat] at hage
  exact ⟨url, hurl, response, hmem, hresponse, hstatus, hdecode, hage⟩

instance (s : SkillAPIService URL Body ε) (action : SkillAPIAction Body ε) :
    Decidable (PlainCall s action) :=
  match action with
  | .call endpoint => inferInstanceAs (Decidable (∀ language ∈ endpoint.language, _))
  | .finish _ _ => isTrue trivial
  | .evict _ => isTrue trivial

/-- Every body is an empty array of categories and nothing else. -/
def emptyDecoder : SkillDecoder Unit String where
  categories _ := .ok []
  subcategories _ := .error "no array of subcategories"
  skills _ := .error "no array of skills"
  compatibility _ := .error "no compatibility"
  analytics _ := .error "no analytics"

/-- The second call comes an hour after the first and is answered from the cache. -/
theorem cached_answers_own_request_of_hit :
    let clock := Clock.ofGaps [0, 0, 0, 3600]
    ∃ s : SkillAPIService String Unit String, ∃ r ∈ s.returns,
      (skillAPI clock some emptyDecoder).exec initial
          [.call (.categories "en"), .finish 0 (.response (some 200) ()), .call (.categories "en")]
        = some s
      ∧ r.calledAt = 3600
      ∧ ∃ url, some r.endpoint.url = some url
        ∧ ∃ response ∈ s.responses, response.url = url ∧ response.statusCode = some 200
          ∧ emptyDecoder.decode response.body r.endpoint.kind = .ok (.categories [])
          ∧ r.calledAt - 3600 ≤ response.receivedAt ∧ response.receivedAt ≤ r.returnedAt := by
  intro clock
  obtain ⟨s, hexec, hreach, hend⟩ : ∃ s, (skillAPI clock some emptyDecoder).exec initial
        [.call (.categories "en"), .finish 0 (.response (some 200) ()), .call (.categories "en")]
        = some s
      ∧ (skillAPI clock some emptyDecoder).ReachableWhere PlainCall s
      ∧ (s.returns.any fun r => decide (r.calledAt = 3600)
          && decide (r.result.toOption = some (.categories []))) = true :=
    Machine.exists_reachableWhere rfl _ (by decide +kernel) (by decide +kernel)
  obtain ⟨r, hr, hchecks⟩ := List.any_eq_true.mp hend
  simp only [Bool.and_eq_true, decide_eq_true_eq] at hchecks
  have hresult : r.result = .ok (.categories []) := by
    cases hcases : r.result with
    | error failure => simp [hcases, Except.toOption] at hchecks
    | ok data => simpa [hcases, Except.toOption] using hchecks.2
  exact ⟨s, r, hr, hexec, hchecks.1, cached_answers_own_request hreach hr hresult⟩

end SkillAPIService

end SkillTalk
