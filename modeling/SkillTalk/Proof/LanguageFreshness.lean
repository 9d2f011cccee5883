import SkillTalk.LanguageService

/-!
# How old the languages served are

The list is stamped after the response has arrived. The grouping is stamped when it is made, from a
list that may have been cached before, and so may outlive the list. What is stored as it arrives is
served no longer than it should be, and what is stored later may be.
-/

namespace SkillTalk

namespace CacheManager

variable {Value : Type} {m : CacheManager Value}

@[simp]
theorem get_set_self (key : String) (value : Value) (now : Date) :
    (m.set key value now).get key = some value := Function.update_self ..

theorem get_set_of_ne {key other : String} (h : other ≠ key) (value : Value) (now : Date) :
    (m.set key value now).get other = m.get other := Function.update_of_ne h ..

@[simp]
theorem timestamps_set_self (key : String) (value : Value) (now : Date) :
    (m.set key value now).timestamps key = some now := Function.update_self ..

theorem timestamps_set_of_ne {key other : String} (h : other ≠ key) (value : Value) (now : Date) :
    (m.set key value now).timestamps other = m.timestamps other := Function.update_of_ne h ..

theorem get_remove_eq_some {key other : String} {value : Value}
    (h : (m.remove key).get other = some value) : m.get other = some value := by
  by_cases heq : other = key
  · subst heq
    simp [remove, get] at h
  · rw [← h]
    exact (Function.update_of_ne heq ..).symm

theorem get_remove_self (key : String) : (m.remove key).get key = none := Function.update_self ..

end CacheManager

namespace LanguageResult

def Contains : LanguageResult → Language → Prop
  | .list languages _, language => language ∈ languages
  | .grouping groups _, language => ∃ letter group, groups letter = some group ∧ language ∈ group
  | .none, _ => False

def response : LanguageResult → Option LanguageResponse
  | .list _ response => some response
  | .grouping _ response => some response
  | .none => Option.none

/-- Every language comes from a response of the server's that is at most a day old. -/
def FreshAt {ε : Type} (server : ℕ → Except ε (List Language)) (now : Date)
    (result : LanguageResult) : Prop :=
  ∀ language, result.Contains language → ∃ response ∈ result.response,
    server response.call = .ok response.languages ∧ language ∈ response.languages
      ∧ now - response.receivedAt ≤ languageCacheTTL

end LanguageResult

theorem exists_group_iff (rules : TextRules) (languages : List Language) (language : Language) :
    (∃ letter group, groupedByLetter rules languages letter = some group ∧ language ∈ group)
      ↔ language ∈ languages := by
  constructor
  · rintro ⟨letter, group, hgroup, hmem⟩
    simp only [groupedByLetter] at hgroup
    split at hgroup
    · cases hgroup
    · obtain rfl := Option.some.inj hgroup
      exact List.mem_of_mem_filter hmem
  · intro hmem
    let letter := rules.uppercased (String.ofList (language.name.toList.take 1))
    have hfilter : language ∈ languages.filter fun other =>
        rules.uppercased (String.ofList (other.name.toList.take 1)) = letter :=
      List.mem_filter.mpr ⟨hmem, decide_eq_true rfl⟩
    refine ⟨letter, _, if_neg (List.ne_nil_of_mem hfilter), hfilter⟩

namespace LanguageService

variable {ε : Type} {clock : Clock Date} {rules : TextRules}
  {server : ℕ → Except ε (List Language)} {s t : LanguageService}

variable (server) in
/-- The response is what the server answered to a call up to this one. -/
structure Received (calls : ℕ) (response : LanguageResponse) : Prop where
  answer : server response.call = .ok response.languages
  call : response.call ≤ calls

variable (rules server) in
/-- What the cache holds after so many calls. -/
structure Accounted (calls : ℕ) (m : CacheManager CachedLanguages) : Prop where
  list : ∀ response, m.get allLanguagesKey = some (.all response) → Received server calls response
  grouping : ∀ groups response, m.get languagesByAlphabetKey = some (.byAlphabet groups response) →
    Received server calls response ∧ groups = groupedByLetter rules response.languages
  ordered : ∀ response groups source, m.get allLanguagesKey = some (.all response) →
    m.get languagesByAlphabetKey = some (.byAlphabet groups source) → source.call ≤ response.call

variable (clock) in
/-- The list that is cached and has not expired. -/
def liveList (s : LanguageService) : Option LanguageResponse :=
  match s.live clock allLanguagesKey with
  | some (.all response) => some response
  | _ => none

variable (clock) in
/-- Likewise the grouping, with the response it was made from. -/
def liveGrouping (s : LanguageService) : Option (LanguageGroups × LanguageResponse) :=
  match s.live clock languagesByAlphabetKey with
  | some (.byAlphabet groups response) => some (groups, response)
  | _ => none

theorem live_eq_some_iff {key : String} {value : CachedLanguages} :
    s.live clock key = some value ↔ s.cacheManager.get key = some value ∧
      ∃ timestamp, s.cacheManager.timestamps key = some timestamp
        ∧ clock.reading s.reads - timestamp ≤ languageCacheTTL := by
  rw [live, Option.filter_eq_some_iff]
  refine and_congr_right fun _ => ?_
  cases htimestamp : s.cacheManager.timestamps key with
  | none => simp [CacheManager.isExpired, htimestamp]
  | some timestamp => simp [CacheManager.isExpired, htimestamp]

theorem liveList_eq_some_iff {response : LanguageResponse} : s.liveList clock = some response
    ↔ s.live clock allLanguagesKey = some (.all response) := by
  unfold liveList
  split
  · simp_all
  · rename_i hother
    exact iff_of_false (Option.some_ne_none _).symm (hother response)

theorem liveGrouping_eq_some_iff {groups : LanguageGroups} {response : LanguageResponse} :
    s.liveGrouping clock = some (groups, response)
      ↔ s.live clock languagesByAlphabetKey = some (.byAlphabet groups response) := by
  unfold liveGrouping
  split
  · simp_all
  · rename_i hother
    exact iff_of_false (Option.some_ne_none _).symm (hother groups response)

variable (clock server) in
theorem getAllLanguages_cases (s : LanguageService) :
    (∃ response, s.liveList clock = some response
        ∧ s.getAllLanguages clock server = (.ok response, s.looked))
      ∨ s.liveList clock = none
        ∧ ((∃ error, server s.calls = .error error
            ∧ s.getAllLanguages clock server = (.error error, s.looked))
          ∨ ∃ languages, server s.calls = .ok languages
            ∧ s.getAllLanguages clock server
              = (.ok (s.response clock languages), s.looked.received.store clock allLanguagesKey
                  (.all (s.response clock languages)))) := by
  unfold getAllLanguages
  split
  · rename_i response hlive
    exact .inl ⟨response, liveList_eq_some_iff.mpr hlive, rfl⟩
  · rename_i hother
    have hnone : s.liveList clock = none := Option.eq_none_iff_forall_ne_some.mpr
      fun response hlive => hother response (liveList_eq_some_iff.mp hlive)
    refine .inr ⟨hnone, ?_⟩
    cases server s.calls with
    | error error => exact .inl ⟨error, rfl, rfl⟩
    | ok languages => exact .inr ⟨languages, rfl, rfl⟩

/-! ### What the cache holds -/

theorem keys_ne : languagesByAlphabetKey ≠ allLanguagesKey := by decide

theorem accounted_empty (calls : ℕ) : Accounted rules server calls .empty := by
  constructor <;> intro <;> simp [CacheManager.empty, CacheManager.get]

section Accounted

variable {calls : ℕ} {m : CacheManager CachedLanguages}

theorem Accounted.later (h : Accounted rules server calls m) {later : ℕ} (hle : calls ≤ later) :
    Accounted rules server later m := by
  constructor
  · intro response hget
    have hreceived := h.list response hget
    exact ⟨hreceived.answer, hreceived.call.trans hle⟩
  · intro groups response hget
    obtain ⟨hreceived, hgroups⟩ := h.grouping groups response hget
    exact ⟨⟨hreceived.answer, hreceived.call.trans hle⟩, hgroups⟩
  · exact h.ordered

/-- The list of a new response is stored. -/
theorem Accounted.set_all (h : Accounted rules server calls m) {response : LanguageResponse}
    (hresponse : Received server calls response) (hnew : response.call = calls) (now : Date) :
    Accounted rules server calls (m.set allLanguagesKey (.all response) now) := by
  have hother : ∀ groups source, (m.set allLanguagesKey (.all response) now).get
      languagesByAlphabetKey = some (.byAlphabet groups source) →
        Received server calls source ∧ groups = groupedByLetter rules source.languages := by
    intro groups source hget
    rw [CacheManager.get_set_of_ne keys_ne] at hget
    exact h.grouping groups source hget
  refine ⟨?_, hother, ?_⟩
  · intro stored hget
    rw [CacheManager.get_set_self] at hget
    exact CachedLanguages.all.inj (Option.some.inj hget) ▸ hresponse
  · intro stored groups source hget hgrouping
    rw [CacheManager.get_set_self] at hget
    obtain rfl := CachedLanguages.all.inj (Option.some.inj hget)
    rw [hnew]
    exact (hother groups source hgrouping).1.call

/-- The grouping of the list in the cache is stored. -/
theorem Accounted.set_byAlphabet (h : Accounted rules server calls m) {response : LanguageResponse}
    (hcurrent : m.get allLanguagesKey = some (.all response)) (now : Date) :
    Accounted rules server calls (m.set languagesByAlphabetKey
      (.byAlphabet (groupedByLetter rules response.languages) response) now) := by
  refine ⟨?_, ?_, ?_⟩
  · intro stored hget
    rw [CacheManager.get_set_of_ne keys_ne.symm] at hget
    exact h.list stored hget
  · intro groups source hget
    rw [CacheManager.get_set_self] at hget
    obtain ⟨rfl, rfl⟩ := CachedLanguages.byAlphabet.inj (Option.some.inj hget)
    exact ⟨h.list response hcurrent, rfl⟩
  · intro stored groups source hget hgrouping
    rw [CacheManager.get_set_of_ne keys_ne.symm, hcurrent] at hget
    rw [CacheManager.get_set_self] at hgrouping
    obtain rfl := CachedLanguages.all.inj (Option.some.inj hget)
    obtain ⟨-, rfl⟩ := CachedLanguages.byAlphabet.inj (Option.some.inj hgrouping)
    exact le_rfl

theorem get_clear (s : LanguageService) :
    s.clearLanguageCache.cacheManager.get allLanguagesKey = none
      ∧ s.clearLanguageCache.cacheManager.get languagesByAlphabetKey = none := by
  refine ⟨?_, CacheManager.get_remove_self _⟩
  cases hget : s.clearLanguageCache.cacheManager.get allLanguagesKey with
  | none => rfl
  | some value =>
      have hremoved := CacheManager.get_remove_eq_some hget
      rw [CacheManager.get_remove_self] at hremoved
      cases hremoved

theorem accounted_clear (s : LanguageService) :
    Accounted rules server calls s.clearLanguageCache.cacheManager := by
  obtain ⟨hlist, hgrouping⟩ := get_clear s
  constructor <;> intro <;> simp [hgrouping, hlist]

end Accounted

/-! ### What a call returns -/

variable (rules server s) in
/-- The list is in the cache afterwards. -/
structure ListServed (result : Except ε LanguageResponse) (t : LanguageService) : Prop where
  accounted : Accounted rules server s.calls t.cacheManager
  calls : t.calls = s.calls
  cached : ∀ response, result = .ok response →
    t.cacheManager.get allLanguagesKey = some (.all response)

variable (clock) in
theorem getAllLanguages_served (hs : Accounted rules server s.calls s.cacheManager) :
    ListServed rules server s (s.getAllLanguages clock server).1
      (s.getAllLanguages clock server).2 := by
  rcases getAllLanguages_cases clock server s with
    ⟨response, hlive, heq⟩ | ⟨-, ⟨error, herror, heq⟩ | ⟨languages, hanswer, heq⟩⟩
  · rw [heq]
    refine ⟨hs, rfl, ?_⟩
    rintro other hother
    obtain rfl := Except.ok.inj hother
    exact (live_eq_some_iff.mp (liveList_eq_some_iff.mp hlive)).1
  · rw [heq]
    refine ⟨hs, rfl, ?_⟩
    rintro other hother
    cases hother
  · rw [heq]
    refine ⟨hs.set_all ⟨hanswer, le_rfl⟩ rfl _, rfl, ?_⟩
    rintro other hother
    obtain rfl := Except.ok.inj hother
    exact CacheManager.get_set_self ..

variable (clock rules server) in
/-- The grouping in the cache is served, or one is made from the list. -/
theorem getLanguagesByAlphabet_cases (s : LanguageService) :
    (∃ groups response, s.liveGrouping clock = some (groups, response)
        ∧ s.getLanguagesByAlphabet clock rules server = (.ok (groups, response), s.looked))
      ∨ s.liveGrouping clock = none
        ∧ ((∃ error t, s.looked.getAllLanguages clock server = (.error error, t)
            ∧ s.getLanguagesByAlphabet clock rules server = (.error error, t))
          ∨ ∃ response t, s.looked.getAllLanguages clock server = (.ok response, t)
            ∧ s.getLanguagesByAlphabet clock rules server
              = (.ok (groupedByLetter rules response.languages, response),
                  t.store clock languagesByAlphabetKey
                    (.byAlphabet (groupedByLetter rules response.languages) response))) := by
  unfold getLanguagesByAlphabet
  split
  · rename_i groups response hlive
    exact .inl ⟨groups, response, liveGrouping_eq_some_iff.mpr hlive, rfl⟩
  · rename_i hother
    have hnone : s.liveGrouping clock = none := Option.eq_none_iff_forall_ne_some.mpr
      fun found hlive => hother found.1 found.2 (liveGrouping_eq_some_iff.mp hlive)
    refine .inr ⟨hnone, ?_⟩
    cases s.looked.getAllLanguages clock server with
    | mk result t =>
        cases result with
        | error error => exact .inl ⟨error, t, rfl, rfl⟩
        | ok response => exact .inr ⟨response, t, rfl, rfl⟩

theorem accounted_getLanguagesByAlphabet (hs : Accounted rules server s.calls s.cacheManager) :
    Accounted rules server s.calls
      (s.getLanguagesByAlphabet clock rules server).2.cacheManager := by
  have hlooked : Accounted rules server s.looked.calls s.looked.cacheManager := hs
  have hserved := getAllLanguages_served clock hlooked
  rcases getLanguagesByAlphabet_cases clock rules server s with
    ⟨groups, response, -, heq⟩ | ⟨-, ⟨error, t, hall, heq⟩ | ⟨response, t, hall, heq⟩⟩
  · rw [heq]
    exact hs
  · rw [heq]
    rw [hall] at hserved
    exact hserved.accounted
  · rw [heq]
    rw [hall] at hserved
    exact hserved.accounted.set_byAlphabet (hserved.cached response rfl) _

variable (clock rules server) in
/-- A search leaves the service as the list it searches does. -/
theorem searchLanguages_snd (s : LanguageService) (query : String) :
    (s.searchLanguages clock rules server query).2 = (s.getAllLanguages clock server).2 := by
  unfold searchLanguages
  cases s.getAllLanguages clock server with
  | mk result t =>
      cases result with
      | error error => rfl
      | ok response =>
          dsimp only
          split <;> rfl

theorem accounted_perform (hs : Accounted rules server s.calls s.cacheManager)
    (call : LanguageCall) :
    Accounted rules server s.calls (s.perform clock rules server call).2.cacheManager := by
  cases call with
  | getAllLanguages => exact (getAllLanguages_served clock hs).accounted
  | getLanguagesByAlphabet => exact accounted_getLanguagesByAlphabet hs
  | searchLanguages query =>
      change Accounted rules server s.calls
        (s.searchLanguages clock rules server query).2.cacheManager
      rw [searchLanguages_snd]
      exact (getAllLanguages_served clock hs).accounted
  | setCurrentLanguage languageCode => exact accounted_clear _

theorem accounted_of_reachable {currentLanguage : String}
    (hs : (languageService clock rules server currentLanguage).Reachable s) :
    Accounted rules server s.calls s.cacheManager := by
  refine Machine.ReachableWhere.invariant
    (fun s => Accounted rules server s.calls s.cacheManager) ?_ ?_ hs
  · rintro s rfl
    exact accounted_empty 0
  · intro s call t _ hs _ hstep
    obtain rfl := Option.some.inj hstep
    exact (accounted_perform hs call).later (Nat.le_succ s.calls)

/-! ### How old it is -/

/-- A search returns languages of the list. -/
theorem searchLanguages_eq_ok {query : String} {languages : List Language}
    {response : LanguageResponse}
    (h : (s.searchLanguages clock rules server query).1 = .ok (languages, response)) :
    (s.getAllLanguages clock server).1 = .ok response
      ∧ ∀ language ∈ languages, language ∈ response.languages := by
  unfold searchLanguages at h
  cases hall : s.getAllLanguages clock server with
  | mk result t =>
      rw [hall] at h
      cases result with
      | error error => cases h
      | ok source =>
          simp only at h
          split at h <;> obtain ⟨rfl, rfl⟩ := Prod.mk.inj (Except.ok.inj h)
          · exact ⟨rfl, fun _ hmem => hmem⟩
          · exact ⟨rfl, fun _ hmem => List.mem_of_mem_filter hmem⟩

/-! ### Stamps -/

variable (clock server) in
/-- Languages that arrive after a look into the cache are stored at the time at which they arrived.
-/
def StampedOnArrival (s : LanguageService) : Prop :=
  s.liveList clock = none → ∀ languages ∈ (server s.calls).toOption, languages ≠ [] →
    clock.reading s.looked.received.reads = clock.reading s.looked.reads

variable (clock server) in
/-- The call stores the languages it has asked for, if it asks, at the time at which they arrived.
-/
def StampsOnArrival (s : LanguageService) : LanguageCall → Prop
  | .getAllLanguages => s.StampedOnArrival clock server
  | .getLanguagesByAlphabet =>
      (s.liveGrouping clock).isNone = true → s.looked.StampedOnArrival clock server
  | .searchLanguages _ => s.StampedOnArrival clock server
  | .setCurrentLanguage _ => True

variable (clock server) in
/-- A grouping made after a look into the cache is stored at the time at which the languages in it
arrived. -/
def GroupedOnArrival (s : LanguageService) : Prop :=
  match s.liveList clock with
  | some response => response.languages ≠ [] → clock.reading s.looked.reads = response.receivedAt
  | none => ∀ languages ∈ (server s.calls).toOption, languages ≠ [] →
      clock.reading (s.looked.received.reads + 1) = clock.reading s.looked.reads

variable (clock server) in
/-- Whatever languages the call stores, it stores them at the time at which they arrived. -/
def StoresOnArrival (s : LanguageService) (call : LanguageCall) : Prop :=
  s.StampsOnArrival clock server call
    ∧ (call = .getLanguagesByAlphabet → (s.liveGrouping clock).isNone = true →
      s.looked.GroupedOnArrival clock server)

variable (clock) in
/-- The list is stamped with the date of its response, and a grouping in the cache is that of the
list, unless its own list has expired. -/
structure Dated (s : LanguageService) : Prop where
  stamped : ∀ response, s.cacheManager.get allLanguagesKey = some (.all response) →
    response.languages ≠ [] →
      s.cacheManager.timestamps allLanguagesKey = some response.receivedAt
  past : ∀ response, s.cacheManager.get allLanguagesKey = some (.all response) →
    response.receivedAt ≤ clock.reading s.reads
  grouped : ∀ groups source,
    s.cacheManager.get languagesByAlphabetKey = some (.byAlphabet groups source) →
      source.languages ≠ [] → s.cacheManager.get allLanguagesKey = some (.all source)
        ∨ languageCacheTTL < clock.reading s.reads - source.receivedAt

theorem Dated.frame (h : s.Dated clock) (hcache : t.cacheManager = s.cacheManager)
    (hreads : s.reads ≤ t.reads) : t.Dated clock := by
  constructor
  · rw [hcache]
    exact h.stamped
  · rw [hcache]
    intro response hget
    exact (h.past response hget).trans (clock.monotone hreads)
  · rw [hcache]
    intro groups source hget hne
    refine (h.grouped groups source hget hne).imp_right fun hexpired => ?_
    exact hexpired.trans_le (sub_le_sub_right (clock.monotone hreads) _)

theorem dated_clear (s : LanguageService) : s.clearLanguageCache.Dated clock := by
  obtain ⟨hlist, hgrouping⟩ := get_clear s
  constructor <;> intro <;> simp [hlist, hgrouping]

/-- A list in the cache that has not expired is live. -/
theorem Dated.liveList_eq_some_iff (h : s.Dated clock) {response : LanguageResponse}
    (hget : s.cacheManager.get allLanguagesKey = some (.all response))
    (hne : response.languages ≠ []) :
    s.liveList clock = some response
      ↔ clock.reading s.reads - response.receivedAt ≤ languageCacheTTL := by
  rw [LanguageService.liveList_eq_some_iff, live_eq_some_iff, h.stamped response hget hne]
  constructor
  · rintro ⟨-, timestamp, htimestamp, hrecent⟩
    exact Option.some.inj htimestamp ▸ hrecent
  · intro hrecent
    exact ⟨hget, _, rfl, hrecent⟩

/-- A new list replaces one that has expired. -/
theorem Dated.store_all (h : s.Dated clock) (hnone : s.liveList clock = none)
    (hstamp : s.StampedOnArrival clock server) {languages : List Language}
    (hanswer : server s.calls = .ok languages) :
    (s.looked.received.store clock allLanguagesKey (.all (s.response clock languages))).Dated
      clock := by
  have hlater : clock.reading s.reads ≤ clock.reading (s.reads + 3) :=
    clock.monotone (Nat.le_add_right _ 3)
  constructor
  · intro response hget hne
    simp only [store, CacheManager.get_set_self] at hget
    obtain rfl := CachedLanguages.all.inj (Option.some.inj hget)
    have harrived := hstamp hnone languages (by simp [hanswer, Except.toOption]) hne
    simp only [store, CacheManager.timestamps_set_self, harrived]
    rfl
  · intro response hget
    simp only [store, CacheManager.get_set_self] at hget
    obtain rfl := CachedLanguages.all.inj (Option.some.inj hget)
    exact clock.monotone (Nat.le_add_right (s.reads + 1) 2)
  · intro groups source hget hne
    simp only [store] at hget
    rw [CacheManager.get_set_of_ne keys_ne] at hget
    refine .inr ?_
    rcases h.grouped groups source hget hne with hlist | hexpired
    · have hnotLive : s.liveList clock ≠ some source := by simp [hnone]
      rw [Ne, h.liveList_eq_some_iff hlist hne, not_le] at hnotLive
      exact hnotLive.trans_le (sub_le_sub_right hlater _)
    · exact hexpired.trans_le (sub_le_sub_right hlater _)

/-- The grouping of the list in the cache is stored. -/
theorem Dated.store_byAlphabet (h : s.Dated clock) {response : LanguageResponse}
    (hcurrent : s.cacheManager.get allLanguagesKey = some (.all response))
    (groups : LanguageGroups) :
    (s.store clock languagesByAlphabetKey (.byAlphabet groups response)).Dated clock := by
  have hlist : (s.store clock languagesByAlphabetKey (.byAlphabet groups response)
      ).cacheManager.get allLanguagesKey = s.cacheManager.get allLanguagesKey :=
    CacheManager.get_set_of_ne keys_ne.symm ..
  constructor
  · intro stored hget hne
    rw [hlist] at hget
    simp only [store, CacheManager.timestamps_set_of_ne keys_ne.symm]
    exact h.stamped stored hget hne
  · intro stored hget
    rw [hlist] at hget
    exact (h.past stored hget).trans (clock.monotone (Nat.le_succ s.reads))
  · intro groups' source hget _
    simp only [store, CacheManager.get_set_self] at hget
    obtain ⟨-, rfl⟩ := CachedLanguages.byAlphabet.inj (Option.some.inj hget)
    exact .inl (hlist.trans hcurrent)

theorem Dated.getAllLanguages (h : s.Dated clock) (hstamp : s.StampedOnArrival clock server) :
    (s.getAllLanguages clock server).2.Dated clock := by
  rcases getAllLanguages_cases clock server s with
    ⟨response, -, heq⟩ | ⟨hnone, ⟨error, -, heq⟩ | ⟨languages, hanswer, heq⟩⟩
  · rw [heq]
    exact h.frame rfl (Nat.le_succ _)
  · rw [heq]
    exact h.frame rfl (Nat.le_succ _)
  · rw [heq]
    exact h.store_all hnone hstamp hanswer

theorem Dated.perform (h : s.Dated clock) (hs : Accounted rules server s.calls s.cacheManager)
    (call : LanguageCall) (hstamp : s.StampsOnArrival clock server call) :
    (s.perform clock rules server call).2.Dated clock := by
  cases call with
  | getAllLanguages => exact h.getAllLanguages hstamp
  | getLanguagesByAlphabet =>
      change (s.getLanguagesByAlphabet clock rules server).2.Dated clock
      have hlooked : s.looked.Dated clock := h.frame rfl (Nat.le_succ _)
      have hserved : ListServed rules server s.looked (s.looked.getAllLanguages clock server).1
          (s.looked.getAllLanguages clock server).2 := getAllLanguages_served clock hs
      rcases getLanguagesByAlphabet_cases clock rules server s with
        ⟨groups, response, -, heq⟩ | ⟨hnone, ⟨error, t, hall, heq⟩ | ⟨response, t, hall, heq⟩⟩
      · rw [heq]
        exact hlooked
      · have ht : (s.looked.getAllLanguages clock server).2.Dated clock :=
          hlooked.getAllLanguages (hstamp (Option.isNone_iff_eq_none.mpr hnone))
        rw [hall] at ht
        rw [heq]
        exact ht
      · have ht : (s.looked.getAllLanguages clock server).2.Dated clock :=
          hlooked.getAllLanguages (hstamp (Option.isNone_iff_eq_none.mpr hnone))
        rw [hall] at ht hserved
        rw [heq]
        exact ht.store_byAlphabet (hserved.cached response rfl) _
  | searchLanguages query =>
      change (s.searchLanguages clock rules server query).2.Dated clock
      rw [searchLanguages_snd]
      exact h.getAllLanguages hstamp
  | setCurrentLanguage languageCode => exact dated_clear _

theorem dated_of_reachableWhere {currentLanguage : String}
    (hs : (languageService clock rules server currentLanguage).ReachableWhere
      (StampsOnArrival clock server) s) : s.Dated clock := by
  refine Machine.ReachableWhere.invariant (Dated clock) ?_ ?_ hs
  · rintro s rfl
    constructor <;> intro <;> simp [initial, CacheManager.empty, CacheManager.get]
  · intro s call t hreach hs hstamp hstep
    obtain rfl := Option.some.inj hstep
    exact (hs.perform (accounted_of_reachable hreach.reachable) call hstamp).frame rfl le_rfl

/-- A grouping is stamped with the date of the response it was made from. -/
def GroupingDated (m : CacheManager CachedLanguages) : Prop :=
  ∀ groups source, m.get languagesByAlphabetKey = some (.byAlphabet groups source) →
    source.languages ≠ [] → m.timestamps languagesByAlphabetKey = some source.receivedAt

theorem groupingDated_getAllLanguages (h : GroupingDated s.cacheManager) :
    GroupingDated (s.getAllLanguages clock server).2.cacheManager := by
  rcases getAllLanguages_cases clock server s with
    ⟨response, -, heq⟩ | ⟨-, ⟨error, -, heq⟩ | ⟨languages, -, heq⟩⟩
  · rw [heq]
    exact h
  · rw [heq]
    exact h
  · rw [heq]
    intro groups source hget
    simp only [store] at hget ⊢
    rw [CacheManager.get_set_of_ne keys_ne] at hget
    rw [CacheManager.timestamps_set_of_ne keys_ne]
    exact h groups source hget

/-- Where the list is grouped on arrival, the next reading is the date of the list. -/
theorem reading_of_groupedOnArrival (h : s.GroupedOnArrival clock server)
    {response : LanguageResponse} (hall : s.getAllLanguages clock server = (.ok response, t))
    (hne : response.languages ≠ []) : clock.reading t.reads = response.receivedAt := by
  unfold GroupedOnArrival at h
  rcases getAllLanguages_cases clock server s with
    ⟨cached, hlive, heq⟩ | ⟨hnone, ⟨error, -, heq⟩ | ⟨languages, hanswer, heq⟩⟩
  · obtain ⟨hresult, rfl⟩ := Prod.mk.inj (heq.symm.trans hall)
    obtain rfl := Except.ok.inj hresult
    rw [hlive] at h
    exact h hne
  · cases (Prod.mk.inj (heq.symm.trans hall)).1
  · obtain ⟨hresult, rfl⟩ := Prod.mk.inj (heq.symm.trans hall)
    obtain rfl := Except.ok.inj hresult
    rw [hnone] at h
    exact h languages (by simp [hanswer, Except.toOption]) hne

theorem groupingDated_perform (h : GroupingDated s.cacheManager) (call : LanguageCall)
    (hstores : s.StoresOnArrival clock server call) :
    GroupingDated (s.perform clock rules server call).2.cacheManager := by
  cases call with
  | getAllLanguages => exact groupingDated_getAllLanguages h
  | getLanguagesByAlphabet =>
      change GroupingDated (s.getLanguagesByAlphabet clock rules server).2.cacheManager
      have hlooked : GroupingDated (s.looked.getAllLanguages clock server).2.cacheManager :=
        groupingDated_getAllLanguages h
      rcases getLanguagesByAlphabet_cases clock rules server s with
        ⟨groups, response, -, heq⟩ | ⟨hnone, ⟨error, t, hall, heq⟩ | ⟨response, t, hall, heq⟩⟩
      · rw [heq]
        exact h
      · rw [heq]
        rw [hall] at hlooked
        exact hlooked
      · rw [heq]
        intro groups source hget hne
        simp only [store, CacheManager.get_set_self] at hget
        obtain ⟨-, rfl⟩ := CachedLanguages.byAlphabet.inj (Option.some.inj hget)
        have harrived := reading_of_groupedOnArrival
          (hstores.2 rfl (Option.isNone_iff_eq_none.mpr hnone)) hall hne
        simp only [store, CacheManager.timestamps_set_self, harrived]
  | searchLanguages query =>
      change GroupingDated (s.searchLanguages clock rules server query).2.cacheManager
      rw [searchLanguages_snd]
      exact groupingDated_getAllLanguages h
  | setCurrentLanguage languageCode =>
      intro groups source hget
      rw [perform, setCurrentLanguage, (get_clear _).2] at hget
      cases hget

theorem groupingDated_of_reachableWhere {currentLanguage : String}
    (hs : (languageService clock rules server currentLanguage).ReachableWhere
      (StoresOnArrival clock server) s) : GroupingDated s.cacheManager := by
  refine Machine.ReachableWhere.invariant (fun s => GroupingDated s.cacheManager) ?_ ?_ hs
  · rintro s rfl groups source hget
    cases hget
  · intro s call t _ hs hstores hstep
    obtain rfl := Option.some.inj hstep
    exact groupingDated_perform hs call hstores

/-! ### What is served is recent -/

variable (clock) in
/-- A grouping in the cache is served only while the list it was made from is still there and has
not expired. -/
def ServesLiveList (s : LanguageService) : LanguageCall → Prop
  | .getLanguagesByAlphabet => ∀ groups response,
      s.liveGrouping clock = some (groups, response) → response.languages ≠ [] →
        s.liveList clock = some response
  | _ => True

theorem getAllLanguages_recent (h : s.Dated clock) {response : LanguageResponse}
    (hresult : (s.getAllLanguages clock server).1 = .ok response)
    (hne : response.languages ≠ []) :
    clock.reading s.reads - response.receivedAt ≤ languageCacheTTL := by
  rcases getAllLanguages_cases clock server s with
    ⟨cached, hlive, heq⟩ | ⟨-, ⟨error, -, heq⟩ | ⟨languages, -, heq⟩⟩
  · rw [heq] at hresult
    obtain rfl := Except.ok.inj hresult
    obtain ⟨hget, -⟩ := live_eq_some_iff.mp (LanguageService.liveList_eq_some_iff.mp hlive)
    exact (h.liveList_eq_some_iff hget hne).mp hlive
  · rw [heq] at hresult
    cases hresult
  · rw [heq] at hresult
    obtain rfl := Except.ok.inj hresult
    have hlater : clock.reading s.reads ≤ clock.reading s.looked.reads :=
      clock.monotone (Nat.le_succ s.reads)
    exact (sub_nonpos.mpr hlater).trans (by decide)

/-- A grouping in the cache is recent exactly while its list is live. -/
theorem Dated.recent_iff (h : s.Dated clock) {groups : LanguageGroups}
    {response : LanguageResponse}
    (hgrouping : s.cacheManager.get languagesByAlphabetKey = some (.byAlphabet groups response))
    (hne : response.languages ≠ []) :
    clock.reading s.reads - response.receivedAt ≤ languageCacheTTL
      ↔ s.liveList clock = some response := by
  constructor
  · intro hrecent
    rcases h.grouped groups response hgrouping hne with hlist | hexpired
    · exact (h.liveList_eq_some_iff hlist hne).mpr hrecent
    · exact absurd hrecent hexpired.not_ge
  · intro hlive
    obtain ⟨hget, -⟩ := live_eq_some_iff.mp (LanguageService.liveList_eq_some_iff.mp hlive)
    exact (h.liveList_eq_some_iff hget hne).mp hlive

theorem freshAt_list {languages : List Language} {response : LanguageResponse}
    (hreceived : Received server s.calls response)
    (hrecent : response.languages ≠ [] →
      clock.reading s.reads - response.receivedAt ≤ languageCacheTTL)
    (hsub : ∀ language ∈ languages, language ∈ response.languages) :
    (LanguageResult.list languages response).FreshAt server (clock.reading s.reads) :=
  fun language hmem => ⟨response, rfl, hreceived.answer, hsub language hmem,
    hrecent (List.ne_nil_of_mem (hsub language hmem))⟩

variable (rules) in
theorem freshAt_grouping_iff {response : LanguageResponse}
    (hreceived : Received server s.calls response) :
    (LanguageResult.grouping (groupedByLetter rules response.languages) response).FreshAt server
        (clock.reading s.reads)
      ↔ (response.languages ≠ [] →
          clock.reading s.reads - response.receivedAt ≤ languageCacheTTL) := by
  constructor
  · intro hfresh hne
    obtain ⟨language, hmem⟩ := List.exists_mem_of_ne_nil _ hne
    obtain ⟨other, hother, -, -, hrecent⟩ :=
      hfresh language ((exists_group_iff rules _ language).mpr hmem)
    obtain rfl := Option.some.inj hother
    exact hrecent
  · intro hrecent language hcontains
    have hmem : language ∈ response.languages := (exists_group_iff rules _ language).mp hcontains
    exact ⟨response, rfl, hreceived.answer, hmem, hrecent (List.ne_nil_of_mem hmem)⟩

theorem map_eq_ok {α β : Type} {f : α → β} {result : Except ε α} {value : β}
    (h : result.map f = .ok value) : ∃ found, result = .ok found ∧ f found = value := by
  cases result with
  | error error => cases h
  | ok found => exact ⟨found, rfl, Except.ok.inj h⟩

/-- A grouping that is not served from the cache is as recent as the list it is made from. -/
theorem freshAt_of_grouped (hs : Accounted rules server s.calls s.cacheManager)
    (hdated : s.Dated clock) (hnone : s.liveGrouping clock = none) {groups : LanguageGroups}
    {response : LanguageResponse}
    (hresult : (s.getLanguagesByAlphabet clock rules server).1 = .ok (groups, response)) :
    (LanguageResult.grouping groups response).FreshAt server (clock.reading s.reads) := by
  have hlooked : s.looked.Dated clock := hdated.frame rfl (Nat.le_succ _)
  have hserved : ListServed rules server s.looked (s.looked.getAllLanguages clock server).1
      (s.looked.getAllLanguages clock server).2 := getAllLanguages_served clock hs
  rcases getLanguagesByAlphabet_cases clock rules server s with
    ⟨cached, source, hlive, -⟩ | ⟨-, ⟨error, t, hall, heq⟩ | ⟨source, t, hall, heq⟩⟩
  · rw [hnone] at hlive
    cases hlive
  · rw [heq] at hresult
    cases hresult
  · rw [heq] at hresult
    obtain ⟨rfl, rfl⟩ := Prod.mk.inj (Except.ok.inj hresult)
    rw [hall] at hserved
    have hreceived : Received server s.calls source :=
      hserved.accounted.list source (hserved.cached source rfl)
    have hanswer : (s.looked.getAllLanguages clock server).1 = .ok source := by rw [hall]
    have hearlier : clock.reading s.reads ≤ clock.reading s.looked.reads :=
      clock.monotone (Nat.le_succ s.reads)
    rw [freshAt_grouping_iff rules hreceived]
    intro hne
    exact (sub_le_sub_right hearlier _).trans (getAllLanguages_recent hlooked hanswer hne)

theorem perform_freshAt_iff (hs : Accounted rules server s.calls s.cacheManager)
    (hdated : s.Dated clock) (call : LanguageCall) :
    (∀ result, (s.perform clock rules server call).1 = .ok result →
        result.FreshAt server (clock.reading s.reads)) ↔ s.ServesLiveList clock call := by
  have hserved := getAllLanguages_served clock hs
  cases call with
  | getAllLanguages =>
      refine iff_of_true ?_ trivial
      intro result hresult
      obtain ⟨response, hall, rfl⟩ := map_eq_ok hresult
      exact freshAt_list (hserved.accounted.list response (hserved.cached response hall))
        (getAllLanguages_recent hdated hall) fun _ hmem => hmem
  | getLanguagesByAlphabet =>
      rcases getLanguagesByAlphabet_cases clock rules server s with
        ⟨groups, response, hlive, heq⟩ | ⟨hnone, -⟩
      · obtain ⟨hget, -⟩ := live_eq_some_iff.mp (liveGrouping_eq_some_iff.mp hlive)
        obtain ⟨hreceived, rfl⟩ := hs.grouping groups response hget
        have hrecent : (LanguageResult.grouping (groupedByLetter rules response.languages)
              response).FreshAt server (clock.reading s.reads)
            ↔ (response.languages ≠ [] → s.liveList clock = some response) :=
          (freshAt_grouping_iff rules hreceived).trans
            (imp_congr_right (hdated.recent_iff hget))
        simp only [ServesLiveList, hlive, Option.some.injEq, Prod.mk.injEq]
        constructor
        · rintro hfresh _ _ ⟨rfl, rfl⟩
          exact hrecent.mp (hfresh _ (by rw [perform, heq]; rfl))
        · intro hserves result hresult
          rw [perform, heq] at hresult
          obtain rfl := Except.ok.inj hresult
          exact hrecent.mpr (hserves _ _ ⟨rfl, rfl⟩)
      · refine iff_of_true ?_ fun groups response hlive => ?_
        · intro result hresult
          obtain ⟨⟨groups, response⟩, hgrouped, rfl⟩ := map_eq_ok hresult
          exact freshAt_of_grouped hs hdated hnone hgrouped
        · rw [hnone] at hlive
          cases hlive
  | searchLanguages query =>
      refine iff_of_true ?_ trivial
      intro result hresult
      obtain ⟨⟨languages, response⟩, hfound, rfl⟩ := map_eq_ok hresult
      obtain ⟨hall, hsub⟩ := searchLanguages_eq_ok hfound
      exact freshAt_list (hserved.accounted.list response (hserved.cached response hall))
        (getAllLanguages_recent hdated hall) hsub
  | setCurrentLanguage languageCode =>
      refine iff_of_true ?_ trivial
      intro result hresult language hcontains
      obtain rfl := Except.ok.inj hresult
      exact hcontains.elim

/-- A grouping stamped as its response arrived does not outlive the list. -/
theorem servesLiveList_of_groupingDated (hdated : s.Dated clock)
    (hgrouping : GroupingDated s.cacheManager) (call : LanguageCall) :
    s.ServesLiveList clock call := by
  cases call with
  | getLanguagesByAlphabet =>
      intro groups response hlive hne
      obtain ⟨hget, timestamp, htimestamp, hrecent⟩ :=
        live_eq_some_iff.mp (liveGrouping_eq_some_iff.mp hlive)
      obtain rfl := Option.some.inj (htimestamp.symm.trans (hgrouping groups response hget hne))
      exact (hdated.recent_iff hget hne).mp hrecent
  | _ => trivial

/-! ### What is stored late is served too long -/

variable (clock rules server s) in
/-- Should the clock go on in some way, a call serves data that is too old. -/
def MayServeStale : Prop :=
  ∃ later : Clock Date, (∀ n < s.reads, later.reading n = clock.reading n) ∧
    ∃ call result, (s.perform later rules server call).1 = .ok result
      ∧ ¬ result.FreshAt server (later.reading s.reads)

/-- An entry lives for a day after its stamp. -/
theorem live_stopAt {key : String} {value : CachedLanguages} {reads : ℕ} {timestamp : Date}
    (hget : s.cacheManager.get key = some value)
    (htimestamp : s.cacheManager.timestamps key = some timestamp) (hreads : s.reads = reads)
    (hbefore : ∀ n < reads, clock.reading n ≤ timestamp + languageCacheTTL) :
    s.live (clock.stopAt reads (timestamp + languageCacheTTL) hbefore) key = some value := by
  refine live_eq_some_iff.mpr ⟨hget, timestamp, htimestamp, ?_⟩
  rw [hreads, Clock.reading_stopAt_self, add_sub_cancel_left]

/-- Languages stored at the last reading, after they had arrived, can be served too old. -/
theorem mayServeStale_of_late {response : LanguageResponse} {timestamp : Date}
    (hne : response.languages ≠ []) (hlate : response.receivedAt < timestamp)
    (hpast : ∀ n < s.reads, clock.reading n ≤ timestamp)
    (hstored : s.cacheManager.get allLanguagesKey = some (.all response)
        ∧ s.cacheManager.timestamps allLanguagesKey = some timestamp
      ∨ s.cacheManager.get languagesByAlphabetKey
          = some (.byAlphabet (groupedByLetter rules response.languages) response)
        ∧ s.cacheManager.timestamps languagesByAlphabetKey = some timestamp) :
    s.MayServeStale clock rules server := by
  have hbefore : ∀ n < s.reads, clock.reading n ≤ timestamp + languageCacheTTL :=
    fun n hn => (hpast n hn).trans (le_add_of_nonneg_right (by decide))
  let later : Clock Date := clock.stopAt s.reads (timestamp + languageCacheTTL) hbefore
  have hage : languageCacheTTL < later.reading s.reads - response.receivedAt := by
    rw [Clock.reading_stopAt_self, lt_sub_iff_add_lt']
    exact (add_lt_add_iff_right _).mpr hlate
  obtain ⟨language, hmem⟩ := List.exists_mem_of_ne_nil _ hne
  refine ⟨later, fun n hn => Clock.reading_stopAt_of_lt hbefore hn, ?_⟩
  rcases hstored with ⟨hget, htimestamp⟩ | ⟨hget, htimestamp⟩
  · have hlive : s.live later allLanguagesKey = some (.all response) :=
      live_stopAt hget htimestamp rfl hbefore
    refine ⟨.getAllLanguages, .list response.languages response, ?_, ?_⟩
    · simp only [perform, getAllLanguages, hlive]
      rfl
    · intro hfresh
      obtain ⟨source, hsource, -, -, hrecent⟩ := hfresh language hmem
      obtain rfl := Option.some.inj hsource
      exact absurd hrecent hage.not_ge
  · have hlive : s.live later languagesByAlphabetKey
        = some (.byAlphabet (groupedByLetter rules response.languages) response) :=
      live_stopAt hget htimestamp rfl hbefore
    refine ⟨.getLanguagesByAlphabet, .grouping (groupedByLetter rules response.languages) response,
      ?_, ?_⟩
    · simp only [perform, getLanguagesByAlphabet, hlive]
      rfl
    · intro hfresh
      obtain ⟨source, hsource, -, -, hrecent⟩ :=
        hfresh language ((exists_group_iff rules _ language).mpr hmem)
      obtain rfl := Option.some.inj hsource
      exact absurd hrecent hage.not_ge

theorem reading_le_of_lt_succ {n reads : ℕ} (h : n < reads + 1) :
    clock.reading n ≤ clock.reading reads := clock.monotone (Nat.lt_succ_iff.mp h)

/-- A list that is not stored as it arrives. -/
theorem mayServeStale_of_list (hlate : ¬ s.StampedOnArrival clock server)
    (ht : t.cacheManager = (s.getAllLanguages clock server).2.cacheManager)
    (hreads : t.reads = (s.getAllLanguages clock server).2.reads) :
    t.MayServeStale clock rules server := by
  obtain ⟨hnone, languages, hanswer, hne, hstamp⟩ : s.liveList clock = none
      ∧ ∃ languages, (server s.calls).toOption = some languages ∧ languages ≠ []
        ∧ clock.reading s.looked.received.reads ≠ clock.reading s.looked.reads := by
    simpa [StampedOnArrival] using hlate
  rcases getAllLanguages_cases clock server s with
    ⟨response, hlive, -⟩ | ⟨-, ⟨error, herror, -⟩ | ⟨other, hother, heq⟩⟩
  · rw [hnone] at hlive
    cases hlive
  · rw [herror] at hanswer
    cases hanswer
  · rw [hother] at hanswer
    obtain rfl : other = languages := Option.some.inj hanswer
    rw [heq] at ht hreads
    have hlanguages : (s.response clock other).languages ≠ [] := hne
    have harrived : clock.reading s.looked.reads < clock.reading s.looked.received.reads :=
      lt_of_le_of_ne (clock.monotone (Nat.le_succ _)) hstamp.symm
    refine mayServeStale_of_late hlanguages harrived ?_ (.inl ⟨?_, ?_⟩)
    · intro n hn
      rw [hreads] at hn
      exact reading_le_of_lt_succ hn
    · rw [ht]
      exact CacheManager.get_set_self ..
    · rw [ht]
      exact CacheManager.timestamps_set_self ..

/-- What a late grouping is made of. -/
theorem exists_late_of_not_groupedOnArrival (hdated : s.Dated clock)
    (hlate : ¬ s.StampedOnArrival clock server ∨ ¬ s.GroupedOnArrival clock server) :
    ∃ response t, s.getAllLanguages clock server = (.ok response, t)
      ∧ response.languages ≠ [] ∧ response.receivedAt < clock.reading t.reads := by
  rcases getAllLanguages_cases clock server s with
    ⟨response, hlive, heq⟩ | ⟨hnone, ⟨error, herror, heq⟩ | ⟨languages, hanswer, heq⟩⟩
  · have hstamped : s.StampedOnArrival clock server := by
      intro hnone
      rw [hlive] at hnone
      cases hnone
    have hgrouped := hlate.resolve_left fun h => h hstamped
    rw [GroupedOnArrival, hlive] at hgrouped
    obtain ⟨hne, hreading⟩ := Classical.not_imp.mp hgrouped
    have hpast : response.receivedAt ≤ clock.reading s.looked.reads := by
      obtain ⟨hget, -⟩ := live_eq_some_iff.mp (LanguageService.liveList_eq_some_iff.mp hlive)
      exact (hdated.past response hget).trans (clock.monotone (Nat.le_succ _))
    exact ⟨response, s.looked, heq, hne, lt_of_le_of_ne hpast (Ne.symm hreading)⟩
  · have hnothing : (server s.calls).toOption = none := by
      rw [herror]
      rfl
    rcases hlate with hlate | hlate
    · exact absurd (fun _ => by simp [hnothing]) hlate
    · rw [GroupedOnArrival, hnone] at hlate
      exact absurd (by simp [hnothing]) hlate
  · have hsome : (server s.calls).toOption = some languages := by
      rw [hanswer]
      rfl
    refine ⟨s.response clock languages, _, heq, ?_⟩
    have hstored : clock.reading s.looked.reads ≤ clock.reading s.looked.received.reads :=
      clock.monotone (Nat.le_succ _)
    have hgrouped : clock.reading s.looked.received.reads
        ≤ clock.reading (s.looked.received.reads + 1) := clock.monotone (Nat.le_succ _)
    rcases hlate with hlate | hlate
    · obtain ⟨hne, hreading⟩ : languages ≠ []
          ∧ clock.reading s.looked.received.reads ≠ clock.reading s.looked.reads := by
        simpa [StampedOnArrival, hnone, hsome] using hlate
      exact ⟨hne, (lt_of_le_of_ne hstored hreading.symm).trans_le hgrouped⟩
    · obtain ⟨hne, hreading⟩ : languages ≠ []
          ∧ clock.reading (s.looked.received.reads + 1) ≠ clock.reading s.looked.reads := by
        simpa [GroupedOnArrival, hnone, hsome] using hlate
      exact ⟨hne, lt_of_le_of_ne (hstored.trans hgrouped) hreading.symm⟩

/-- After a call that stores late the service may serve what it has stored for too long. -/
theorem mayServeStale_of_step (hdated : s.Dated clock) {call : LanguageCall}
    (hstep : s.step clock rules server call = some t)
    (hlate : ¬ s.StoresOnArrival clock server call) : t.MayServeStale clock rules server := by
  obtain rfl := Option.some.inj hstep
  cases call with
  | getAllLanguages =>
      have hlist : ¬ s.StampedOnArrival clock server := by
        simpa [StoresOnArrival, StampsOnArrival] using hlate
      exact mayServeStale_of_list hlist rfl rfl
  | searchLanguages query =>
      have hlist : ¬ s.StampedOnArrival clock server := by
        simpa [StoresOnArrival, StampsOnArrival] using hlate
      have hsame : (s.perform clock rules server (.searchLanguages query)).2
          = (s.getAllLanguages clock server).2 := searchLanguages_snd clock rules server s query
      have hcache := congrArg LanguageService.cacheManager hsame
      have hreads := congrArg LanguageService.reads hsame
      exact mayServeStale_of_list hlist hcache hreads
  | getLanguagesByAlphabet =>
      obtain ⟨hnone, hlooked⟩ : s.liveGrouping clock = none
          ∧ (¬ s.looked.StampedOnArrival clock server
            ∨ ¬ s.looked.GroupedOnArrival clock server) := by
        simp only [StoresOnArrival, StampsOnArrival, Option.isNone_iff_eq_none] at hlate
        tauto
      have hdated' : s.looked.Dated clock := hdated.frame rfl (Nat.le_succ _)
      obtain ⟨response, t, hall, hne, harrived⟩ :=
        exists_late_of_not_groupedOnArrival hdated' hlooked
      rcases getLanguagesByAlphabet_cases clock rules server s with
        ⟨groups, source, hlive, -⟩ | ⟨-, ⟨error, u, herror, -⟩ | ⟨source, u, hsource, heq⟩⟩
      · rw [hnone] at hlive
        cases hlive
      · cases (Prod.mk.inj (hall.symm.trans herror)).1
      · obtain ⟨hresult, rfl⟩ := Prod.mk.inj (hall.symm.trans hsource)
        obtain rfl := Except.ok.inj hresult
        simp only [perform, heq]
        exact mayServeStale_of_late hne harrived (fun n hn => reading_le_of_lt_succ hn)
          (.inr ⟨CacheManager.get_set_self .., CacheManager.timestamps_set_self ..⟩)
  | setCurrentLanguage languageCode => simp [StoresOnArrival, StampsOnArrival] at hlate

/-! ### What is grouped -/

variable (clock rules server) in
/-- The grouping returned is that of the list `getAllLanguages` would return, if since the response
it was made from the server's answer has been the same. -/
def GroupsCurrentList (s : LanguageService) : Prop :=
  ∀ groups response,
    (s.getLanguagesByAlphabet clock rules server).1 = .ok (groups, response) →
    (∀ call, response.call ≤ call → call ≤ s.calls → server call = .ok response.languages) →
    ∃ current, (s.looked.getAllLanguages clock server).1 = .ok current
      ∧ groups = groupedByLetter rules current.languages

theorem groupsCurrentList (hs : Accounted rules server s.calls s.cacheManager) :
    s.GroupsCurrentList clock rules server := by
  intro groups response hresult hunchanged
  rcases getLanguagesByAlphabet_cases clock rules server s with
    ⟨cached, source, hlive, heq⟩ | ⟨-, ⟨error, t, -, heq⟩ | ⟨source, t, hall, heq⟩⟩
  · rw [heq] at hresult
    obtain ⟨rfl, rfl⟩ := Prod.mk.inj (Except.ok.inj hresult)
    obtain ⟨hgrouping, -⟩ := live_eq_some_iff.mp (liveGrouping_eq_some_iff.mp hlive)
    obtain ⟨hreceived, rfl⟩ := hs.grouping cached source hgrouping
    have hnow : server s.calls = .ok source.languages := hunchanged s.calls hreceived.call le_rfl
    rcases getAllLanguages_cases clock server s.looked with
      ⟨current, hcurrent, hall⟩ | ⟨-, ⟨error, herror, -⟩ | ⟨languages, hanswer, hall⟩⟩
    · -- the list in the cache was received with the grouping's or after it
      obtain ⟨hlist, -⟩ :=
        live_eq_some_iff.mp (LanguageService.liveList_eq_some_iff.mp hcurrent)
      have hcurrentReceived : Received server s.calls current := hs.list current hlist
      have hle : source.call ≤ current.call := hs.ordered current _ source hlist hgrouping
      have hsame := (hunchanged current.call hle hcurrentReceived.call).symm.trans
        hcurrentReceived.answer
      refine ⟨current, by rw [hall], ?_⟩
      rw [Except.ok.inj hsame]
    · rw [show s.looked.calls = s.calls from rfl, hnow] at herror
      cases herror
    · refine ⟨_, by rw [hall], ?_⟩
      have hsame := hnow.symm.trans hanswer
      exact congrArg _ (Except.ok.inj hsame)
  · rw [heq] at hresult
    cases hresult
  · rw [heq] at hresult
    obtain ⟨rfl, rfl⟩ := Prod.mk.inj (Except.ok.inj hresult)
    exact ⟨source, by rw [hall], rfl⟩

/-- **The service serves data of the last day** in a run in which languages are stored as they
arrive, and after any call that stores some later it may serve older data. If lists are stored so,
then a call serves data of the last day exactly where a grouping it serves from the cache is of a
list that is live. In every run the grouping is that of the list it would serve. -/
theorem languages_served_fresh (clock : Clock Date) (rules : TextRules)
    (server : ℕ → Except ε (List Language)) (currentLanguage : String) :
    (∀ s, (languageService clock rules server currentLanguage).ReachableWhere
        (StoresOnArrival clock server) s →
      (∀ call result, (s.perform clock rules server call).1 = .ok result →
          result.FreshAt server (clock.reading s.reads))
        ∧ ∀ call t, s.step clock rules server call = some t →
          ¬ s.StoresOnArrival clock server call → t.MayServeStale clock rules server)
      ∧ (∀ s, (languageService clock rules server currentLanguage).ReachableWhere
          (StampsOnArrival clock server) s → ∀ call,
        ((∀ result, (s.perform clock rules server call).1 = .ok result →
            result.FreshAt server (clock.reading s.reads)) ↔ s.ServesLiveList clock call))
      ∧ ∀ s, (languageService clock rules server currentLanguage).Reachable s →
        s.GroupsCurrentList clock rules server := by
  have hexact : ∀ s, (languageService clock rules server currentLanguage).ReachableWhere
      (StampsOnArrival clock server) s → ∀ call,
    ((∀ result, (s.perform clock rules server call).1 = .ok result →
        result.FreshAt server (clock.reading s.reads)) ↔ s.ServesLiveList clock call) :=
    fun s hs call => perform_freshAt_iff (accounted_of_reachable hs.reachable)
      (dated_of_reachableWhere hs) call
  refine ⟨fun s hs => ?_, hexact, fun s hs => groupsCurrentList (accounted_of_reachable hs)⟩
  have hstamps : (languageService clock rules server currentLanguage).ReachableWhere
      (StampsOnArrival clock server) s := hs.mono fun _ _ _ hstores => hstores.1
  have hdated : s.Dated clock := dated_of_reachableWhere hstamps
  refine ⟨fun call => (hexact s hstamps call).mpr ?_, fun call t hstep hlate => ?_⟩
  · exact servesLiveList_of_groupingDated hdated (groupingDated_of_reachableWhere hs) call
  · exact mayServeStale_of_step hdated hstep hlate

def plainRules : TextRules := ⟨id, id, id⟩

def english : Language := ⟨"en", "English", "English"⟩

def englishServer : ℕ → Except Unit (List Language) := fun _ => .ok [english]

instance (s : LanguageService) : Decidable (s.StampedOnArrival clock server) :=
  inferInstanceAs (Decidable (_ → ∀ languages ∈ (server s.calls).toOption, _ → _))

instance (s : LanguageService) (call : LanguageCall) :
    Decidable (s.StampsOnArrival clock server call) :=
  match call with
  | .getAllLanguages => inferInstanceAs (Decidable (s.StampedOnArrival clock server))
  | .getLanguagesByAlphabet => inferInstanceAs (Decidable (_ → _))
  | .searchLanguages _ => inferInstanceAs (Decidable (s.StampedOnArrival clock server))
  | .setCurrentLanguage _ => isTrue trivial

instance (s : LanguageService) : Decidable (s.GroupedOnArrival clock server) :=
  match h : s.liveList clock with
  | some response => decidable_of_iff
      (response.languages ≠ [] → clock.reading s.looked.reads = response.receivedAt)
      (by rw [GroupedOnArrival, h])
  | none => decidable_of_iff
      (∀ languages ∈ (server s.calls).toOption, languages ≠ [] →
        clock.reading (s.looked.received.reads + 1) = clock.reading s.looked.reads)
      (by rw [GroupedOnArrival, h])

instance (s : LanguageService) (call : LanguageCall) :
    Decidable (s.StoresOnArrival clock server call) :=
  inferInstanceAs (Decidable (_ ∧ (_ → _ → _)))

/-- A grouping made as its list arrives is served a day later, and one made 1000 seconds after it is
served 85400 seconds later. -/
theorem languages_served_fresh_of_grouping :
    (let clock := Clock.ofGaps [0, 0, 0, 0, 0, 86400]
      ∃ s, (languageService clock plainRules englishServer "en").exec (initial "en")
          [.getLanguagesByAlphabet] = some s
        ∧ (s.liveGrouping clock).isSome = true
        ∧ ∀ result, (s.perform clock plainRules englishServer .getLanguagesByAlphabet).1
          = .ok result → result.FreshAt englishServer (clock.reading s.reads))
      ∧ (let clock := Clock.ofGaps [0, 0, 0, 1000, 0, 0, 85400]
        ∃ s, (languageService clock plainRules englishServer "en").exec (initial "en")
            [.getAllLanguages, .getLanguagesByAlphabet] = some s
          ∧ (s.liveGrouping clock).isSome = true
          ∧ ∀ result, (s.perform clock plainRules englishServer .getLanguagesByAlphabet).1
            = .ok result → result.FreshAt englishServer (clock.reading s.reads)) := by
  constructor
  · intro clock
    obtain ⟨s, hexec, hreach, hlive⟩ : ∃ s,
        (languageService clock plainRules englishServer "en").exec (initial "en")
          [.getLanguagesByAlphabet] = some s
        ∧ (languageService clock plainRules englishServer "en").ReachableWhere
          (StoresOnArrival clock englishServer) s
        ∧ (s.liveGrouping clock).isSome = true :=
      Machine.exists_reachableWhere rfl _ (by decide +kernel) (by decide +kernel)
    exact ⟨s, hexec, hlive,
      ((languages_served_fresh clock plainRules englishServer "en").1 s hreach).1 _⟩
  · intro clock
    obtain ⟨s, hexec, hreach, hend⟩ : ∃ s,
        (languageService clock plainRules englishServer "en").exec (initial "en")
          [.getAllLanguages, .getLanguagesByAlphabet] = some s
        ∧ (languageService clock plainRules englishServer "en").ReachableWhere
          (StampsOnArrival clock englishServer) s
        ∧ ((s.liveGrouping clock).any fun found => s.liveList clock = some found.2) = true :=
      Machine.exists_reachableWhere rfl _ (by decide +kernel) (by decide +kernel)
    obtain ⟨⟨groups, response⟩, hgrouping, hlist⟩ := (Option.any_eq_true _ _).mp hend
    refine ⟨s, hexec, Option.isSome_of_mem hgrouping, ?_⟩
    refine ((languages_served_fresh clock plainRules englishServer "en").2.1 s hreach _).mpr ?_
    intro other source hother _
    obtain ⟨-, rfl⟩ := Prod.mk.inj (Option.some.inj (hgrouping.symm.trans hother))
    exact of_decide_eq_true hlist

/-- A list that arrived at 0 is grouped at 86000, and the grouping is served at 172000. -/
theorem languages_served_stale :
    ¬ ∀ (clock : Clock Date) (s : LanguageService) (call : LanguageCall),
      (languageService clock plainRules englishServer "en").Reachable s →
      ∀ result, (s.perform clock plainRules englishServer call).1 = .ok result →
        result.FreshAt englishServer (clock.reading s.reads) := by
  intro h
  let clock : Clock Date := Clock.ofGaps [0, 0, 0, 86000, 0, 0, 86000]
  obtain ⟨s, -, hreach, hend⟩ : ∃ s, (languageService clock plainRules englishServer "en").exec
        (initial "en") [.getAllLanguages, .getLanguagesByAlphabet] = some s
      ∧ (languageService clock plainRules englishServer "en").Reachable s
      ∧ ((s.liveGrouping clock).any fun found => decide (found.2.languages ≠ [])
        && decide (clock.reading s.reads - found.2.receivedAt = 172000)) = true :=
    Machine.exists_reachableWhere rfl _ (by decide +kernel) (by decide +kernel)
  obtain ⟨⟨groups, response⟩, hgrouping, haged⟩ := (Option.any_eq_true _ _).mp hend
  obtain ⟨hne, hage⟩ := Bool.and_eq_true_iff.mp haged
  have hlive := liveGrouping_eq_some_iff.mp hgrouping
  obtain ⟨hreceived, rfl⟩ :=
    (accounted_of_reachable hreach).grouping groups response (live_eq_some_iff.mp hlive).1
  have hfresh := h clock s .getLanguagesByAlphabet hreach (.grouping _ response)
    (by simp only [perform, getLanguagesByAlphabet, hlive]; rfl)
  have hrecent := (freshAt_grouping_iff plainRules hreceived).mp hfresh (of_decide_eq_true hne)
  rw [of_decide_eq_true hage] at hrecent
  exact absurd hrecent (by decide)

end LanguageService

end SkillTalk
