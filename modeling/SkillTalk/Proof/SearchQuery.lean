import SkillTalk.Library.QueryString
import SkillTalk.Proof.SkillRequests

/-!
# What a search request says

The query is escaped as a whole query would be, so its ampersands separate parameters and its plus
signs are read as spaces. Every other text arrives as it was.
-/

namespace SkillTalk

open QueryString

/-- Text without a character that the query syntax gives a meaning; no letter has one. -/
structure PlainText (text : List Char) : Prop where
  ampersand : '&' ∉ text
  plus : '+' ∉ text
  percent : '%' ∉ text
  hash : '#' ∉ text

theorem plainText_of_alpha {text : List Char} (h : ∀ c ∈ text, c.isAlpha = true) :
    PlainText text := by
  have hne {c : Char} (hc : c.isAlpha = false) : c ∉ text := by
    intro hmem
    rw [h c hmem] at hc
    cases hc
  exact ⟨hne (by decide), hne (by decide), hne (by decide), hne (by decide)⟩

theorem plainText_toString_int (n : ℤ) : PlainText (toString n).toList := by
  have hne {c : Char} (hdigit : c.isDigit = false) (hminus : c ≠ '-') :
      c ∉ (toString n).toList := by
    intro hmem
    rcases mem_toString_int hmem with h | h
    · rw [hdigit] at h
      cases h
    · exact hminus h
  exact ⟨hne (by decide) (by decide), hne (by decide) (by decide), hne (by decide) (by decide),
    hne (by decide) (by decide)⟩

/-- The three parts of a search request's query. -/
def searchParts (query language : String) (limit : ℤ) : List (List Char) :=
  ["q".toList ++ '=' :: escape urlQueryAllowed query.toList,
    "language".toList ++ '=' :: language.toList, "limit".toList ++ '=' :: (toString limit).toList]

theorem search_url_toList (query language : String) (limit : ℤ) :
    (SkillEndpoint.search query language limit).url.toList =
      (baseURL ++ "/skills/search").toList ++
        '?' :: ['&'].intercalate (searchParts query language limit) := by
  simp [SkillEndpoint.url, addingPercentEncoding, searchParts, List.intercalate_cons_cons]

section Search

variable {query language : String} {limit : ℤ}

theorem query_search_url (hlanguage : PlainText language.toList) :
    QueryString.query (SkillEndpoint.search query language limit).url.toList =
      ['&'].intercalate (searchParts query language limit) := by
  rw [search_url_toList]
  refine query_append (by decide) (by decide) ?_
  have hquery : '#' ∉ escape urlQueryAllowed query.toList := fun h =>
    absurd ((mem_escape_iff (by decide)).1 h).2 (by decide)
  have hlimit : '#' ∉ limit.repr.toList := (plainText_toString_int limit).hash
  simp [searchParts, List.intercalate_cons_cons, hquery, hlimit, hlanguage.hash]

theorem ampersand_mem_escape_iff :
    '&' ∈ escape urlQueryAllowed query.toList ↔ '&' ∈ query.toList := by
  rw [mem_escape_iff (by decide), and_iff_left (by decide)]

theorem count_searchParts (hlanguage : PlainText language.toList) :
    (['&'].intercalate (searchParts query language limit)).count '&' =
      (escape urlQueryAllowed query.toList).count '&' + 2 := by
  have hlimit : limit.repr.toList.count '&' = 0 :=
    List.count_eq_zero.2 (plainText_toString_int limit).ampersand
  have hlanguage : language.toList.count '&' = 0 := List.count_eq_zero.2 hlanguage.ampersand
  simp [searchParts, List.intercalate_cons_cons, hlimit, hlanguage]

theorem unescape_escape_query :
    unescape (escape urlQueryAllowed query.toList) =
      some (String.ofList (query.toList.map (readAs urlQueryAllowed))) :=
  unescape_escape urlQueryAllowed query.toList (by decide)

theorem unescape_plainText {text : String} (h : PlainText text.toList) :
    unescape text.toList = some text := by
  rw [unescape_plain h.percent h.plus, String.ofList_toList]

theorem parameters_searchParts (hlanguage : PlainText language.toList)
    (hquery : '&' ∉ query.toList) :
    parameters (['&'].intercalate (searchParts query language limit)) =
      [(some "q", some (String.ofList (query.toList.map (readAs urlQueryAllowed)))),
        (some "language", some language), (some "limit", some (toString limit))] := by
  have hparts : ∀ part ∈ searchParts query language limit, '&' ∉ part := by
    have hescaped : '&' ∉ escape urlQueryAllowed query.toList :=
      fun h => hquery (ampersand_mem_escape_iff.1 h)
    have hlimit : '&' ∉ limit.repr.toList := (plainText_toString_int limit).ampersand
    simp [searchParts, hescaped, hlimit, hlanguage.ampersand]
  have hne : searchParts query language limit ≠ [] := List.cons_ne_nil _ _
  rw [parameters_intercalate hne hparts]
  have hname (name : String) (h : PlainText name.toList) (hequals : '=' ∉ name.toList)
      (value : List Char) :
      parameter (name.toList ++ '=' :: value) = (some name, unescape value) := by
    rw [parameter_assign hequals, unescape_plainText h]
  have hq := hname "q" ⟨by decide, by decide, by decide, by decide⟩ (by decide)
  have hl := hname "language" ⟨by decide, by decide, by decide, by decide⟩ (by decide)
  have hm := hname "limit" ⟨by decide, by decide, by decide, by decide⟩ (by decide)
  rw [searchParts, List.map_cons, List.map_cons, List.map_cons, List.map_nil, hq, hl, hm,
    unescape_escape_query, unescape_plainText hlanguage,
    unescape_plainText (plainText_toString_int limit)]

/-- **A search request carries its query** exactly when the query has no ampersand and no plus
sign. -/
theorem search_query_intact_iff (hlanguage : PlainText language.toList) :
    parameters (QueryString.query (SkillEndpoint.search query language limit).url.toList) =
        [(some "q", some query), (some "language", some language),
          (some "limit", some (toString limit))] ↔
      '&' ∉ query.toList ∧ '+' ∉ query.toList := by
  have hread : String.ofList (query.toList.map (readAs urlQueryAllowed)) = query ↔
      '+' ∉ query.toList := by
    have hplus : urlQueryAllowed '+' = true := by decide
    rw [← map_readAs_iff hplus, ← String.toList_inj, String.toList_ofList]
  rw [query_search_url hlanguage]
  constructor
  · intro h
    have hlength := congrArg List.length h
    rw [length_parameters, count_searchParts hlanguage] at hlength
    have hcount : (escape urlQueryAllowed query.toList).count '&' = 0 := by
      simpa using hlength
    have hampersand : '&' ∉ query.toList := fun hmem =>
      List.count_eq_zero.1 hcount (ampersand_mem_escape_iff.2 hmem)
    rw [parameters_searchParts hlanguage hampersand] at h
    have hquery := congrArg Prod.snd (List.head_eq_of_cons_eq h)
    exact ⟨hampersand, hread.1 (Option.some.inj hquery)⟩
  · rintro ⟨hampersand, hplus⟩
    rw [parameters_searchParts hlanguage hampersand, hread.2 hplus]

end Search

theorem search_query_intact_of_sample :
    parameters (QueryString.query (SkillEndpoint.search "50% 日本? #1=a" "en" 50).url.toList) =
      [(some "q", some "50% 日本? #1=a"), (some "language", some "en"),
        (some "limit", some (toString (50 : ℤ)))] := by
  refine (search_query_intact_iff (plainText_of_alpha ?_)).2 ⟨by decide, by decide⟩
  simp

/-- The part after an ampersand is read as a parameter of its own. -/
theorem search_query_split :
    parameters (QueryString.query (SkillEndpoint.search "R&B" "en" 50).url.toList) ≠
      [(some "q", some "R&B"), (some "language", some "en"),
        (some "limit", some (toString (50 : ℤ)))] := by
  have hlanguage : PlainText "en".toList := plainText_of_alpha (by simp)
  intro h
  have hlength := congrArg List.length h
  rw [query_search_url hlanguage, length_parameters, count_searchParts hlanguage] at hlength
  have hampersand : '&' ∈ escape urlQueryAllowed "R&B".toList :=
    ampersand_mem_escape_iff.2 (by decide)
  have hcount := List.count_pos_iff.2 hampersand
  simp only [List.length_cons, List.length_nil] at hlength
  omega

end SkillTalk
