import SkillTalk.FoundationExtensions

/-!
# Appended query parameters win

Reading assigns the items to a dictionary in turn, so the last item of a name stands, and one
without a value removes it. Appending puts the new items, which all have values, behind the items
that are there. So what is read is the old parameters with the new ones merged into them.
-/

namespace SkillTalk

open Dictionary (Enumeration)

namespace URLFoundation

variable {URL URLComponents : Type} {foundation : URLFoundation URL URLComponents}

/-- The parameters that a list of items is read as. -/
def read (queryItems : List URLQueryItem) : Dictionary String String :=
  Dictionary.assignAll ∅ (queryItems.map fun item => (item.name, item.value))

/-- The items that stand for the entries of a dictionary. -/
def itemsOf (entries : List (Σ _ : String, String)) : List URLQueryItem :=
  entries.map fun entry => ⟨entry.1, some entry.2⟩

theorem queryParameters_eq_read {url : URL} {components : URLComponents}
    (h : foundation.components url = some components) :
    foundation.queryParameters url = read ((foundation.queryItems components).getD []) := by
  rw [queryParameters, h, Option.bind_some]
  cases foundation.queryItems components with
  | none => rfl
  | some queryItems =>
      rw [Option.getD_some, read, Dictionary.assignAll, List.foldl_map]

/-- The last item of a name gives the parameter, and takes it away where it has no value. -/
theorem lookup_queryParameters {url : URL} {components : URLComponents}
    (h : foundation.components url = some components) (name : String) :
    (foundation.queryParameters url).lookup name
      = (((foundation.queryItems components).getD []).filter fun item =>
          item.name = name).getLast?.bind URLQueryItem.value := by
  rw [queryParameters_eq_read h, read, Dictionary.lookup_assignAll, Finmap.lookup_empty,
    List.filter_map, List.getLast?_map]
  simp only [Function.comp_def]
  cases (((foundation.queryItems components).getD []).filter fun item =>
    item.name = name).getLast? <;> rfl

/-- **Reading after appending** sets the entries on what was read before. -/
theorem read_append_itemsOf (queryItems : List URLQueryItem)
    (entries : List (Σ _ : String, String)) :
    read (queryItems ++ itemsOf entries) = (read queryItems).setAll entries := by
  have hpresent := Dictionary.assignAll_present (read queryItems) entries
  rw [← hpresent, read, List.map_append, Dictionary.assignAll, List.foldl_append, itemsOf,
    List.map_map]
  rfl

theorem foldl_append_items (queryItems : List URLQueryItem)
    (entries : List (Σ _ : String, String)) :
    entries.foldl (fun queryItems entry => queryItems ++ [⟨entry.1, some entry.2⟩]) queryItems
      = queryItems ++ itemsOf entries := by
  induction entries generalizing queryItems with
  | nil => exact (List.append_nil queryItems).symm
  | cons entry entries ih =>
      rw [List.foldl_cons, ih, List.append_assoc]
      rfl

theorem queryParameters_appending (hf : foundation.Lawful) (url : URL)
    {parameters : Dictionary String String} (order : Enumeration parameters) :
    foundation.queryParameters (foundation.appendingQueryParameters url order)
      = parameters ∪ foundation.queryParameters url := by
  obtain ⟨components, hcomponents⟩ := hf.exists_components url
  obtain ⟨appended, formed, hurl, hformed, hitems⟩ := hf.reads_back components
    ((foundation.queryItems components).getD [] ++ itemsOf order.entries)
  have happended : foundation.appendingQueryParameters url order = appended := by
    rw [appendingQueryParameters, hcomponents]
    dsimp only
    rw [foldl_append_items, hurl, Option.getD_some]
  calc foundation.queryParameters (foundation.appendingQueryParameters url order)
      = read ((foundation.queryItems formed).getD []) := by
        rw [happended, queryParameters_eq_read hformed]
    _ = (read ((foundation.queryItems components).getD [])).setAll order.entries := by
        rw [hitems, read_append_itemsOf]
    _ = parameters ∪ foundation.queryParameters url := by
        rw [Dictionary.setAll_enumeration, queryParameters_eq_read hcomponents]

/-- **Appended parameters win and nothing else is lost**, in whatever order the loops run. Appending
them once more changes nothing. -/
theorem appended_parameters_win (hf : foundation.Lawful) (url : URL)
    {parameters : Dictionary String String} (order : Enumeration parameters) :
    (∀ order' : Enumeration parameters,
        foundation.queryParameters (foundation.appendingQueryParameters url order)
          = merged (foundation.queryParameters url) order')
      ∧ (∀ name,
          (foundation.queryParameters (foundation.appendingQueryParameters url order)).lookup name
            = (parameters.lookup name).or ((foundation.queryParameters url).lookup name))
      ∧ ∀ order' : Enumeration parameters,
          foundation.queryParameters (foundation.appendingQueryParameters
              (foundation.appendingQueryParameters url order) order')
            = foundation.queryParameters (foundation.appendingQueryParameters url order) := by
  refine ⟨?_, ?_, ?_⟩
  · intro order'
    rw [queryParameters_appending hf, merged, Dictionary.setAll_enumeration]
  · intro name
    rw [queryParameters_appending hf, Dictionary.lookup_union]
  · intro order'
    rw [queryParameters_appending hf, queryParameters_appending hf]
    refine Finmap.ext_lookup fun name => ?_
    rw [Dictionary.lookup_union, Dictionary.lookup_union]
    cases parameters.lookup name <;> rfl

/-- A URL as its address and the items of its query, if it has one. -/
structure PlainURL where
  address : String
  query : Option (List URLQueryItem)
  deriving DecidableEq

def plainFoundation : URLFoundation PlainURL PlainURL where
  components := some
  queryItems := PlainURL.query
  settingQueryItems url queryItems := { url with query := some queryItems }
  url := some

theorem plainFoundation_lawful : plainFoundation.Lawful :=
  ⟨fun url => ⟨url, rfl⟩, fun _ _ => ⟨_, _, rfl, rfl, rfl⟩⟩

/-- The query has one name twice and another without a value. -/
def repeatingURL : PlainURL where
  address := "/search"
  query := some [⟨"page", some "1"⟩, ⟨"sort", none⟩, ⟨"page", some "2"⟩]

def nextPage : Enumeration (Finmap.singleton "page" "3" : Dictionary String String) :=
  ⟨[⟨"page", "3"⟩], rfl⟩

theorem appended_parameters_win_of_nextPage :
    plainFoundation.queryParameters
        (plainFoundation.appendingQueryParameters repeatingURL nextPage)
      = merged (plainFoundation.queryParameters repeatingURL) nextPage :=
  (appended_parameters_win plainFoundation_lawful repeatingURL nextPage).1 nextPage

end URLFoundation

end SkillTalk
