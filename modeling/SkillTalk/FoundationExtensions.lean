import SkillTalk.Library.Dictionary

/-!
# Extensions of Foundation

Query parameters of URLs, and the merging of dictionaries. What these extensions call of Foundation
is a parameter. Each loop over a dictionary is given the order in which it meets the entries.
-/

namespace SkillTalk

open Dictionary (Enumeration)

/-- `Dictionary.merged(with:)`. -/
def merged {κ ν : Type} [DecidableEq κ] (d : Dictionary κ ν) {other : Dictionary κ ν}
    (order : Enumeration other) : Dictionary κ ν :=
  d.setAll order.entries

structure URLQueryItem where
  name : String
  value : Option String
  deriving DecidableEq

/-- Foundation's `URLComponents`, by what is used of it. -/
structure URLFoundation (URL URLComponents : Type) where
  -- `URLComponents(url:resolvingAgainstBaseURL: true)`
  components : URL → Option URLComponents
  queryItems : URLComponents → Option (List URLQueryItem)
  settingQueryItems : URLComponents → List URLQueryItem → URLComponents
  url : URLComponents → Option URL

namespace URLFoundation

variable {URL URLComponents : Type} (foundation : URLFoundation URL URLComponents)

def queryParameters (url : URL) : Dictionary String String :=
  match (foundation.components url).bind foundation.queryItems with
  | none => ∅
  | some queryItems =>
      queryItems.foldl (fun parameters item => parameters.assign item.name item.value) ∅

def appendingQueryParameters (url : URL) {parameters : Dictionary String String}
    (order : Enumeration parameters) : URL :=
  match foundation.components url with
  | none => url
  | some components =>
      let queryItems := order.entries.foldl
        (fun queryItems entry => queryItems ++ [⟨entry.1, some entry.2⟩])
        ((foundation.queryItems components).getD [])
      (foundation.url (foundation.settingQueryItems components queryItems)).getD url

/-- Every URL has components, and the items they are given are the items of the URL they form. -/
structure Lawful : Prop where
  exists_components : ∀ url, ∃ components, foundation.components url = some components
  reads_back : ∀ components queryItems, ∃ url formed,
    foundation.url (foundation.settingQueryItems components queryItems) = some url
      ∧ foundation.components url = some formed
      ∧ (foundation.queryItems formed).getD [] = queryItems

end URLFoundation

end SkillTalk
