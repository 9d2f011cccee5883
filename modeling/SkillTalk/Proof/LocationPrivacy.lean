import SkillTalk.LocationServiceProtocol

/-!
# What a hidden location gives away

The formatted reads look at the privacy level, and the searches do not. A search for a stored name
finds it, so the answers of all searches together tell the lower-cased name.
-/

namespace SkillTalk

/-- What is documented of `contains`: it finds a text that is not empty in itself and where it is
part of a part, and it finds nothing in an empty text. -/
structure FindsParts (contains : String → String → Bool) : Prop where
  refl {text : String} (h : text ≠ "") : contains text text = true
  trans {text part pattern : String} (h : contains text part = true)
    (h' : contains part pattern = true) : contains text pattern = true
  of_empty (pattern : String) : contains "" pattern = false

theorem findsParts_containsText : FindsParts containsText where
  refl h := by simp [containsText, h]
  trans h h' := by
    simp only [containsText, Bool.and_eq_true, decide_eq_true_eq] at h h' ⊢
    exact ⟨h'.1, h'.2.trans h.2⟩
  of_empty pattern := by simp [containsText]

/-- The texts are both empty, or parts of each other. -/
def SearchedAlike (contains : String → String → Bool) (x y : String) : Prop :=
  (x = "" ∧ y = "") ∨ (contains x y = true ∧ contains y x = true)

section Searches

variable {contains : String → String → Bool} (h : FindsParts contains)
include h

/-- A missing name answers as an empty one. -/
theorem FindsParts.any_eq (stored : Option String) (pattern : String) :
    (stored.any fun text => contains text pattern) = contains (stored.getD "") pattern := by
  cases stored with
  | none => exact (h.of_empty pattern).symm
  | some text => rfl

/-- A stored name that is not empty is found by asking for it. -/
theorem FindsParts.found_self {Name : Type} (key : Name → String) {stored : Option Name}
    (hne : (stored.map key).getD "" ≠ "") :
    ∃ name, (stored.map key).getD "" = key name
      ∧ contains ((stored.map key).getD "") (key name) = true := by
  cases stored with
  | none => exact absurd rfl hne
  | some name => exact ⟨name, rfl, h.refl hne⟩

/-- Searches tell two stored names apart unless each is part of the other. -/
theorem FindsParts.same_found_iff {Name : Type} (key : Name → String) (a b : Option Name) :
    (∀ name, (a.map key).any (fun text => contains text (key name))
        = (b.map key).any fun text => contains text (key name))
      ↔ SearchedAlike contains ((a.map key).getD "") ((b.map key).getD "") := by
  simp only [h.any_eq]
  constructor
  · intro hsame
    by_cases ha : (a.map key).getD "" = ""
    · refine .inl ⟨ha, ?_⟩
      by_contra hb
      obtain ⟨name, -, hfound⟩ := h.found_self key hb
      rw [← hsame, ha, h.of_empty] at hfound
      cases hfound
    · obtain ⟨name, hname, hfound⟩ := h.found_self key ha
      have hfound' := (hsame name).symm.trans hfound
      have hb : (b.map key).getD "" ≠ "" := by
        intro hb
        rw [hb, h.of_empty] at hfound'
        cases hfound'
      obtain ⟨name', hname', hself⟩ := h.found_self key hb
      refine .inr ⟨?_, hname ▸ hfound'⟩
      rw [hname', hsame]
      exact hself
  · rintro (⟨ha, hb⟩ | ⟨hab, hba⟩) name
    · rw [ha, hb]
    · rw [Bool.eq_iff_iff]
      exact ⟨h.trans hba, h.trans hab⟩

end Searches

/-- Tests for equality tell two stored names apart unless they are equal. -/
theorem same_equal_iff {Name Key : Type} [DecidableEq Key] (key : Name → Key) (a b : Option Name) :
    (∀ name, (a.map key).any (fun stored => stored = key name)
        = (b.map key).any fun stored => stored = key name) ↔ a.map key = b.map key := by
  constructor
  · intro hsame
    cases a with
    | none =>
        cases b with
        | none => rfl
        | some y => simpa using hsame y
    | some x =>
        have hx := hsame x
        cases b with
        | none => simp at hx
        | some y => simpa [eq_comm] using hx
  · intro hkeys name
    rw [hkeys]

open LocationServiceProtocol

variable {σ : Type} [LocationServiceProtocol σ]

/-- What a service's own reads have to do with its privacy level. -/
class LawfulLocationService (σ : Type) [LocationServiceProtocol σ] : Prop where
  formatted (s : σ) : getFormattedLocation s = formattedLocation (currentLocation s) (privacyLevel s)
  sharing (s : σ) (h : privacyLevel s = .hidden) : isLocationSharingAllowed s = false

instance : LawfulLocationService CoreLocationService where
  formatted _ := rfl
  sharing s h := by
    have hlevel : s.privacyLevel = .hidden := h
    simp [isLocationSharingAllowed, CoreLocationService.isLocationSharingAllowed, hlevel]

instance : LawfulLocationService IPLocationService where
  formatted _ := rfl
  sharing s h := by
    have hlevel : s.privacyLevel = .hidden := h
    simp [isLocationSharingAllowed, IPLocationService.isLocationSharingAllowed, hlevel]

instance : LawfulLocationService MultiLocationService where
  formatted _ := rfl
  sharing s h := by
    have hlevel : s.privacyLevel = .hidden := h
    simp [isLocationSharingAllowed, MultiLocationService.isLocationSharingAllowed, hlevel]

/-- The service stores the location and shows it at the level. -/
structure Stores (s : σ) (level : LocationPrivacyLevel) (location : UserLocation) : Prop where
  level : privacyLevel s = level
  location : currentLocation s = some location

/-- No read tells the two states apart. -/
structure AnswersAlike (lowercased : String → String) (contains : String → String → Bool)
    (s t : σ) : Prop where
  display : getDisplayLocation s = getDisplayLocation t
  formatted : LocationServiceProtocol.getFormattedLocation s
    = LocationServiceProtocol.getFormattedLocation t
  city : ∀ cityName,
    isInCity lowercased contains s cityName = isInCity lowercased contains t cityName
  country : ∀ countryCode,
    isInCountry lowercased s countryCode = isInCountry lowercased t countryCode

/-- Both locations' cities are missing or empty in lower case, or are parts of each other, and both
have one country code in lower case, or none. -/
structure KeptAlike (lowercased : String → String) (contains : String → String → Bool)
    (location other : UserLocation) : Prop where
  city : SearchedAlike contains ((location.city.map lowercased).getD "")
    ((other.city.map lowercased).getD "")
  countryCode : location.countryCode.map lowercased = other.countryCode.map lowercased

section Reads

variable {lowercased : String → String} {contains : String → String → Bool} {s t : σ}
  {level : LocationPrivacyLevel} {location other : UserLocation}

theorem Stores.isInCity_eq (h : Stores s level location) (cityName : String) :
    isInCity lowercased contains s cityName
      = (location.city.map lowercased).any fun city => contains city (lowercased cityName) := by
  rw [isInCity, h.location, Option.bind_some]
  cases location.city <;> rfl

theorem Stores.isInCountry_eq (h : Stores s level location) (countryCode : String) :
    isInCountry lowercased s countryCode
      = (location.countryCode.map lowercased).any fun code => code = lowercased countryCode := by
  rw [isInCountry, h.location, Option.bind_some]
  cases location.countryCode <;> rfl

theorem Stores.isInCity_iff (hcontains : FindsParts contains) (hs : Stores s level location)
    (ht : Stores t level other) :
    (∀ cityName, isInCity lowercased contains s cityName = isInCity lowercased contains t cityName)
      ↔ SearchedAlike contains ((location.city.map lowercased).getD "")
        ((other.city.map lowercased).getD "") := by
  simp only [hs.isInCity_eq, ht.isInCity_eq]
  exact hcontains.same_found_iff lowercased location.city other.city

theorem Stores.isInCountry_iff (hs : Stores s level location) (ht : Stores t level other) :
    (∀ countryCode, isInCountry lowercased s countryCode = isInCountry lowercased t countryCode)
      ↔ location.countryCode.map lowercased = other.countryCode.map lowercased := by
  simp only [hs.isInCountry_eq, ht.isInCountry_eq]
  exact same_equal_iff lowercased location.countryCode other.countryCode

variable [LawfulLocationService σ]

theorem Stores.getFormattedLocation_eq (h : Stores s level location) :
    LocationServiceProtocol.getFormattedLocation s = location.getFormattedLocation level := by
  rw [LawfulLocationService.formatted, h.location, h.level, formattedLocation]

theorem Stores.getDisplayLocation_hidden (h : Stores s .hidden location) :
    getDisplayLocation s = "Location Hidden" := by
  rw [getDisplayLocation, if_pos (LawfulLocationService.sharing s h.level)]

theorem Stores.answersAlike_iff (hcontains : FindsParts contains) (hs : Stores s .hidden location)
    (ht : Stores t .hidden other) :
    AnswersAlike lowercased contains s t ↔ KeptAlike lowercased contains location other := by
  constructor
  · intro h
    exact ⟨(hs.isInCity_iff hcontains ht).mp h.city, (hs.isInCountry_iff ht).mp h.country⟩
  · intro h
    have hcity := (hs.isInCity_iff hcontains ht).mpr h.city
    have hcountry := (hs.isInCountry_iff ht).mpr h.countryCode
    refine ⟨?_, ?_, hcity, hcountry⟩
    · rw [hs.getDisplayLocation_hidden, ht.getDisplayLocation_hidden]
    · rw [hs.getFormattedLocation_eq, ht.getFormattedLocation_eq]
      rfl

end Reads

/-- What the level shows of a location, if it is one of the three that show one field. -/
def LocationPrivacyLevel.shown (level : LocationPrivacyLevel) (location : UserLocation) :
    Option (Option String) :=
  match level with
  | .city => some location.city
  | .country => some location.country
  | .region => some location.region
  | .exact | .hidden => none

/-- Two states of a service that store locations: where the level is hidden, when they answer alike;
and where the level shows one field, that equal fields are shown alike. -/
structure ShowsByLevel (σ : Type) [LocationServiceProtocol σ] (lowercased : String → String)
    (contains : String → String → Bool) : Prop where
  hidden (s t : σ) (location other : UserLocation) (hs : Stores s .hidden location)
    (ht : Stores t .hidden other) :
    AnswersAlike lowercased contains s t ↔ KeptAlike lowercased contains location other
  shown (s t : σ) (level : LocationPrivacyLevel) (location other : UserLocation)
    (hs : Stores s level location) (ht : Stores t level other)
    (hlevel : (level.shown location).isSome = true)
    (hsame : level.shown location = level.shown other) :
    LocationServiceProtocol.getFormattedLocation s
      = LocationServiceProtocol.getFormattedLocation t

theorem showsByLevel [LawfulLocationService σ] (lowercased : String → String)
    {contains : String → String → Bool} (hcontains : FindsParts contains) :
    ShowsByLevel σ lowercased contains := by
  constructor
  · intro s t location other hs ht
    exact hs.answersAlike_iff hcontains ht
  · intro s t level location other hs ht hlevel hsame
    rw [hs.getFormattedLocation_eq, ht.getFormattedLocation_eq]
    cases level with
    | city | country | region =>
        have hfield := Option.some.inj hsame
        simp only [UserLocation.getFormattedLocation, hfield]
    | exact | hidden => cases hlevel

/-- **What is given away by a hidden location** is its lower-cased city, up to texts that are parts
of each other, and its lower-cased country code, in each of the three services; and the levels that
show one field depend on no other. -/
theorem location_shown_by_level (lowercased : String → String) (contains : String → String → Bool)
    (hcontains : FindsParts contains) :
    ShowsByLevel CoreLocationService lowercased contains
      ∧ ShowsByLevel IPLocationService lowercased contains
      ∧ ShowsByLevel MultiLocationService lowercased contains :=
  ⟨showsByLevel lowercased hcontains, showsByLevel lowercased hcontains,
    showsByLevel lowercased hcontains⟩

def locationIn (city : Option String) : UserLocation where
  id := 0
  latitude := 0
  longitude := 0
  accuracy := 0
  timestamp := 0
  city := city
  country := none
  countryCode := none
  region := none
  postalCode := none
  address := none

def hiddenIn (city : Option String) : CoreLocationService :=
  { CoreLocationService.initial with
    privacyLevel := .hidden, currentLocation := some (locationIn city) }

theorem stores_hiddenIn (city : Option String) : Stores (hiddenIn city) .hidden (locationIn city) :=
  ⟨rfl, rfl⟩

/-- Case and an empty city are not told apart, two cities are. -/
theorem location_shown_by_level_of_cities :
    AnswersAlike String.toLower containsText (hiddenIn (some "Oslo")) (hiddenIn (some "OSLO"))
      ∧ AnswersAlike String.toLower containsText (hiddenIn (some "")) (hiddenIn none)
      ∧ ¬ AnswersAlike String.toLower containsText (hiddenIn (some "Oslo"))
        (hiddenIn (some "Os")) := by
  have hshows := (location_shown_by_level String.toLower containsText findsParts_containsText).1
  refine ⟨?_, ?_, ?_⟩
  · refine (hshows.hidden _ _ _ _ (stores_hiddenIn _) (stores_hiddenIn _)).mpr ⟨.inr ?_, rfl⟩
    decide +kernel
  · exact (hshows.hidden _ _ _ _ (stores_hiddenIn _) (stores_hiddenIn _)).mpr
      ⟨.inl (by decide +kernel), rfl⟩
  · intro halike
    have hkept := (hshows.hidden _ _ _ _ (stores_hiddenIn _) (stores_hiddenIn _)).mp halike
    rcases hkept.city with ⟨hempty, -⟩ | ⟨-, hfound⟩
    · revert hempty
      decide +kernel
    · revert hfound
      decide +kernel

/-- The search for a city gives the hidden city away. -/
theorem hidden_city_found :
    ¬ ∀ (s t : CoreLocationService) (location other : UserLocation),
      Stores s .hidden location → Stores t .hidden other → AnswersAlike id containsText s t := by
  intro h
  have halike := h (hiddenIn (some "paris")) (hiddenIn (some "oslo")) _ _ (stores_hiddenIn _)
    (stores_hiddenIn _)
  have hparis := halike.city "paris"
  revert hparis
  decide

end SkillTalk
