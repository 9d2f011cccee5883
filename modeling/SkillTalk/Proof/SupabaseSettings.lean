import SkillTalk.SupabaseServiceConfiguration

/-!
# Which settings Supabase is configured with

The plist is read if a setting is missing and then replaces both. So a setting of the environment
is kept only if the other is at hand as well, and a URL that does not parse stops the process from
either source.
-/

namespace SkillTalk

namespace SupabaseServiceConfiguration

variable {URL : Type} (makeURL : String → Option URL) (settings : SupabaseSettings)

/-! ### The settings that are wanted -/

def plistURL : Option String := settings.plist.bind SupabasePlist.url

def plistKey : Option String := settings.plist.bind SupabasePlist.key

/-- The environment's value when present and the plist's otherwise. -/
def preferredURL : Option String := settings.environmentURL.or (plistURL settings)

def preferredKey : Option String := settings.environmentKey.or (plistKey settings)

/-- The call throws and leaves the instance without a client, or connects with the preferred
settings. -/
def ConfiguresWell (s : SupabaseServiceConfiguration URL) : Prop :=
  match s.configure makeURL settings with
  | .returned t => t.isConfigured = true ∧ ∃ url key parsed, preferredURL settings = some url ∧
      preferredKey settings = some key ∧ t.supabaseURL = some url ∧ t.supabaseKey = some key ∧
      makeURL url = some parsed ∧ t.client = some ⟨parsed, key⟩
  | .threw _ t => t.isConfigured = false ∧ t.client = none
  | .trapped => False

/-! ### The settings that are found -/

variable (s : SupabaseServiceConfiguration URL)

/-- What the environment gives, or an earlier call that threw has left. -/
def urlAtHand : Option String := settings.environmentURL.or s.supabaseURL

def keyAtHand : Option String := settings.environmentKey.or s.supabaseKey

/-- The URL of the settings in use parses, and the plist, where it is read in full, agrees with what
the environment gives. -/
structure SoundSettings : Prop where
  atHand : ∀ url key, s.urlAtHand settings = some url → s.keyAtHand settings = some key →
    (makeURL url).isSome
  plist : s.urlAtHand settings = none ∨ s.keyAtHand settings = none →
    ∀ url key, settings.plist = some ⟨some url, some key⟩ → (makeURL url).isSome ∧
      (∀ given ∈ settings.environmentURL, given = url) ∧
      ∀ given ∈ settings.environmentKey, given = key

def loaded : SupabaseServiceConfiguration URL :=
  { s with supabaseURL := s.urlAtHand settings, supabaseKey := s.keyAtHand settings }

def connected (url key : String) (parsed : URL) : SupabaseServiceConfiguration URL where
  isConfigured := true
  configurationError := none
  client := some ⟨parsed, key⟩
  auth := some ⟨parsed, key⟩
  supabaseURL := some url
  supabaseKey := some key

/-- The settings that loading ends with. -/
inductive Settles (url key : String) : Prop
  | atHand (hurl : s.urlAtHand settings = some url) (hkey : s.keyAtHand settings = some key)
  | plist (hmissing : s.urlAtHand settings = none ∨ s.keyAtHand settings = none)
      (hplist : settings.plist = some ⟨some url, some key⟩)

/-- What loading leaves when it throws: no client, and no setting from elsewhere. -/
structure Unsettled (t : SupabaseServiceConfiguration URL) : Prop where
  isConfigured : t.isConfigured = s.isConfigured
  client : t.client = s.client
  auth : t.auth = s.auth
  url : ∀ url, t.supabaseURL = some url →
    s.urlAtHand settings = some url ∨ plistURL settings = some url
  key : ∀ key, t.supabaseKey = some key →
    s.keyAtHand settings = some key ∨ plistKey settings = some key

theorem loadConfiguration_eq : loadConfiguration settings s =
    match (if s.urlAtHand settings = none ∨ s.keyAtHand settings = none then
      loadFromPlist settings (s.loaded settings) else .ok () (s.loaded settings)) with
    | .error error t => .error error t
    | .ok () t =>
        if t.supabaseURL ≠ none ∧ t.supabaseKey ≠ none then .ok () t
        else .error (configError 2 "Invalid configuration") t := by
  unfold loadConfiguration loaded urlAtHand keyAtHand
  cases settings.environmentURL <;> cases settings.environmentKey <;> rfl

section Loading

variable {settings s}

theorem Settles.of_plist {url key : String} (h : Settles settings s url key)
    (hmissing : s.urlAtHand settings = none ∨ s.keyAtHand settings = none) :
    settings.plist = some ⟨some url, some key⟩ := by
  cases h with
  | atHand hurl hkey => simp [hurl, hkey] at hmissing
  | plist _ hplist => exact hplist

theorem Settles.of_atHand {url key : String} (h : Settles settings s url key)
    (hurl : s.urlAtHand settings ≠ none) (hkey : s.keyAtHand settings ≠ none) :
    s.urlAtHand settings = some url ∧ s.keyAtHand settings = some key := by
  cases h with
  | atHand hurl hkey => exact ⟨hurl, hkey⟩
  | plist hmissing _ => exact absurd hmissing (not_or.2 ⟨hurl, hkey⟩)

theorem loadConfiguration_of_atHand {url key : String} (hurl : s.urlAtHand settings = some url)
    (hkey : s.keyAtHand settings = some key) : loadConfiguration settings s =
      .ok () { s with supabaseURL := some url, supabaseKey := some key } := by
  rw [loadConfiguration_eq, if_neg (by simp [hurl, hkey])]
  simp [loaded, hurl, hkey]

theorem loadConfiguration_of_plist {url key : String}
    (hmissing : s.urlAtHand settings = none ∨ s.keyAtHand settings = none)
    (hplist : settings.plist = some ⟨some url, some key⟩) : loadConfiguration settings s =
      .ok () { s with supabaseURL := some url, supabaseKey := some key } := by
  rw [loadConfiguration_eq, if_pos hmissing]
  simp [loadFromPlist, hplist, loaded]

theorem loadConfiguration_of_incomplete
    (hmissing : s.urlAtHand settings = none ∨ s.keyAtHand settings = none)
    (hplist : ∀ url key, settings.plist ≠ some ⟨some url, some key⟩) :
    ∃ error t, loadConfiguration settings s = .error error t ∧ Unsettled settings s t := by
  rw [loadConfiguration_eq, if_pos hmissing]
  cases hfile : settings.plist with
  | none =>
    refine ⟨configError 3 "Configuration file not found", s.loaded settings, ?_,
      rfl, rfl, rfl, fun _ => .inl, fun _ => .inl⟩
    simp only [loadFromPlist, hfile]
  | some config =>
    obtain ⟨url, key⟩ := config
    have hurl : plistURL settings = url := by rw [plistURL, hfile]; rfl
    have hkey : plistKey settings = key := by rw [plistKey, hfile]; rfl
    refine ⟨configError 2 "Invalid configuration",
      { s.loaded settings with supabaseURL := url, supabaseKey := key }, ?_,
      rfl, rfl, rfl, fun _ h => .inr (hurl.trans h), fun _ h => .inr (hkey.trans h)⟩
    simp only [loadFromPlist, hfile]
    refine if_neg fun ⟨hurl, hkey⟩ => ?_
    obtain ⟨url, rfl⟩ := Option.ne_none_iff_exists'.1 hurl
    obtain ⟨key, rfl⟩ := Option.ne_none_iff_exists'.1 hkey
    exact hplist url key hfile

end Loading

/-- Loading either settles the settings or throws. -/
theorem loadConfiguration_cases :
    (∃ url key, Settles settings s url key ∧ loadConfiguration settings s =
      .ok () { s with supabaseURL := some url, supabaseKey := some key }) ∨
    (∃ error t, (∀ url key, ¬Settles settings s url key) ∧
      loadConfiguration settings s = .error error t ∧ Unsettled settings s t) := by
  by_cases hmissing : s.urlAtHand settings = none ∨ s.keyAtHand settings = none
  · by_cases hplist : ∃ url key, settings.plist = some ⟨some url, some key⟩
    · obtain ⟨url, key, hplist⟩ := hplist
      exact .inl ⟨url, key, .plist hmissing hplist, loadConfiguration_of_plist hmissing hplist⟩
    · push Not at hplist
      obtain ⟨error, t, heq, ht⟩ := loadConfiguration_of_incomplete hmissing hplist
      exact .inr ⟨error, t, fun url key h => hplist url key (h.of_plist hmissing), heq, ht⟩
  · rw [not_or] at hmissing
    obtain ⟨url, hurl⟩ := Option.ne_none_iff_exists'.1 hmissing.1
    obtain ⟨key, hkey⟩ := Option.ne_none_iff_exists'.1 hmissing.2
    exact .inl ⟨url, key, .atHand hurl hkey, loadConfiguration_of_atHand hurl hkey⟩

/-- What `configure` comes to on an unconfigured instance. -/
theorem configure_cases (hs : s.isConfigured = false) :
    (∃ url key, Settles settings s url key ∧ s.configure makeURL settings =
      (makeURL url).elim .trapped fun parsed => .returned (connected url key parsed)) ∨
    (∃ error t, (∀ url key, ¬Settles settings s url key) ∧
      s.configure makeURL settings = .threw error t ∧ Unsettled settings s t) := by
  rcases loadConfiguration_cases settings s with ⟨url, key, hsettles, heq⟩ |
    ⟨error, t, hsettles, heq, ht⟩
  · refine .inl ⟨url, key, hsettles, ?_⟩
    simp only [configure, hs, heq]
    cases makeURL url <;> rfl
  · refine .inr ⟨.configurationFailed "Supabase" error,
      { t with configurationError := some error.localizedDescription }, hsettles, ?_,
      ht.isConfigured, ht.client, ht.auth, ht.url, ht.key⟩
    simp only [configure, hs, heq]
    rfl

/-! ### What earlier calls leave -/

/-- An unconfigured instance has no client, and what is at hand is what is preferred. -/
structure Consistent : Prop where
  client : s.isConfigured = false → s.client = none
  url : ∀ url, s.urlAtHand settings = some url → preferredURL settings = some url
  key : ∀ key, s.keyAtHand settings = some key → preferredKey settings = some key

variable {makeURL settings s}

/-- A stored setting is preferred if it was at hand before or comes from the plist. -/
theorem preferred_of_stored {given stored plist preferred : Option String}
    (hpreferred : preferred = given.or plist)
    (hstored : ∀ value, stored = some value → preferred = some value ∨ plist = some value)
    (value : String) (h : given.or stored = some value) : preferred = some value := by
  cases given with
  | some given => rwa [hpreferred]
  | none =>
    refine (hstored value h).elim id fun hplist => ?_
    rw [hpreferred, Option.none_or, hplist]

theorem Settles.preferred_or_plist {url key : String} (hs : Consistent settings s)
    (h : Settles settings s url key) :
    (preferredURL settings = some url ∨ plistURL settings = some url) ∧
      (preferredKey settings = some key ∨ plistKey settings = some key) := by
  cases h with
  | atHand hurl hkey => exact ⟨.inl (hs.url url hurl), .inl (hs.key key hkey)⟩
  | plist _ hplist =>
    refine ⟨.inr ?_, .inr ?_⟩
    · rw [plistURL, hplist]; rfl
    · rw [plistKey, hplist]; rfl

theorem consistent_initial : Consistent settings (initial : SupabaseServiceConfiguration URL) where
  client _ := rfl
  url := preferred_of_stored rfl fun _ h => by cases h
  key := preferred_of_stored rfl fun _ h => by cases h

theorem Unsettled.consistent {t : SupabaseServiceConfiguration URL} (hs : Consistent settings s)
    (ht : Unsettled settings s t) : Consistent settings t where
  client h := by
    rw [ht.client]
    exact hs.client (by rw [← ht.isConfigured, h])
  url := preferred_of_stored rfl fun url h => (ht.url url h).imp_left (hs.url url)
  key := preferred_of_stored rfl fun key h => (ht.key key h).imp_left (hs.key key)

theorem consistent_connected {url key : String} (hs : Consistent settings s)
    (h : Settles settings s url key) (parsed : URL) :
    Consistent settings (connected url key parsed) where
  client h := by cases h
  url := preferred_of_stored rfl fun value hvalue => by
    obtain rfl : url = value := Option.some.inj hvalue
    exact (h.preferred_or_plist hs).1
  key := preferred_of_stored rfl fun value hvalue => by
    obtain rfl : key = value := Option.some.inj hvalue
    exact (h.preferred_or_plist hs).2

theorem Consistent.step {t : SupabaseServiceConfiguration URL} {action : Action}
    (hs : Consistent settings s) (hstep : s.step makeURL settings action = some t) :
    Consistent settings t := by
  cases action with
  | reset =>
    obtain rfl : initial = t := Option.some.inj hstep
    exact consistent_initial
  | configure =>
    change (s.configure makeURL settings).state? = some t at hstep
    cases hconfigured : s.isConfigured with
    | true =>
      simp only [configure, hconfigured, if_true] at hstep
      obtain rfl : s = t := Option.some.inj hstep
      exact hs
    | false =>
      rcases configure_cases makeURL settings s hconfigured with
        ⟨url, key, hsettles, heq⟩ | ⟨error, u, -, heq, hu⟩
      · rw [heq] at hstep
        cases hparsed : makeURL url with
        | none =>
          rw [hparsed] at hstep
          cases hstep
        | some parsed =>
          rw [hparsed] at hstep
          obtain rfl : connected url key parsed = t := Option.some.inj hstep
          exact consistent_connected hs hsettles parsed
      · rw [heq] at hstep
        obtain rfl : u = t := Option.some.inj hstep
        exact hu.consistent hs

theorem consistent_of_reachable (hs : (supabaseConfiguration makeURL settings).Reachable s) :
    Consistent settings s := by
  refine hs.invariant _ ?_ fun s action t _ hs _ hstep => hs.step hstep
  rintro s rfl
  exact consistent_initial

/-! ### When the settings are sound -/

theorem or_some_eq_iff {given : Option String} {value : String} :
    given.or (some value) = some value ↔ ∀ other ∈ given, other = value := by
  cases given <;> simp

theorem preferred_of_plist {url key : String}
    (hplist : settings.plist = some ⟨some url, some key⟩) :
    preferredURL settings = settings.environmentURL.or (some url) ∧
      preferredKey settings = settings.environmentKey.or (some key) := by
  simp [preferredURL, preferredKey, plistURL, plistKey, hplist]

theorem Settles.sound_iff {url key : String} (hs : Consistent settings s)
    (h : Settles settings s url key) : SoundSettings makeURL settings s ↔
      (makeURL url).isSome ∧ preferredURL settings = some url ∧
        preferredKey settings = some key := by
  constructor
  · intro hsound
    cases h with
    | atHand hurl hkey => exact ⟨hsound.atHand url key hurl hkey, hs.url url hurl, hs.key key hkey⟩
    | plist hmissing hplist =>
      obtain ⟨hparses, hurl, hkey⟩ := hsound.plist hmissing url key hplist
      obtain ⟨hpreferredURL, hpreferredKey⟩ := preferred_of_plist hplist
      rw [hpreferredURL, hpreferredKey]
      exact ⟨hparses, or_some_eq_iff.2 hurl, or_some_eq_iff.2 hkey⟩
  · rintro ⟨hparses, hurl, hkey⟩
    refine ⟨fun other otherKey hother hotherKey => ?_, fun hmissing other otherKey hother => ?_⟩
    · obtain ⟨hfound, -⟩ := h.of_atHand (by simp [hother]) (by simp [hotherKey])
      rw [hother] at hfound
      rwa [Option.some.inj hfound]
    · have hplist := h.of_plist hmissing
      rw [hother] at hplist
      cases hplist
      obtain ⟨hpreferredURL, hpreferredKey⟩ := preferred_of_plist hother
      rw [hpreferredURL] at hurl
      rw [hpreferredKey] at hkey
      exact ⟨hparses, or_some_eq_iff.1 hurl, or_some_eq_iff.1 hkey⟩

theorem sound_of_not_settles (h : ∀ url key, ¬Settles settings s url key) :
    SoundSettings makeURL settings s where
  atHand url key hurl hkey := absurd (.atHand hurl hkey) (h url key)
  plist hmissing url key hplist := absurd (.plist hmissing hplist) (h url key)

theorem configuresWell_returned_iff {url key : String} {parsed : URL}
    (hparsed : makeURL url = some parsed)
    (heq : s.configure makeURL settings = .returned (connected url key parsed)) :
    ConfiguresWell makeURL settings s ↔
      preferredURL settings = some url ∧ preferredKey settings = some key := by
  simp only [ConfiguresWell, heq]
  constructor
  · rintro ⟨-, other, otherKey, -, hurl, hkey, hother, hotherKey, -, -⟩
    obtain rfl : url = other := Option.some.inj hother
    obtain rfl : key = otherKey := Option.some.inj hotherKey
    exact ⟨hurl, hkey⟩
  · rintro ⟨hurl, hkey⟩
    exact ⟨rfl, url, key, parsed, hurl, hkey, rfl, rfl, hparsed, rfl⟩

end SupabaseServiceConfiguration

open SupabaseServiceConfiguration

variable {URL : Type} {makeURL : String → Option URL} {settings : SupabaseSettings}
  {s : SupabaseServiceConfiguration URL}

/-- **An unconfigured instance configures well** exactly when the settings are sound: the URL in use
parses, and a plist that replaces a setting of the environment has the same value. -/
theorem supabase_configures_well_iff (hs : (supabaseConfiguration makeURL settings).Reachable s)
    (hconfigured : s.isConfigured = false) :
    ConfiguresWell makeURL settings s ↔ SoundSettings makeURL settings s := by
  have hconsistent := consistent_of_reachable hs
  rcases configure_cases makeURL settings s hconfigured with
    ⟨url, key, hsettles, heq⟩ | ⟨error, t, hsettles, heq, ht⟩
  · rw [hsettles.sound_iff hconsistent]
    cases hparsed : makeURL url with
    | none =>
      rw [hparsed] at heq
      refine iff_of_false ?_ fun h => by cases h.1
      simp only [ConfiguresWell, heq, Option.elim_none, not_false_eq_true]
    | some parsed =>
      rw [hparsed] at heq
      rw [configuresWell_returned_iff hparsed heq]
      exact (and_iff_right rfl).symm
  · refine iff_of_true ?_ (sound_of_not_settles hsettles)
    simp only [ConfiguresWell, heq]
    exact ⟨ht.isConfigured.trans hconfigured, ht.client.trans (hconsistent.client hconfigured)⟩

/-- A text is a URL unless it is empty. -/
def nonemptyURL (text : String) : Option String := if text = "" then none else some text

def bundledPlist : SupabasePlist where
  url := some "https://live.example"
  key := some "anon"

theorem supabase_configures_well_of_plist :
    ConfiguresWell nonemptyURL ⟨none, some "anon", some bundledPlist⟩ initial := by
  refine (supabase_configures_well_iff (.init rfl) rfl).2 ⟨?_, ?_⟩
  · rintro url key ⟨⟩
  · rintro - url key ⟨⟩
    refine ⟨rfl, by rintro given ⟨⟩, ?_⟩
    rintro given ⟨⟩
    rfl

/-- The plist replaces a URL that the environment gives without a key, and an empty URL of the
environment stops the process. -/
theorem environment_url_replaced :
    ¬ConfiguresWell nonemptyURL ⟨some "https://test.example", none, some bundledPlist⟩ initial ∧
      (initial : SupabaseServiceConfiguration String).configure nonemptyURL
        ⟨some "", some "anon", some bundledPlist⟩ = .trapped := by
  refine ⟨?_, by decide⟩
  have hreplaced : (initial : SupabaseServiceConfiguration String).configure nonemptyURL
      ⟨some "https://test.example", none, some bundledPlist⟩ =
        .returned (connected "https://live.example" "anon" "https://live.example") := by
    decide
  have hparsed : nonemptyURL "https://live.example" = some "https://live.example" := rfl
  rw [configuresWell_returned_iff hparsed hreplaced]
  rintro ⟨hurl, -⟩
  exact absurd hurl (by decide)

end SkillTalk
