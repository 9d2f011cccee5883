import SkillTalk.Proof.SupabaseSettings
import SkillTalk.ServiceReconfiguration

/-!
# What a failed reconfiguration leaves

The reset comes first and is not undone. So an update that throws leaves the active provider's
configuration reset, whatever the type, and the other provider's as it was.
-/

namespace SkillTalk

open SupabaseServiceConfiguration

section Outcome

variable {σ τ ε δ : Type} {f : σ → τ} {g : ε → δ}

theorem map_eq_threw {outcome : ConfigurationOutcome σ ε} {error : δ} {t : τ}
    (h : outcome.map f g = .threw error t) : ∃ cause s, outcome = .threw cause s ∧ t = f s := by
  cases outcome with
  | returned s => cases h
  | threw cause s =>
    cases h
    exact ⟨cause, s, rfl, rfl⟩
  | trapped => cases h

end Outcome

variable {URL : Type} {makeURL : String → Option URL} {settings : SupabaseSettings}

/-- A `configure` that throws leaves a reset instance without a client. -/
theorem unsettled_of_configure_threw {s t : SupabaseServiceConfiguration URL}
    {error : ConfigurationError} (h : s.configure makeURL settings = .threw error t) :
    s.isConfigured = false ∧ Unsettled settings s t := by
  cases hconfigured : s.isConfigured with
  | true =>
    rw [SupabaseServiceConfiguration.configure, if_pos hconfigured] at h
    cases h
  | false =>
    refine ⟨rfl, ?_⟩
    rcases configure_cases makeURL settings s hconfigured with
      ⟨url, key, -, heq⟩ | ⟨_, u, -, heq, hu⟩
    · rw [heq] at h
      cases hparsed : makeURL url with
      | none =>
        rw [hparsed] at h
        cases h
      | some parsed =>
        rw [hparsed] at h
        cases h
    · rw [heq] at h
      cases h
      exact hu

/-- Without a client, and with no setting but those that configuring loads. -/
structure LeftReset (settings : SupabaseSettings) (t : SupabaseServiceConfiguration URL) :
    Prop where
  isConfigured : t.isConfigured = false
  client : t.client = none
  auth : t.auth = none
  url : ∀ url, t.supabaseURL = some url →
    settings.environmentURL = some url ∨ plistURL settings = some url
  key : ∀ key, t.supabaseKey = some key →
    settings.environmentKey = some key ∨ plistKey settings = some key

theorem leftReset_reset (s : SupabaseServiceConfiguration URL) : LeftReset settings s.reset where
  isConfigured := rfl
  client := rfl
  auth := rfl
  url _ h := by cases h
  key _ h := by cases h

theorem leftReset_of_configure_threw (s : SupabaseServiceConfiguration URL)
    {t : SupabaseServiceConfiguration URL} {error : ConfigurationError}
    (h : s.reset.configure makeURL settings = .threw error t) : LeftReset settings t := by
  obtain ⟨-, ht⟩ := unsettled_of_configure_threw h
  refine ⟨ht.isConfigured, ht.client, ht.auth, fun url hurl => ?_, fun key hkey => ?_⟩
  · exact (ht.url url hurl).imp_left fun hatHand => by
      rwa [urlAtHand, reset, initial, Option.or_none] at hatHand
  · exact (ht.key key hkey).imp_left fun hatHand => by
      rwa [keyAtHand, reset, initial, Option.or_none] at hatHand

namespace ServiceManager

variable {environment : ServiceEnvironment} {failoverManager : FailoverWorld}
  {c t : ProviderConfigurations URL} {serviceType : ServiceType} {provider : ServiceProvider}
  {error : ReconfigurationError}

theorem configureFirebaseFeature_threw {config : Option String} {feature : String}
    (h : configureFirebaseFeature c config feature = .threw error t) : t = c := by
  cases config with
  | none =>
    cases h
    rfl
  | some config => cases h

theorem configureSupabase_threw (h : configureSupabase makeURL settings c = .threw error t) :
    ∃ cause s, c.supabaseConfig.configure makeURL settings = .threw cause s ∧
      t = { c with supabaseConfig := s } :=
  map_eq_threw h

theorem notImplemented_threw {feature : String}
    (h : notImplemented c feature = .threw error t) : t = c := by
  cases h
  rfl

/-- Configuring a service changes nothing when it throws, unless Supabase's configuration does. -/
theorem configureService_threw
    (h : configureService environment makeURL settings c serviceType provider = .threw error t) :
    t = c ∨ provider = .supabase ∧ (serviceType = .authentication ∨ serviceType = .database) ∧
      ∃ cause s, c.supabaseConfig.configure makeURL settings = .threw cause s ∧
        t = { c with supabaseConfig := s } := by
  unfold configureService at h
  cases serviceType with
  | authentication =>
    dsimp only at h
    split at h
    · cases h
    · exact .inr ⟨rfl, .inl rfl, configureSupabase_threw h⟩
    · exact .inl (notImplemented_threw h)
  | database =>
    dsimp only at h
    split at h
    · cases h
    · exact .inr ⟨rfl, .inr rfl, configureSupabase_threw h⟩
    · exact .inl (notImplemented_threw h)
  | storage =>
    dsimp only at h
    split at h
    · exact .inl (configureFirebaseFeature_threw h)
    · exact .inl (notImplemented_threw h)
    · exact .inl (notImplemented_threw h)
  | pushNotifications =>
    dsimp only at h
    split at h
    · exact .inl (configureFirebaseFeature_threw h)
    · exact .inl (notImplemented_threw h)
    · exact .inl (notImplemented_threw h)
  | realtime =>
    dsimp only at h
    split at h <;> exact .inl (notImplemented_threw h)
  | voiceVideo =>
    dsimp only at h
    split at h <;> exact .inl (notImplemented_threw h)
  | translation =>
    dsimp only at h
    split at h <;> exact .inl (notImplemented_threw h)
  | realtimeMessaging => exact .inl (notImplemented_threw h)
  | videoConferencing => exact .inl (notImplemented_threw h)
  | voiceRoom => exact .inl (notImplemented_threw h)
  | analytics => exact .inl (notImplemented_threw h)
  | monitoring => exact .inl (notImplemented_threw h)

theorem update_of_other (hfirebase : getCurrentProvider failoverManager serviceType ≠ .firebase)
    (hsupabase : getCurrentProvider failoverManager serviceType ≠ .supabase)
    (h : updateServiceConfiguration environment makeURL settings failoverManager c serviceType =
      .threw error t) : t = c := by
  unfold updateServiceConfiguration resetServiceConfiguration at h
  generalize getCurrentProvider failoverManager serviceType = provider at hfirebase hsupabase h
  cases provider <;> first | contradiction | (cases h; rfl)

theorem update_of_firebase (hprovider : getCurrentProvider failoverManager serviceType = .firebase)
    (h : updateServiceConfiguration environment makeURL settings failoverManager c serviceType =
      .threw error t) : t = { c with firebaseConfig := c.firebaseConfig.reset } := by
  simp only [updateServiceConfiguration, resetServiceConfiguration, hprovider] at h
  rcases configureService_threw h with heq | ⟨heq, -⟩
  · exact heq
  · cases heq

theorem update_of_supabase (hprovider : getCurrentProvider failoverManager serviceType = .supabase)
    (h : updateServiceConfiguration environment makeURL settings failoverManager c serviceType =
      .threw error t) :
    t.firebaseConfig = c.firebaseConfig ∧ LeftReset settings t.supabaseConfig := by
  simp only [updateServiceConfiguration, resetServiceConfiguration, hprovider] at h
  rcases configureService_threw h with rfl | ⟨-, -, cause, s, hconfigure, rfl⟩
  · exact ⟨rfl, leftReset_reset c.supabaseConfig⟩
  · exact ⟨rfl, leftReset_of_configure_threw c.supabaseConfig hconfigure⟩

/-- **A failed update resets the active provider's configuration** and leaves all else as it was. -/
theorem failed_update_resets_active
    (h : updateServiceConfiguration environment makeURL settings failoverManager c serviceType =
      .threw error t) :
    (getCurrentProvider failoverManager serviceType ≠ .firebase →
      t.firebaseConfig = c.firebaseConfig) ∧
    (getCurrentProvider failoverManager serviceType ≠ .supabase →
      t.supabaseConfig = c.supabaseConfig) ∧
    (getCurrentProvider failoverManager serviceType = .firebase →
      t.firebaseConfig = c.firebaseConfig.reset) ∧
    (getCurrentProvider failoverManager serviceType = .supabase →
      LeftReset settings t.supabaseConfig) := by
  by_cases hfirebase : getCurrentProvider failoverManager serviceType = .firebase
  · obtain rfl := update_of_firebase hfirebase h
    refine ⟨absurd hfirebase, fun _ => rfl, fun _ => rfl, fun hsupabase => ?_⟩
    rw [hfirebase] at hsupabase
    cases hsupabase
  by_cases hsupabase : getCurrentProvider failoverManager serviceType = .supabase
  · obtain ⟨hkept, hreset⟩ := update_of_supabase hsupabase h
    exact ⟨fun _ => hkept, absurd hsupabase, fun heq => absurd heq hfirebase, fun _ => hreset⟩
  · obtain rfl := update_of_other hfirebase hsupabase h
    exact ⟨fun _ => rfl, fun _ => rfl, fun heq => absurd heq hfirebase,
      fun heq => absurd heq hsupabase⟩

/-- Both providers configured. -/
def configuredProviders : ProviderConfigurations String where
  firebaseConfig := ⟨true, none⟩
  supabaseConfig := connected "https://live.example" "anon" "https://live.example"

theorem update_storage_threw : updateServiceConfiguration ⟨none, none⟩ nonemptyURL
    ⟨none, none, none⟩ (.initial (.ofGaps [])) configuredProviders .storage =
      .threw (.missingConfiguration "Firebase Storage")
        { configuredProviders with firebaseConfig := ⟨false, none⟩ } := by
  rfl

theorem failed_update_keeps_supabase : ∃ error t,
    updateServiceConfiguration ⟨none, none⟩ nonemptyURL ⟨none, none, none⟩
      (.initial (.ofGaps [])) configuredProviders .storage = .threw error t ∧
    t.supabaseConfig = configuredProviders.supabaseConfig :=
  ⟨_, _, update_storage_threw,
    (failed_update_resets_active update_storage_threw).2.1 (by decide)⟩

/-- Authentication and every other type lose Firebase when storage cannot be configured anew. -/
theorem failed_update_disables_firebase : ∃ error t,
    updateServiceConfiguration ⟨none, none⟩ nonemptyURL ⟨none, none, none⟩
      (.initial (.ofGaps [])) configuredProviders .storage = .threw error t ∧
    configuredProviders.firebaseConfig.isConfigured = true ∧
    t.firebaseConfig.isConfigured = false :=
  ⟨_, _, update_storage_threw, rfl, rfl⟩

end ServiceManager

end SkillTalk
