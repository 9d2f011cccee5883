import SkillTalk.Proof.FailoverRouting
import SkillTalk.ServiceManager

/-!
# Where the accessors and the failover manager agree

The provider pairs and the switches are written apart. A paired type is routed to its primary or its
backup, so it is enough to compare each switch with these two.
-/

namespace SkillTalk

open FailoverWorld

namespace ServiceManager

variable {Service : ServiceType → Type} {clock : Clock Date} {w : FailoverWorld}

def switchFor : ServiceType → Option ProviderSwitch
  | .authentication => some authSwitch
  | .database => some databaseSwitch
  | .storage => some storageSwitch
  | .realtime => some realtimeSwitch
  | .realtimeMessaging => some realtimeMessagingSwitch
  | .pushNotifications => some pushNotificationSwitch
  | .voiceVideo => some voiceVideoSwitch
  | .translation => some translationSwitch
  | _ => none

/-- What the type's accessor comes to. -/
def accessed (Service : ServiceType → Type) (w : FailoverWorld) :
    (serviceType : ServiceType) → Option (Except ServiceError (Service serviceType))
  | .authentication => some (getAuthService w)
  | .database => some (getDatabaseService w)
  | .storage => some (getStorageService w)
  | .realtime => some (getRealtimeService w)
  | .realtimeMessaging => some (getRealtimeMessagingService w)
  | .pushNotifications => some (getPushNotificationService w)
  | .voiceVideo => some (getVoiceVideoService w)
  | .translation => some (getTranslationService w)
  | _ => none

/-- The accessor and `getService` both take the active provider's branch. -/
def ServesActive (Service : ServiceType → Type) (w : FailoverWorld) (serviceType : ServiceType) :
    Prop :=
  ∃ switch ∈ switchFor serviceType, ∃ feature,
    switch.branches.lookup (w.getActiveProvider serviceType) = some feature
      ∧ accessed Service w serviceType = some (.error (.notImplemented feature))
      ∧ (getService w serviceType : Except ServiceError (Service serviceType))
          = .error (.notImplemented feature)

theorem accessed_eq_dispatch (w : FailoverWorld) (serviceType : ServiceType) :
    accessed Service w serviceType
      = (switchFor serviceType).map fun switch =>
          switch.dispatch (w.getActiveProvider serviceType) := by
  cases serviceType <;> rfl

theorem not_servesActive_of_lookup {serviceType : ServiceType} {switch : ProviderSwitch}
    (hswitch : switchFor serviceType = some switch)
    (hnone : switch.branches.lookup (w.getActiveProvider serviceType) = none) :
    ¬ ServesActive Service w serviceType := by
  rintro ⟨other, hother, feature, hlookup, -, -⟩
  obtain rfl : switch = other := Option.some.inj (hswitch.symm.trans hother)
  rw [hnone] at hlookup
  cases hlookup

theorem servesActive_of_lookup {serviceType : ServiceType} {switch : ProviderSwitch}
    {feature : String} (hswitch : switchFor serviceType = some switch)
    (hlookup : switch.branches.lookup (w.getActiveProvider serviceType) = some feature)
    (hservice : (getService w serviceType : Except ServiceError (Service serviceType))
      = .error (.notImplemented feature)) : ServesActive Service w serviceType := by
  refine ⟨switch, hswitch, feature, hlookup, ?_, hservice⟩
  rw [accessed_eq_dispatch, hswitch, Option.map_some, ProviderSwitch.dispatch, hlookup]

theorem getActiveProvider_of_reachable (hw : (failover clock).Reachable w)
    {serviceType : ServiceType} {pair : ProviderPair}
    (hpair : providerPair serviceType = some pair) :
    w.getActiveProvider serviceType = pair.primary
      ∨ w.getActiveProvider serviceType = pair.backup := by
  have hrouted : w.Routed := routed_of_reachable hw
  rw [hrouted.getActiveProvider_eq_iff hpair, hrouted.getActiveProvider_eq_iff hpair]
  exact hrouted.paired serviceType pair hpair

/-- **The two providers no switch knows.** In every reachable failover state the accessor of a
paired type and `getService` serve its active provider, unless this is LibreTranslate or FCM. -/
theorem active_provider_served (hw : (failover clock).Reachable w) {serviceType : ServiceType}
    {pair : ProviderPair} (hpair : providerPair serviceType = some pair) :
    ServesActive Service w serviceType
      ↔ w.getActiveProvider serviceType ≠ .libreTranslate
        ∧ w.getActiveProvider serviceType ≠ .fcm := by
  have hactive := getActiveProvider_of_reachable hw hpair
  cases serviceType with
  | authentication | database | storage | realtime | voiceVideo =>
      obtain rfl := Option.some.inj hpair
      rcases hactive with h | h <;>
        exact iff_of_true
          (servesActive_of_lookup rfl (by rw [h]; rfl) (by simp [getService, getCurrentProvider, h]))
          (by simp [h])
  | translation | pushNotifications =>
      obtain rfl := Option.some.inj hpair
      rcases hactive with h | h
      · exact iff_of_false (not_servesActive_of_lookup rfl (by rw [h]; rfl)) (by simp [h])
      · exact iff_of_true
          (servesActive_of_lookup rfl (by rw [h]; rfl) (by simp [getService, getCurrentProvider, h]))
          (by simp [h])
  | realtimeMessaging | videoConferencing | voiceRoom | analytics | monitoring => cases hpair

/-- A failover of the translation service brings in DeepL, which both switches know. -/
theorem active_provider_served_of_failover :
    ∃ w, (failover (Clock.ofGaps [])).exec (initial (Clock.ofGaps []))
        [.triggerFailover .translation "manual"] = some w
      ∧ ServesActive (fun _ => Unit) w .translation := by
  obtain ⟨w, hexec, hactive⟩ : ∃ w, (failover (Clock.ofGaps [])).exec
      (initial (Clock.ofGaps [])) [.triggerFailover .translation "manual"] = some w
        ∧ w.getActiveProvider .translation = .deepL := ⟨_, rfl, rfl⟩
  refine ⟨w, hexec, ?_⟩
  have hreach := Machine.reachable_of_exec (m := failover (Clock.ofGaps [])) rfl hexec
  exact (active_provider_served hreach rfl).mpr (by simp [hactive])

/-- The translation service is not served before any failover. -/
theorem default_providers_not_served :
    ¬ ∀ (clock : Clock Date) (w : FailoverWorld), (failover clock).Reachable w →
      ∀ serviceType pair, providerPair serviceType = some pair →
        ServesActive (fun _ => Unit) w serviceType := by
  intro h
  have hserved := h (Clock.ofGaps []) (initial (Clock.ofGaps [])) (.init rfl) .translation _ rfl
  exact not_servesActive_of_lookup rfl rfl hserved

end ServiceManager

end SkillTalk
