import Mathlib.Data.Rat.Defs
import Mathlib.Logic.Function.Basic

/-!
# Service types, providers and health records

Dates and intervals are seconds, taken as exact rationals.
-/

namespace SkillTalk

abbrev Date := ℚ

abbrev TimeInterval := ℚ

inductive ServiceType where
  | authentication
  | database
  | storage
  | realtime
  | realtimeMessaging
  | pushNotifications
  | voiceVideo
  | translation
  | videoConferencing
  | voiceRoom
  | analytics
  | monitoring
  deriving DecidableEq, Repr

def ServiceType.allCases : List ServiceType :=
  [.authentication, .database, .storage, .realtime, .realtimeMessaging, .pushNotifications,
    .voiceVideo, .translation, .videoConferencing, .voiceRoom, .analytics, .monitoring]

inductive ServiceProvider where
  | firebase
  | supabase
  | agora
  | dailyco
  | pusher
  | ably
  | cloudflareR2
  | libreTranslate
  | deepL
  | fcm
  | revenueCat
  | googlePlayBilling
  | hundredMs
  | googleTranslate
  | onesignal
  deriving DecidableEq, Repr

def ServiceProvider.allCases : List ServiceProvider :=
  [.firebase, .supabase, .agora, .dailyco, .pusher, .ably, .cloudflareR2, .libreTranslate, .deepL,
    .fcm, .revenueCat, .googlePlayBilling, .hundredMs, .googleTranslate, .onesignal]

inductive ServiceHealthStatus where
  | healthy
  | degraded
  | failed
  | unknown
  deriving DecidableEq, Repr

structure ServiceHealth where
  provider : ServiceProvider
  status : ServiceHealthStatus
  responseTime : TimeInterval
  errorRate : ℚ
  lastChecked : Date
  errorMessage : Option String
  deriving DecidableEq

structure ProviderPair where
  primary : ServiceProvider
  backup : ServiceProvider
  deriving DecidableEq, Repr

end SkillTalk
