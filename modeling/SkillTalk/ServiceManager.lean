import SkillTalk.ServiceFailoverManager

/-!
# The service manager's accessors

No provider's service is implemented yet: every branch of a switch throws an error that names the
feature it would return, and its `default` throws that the provider is invalid. So what an accessor
comes to says which branch it took.
-/

namespace SkillTalk

inductive ServiceError where
  | invalidProvider (service : String) (provider : ServiceProvider)
  | notImplemented (feature : String)
  deriving DecidableEq

def ServiceType.rawValue : ServiceType → String
  | .authentication => "Authentication"
  | .database => "Database"
  | .storage => "Storage"
  | .realtime => "Realtime"
  | .realtimeMessaging => "RealtimeMessaging"
  | .pushNotifications => "PushNotifications"
  | .voiceVideo => "VoiceVideo"
  | .translation => "Translation"
  | .videoConferencing => "VideoConferencing"
  | .voiceRoom => "VoiceRoom"
  | .analytics => "Analytics"
  | .monitoring => "Monitoring"

namespace ServiceManager

/-- A switch over the active provider: the branches it has, and the features they throw. -/
structure ProviderSwitch where
  service : String
  branches : List (ServiceProvider × String)

variable {Service : Type}

def ProviderSwitch.dispatch (switch : ProviderSwitch) (provider : ServiceProvider) :
    Except ServiceError Service :=
  match switch.branches.lookup provider with
  | some feature => .error (.notImplemented feature)
  | none => .error (.invalidProvider switch.service provider)

def authSwitch : ProviderSwitch where
  service := "Authentication"
  branches := [(.firebase, "Firebase Auth Service"), (.supabase, "Supabase Auth Service")]

def databaseSwitch : ProviderSwitch where
  service := "Database"
  branches := [(.firebase, "Firebase Database Service"), (.supabase, "Supabase Database Service")]

def storageSwitch : ProviderSwitch where
  service := "Storage"
  branches :=
    [(.firebase, "Firebase Storage Service"), (.cloudflareR2, "Cloudflare R2 Storage Service")]

def realtimeMessagingSwitch : ProviderSwitch where
  service := "Realtime Messaging"
  branches :=
    [(.firebase, "Firebase Realtime Service"), (.pusher, "Pusher Service"), (.ably, "Ably Service")]

def voiceVideoSwitch : ProviderSwitch where
  service := "Voice/Video"
  branches := [(.agora, "Agora Service"), (.dailyco, "Daily.co Service")]

def translationSwitch : ProviderSwitch where
  service := "Translation"
  branches := [(.googleTranslate, "Google Translate Service"), (.deepL, "DeepL Service")]

def pushNotificationSwitch : ProviderSwitch where
  service := "Push Notifications"
  branches := [(.firebase, "Firebase Push Service"), (.onesignal, "OneSignal Service")]

/-- The private `getRealtimeService` switches as `getRealtimeMessagingService` does. -/
def realtimeSwitch : ProviderSwitch where
  service := ServiceType.realtime.rawValue
  branches := realtimeMessagingSwitch.branches

variable (failoverManager : FailoverWorld)

def getAuthService : Except ServiceError Service :=
  authSwitch.dispatch (failoverManager.getActiveProvider .authentication)

def getDatabaseService : Except ServiceError Service :=
  databaseSwitch.dispatch (failoverManager.getActiveProvider .database)

def getStorageService : Except ServiceError Service :=
  storageSwitch.dispatch (failoverManager.getActiveProvider .storage)

def getRealtimeMessagingService : Except ServiceError Service :=
  realtimeMessagingSwitch.dispatch (failoverManager.getActiveProvider .realtimeMessaging)

def getVoiceVideoService : Except ServiceError Service :=
  voiceVideoSwitch.dispatch (failoverManager.getActiveProvider .voiceVideo)

def getTranslationService : Except ServiceError Service :=
  translationSwitch.dispatch (failoverManager.getActiveProvider .translation)

def getPushNotificationService : Except ServiceError Service :=
  pushNotificationSwitch.dispatch (failoverManager.getActiveProvider .pushNotifications)

def getRealtimeService : Except ServiceError Service :=
  realtimeSwitch.dispatch (failoverManager.getActiveProvider .realtime)

/-- The failover manager always names a provider, so the manager's own default table is never
consulted. -/
def getCurrentProvider (serviceType : ServiceType) : ServiceProvider :=
  failoverManager.getActiveProvider serviceType

def getService (type : ServiceType) : Except ServiceError Service :=
  let provider := getCurrentProvider failoverManager type
  match type, provider with
  | .authentication, .firebase => .error (.notImplemented "Firebase Auth Service")
  | .authentication, .supabase => .error (.notImplemented "Supabase Auth Service")
  | .database, .firebase => .error (.notImplemented "Firebase Database Service")
  | .database, .supabase => .error (.notImplemented "Supabase Database Service")
  | .storage, .firebase => .error (.notImplemented "Firebase Storage Service")
  | .storage, .cloudflareR2 => .error (.notImplemented "Cloudflare R2 Storage Service")
  | .realtime, .firebase => .error (.notImplemented "Firebase Realtime Service")
  | .realtime, .pusher => .error (.notImplemented "Pusher Service")
  | .realtime, .ably => .error (.notImplemented "Ably Service")
  | .voiceVideo, .agora => .error (.notImplemented "Agora Service")
  | .voiceVideo, .dailyco => .error (.notImplemented "Daily.co Service")
  | .translation, .googleTranslate => .error (.notImplemented "Google Translate Service")
  | .translation, .deepL => .error (.notImplemented "DeepL Service")
  | .pushNotifications, .firebase => .error (.notImplemented "Firebase Push Service")
  | .pushNotifications, .onesignal => .error (.notImplemented "OneSignal Service")
  | _, _ => .error (.invalidProvider type.rawValue provider)

end ServiceManager

end SkillTalk
