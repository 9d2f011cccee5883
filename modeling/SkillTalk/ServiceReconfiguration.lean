import SkillTalk.ServiceManager
import SkillTalk.SupabaseServiceConfiguration

/-!
# Configuring services anew

The service manager resets the configuration of a type's active provider and then configures the
type. The getters it calls for most types throw, as no provider's service is implemented.
-/

namespace SkillTalk

def ServiceType.caseName : ServiceType → String
  | .authentication => "authentication"
  | .database => "database"
  | .storage => "storage"
  | .realtime => "realtime"
  | .realtimeMessaging => "realtimeMessaging"
  | .pushNotifications => "pushNotifications"
  | .voiceVideo => "voiceVideo"
  | .translation => "translation"
  | .videoConferencing => "videoConferencing"
  | .voiceRoom => "voiceRoom"
  | .analytics => "analytics"
  | .monitoring => "monitoring"

def ServiceProvider.caseName : ServiceProvider → String
  | .firebase => "firebase"
  | .supabase => "supabase"
  | .agora => "agora"
  | .dailyco => "dailyco"
  | .pusher => "pusher"
  | .ably => "ably"
  | .cloudflareR2 => "cloudflareR2"
  | .libreTranslate => "libreTranslate"
  | .deepL => "deepL"
  | .fcm => "fcm"
  | .revenueCat => "revenueCat"
  | .googlePlayBilling => "googlePlayBilling"
  | .hundredMs => "hundredMs"
  | .googleTranslate => "googleTranslate"
  | .onesignal => "onesignal"

structure FirebaseServiceConfiguration where
  isConfigured : Bool
  configurationError : Option String
  deriving DecidableEq

namespace FirebaseServiceConfiguration

/-- Nothing in it throws while the Firebase calls are commented out. -/
def configure (s : FirebaseServiceConfiguration) : FirebaseServiceConfiguration :=
  if s.isConfigured then s else ⟨true, none⟩

def reset (_ : FirebaseServiceConfiguration) : FirebaseServiceConfiguration := ⟨false, none⟩

end FirebaseServiceConfiguration

/-- What reconfiguring throws: the errors of `ServiceError` that it comes to. -/
inductive ReconfigurationError where
  | service (error : ServiceError)
  | missingConfiguration (feature : String)
  | configuration (error : ConfigurationError)
  deriving DecidableEq

structure ServiceEnvironment where
  firebaseStorageConfig : Option String
  firebasePushConfig : Option String

/-- The two shared configurations. -/
structure ProviderConfigurations (URL : Type) where
  firebaseConfig : FirebaseServiceConfiguration
  supabaseConfig : SupabaseServiceConfiguration URL
  deriving DecidableEq

namespace ServiceManager

variable {URL : Type}

abbrev Reconfiguration (URL : Type) :=
  ConfigurationOutcome (ProviderConfigurations URL) ReconfigurationError

def notImplemented (c : ProviderConfigurations URL) (feature : String) : Reconfiguration URL :=
  .threw (.service (.notImplemented feature)) c

/-- `firebaseConfig.configureStorage` and `configurePushNotifications` change nothing. -/
def configureFirebaseFeature (c : ProviderConfigurations URL) (config : Option String)
    (feature : String) : Reconfiguration URL :=
  match config with
  | none => .threw (.missingConfiguration feature) c
  | some _ => .returned c

variable (environment : ServiceEnvironment)

def configureFirebaseStorage (c : ProviderConfigurations URL) : Reconfiguration URL :=
  configureFirebaseFeature c environment.firebaseStorageConfig "Firebase Storage"

def configureFirebasePush (c : ProviderConfigurations URL) : Reconfiguration URL :=
  configureFirebaseFeature c environment.firebasePushConfig "Firebase Push"

def configureFirebase (c : ProviderConfigurations URL) : Reconfiguration URL :=
  .returned { c with firebaseConfig := c.firebaseConfig.configure }

variable (makeURL : String → Option URL) (settings : SupabaseSettings)

def configureSupabase (c : ProviderConfigurations URL) : Reconfiguration URL :=
  (c.supabaseConfig.configure makeURL settings).map
    (fun supabaseConfig => { c with supabaseConfig }) .configuration

def configureService (c : ProviderConfigurations URL) (serviceType : ServiceType)
    (provider : ServiceProvider) : Reconfiguration URL :=
  let unsupported := notImplemented c (serviceType.caseName ++ " for " ++ provider.caseName)
  match serviceType with
  | .authentication =>
      match provider with
      | .firebase => configureFirebase c
      | .supabase => configureSupabase makeURL settings c
      | _ => notImplemented c ("Authentication for " ++ provider.caseName)
  | .database =>
      match provider with
      | .firebase => configureFirebase c
      | .supabase => configureSupabase makeURL settings c
      | _ => notImplemented c ("Database for " ++ provider.caseName)
  | .storage =>
      match provider with
      | .firebase => configureFirebaseStorage environment c
      | .cloudflareR2 => notImplemented c "Cloudflare R2 Configuration"
      | _ => unsupported
  | .realtime =>
      match provider with
      | .firebase => notImplemented c "Firebase Realtime Service"
      | .pusher => notImplemented c "Pusher Service"
      | .ably => notImplemented c "Ably Service"
      | _ => unsupported
  | .voiceVideo =>
      match provider with
      | .agora => notImplemented c "Agora Service"
      | .dailyco => notImplemented c "Daily.co Service"
      | _ => unsupported
  | .translation =>
      match provider with
      | .googleTranslate => notImplemented c "Google Translate Service"
      | .deepL => notImplemented c "DeepL Service"
      | _ => unsupported
  | .pushNotifications =>
      match provider with
      | .firebase => configureFirebasePush environment c
      | .onesignal => notImplemented c "OneSignal Configuration"
      | _ => unsupported
  | _ => unsupported

variable (failoverManager : FailoverWorld)

def resetServiceConfiguration (c : ProviderConfigurations URL) (serviceType : ServiceType) :
    Reconfiguration URL :=
  let provider := getCurrentProvider failoverManager serviceType
  match provider with
  | .firebase => .returned { c with firebaseConfig := c.firebaseConfig.reset }
  | .supabase => .returned { c with supabaseConfig := c.supabaseConfig.reset }
  | _ => .threw (.service (.invalidProvider serviceType.rawValue provider)) c

/-- The options are not looked at. -/
def updateServiceConfiguration (c : ProviderConfigurations URL) (serviceType : ServiceType) :
    Reconfiguration URL :=
  match resetServiceConfiguration failoverManager c serviceType with
  | .returned c =>
      configureService environment makeURL settings c serviceType
        (getCurrentProvider failoverManager serviceType)
  | failed => failed

end ServiceManager

end SkillTalk
