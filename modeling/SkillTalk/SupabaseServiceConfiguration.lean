import SkillTalk.Library.Machine
import SkillTalk.ServiceTypes

/-!
# The Supabase configuration

The settings come from the process's environment and from the bundle's `SupabaseConfig.plist`,
which is read if one of the two is missing. Neither changes while the process runs. `makeURL` is
`URL(string:)`, whose result is forced; a client is the URL and the key it was made of, and its
`auth` is known by the client.
-/

namespace SkillTalk

/-- What configuring a provider throws: an `NSError`, or a `configurationFailed` around one. -/
inductive ConfigurationError where
  | nsError (domain : String) (code : Int) (localizedDescription : String)
  | configurationFailed (service : String) (error : ConfigurationError)
  deriving DecidableEq

def ConfigurationError.localizedDescription : ConfigurationError → String
  | .nsError _ _ localizedDescription => localizedDescription
  | .configurationFailed service error =>
      "Configuration failed for " ++ service ++ ": " ++ error.localizedDescription

/-- The entries of the plist that are strings. -/
structure SupabasePlist where
  url : Option String
  key : Option String
  deriving DecidableEq

structure SupabaseSettings where
  environmentURL : Option String
  environmentKey : Option String
  plist : Option SupabasePlist
  deriving DecidableEq

structure SupabaseClient (URL : Type) where
  supabaseURL : URL
  supabaseKey : String
  deriving DecidableEq

structure SupabaseServiceConfiguration (URL : Type) where
  isConfigured : Bool
  configurationError : Option String
  client : Option (SupabaseClient URL)
  auth : Option (SupabaseClient URL)
  supabaseURL : Option String
  supabaseKey : Option String
  deriving DecidableEq

/-- What a call comes to, with the state it leaves. -/
inductive ConfigurationOutcome (σ ε : Type) where
  | returned (state : σ)
  | threw (error : ε) (state : σ)
  | trapped
  deriving DecidableEq

/-- The state a call leaves, unless it stops the process. -/
def ConfigurationOutcome.state? {σ ε : Type} : ConfigurationOutcome σ ε → Option σ
  | .returned state => some state
  | .threw _ state => some state
  | .trapped => none

/-- The outcome of a call as the outcome of its caller. -/
def ConfigurationOutcome.map {σ τ ε δ : Type} (f : σ → τ) (g : ε → δ) :
    ConfigurationOutcome σ ε → ConfigurationOutcome τ δ
  | .returned state => .returned (f state)
  | .threw error state => .threw (g error) (f state)
  | .trapped => .trapped

namespace SupabaseServiceConfiguration

variable {URL : Type} (makeURL : String → Option URL) (settings : SupabaseSettings)

def initial : SupabaseServiceConfiguration URL where
  isConfigured := false
  configurationError := none
  client := none
  auth := none
  supabaseURL := none
  supabaseKey := none

def configError (code : Int) (localizedDescription : String) : ConfigurationError :=
  .configurationFailed "Supabase" (.nsError "SupabaseConfig" code localizedDescription)

def loadFromPlist (s : SupabaseServiceConfiguration URL) :
    EStateM.Result ConfigurationError (SupabaseServiceConfiguration URL) Unit :=
  match settings.plist with
  | none => .error (configError 3 "Configuration file not found") s
  | some config => .ok () { s with supabaseURL := config.url, supabaseKey := config.key }

def loadConfiguration (s : SupabaseServiceConfiguration URL) :
    EStateM.Result ConfigurationError (SupabaseServiceConfiguration URL) Unit :=
  let s := match settings.environmentURL with
    | some url => { s with supabaseURL := some url }
    | none => s
  let s := match settings.environmentKey with
    | some key => { s with supabaseKey := some key }
    | none => s
  let loaded := if s.supabaseURL = none ∨ s.supabaseKey = none then loadFromPlist settings s
    else .ok () s
  match loaded with
  | .error error s => .error error s
  | .ok () s =>
      if s.supabaseURL ≠ none ∧ s.supabaseKey ≠ none then .ok () s
      else .error (configError 2 "Invalid configuration") s

def fail (s : SupabaseServiceConfiguration URL) (error : ConfigurationError) :
    ConfigurationOutcome (SupabaseServiceConfiguration URL) ConfigurationError :=
  .threw (.configurationFailed "Supabase" error)
    { s with configurationError := some error.localizedDescription }

def configure (s : SupabaseServiceConfiguration URL) :
    ConfigurationOutcome (SupabaseServiceConfiguration URL) ConfigurationError :=
  if s.isConfigured then .returned s
  else
    match loadConfiguration settings s with
    | .error error s => s.fail error
    | .ok () s =>
        match s.supabaseURL, s.supabaseKey with
        | some url, some key =>
            match makeURL url with
            | none => .trapped
            | some url =>
                let client := ⟨url, key⟩
                .returned { s with
                  client := some client
                  auth := some client
                  isConfigured := true
                  configurationError := none }
        | _, _ => s.fail (configError 1 "Missing URL or API key")

/-- `reset` and `resetConfiguration`. -/
def reset (_ : SupabaseServiceConfiguration URL) : SupabaseServiceConfiguration URL := initial

inductive Action where
  | configure
  | reset

def step (s : SupabaseServiceConfiguration URL) :
    Action → Option (SupabaseServiceConfiguration URL)
  | .configure => (s.configure makeURL settings).state?
  | .reset => some s.reset

end SupabaseServiceConfiguration

def supabaseConfiguration {URL : Type} (makeURL : String → Option URL)
    (settings : SupabaseSettings) :
    Machine (SupabaseServiceConfiguration URL) SupabaseServiceConfiguration.Action where
  Init s := s = SupabaseServiceConfiguration.initial
  step := SupabaseServiceConfiguration.step makeURL settings

end SkillTalk
