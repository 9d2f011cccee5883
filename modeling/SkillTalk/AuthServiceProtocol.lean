import Mathlib.Logic.Basic

/-!
# The authentication protocol

A provider is a state together with the operations of the protocol on it. An operation that throws
leaves a state too, since what the provider did before it threw is not undone. `SetsUser`,
`KeepsSession` and `ClearsUser` are what results about providers assume of them.
-/

namespace SkillTalk

/-- A user as authentication knows them. The photo's URL is kept as its text. -/
structure AuthUser where
  uid : String
  email : Option String
  displayName : Option String
  photoURL : Option String
  isAnonymous : Bool
  provider : String
  deriving DecidableEq, Repr

structure AuthServiceProtocol (σ ε : Type) where
  currentUser : σ → Option AuthUser
  isSignedIn : σ → Bool
  signInWithApple : EStateM ε σ AuthUser
  signInWithGoogle : EStateM ε σ AuthUser
  signInWithFacebook : EStateM ε σ AuthUser
  signInWithEmail (email password : String) : EStateM ε σ AuthUser
  signInWithPhone (phoneNumber : String) (otp : Option String) : EStateM ε σ AuthUser
  signOut : EStateM ε σ Unit
  refreshTokenIfNeeded : EStateM ε σ Unit
  getIDToken (forceRefresh : Bool) : EStateM ε σ (Option String)
  enableBiometric (user : AuthUser) : EStateM ε σ Unit
  authenticateWithBiometric : EStateM ε σ Bool
  restoreSession : EStateM ε σ Unit

inductive SignInMethod where
  | apple
  | google
  | facebook
  | email (email password : String)
  | phone (phoneNumber : String) (otp : Option String)
  deriving DecidableEq, Repr

inductive AuthOperation where
  | signIn (method : SignInMethod)
  | signOut
  | refreshTokenIfNeeded
  | getIDToken (forceRefresh : Bool)
  | enableBiometric (user : AuthUser)
  | authenticateWithBiometric
  | restoreSession
  deriving DecidableEq, Repr

def AuthOperation.isSignIn : AuthOperation → Bool
  | .signIn _ => true
  | _ => false

/-- The state a call leaves, whether it returns or throws. -/
def stateAfter {ε σ α : Type} (call : EStateM ε σ α) (s : σ) : σ :=
  match call s with
  | .ok _ t => t
  | .error _ t => t

namespace AuthServiceProtocol

variable {σ ε : Type} (service : AuthServiceProtocol σ ε)

def signIn : SignInMethod → EStateM ε σ AuthUser
  | .apple => service.signInWithApple
  | .google => service.signInWithGoogle
  | .facebook => service.signInWithFacebook
  | .email email password => service.signInWithEmail email password
  | .phone phoneNumber otp => service.signInWithPhone phoneNumber otp

def perform (s : σ) : AuthOperation → σ
  | .signIn method => stateAfter (service.signIn method) s
  | .signOut => stateAfter service.signOut s
  | .refreshTokenIfNeeded => stateAfter service.refreshTokenIfNeeded s
  | .getIDToken forceRefresh => stateAfter (service.getIDToken forceRefresh) s
  | .enableBiometric user => stateAfter (service.enableBiometric user) s
  | .authenticateWithBiometric => stateAfter service.authenticateWithBiometric s
  | .restoreSession => stateAfter service.restoreSession s

def SetsUser : Prop :=
  ∀ method s user t, service.signIn method s = .ok user t →
    service.currentUser t = some user ∧ service.isSignedIn t = true

def KeepsSession : Prop :=
  ∀ method s error t, service.signIn method s = .error error t →
    service.currentUser t = service.currentUser s ∧ service.isSignedIn t = service.isSignedIn s

def ClearsUser : Prop :=
  ∀ s t, service.signOut s = .ok () t → service.currentUser t = none

end AuthServiceProtocol

end SkillTalk
