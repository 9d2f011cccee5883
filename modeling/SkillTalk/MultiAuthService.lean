import SkillTalk.AuthServiceProtocol
import SkillTalk.Library.Machine

/-!
# Authentication over two providers

`useBackup` is set when a sign-in fails at the primary, and nothing clears it. It routes every
operation but the sign-ins, which always try the primary first.
-/

namespace SkillTalk

structure MultiAuthState (σ τ : Type) where
  primary : σ
  backup : τ
  useBackup : Bool

namespace MultiAuthService

variable {σ τ ε α : Type}

def onPrimary (call : EStateM ε σ α) : EStateM ε (MultiAuthState σ τ) α := fun s =>
  match call s.primary with
  | .ok value primary => .ok value { s with primary }
  | .error error primary => .error error { s with primary }

def onBackup (call : EStateM ε τ α) : EStateM ε (MultiAuthState σ τ) α := fun s =>
  match call s.backup with
  | .ok value backup => .ok value { s with backup }
  | .error error backup => .error error { s with backup }

/-- The call on `useBackup ? backup : primary`. -/
def routed (primaryCall : EStateM ε σ α) (backupCall : EStateM ε τ α) :
    EStateM ε (MultiAuthState σ τ) α := fun s =>
  if s.useBackup then onBackup backupCall s else onPrimary primaryCall s

def signInWith (primaryCall : EStateM ε σ AuthUser) (backupCall : EStateM ε τ AuthUser) :
    EStateM ε (MultiAuthState σ τ) AuthUser :=
  tryCatch (onPrimary primaryCall) fun _ => do
    modify fun s => { s with useBackup := true }
    onBackup backupCall

end MultiAuthService

open MultiAuthService in
def multiAuthService {σ τ ε : Type} (primary : AuthServiceProtocol σ ε)
    (backup : AuthServiceProtocol τ ε) : AuthServiceProtocol (MultiAuthState σ τ) ε where
  currentUser s :=
    if s.useBackup then backup.currentUser s.backup else primary.currentUser s.primary
  isSignedIn s := if s.useBackup then backup.isSignedIn s.backup else primary.isSignedIn s.primary
  signInWithApple := signInWith primary.signInWithApple backup.signInWithApple
  signInWithGoogle := signInWith primary.signInWithGoogle backup.signInWithGoogle
  signInWithFacebook := signInWith primary.signInWithFacebook backup.signInWithFacebook
  signInWithEmail email password :=
    signInWith (primary.signInWithEmail email password) (backup.signInWithEmail email password)
  signInWithPhone phoneNumber otp :=
    signInWith (primary.signInWithPhone phoneNumber otp) (backup.signInWithPhone phoneNumber otp)
  signOut := tryCatch (routed primary.signOut backup.signOut) fun error => throw error
  refreshTokenIfNeeded := routed primary.refreshTokenIfNeeded backup.refreshTokenIfNeeded
  getIDToken forceRefresh :=
    routed (primary.getIDToken forceRefresh) (backup.getIDToken forceRefresh)
  enableBiometric user := routed (primary.enableBiometric user) (backup.enableBiometric user)
  authenticateWithBiometric :=
    routed primary.authenticateWithBiometric backup.authenticateWithBiometric
  restoreSession := routed primary.restoreSession backup.restoreSession

def authSessions {σ τ ε : Type} (primary : AuthServiceProtocol σ ε)
    (backup : AuthServiceProtocol τ ε) : Machine (MultiAuthState σ τ) AuthOperation where
  Init s := s.useBackup = false
  step s operation := some ((multiAuthService primary backup).perform s operation)

end SkillTalk
