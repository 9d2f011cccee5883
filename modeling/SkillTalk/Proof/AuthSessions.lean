import SkillTalk.MultiAuthService

/-!
# Where sessions live over two authentication providers

The latch is set by a sign-in that fails at the primary and is never cleared, while a sign-in goes
to the primary first whatever the latch says. So a sign-in that succeeds at the primary once the
latch is set opens a session that no other operation sees, and a sign-in that fails at both
providers moves the latch all the same.

The provider the latch does not point to is touched by sign-ins only. Whether it holds a user is
decided by the last sign-in.
-/

namespace SkillTalk

namespace MultiAuthService

variable {σ τ ε α : Type}

theorem signInWith_of_ok {primaryCall : EStateM ε σ AuthUser} {backupCall : EStateM ε τ AuthUser}
    {s : MultiAuthState σ τ} {user : AuthUser} {p : σ}
    (hprimary : primaryCall s.primary = .ok user p) :
    signInWith primaryCall backupCall s = .ok user { s with primary := p } := by
  have hcall : onPrimary primaryCall s = .ok user { s with primary := p } := by
    rw [onPrimary, hprimary]
  change EStateM.tryCatch _ _ s = _
  rw [EStateM.tryCatch, hcall]

theorem signInWith_of_error {primaryCall : EStateM ε σ AuthUser}
    {backupCall : EStateM ε τ AuthUser} {s : MultiAuthState σ τ} {error : ε} {p : σ}
    (hprimary : primaryCall s.primary = .error error p) :
    signInWith primaryCall backupCall s
      = onBackup backupCall { s with primary := p, useBackup := true } := by
  have hcall : onPrimary primaryCall s = .error error { s with primary := p } := by
    rw [onPrimary, hprimary]
  change EStateM.tryCatch _ _ s = _
  rw [EStateM.tryCatch, hcall]
  rfl

theorem stateAfter_onBackup (call : EStateM ε τ α) (s : MultiAuthState σ τ) :
    stateAfter (onBackup call) s = { s with backup := stateAfter call s.backup } := by
  unfold stateAfter onBackup
  cases call s.backup <;> rfl

theorem stateAfter_onPrimary (call : EStateM ε σ α) (s : MultiAuthState σ τ) :
    stateAfter (onPrimary call) s = { s with primary := stateAfter call s.primary } := by
  unfold stateAfter onPrimary
  cases call s.primary <;> rfl

theorem stateAfter_routed (primaryCall : EStateM ε σ α) (backupCall : EStateM ε τ α)
    (s : MultiAuthState σ τ) :
    stateAfter (routed primaryCall backupCall) s
      = if s.useBackup then { s with backup := stateAfter backupCall s.backup }
        else { s with primary := stateAfter primaryCall s.primary } := by
  cases hlatch : s.useBackup with
  | true =>
      have hcall : stateAfter (routed primaryCall backupCall) s
          = stateAfter (onBackup backupCall) s := by
        rw [stateAfter, stateAfter, routed, if_pos hlatch]
      rw [hcall, stateAfter_onBackup, if_pos rfl, hlatch]
  | false =>
      have hcall : stateAfter (routed primaryCall backupCall) s
          = stateAfter (onPrimary primaryCall) s := by
        rw [stateAfter, stateAfter, routed, hlatch]
        rfl
      rw [hcall, stateAfter_onPrimary, hlatch]
      rfl

theorem tryCatch_throw (call : EStateM ε σ α) :
    (tryCatch call fun error => throw error) = call := by
  funext s
  change EStateM.tryCatch _ _ s = _
  unfold EStateM.tryCatch
  cases hcall : call s with
  | ok value t => rfl
  | error error t => rfl

end MultiAuthService

open MultiAuthService

variable {σ τ ε : Type} (primary : AuthServiceProtocol σ ε) (backup : AuthServiceProtocol τ ε)

theorem signIn_eq (method : SignInMethod) :
    (multiAuthService primary backup).signIn method
      = signInWith (primary.signIn method) (backup.signIn method) := by
  cases method <;> rfl

theorem perform_of_not_signIn {operation : AuthOperation} (h : operation.isSignIn = false)
    (s : MultiAuthState σ τ) :
    (multiAuthService primary backup).perform s operation
      = if s.useBackup then { s with backup := backup.perform s.backup operation }
        else { s with primary := primary.perform s.primary operation } := by
  cases operation with
  | signIn method => cases h
  | signOut =>
      have hcall : (multiAuthService primary backup).signOut
          = routed primary.signOut backup.signOut := tryCatch_throw _
      rw [AuthServiceProtocol.perform, hcall]
      exact stateAfter_routed _ _ s
  | refreshTokenIfNeeded => exact stateAfter_routed _ _ s
  | getIDToken forceRefresh => exact stateAfter_routed _ _ s
  | enableBiometric user => exact stateAfter_routed _ _ s
  | authenticateWithBiometric => exact stateAfter_routed _ _ s
  | restoreSession => exact stateAfter_routed _ _ s

def ReportsSignIn (s : MultiAuthState σ τ) : AuthOperation → Prop
  | .signIn method =>
      ∀ user t, (multiAuthService primary backup).signIn method s = .ok user t →
        (multiAuthService primary backup).currentUser t = some user
          ∧ (multiAuthService primary backup).isSignedIn t = true
  | _ => True

/-- A sign-in that succeeds at the primary although the latch is set is for the user the backup
already holds. -/
def LatchAgrees (s : MultiAuthState σ τ) : AuthOperation → Prop
  | .signIn method =>
      ∀ user p, s.useBackup = true → primary.signIn method s.primary = .ok user p →
        backup.currentUser s.backup = some user ∧ backup.isSignedIn s.backup = true
  | _ => True

def FailsInert (s : MultiAuthState σ τ) : AuthOperation → Prop
  | .signIn method =>
      ∀ error t, (multiAuthService primary backup).signIn method s = .error error t →
        (multiAuthService primary backup).currentUser t
            = (multiAuthService primary backup).currentUser s
          ∧ (multiAuthService primary backup).isSignedIn t
            = (multiAuthService primary backup).isSignedIn s
          ∧ t.useBackup = s.useBackup
  | _ => True

def LatchedBefore (s : MultiAuthState σ τ) : AuthOperation → Prop
  | .signIn method =>
      ∀ error error' p b, primary.signIn method s.primary = .error error p →
        backup.signIn method s.backup = .error error' b → s.useBackup = true
  | _ => True

variable {primary backup}

theorem reportsSignIn_iff (hprimary : primary.SetsUser) (hbackup : backup.SetsUser)
    (s : MultiAuthState σ τ) (operation : AuthOperation) :
    ReportsSignIn primary backup s operation ↔ LatchAgrees primary backup s operation := by
  cases operation with
  | signIn method =>
      simp only [ReportsSignIn, LatchAgrees, signIn_eq]
      cases hcall : primary.signIn method s.primary with
      | ok user p =>
          obtain ⟨hcurrent, hsigned⟩ := hprimary method s.primary user p hcall
          rw [signInWith_of_ok hcall]
          constructor
          · intro h user' p' hlatch hok
            cases hok
            simpa [multiAuthService, hlatch] using h user _ rfl
          · intro h user' t hok
            cases hok
            cases hlatch : s.useBackup with
            | true => simpa [multiAuthService, hlatch] using h user p hlatch rfl
            | false => simp [multiAuthService, hcurrent, hsigned]
      | error error p =>
          rw [signInWith_of_error hcall, onBackup]
          refine iff_of_true ?_ (fun user p' _ hok => by cases hok)
          intro user t hok
          cases hsecond : backup.signIn method s.backup with
          | ok user' b =>
              obtain ⟨hcurrent, hsigned⟩ := hbackup method s.backup user' b hsecond
              rw [hsecond] at hok
              cases hok
              simp [multiAuthService, hcurrent, hsigned]
          | error error' b =>
              rw [hsecond] at hok
              cases hok
  | _ => exact Iff.rfl

theorem failsInert_iff (hbackup : backup.KeepsSession)
    (s : MultiAuthState σ τ) (operation : AuthOperation) :
    FailsInert primary backup s operation ↔ LatchedBefore primary backup s operation := by
  cases operation with
  | signIn method =>
      simp only [FailsInert, LatchedBefore, signIn_eq]
      cases hcall : primary.signIn method s.primary with
      | ok user p =>
          rw [signInWith_of_ok hcall]
          exact iff_of_true (fun error t h => by cases h) (fun error error' p b h => by cases h)
      | error error p =>
          rw [signInWith_of_error hcall, onBackup]
          cases hsecond : backup.signIn method s.backup with
          | ok user b =>
              exact iff_of_true (fun error t h => by cases h)
                (fun error error' p b _ h => by cases h)
          | error error' b =>
              obtain ⟨hcurrent, hsigned⟩ := hbackup method s.backup error' b hsecond
              constructor
              · intro h _ _ _ _ _ _
                exact (h error' _ rfl).2.2.symm
              · intro h error'' t herror
                cases herror
                have hlatch : s.useBackup = true := h error error' p b rfl rfl
                simp [multiAuthService, hlatch, hcurrent, hsigned]
  | _ => exact Iff.rfl

variable (primary) in
/-- The sign-in leaves no user at the provider the latch does not point to: it succeeds at the
primary with the latch clear, or fails there and leaves the primary without a user. -/
def LeavesOneSession (s : MultiAuthState σ τ) : AuthOperation → Prop
  | .signIn method =>
      match primary.signIn method s.primary with
      | .ok _ _ => s.useBackup = false
      | .error _ p => primary.currentUser p = none
  | _ => True

variable (primary backup) in
def OtherSignedOut (s : MultiAuthState σ τ) : Prop :=
  if s.useBackup then primary.currentUser s.primary = none else backup.currentUser s.backup = none

variable (backup) in
def BackupUnused (s : MultiAuthState σ τ) : Prop :=
  s.useBackup = false → backup.currentUser s.backup = none

theorem perform_signIn_of_ok {s : MultiAuthState σ τ} {method : SignInMethod} {user : AuthUser}
    {p : σ} (hcall : primary.signIn method s.primary = .ok user p) :
    (multiAuthService primary backup).perform s (.signIn method) = { s with primary := p } := by
  rw [AuthServiceProtocol.perform, signIn_eq, stateAfter, signInWith_of_ok hcall]

theorem perform_signIn_of_error {s : MultiAuthState σ τ} {method : SignInMethod} {error : ε}
    {p : σ} (hcall : primary.signIn method s.primary = .error error p) :
    (multiAuthService primary backup).perform s (.signIn method)
      = ⟨p, stateAfter (backup.signIn method) s.backup, true⟩ := by
  have hbackup := stateAfter_onBackup (backup.signIn method)
    ({ s with primary := p, useBackup := true } : MultiAuthState σ τ)
  rw [← hbackup, AuthServiceProtocol.perform, signIn_eq, stateAfter, stateAfter,
    signInWith_of_error hcall]

theorem BackupUnused.perform {s : MultiAuthState σ τ} (hs : BackupUnused backup s)
    (operation : AuthOperation) :
    BackupUnused backup ((multiAuthService primary backup).perform s operation) := by
  cases hsign : operation.isSignIn with
  | true =>
      obtain ⟨method, rfl⟩ : ∃ method, operation = .signIn method := by
        cases operation with
        | signIn method => exact ⟨method, rfl⟩
        | _ => cases hsign
      cases hcall : primary.signIn method s.primary with
      | ok user p =>
          rw [perform_signIn_of_ok hcall]
          exact hs
      | error error p =>
          rw [perform_signIn_of_error hcall]
          intro hlatch
          cases hlatch
  | false =>
      rw [perform_of_not_signIn primary backup hsign]
      intro hlatch
      cases h : s.useBackup with
      | true => simp [h] at hlatch
      | false => simpa [h] using hs h

theorem otherSignedOut_signIn_iff (hprimary : primary.SetsUser) {s : MultiAuthState σ τ}
    (hs : BackupUnused backup s) (method : SignInMethod) :
    OtherSignedOut primary backup ((multiAuthService primary backup).perform s (.signIn method))
      ↔ LeavesOneSession primary s (.signIn method) := by
  cases hcall : primary.signIn method s.primary with
  | ok user p =>
      obtain ⟨hcurrent, _⟩ := hprimary method s.primary user p hcall
      rw [perform_signIn_of_ok hcall]
      simp only [LeavesOneSession, hcall]
      cases hlatch : s.useBackup with
      | true => simp [OtherSignedOut, hcurrent]
      | false => simpa [OtherSignedOut] using hs hlatch
  | error error p =>
      rw [perform_signIn_of_error hcall]
      simp [OtherSignedOut, LeavesOneSession, hcall]

theorem otherSignedOut_of_not_signIn {s : MultiAuthState σ τ} {operation : AuthOperation}
    (hsign : operation.isSignIn = false) :
    OtherSignedOut primary backup ((multiAuthService primary backup).perform s operation)
      ↔ OtherSignedOut primary backup s := by
  rw [perform_of_not_signIn primary backup hsign]
  cases hlatch : s.useBackup <;> simp [OtherSignedOut, hlatch]

theorem signedOut_iff_of_signOut (hprimary : primary.ClearsUser) (hbackup : backup.ClearsUser)
    {s t : MultiAuthState σ τ} (hsignOut : (multiAuthService primary backup).signOut s = .ok () t) :
    primary.currentUser t.primary = none ∧ backup.currentUser t.backup = none
      ↔ OtherSignedOut primary backup s := by
  have hcall : (multiAuthService primary backup).signOut
      = routed primary.signOut backup.signOut := tryCatch_throw _
  rw [hcall] at hsignOut
  cases hlatch : s.useBackup with
  | true =>
      rw [routed, if_pos hlatch, onBackup] at hsignOut
      cases hout : backup.signOut s.backup with
      | ok value b =>
          rw [hout] at hsignOut
          cases hsignOut
          simp [OtherSignedOut, hlatch, hbackup s.backup b hout]
      | error error b =>
          rw [hout] at hsignOut
          cases hsignOut
  | false =>
      rw [routed, hlatch, if_neg Bool.false_ne_true, onPrimary] at hsignOut
      cases hout : primary.signOut s.primary with
      | ok value p =>
          rw [hout] at hsignOut
          cases hsignOut
          simp [OtherSignedOut, hlatch, hprimary s.primary p hout]
      | error error p =>
          rw [hout] at hsignOut
          cases hsignOut

theorem otherSignedOut_iff_last (hset : primary.SetsUser) {s t : MultiAuthState σ τ}
    {operations : List AuthOperation} (hs : BackupUnused backup s)
    (hexec : (authSessions primary backup).exec s operations = some t) :
    OtherSignedOut primary backup t
      ↔ (((authSessions primary backup).transitions s operations).filter
            fun x => x.2.1.isSignIn).getLast?.elim (OtherSignedOut primary backup s)
          fun x => LeavesOneSession primary x.1 x.2.1 := by
  refine Machine.exec_iff_last (BackupUnused backup) AuthOperation.isSignIn ?_ ?_ ?_ hexec hs
  · intro s operation t hstep hs
    obtain rfl := Option.some.inj hstep
    exact hs.perform operation
  · intro s operation t hstep hs hsign
    obtain rfl := Option.some.inj hstep
    cases operation with
    | signIn method => exact otherSignedOut_signIn_iff hset hs method
    | _ => cases hsign
  · intro s operation t hstep _ hsign
    obtain rfl := Option.some.inj hstep
    exact otherSignedOut_of_not_signIn hsign

/-- The sign-in of a provider that knows a user for some methods. By another method it throws and
changes nothing. -/
def accountSignIn (accounts : SignInMethod → Option AuthUser) (method : SignInMethod) :
    EStateM String (Option AuthUser) AuthUser := fun current =>
  match accounts method with
  | some user => .ok user (some user)
  | none => .error "no account" current

def accountAuth (accounts : SignInMethod → Option AuthUser) :
    AuthServiceProtocol (Option AuthUser) String where
  currentUser current := current
  isSignedIn current := current.isSome
  signInWithApple := accountSignIn accounts .apple
  signInWithGoogle := accountSignIn accounts .google
  signInWithFacebook := accountSignIn accounts .facebook
  signInWithEmail email password := accountSignIn accounts (.email email password)
  signInWithPhone phoneNumber otp := accountSignIn accounts (.phone phoneNumber otp)
  signOut := modify fun _ => none
  refreshTokenIfNeeded := pure ()
  getIDToken _ := pure none
  enableBiometric _ := pure ()
  authenticateWithBiometric := pure false
  restoreSession := pure ()

theorem accountAuth_signIn (accounts : SignInMethod → Option AuthUser) (method : SignInMethod) :
    (accountAuth accounts).signIn method = accountSignIn accounts method := by
  cases method <;> rfl

theorem accountAuth_setsUser (accounts : SignInMethod → Option AuthUser) :
    (accountAuth accounts).SetsUser := by
  intro method current user t hok
  rw [accountAuth_signIn, accountSignIn] at hok
  split at hok <;> cases hok
  exact ⟨rfl, rfl⟩

theorem accountAuth_keepsSession (accounts : SignInMethod → Option AuthUser) :
    (accountAuth accounts).KeepsSession := by
  intro method current error t herror
  rw [accountAuth_signIn, accountSignIn] at herror
  split at herror <;> cases herror
  exact ⟨rfl, rfl⟩

theorem accountAuth_clearsUser (accounts : SignInMethod → Option AuthUser) :
    (accountAuth accounts).ClearsUser := by
  intro current t hok
  cases hok
  rfl

def alice : AuthUser := ⟨"alice", none, none, none, false, "apple.com"⟩

def bob : AuthUser := ⟨"bob", none, none, none, false, "google.com"⟩

/-- Knows alice, by Apple. -/
def aliceAuth : AuthServiceProtocol (Option AuthUser) String :=
  accountAuth fun method => if method = .apple then some alice else none

/-- Knows bob, by Google. -/
def bobAuth : AuthServiceProtocol (Option AuthUser) String :=
  accountAuth fun method => if method = .google then some bob else none

def noAuth : AuthServiceProtocol (Option AuthUser) String := accountAuth fun _ => none

def signedOutState : MultiAuthState (Option AuthUser) (Option AuthUser) := ⟨none, none, false⟩

/-- **A run reports every user it signs in exactly when** each sign-in that succeeds at the primary
with the latch set is for the user the backup holds. -/
theorem signIn_reported_iff (hprimary : primary.SetsUser) (hbackup : backup.SetsUser)
    (s : MultiAuthState σ τ) (operations : List AuthOperation) :
    (∀ x ∈ (authSessions primary backup).transitions s operations,
        ReportsSignIn primary backup x.1 x.2.1)
      ↔ ∀ x ∈ (authSessions primary backup).transitions s operations,
          LatchAgrees primary backup x.1 x.2.1 :=
  forall₂_congr fun x _ => reportsSignIn_iff hprimary hbackup x.1 x.2.1

theorem signIn_reported_of_backup :
    aliceAuth.SetsUser
      ∧ ∀ x ∈ (authSessions noAuth aliceAuth).transitions signedOutState [.signIn .apple],
        ReportsSignIn noAuth aliceAuth x.1 x.2.1 := by
  refine ⟨accountAuth_setsUser _, ?_⟩
  refine (signIn_reported_iff (accountAuth_setsUser _) (accountAuth_setsUser _) _ _).mpr ?_
  intro x hx
  obtain rfl := List.mem_singleton.mp hx
  intro user p hlatch
  cases hlatch

/-- The primary refuses alice, who signs in at the backup. Then bob signs in at the primary, and the
current user is alice. -/
theorem signIn_not_reported :
    bobAuth.SetsUser ∧ bobAuth.KeepsSession ∧ aliceAuth.SetsUser ∧ aliceAuth.KeepsSession
      ∧ ¬ ∀ x ∈ (authSessions bobAuth aliceAuth).transitions signedOutState
          [.signIn .apple, .signIn .google],
        ReportsSignIn bobAuth aliceAuth x.1 x.2.1 := by
  refine ⟨accountAuth_setsUser _, accountAuth_keepsSession _, accountAuth_setsUser _,
    accountAuth_keepsSession _, fun h => ?_⟩
  have hbob := (h _ (List.mem_cons_of_mem _ List.mem_cons_self) bob _ rfl).1
  revert hbob
  decide

/-- **The failed sign-ins of a run change nothing exactly when** each finds the latch set. -/
theorem failed_signIn_inert_iff (hbackup : backup.KeepsSession) (s : MultiAuthState σ τ)
    (operations : List AuthOperation) :
    (∀ x ∈ (authSessions primary backup).transitions s operations,
        FailsInert primary backup x.1 x.2.1)
      ↔ ∀ x ∈ (authSessions primary backup).transitions s operations,
          LatchedBefore primary backup x.1 x.2.1 :=
  forall₂_congr fun x _ => failsInert_iff hbackup x.1 x.2.1

theorem failed_signIn_inert_of_latch :
    aliceAuth.KeepsSession
      ∧ ∀ x ∈ (authSessions noAuth aliceAuth).transitions signedOutState
          [.signIn .apple, .signIn .google],
        FailsInert noAuth aliceAuth x.1 x.2.1 := by
  refine ⟨accountAuth_keepsSession _, ?_⟩
  refine (failed_signIn_inert_iff (accountAuth_keepsSession _) _ _).mpr ?_
  intro x hx
  rcases List.mem_cons.mp hx with rfl | hx
  · intro error error' p b _ hsecond
    cases hsecond
  · obtain rfl := List.mem_singleton.mp hx
    intro error error' p b _ _
    rfl

/-- Alice is signed in at the primary when a second sign-in fails at both providers. Then nobody is
signed in. -/
theorem failed_signIn_not_inert :
    aliceAuth.KeepsSession ∧ noAuth.KeepsSession
      ∧ ¬ ∀ x ∈ (authSessions aliceAuth noAuth).transitions signedOutState
          [.signIn .apple, .signIn .google],
        FailsInert aliceAuth noAuth x.1 x.2.1 := by
  refine ⟨accountAuth_keepsSession _, accountAuth_keepsSession _, fun h => ?_⟩
  have halice := (h _ (List.mem_cons_of_mem _ List.mem_cons_self) "no account" _ rfl).1
  revert halice
  decide

/-- **A sign-out ends every session exactly when** the last sign-in before it leaves no user at the
provider the latch does not point to. -/
theorem signOut_ends_sessions_iff (hset : primary.SetsUser) (hprimary : primary.ClearsUser)
    (hbackup : backup.ClearsUser) {s t u : MultiAuthState σ τ} {operations : List AuthOperation}
    (hlatch : s.useBackup = false) (hs : backup.currentUser s.backup = none)
    (hexec : (authSessions primary backup).exec s operations = some t)
    (hsignOut : (multiAuthService primary backup).signOut t = .ok () u) :
    primary.currentUser u.primary = none ∧ backup.currentUser u.backup = none
      ↔ ∀ x ∈ (((authSessions primary backup).transitions s operations).filter
            fun x => x.2.1.isSignIn).getLast?,
          LeavesOneSession primary x.1 x.2.1 := by
  have hstart : OtherSignedOut primary backup s := by
    rwa [OtherSignedOut, hlatch, if_neg Bool.false_ne_true]
  rw [signedOut_iff_of_signOut hprimary hbackup hsignOut,
    otherSignedOut_iff_last hset (fun _ => hs) hexec]
  cases (((authSessions primary backup).transitions s operations).filter
    fun x => x.2.1.isSignIn).getLast? with
  | none => simpa using hstart
  | some x => simp

theorem signOut_ends_sessions_of_backup :
    ∃ t u, (authSessions noAuth aliceAuth).exec signedOutState [.signIn .apple] = some t
      ∧ (multiAuthService noAuth aliceAuth).signOut t = .ok () u
      ∧ noAuth.currentUser u.primary = none ∧ aliceAuth.currentUser u.backup = none := by
  obtain ⟨t, hexec⟩ : ∃ t, (authSessions noAuth aliceAuth).exec signedOutState
      [.signIn .apple] = some t := ⟨_, rfl⟩
  obtain ⟨u, hsignOut⟩ : ∃ u, (multiAuthService noAuth aliceAuth).signOut t = .ok () u := by
    obtain rfl := Option.some.inj hexec
    exact ⟨_, rfl⟩
  refine ⟨t, u, hexec, hsignOut, ?_⟩
  refine (signOut_ends_sessions_iff (accountAuth_setsUser _) (accountAuth_clearsUser _)
    (accountAuth_clearsUser _) rfl rfl hexec hsignOut).mpr ?_
  intro x hx
  cases hx
  rfl

/-- Alice signs in at the primary. The primary then refuses bob, who signs in at the backup and out
again. Alice is still signed in. -/
theorem signOut_leaves_session :
    aliceAuth.SetsUser ∧ aliceAuth.ClearsUser ∧ bobAuth.SetsUser ∧ bobAuth.ClearsUser
      ∧ ∃ t u, (authSessions aliceAuth bobAuth).exec signedOutState
          [.signIn .apple, .signIn .google] = some t
        ∧ (multiAuthService aliceAuth bobAuth).signOut t = .ok () u
        ∧ aliceAuth.currentUser u.primary = some alice :=
  ⟨accountAuth_setsUser _, accountAuth_clearsUser _, accountAuth_setsUser _,
    accountAuth_clearsUser _, _, _, rfl, rfl, rfl⟩

end SkillTalk
