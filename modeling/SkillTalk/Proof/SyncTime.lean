import SkillTalk.ReferenceDataService

/-!
# Which synchronizations count

Every answer that decodes is dated as the last synchronization, whatever its success flag says,
while an answer that does not leaves the date alone.
-/

namespace SkillTalk

namespace ReferenceDataService

variable {Body ε : Type} {clock : Clock Date} {decode : Body → Except ε SyncResult}
  {s t : ReferenceDataService ε}

/-- A call sends a request. -/
def Contacts (clock : Clock Date) (s : ReferenceDataService ε) : Prop :=
  (s.syncWithServer clock).waiting = s.waiting + 1

/-- The stored date is that of the latest success, and a call is skipped only within a day of it. -/
structure CountsSuccesses (clock : Clock Date) (s : ReferenceDataService ε) : Prop where
  stored : s.lastSync = s.lastSuccess
  contacts : s.Contacts clock ↔
    syncInterval ≤ clock.reading s.reads - s.lastSuccess.getD .distantPast

/-- An answer that decodes without success arrives only at the very time of the latest success. -/
def Genuine (clock : Clock Date) (decode : Body → Except ε SyncResult)
    (s : ReferenceDataService ε) : SyncAction Body ε → Prop
  | .call => True
  | .answer answer => ∀ syncResult, performServerSync decode answer = .ok syncResult →
      syncResult.success = false → s.lastSuccess = some (clock.reading s.reads)

theorem contacts_iff : s.Contacts clock ↔
    syncInterval ≤ clock.reading s.reads - s.lastSync.getD .distantPast := by
  unfold Contacts syncWithServer
  by_cases hrecent : clock.reading s.reads - s.lastSync.getD .distantPast < syncInterval
  · simp only [if_pos hrecent]
    refine iff_of_false (by omega) ?_
    exact not_le.2 hrecent
  · simp only [if_neg hrecent, true_iff]
    exact not_lt.1 hrecent

theorem countsSuccesses_iff : s.CountsSuccesses clock ↔ s.lastSync = s.lastSuccess := by
  constructor
  · exact CountsSuccesses.stored
  · intro hstored
    refine ⟨hstored, ?_⟩
    rw [contacts_iff, hstored]

theorem syncWithServer_dates (clock : Clock Date) (s : ReferenceDataService ε) :
    (s.syncWithServer clock).lastSync = s.lastSync ∧
      (s.syncWithServer clock).lastSuccess = s.lastSuccess := by
  unfold syncWithServer
  by_cases hrecent : clock.reading s.reads - s.lastSync.getD .distantPast < syncInterval
  · simp only [if_pos hrecent, and_self]
  · simp only [if_neg hrecent, and_self]

theorem receive_of_error (clock : Clock Date) (s : ReferenceDataService ε)
    {answer : SyncAnswer Body ε} {error : SyncFailure ε}
    (h : performServerSync decode answer = .error error) :
    (receive clock decode s answer).lastSync = s.lastSync ∧
      (receive clock decode s answer).lastSuccess = s.lastSuccess := by
  simp only [receive, h, and_self]

theorem receive_of_ok (clock : Clock Date) (s : ReferenceDataService ε)
    {answer : SyncAnswer Body ε} {syncResult : SyncResult}
    (h : performServerSync decode answer = .ok syncResult) :
    (receive clock decode s answer).lastSync = some (clock.reading s.reads) ∧
      (receive clock decode s answer).lastSuccess =
        if syncResult.success then some (clock.reading s.reads) else s.lastSuccess := by
  simp only [receive, h, and_self]

/-- A step keeps the stored date true exactly when it takes no failure for a success. -/
theorem stored_step_iff {action : SyncAction Body ε} (h : s.step clock decode action = some t)
    (hs : s.lastSync = s.lastSuccess) :
    t.lastSync = t.lastSuccess ↔ s.Genuine clock decode action := by
  cases action with
  | call =>
    obtain rfl := Option.some.inj h
    obtain ⟨hsync, hsuccess⟩ := syncWithServer_dates clock s
    exact iff_of_true (by rw [hsync, hsuccess, hs]) trivial
  | answer answer =>
    obtain ⟨-, h⟩ := Option.ite_none_left_eq_some.1 h
    obtain rfl := Option.some.inj h
    cases hanswer : performServerSync decode answer with
    | error error =>
      obtain ⟨hsync, hsuccess⟩ := receive_of_error clock
        { s with waiting := s.waiting - 1 } hanswer
      refine iff_of_true (by rw [hsync, hsuccess]; exact hs) fun syncResult heq => ?_
      rw [hanswer] at heq
      cases heq
    | ok syncResult =>
      obtain ⟨hsync, hsuccess⟩ := receive_of_ok clock
        { s with waiting := s.waiting - 1 } hanswer
      rw [hsync, hsuccess]
      cases hflag : syncResult.success with
      | true =>
        refine iff_of_true rfl fun other heq hfailed => ?_
        rw [hanswer] at heq
        cases heq
        rw [hflag] at hfailed
        cases hfailed
      | false =>
        constructor
        · intro hsame other _ _
          exact hsame.symm
        · intro hgenuine
          exact (hgenuine syncResult hanswer hflag).symm

/-- **Only successes count** all along a run exactly when no answer decodes without success, other
than at the very time of the latest success. -/
theorem sync_counts_successes_iff (actions : List (SyncAction Body ε)) :
    (∀ x ∈ (referenceSync clock decode).transitions initial actions,
      x.2.2.CountsSuccesses clock) ↔
    ∀ x ∈ (referenceSync clock decode).transitions initial actions,
      x.1.Genuine clock decode x.2.1 := by
  refine Machine.forall_transitions_iff (CountsSuccesses clock) (fun _ => True)
    (fun _ _ _ _ _ _ => trivial) ?_ actions trivial (countsSuccesses_iff.2 rfl)
  intro s action t hstep _ hs
  rw [countsSuccesses_iff]
  exact stored_step_iff hstep hs.stored

/-- The server's answer is the result it holds. -/
def plainBody (body : SyncResult) : Except Unit SyncResult := .ok body

/-- After an answer without success, a call an hour later is skipped. -/
theorem failed_sync_suppresses_next :
    ∃ s, (referenceSync (Clock.ofGaps [0, 0, 3600]) plainBody).Reachable s ∧
      s.lastSuccess = none ∧ s.lastSync = some 0 ∧ ¬s.Contacts (Clock.ofGaps [0, 0, 3600]) := by
  let clock : Clock Date := Clock.ofGaps [0, 0, 3600]
  let suppressed (s : ReferenceDataService Unit) : Bool :=
    decide (s.lastSuccess = none ∧ s.lastSync = some 0 ∧
      (s.syncWithServer clock).waiting ≠ s.waiting + 1)
  obtain ⟨s, hexec, hs⟩ := (Option.any_eq_true suppressed
    ((referenceSync clock plainBody).exec initial
      [.call, .answer (.response (some 200) ⟨false, 0, 0, none⟩)])).mp (by decide +kernel)
  obtain ⟨hsuccess, hsync, hskipped⟩ := of_decide_eq_true hs
  exact ⟨s, Machine.reachable_of_exec rfl hexec, hsuccess, hsync, hskipped⟩

end ReferenceDataService

end SkillTalk
