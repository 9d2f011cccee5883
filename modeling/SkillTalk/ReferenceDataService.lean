import SkillTalk.Library.Clock
import SkillTalk.Library.Machine
import SkillTalk.ServiceTypes

/-!
# Synchronizing reference data

A call of `syncWithServer` returns at once or sends a request, and the server's answer may arrive
any number of steps later. From its arrival to the call's return there is no suspension. Dates count
from the reference date.
-/

namespace SkillTalk

def Date.distantPast : Date := -63114076800

structure SyncResult where
  success : Bool
  itemsUpdated : Int
  lastSync : Date
  errors : Option (List String)
  deriving DecidableEq

/-- What the session comes to. A response has no status code if it is not an `HTTPURLResponse`. -/
inductive SyncAnswer (Body ε : Type) where
  | failed (error : ε)
  | response (statusCode : Option Int) (body : Body)

/-- What a call throws: what the session threw, `ReferenceDataError.serverError`, or what the
decoder threw. -/
inductive SyncFailure (ε : Type) where
  | session (error : ε)
  | serverError (message : String)
  | decoding (error : ε)
  deriving DecidableEq

structure ReferenceDataService (ε : Type) where
  -- the date under `lastSyncKey` in the user defaults
  lastSync : Option Date
  reads : ℕ
  -- the calls that wait for the server
  waiting : ℕ
  returns : List (Except (SyncFailure ε) SyncResult)
  -- a ghost: when the latest call that the server answered with success returned
  lastSuccess : Option Date

inductive SyncAction (Body ε : Type) where
  | call
  | answer (answer : SyncAnswer Body ε)

namespace ReferenceDataService

def syncInterval : TimeInterval := 86400

variable {Body ε : Type} (clock : Clock Date) (decode : Body → Except ε SyncResult)

def initial : ReferenceDataService ε where
  lastSync := none
  reads := 0
  waiting := 0
  returns := []
  lastSuccess := none

/-- `syncWithServer` up to its return or its request. -/
def syncWithServer (s : ReferenceDataService ε) : ReferenceDataService ε :=
  let lastSync := s.lastSync.getD .distantPast
  if clock.reading s.reads - lastSync < syncInterval then
    { s with
      reads := s.reads + 1
      returns := s.returns ++ [.ok ⟨true, 0, lastSync, none⟩] }
  else { s with reads := s.reads + 1, waiting := s.waiting + 1 }

def performServerSync : SyncAnswer Body ε → Except (SyncFailure ε) SyncResult
  | .failed error => .error (.session error)
  | .response statusCode body =>
      if statusCode ≠ some 200 then .error (.serverError "Failed to sync with server")
      else (decode body).mapError .decoding

/-- A call from the answer to its return. -/
def receive (s : ReferenceDataService ε) (answer : SyncAnswer Body ε) : ReferenceDataService ε :=
  match performServerSync decode answer with
  | .error error => { s with returns := s.returns ++ [.error error] }
  | .ok syncResult =>
      let now := clock.reading s.reads
      { s with
        lastSync := some now
        reads := s.reads + 1
        returns := s.returns ++ [.ok syncResult]
        lastSuccess := if syncResult.success then some now else s.lastSuccess }

def step (s : ReferenceDataService ε) : SyncAction Body ε → Option (ReferenceDataService ε)
  | .call => some (s.syncWithServer clock)
  | .answer answer =>
      if s.waiting = 0 then none
      else some (receive clock decode { s with waiting := s.waiting - 1 } answer)

end ReferenceDataService

def referenceSync {Body ε : Type} (clock : Clock Date) (decode : Body → Except ε SyncResult) :
    Machine (ReferenceDataService ε) (SyncAction Body ε) where
  Init s := s = ReferenceDataService.initial
  step := ReferenceDataService.step clock decode

end SkillTalk
