import SkillTalk.Library.Machine
import SkillTalk.Library.SwitchLog
import SkillTalk.ServiceHealthMonitor

/-!
# The service failover manager

`FailoverWorld` holds the manager's own state, the health monitor it reads, what both have posted,
and the work the main actor still has to run: the tasks of posted notifications and fired timers,
and the failbacks suspended in their sleep. A main-actor job runs undisturbed up to its next
suspension, and the only suspension is the sleep of `considerRecoveryFailback`; so a step of the
machine below is one such job, and jobs interleave in any order.

Every call of `Date()` takes the next reading of the clock, as do arming a timer, firing it and
starting and ending a sleep. Nothing bounds a sleep or a late timer from above.
-/

namespace SkillTalk

structure FailoverEvent where
  serviceType : ServiceType
  fromProvider : ServiceProvider
  toProvider : ServiceProvider
  reason : String
  timestamp : Date
  isAutomatic : Bool
  deriving DecidableEq

def providerPairs : List (ServiceType × ProviderPair) :=
  [(.authentication, { primary := .firebase, backup := .supabase }),
    (.database, { primary := .firebase, backup := .supabase }),
    (.storage, { primary := .firebase, backup := .cloudflareR2 }),
    (.realtime, { primary := .firebase, backup := .pusher }),
    (.voiceVideo, { primary := .agora, backup := .dailyco }),
    (.translation, { primary := .libreTranslate, backup := .deepL }),
    (.pushNotifications, { primary := .fcm, backup := .onesignal })]

def providerPair (serviceType : ServiceType) : Option ProviderPair :=
  providerPairs.lookup serviceType

/-- An order in which a loop may enumerate the dictionary `providerPairs`. -/
structure PairOrder where
  entries : List (ServiceType × ProviderPair)
  perm : entries.Perm providerPairs

def PairOrder.written : PairOrder := ⟨providerPairs, .refl _⟩

def cooldownDuration : TimeInterval := 300

def recoveryCheckInterval : TimeInterval := 60

def failbackDelay : TimeInterval := 30

def maxFailoverHistory : ℕ := 50

structure FailoverStats where
  totalFailovers : ℤ
  automaticFailovers : ℤ
  manualFailovers : ℤ
  recentFailovers : ℤ
  activeBackupServices : ℤ
  deriving DecidableEq, Repr

structure RecoveryTimer where
  fireDate : Date
  deriving DecidableEq

/-- A suspended run of `considerRecoveryFailback`: the entry it sleeps for, the entries its loop has
not come to yet, and when the sleep may end. -/
structure FailbackTask where
  recoveredProvider : ServiceProvider
  serviceType : ServiceType
  providerPair : ProviderPair
  remaining : List (ServiceType × ProviderPair)
  wakeDate : Date
  deriving DecidableEq

structure FailoverWorld where
  activeProviders : ServiceType → Option ServiceProvider
  failoverHistory : List FailoverEvent
  failoverCooldowns : ServiceType → Option Date
  recoveryTimers : ServiceProvider → Option RecoveryTimer
  healthMonitor : ServiceHealthMonitor
  -- readings taken of the clock
  reads : ℕ
  -- posted as `.serviceFailoverCompleted`, oldest first
  completed : List FailoverEvent
  -- posted as `.serviceRecovered`, oldest first
  recovered : List ServiceHealthNotification
  -- posted as `.serviceFailoverNeeded`, their tasks not yet run
  degradations : List ServiceHealthNotification
  -- providers whose timer has fired and whose check has not yet run
  recoveryChecks : List ServiceProvider
  failbacks : List FailbackTask

namespace FailoverWorld

def setupFailoverManager (serviceType : ServiceType) : Option ServiceProvider :=
  (providerPair serviceType).map ProviderPair.primary

def initial (clock : Clock Date) : FailoverWorld where
  activeProviders := setupFailoverManager
  failoverHistory := []
  failoverCooldowns _ := none
  recoveryTimers _ := none
  healthMonitor := ServiceHealthMonitor.setupHealthMonitoring clock
  reads := ServiceProvider.allCases.length
  completed := []
  recovered := []
  degradations := []
  recoveryChecks := []
  failbacks := []

def getActiveProvider (w : FailoverWorld) (serviceType : ServiceType) : ServiceProvider :=
  ((w.activeProviders serviceType).or ((providerPair serviceType).map ProviderPair.primary)).getD
    .firebase

def inCooldown (w : FailoverWorld) (now : Date) (serviceType : ServiceType) : Bool :=
  match w.failoverCooldowns serviceType with
  | some lastFailover => now - lastFailover < cooldownDuration
  | none => false

variable (clock : Clock Date)

def startRecoveryMonitoring (w : FailoverWorld) (provider : ServiceProvider) : FailoverWorld :=
  { w with
    recoveryTimers := Function.update w.recoveryTimers provider
      (some { fireDate := clock.reading w.reads + recoveryCheckInterval })
    reads := w.reads + 1 }

def notifyFailover (w : FailoverWorld) (event : FailoverEvent) : FailoverWorld :=
  { w with completed := w.completed ++ [event] }

def notifyRecovery (w : FailoverWorld) (provider : ServiceProvider) : FailoverWorld :=
  { w with
    recovered := w.recovered ++
      [{ type := .serviceRecovered
         provider
         message := "Service has recovered and is healthy"
         timestamp := clock.reading w.reads }]
    reads := w.reads + 1 }

/-- The part of `performFailover` behind its cooldown check. -/
def switchProvider (w : FailoverWorld) (serviceType : ServiceType)
    (sourceProvider targetProvider : ServiceProvider) (reason : String) (isAutomatic : Bool) :
    FailoverWorld :=
  let event : FailoverEvent :=
    { serviceType
      fromProvider := sourceProvider
      toProvider := targetProvider
      reason
      timestamp := clock.reading w.reads
      isAutomatic }
  let history := w.failoverHistory ++ [event]
  let switched : FailoverWorld :=
    { w with
      activeProviders := Function.update w.activeProviders serviceType (some targetProvider)
      failoverHistory :=
        if history.length > maxFailoverHistory then history.rtake maxFailoverHistory else history
      failoverCooldowns := Function.update w.failoverCooldowns serviceType
        (some (clock.reading (w.reads + 1)))
      reads := w.reads + 2 }
  (switched.startRecoveryMonitoring clock sourceProvider).notifyFailover event

/-- The check takes a reading. The source skips it when the type has no cooldown entry; a reading
skipped and a reading not looked at are the same thing. -/
def performFailover (w : FailoverWorld) (serviceType : ServiceType)
    (sourceProvider targetProvider : ServiceProvider) (reason : String) (isAutomatic : Bool) :
    FailoverWorld :=
  let checked := { w with reads := w.reads + 1 }
  if w.inCooldown (clock.reading w.reads) serviceType then checked
  else checked.switchProvider clock serviceType sourceProvider targetProvider reason isAutomatic

def triggerFailover (w : FailoverWorld) (serviceType : ServiceType) (reason : String) :
    FailoverWorld :=
  match SkillTalk.providerPair serviceType with
  | none => w
  | some pair =>
      let currentProvider := w.getActiveProvider serviceType
      let targetProvider := if currentProvider = pair.primary then pair.backup else pair.primary
      w.performFailover clock serviceType currentProvider targetProvider reason false

/-- One iteration of the loop of `handleHealthDegradation`. -/
def degradeEntry (notification : ServiceHealthNotification) (w : FailoverWorld)
    (entry : ServiceType × ProviderPair) : FailoverWorld :=
  if w.getActiveProvider entry.1 = notification.provider then
    let targetProvider :=
      if notification.provider = entry.2.primary then entry.2.backup else entry.2.primary
    w.performFailover clock entry.1 notification.provider targetProvider notification.message true
  else w

def handleHealthDegradation (order : PairOrder) (w : FailoverWorld)
    (notification : ServiceHealthNotification) : FailoverWorld :=
  order.entries.foldl (degradeEntry clock notification) w

/-- The loop of `considerRecoveryFailback` over the given entries, up to its next sleep. When the
loop ends, the `checkProviderRecovery` that awaits it posts the recovery. -/
def considerRecoveryFailback (w : FailoverWorld) (recoveredProvider : ServiceProvider) :
    List (ServiceType × ProviderPair) → FailoverWorld
  | [] => w.notifyRecovery clock recoveredProvider
  | (serviceType, providerPair) :: remaining =>
      if providerPair.primary = recoveredProvider
          ∧ w.getActiveProvider serviceType = providerPair.backup then
        { w with
          failbacks := w.failbacks ++
            [{ recoveredProvider, serviceType, providerPair, remaining
               wakeDate := clock.reading w.reads + failbackDelay }]
          reads := w.reads + 1 }
      else w.considerRecoveryFailback recoveredProvider remaining

def hasRecovered (health : ServiceHealth) : Bool :=
  health.status = .healthy ∧ health.errorRate < 1 / 20 ∧ health.responseTime < 2

def checkProviderRecovery (order : PairOrder) (w : FailoverWorld) (provider : ServiceProvider) :
    FailoverWorld :=
  match w.healthMonitor.getHealth provider with
  | none => w
  | some health =>
      if hasRecovered health then
        let stopped := { w with recoveryTimers := Function.update w.recoveryTimers provider none }
        stopped.considerRecoveryFailback clock provider order.entries
      else w

def isHealthy (w : FailoverWorld) (provider : ServiceProvider) : Bool :=
  (w.healthMonitor.getHealth provider).any fun health => health.status = .healthy

/-- The rest of `considerRecoveryFailback` once a sleep has ended. -/
def resumeFailback (w : FailoverWorld) (task : FailbackTask) : FailoverWorld :=
  let switched :=
    if w.isHealthy task.recoveredProvider then
      w.performFailover clock task.serviceType task.providerPair.backup task.recoveredProvider
        "Primary provider recovered" true
    else w
  switched.considerRecoveryFailback clock task.recoveredProvider task.remaining

def updateServiceHealth (w : FailoverWorld) (health : ServiceHealth) : FailoverWorld :=
  let (monitor, posted) := w.healthMonitor.updateServiceHealth clock w.reads health
  { w with
    healthMonitor := monitor
    degradations := w.degradations ++ posted
    reads := w.reads + posted.length }

/-- A repeating timer fires at its date and is due again one interval later; the task it starts runs
`checkProviderRecovery`. -/
def fireTimer (w : FailoverWorld) (provider : ServiceProvider) (timer : RecoveryTimer) :
    FailoverWorld :=
  { w with
    recoveryTimers := Function.update w.recoveryTimers provider
      (some { fireDate := timer.fireDate + recoveryCheckInterval })
    recoveryChecks := w.recoveryChecks ++ [provider]
    reads := w.reads + 1 }

/-- The values of a dictionary come in any order; only their number is taken. -/
def getFailoverStats (w : FailoverWorld) : FailoverStats :=
  let totalFailovers : ℤ := w.failoverHistory.length
  let automaticFailovers : ℤ := (w.failoverHistory.filter fun event => event.isAutomatic).length
  let last24Hours := clock.reading w.reads + -24 * 3600
  { totalFailovers
    automaticFailovers
    manualFailovers := totalFailovers - automaticFailovers
    recentFailovers :=
      (w.failoverHistory.filter fun event => event.timestamp > last24Hours).length
    activeBackupServices := ((ServiceType.allCases.filterMap w.activeProviders).filterMap
      fun provider => if providerPairs.any fun entry => entry.2.backup = provider
        then some provider else none).length }

end FailoverWorld

/-- The jobs of the main actor. Waiting tasks are named by their position, so any of them may run
next. -/
inductive FailoverAction where
  | triggerFailover (serviceType : ServiceType) (reason : String)
  | updateServiceHealth (health : ServiceHealth)
  | handleHealthDegradation (index : ℕ) (order : PairOrder)
  | fireTimer (provider : ServiceProvider)
  | checkProviderRecovery (index : ℕ) (order : PairOrder)
  | resumeFailback (index : ℕ)

namespace FailoverWorld

variable (clock : Clock Date)

def step (w : FailoverWorld) : FailoverAction → Option FailoverWorld
  | .triggerFailover serviceType reason => some (w.triggerFailover clock serviceType reason)
  | .updateServiceHealth health => some (w.updateServiceHealth clock health)
  | .handleHealthDegradation index order =>
      w.degradations[index]?.map
        (handleHealthDegradation clock order
          { w with degradations := w.degradations.eraseIdx index })
  | .fireTimer provider =>
      match w.recoveryTimers provider with
      | none => none
      | some timer =>
          if timer.fireDate ≤ clock.reading w.reads then some (w.fireTimer provider timer) else none
  | .checkProviderRecovery index order =>
      w.recoveryChecks[index]?.map
        (checkProviderRecovery clock order
          { w with recoveryChecks := w.recoveryChecks.eraseIdx index })
  | .resumeFailback index =>
      match w.failbacks[index]? with
      | none => none
      | some task =>
          if task.wakeDate ≤ clock.reading w.reads then
            some (resumeFailback clock
              { w with failbacks := w.failbacks.eraseIdx index, reads := w.reads + 1 } task)
          else none

end FailoverWorld

def failover (clock : Clock Date) : Machine FailoverWorld FailoverAction where
  Init w := w = FailoverWorld.initial clock
  step := FailoverWorld.step clock

end SkillTalk
