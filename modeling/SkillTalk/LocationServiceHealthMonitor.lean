import Mathlib.Data.List.MinMax
import SkillTalk.MultiLocationService

/-!
# The health monitor of the location services

`MultiLocationService` hears of the locations its two services publish, and records a success for
each. Its calls go to the primary and, where that throws, to the fallback. The pool below has the
calls that locate and ask for permission, cut at their suspensions: the network, and the
continuation a call of the primary waits for. The bindings are set up before the first of them.

Each call of `Date()` by the monitor takes the next of its own readings of the clock.
-/

namespace SkillTalk

structure LocationServiceHealthMonitor.ServiceHealth where
  successCount : ℕ
  failureCount : ℕ
  lastSuccess : Option Date
  lastFailure : Option Date
  averageResponseTime : TimeInterval
  deriving DecidableEq

structure LocationServiceHealthMonitor where
  serviceHealth : LocationServiceKind → Option LocationServiceHealthMonitor.ServiceHealth

namespace LocationServiceHealthMonitor

namespace ServiceHealth

/-- The record that the first success or failure starts from. -/
def new : ServiceHealth where
  successCount := 0
  failureCount := 0
  lastSuccess := none
  lastFailure := none
  averageResponseTime := 0

/-- The share of successes, 0 where nothing has been tried. -/
def rate (successes failures : ℕ) : ℚ :=
  if 0 < successes + failures then successes / (successes + failures : ℕ) else 0

def successRate (health : ServiceHealth) : ℚ := rate health.successCount health.failureCount

def isHealthy (now : Date) (health : ServiceHealth) : Bool :=
  health.successRate > 4 / 5 ∧ health.lastFailure.all fun lastFailure => now - lastFailure > 300

end ServiceHealth

def initial : LocationServiceHealthMonitor where
  serviceHealth _ := none

def healthOf (monitor : LocationServiceHealthMonitor) (service : LocationServiceKind) :
    ServiceHealth :=
  (monitor.serviceHealth service).getD .new

def recordSuccess (monitor : LocationServiceHealthMonitor) (service : LocationServiceKind)
    (now : Date) : LocationServiceHealthMonitor :=
  let health := monitor.healthOf service
  { serviceHealth := Function.update monitor.serviceHealth service
      (some { health with
        successCount := health.successCount + 1
        lastSuccess := some now }) }

def recordFailure (monitor : LocationServiceHealthMonitor) (service : LocationServiceKind)
    (now : Date) : LocationServiceHealthMonitor :=
  let health := monitor.healthOf service
  { serviceHealth := Function.update monitor.serviceHealth service
      (some { health with
        failureCount := health.failureCount + 1
        lastFailure := some now }) }

/-- The first of the healthy services with the best rate, in the order in which the dictionary has
them; each is judged at its own reading of the clock. -/
def getHealthiestService (monitor : LocationServiceHealthMonitor)
    (now : LocationServiceKind → Date) (order : List LocationServiceKind) :
    Option LocationServiceKind :=
  (order.filter fun service =>
    (monitor.serviceHealth service).any (ServiceHealth.isHealthy (now service))).argmax
      fun service => (monitor.healthOf service).successRate

end LocationServiceHealthMonitor

/-- The service with its monitor, and what its runs are judged by. -/
structure MonitoredLocations where
  service : MultiLocationService
  healthMonitor : LocationServiceHealthMonitor
  -- readings taken of the clock by the monitor
  reads : ℕ
  -- calls in which the service threw
  thrown : LocationServiceKind → ℕ
  -- fixes that the service delivered
  delivered : LocationServiceKind → ℕ

/-- A call, named by what it does next. -/
inductive MonitoredCall where
  | requestPermission
  | requestFallback
  | startTracking
  | primaryStarted
  | startFallback
  | locating
  | fallbackStarted
  | getCurrentLocation
  | awaitingPrimary (continuation : ℕ)
  | locatingFallback
  deriving DecidableEq

namespace MonitoredLocations

def initial : MonitoredLocations where
  service := .initial
  healthMonitor := .initial
  reads := 0
  thrown _ := 0
  delivered _ := 0

def setTracking (w : MonitoredLocations) (isTracking : Bool) : MonitoredLocations :=
  { w with service := { w.service with isTracking := isTracking } }

def setPrimary (w : MonitoredLocations) (primary : CoreLocationService) : MonitoredLocations :=
  { w with service := { w.service with primaryService := primary } }

def setFallback (w : MonitoredLocations) (fallback : IPLocationService) : MonitoredLocations :=
  { w with service := { w.service with fallbackService := fallback } }

/-- The service threw in one more call. -/
def throws (w : MonitoredLocations) (service : LocationServiceKind) : MonitoredLocations :=
  { w with thrown := Function.update w.thrown service (w.thrown service + 1) }

/-- The service delivered so many more fixes. -/
def delivers (w : MonitoredLocations) (service : LocationServiceKind) (fixes : ℕ) :
    MonitoredLocations :=
  { w with delivered := Function.update w.delivered service (w.delivered service + fixes) }

variable (clock : Clock Date)

def recordSuccess (w : MonitoredLocations) (service : LocationServiceKind) : MonitoredLocations :=
  { w with
    healthMonitor := w.healthMonitor.recordSuccess service (clock.reading w.reads)
    reads := w.reads + 1 }

/-- The sinks of the primary's publishers, after the primary came to a new state. -/
def observePrimary (w : MonitoredLocations) (primary : CoreLocationService) : MonitoredLocations :=
  let locations := primary.publishedLocations.drop
    w.service.primaryService.publishedLocations.length
  locations.foldl (fun w _ => w.recordSuccess clock .coreLocation)
    { w with service := w.service.observePrimary primary }

/-- The fallback's `getCurrentLocation`, and the sink of the location it publishes. -/
def locateFallback (w : MonitoredLocations) (answer : IPLocationAnswer) :
    Except LocationServiceError UserLocation × MonitoredLocations :=
  match w.service.locateFallback answer with
  | (.ok location, service) =>
      (.ok location,
        (recordSuccess clock { w with service := service } .ipLocation).delivers .ipLocation 1)
  | (.error error, service) => (.error error, throws { w with service := service } .ipLocation)

/-- A call from one suspension to the next; the answer is the network's. A call that waits for the
primary goes on with what its continuation was first resumed with. -/
def turn (answer : IPLocationAnswer) (w : MonitoredLocations) :
    MonitoredCall → MonitoredLocations × Option MonitoredCall
  | .requestPermission =>
      match w.service.primaryService.requestPermission with
      | .ok _ => (w, none)
      | .error _ => (w.throws .coreLocation, some .requestFallback)
  | .requestFallback => (w.setFallback w.service.fallbackService.requestPermission, none)
  | .startTracking =>
      match w.service.primaryService.startTracking with
      | (.ok _, primary) => (w.setPrimary primary, some .primaryStarted)
      | (.error _, primary) => ((w.setPrimary primary).throws .coreLocation, some .startFallback)
  | .primaryStarted => (w.setTracking true, none)
  | .startFallback => (w.setFallback w.service.fallbackService.startTracking, some .locating)
  | .locating =>
      match w.locateFallback clock answer with
      | (.ok _, located) => (located, some .fallbackStarted)
      | (.error _, failed) => (failed, none)
  | .fallbackStarted => (w.setTracking true, none)
  | .getCurrentLocation =>
      match w.service.primaryService.getCurrentLocation clock with
      | (.threw _, primary) =>
          ((w.setPrimary primary).throws .coreLocation, some .locatingFallback)
      | (.cached _, primary) => (w.setPrimary primary, none)
      | (.waits continuation, primary) =>
          (w.setPrimary primary, some (.awaitingPrimary continuation))
  | .awaitingPrimary continuation =>
      match w.service.primaryService.resumptions.lookup continuation with
      -- not resumed yet
      | none => (w, some (.awaitingPrimary continuation))
      | some (.ok _) => (w, none)
      | some (.error _) => (w.throws .coreLocation, some .locatingFallback)
  | .locatingFallback =>
      match w.locateFallback clock answer with
      | (.ok _, located) => (located, none)
      | (.error _, failed) => (failed, none)

end MonitoredLocations

namespace CoreLocationService

variable (clock : Clock Date)

/-- The job gives a fix that comes too soon to be published to the call that waits. -/
def handsOver (s : CoreLocationService) : LocationAction → Bool
  | .runUpdate index =>
      s.updateTooSoon clock && s.updateTasks[index]?.isSome && s.singleLocationContinuation.isSome
  | _ => false

/-- The fixes the job delivers: one that it publishes for the first time, or one that it hands over
unpublished. -/
def deliveries (s : CoreLocationService) : LocationAction → ℕ
  | .runUpdate index =>
      if s.updateTooSoon clock then (if s.handsOver clock (.runUpdate index) then 1 else 0)
      else s.updateTasks[index]?.toList.length
  | _ => 0

/-- Nobody but the pool's calls calls the primary. -/
def comesFromSystem : LocationAction → Bool
  | .getCurrentLocation | .startTracking | .stopTracking | .updatePrivacyLevel _ => false
  | _ => true

end CoreLocationService

inductive MonitoredAction where
  | requestPermission
  | startTracking
  | getCurrentLocation
  | run (index : ℕ) (answer : IPLocationAnswer)
  | primary (event : LocationAction)

abbrev MonitoredLocation := TaskPool MonitoredLocations MonitoredCall

namespace MonitoredLocation

variable (clock : Clock Date)

def step (p : MonitoredLocation) : MonitoredAction → Option MonitoredLocation
  | .requestPermission => some (p.add .requestPermission)
  | .startTracking => some (p.add .startTracking)
  | .getCurrentLocation => some (p.add .getCurrentLocation)
  | .run index answer => p.run (MonitoredLocations.turn clock answer) index
  | .primary event =>
      if CoreLocationService.comesFromSystem event then
        (p.shared.service.primaryService.step clock event).map fun primary =>
          ⟨(p.shared.observePrimary clock primary).delivers .coreLocation
            (p.shared.service.primaryService.deliveries clock event), p.tasks⟩
      else none

def initial : MonitoredLocation := ⟨.initial, []⟩

end MonitoredLocation

def monitoredLocation (clock : Clock Date) : Machine MonitoredLocation MonitoredAction where
  Init p := p = MonitoredLocation.initial
  step := MonitoredLocation.step clock

end SkillTalk
