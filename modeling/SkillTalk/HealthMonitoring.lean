import Mathlib.Algebra.Order.Ring.Rat
import SkillTalk.Library.Binary64
import SkillTalk.Library.Machine
import SkillTalk.ServiceHealthMonitor

/-!
# The runs of the health monitor

Monitoring starts a check and a repeating timer, and every tick starts another. A check simulates
the health of six providers with random draws, then looks for a trend in the history of every
provider. Updates may also come from elsewhere. A check runs undisturbed, for its only `await` does
not suspend.

A rational stands for the double nearest to it. That makes no difference where two are compared, but
the averages that a trend is found by are rounded as the source rounds them. The metrics, which
nothing is compared with, are exact.
-/

namespace SkillTalk

/-- `Int(_:)`, which rounds toward zero. -/
def truncatedToInt (q : ℚ) : ℤ := q.num.tdiv q.den

/-- `String(format: "%.1f", _)`, which rounds to the nearest tenth and a tie to the even one. -/
def oneDecimal (q : ℚ) : String :=
  let scaled := |q| * 10
  let floor := scaled.floor.toNat
  let rest := scaled - floor
  let tenths := if rest > 1 / 2 ∨ rest = 1 / 2 ∧ floor % 2 = 1 then floor + 1 else floor
  (if q < 0 then "-" else "") ++ toString (tenths / 10) ++ "." ++ toString (tenths % 10)

/-- An order in which a loop may enumerate a dictionary over the providers. -/
structure ProviderOrder where
  entries : List ServiceProvider
  perm : entries.Perm ServiceProvider.allCases

def ProviderOrder.written : ProviderOrder := ⟨ServiceProvider.allCases, .refl _⟩

theorem ProviderOrder.mem_entries (order : ProviderOrder) (provider : ServiceProvider) :
    provider ∈ order.entries := by
  rw [order.perm.mem_iff]
  cases provider <;> decide

/-- The random values of one simulated check. -/
structure SimulatedDraw where
  responseTime : TimeInterval
  errorRate : ℚ
  responseTime_mem : 1 / 10 ≤ responseTime ∧ responseTime ≤ 2
  errorRate_mem : 0 ≤ errorRate ∧ errorRate ≤ 1 / 20

namespace ServiceHealthMonitor

def healthCheckInterval : TimeInterval := 60

/-! ### Trends -/

def recentHistory (history : List ServiceHealth) : List ServiceHealth := history.rtake 5

def recentAverage (field : ServiceHealth → ℚ) (history : List ServiceHealth) : ℚ :=
  Binary64.average ((recentHistory history).map field)

def isDegrading (history : List ServiceHealth) : Bool :=
  3 ≤ history.length
    ∧ (recentAverage ServiceHealth.responseTime history > Binary64.round responseTimeThreshold
      ∨ recentAverage ServiceHealth.errorRate history > Binary64.round errorThreshold)

def notifyPerformanceDegradation (provider : ServiceProvider) (avgResponseTime : TimeInterval)
    (avgErrorRate : ℚ) (now : Date) : ServiceHealthNotification where
  type := .performanceDegradation
  provider := provider
  message := "Performance degrading: "
    ++ toString (truncatedToInt (Binary64.round (avgResponseTime * 1000)))
    ++ "ms avg response, " ++ oneDecimal (Binary64.round (avgErrorRate * 100)) ++ "% error rate"
  timestamp := now

def analyzeHealthTrends (clock : Clock Date) (reads : ℕ) (order : ProviderOrder)
    (monitor : ServiceHealthMonitor) : List ServiceHealthNotification :=
  let degrading := order.entries.filter fun provider =>
    isDegrading (monitor.getHealthHistory provider)
  degrading.mapIdx fun i provider =>
    let history := monitor.getHealthHistory provider
    notifyPerformanceDegradation provider (recentAverage ServiceHealth.responseTime history)
      (recentAverage ServiceHealth.errorRate history) (clock.reading (reads + i))

/-! ### Simulated checks -/

def simulatedProviders : List ServiceProvider :=
  [.firebase, .supabase, .agora, .dailyco, .pusher, .ably]

def simulatedHealth (provider : ServiceProvider) (draw : SimulatedDraw) (now : Date) :
    ServiceHealth :=
  let status : ServiceHealthStatus := if draw.errorRate > 3 / 100 then .degraded else .healthy
  { provider
    status
    responseTime := draw.responseTime
    errorRate := draw.errorRate
    lastChecked := now
    errorMessage := if status = .degraded then some "Simulated degradation" else none }

/-! ### Metrics -/

/-- The values of `serviceHealthMap`. -/
def healthValues (monitor : ServiceHealthMonitor) : List ServiceHealth :=
  ServiceProvider.allCases.filterMap monitor.serviceHealthMap

def overallHealthScore (monitor : ServiceHealthMonitor) : ℚ :=
  let healthyServices := (monitor.healthValues.filter fun health => health.status = .healthy).length
  let totalServices := monitor.healthValues.length
  if totalServices > 0 then healthyServices / totalServices else 0

def averageOver (field : ServiceHealth → ℚ) (monitor : ServiceHealthMonitor) : ℚ :=
  let values := monitor.healthValues.map field
  if values.isEmpty then 0 else values.sum / values.length

def averageResponseTime (monitor : ServiceHealthMonitor) : TimeInterval :=
  monitor.averageOver ServiceHealth.responseTime

def averageErrorRate (monitor : ServiceHealthMonitor) : ℚ :=
  monitor.averageOver ServiceHealth.errorRate

def servicesNeedingAttention (order : ProviderOrder) (monitor : ServiceHealthMonitor) :
    List ServiceProvider :=
  order.entries.filter fun provider =>
    (monitor.serviceHealthMap provider).any fun health => health.status ≠ .healthy

end ServiceHealthMonitor

structure HealthMonitoring where
  monitor : ServiceHealthMonitor
  isMonitoring : Bool
  -- when `healthCheckTimer` is due
  healthCheckTimer : Option Date
  -- the checks that have been started and have not run
  checks : ℕ
  -- readings taken of the clock
  reads : ℕ
  -- posted as `.serviceFailoverNeeded` and as `.serviceHealthChanged`, oldest first
  needed : List ServiceHealthNotification
  changed : List ServiceHealthNotification
  -- ghosts: the checks run, the starts that were not refused, and the ticks
  performed : ℕ
  starts : ℕ
  ticks : ℕ

inductive HealthMonitoringAction where
  | startMonitoring
  | stopMonitoring
  | tick
  | performHealthCheck (draws : ServiceProvider → SimulatedDraw) (order : ProviderOrder)
  | updateServiceHealth (health : ServiceHealth)

namespace HealthMonitoring

variable (clock : Clock Date)

def startMonitoring (w : HealthMonitoring) : HealthMonitoring :=
  if w.isMonitoring then w
  else
    { w with
      isMonitoring := true
      healthCheckTimer :=
        some (clock.reading w.reads + ServiceHealthMonitor.healthCheckInterval)
      checks := w.checks + 1
      reads := w.reads + 1
      starts := w.starts + 1 }

def stopMonitoring (w : HealthMonitoring) : HealthMonitoring :=
  if w.isMonitoring then { w with isMonitoring := false, healthCheckTimer := none } else w

/-- The monitor starts monitoring as soon as it is set up. -/
def initial : HealthMonitoring :=
  startMonitoring clock
    { monitor := .setupHealthMonitoring clock
      isMonitoring := false
      healthCheckTimer := none
      checks := 0
      reads := ServiceProvider.allCases.length
      needed := []
      changed := []
      performed := 0
      starts := 0
      ticks := 0 }

def updateServiceHealth (w : HealthMonitoring) (health : ServiceHealth) : HealthMonitoring :=
  let (monitor, posted) := w.monitor.updateServiceHealth clock w.reads health
  { w with monitor, needed := w.needed ++ posted, reads := w.reads + posted.length }

/-- One iteration of the loop of `simulateHealthChecks`. -/
def simulateHealthCheck (draws : ServiceProvider → SimulatedDraw) (w : HealthMonitoring)
    (provider : ServiceProvider) : HealthMonitoring :=
  updateServiceHealth clock { w with reads := w.reads + 1 }
    (ServiceHealthMonitor.simulatedHealth provider (draws provider) (clock.reading w.reads))

def simulateHealthChecks (draws : ServiceProvider → SimulatedDraw) (w : HealthMonitoring) :
    HealthMonitoring :=
  ServiceHealthMonitor.simulatedProviders.foldl (simulateHealthCheck clock draws) w

def analyzeHealthTrends (order : ProviderOrder) (w : HealthMonitoring) : HealthMonitoring :=
  let posted := ServiceHealthMonitor.analyzeHealthTrends clock w.reads order w.monitor
  { w with changed := w.changed ++ posted, reads := w.reads + posted.length }

def performHealthCheck (draws : ServiceProvider → SimulatedDraw) (order : ProviderOrder)
    (w : HealthMonitoring) : HealthMonitoring :=
  let checked := analyzeHealthTrends clock order (simulateHealthChecks clock draws w)
  { checked with checks := checked.checks - 1, performed := checked.performed + 1 }

def step (w : HealthMonitoring) : HealthMonitoringAction → Option HealthMonitoring
  | .startMonitoring => some (w.startMonitoring clock)
  | .stopMonitoring => some w.stopMonitoring
  | .tick =>
      match w.healthCheckTimer with
      | none => none
      | some fireDate =>
          if fireDate ≤ clock.reading w.reads then
            some
              { w with
                healthCheckTimer := some (fireDate + ServiceHealthMonitor.healthCheckInterval)
                checks := w.checks + 1
                reads := w.reads + 1
                ticks := w.ticks + 1 }
          else none
  | .performHealthCheck draws order =>
      if w.checks = 0 then none else some (w.performHealthCheck clock draws order)
  | .updateServiceHealth health => some (w.updateServiceHealth clock health)

end HealthMonitoring

def healthMonitoring (clock : Clock Date) : Machine HealthMonitoring HealthMonitoringAction where
  Init w := w = HealthMonitoring.initial clock
  step := HealthMonitoring.step clock

end SkillTalk
