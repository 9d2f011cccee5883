import Mathlib.Data.List.DropRight
import SkillTalk.Library.Clock
import SkillTalk.ServiceTypes

/-!
# The service health monitor

The latest health record of every provider and its last 20, and the notifications a bad record
posts. Each call of `Date()` takes the next reading of the clock, so the functions that call it are
given the number of readings taken before.
-/

namespace SkillTalk

inductive NotificationType where
  | performanceDegradation
  | failoverNeeded
  | serviceRecovered
  deriving DecidableEq, Repr

structure ServiceHealthNotification where
  type : NotificationType
  provider : ServiceProvider
  message : String
  timestamp : Date
  deriving DecidableEq

structure ServiceHealthMonitor where
  serviceHealthMap : ServiceProvider → Option ServiceHealth
  healthHistory : ServiceProvider → Option (List ServiceHealth)

namespace ServiceHealthMonitor

def errorThreshold : ℚ := 1 / 10

def responseTimeThreshold : TimeInterval := 5

def maxHistoryCount : ℕ := 20

/-- Every provider starts with an unknown record, dated by its own reading of the clock. -/
def setupHealthMonitoring (clock : Clock Date) : ServiceHealthMonitor where
  serviceHealthMap provider := some
    { provider
      status := .unknown
      responseTime := 0
      errorRate := 0
      lastChecked := clock.reading (ServiceProvider.allCases.idxOf provider)
      errorMessage := none }
  healthHistory _ := none

def getHealth (monitor : ServiceHealthMonitor) (provider : ServiceProvider) :
    Option ServiceHealth :=
  monitor.serviceHealthMap provider

def getHealthHistory (monitor : ServiceHealthMonitor) (provider : ServiceProvider) :
    List ServiceHealth :=
  (monitor.healthHistory provider).getD []

/-- The reasons for which `checkFailoverConditions` posts a notification, in its order. -/
def failoverReasons (health : ServiceHealth) : List String :=
  (if health.status = .failed then ["Service unhealthy"] else [])
    ++ (if health.responseTime > responseTimeThreshold then ["High response time"] else [])
    ++ (if health.errorRate > errorThreshold then ["High error rate"] else [])

def notifyFailoverNeeded (provider : ServiceProvider) (reason : String) (now : Date) :
    ServiceHealthNotification where
  type := .failoverNeeded
  provider := provider
  message := "Failover needed: " ++ reason
  timestamp := now

def checkFailoverConditions (clock : Clock Date) (reads : ℕ) (monitor : ServiceHealthMonitor)
    (provider : ServiceProvider) : List ServiceHealthNotification :=
  match monitor.serviceHealthMap provider with
  | none => []
  | some health => (failoverReasons health).mapIdx fun i reason =>
      notifyFailoverNeeded provider reason (clock.reading (reads + i))

def recordHealth (monitor : ServiceHealthMonitor) (health : ServiceHealth) :
    ServiceHealthMonitor :=
  let history := monitor.getHealthHistory health.provider ++ [health]
  { serviceHealthMap := Function.update monitor.serviceHealthMap health.provider (some health)
    healthHistory := Function.update monitor.healthHistory health.provider
      (some (if history.length > maxHistoryCount then history.rtake maxHistoryCount
        else history)) }

def updateServiceHealth (clock : Clock Date) (reads : ℕ) (monitor : ServiceHealthMonitor)
    (health : ServiceHealth) : ServiceHealthMonitor × List ServiceHealthNotification :=
  let updated := monitor.recordHealth health
  (updated, updated.checkFailoverConditions clock reads health.provider)

theorem length_failoverReasons_le (health : ServiceHealth) :
    (failoverReasons health).length ≤ 3 := by
  have hle : ∀ (p : Prop) [Decidable p] (reason : String),
      (if p then [reason] else []).length ≤ 1 := by
    intro p _ reason
    split <;> simp
  simp only [failoverReasons, List.length_append]
  have h1 := hle (health.status = .failed) "Service unhealthy"
  have h2 := hle (health.responseTime > responseTimeThreshold) "High response time"
  have h3 := hle (health.errorRate > errorThreshold) "High error rate"
  omega

/-- One update posts at most three notifications, all about the provider it is for. -/
theorem updateServiceHealth_posts (clock : Clock Date) (reads : ℕ)
    (monitor : ServiceHealthMonitor) (health : ServiceHealth) :
    (monitor.updateServiceHealth clock reads health).2.length ≤ 3
      ∧ ∀ notification ∈ (monitor.updateServiceHealth clock reads health).2,
          notification.provider = health.provider := by
  simp only [updateServiceHealth, checkFailoverConditions, recordHealth, Function.update_self]
  constructor
  · simpa using length_failoverReasons_le health
  · intro notification hmem
    obtain ⟨i, _, rfl⟩ := List.mem_mapIdx.mp hmem
    rfl

end ServiceHealthMonitor

end SkillTalk
