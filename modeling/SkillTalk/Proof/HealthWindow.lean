import SkillTalk.Library.SlidingWindow
import SkillTalk.ServiceHealthMonitor

/-!
# The records of the health monitor

The monitor keeps two maps side by side, the last record of every provider and its latest ones. An
update writes the entry of its own provider in both, so of each provider's updates the first map has
the last and the second map a window on their end.
-/

namespace SkillTalk

namespace ServiceHealthMonitor

variable (clock : Clock Date)

/-- What is known of a provider before its first update. -/
def unknownHealth (provider : ServiceProvider) : ServiceHealth where
  provider := provider
  status := .unknown
  responseTime := 0
  errorRate := 0
  lastChecked := clock.reading (ServiceProvider.allCases.idxOf provider)
  errorMessage := none

/-- The monitor after these updates, each with the readings of the clock taken before it. -/
def afterUpdates (updates : List (ℕ × ServiceHealth)) : ServiceHealthMonitor :=
  updates.foldl
    (fun monitor update => (monitor.updateServiceHealth clock update.1 update.2).1)
    (setupHealthMonitoring clock)

def updatesOf (provider : ServiceProvider) (updates : List (ℕ × ServiceHealth)) :
    List ServiceHealth :=
  (updates.map Prod.snd).filter fun health => health.provider = provider

structure SameRecords (provider : ServiceProvider) (before after : ServiceHealthMonitor) :
    Prop where
  getHealth : after.getHealth provider = before.getHealth provider
  getHealthHistory : after.getHealthHistory provider = before.getHealthHistory provider

/-- The monitor's records of a provider are the last of its updates and the last 20 of them. -/
structure Records (provider : ServiceProvider) (updates : List ServiceHealth)
    (monitor : ServiceHealthMonitor) : Prop where
  getHealth :
    monitor.getHealth provider = some (updates.getLast?.getD (unknownHealth clock provider))
  getHealthHistory : monitor.getHealthHistory provider = updates.rtake 20

variable {clock} {monitor : ServiceHealthMonitor} {health : ServiceHealth}
  {provider : ServiceProvider}

theorem updatesOf_concat (updates : List (ℕ × ServiceHealth)) (update : ℕ × ServiceHealth) :
    updatesOf provider (updates ++ [update])
      = updatesOf provider updates
          ++ if update.2.provider = provider then [update.2] else [] := by
  simp only [updatesOf, List.map_append, List.filter_append, List.map_cons, List.map_nil,
    List.filter_singleton, Bool.cond_decide]

theorem healthHistory_recordHealth (monitor : ServiceHealthMonitor) (health : ServiceHealth) :
    (monitor.recordHealth health).healthHistory
      = Function.update monitor.healthHistory health.provider
          (some (SlidingWindow.push maxHistoryCount (monitor.getHealthHistory health.provider)
            health)) :=
  rfl

theorem sameRecords_recordHealth (hne : provider ≠ health.provider) :
    SameRecords provider monitor (monitor.recordHealth health) := by
  constructor
  · exact Function.update_of_ne hne _ _
  · rw [getHealthHistory, healthHistory_recordHealth, Function.update_of_ne hne, getHealthHistory]

theorem getHealth_recordHealth (monitor : ServiceHealthMonitor) (health : ServiceHealth) :
    (monitor.recordHealth health).getHealth health.provider = some health :=
  Function.update_self _ _ _

theorem getHealthHistory_recordHealth (monitor : ServiceHealthMonitor) (health : ServiceHealth) :
    (monitor.recordHealth health).getHealthHistory health.provider
      = SlidingWindow.push maxHistoryCount (monitor.getHealthHistory health.provider) health := by
  rw [getHealthHistory, healthHistory_recordHealth, Function.update_self, Option.getD_some]

/-- One more update of the provider. -/
theorem Records.recordHealth {updates : List ServiceHealth}
    (h : Records clock health.provider updates monitor) :
    Records clock health.provider (updates ++ [health]) (monitor.recordHealth health) := by
  constructor
  · rw [getHealth_recordHealth, List.getLast?_concat, Option.getD_some]
  · rw [getHealthHistory_recordHealth, h.getHealthHistory]
    exact SlidingWindow.push_rtake updates health

theorem Records.of_same {updates : List ServiceHealth} {before after : ServiceHealthMonitor}
    (hsame : SameRecords provider before after) (h : Records clock provider updates before) :
    Records clock provider updates after :=
  ⟨hsame.getHealth.trans h.getHealth, hsame.getHealthHistory.trans h.getHealthHistory⟩

variable (clock) in
theorem records_afterUpdates (updates : List (ℕ × ServiceHealth)) (provider : ServiceProvider) :
    Records clock provider (updatesOf provider updates) (afterUpdates clock updates) := by
  induction updates using List.reverseRecOn with
  | nil => exact ⟨rfl, rfl⟩
  | append_singleton updates update ih =>
      have hstep : afterUpdates clock (updates ++ [update])
          = (afterUpdates clock updates).recordHealth update.2 := by
        rw [afterUpdates, List.foldl_concat]
        rfl
      rw [hstep, updatesOf_concat]
      split
      · rename_i hprovider
        subst hprovider
        exact ih.recordHealth
      · rename_i hother
        rw [List.append_nil]
        exact ih.of_same (sameRecords_recordHealth (Ne.symm hother))

theorem failoverReasons_ne_nil_iff :
    failoverReasons health ≠ []
      ↔ health.status = .failed ∨ health.responseTime > 5 ∨ health.errorRate > 1 / 10 := by
  have hguarded : ∀ (p : Prop) [Decidable p] (reason : String),
      (if p then [reason] else []) = [] ↔ ¬ p := by
    intro p _ reason
    split <;> simp_all
  rw [failoverReasons, Ne, List.append_eq_nil_iff, List.append_eq_nil_iff, hguarded, hguarded,
    hguarded, responseTimeThreshold, errorThreshold]
  tauto

/-- What an update posts is about its own provider, and is posted for the reasons found in the new
record. -/
theorem posted_iff (clock : Clock Date) (reads : ℕ) (monitor : ServiceHealthMonitor)
    (health : ServiceHealth) (provider : ServiceProvider) :
    (∃ notification ∈ (monitor.updateServiceHealth clock reads health).2,
        notification.type = .failoverNeeded ∧ notification.provider = provider)
      ↔ provider = health.provider ∧ failoverReasons health ≠ [] := by
  have hrecorded : (monitor.recordHealth health).serviceHealthMap health.provider = some health :=
    getHealth_recordHealth monitor health
  rw [updateServiceHealth, checkFailoverConditions, hrecorded]
  constructor
  · rintro ⟨notification, hposted, -, rfl⟩
    obtain ⟨i, hi, rfl⟩ := List.mem_mapIdx.mp hposted
    exact ⟨rfl, List.ne_nil_of_length_pos (Nat.zero_lt_of_lt hi)⟩
  · rintro ⟨rfl, hreasons⟩
    have hfirst : 0 < (failoverReasons health).length := List.length_pos_iff.mpr hreasons
    exact ⟨_, List.mem_mapIdx.mpr ⟨0, hfirst, rfl⟩, rfl, rfl⟩

/-- **The bookkeeping of the health monitor.** After any updates, the records of a provider are the
last and the last 20 of its own. An update leaves the records of other providers alone, and posts a
notification exactly for a record that calls for a failover. -/
theorem health_bookkeeping (clock : Clock Date) (updates : List (ℕ × ServiceHealth))
    (provider : ServiceProvider) :
    Records clock provider (updatesOf provider updates) (afterUpdates clock updates)
      ∧ ∀ (reads : ℕ) (health : ServiceHealth),
          (provider ≠ health.provider →
            SameRecords provider (afterUpdates clock updates)
              ((afterUpdates clock updates).updateServiceHealth clock reads health).1)
          ∧ ((∃ notification ∈
                ((afterUpdates clock updates).updateServiceHealth clock reads health).2,
                notification.type = .failoverNeeded ∧ notification.provider = provider)
              ↔ provider = health.provider
                ∧ (health.status = .failed ∨ health.responseTime > 5
                  ∨ health.errorRate > 1 / 10)) := by
  refine ⟨records_afterUpdates clock updates provider, ?_⟩
  intro reads health
  refine ⟨sameRecords_recordHealth, ?_⟩
  rw [posted_iff, failoverReasons_ne_nil_iff]

end ServiceHealthMonitor

end SkillTalk
