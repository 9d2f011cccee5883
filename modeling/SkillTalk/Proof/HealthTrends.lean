import Mathlib.Tactic.Linarith
import SkillTalk.HealthMonitoring
import SkillTalk.Proof.HealthWindow

/-!
# What the trends of the health monitor add

An average above a threshold has an entry above it, and the update that brought that entry has
already asked for a failover. So a trend is never the first to warn. The averages are rounded, which
matters for error rates next to their threshold and is ruled out for them. Checks are accounted for
by the starts and ticks that began them.
-/

namespace SkillTalk

namespace ServiceHealthMonitor

/-- The error rate is not too near to its threshold to tell their averages apart. -/
def ClearOfThreshold (health : ServiceHealth) : Prop :=
  errorThreshold / 2 ^ 50 ≤ |health.errorRate - errorThreshold|

instance (health : ServiceHealth) : Decidable (ClearOfThreshold health) :=
  inferInstanceAs (Decidable (_ ≤ _))

theorem length_recentHistory_le (history : List ServiceHealth) :
    (recentHistory history).length ≤ 5 := by
  simp [recentHistory, List.rtake_eq_reverse_take_reverse]

/-- Whole seconds average without error. -/
theorem exists_of_lt_responseTime {history : List ServiceHealth}
    (h : Binary64.round responseTimeThreshold < recentAverage ServiceHealth.responseTime history) :
    ∃ health ∈ recentHistory history, responseTimeThreshold < health.responseTime := by
  by_contra hnone
  have hall : ∀ seconds ∈ (recentHistory history).map ServiceHealth.responseTime,
      seconds ≤ (5 : ℕ) := by
    intro seconds hseconds
    obtain ⟨health, hhealth, rfl⟩ := List.mem_map.mp hseconds
    exact not_lt.mp fun hlt => hnone ⟨health, hhealth, hlt⟩
  have hsmall : ((recentHistory history).map ServiceHealth.responseTime).length * 5 < 2 ^ 53 := by
    have := length_recentHistory_le history
    rw [List.length_map]
    omega
  have hthreshold : Binary64.round responseTimeThreshold = (5 : ℕ) := by decide +kernel
  refine absurd h (not_lt.mpr ?_)
  rw [hthreshold]
  exact Binary64.average_le_natCast hall hsmall

/-- Rates that are clear of the threshold average to no more than it if none is above it. -/
theorem exists_of_lt_errorRate {history : List ServiceHealth}
    (hclear : ∀ health ∈ recentHistory history, ClearOfThreshold health)
    (h : Binary64.round errorThreshold < recentAverage ServiceHealth.errorRate history) :
    ∃ health ∈ recentHistory history, errorThreshold < health.errorRate := by
  by_contra hnone
  have hall : ∀ rate ∈ (recentHistory history).map ServiceHealth.errorRate,
      rate ≤ errorThreshold * (1 - 1 / 2 ^ 50) := by
    intro rate hrate
    obtain ⟨health, hhealth, rfl⟩ := List.mem_map.mp hrate
    have hle : health.errorRate ≤ errorThreshold :=
      not_lt.mp fun hlt => hnone ⟨health, hhealth, hlt⟩
    have hgap : errorThreshold / 2 ^ 50 ≤ |health.errorRate - errorThreshold| :=
      hclear health hhealth
    rw [abs_of_nonpos (sub_nonpos.mpr hle)] at hgap
    linarith
  have hbound : 0 ≤ errorThreshold * (1 - 1 / 2 ^ 50) := by norm_num [errorThreshold]
  have hpow : (1 + 1 / 2 ^ 53 : ℚ)
        ^ (((recentHistory history).map ServiceHealth.errorRate).length + 2)
      ≤ (1 + 1 / 2 ^ 53) ^ 7 := by
    refine pow_le_pow_right₀ (by norm_num) ?_
    rw [List.length_map]
    exact Nat.add_le_add_right (length_recentHistory_le history) 2
  refine absurd h (not_lt.mpr ?_)
  calc recentAverage ServiceHealth.errorRate history
      ≤ errorThreshold * (1 - 1 / 2 ^ 50) * (1 + 1 / 2 ^ 53) ^ 7 :=
        (Binary64.average_le_mul hbound hall).trans (mul_le_mul_of_nonneg_left hpow hbound)
    _ ≤ Binary64.round errorThreshold := by decide +kernel

theorem mem_of_mem_recentHistory {history : List ServiceHealth} {health : ServiceHealth}
    (h : health ∈ recentHistory history) : health ∈ history :=
  (SlidingWindow.rtake_suffix 5 history).subset h

/-- A trend is found only after a record that calls for a failover. -/
theorem exists_of_isDegrading {history : List ServiceHealth}
    (hclear : ∀ health ∈ history, ClearOfThreshold health) (h : isDegrading history = true) :
    ∃ health ∈ recentHistory history,
      "High response time" ∈ failoverReasons health
        ∨ "High error rate" ∈ failoverReasons health := by
  obtain ⟨-, hresponse | herror⟩ := of_decide_eq_true h
  · obtain ⟨health, hmem, hlt⟩ := exists_of_lt_responseTime hresponse
    exact ⟨health, hmem, .inl (by simp [failoverReasons, hlt])⟩
  · obtain ⟨health, hmem, hlt⟩ := exists_of_lt_errorRate
      (fun health hmem => hclear health (mem_of_mem_recentHistory hmem)) herror
    exact ⟨health, hmem, .inr (by simp [failoverReasons, hlt])⟩

/-- A simulated rate is far below the threshold. -/
theorem clearOfThreshold_simulatedHealth (provider : ServiceProvider) (draw : SimulatedDraw)
    (now : Date) : ClearOfThreshold (simulatedHealth provider draw now) := by
  have hrate : draw.errorRate ≤ 1 / 20 := draw.errorRate_mem.2
  have hgap : (1 / 20 : ℚ) ≤ |draw.errorRate - errorThreshold| := by
    rw [errorThreshold, abs_sub_comm]
    exact le_trans (by linarith) (le_abs_self _)
  exact le_trans (by norm_num [errorThreshold]) hgap

theorem mem_getHealthHistory_recordHealth {monitor : ServiceHealthMonitor}
    {health other : ServiceHealth} {provider : ServiceProvider}
    (h : other ∈ (monitor.recordHealth health).getHealthHistory provider) :
    other ∈ monitor.getHealthHistory provider ∨ provider = health.provider ∧ other = health := by
  by_cases hprovider : provider = health.provider
  · subst hprovider
    rw [getHealthHistory_recordHealth, SlidingWindow.push_eq_rtake] at h
    rcases List.mem_append.mp ((SlidingWindow.rtake_suffix _ _).subset h) with hold | hnew
    · exact .inl hold
    · exact .inr ⟨rfl, List.mem_singleton.mp hnew⟩
  · rw [(sameRecords_recordHealth hprovider).getHealthHistory] at h
    exact .inl h

theorem posted_updateServiceHealth (clock : Clock Date) (reads : ℕ)
    (monitor : ServiceHealthMonitor) (health : ServiceHealth) :
    (monitor.updateServiceHealth clock reads health).2
      = (failoverReasons health).mapIdx fun i reason =>
          notifyFailoverNeeded health.provider reason (clock.reading (reads + i)) := by
  simp [updateServiceHealth, checkFailoverConditions, recordHealth]

end ServiceHealthMonitor

namespace HealthMonitoring

open ServiceHealthMonitor

variable {clock : Clock Date} {w : HealthMonitoring}

theorem needed_updateServiceHealth (w : HealthMonitoring) (health : ServiceHealth) :
    (w.updateServiceHealth clock health).needed
      = w.needed ++ (failoverReasons health).mapIdx fun i reason =>
          notifyFailoverNeeded health.provider reason (clock.reading (w.reads + i)) := by
  rw [← posted_updateServiceHealth clock w.reads w.monitor health]
  rfl

theorem reads_updateServiceHealth (w : HealthMonitoring) (health : ServiceHealth) :
    (w.updateServiceHealth clock health).reads
      = w.reads + (failoverReasons health).length := by
  have hposted := posted_updateServiceHealth clock w.reads w.monitor health
  calc (w.updateServiceHealth clock health).reads
      = w.reads + (w.monitor.updateServiceHealth clock w.reads health).2.length := rfl
    _ = w.reads + (failoverReasons health).length := by rw [hposted, List.length_mapIdx]

/-- A failover of the provider was asked for, for this reason and no later than this date. -/
def Asked (w : HealthMonitoring) (provider : ServiceProvider) (reason : String) (date : Date) :
    Prop :=
  ∃ notification ∈ w.needed, notification.provider = provider
    ∧ notification.message = "Failover needed: " ++ reason ∧ notification.timestamp ≤ date

theorem Asked.mono {v : HealthMonitoring} {provider : ServiceProvider} {reason : String}
    {date later : Date} (h : w.Asked provider reason date) (hneeded : w.needed ⊆ v.needed)
    (hdate : date ≤ later) : v.Asked provider reason later := by
  obtain ⟨notification, hmem, hprovider, hmessage, htimestamp⟩ := h
  exact ⟨notification, hneeded hmem, hprovider, hmessage, htimestamp.trans hdate⟩

/-- An update asks for a failover for each of its reasons. -/
theorem asked_updateServiceHealth {health : ServiceHealth} {reason : String}
    (hreason : reason ∈ failoverReasons health) :
    (w.updateServiceHealth clock health).Asked health.provider reason
      (clock.reading (w.updateServiceHealth clock health).reads) := by
  obtain ⟨i, hi, rfl⟩ := List.mem_iff_getElem.mp hreason
  refine ⟨notifyFailoverNeeded health.provider (failoverReasons health)[i]
    (clock.reading (w.reads + i)), ?_, rfl, rfl, ?_⟩
  · rw [needed_updateServiceHealth]
    exact List.mem_append_right _ (List.mem_mapIdx.mpr ⟨i, hi, rfl⟩)
  · rw [reads_updateServiceHealth]
    exact clock.monotone (by omega)

/-- Every record kept is clear of the threshold, every reason found in one has been reported, and
every warning comes after a report about its provider. -/
structure Warranted (clock : Clock Date) (w : HealthMonitoring) : Prop where
  clear : ∀ provider, ∀ health ∈ w.monitor.getHealthHistory provider, ClearOfThreshold health
  records : ∀ provider, ∀ health ∈ w.monitor.getHealthHistory provider,
    ∀ reason ∈ failoverReasons health, w.Asked provider reason (clock.reading w.reads)
  warnings : ∀ warning ∈ w.changed,
    w.Asked warning.provider "High response time" warning.timestamp
      ∨ w.Asked warning.provider "High error rate" warning.timestamp

/-- The clock may be read, and anything but the records and the notifications may change. -/
theorem Warranted.frame {v : HealthMonitoring} (h : w.Warranted clock)
    (hmonitor : v.monitor = w.monitor) (hneeded : v.needed = w.needed)
    (hchanged : v.changed = w.changed) (hreads : w.reads ≤ v.reads) : v.Warranted clock := by
  have hsub : w.needed ⊆ v.needed := hneeded ▸ List.Subset.refl _
  constructor
  · rw [hmonitor]
    exact h.clear
  · intro provider health hhealth reason hreason
    rw [hmonitor] at hhealth
    exact (h.records provider health hhealth reason hreason).mono hsub (clock.monotone hreads)
  · intro warning hwarning
    rw [hchanged] at hwarning
    exact (h.warnings warning hwarning).imp (fun h => h.mono hsub le_rfl)
      (fun h => h.mono hsub le_rfl)

theorem Warranted.updateServiceHealth (h : w.Warranted clock) {health : ServiceHealth}
    (hclear : ClearOfThreshold health) : (w.updateServiceHealth clock health).Warranted clock := by
  have hsub : w.needed ⊆ (w.updateServiceHealth clock health).needed := by
    rw [needed_updateServiceHealth]
    exact List.subset_append_left _ _
  constructor
  · intro provider other hother
    rcases mem_getHealthHistory_recordHealth hother with hold | ⟨rfl, rfl⟩
    · exact h.clear provider other hold
    · exact hclear
  · intro provider other hother reason hreason
    rcases mem_getHealthHistory_recordHealth hother with hold | ⟨rfl, rfl⟩
    · refine (h.records provider other hold reason hreason).mono hsub (clock.monotone ?_)
      rw [reads_updateServiceHealth]
      omega
    · exact asked_updateServiceHealth hreason
  · intro warning hwarning
    exact (h.warnings warning hwarning).imp (fun h => h.mono hsub le_rfl)
      (fun h => h.mono hsub le_rfl)

theorem Warranted.simulateHealthChecks (h : w.Warranted clock)
    (draws : ServiceProvider → SimulatedDraw) :
    (w.simulateHealthChecks clock draws).Warranted clock := by
  unfold HealthMonitoring.simulateHealthChecks
  generalize simulatedProviders = providers
  induction providers generalizing w with
  | nil => exact h
  | cons provider providers ih =>
      refine ih (Warranted.updateServiceHealth ?_ (clearOfThreshold_simulatedHealth _ _ _))
      exact h.frame rfl rfl rfl (Nat.le_succ _)

theorem Warranted.analyzeHealthTrends (h : w.Warranted clock) (order : ProviderOrder) :
    (w.analyzeHealthTrends clock order).Warranted clock := by
  refine ⟨h.clear, ?_, ?_⟩
  · intro provider health hhealth reason hreason
    refine (h.records provider health hhealth reason hreason).mono (List.Subset.refl _)
      (clock.monotone ?_)
    exact Nat.le_add_right _ _
  · intro warning hwarning
    rcases List.mem_append.mp hwarning with hold | hnew
    · exact (h.warnings warning hold).imp (fun h => h.mono (List.Subset.refl _) le_rfl)
        (fun h => h.mono (List.Subset.refl _) le_rfl)
    · obtain ⟨i, hi, rfl⟩ := List.mem_mapIdx.mp hnew
      have hdegrading := (List.mem_filter.mp (List.getElem_mem hi)).2
      obtain ⟨health, hrecent, hreasons⟩ := exists_of_isDegrading (h.clear _) hdegrading
      have hasked := h.records _ health (mem_of_mem_recentHistory hrecent)
      have hlater : clock.reading w.reads ≤ clock.reading (w.reads + i) :=
        clock.monotone (Nat.le_add_right _ _)
      exact hreasons.imp (fun hreason => (hasked _ hreason).mono (List.Subset.refl _) hlater)
        (fun hreason => (hasked _ hreason).mono (List.Subset.refl _) hlater)

theorem Warranted.performHealthCheck (h : w.Warranted clock)
    (draws : ServiceProvider → SimulatedDraw) (order : ProviderOrder) :
    (w.performHealthCheck clock draws order).Warranted clock :=
  ((h.simulateHealthChecks draws).analyzeHealthTrends order).frame rfl rfl rfl (Nat.le_refl _)

/-! ### Runs -/

/-- A tick is due while monitoring is on, and each check was begun by a start or a tick. -/
structure Scheduled (w : HealthMonitoring) : Prop where
  timer : w.isMonitoring = w.healthCheckTimer.isSome
  begun : w.performed + w.checks = w.starts + w.ticks

theorem Warranted.startMonitoring (h : w.Warranted clock) :
    (w.startMonitoring clock).Warranted clock := by
  unfold HealthMonitoring.startMonitoring
  split
  · exact h
  · exact h.frame rfl rfl rfl (Nat.le_succ _)

theorem Scheduled.startMonitoring (h : w.Scheduled) : (w.startMonitoring clock).Scheduled := by
  unfold HealthMonitoring.startMonitoring
  split
  · exact h
  · have hbegun := h.begun
    exact ⟨rfl, by dsimp only; omega⟩

variable (clock) in
theorem scheduled_simulateHealthChecks (h : w.Scheduled)
    (draws : ServiceProvider → SimulatedDraw) :
    (w.simulateHealthChecks clock draws).Scheduled
      ∧ (w.simulateHealthChecks clock draws).checks = w.checks := by
  unfold simulateHealthChecks
  generalize simulatedProviders = providers
  induction providers generalizing w with
  | nil => exact ⟨h, rfl⟩
  | cons provider providers ih => exact ih ⟨h.timer, h.begun⟩

theorem Scheduled.performHealthCheck (h : w.Scheduled) (hchecks : w.checks ≠ 0)
    (draws : ServiceProvider → SimulatedDraw) (order : ProviderOrder) :
    (w.performHealthCheck clock draws order).Scheduled := by
  obtain ⟨hscheduled, hsame⟩ := scheduled_simulateHealthChecks clock h draws
  have hbegun := hscheduled.begun
  refine ⟨hscheduled.timer, ?_⟩
  simp only [HealthMonitoring.performHealthCheck, analyzeHealthTrends]
  omega

/-- The error rates that come from elsewhere are clear of the threshold. -/
def KeepsClear (_ : HealthMonitoring) : HealthMonitoringAction → Prop
  | .updateServiceHealth health => ClearOfThreshold health
  | _ => True

theorem warranted_of_reachableWhere (hw : (healthMonitoring clock).ReachableWhere KeepsClear w) :
    w.Warranted clock := by
  refine hw.invariant (fun w => w.Warranted clock) ?_ ?_
  · rintro w rfl
    refine Warranted.startMonitoring ⟨?_, ?_, ?_⟩ <;> simp [setupHealthMonitoring, getHealthHistory]
  · intro w action v _ hwarranted hclear hstep
    cases action with
    | startMonitoring =>
        obtain rfl := Option.some.inj hstep
        exact hwarranted.startMonitoring
    | stopMonitoring =>
        obtain rfl := Option.some.inj hstep
        unfold stopMonitoring
        split
        · exact hwarranted.frame rfl rfl rfl (Nat.le_refl _)
        · exact hwarranted
    | tick =>
        simp only [healthMonitoring, step] at hstep
        split at hstep
        · cases hstep
        · obtain ⟨-, hv⟩ := Option.ite_none_right_eq_some.mp hstep
          obtain rfl := Option.some.inj hv
          exact hwarranted.frame rfl rfl rfl (Nat.le_succ _)
    | performHealthCheck draws order =>
        obtain ⟨-, hv⟩ := Option.ite_none_left_eq_some.mp hstep
        obtain rfl := Option.some.inj hv
        exact hwarranted.performHealthCheck draws order
    | updateServiceHealth health =>
        obtain rfl := Option.some.inj hstep
        exact hwarranted.updateServiceHealth hclear

theorem scheduled_of_reachable (hw : (healthMonitoring clock).Reachable w) : w.Scheduled := by
  refine hw.invariant Scheduled ?_ ?_
  · rintro w rfl
    exact Scheduled.startMonitoring ⟨rfl, rfl⟩
  · intro w action v _ hscheduled _ hstep
    cases action with
    | startMonitoring =>
        obtain rfl := Option.some.inj hstep
        exact hscheduled.startMonitoring
    | stopMonitoring =>
        obtain rfl := Option.some.inj hstep
        unfold stopMonitoring
        split
        · exact ⟨rfl, hscheduled.begun⟩
        · exact hscheduled
    | tick =>
        simp only [healthMonitoring, step] at hstep
        split at hstep
        · cases hstep
        · rename_i fireDate htimer
          obtain ⟨-, hv⟩ := Option.ite_none_right_eq_some.mp hstep
          obtain rfl := Option.some.inj hv
          have hbegun := hscheduled.begun
          refine ⟨?_, by dsimp only; omega⟩
          exact hscheduled.timer.trans (by rw [htimer]; rfl)
    | performHealthCheck draws order =>
        obtain ⟨hchecks, hv⟩ := Option.ite_none_left_eq_some.mp hstep
        obtain rfl := Option.some.inj hv
        exact hscheduled.performHealthCheck hchecks draws order
    | updateServiceHealth health =>
        obtain rfl := Option.some.inj hstep
        exact ⟨hscheduled.timer, hscheduled.begun⟩

/-- **Trends never warn first.** In every run of the monitor whose updates between its checks keep
their error rates clear of the threshold, each warning about performance follows a notification that
asked for a failover of the same provider because of its response time or its error rate. In every
run ticks come only while monitoring is on, and every start that was not refused and every tick
begins one check. -/
theorem trends_never_first (clock : Clock Date) :
    (∀ w, (healthMonitoring clock).ReachableWhere KeepsClear w →
        ∀ warning ∈ w.changed, ∃ notification ∈ w.needed,
          notification.provider = warning.provider
            ∧ (notification.message = "Failover needed: High response time"
              ∨ notification.message = "Failover needed: High error rate")
            ∧ notification.timestamp ≤ warning.timestamp)
      ∧ ∀ w, (healthMonitoring clock).Reachable w →
          w.isMonitoring = w.healthCheckTimer.isSome
            ∧ w.performed + w.checks = w.starts + w.ticks := by
  constructor
  · intro w hw warning hwarning
    rcases (warranted_of_reachableWhere hw).warnings warning hwarning with
      ⟨notification, hmem, hprovider, hmessage, hdate⟩ |
      ⟨notification, hmem, hprovider, hmessage, hdate⟩
    · exact ⟨notification, hmem, hprovider, .inl hmessage, hdate⟩
    · exact ⟨notification, hmem, hprovider, .inr hmessage, hdate⟩
  · intro w hw
    have hscheduled : w.Scheduled := scheduled_of_reachable hw
    exact ⟨hscheduled.timer, hscheduled.begun⟩

def slowResponse : ServiceHealth := ⟨.deepL, .degraded, 9, 1 / 5, 0, none⟩

def quickDraw : SimulatedDraw := ⟨1, 0, by norm_num, by norm_num⟩

def slowRun : List HealthMonitoringAction :=
  [.updateServiceHealth slowResponse, .updateServiceHealth slowResponse,
    .updateServiceHealth slowResponse, .performHealthCheck (fun _ => quickDraw) .written]

/-- A provider that responds slowly three times in a row. -/
theorem trends_never_first_slow : ∃ w : HealthMonitoring,
    (healthMonitoring (Clock.ofGaps [])).exec (initial (Clock.ofGaps [])) slowRun = some w
      ∧ w.changed.map (fun warning => warning.message)
        = ["Performance degrading: 9000ms avg response, 20.0% error rate"]
      ∧ ∀ warning ∈ w.changed, ∃ notification ∈ w.needed,
          notification.provider = warning.provider := by
  have hexec : (healthMonitoring (Clock.ofGaps [])).exec (initial (Clock.ofGaps [])) slowRun
      = some _ := rfl
  have hclear : ∀ x ∈ (healthMonitoring (Clock.ofGaps [])).transitions
      (initial (Clock.ofGaps [])) slowRun, KeepsClear x.1 x.2.1 := by
    rintro x (_ | ⟨_, _ | ⟨_, _ | ⟨_, _ | ⟨_, hx⟩⟩⟩⟩) <;>
      first | exact trivial | cases hx | exact (by decide +kernel : ClearOfThreshold slowResponse)
  have hwarnings := (trends_never_first _).1 _
    (Machine.reachableWhere_of_exec rfl slowRun hexec hclear)
  refine ⟨_, hexec, by decide +kernel, fun warning hwarning => ?_⟩
  obtain ⟨notification, hmem, hprovider, -⟩ := hwarnings warning hwarning
  exact ⟨notification, hmem, hprovider⟩

/-- Rates at the threshold average to more than it, and a trend warns first. -/
example :
    let tenth : HealthMonitoringAction :=
      .updateServiceHealth ⟨.deepL, .healthy, 1, 1 / 10, 0, none⟩
    ∃ w, (healthMonitoring (Clock.ofGaps [])).exec (initial (Clock.ofGaps []))
        [tenth, tenth, tenth, .performHealthCheck (fun _ => quickDraw) .written] = some w
      ∧ w.needed = [] ∧ w.changed.length = 1 :=
  ⟨_, rfl, by decide +kernel, by decide +kernel⟩

end HealthMonitoring

end SkillTalk
