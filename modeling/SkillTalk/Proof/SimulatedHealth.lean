import SkillTalk.Proof.FailoverRouting
import SkillTalk.Proof.HealthTrends

/-!
# Runs with simulated health only

A simulated record stays below both thresholds and is never a failed one. So a monitor that gets no
other updates neither warns nor asks for a failover. A failover manager beside it makes no switch of
its own but back to a primary, and none at all before someone triggers one by hand.
-/

namespace SkillTalk

namespace ServiceHealthMonitor

theorem failoverReasons_simulatedHealth (provider : ServiceProvider) (draw : SimulatedDraw)
    (now : Date) : failoverReasons (simulatedHealth provider draw now) = [] := by
  have hresponse := draw.responseTime_mem.2
  have herror := draw.errorRate_mem.2
  by_contra hreasons
  rcases failoverReasons_ne_nil_iff.mp hreasons with hfailed | hslow | hfaulty
  · unfold simulatedHealth at hfailed
    dsimp only at hfailed
    split at hfailed <;> cases hfailed
  · simp only [simulatedHealth] at hslow
    linarith
  · simp only [simulatedHealth] at hfaulty
    linarith

end ServiceHealthMonitor

/-! ### The monitor -/

namespace HealthMonitoring

open ServiceHealthMonitor

variable {clock : Clock Date} {w : HealthMonitoring}

def SimulatedOnly (_ : HealthMonitoring) : HealthMonitoringAction → Prop
  | .updateServiceHealth _ => False
  | _ => True

/-- A provider has a simulated record if it is one of the six, and else is unknown. -/
structure Simulated (provider : ServiceProvider) (health : ServiceHealth) : Prop where
  responseTime : health.responseTime ≤ if provider ∈ simulatedProviders then 2 else 0
  errorRate : health.errorRate ≤ if provider ∈ simulatedProviders then 1 / 20 else 0
  unknown : provider ∉ simulatedProviders → health.status = .unknown

structure Quiet (w : HealthMonitoring) : Prop where
  needed : w.needed = []
  current : ∀ provider, ∃ health, w.monitor.serviceHealthMap provider = some health
    ∧ Simulated provider health

theorem simulated_simulatedHealth {provider : ServiceProvider}
    (hprovider : provider ∈ simulatedProviders) (draw : SimulatedDraw) (now : Date) :
    Simulated provider (simulatedHealth provider draw now) := by
  refine ⟨?_, ?_, fun hother => absurd hprovider hother⟩
  · rw [if_pos hprovider]
    exact draw.responseTime_mem.2
  · rw [if_pos hprovider]
    exact draw.errorRate_mem.2

theorem Quiet.simulateHealthCheck (h : w.Quiet) {provider : ServiceProvider}
    (hprovider : provider ∈ simulatedProviders) (draws : ServiceProvider → SimulatedDraw) :
    (w.simulateHealthCheck clock draws provider).Quiet := by
  refine ⟨?_, fun other => ?_⟩
  · rw [HealthMonitoring.simulateHealthCheck, needed_updateServiceHealth,
      failoverReasons_simulatedHealth, h.needed]
    rfl
  · by_cases hother : other = provider
    · subst hother
      exact ⟨_, Function.update_self _ _ _, simulated_simulatedHealth hprovider _ _⟩
    · obtain ⟨health, hhealth, hsimulated⟩ := h.current other
      exact ⟨health, (Function.update_of_ne hother _ _).trans hhealth, hsimulated⟩

theorem Quiet.simulateHealthChecks (h : w.Quiet) (draws : ServiceProvider → SimulatedDraw) :
    (w.simulateHealthChecks clock draws).Quiet := by
  apply List.foldlRecOn
  · exact h
  · intro checked hchecked provider hprovider
    exact hchecked.simulateHealthCheck hprovider draws

theorem quiet_startMonitoring (h : w.Quiet) : (w.startMonitoring clock).Quiet := by
  unfold startMonitoring
  split
  · exact h
  · exact ⟨h.needed, h.current⟩

theorem quiet_of_reachableWhere (hw : (healthMonitoring clock).ReachableWhere SimulatedOnly w) :
    w.Quiet := by
  refine Machine.ReachableWhere.invariant Quiet ?_ ?_ hw
  · rintro w rfl
    refine quiet_startMonitoring ⟨rfl, fun provider => ⟨_, rfl, ?_, ?_, fun _ => rfl⟩⟩
    · split <;> norm_num
    · split <;> norm_num
  · intro w action v _ hw hallowed hstep
    cases action with
    | updateServiceHealth health => exact hallowed.elim
    | startMonitoring =>
        obtain rfl := Option.some.inj hstep
        exact quiet_startMonitoring hw
    | stopMonitoring =>
        obtain rfl := Option.some.inj hstep
        unfold stopMonitoring
        split
        · exact ⟨hw.needed, hw.current⟩
        · exact hw
    | tick =>
        simp only [healthMonitoring, step] at hstep
        split at hstep
        · cases hstep
        · obtain ⟨-, hv⟩ := Option.ite_none_right_eq_some.mp hstep
          obtain rfl := Option.some.inj hv
          exact ⟨hw.needed, hw.current⟩
    | performHealthCheck draws order =>
        obtain ⟨-, hv⟩ := Option.ite_none_left_eq_some.mp hstep
        obtain rfl := Option.some.inj hv
        have hchecked : (w.simulateHealthChecks clock draws).Quiet := hw.simulateHealthChecks draws
        exact ⟨hchecked.needed, hchecked.current⟩

/-! ### Its metrics -/

variable {monitor : ServiceHealthMonitor} {records : ServiceProvider → ServiceHealth}

theorem healthValues_eq (h : ∀ provider, monitor.serviceHealthMap provider = some (records provider)) :
    monitor.healthValues = ServiceProvider.allCases.map records := by
  have hmap : monitor.serviceHealthMap = fun provider => some (records provider) := funext h
  rw [healthValues, hmap, List.filterMap_eq_map']

theorem averageOver_le {field : ServiceHealth → ℚ} {bound : ℚ}
    (h : ∀ provider, monitor.serviceHealthMap provider = some (records provider))
    (hfield : ∀ provider, field (records provider)
      ≤ if provider ∈ simulatedProviders then bound else 0) :
    monitor.averageOver field ≤ 2 / 5 * bound := by
  have hsum : (ServiceProvider.allCases.map (field ∘ records)).sum
      ≤ (ServiceProvider.allCases.map fun provider =>
          if provider ∈ simulatedProviders then bound else 0).sum :=
    List.sum_le_sum fun provider _ => hfield provider
  have htotal : (ServiceProvider.allCases.map fun provider =>
      if provider ∈ simulatedProviders then bound else 0).sum = 6 * bound := by
    simp [ServiceProvider.allCases, simulatedProviders]
    linarith
  have haverage : monitor.averageOver field
      = (ServiceProvider.allCases.map (field ∘ records)).sum / 15 := by
    rw [averageOver, healthValues_eq h, List.map_map]
    simp [ServiceProvider.allCases]
  rw [haverage, div_le_iff₀ (by norm_num)]
  linarith

theorem overallHealthScore_le
    (h : ∀ provider, monitor.serviceHealthMap provider = some (records provider))
    (hunknown : ∀ provider, provider ∉ simulatedProviders → (records provider).status = .unknown) :
    monitor.overallHealthScore ≤ 2 / 5 := by
  have hhealthy : (monitor.healthValues.filter fun health => health.status = .healthy).length
      ≤ 6 := by
    calc (monitor.healthValues.filter fun health => health.status = .healthy).length
        = ServiceProvider.allCases.countP fun provider => (records provider).status = .healthy := by
          rw [healthValues_eq h, ← List.countP_eq_length_filter, List.countP_map]
          rfl
      _ ≤ ServiceProvider.allCases.countP fun provider => provider ∈ simulatedProviders := by
          apply List.countP_mono_left
          intro provider _ hstatus
          rw [decide_eq_true_eq] at hstatus ⊢
          by_contra hother
          rw [hunknown provider hother] at hstatus
          cases hstatus
      _ = 6 := by decide
  have htotal : monitor.healthValues.length = 15 := by
    rw [healthValues_eq h, List.length_map]
    rfl
  have hcast : ((monitor.healthValues.filter fun health => health.status = .healthy).length : ℚ)
      ≤ 6 := by exact_mod_cast hhealthy
  rw [overallHealthScore, htotal]
  simp only [Nat.cast_ofNat, Nat.ofNat_pos, gt_iff_lt, if_true]
  rw [div_le_iff₀ (by norm_num)]
  linarith

/-- **Simulated checks warn of nothing.** In every run of a monitor that gets no updates but those
of its own checks, nothing is posted, the score never exceeds two fifths and the averages stay far
below the thresholds. A provider that is not simulated always needs attention. -/
theorem simulated_checks_quiet (hw : (healthMonitoring clock).ReachableWhere SimulatedOnly w) :
    w.needed = [] ∧ w.changed = []
      ∧ w.monitor.overallHealthScore ≤ 2 / 5
      ∧ w.monitor.averageResponseTime ≤ 4 / 5
      ∧ w.monitor.averageErrorRate ≤ 1 / 50
      ∧ ∀ (order : ProviderOrder) (provider : ServiceProvider), provider ∉ simulatedProviders →
          provider ∈ w.monitor.servicesNeedingAttention order := by
  have hquiet : w.Quiet := quiet_of_reachableWhere hw
  have hwarranted : w.Warranted clock := by
    refine warranted_of_reachableWhere (hw.mono fun _ action _ hsimulated => ?_)
    cases action with
    | updateServiceHealth health => exact hsimulated.elim
    | _ => trivial
  choose records hrecords using hquiet.current
  have hmap : ∀ provider, w.monitor.serviceHealthMap provider = some (records provider) :=
    fun provider => (hrecords provider).1
  refine ⟨hquiet.needed, ?_, ?_, ?_, ?_, ?_⟩
  · rw [List.eq_nil_iff_forall_not_mem]
    intro warning hwarning
    rcases hwarranted.warnings warning hwarning with ⟨_, hasked, -⟩ | ⟨_, hasked, -⟩
    · rw [hquiet.needed] at hasked
      cases hasked
    · rw [hquiet.needed] at hasked
      cases hasked
  · exact overallHealthScore_le hmap fun provider => (hrecords provider).2.unknown
  · have hle := averageOver_le hmap fun provider => (hrecords provider).2.responseTime
    exact hle.trans (by norm_num)
  · have hle := averageOver_le hmap fun provider => (hrecords provider).2.errorRate
    exact hle.trans (by norm_num)
  · intro order provider hother
    refine List.mem_filter.mpr ⟨order.mem_entries provider, ?_⟩
    simp [hmap provider, (hrecords provider).2.unknown hother]

def simulatedRun : List HealthMonitoringAction :=
  [.performHealthCheck (fun _ => quickDraw) .written, .stopMonitoring, .startMonitoring]

theorem simulated_checks_quiet_restarted : ∃ w : HealthMonitoring,
    (healthMonitoring (Clock.ofGaps [])).exec (initial (Clock.ofGaps [])) simulatedRun = some w
      ∧ w.performed = 1 ∧ w.checks = 1 ∧ w.changed = []
      ∧ w.monitor.overallHealthScore ≤ 2 / 5 := by
  have hexec : (healthMonitoring (Clock.ofGaps [])).exec (initial (Clock.ofGaps [])) simulatedRun
      = some _ := rfl
  have hallowed : ∀ x ∈ (healthMonitoring (Clock.ofGaps [])).transitions
      (initial (Clock.ofGaps [])) simulatedRun, SimulatedOnly x.1 x.2.1 := by
    rintro x (_ | ⟨_, _ | ⟨_, _ | ⟨_, hx⟩⟩⟩) <;> first | exact trivial | cases hx
  obtain ⟨-, hchanged, hscore, -⟩ :=
    simulated_checks_quiet (Machine.reachableWhere_of_exec rfl simulatedRun hexec hallowed)
  exact ⟨_, hexec, rfl, rfl, hchanged, hscore⟩

end HealthMonitoring

/-! ### The failover manager beside it -/

namespace FailoverWorld

variable {clock : Clock Date} {w v : FailoverWorld}

/-- Health updates are those of simulated checks. -/
def SimulatedUpdates (_ : FailoverWorld) : FailoverAction → Prop
  | .updateServiceHealth health =>
      ∃ provider draw now, health = ServiceHealthMonitor.simulatedHealth provider draw now
  | _ => True

/-- Every automatic switch went back to a primary, and a type on its backup was put there by
hand. -/
structure ByHand (w : FailoverWorld) : Prop where
  automatic : ∀ event ∈ w.completed, event.isAutomatic = true →
    ∃ pair, providerPair event.serviceType = some pair ∧ event.toProvider = pair.primary
  backup : ∀ serviceType pair, providerPair serviceType = some pair →
    w.getActiveProvider serviceType = pair.backup →
    ∃ event ∈ w.completed, event.serviceType = serviceType ∧ event.isAutomatic = false
      ∧ event.toProvider = pair.backup

/-- Before the first switch nothing watches for a recovery. -/
def Idle (w : FailoverWorld) : Prop :=
  (∀ provider, w.recoveryTimers provider = none) ∧ w.recoveryChecks = [] ∧ w.failbacks = []

theorem ByHand.frame (h : w.ByHand) (hsame : SameRouting w v) : v.ByHand := by
  constructor
  · rw [hsame.completed]
    exact h.automatic
  · intro serviceType pair hpair hactive
    rw [hsame.getActiveProvider] at hactive
    rw [hsame.completed]
    exact h.backup serviceType pair hpair hactive

theorem ByHand.perform (h : w.ByHand) {call : FailoverCall} {pair : ProviderPair}
    (hpair : providerPair call.serviceType = some pair)
    (hautomatic : call.isAutomatic = true → call.targetProvider = pair.primary) :
    (w.perform clock call).ByHand := by
  rcases perform_cases clock w call with ⟨-, hrefused⟩ | ⟨-, hswitched⟩
  · rw [hrefused]
    exact ⟨h.automatic, h.backup⟩
  · have hcompleted := hswitched.completed
    constructor
    · intro event hevent hauto
      rw [hcompleted] at hevent
      rcases List.mem_append.mp hevent with hold | hnew
      · exact h.automatic event hold hauto
      · obtain rfl := List.mem_singleton.mp hnew
        exact ⟨pair, hpair, hautomatic hauto⟩
    · intro serviceType other hother hactive
      by_cases htype : serviceType = call.serviceType
      · subst htype
        obtain rfl : pair = other := Option.some.inj (hpair.symm.trans hother)
        have htarget : call.targetProvider = pair.backup := by
          simpa [getActiveProvider, hswitched.active] using hactive
        refine ⟨call.event (clock.reading (w.reads + 1)), ?_, rfl, ?_, htarget⟩
        · rw [hcompleted]
          exact List.mem_append_right _ (List.mem_singleton_self _)
        · cases hauto : call.isAutomatic with
          | false => exact hauto
          | true => exact absurd ((hautomatic hauto).symm.trans htarget) (primary_ne_backup hother)
      · have hsame : (w.perform clock call).getActiveProvider serviceType
            = w.getActiveProvider serviceType :=
          getActiveProvider_congr (by rw [hswitched.active, Function.update_of_ne htype])
        obtain ⟨event, hevent, hrest⟩ := h.backup serviceType other hother (hsame ▸ hactive)
        exact ⟨event, hcompleted ▸ List.mem_append_left _ hevent, hrest⟩

/-- Without pending degradations a step switches by hand or back to a primary. -/
theorem ByHand.step {action : FailoverAction} (h : w.ByHand) (htasks : w.TasksWellFormed)
    (hdegradations : w.degradations = []) (hstep : w.step clock action = some v) : v.ByHand := by
  refine (step_switchesBy hstep).invariant ByHand (fun _ _ hsame hu => hu.frame hsame) ?_ h
  intro u call _ hcall hu
  cases action with
  | triggerFailover serviceType reason =>
      obtain ⟨-, rfl, hmanual, -, pair, hpair, -⟩ := hcall
      exact hu.perform hpair fun hauto => absurd hauto (by rw [hmanual]; exact Bool.false_ne_true)
  | handleHealthDegradation index order =>
      obtain ⟨notification, hnotification, -⟩ := hcall
      rw [hdegradations] at hnotification
      cases hnotification
  | resumeFailback index =>
      obtain ⟨task, htask, -, -, htype, -, -, htarget⟩ := hcall
      have htaskWF : task.WellFormed := htasks task (List.mem_of_getElem? htask)
      exact hu.perform (htype ▸ htaskWF.paired) fun _ => htarget.trans htaskWF.primary.symm
  | updateServiceHealth | fireTimer | checkProviderRecovery => exact hcall.elim

theorem degradations_considerRecoveryFailback (w : FailoverWorld) (provider : ServiceProvider)
    (entries : List (ServiceType × ProviderPair)) :
    (w.considerRecoveryFailback clock provider entries).degradations = w.degradations := by
  rcases considerRecoveryFailback_cases clock w provider entries with
    ⟨_, _, _, _, _, _, _, _, hworld⟩ | ⟨_, hworld⟩ <;> rw [hworld]
  rfl

theorem degradations_simulatedHealth (w : FailoverWorld) (provider : ServiceProvider)
    (draw : SimulatedDraw) (now : Date) :
    (w.updateServiceHealth clock
      (ServiceHealthMonitor.simulatedHealth provider draw now)).degradations = w.degradations := by
  have hposted := ServiceHealthMonitor.posted_updateServiceHealth clock w.reads w.healthMonitor
    (ServiceHealthMonitor.simulatedHealth provider draw now)
  rw [ServiceHealthMonitor.failoverReasons_simulatedHealth] at hposted
  calc (w.updateServiceHealth clock
        (ServiceHealthMonitor.simulatedHealth provider draw now)).degradations
      = w.degradations ++ (w.healthMonitor.updateServiceHealth clock w.reads
          (ServiceHealthMonitor.simulatedHealth provider draw now)).2 := rfl
    _ = w.degradations := by rw [hposted, List.mapIdx_nil, List.append_nil]

theorem degradations_step {action : FailoverAction} (hdegradations : w.degradations = [])
    (hallowed : SimulatedUpdates w action) (hstep : w.step clock action = some v) :
    v.degradations = [] := by
  rw [← hdegradations]
  cases action with
  | triggerFailover serviceType reason =>
      obtain rfl := Option.some.inj hstep
      exact (triggerFailover_sameQueue ..).degradations
  | updateServiceHealth health =>
      obtain ⟨provider, draw, now, rfl⟩ := hallowed
      obtain rfl := Option.some.inj hstep
      exact degradations_simulatedHealth w provider draw now
  | handleHealthDegradation index order =>
      obtain ⟨notification, hnotification, -⟩ := Option.map_eq_some_iff.mp hstep
      rw [hdegradations] at hnotification
      cases hnotification
  | fireTimer provider =>
      obtain ⟨timer, -, rfl⟩ := fireTimer_of_step hstep
      rfl
  | checkProviderRecovery index order =>
      obtain ⟨provider, -, rfl⟩ := Option.map_eq_some_iff.mp hstep
      rcases checkProviderRecovery_cases clock order
        { w with recoveryChecks := w.recoveryChecks.eraseIdx index } provider with h | h <;> rw [h]
      exact degradations_considerRecoveryFailback ..
  | resumeFailback index =>
      obtain ⟨task, -, rfl⟩ := resumeFailback_of_step hstep
      rw [resumeFailback, degradations_considerRecoveryFailback]
      split
      · exact (performFailover_sameQueue ..).degradations
      · rfl

theorem triggerFailover_cases (w : FailoverWorld) (serviceType : ServiceType) (reason : String) :
    w.triggerFailover clock serviceType reason = w
      ∨ ∃ call : FailoverCall, call.isAutomatic = false
          ∧ w.triggerFailover clock serviceType reason = w.perform clock call := by
  unfold triggerFailover
  split
  · exact .inl rfl
  · exact .inr ⟨⟨serviceType, _, _, reason, false⟩, rfl, rfl⟩

/-- Only a switch by hand ends the idleness, and it is the first. -/
theorem idle_step {action : FailoverAction} (hidle : w.Idle) (hnone : w.completed = [])
    (hdegradations : w.degradations = []) (hstep : w.step clock action = some v) :
    v.completed = [] ∧ v.Idle ∨ ∃ event, v.completed = [event] ∧ event.isAutomatic = false := by
  obtain ⟨htimers, hchecks, hfailbacks⟩ := hidle
  cases action with
  | triggerFailover serviceType reason =>
      obtain rfl : w.triggerFailover clock serviceType reason = v := Option.some.inj hstep
      rcases triggerFailover_cases  w serviceType reason with
        hsame | ⟨call, hmanual, hperform⟩
      · rw [hsame]
        exact .inl ⟨hnone, htimers, hchecks, hfailbacks⟩
      · rw [hperform]
        rcases perform_cases clock w call with ⟨-, hrefused⟩ | ⟨-, hswitched⟩
        · rw [hrefused]
          exact .inl ⟨hnone, htimers, hchecks, hfailbacks⟩
        · refine .inr ⟨call.event (clock.reading (w.reads + 1)), ?_, hmanual⟩
          rw [hswitched.completed, hnone, List.nil_append]
  | updateServiceHealth health =>
      obtain rfl := Option.some.inj hstep
      exact .inl ⟨hnone, htimers, hchecks, hfailbacks⟩
  | handleHealthDegradation index order =>
      obtain ⟨notification, hnotification, -⟩ := Option.map_eq_some_iff.mp hstep
      rw [hdegradations] at hnotification
      cases hnotification
  | fireTimer provider =>
      obtain ⟨timer, htimer, -⟩ := fireTimer_of_step hstep
      rw [htimers provider] at htimer
      cases htimer
  | checkProviderRecovery index order =>
      obtain ⟨provider, hprovider, -⟩ := Option.map_eq_some_iff.mp hstep
      rw [hchecks] at hprovider
      cases hprovider
  | resumeFailback index =>
      obtain ⟨task, htask, -⟩ := resumeFailback_of_step hstep
      rw [hfailbacks] at htask
      cases htask

/-- No degradation waits, and the first switch was by hand. -/
structure Undegraded (w : FailoverWorld) : Prop where
  degradations : w.degradations = []
  byHand : w.ByHand
  first : w.completed = [] ∧ w.Idle
    ∨ ∃ event, w.completed.head? = some event ∧ event.isAutomatic = false

theorem completed_prefix {action : FailoverAction} (hstep : w.step clock action = some v) :
    w.completed <+: v.completed := by
  refine (step_switchesBy hstep).invariant (fun u => w.completed <+: u.completed) ?_ ?_
    List.prefix_rfl
  · intro u u' hsame hu
    exact hsame.completed ▸ hu
  · intro u call _ _ hu
    rcases perform_cases clock u call with ⟨-, hrefused⟩ | ⟨-, hswitched⟩
    · rw [hrefused]
      exact hu
    · rw [hswitched.completed]
      exact hu.trans (List.prefix_append _ _)

theorem undegraded_of_reachableWhere (hw : (failover clock).ReachableWhere SimulatedUpdates w) :
    w.Undegraded := by
  refine Machine.ReachableWhere.invariant Undegraded ?_ ?_ hw
  · rintro w rfl
    refine ⟨rfl, ⟨by simp [initial], fun serviceType pair hpair hactive => ?_⟩,
      .inl ⟨rfl, fun _ => rfl, rfl, rfl⟩⟩
    have hprimary : (initial clock).getActiveProvider serviceType = pair.primary := by
      simp [getActiveProvider, initial, setupFailoverManager, hpair]
    exact absurd (hprimary.symm.trans hactive) (primary_ne_backup hpair)
  · intro w action v hreach hw hallowed hstep
    have htasks : w.TasksWellFormed := tasksWellFormed_of_reachable hreach.reachable
    refine ⟨degradations_step hw.degradations hallowed hstep,
      hw.byHand.step htasks hw.degradations hstep, ?_⟩
    rcases hw.first with ⟨hnone, hidle⟩ | ⟨event, hfirst, hmanual⟩
    · rcases idle_step hidle hnone hw.degradations hstep with hstill | ⟨event, hevent, hmanual⟩
      · exact .inl hstill
      · exact .inr ⟨event, by rw [hevent]; rfl, hmanual⟩
    · obtain ⟨later, hlater⟩ := completed_prefix hstep
      refine .inr ⟨event, ?_, hmanual⟩
      rw [← hlater, List.head?_append, hfirst]
      rfl

/-- **Simulated checks never fail over.** In every run of the failover manager whose health updates
are simulated ones, with any triggers, timers and failbacks: no degradation is ever waiting to be
handled, an automatic switch goes back to the primary, a type on its backup was switched there by
hand, and before the first switch by hand there is no switch at all. -/
theorem simulated_checks_never_fail_over
    (hw : (failover clock).ReachableWhere SimulatedUpdates w) :
    w.degradations = []
      ∧ (∀ event ∈ w.completed, event.isAutomatic = true →
          ∃ pair, providerPair event.serviceType = some pair ∧ event.toProvider = pair.primary)
      ∧ (∀ serviceType pair, providerPair serviceType = some pair →
          w.getActiveProvider serviceType = pair.backup →
          ∃ event ∈ w.completed, event.serviceType = serviceType ∧ event.isAutomatic = false
            ∧ event.toProvider = pair.backup)
      ∧ ∀ event, w.completed.head? = some event → event.isAutomatic = false := by
  have hundegraded : w.Undegraded := undegraded_of_reachableWhere hw
  refine ⟨hundegraded.degradations, hundegraded.byHand.automatic, hundegraded.byHand.backup, ?_⟩
  intro event hevent
  rcases hundegraded.first with ⟨hnone, -⟩ | ⟨first, hfirst, hmanual⟩
  · rw [hnone] at hevent
    cases hevent
  · obtain rfl : first = event := Option.some.inj (hfirst.symm.trans hevent)
    exact hmanual

def recoveryByHand : List FailoverAction :=
  [.triggerFailover .authentication "manual",
    .updateServiceHealth (ServiceHealthMonitor.simulatedHealth .firebase
      HealthMonitoring.quickDraw 0), .fireTimer .firebase,
    .checkProviderRecovery 0 .written, .resumeFailback 0]

theorem simulatedUpdates_recoveryByHand {action : FailoverAction}
    (haction : action ∈ recoveryByHand) : SimulatedUpdates w action := by
  simp only [recoveryByHand, List.mem_cons, List.not_mem_nil, or_false] at haction
  rcases haction with rfl | rfl | rfl | rfl | rfl
  · trivial
  · exact ⟨_, _, _, rfl⟩
  · trivial
  · trivial
  · trivial

/-- A type switched by hand is returned to its primary after a simulated check. -/
theorem simulated_checks_never_fail_over_returned :
    let clock := Clock.ofGaps (List.replicate 40 100)
    ∃ w : FailoverWorld, (failover clock).exec (initial clock) recoveryByHand = some w
      ∧ w.completed.map (fun event => event.isAutomatic) = [false, true]
      ∧ ∀ event ∈ w.completed, event.isAutomatic = true →
          ∃ pair, providerPair event.serviceType = some pair ∧ event.toProvider = pair.primary := by
  intro clock
  obtain ⟨w, hexec, hswitches⟩ := (Option.any_eq_true
    (fun w : FailoverWorld => w.completed.map (fun event => event.isAutomatic) = [false, true])
    ((failover clock).exec (initial clock) recoveryByHand)).mp (by decide +kernel)
  have hreach : (failover clock).ReachableWhere SimulatedUpdates w :=
    Machine.reachableWhere_of_exec rfl recoveryByHand hexec fun x hx =>
      simulatedUpdates_recoveryByHand (Machine.label_mem_of_mem_transitions hx)
  obtain ⟨-, hautomatic, -⟩ := simulated_checks_never_fail_over hreach
  exact ⟨w, hexec, of_decide_eq_true hswitches, hautomatic⟩

end FailoverWorld

end SkillTalk
