import SkillTalk.ServiceFailoverManager

/-!
# What one step of the failover manager can do

The routing (active providers, history, cooldowns and posted switches) changes only through
`performFailover`. `SwitchesBy` says that one world leads to another by calls of it that a predicate
allows, and `step_switchesBy` says once, for each job of the main actor, which calls these are. The
invariants of the routing are all derived from these two.
-/

namespace SkillTalk

def ProviderPair.other (pair : ProviderPair) (provider : ServiceProvider) : ServiceProvider :=
  if provider = pair.primary then pair.backup else pair.primary

theorem ProviderPair.other_mem (pair : ProviderPair) (provider : ServiceProvider) :
    pair.other provider = pair.primary ∨ pair.other provider = pair.backup := by
  unfold other
  split <;> simp

theorem providerPair_eq_of_mem :
    ∀ entry ∈ providerPairs, providerPair entry.1 = some entry.2 := by
  decide

theorem mem_providerPairs_iff {serviceType : ServiceType} {pair : ProviderPair} :
    (serviceType, pair) ∈ providerPairs ↔ providerPair serviceType = some pair := by
  constructor
  · exact providerPair_eq_of_mem (serviceType, pair)
  · intro h
    obtain ⟨before, after, hsplit, _⟩ := List.lookup_eq_some_iff.mp h
    rw [hsplit]
    simp

theorem primary_ne_backup {serviceType : ServiceType} {pair : ProviderPair}
    (h : providerPair serviceType = some pair) : pair.primary ≠ pair.backup := by
  have hall : ∀ entry ∈ providerPairs, entry.2.primary ≠ entry.2.backup := by decide
  exact hall _ (mem_providerPairs_iff.mpr h)

theorem ProviderPair.other_ne {pair : ProviderPair} (h : pair.primary ≠ pair.backup)
    (provider : ServiceProvider) : pair.other provider ≠ provider := by
  unfold other
  split
  · rename_i heq
    exact heq ▸ h.symm
  · exact fun heq => by simp_all

theorem PairOrder.mem_entries_iff {order : PairOrder} {serviceType : ServiceType}
    {pair : ProviderPair} :
    (serviceType, pair) ∈ order.entries ↔ providerPair serviceType = some pair := by
  rw [order.perm.mem_iff, mem_providerPairs_iff]

structure FailoverCall where
  serviceType : ServiceType
  sourceProvider : ServiceProvider
  targetProvider : ServiceProvider
  reason : String
  isAutomatic : Bool

def FailoverCall.event (call : FailoverCall) (timestamp : Date) : FailoverEvent where
  serviceType := call.serviceType
  fromProvider := call.sourceProvider
  toProvider := call.targetProvider
  reason := call.reason
  timestamp := timestamp
  isAutomatic := call.isAutomatic

def FailbackTask.call (task : FailbackTask) : FailoverCall where
  serviceType := task.serviceType
  sourceProvider := task.providerPair.backup
  targetProvider := task.recoveredProvider
  reason := "Primary provider recovered"
  isAutomatic := true

namespace FailoverWorld

variable (clock : Clock Date)

def perform (w : FailoverWorld) (call : FailoverCall) : FailoverWorld :=
  w.performFailover clock call.serviceType call.sourceProvider call.targetProvider call.reason
    call.isAutomatic

/-- What a call that gets past the cooldown does, `v` being the world after it. -/
structure Switched (w : FailoverWorld) (call : FailoverCall) (v : FailoverWorld) : Prop where
  active : v.activeProviders
    = Function.update w.activeProviders call.serviceType (some call.targetProvider)
  cooldowns : v.failoverCooldowns
    = Function.update w.failoverCooldowns call.serviceType (some (clock.reading (w.reads + 2)))
  completed : v.completed = w.completed ++ [call.event (clock.reading (w.reads + 1))]
  history : v.failoverHistory <:+
    w.failoverHistory ++ [call.event (clock.reading (w.reads + 1))]
  timers : v.recoveryTimers = Function.update w.recoveryTimers call.sourceProvider
    (some { fireDate := clock.reading (w.reads + 3) + recoveryCheckInterval })
  reads : v.reads = w.reads + 4

theorem inCooldown_iff {w : FailoverWorld} {now : Date} {serviceType : ServiceType} :
    w.inCooldown now serviceType = true
      ↔ ∃ last ∈ w.failoverCooldowns serviceType, now - last < cooldownDuration := by
  unfold inCooldown
  cases w.failoverCooldowns serviceType <;> simp

variable {clock} in
theorem perform_of_inCooldown {w : FailoverWorld} {call : FailoverCall}
    (hcooldown : w.inCooldown (clock.reading w.reads) call.serviceType = true) :
    w.perform clock call = { w with reads := w.reads + 1 } := by
  simp [perform, performFailover, hcooldown]

variable {clock} in
theorem switched_of_not_inCooldown {w : FailoverWorld} {call : FailoverCall}
    (hopen : w.inCooldown (clock.reading w.reads) call.serviceType = false) :
    Switched clock w call (w.perform clock call) := by
  have hperform : w.perform clock call
      = switchProvider clock { w with reads := w.reads + 1 } call.serviceType
          call.sourceProvider call.targetProvider call.reason call.isAutomatic := by
    simp [perform, performFailover, hopen]
  rw [hperform]
  refine ⟨rfl, rfl, rfl, ?_, rfl, rfl⟩
  simp only [switchProvider, startRecoveryMonitoring, notifyFailover]
  split
  · exact List.drop_suffix _ _
  · exact List.suffix_rfl

/-- A call is refused by the cooldown, and then only reads the clock, or it switches. -/
theorem perform_cases (w : FailoverWorld) (call : FailoverCall) :
    w.inCooldown (clock.reading w.reads) call.serviceType = true
        ∧ w.perform clock call = { w with reads := w.reads + 1 }
      ∨ w.inCooldown (clock.reading w.reads) call.serviceType = false
        ∧ Switched clock w call (w.perform clock call) := by
  cases hcooldown : w.inCooldown (clock.reading w.reads) call.serviceType with
  | true => exact .inl ⟨rfl, perform_of_inCooldown hcooldown⟩
  | false => exact .inr ⟨rfl, switched_of_not_inCooldown hcooldown⟩

def degradeCall (notification : ServiceHealthNotification) (entry : ServiceType × ProviderPair) :
    FailoverCall where
  serviceType := entry.1
  sourceProvider := notification.provider
  targetProvider := entry.2.other notification.provider
  reason := notification.message
  isAutomatic := true

theorem degradeEntry_of_active {notification : ServiceHealthNotification} {w : FailoverWorld}
    {entry : ServiceType × ProviderPair}
    (hactive : w.getActiveProvider entry.1 = notification.provider) :
    degradeEntry clock notification w entry = w.perform clock (degradeCall notification entry) := by
  rw [degradeEntry, if_pos hactive]
  rfl

theorem degradeEntry_of_not_active {notification : ServiceHealthNotification} {w : FailoverWorld}
    {entry : ServiceType × ProviderPair}
    (hactive : w.getActiveProvider entry.1 ≠ notification.provider) :
    degradeEntry clock notification w entry = w := by
  rw [degradeEntry, if_neg hactive]

/-- The two worlds agree on the routing, and the second is no earlier. -/
structure SameRouting (w v : FailoverWorld) : Prop where
  active : v.activeProviders = w.activeProviders
  history : v.failoverHistory = w.failoverHistory
  cooldowns : v.failoverCooldowns = w.failoverCooldowns
  completed : v.completed = w.completed
  reads : w.reads ≤ v.reads

/-- The two worlds agree on the health monitor and on the work that waits. -/
structure SameQueue (w v : FailoverWorld) : Prop where
  healthMonitor : v.healthMonitor = w.healthMonitor
  degradations : v.degradations = w.degradations
  recoveryChecks : v.recoveryChecks = w.recoveryChecks
  failbacks : v.failbacks = w.failbacks

theorem SameRouting.getActiveProvider {w v : FailoverWorld} (h : SameRouting w v)
    (serviceType : ServiceType) :
    v.getActiveProvider serviceType = w.getActiveProvider serviceType := by
  simp [FailoverWorld.getActiveProvider, h.active]

theorem SameRouting.refl (w : FailoverWorld) : SameRouting w w := ⟨rfl, rfl, rfl, rfl, le_rfl⟩

theorem SameRouting.trans {u v w : FailoverWorld} (huv : SameRouting u v)
    (hvw : SameRouting v w) : SameRouting u w where
  active := hvw.active.trans huv.active
  history := hvw.history.trans huv.history
  cooldowns := hvw.cooldowns.trans huv.cooldowns
  completed := hvw.completed.trans huv.completed
  reads := huv.reads.trans hvw.reads

theorem SameQueue.refl (w : FailoverWorld) : SameQueue w w := ⟨rfl, rfl, rfl, rfl⟩

theorem SameQueue.trans {u v w : FailoverWorld} (huv : SameQueue u v) (hvw : SameQueue v w) :
    SameQueue u w where
  healthMonitor := hvw.healthMonitor.trans huv.healthMonitor
  degradations := hvw.degradations.trans huv.degradations
  recoveryChecks := hvw.recoveryChecks.trans huv.recoveryChecks
  failbacks := hvw.failbacks.trans huv.failbacks

theorem performFailover_sameQueue (w : FailoverWorld) (serviceType : ServiceType)
    (sourceProvider targetProvider : ServiceProvider) (reason : String) (isAutomatic : Bool) :
    SameQueue w
      (w.performFailover clock serviceType sourceProvider targetProvider reason isAutomatic) := by
  unfold performFailover
  dsimp only
  split <;> exact ⟨rfl, rfl, rfl, rfl⟩

theorem triggerFailover_sameQueue (w : FailoverWorld) (serviceType : ServiceType)
    (reason : String) : SameQueue w (w.triggerFailover clock serviceType reason) := by
  unfold triggerFailover
  split
  · exact .refl w
  · exact performFailover_sameQueue ..

theorem degradeEntry_sameQueue (notification : ServiceHealthNotification) (w : FailoverWorld)
    (entry : ServiceType × ProviderPair) :
    SameQueue w (degradeEntry clock notification w entry) := by
  unfold degradeEntry
  split
  · exact performFailover_sameQueue ..
  · exact .refl w

theorem handleHealthDegradation_sameQueue (order : PairOrder) (w : FailoverWorld)
    (notification : ServiceHealthNotification) :
    SameQueue w (handleHealthDegradation clock order w notification) := by
  unfold handleHealthDegradation
  induction order.entries generalizing w with
  | nil => exact .refl w
  | cons entry entries ih => exact (degradeEntry_sameQueue clock notification w entry).trans (ih _)

/-- **Where the failback loop stops.** It sleeps for the first entry whose primary has recovered and
whose backup is active, and posts the recovery when there is none. -/
theorem considerRecoveryFailback_cases (w : FailoverWorld) (provider : ServiceProvider)
    (entries : List (ServiceType × ProviderPair)) :
    (∃ before serviceType pair after, entries = before ++ (serviceType, pair) :: after
      ∧ (∀ entry ∈ before,
          ¬ (entry.2.primary = provider ∧ w.getActiveProvider entry.1 = entry.2.backup))
      ∧ pair.primary = provider ∧ w.getActiveProvider serviceType = pair.backup
      ∧ w.considerRecoveryFailback clock provider entries
        = { w with
            failbacks := w.failbacks ++
              [⟨provider, serviceType, pair, after, clock.reading w.reads + failbackDelay⟩]
            reads := w.reads + 1 })
    ∨ (∀ entry ∈ entries,
          ¬ (entry.2.primary = provider ∧ w.getActiveProvider entry.1 = entry.2.backup))
      ∧ w.considerRecoveryFailback clock provider entries = w.notifyRecovery clock provider := by
  induction entries with
  | nil => exact .inr ⟨by simp, rfl⟩
  | cons entry entries ih =>
      obtain ⟨serviceType, pair⟩ := entry
      by_cases hstop : pair.primary = provider ∧ w.getActiveProvider serviceType = pair.backup
      · refine .inl ⟨[], serviceType, pair, entries, rfl, by simp, hstop.1, hstop.2, ?_⟩
        rw [considerRecoveryFailback, if_pos hstop]
      · have hskip : w.considerRecoveryFailback clock provider ((serviceType, pair) :: entries)
            = w.considerRecoveryFailback clock provider entries := by
          rw [considerRecoveryFailback, if_neg hstop]
        rcases ih with
          ⟨before, st, p, after, hsplit, hbefore, hprimary, hactive, hworld⟩ | ⟨hall, hworld⟩
        · refine .inl ⟨(serviceType, pair) :: before, st, p, after, by rw [hsplit]; rfl, ?_,
            hprimary, hactive, hskip.trans hworld⟩
          exact List.forall_mem_cons.mpr ⟨hstop, hbefore⟩
        · exact .inr ⟨List.forall_mem_cons.mpr ⟨hstop, hall⟩, hskip.trans hworld⟩

/-- **How a failback resumes.** It goes on in a world `u`: refused by the health check or the
cooldown, and then only the clock has been read, or switched. -/
theorem resumeFailback_cases (w : FailoverWorld) (task : FailbackTask) :
    ∃ u : FailoverWorld,
      w.resumeFailback clock task
        = u.considerRecoveryFailback clock task.recoveredProvider task.remaining
      ∧ (¬ (w.isHealthy task.recoveredProvider = true
            ∧ w.inCooldown (clock.reading w.reads) task.serviceType = false)
          ∧ (∃ reads, u = { w with reads := reads })
        ∨ Switched clock w task.call u ∧ u.failbacks = w.failbacks) := by
  by_cases hhealthy : w.isHealthy task.recoveredProvider = true
  · refine ⟨w.perform clock task.call, by rw [resumeFailback, if_pos hhealthy]; rfl, ?_⟩
    rcases perform_cases clock w task.call with ⟨hcooldown, hrefused⟩ | ⟨_, hswitched⟩
    · refine .inl ⟨fun h => ?_, _, hrefused⟩
      rw [show task.serviceType = task.call.serviceType from rfl, hcooldown] at h
      cases h.2
    · exact .inr ⟨hswitched, (performFailover_sameQueue ..).failbacks⟩
  · exact ⟨w, by rw [resumeFailback, if_neg hhealthy], .inl ⟨fun h => hhealthy h.1, w.reads, rfl⟩⟩

theorem considerRecoveryFailback_sameRouting (w : FailoverWorld) (provider : ServiceProvider)
    (entries : List (ServiceType × ProviderPair)) :
    SameRouting w (w.considerRecoveryFailback clock provider entries) := by
  rcases considerRecoveryFailback_cases clock w provider entries with
    ⟨_, _, _, _, _, _, _, _, hworld⟩ | ⟨_, hworld⟩ <;> rw [hworld]
  · exact ⟨rfl, rfl, rfl, rfl, Nat.le_succ _⟩
  · exact ⟨rfl, rfl, rfl, rfl, Nat.le_succ _⟩

/-- A check finds the provider unrecovered and changes nothing, or stops its timer and looks for
service types to return to it. -/
theorem checkProviderRecovery_cases (order : PairOrder) (w : FailoverWorld)
    (provider : ServiceProvider) :
    checkProviderRecovery clock order w provider = w
      ∨ checkProviderRecovery clock order w provider
          = considerRecoveryFailback clock
              { w with recoveryTimers := Function.update w.recoveryTimers provider none } provider
              order.entries := by
  unfold checkProviderRecovery
  split
  · exact .inl rfl
  · split
    · exact .inr rfl
    · exact .inl rfl

theorem checkProviderRecovery_sameRouting (order : PairOrder) (w : FailoverWorld)
    (provider : ServiceProvider) :
    SameRouting w (checkProviderRecovery clock order w provider) := by
  rcases checkProviderRecovery_cases clock order w provider with hsame | hstopped
  · rw [hsame]
    exact .refl w
  · rw [hstopped]
    refine SameRouting.trans ?_ (considerRecoveryFailback_sameRouting ..)
    exact ⟨rfl, rfl, rfl, rfl, le_rfl⟩

/-- The task is the one a failback loop over the given entries leaves suspended in `v`. -/
structure FallsAsleep (v : FailoverWorld) (entries : List (ServiceType × ProviderPair))
    (task : FailbackTask) : Prop where
  entries : ∃ before, entries = before ++ (task.serviceType, task.providerPair) :: task.remaining
  primary : task.providerPair.primary = task.recoveredProvider
  active : v.getActiveProvider task.serviceType = task.providerPair.backup
  asleep : task.wakeDate - failbackDelay ≤ clock.reading v.reads

theorem mem_failbacks_considerRecoveryFailback {w : FailoverWorld} {provider : ServiceProvider}
    {entries : List (ServiceType × ProviderPair)} {task : FailbackTask}
    (htask : task ∈ (w.considerRecoveryFailback clock provider entries).failbacks) :
    task ∈ w.failbacks
      ∨ FallsAsleep clock (w.considerRecoveryFailback clock provider entries) entries task := by
  rcases considerRecoveryFailback_cases clock w provider entries with
    ⟨before, serviceType, pair, after, hentries, _, hprimary, hactive, hworld⟩ | ⟨_, hworld⟩ <;>
    rw [hworld] at htask ⊢
  · rcases List.mem_append.mp htask with hold | hnew
    · exact .inl hold
    · obtain rfl := List.mem_singleton.mp hnew
      refine .inr ⟨⟨before, hentries⟩, hprimary, hactive, ?_⟩
      have hlater : clock.reading w.reads ≤ clock.reading (w.reads + 1) :=
        clock.monotone (Nat.le_succ _)
      simpa using hlater
  · exact .inl htask

/-- From `w` by calls of `performFailover` that `allowed` admits in the world they are made in, and
by changes that leave the routing alone. -/
inductive SwitchesBy (allowed : FailoverWorld → FailoverCall → Prop) (w : FailoverWorld) :
    FailoverWorld → Prop
  | refl : SwitchesBy allowed w w
  | frame {u v : FailoverWorld} (hu : SwitchesBy allowed w u) (h : SameRouting u v) :
      SwitchesBy allowed w v
  | perform {u : FailoverWorld} (hu : SwitchesBy allowed w u) (call : FailoverCall)
      (hcall : allowed u call) : SwitchesBy allowed w (u.perform clock call)

variable {clock}

theorem SwitchesBy.invariant {allowed : FailoverWorld → FailoverCall → Prop} {w v : FailoverWorld}
    (Inv : FailoverWorld → Prop)
    (hframe : ∀ u v, SameRouting u v → Inv u → Inv v)
    (hperform : ∀ u call, SwitchesBy clock allowed w u → allowed u call → Inv u →
      Inv (u.perform clock call))
    (hv : SwitchesBy clock allowed w v) (hw : Inv w) : Inv v := by
  induction hv with
  | refl => exact hw
  | frame _ h ih => exact hframe _ _ h ih
  | perform hu call hcall ih => exact hperform _ _ hu hcall ih

end FailoverWorld

/-- The calls of `performFailover` a job makes: `w` is the world the job starts in, `u` the one a
call is made in. -/
def FailoverAction.Calls (w : FailoverWorld) :
    FailoverAction → FailoverWorld → FailoverCall → Prop
  | .triggerFailover serviceType _, u, call =>
      u = w ∧ call.serviceType = serviceType ∧ call.isAutomatic = false
        ∧ call.sourceProvider = w.getActiveProvider serviceType
        ∧ ∃ pair, providerPair serviceType = some pair
          ∧ call.targetProvider = pair.other call.sourceProvider
  | .handleHealthDegradation index _, u, call =>
      ∃ notification, w.degradations[index]? = some notification
        ∧ call.isAutomatic = true
        ∧ u.getActiveProvider call.serviceType = notification.provider
        ∧ call.sourceProvider = notification.provider
        ∧ ∃ pair, providerPair call.serviceType = some pair
          ∧ call.targetProvider = pair.other call.sourceProvider
  | .resumeFailback index, u, call =>
      ∃ task, w.failbacks[index]? = some task
        ∧ u = { w with failbacks := w.failbacks.eraseIdx index, reads := w.reads + 1 }
        ∧ w.isHealthy task.recoveredProvider = true
        ∧ call.serviceType = task.serviceType ∧ call.isAutomatic = true
        ∧ call.sourceProvider = task.providerPair.backup
        ∧ call.targetProvider = task.recoveredProvider
  | _, _, _ => False

namespace FailoverWorld

variable {clock : Clock Date}

theorem fireTimer_of_step {w v : FailoverWorld} {provider : ServiceProvider}
    (hstep : w.step clock (.fireTimer provider) = some v) :
    ∃ timer, w.recoveryTimers provider = some timer ∧ v = w.fireTimer provider timer := by
  simp only [step] at hstep
  split at hstep
  · cases hstep
  · rename_i timer htimer
    split at hstep
    · exact ⟨timer, htimer, (Option.some.inj hstep).symm⟩
    · cases hstep

theorem resumeFailback_of_step {w v : FailoverWorld} {index : ℕ}
    (hstep : w.step clock (.resumeFailback index) = some v) :
    ∃ task, w.failbacks[index]? = some task
      ∧ v = resumeFailback clock
          { w with failbacks := w.failbacks.eraseIdx index, reads := w.reads + 1 } task := by
  simp only [step] at hstep
  split at hstep
  · cases hstep
  · rename_i task htask
    split at hstep
    · exact ⟨task, htask, (Option.some.inj hstep).symm⟩
    · cases hstep

theorem handleHealthDegradation_switchesBy {allowed : FailoverWorld → FailoverCall → Prop}
    {order : PairOrder} {w u : FailoverWorld} {notification : ServiceHealthNotification}
    (hallowed : ∀ v call pair, providerPair call.serviceType = some pair →
      v.getActiveProvider call.serviceType = notification.provider →
      call.sourceProvider = notification.provider →
      call.targetProvider = pair.other call.sourceProvider → call.isAutomatic = true →
      allowed v call)
    (hu : SwitchesBy clock allowed w u) :
    SwitchesBy clock allowed w (handleHealthDegradation clock order u notification) := by
  have hpaired : ∀ entry ∈ order.entries, providerPair entry.1 = some entry.2 :=
    fun entry hentry => PairOrder.mem_entries_iff.mp hentry
  unfold handleHealthDegradation
  generalize order.entries = entries at hpaired
  induction entries generalizing u with
  | nil => exact hu
  | cons entry entries ih =>
      obtain ⟨hentry, hentries⟩ := List.forall_mem_cons.mp hpaired
      refine ih ?_ hentries
      unfold degradeEntry
      split
      · rename_i hactive
        exact hu.perform ⟨entry.1, _, _, _, true⟩
          (hallowed _ _ entry.2 hentry hactive rfl rfl rfl)
      · exact hu

/-- **Every change of the routing is a call of `performFailover`**, and the job that runs says which
calls are made. -/
theorem step_switchesBy {w v : FailoverWorld} {action : FailoverAction}
    (hstep : w.step clock action = some v) : SwitchesBy clock (action.Calls w) w v := by
  cases action with
  | triggerFailover serviceType reason =>
      obtain rfl : w.triggerFailover clock serviceType reason = v := Option.some.inj hstep
      unfold triggerFailover
      split
      · exact .refl
      · rename_i pair hpair
        exact SwitchesBy.refl.perform ⟨serviceType, _, _, reason, false⟩
          ⟨rfl, rfl, rfl, rfl, pair, hpair, rfl⟩
  | updateServiceHealth health =>
      obtain rfl : w.updateServiceHealth clock health = v := Option.some.inj hstep
      exact .frame .refl ⟨rfl, rfl, rfl, rfl, Nat.le_add_right _ _⟩
  | handleHealthDegradation index order =>
      obtain ⟨notification, hnotification, rfl⟩ := Option.map_eq_some_iff.mp hstep
      refine handleHealthDegradation_switchesBy ?_ (.frame .refl ⟨rfl, rfl, rfl, rfl, le_rfl⟩)
      intro u call pair hpair hactive hsource htarget hautomatic
      exact ⟨notification, hnotification, hautomatic, hactive, hsource, pair, hpair, htarget⟩
  | fireTimer provider =>
      obtain ⟨timer, _, rfl⟩ := fireTimer_of_step hstep
      exact .frame .refl ⟨rfl, rfl, rfl, rfl, Nat.le_succ _⟩
  | checkProviderRecovery index order =>
      obtain ⟨provider, _, rfl⟩ := Option.map_eq_some_iff.mp hstep
      refine .frame (.frame .refl ?_) (checkProviderRecovery_sameRouting ..)
      exact ⟨rfl, rfl, rfl, rfl, le_rfl⟩
  | resumeFailback index =>
      obtain ⟨task, htask, rfl⟩ := resumeFailback_of_step hstep
      refine .frame ?_ (considerRecoveryFailback_sameRouting ..)
      split
      · rename_i hhealthy
        refine (SwitchesBy.frame .refl ?_).perform
          ⟨task.serviceType, _, _, "Primary provider recovered", true⟩
          ⟨task, htask, rfl, hhealthy, rfl, rfl, rfl, rfl⟩
        exact ⟨rfl, rfl, rfl, rfl, Nat.le_succ _⟩
      · exact .frame .refl ⟨rfl, rfl, rfl, rfl, Nat.le_succ _⟩

/-- **Where a suspended failback comes from.** It was suspended before the step, or it is new: then
its loop runs over all of `providerPairs`, or over what a resumed failback had left. -/
theorem mem_failbacks_of_step {w v : FailoverWorld} {action : FailoverAction}
    (hstep : w.step clock action = some v) {task : FailbackTask} (htask : task ∈ v.failbacks) :
    task ∈ w.failbacks
      ∨ (∃ order : PairOrder, FallsAsleep clock v order.entries task)
      ∨ ∃ resumed ∈ w.failbacks, FallsAsleep clock v resumed.remaining task := by
  cases action with
  | triggerFailover serviceType reason =>
      obtain rfl : w.triggerFailover clock serviceType reason = v := Option.some.inj hstep
      exact .inl ((triggerFailover_sameQueue ..).failbacks ▸ htask)
  | updateServiceHealth health =>
      obtain rfl : w.updateServiceHealth clock health = v := Option.some.inj hstep
      exact .inl htask
  | handleHealthDegradation index order =>
      obtain ⟨notification, _, rfl⟩ := Option.map_eq_some_iff.mp hstep
      rw [(handleHealthDegradation_sameQueue ..).failbacks] at htask
      exact .inl htask
  | fireTimer provider =>
      obtain ⟨timer, _, rfl⟩ := fireTimer_of_step hstep
      exact .inl htask
  | checkProviderRecovery index order =>
      obtain ⟨provider, _, rfl⟩ := Option.map_eq_some_iff.mp hstep
      rcases checkProviderRecovery_cases clock order
        { w with recoveryChecks := w.recoveryChecks.eraseIdx index } provider with h | h <;>
        rw [h] at htask ⊢
      · exact .inl htask
      · exact (mem_failbacks_considerRecoveryFailback clock htask).imp_right
          fun hasleep => .inl ⟨order, hasleep⟩
  | resumeFailback index =>
      obtain ⟨resumed, hresumed, rfl⟩ := resumeFailback_of_step hstep
      have hmem : resumed ∈ w.failbacks := List.mem_of_getElem? hresumed
      rcases mem_failbacks_considerRecoveryFailback clock htask with hold | hasleep
      · have hwaiting : task ∈ w.failbacks.eraseIdx index := by
          split at hold
          · rw [(performFailover_sameQueue ..).failbacks] at hold
            exact hold
          · exact hold
        exact .inl (List.mem_of_mem_eraseIdx hwaiting)
      · exact .inr (.inr ⟨resumed, hmem, hasleep⟩)

end FailoverWorld

end SkillTalk
