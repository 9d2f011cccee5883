import Mathlib.Tactic.Linarith
import SkillTalk.Proof.FailoverRouting

/-!
# When the failover log is truthful

The posted switches replay to the map of active providers. The log is truthful when moreover each
switch leaves from the provider active at that moment. Triggers and notifications read the active
provider in the job that switches it. A failback checks it before its sleep and switches after it,
from a fixed source: the log stays truthful when every failback that is let through still finds its
type on the backup, and it does when no sleep outlasts the cooldown.
-/

namespace SkillTalk

def FailoverEvent.switch (event : FailoverEvent) : Switch ServiceType (Option ServiceProvider) where
  key := event.serviceType
  source := some event.fromProvider
  target := some event.toProvider

/-- A failback that gets past the health check and the cooldown finds its type on the backup. -/
def FailoverAction.FindsBackup (clock : Clock Date) (w : FailoverWorld) : FailoverAction → Prop
  | .resumeFailback index =>
      ∀ task ∈ w.failbacks[index]?, w.isHealthy task.recoveredProvider = true →
        w.inCooldown (clock.reading (w.reads + 1)) task.serviceType = false →
        w.getActiveProvider task.serviceType = task.providerPair.backup
  | _ => True

instance FailoverAction.FindsBackup.decidable (clock : Clock Date) (w : FailoverWorld) :
    ∀ action : FailoverAction, Decidable (action.FindsBackup clock w)
  | .resumeFailback _ => inferInstanceAs (Decidable (∀ task ∈ _, _ → _ → _))
  | .triggerFailover _ _ => inferInstanceAs (Decidable True)
  | .updateServiceHealth _ => inferInstanceAs (Decidable True)
  | .handleHealthDegradation _ _ => inferInstanceAs (Decidable True)
  | .fireTimer _ => inferInstanceAs (Decidable True)
  | .checkProviderRecovery _ _ => inferInstanceAs (Decidable True)

/-- A failback resumes less than the cooldown after it fell asleep. -/
def FailoverAction.Prompt (clock : Clock Date) (w : FailoverWorld) : FailoverAction → Prop
  | .resumeFailback index =>
      ∀ task ∈ w.failbacks[index]?,
        clock.reading (w.reads + 1) < task.wakeDate - failbackDelay + cooldownDuration
  | _ => True

namespace FailoverWorld

variable {clock : Clock Date}

def switches (w : FailoverWorld) : List (Switch ServiceType (Option ServiceProvider)) :=
  w.completed.map FailoverEvent.switch

/-- The log is truthful, the events of every type chain from its primary on, and what the history
keeps is the end of the log. -/
structure LogTruthful (w : FailoverWorld) : Prop where
  truthful : Switch.Truthful setupFailoverManager w.switches
  replayed : Switch.replay setupFailoverManager w.switches = w.activeProviders
  chain : ∀ serviceType,
    (w.switches.filter fun s => s.key = serviceType).IsChain fun earlier later =>
      later.source = earlier.target
  recorded : w.failoverHistory <:+ w.completed

theorem Switched.switches {w v : FailoverWorld} {call : FailoverCall}
    (h : Switched clock w call v) :
    v.switches = w.switches ++ [(call.event (clock.reading (w.reads + 1))).switch] := by
  rw [FailoverWorld.switches, h.completed, List.map_append]
  rfl

structure Accounted (w : FailoverWorld) : Prop where
  replayed : Switch.replay setupFailoverManager w.switches = w.activeProviders
  recorded : w.failoverHistory <:+ w.completed

theorem Accounted.perform {w : FailoverWorld} (hw : w.Accounted) (call : FailoverCall) :
    (w.perform clock call).Accounted := by
  rcases perform_cases clock w call with ⟨_, hrefused⟩ | ⟨_, hswitched⟩
  · rw [hrefused]
    exact ⟨hw.replayed, hw.recorded⟩
  · constructor
    · rw [hswitched.switches, Switch.replay_append, hw.replayed, hswitched.active]
      rfl
    · obtain ⟨dropped, hdropped⟩ := hw.recorded
      rw [hswitched.completed, ← hdropped, List.append_assoc]
      exact hswitched.history.trans (List.suffix_append _ _)

theorem Accounted.frame {w v : FailoverWorld} (hsame : SameRouting w v) (hw : w.Accounted) :
    v.Accounted := by
  constructor
  · rw [switches, hsame.completed, hsame.active]
    exact hw.replayed
  · rw [hsame.history, hsame.completed]
    exact hw.recorded

theorem accounted_of_reachable {w : FailoverWorld} (hw : (failover clock).Reachable w) :
    w.Accounted := by
  refine Machine.ReachableWhere.invariant Accounted ?_ ?_ hw
  · rintro w rfl
    exact ⟨rfl, List.suffix_rfl⟩
  · intro w action v _ hw _ hstep
    exact (step_switchesBy hstep).invariant Accounted (fun u v hsame hu => hu.frame hsame)
      (fun u call _ _ hu => hu.perform call) hw

/-- A call that is let through leaves from the active provider, given that a failback finds its type
on the backup. -/
theorem calls_leave_active {w u : FailoverWorld} {action : FailoverAction} {call : FailoverCall}
    (hu : u.Routed) (htasks : w.TasksWellFormed) (hguard : action.FindsBackup clock w)
    (hcall : action.Calls w u call)
    (hopen : u.inCooldown (clock.reading u.reads) call.serviceType = false) :
    u.activeProviders call.serviceType = some call.sourceProvider
      ∧ call.targetProvider ≠ call.sourceProvider := by
  cases action with
  | triggerFailover serviceType reason =>
      obtain ⟨rfl, rfl, _, hsource, pair, hpair, htarget⟩ := hcall
      refine ⟨(hu.getActiveProvider_eq_iff hpair _).mp hsource.symm, ?_⟩
      exact htarget ▸ ProviderPair.other_ne (primary_ne_backup hpair) _
  | handleHealthDegradation index order =>
      obtain ⟨notification, _, _, hactive, hsource, pair, hpair, htarget⟩ := hcall
      refine ⟨(hu.getActiveProvider_eq_iff hpair _).mp (hactive.trans hsource.symm), ?_⟩
      exact htarget ▸ ProviderPair.other_ne (primary_ne_backup hpair) _
  | resumeFailback index =>
      obtain ⟨task, htask, rfl, hhealthy, htype, _, hsource, htarget⟩ := hcall
      have htaskWF : task.WellFormed := htasks task (List.mem_of_getElem? htask)
      have hbackup : w.getActiveProvider task.serviceType = task.providerPair.backup :=
        hguard task htask hhealthy (htype ▸ hopen)
      rw [htype, hsource, htarget, ← htaskWF.primary]
      exact ⟨(hu.getActiveProvider_eq_iff htaskWF.paired _).mp hbackup,
        primary_ne_backup htaskWF.paired⟩
  | updateServiceHealth | fireTimer | checkProviderRecovery => exact hcall.elim

theorem truthful_step {w v : FailoverWorld} {action : FailoverAction}
    (hreach : (failover clock).Reachable w) (hguard : action.FindsBackup clock w)
    (hw : Switch.Truthful setupFailoverManager w.switches)
    (hstep : w.step clock action = some v) :
    Switch.Truthful setupFailoverManager v.switches := by
  have htasks : w.TasksWellFormed := tasksWellFormed_of_reachable hreach
  have hv := (step_switchesBy hstep).invariant
    (fun u => u.Accounted ∧ Switch.Truthful setupFailoverManager u.switches)
    ?_ ?_ ⟨accounted_of_reachable hreach, hw⟩
  · exact hv.2
  · intro u v hsame ⟨hu, htruthful⟩
    refine ⟨hu.frame hsame, ?_⟩
    rw [switches, hsame.completed]
    exact htruthful
  · intro u call hsteps hcall ⟨hu, htruthful⟩
    refine ⟨hu.perform call, ?_⟩
    rcases perform_cases clock u call with ⟨_, hrefused⟩ | ⟨hopen, hswitched⟩
    · rw [hrefused]
      exact htruthful
    · have hrouted : u.Routed := (routed_of_reachable hreach).switchesBy htasks hsteps
      obtain ⟨hsource, htarget⟩ := calls_leave_active hrouted htasks hguard hcall hopen
      rw [hswitched.switches]
      refine htruthful.concat ?_ ?_
      · rw [hu.replayed]
        exact hsource
      · exact fun heq => htarget (Option.some.inj heq)

theorem truthful_of_findsBackup {w : FailoverWorld}
    (hw : (failover clock).ReachableWhere (fun w action => action.FindsBackup clock w) w) :
    Switch.Truthful setupFailoverManager w.switches := by
  refine Machine.ReachableWhere.invariant
    (fun w => Switch.Truthful setupFailoverManager w.switches) ?_ ?_ hw
  · rintro w rfl
    exact trivial
  · intro w action v hreach hw hguard hstep
    exact truthful_step hreach.reachable hguard hw hstep

theorem LogTruthful.of_truthful {w : FailoverWorld} (hreach : (failover clock).Reachable w)
    (htruthful : Switch.Truthful setupFailoverManager w.switches) : w.LogTruthful where
  truthful := htruthful
  replayed := (accounted_of_reachable hreach).replayed
  chain serviceType := (htruthful.chain serviceType).2
  recorded := (accounted_of_reachable hreach).recorded

/-- **The log is truthful** in every run whose failbacks, when they are let through, still find
their type on the backup. -/
theorem failover_log_truthful {w : FailoverWorld}
    (hw : (failover clock).ReachableWhere (fun w action => action.FindsBackup clock w) w) :
    w.LogTruthful :=
  .of_truthful hw.reachable (truthful_of_findsBackup hw)

def failoverAndBack : List FailoverAction :=
  [.triggerFailover .authentication "manual",
    .updateServiceHealth ⟨.firebase, .healthy, 1, 0, 0, none⟩, .fireTimer .firebase,
    .checkProviderRecovery 0 .written, .resumeFailback 0]

theorem failover_log_truthful_of_failback :
    let clock := Clock.ofGaps (List.replicate 19 0 ++ [300, 0, 30])
    ∃ w, (failover clock).exec (initial clock) failoverAndBack = some w ∧ w.LogTruthful
      ∧ w.completed.length = 2 := by
  intro clock
  obtain ⟨w, hexec, hreach, hlength⟩ :
      ∃ w, (failover clock).exec (initial clock) failoverAndBack = some w
        ∧ (failover clock).ReachableWhere (fun w action => action.FindsBackup clock w) w
        ∧ decide (w.completed.length = 2) = true :=
    Machine.exists_reachableWhere rfl failoverAndBack (by decide +kernel) (by decide +kernel)
  exact ⟨w, hexec, failover_log_truthful hreach, of_decide_eq_true hlength⟩

/-- A second manual failover returns the type to its primary during the failback's sleep, and the
sleep outlasts the cooldown this sets: the failback then records a switch from the backup. -/
theorem failover_log_not_truthful :
    ¬ ∀ (clock : Clock Date) (w : FailoverWorld), (failover clock).Reachable w →
      w.LogTruthful := by
  intro hall
  let clock := Clock.ofGaps (List.replicate 19 0 ++ [300, 0, 10, 0, 0, 0, 600])
  obtain ⟨w, _, hreach, huntruthful⟩ :
      ∃ w, (failover clock).exec (initial clock)
          [.triggerFailover .authentication "manual",
            .updateServiceHealth ⟨.firebase, .healthy, 1, 0, 0, none⟩, .fireTimer .firebase,
            .checkProviderRecovery 0 .written, .triggerFailover .authentication "back",
            .resumeFailback 0] = some w
        ∧ (failover clock).Reachable w
        ∧ decide (¬ Switch.Truthful setupFailoverManager w.switches) = true :=
    Machine.exists_reachableWhere rfl _ (by decide +kernel) (by decide +kernel)
  exact of_decide_eq_true huntruthful (hall clock w hreach).truthful

/-! ### Sleeps shorter than the cooldown

If another switch has moved the type off the backup during the sleep, it has also set the cooldown
during the sleep. -/

/-- Every suspended failback fell asleep in the past, with its type on the backup unless the type
has been switched since. -/
def Awaited (clock : Clock Date) (w : FailoverWorld) (task : FailbackTask) : Prop :=
  task.wakeDate - failbackDelay ≤ clock.reading w.reads
    ∧ (w.getActiveProvider task.serviceType = task.providerPair.backup
      ∨ ∃ mark ∈ w.failoverCooldowns task.serviceType, task.wakeDate - failbackDelay ≤ mark)

theorem Awaited.frame {w v : FailoverWorld} {task : FailbackTask} (hsame : SameRouting w v)
    (hw : Awaited clock w task) : Awaited clock v task := by
  refine ⟨hw.1.trans (clock.monotone hsame.reads), ?_⟩
  rw [hsame.getActiveProvider, hsame.cooldowns]
  exact hw.2

theorem Awaited.perform {w : FailoverWorld} {task : FailbackTask} (hw : Awaited clock w task)
    (call : FailoverCall) : Awaited clock (w.perform clock call) task := by
  rcases perform_cases clock w call with ⟨_, hrefused⟩ | ⟨_, hswitched⟩
  · rw [hrefused]
    exact ⟨hw.1.trans (clock.monotone (Nat.le_succ _)), hw.2⟩
  · constructor
    · rw [hswitched.reads]
      exact hw.1.trans (clock.monotone (Nat.le_add_right _ _))
    · by_cases htype : task.serviceType = call.serviceType
      · refine .inr ⟨clock.reading (w.reads + 2), ?_, ?_⟩
        · rw [hswitched.cooldowns, htype]
          simp
        · exact hw.1.trans (clock.monotone (Nat.le_add_right _ _))
      · rw [getActiveProvider, hswitched.active, hswitched.cooldowns,
          Function.update_of_ne htype, Function.update_of_ne htype]
        exact hw.2

theorem awaited_of_reachable {w : FailoverWorld} (hw : (failover clock).Reachable w) :
    ∀ task ∈ w.failbacks, Awaited clock w task := by
  refine Machine.ReachableWhere.invariant
    (fun w => ∀ task ∈ w.failbacks, Awaited clock w task) ?_ ?_ hw
  · rintro w rfl task htask
    exact absurd htask (by simp [initial])
  · intro w action v _ hw _ hstep task htask
    rcases mem_failbacks_of_step hstep htask with hold | ⟨_, hasleep⟩ | ⟨_, _, hasleep⟩
    · exact (step_switchesBy hstep).invariant (fun u => Awaited clock u task)
        (fun u v hsame hu => hu.frame hsame) (fun u call _ _ hu => hu.perform call) (hw task hold)
    · exact ⟨hasleep.asleep, .inl hasleep.active⟩
    · exact ⟨hasleep.asleep, .inl hasleep.active⟩

theorem findsBackup_of_prompt {w : FailoverWorld} (hw : (failover clock).Reachable w)
    {action : FailoverAction} (hprompt : action.Prompt clock w) : action.FindsBackup clock w := by
  cases action with
  | resumeFailback index =>
      intro task htask _ hopen
      rcases (awaited_of_reachable hw task (List.mem_of_getElem? htask)).2 with
        hactive | ⟨mark, hmark, hlate⟩
      · exact hactive
      · exfalso
        have hcooldown : w.inCooldown (clock.reading (w.reads + 1)) task.serviceType = true := by
          have hwoken := hprompt task htask
          exact inCooldown_iff.mpr ⟨mark, hmark, by linarith⟩
        rw [hcooldown] at hopen
        cases hopen
  | triggerFailover | updateServiceHealth | handleHealthDegradation | fireTimer
  | checkProviderRecovery => trivial

/-- **A log of short sleeps is truthful.** Only a sleep of at least the cooldown's 300 seconds can
make the log lie. -/
theorem logTruthful_of_prompt {w : FailoverWorld}
    (hw : (failover clock).ReachableWhere (fun w action => action.Prompt clock w) w) :
    w.LogTruthful :=
  .of_truthful hw.reachable (truthful_of_findsBackup
    (hw.mono fun _ _ hs hprompt => findsBackup_of_prompt hs.reachable hprompt))

end FailoverWorld

end SkillTalk
