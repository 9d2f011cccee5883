import SkillTalk.Proof.FailoverRouting

/-!
# When recovery monitoring is lost

A type on its backup is looked at again if a timer for its primary is armed, or if a suspended
failback to that primary still has the type ahead of it. A check that finds the primary recovered
trades the first for the second: it stops the timer and suspends a failback. What nothing makes up
for is a failback that is refused, by the health re-check or by the cooldown: it stops looking at
the type without arming a timer.
-/

namespace SkillTalk

/-- The failback sleeps for this entry or has it ahead of it. -/
def FailbackTask.LooksAt (task : FailbackTask) (serviceType : ServiceType)
    (pair : ProviderPair) : Prop :=
  task.recoveredProvider = pair.primary
    ∧ (serviceType, pair) ∈ (task.serviceType, task.providerPair) :: task.remaining

instance (task : FailbackTask) (serviceType : ServiceType) (pair : ProviderPair) :
    Decidable (task.LooksAt serviceType pair) :=
  inferInstanceAs (Decidable (_ ∧ _))

/-- A failback that ends its sleep with its type on the backup, and nothing else watching the type,
is let through. -/
def FailoverAction.KeepsWatch (clock : Clock Date) (w : FailoverWorld) : FailoverAction → Prop
  | .resumeFailback index =>
      ∀ task ∈ w.failbacks[index]?,
        w.getActiveProvider task.serviceType = task.providerPair.backup →
        w.recoveryTimers task.recoveredProvider = none →
        (∀ other ∈ w.failbacks.eraseIdx index,
          ¬ other.LooksAt task.serviceType task.providerPair) →
        w.isHealthy task.recoveredProvider = true
          ∧ w.inCooldown (clock.reading (w.reads + 1)) task.serviceType = false
  | _ => True

instance FailoverAction.KeepsWatch.decidable (clock : Clock Date) (w : FailoverWorld) :
    ∀ action : FailoverAction, Decidable (action.KeepsWatch clock w)
  | .resumeFailback _ => inferInstanceAs (Decidable (∀ task ∈ _, _ → _ → _ → _))
  | .triggerFailover _ _ => inferInstanceAs (Decidable True)
  | .updateServiceHealth _ => inferInstanceAs (Decidable True)
  | .handleHealthDegradation _ _ => inferInstanceAs (Decidable True)
  | .fireTimer _ => inferInstanceAs (Decidable True)
  | .checkProviderRecovery _ _ => inferInstanceAs (Decidable True)

namespace FailoverWorld

variable {clock : Clock Date}

/-- A type on its backup, which no suspended failback looks at any more, has a recovery timer armed
for its primary. -/
def RecoveryMonitored (w : FailoverWorld) : Prop :=
  ∀ serviceType pair, providerPair serviceType = some pair →
    w.getActiveProvider serviceType = pair.backup →
    (∀ task ∈ w.failbacks, ¬ task.LooksAt serviceType pair) →
    ∃ timer, w.recoveryTimers pair.primary = some timer

def Watched (w : FailoverWorld) (serviceType : ServiceType) (pair : ProviderPair) : Prop :=
  w.recoveryTimers pair.primary ≠ none ∨ ∃ task ∈ w.failbacks, task.LooksAt serviceType pair

theorem recoveryMonitored_iff {w : FailoverWorld} :
    w.RecoveryMonitored ↔ ∀ serviceType pair, providerPair serviceType = some pair →
      w.getActiveProvider serviceType = pair.backup → w.Watched serviceType pair := by
  constructor
  · intro h serviceType pair hpair hbackup
    by_cases hlooks : ∃ task ∈ w.failbacks, task.LooksAt serviceType pair
    · exact .inr hlooks
    · refine .inl (Option.ne_none_iff_exists'.mpr (h serviceType pair hpair hbackup ?_))
      exact fun task htask hlook => hlooks ⟨task, htask, hlook⟩
  · intro h serviceType pair hpair hbackup hnone
    rcases h serviceType pair hpair hbackup with htimer | ⟨task, htask, hlook⟩
    · exact Option.ne_none_iff_exists'.mp htimer
    · exact absurd hlook (hnone task htask)

theorem perform_recoveryTimers {w : FailoverWorld} {call : FailoverCall}
    {provider : ServiceProvider} (h : w.recoveryTimers provider ≠ none) :
    (w.perform clock call).recoveryTimers provider ≠ none := by
  rcases perform_cases clock w call with ⟨_, hrefused⟩ | ⟨_, hswitched⟩
  · rw [hrefused]
    exact h
  · rw [hswitched.timers]
    by_cases hprovider : provider = call.sourceProvider
    · simp [hprovider]
    · rwa [Function.update_of_ne hprovider]

theorem Watched.perform {w : FailoverWorld} {serviceType : ServiceType} {pair : ProviderPair}
    (h : w.Watched serviceType pair) (call : FailoverCall) :
    (w.perform clock call).Watched serviceType pair := by
  rcases h with htimer | htask
  · exact .inl (perform_recoveryTimers htimer)
  · refine .inr ?_
    rw [FailoverWorld.perform, (performFailover_sameQueue ..).failbacks]
    exact htask

/-- A call keeps every type watched if, when it moves a type to its backup, it comes from the
primary, for which it then arms the timer. -/
theorem RecoveryMonitored.perform {w : FailoverWorld} (hw : w.RecoveryMonitored)
    (call : FailoverCall) {pair : ProviderPair}
    (hpair : providerPair call.serviceType = some pair)
    (hsource : call.targetProvider = pair.backup → call.sourceProvider = pair.primary) :
    (w.perform clock call).RecoveryMonitored := by
  rw [recoveryMonitored_iff] at hw ⊢
  intro serviceType p hp hbackup
  rcases perform_cases clock w call with ⟨_, hrefused⟩ | ⟨_, hswitched⟩
  · rw [hrefused] at hbackup ⊢
    exact hw serviceType p hp hbackup
  · by_cases htype : serviceType = call.serviceType
    · subst htype
      obtain rfl : pair = p := Option.some.inj (hpair.symm.trans hp)
      have htarget : call.targetProvider = pair.backup := by
        simpa [getActiveProvider, hswitched.active] using hbackup
      refine .inl ?_
      rw [hswitched.timers, hsource htarget]
      simp
    · refine (hw serviceType p hp ?_).perform call
      rw [← hbackup, getActiveProvider, getActiveProvider, hswitched.active,
        Function.update_of_ne htype]

theorem other_eq_backup {serviceType : ServiceType} {pair : ProviderPair}
    (hpair : providerPair serviceType = some pair) {provider : ServiceProvider}
    (h : pair.other provider = pair.backup) : provider = pair.primary := by
  by_contra hne
  rw [ProviderPair.other, if_neg hne] at h
  exact primary_ne_backup hpair h

theorem RecoveryMonitored.triggerFailover {w : FailoverWorld} (hw : w.RecoveryMonitored)
    (serviceType : ServiceType) (reason : String) :
    (w.triggerFailover clock serviceType reason).RecoveryMonitored := by
  unfold FailoverWorld.triggerFailover
  split
  · exact hw
  · rename_i pair hpair
    exact hw.perform ⟨serviceType, _, _, reason, false⟩ hpair (other_eq_backup hpair)

theorem RecoveryMonitored.handleHealthDegradation {w : FailoverWorld}
    (hw : w.RecoveryMonitored) (order : PairOrder) (notification : ServiceHealthNotification) :
    (handleHealthDegradation clock order w notification).RecoveryMonitored := by
  have hpaired : ∀ entry ∈ order.entries, providerPair entry.1 = some entry.2 :=
    fun entry hentry => PairOrder.mem_entries_iff.mp hentry
  unfold FailoverWorld.handleHealthDegradation
  generalize order.entries = entries at hpaired
  induction entries generalizing w with
  | nil => exact hw
  | cons entry entries ih =>
      obtain ⟨hentry, hentries⟩ := List.forall_mem_cons.mp hpaired
      refine ih ?_ hentries
      unfold degradeEntry
      split
      · exact hw.perform ⟨entry.1, _, _, _, true⟩ hentry (other_eq_backup hentry)
      · exact hw

/-- The failback loop leaves every type watched that was watched before or lies ahead of it. -/
theorem considerRecoveryFailback_monitored {w : FailoverWorld} {provider : ServiceProvider}
    {entries : List (ServiceType × ProviderPair)}
    (hw : ∀ serviceType pair, providerPair serviceType = some pair →
      w.getActiveProvider serviceType = pair.backup →
      w.Watched serviceType pair ∨ pair.primary = provider ∧ (serviceType, pair) ∈ entries) :
    (w.considerRecoveryFailback clock provider entries).RecoveryMonitored := by
  rw [recoveryMonitored_iff]
  intro serviceType pair hpair hbackup
  rw [(considerRecoveryFailback_sameRouting ..).getActiveProvider] at hbackup
  rcases considerRecoveryFailback_cases clock w provider entries with
    ⟨before, st, p, after, hentries, hbefore, _, _, hworld⟩ | ⟨hall, hworld⟩ <;> rw [hworld]
  · rcases hw serviceType pair hpair hbackup with (htimer | ⟨task, htask, hlook⟩) | ⟨hprimary, hmem⟩
    · exact .inl htimer
    · exact .inr ⟨task, List.mem_append_left _ htask, hlook⟩
    · refine .inr ⟨_, List.mem_append_right _ (List.mem_singleton_self _), hprimary.symm, ?_⟩
      rw [hentries] at hmem
      exact (List.mem_append.mp hmem).resolve_left fun h => hbefore _ h ⟨hprimary, hbackup⟩
  · rcases hw serviceType pair hpair hbackup with hwatched | ⟨hprimary, hmem⟩
    · exact hwatched
    · exact absurd ⟨hprimary, hbackup⟩ (hall _ hmem)

theorem eq_or_mem_eraseIdx {α : Type*} {l : List α} {i : ℕ} {x y : α} (hx : l[i]? = some x)
    (hy : y ∈ l) : y = x ∨ y ∈ l.eraseIdx i := by
  obtain ⟨j, hj⟩ := List.mem_iff_getElem?.mp hy
  by_cases hij : j = i
  · subst hij
    exact .inl (Option.some.inj (hj.symm.trans hx))
  · exact .inr (List.mem_eraseIdx_iff_getElem?.mpr ⟨j, hij, hj⟩)

theorem Watched.of_erased {w : FailoverWorld} {index : ℕ} {task : FailbackTask}
    {serviceType : ServiceType} {pair : ProviderPair} (h : w.Watched serviceType pair)
    (htask : w.failbacks[index]? = some task) :
    w.recoveryTimers pair.primary ≠ none
      ∨ (∃ other ∈ w.failbacks.eraseIdx index, other.LooksAt serviceType pair)
      ∨ task.LooksAt serviceType pair := by
  rcases h with htimer | ⟨other, hother, hlook⟩
  · exact .inl htimer
  · rcases eq_or_mem_eraseIdx htask hother with rfl | hwaiting
    · exact .inr (.inr hlook)
    · exact .inr (.inl ⟨other, hwaiting, hlook⟩)

theorem RecoveryMonitored.resumeFailback {w : FailoverWorld} (hw : w.RecoveryMonitored)
    {index : ℕ} {task : FailbackTask} (htask : w.failbacks[index]? = some task)
    (htaskWF : task.WellFormed)
    (hguard : (FailoverAction.resumeFailback index).KeepsWatch clock w) :
    (FailoverWorld.resumeFailback clock
      { w with failbacks := w.failbacks.eraseIdx index, reads := w.reads + 1 }
      task).RecoveryMonitored := by
  rw [recoveryMonitored_iff] at hw
  obtain ⟨u, hresumed, ⟨hrefused, reads, rfl⟩ | ⟨hswitched, hfailbacks⟩⟩ :=
    resumeFailback_cases clock
      { w with failbacks := w.failbacks.eraseIdx index, reads := w.reads + 1 } task <;>
    rw [hresumed] <;> refine considerRecoveryFailback_monitored ?_ <;>
    intro serviceType pair hpair hbackup
  · rcases (hw serviceType pair hpair hbackup).of_erased htask with
      htimer | hother | ⟨hprimary, hmem⟩
    · exact .inl (.inl htimer)
    · exact .inl (.inr hother)
    · rcases List.mem_cons.mp hmem with hcurrent | hahead
      · -- the refused type itself: the guard says that something else watches it
        obtain ⟨rfl, rfl⟩ := Prod.mk.inj hcurrent
        refine .inl ?_
        by_contra hunwatched
        obtain ⟨htimer, hothers⟩ := not_or.mp hunwatched
        refine hrefused (hguard task htask hbackup ?_ ?_)
        · rw [hprimary]
          exact not_not.mp htimer
        · exact fun other hother hlook => hothers ⟨other, hother, hlook⟩
      · exact .inr ⟨hprimary.symm, hahead⟩
  · have hne : serviceType ≠ task.call.serviceType := by
      rintro rfl
      obtain rfl : task.providerPair = pair := Option.some.inj (htaskWF.paired.symm.trans hpair)
      refine primary_ne_backup hpair (htaskWF.primary.trans ?_)
      simpa [getActiveProvider, hswitched.active, FailbackTask.call] using hbackup
    have hbefore : w.getActiveProvider serviceType = pair.backup := by
      rw [getActiveProvider, hswitched.active, Function.update_of_ne hne] at hbackup
      exact hbackup
    rcases (hw serviceType pair hpair hbefore).of_erased htask with
      htimer | ⟨other, hother, hlook⟩ | ⟨hprimary, hmem⟩
    · refine .inl (.inl ?_)
      rw [hswitched.timers]
      by_cases hprovider : pair.primary = task.call.sourceProvider
      · simp [hprovider]
      · rwa [Function.update_of_ne hprovider]
    · exact .inl (.inr ⟨other, hfailbacks ▸ hother, hlook⟩)
    · refine .inr ⟨hprimary.symm, (List.mem_cons.mp hmem).resolve_left fun hcurrent => ?_⟩
      exact hne (Prod.mk.inj hcurrent).1

theorem RecoveryMonitored.step {w v : FailoverWorld} {action : FailoverAction}
    (hw : w.RecoveryMonitored) (htasks : w.TasksWellFormed)
    (hguard : action.KeepsWatch clock w) (hstep : w.step clock action = some v) :
    v.RecoveryMonitored := by
  cases action with
  | triggerFailover serviceType reason =>
      obtain rfl : w.triggerFailover clock serviceType reason = v := Option.some.inj hstep
      exact hw.triggerFailover serviceType reason
  | updateServiceHealth health =>
      obtain rfl : w.updateServiceHealth clock health = v := Option.some.inj hstep
      exact hw
  | handleHealthDegradation index order =>
      obtain ⟨notification, _, rfl⟩ := Option.map_eq_some_iff.mp hstep
      refine RecoveryMonitored.handleHealthDegradation ?_ order notification
      exact hw
  | fireTimer provider =>
      obtain ⟨timer, _, rfl⟩ := fireTimer_of_step hstep
      rw [recoveryMonitored_iff] at hw ⊢
      intro serviceType pair hpair hbackup
      refine (hw serviceType pair hpair hbackup).imp (fun htimer => ?_) id
      by_cases hprovider : pair.primary = provider
      · simp [fireTimer, hprovider]
      · simpa [fireTimer, Function.update_of_ne hprovider] using htimer
  | checkProviderRecovery index order =>
      obtain ⟨provider, _, rfl⟩ := Option.map_eq_some_iff.mp hstep
      rcases checkProviderRecovery_cases clock order
        { w with recoveryChecks := w.recoveryChecks.eraseIdx index } provider with h | h <;> rw [h]
      · exact hw
      · rw [recoveryMonitored_iff] at hw
        refine considerRecoveryFailback_monitored ?_
        intro serviceType pair hpair hbackup
        by_cases hprovider : pair.primary = provider
        · exact .inr ⟨hprovider, PairOrder.mem_entries_iff.mpr hpair⟩
        · refine .inl ((hw serviceType pair hpair hbackup).imp (fun htimer => ?_) id)
          simpa [Function.update_of_ne hprovider] using htimer
  | resumeFailback index =>
      obtain ⟨task, htask, rfl⟩ := resumeFailback_of_step hstep
      exact hw.resumeFailback htask (htasks task (List.mem_of_getElem? htask)) hguard

/-- **Recovery monitoring is kept** in every run in which each failback that ends its sleep with its
type on the backup, and nothing else watching the type, passes the health check and the cooldown. -/
theorem recovery_monitored {w : FailoverWorld}
    (hw : (failover clock).ReachableWhere (fun w action => action.KeepsWatch clock w) w) :
    w.RecoveryMonitored := by
  refine Machine.ReachableWhere.invariant RecoveryMonitored ?_ ?_ hw
  · rintro w rfl serviceType pair hpair hbackup
    refine absurd ?_ (primary_ne_backup hpair)
    simpa [getActiveProvider, initial, setupFailoverManager, hpair] using hbackup
  · intro w action v hreach hw hguard hstep
    exact hw.step (tasksWellFormed_of_reachable hreach.reachable) hguard hstep

def failoverAndCheck : List FailoverAction :=
  [.triggerFailover .authentication "manual",
    .updateServiceHealth ⟨.firebase, .healthy, 1, 0, 0, none⟩, .fireTimer .firebase,
    .checkProviderRecovery 0 .written]

/-- The failback resumes at second 460 and takes authentication back, and then translation is failed
over, whose provider's timer is armed. -/
theorem recovery_monitored_of_check :
    let clock := Clock.ofGaps (List.replicate 19 0 ++ [60, 0, 400])
    ∃ w timer, (failover clock).exec (initial clock)
        (failoverAndCheck ++ [.resumeFailback 0, .triggerFailover .translation "manual"]) = some w
      ∧ w.getActiveProvider .authentication = .firebase
      ∧ w.getActiveProvider .translation = .deepL ∧ w.failbacks = []
      ∧ w.recoveryTimers .libreTranslate = some timer := by
  intro clock
  obtain ⟨w, hexec, hreach, hend⟩ :
      ∃ w, (failover clock).exec (initial clock)
          (failoverAndCheck ++ [.resumeFailback 0, .triggerFailover .translation "manual"]) = some w
        ∧ (failover clock).ReachableWhere (fun w action => action.KeepsWatch clock w) w
        ∧ decide (w.getActiveProvider .authentication = .firebase
          ∧ w.getActiveProvider .translation = .deepL ∧ w.failbacks = []) = true :=
    Machine.exists_reachableWhere rfl _ (by decide +kernel) (by decide +kernel)
  obtain ⟨hback, hbackup, hfailbacks⟩ := of_decide_eq_true hend
  obtain ⟨timer, htimer⟩ := recovery_monitored hreach .translation ⟨.libreTranslate, .deepL⟩ rfl
    hbackup (by simp [hfailbacks])
  exact ⟨w, timer, hexec, hback, hbackup, hfailbacks, htimer⟩

/-- The failback after the check resumes at second 90. The cooldown refuses it, and the type stays
on its backup with no timer armed and no failback suspended. -/
theorem recovery_not_monitored :
    ∃ (clock : Clock Date) (w : FailoverWorld), (failover clock).Reachable w
      ∧ w.getActiveProvider .authentication = .supabase ∧ w.failbacks = []
      ∧ w.recoveryTimers .firebase = none ∧ w.recoveryChecks = [] ∧ ¬ w.RecoveryMonitored := by
  let clock := Clock.ofGaps (List.replicate 19 0 ++ [60, 0, 30])
  obtain ⟨w, _, hreach, hend⟩ :
      ∃ w, (failover clock).exec (initial clock) (failoverAndCheck ++ [.resumeFailback 0]) = some w
        ∧ (failover clock).Reachable w
        ∧ decide (w.getActiveProvider .authentication = .supabase ∧ w.failbacks = []
          ∧ w.recoveryTimers .firebase = none ∧ w.recoveryChecks = []) = true :=
    Machine.exists_reachableWhere rfl _ (by decide +kernel) (by decide +kernel)
  obtain ⟨hactive, hfailbacks, htimer, hchecks⟩ := of_decide_eq_true hend
  refine ⟨clock, w, hreach, hactive, hfailbacks, htimer, hchecks, fun hmonitored => ?_⟩
  obtain ⟨timer, harmed⟩ := hmonitored .authentication ⟨.firebase, .supabase⟩ rfl hactive
    (by simp [hfailbacks])
  rw [htimer] at harmed
  cases harmed

end FailoverWorld

end SkillTalk
