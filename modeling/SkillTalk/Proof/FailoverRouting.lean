import SkillTalk.Proof.FailoverStep

/-!
# Routing is well formed and local

Three writers share the map of active providers, one of them acting on a decision it took before a
sleep. What keeps the map well formed is that a suspended failback carries an entry of
`providerPairs` and a primary, both checked before the sleep and never changing; what keeps a step
local is that each call it makes names a type the job is about.
-/

namespace SkillTalk

/-- The task sleeps for a paired type, to return it to its primary, and has paired types ahead. -/
structure FailbackTask.WellFormed (task : FailbackTask) : Prop where
  paired : SkillTalk.providerPair task.serviceType = some task.providerPair
  primary : task.providerPair.primary = task.recoveredProvider
  remaining : ∀ entry ∈ task.remaining, SkillTalk.providerPair entry.1 = some entry.2

def FailoverAction.Concerns (w : FailoverWorld) : FailoverAction → ServiceType → Prop
  | .triggerFailover named _, serviceType => serviceType = named
  | .handleHealthDegradation index _, serviceType =>
      ∃ notification, w.degradations[index]? = some notification
        ∧ w.getActiveProvider serviceType = notification.provider
  | .resumeFailback index, serviceType =>
      ∃ task, w.failbacks[index]? = some task
        ∧ ∃ pair, providerPair serviceType = some pair ∧ pair.primary = task.recoveredProvider
  | _, _ => False

namespace FailoverWorld

def TasksWellFormed (w : FailoverWorld) : Prop := ∀ task ∈ w.failbacks, task.WellFormed

/-- A paired type is routed to its primary or its backup, and no other type has an entry. -/
structure Routed (w : FailoverWorld) : Prop where
  paired : ∀ serviceType pair, providerPair serviceType = some pair →
    w.activeProviders serviceType = some pair.primary
      ∨ w.activeProviders serviceType = some pair.backup
  unpaired : ∀ serviceType, providerPair serviceType = none → w.activeProviders serviceType = none

/-- Every job that can run next changes only the active providers of types it is about. -/
def StepsLocally (clock : Clock Date) (w : FailoverWorld) : Prop :=
  ∀ action v, w.step clock action = some v → ∀ serviceType,
    v.activeProviders serviceType ≠ w.activeProviders serviceType → action.Concerns w serviceType

variable {clock : Clock Date}

theorem FallsAsleep.wellFormed {v : FailoverWorld} {task : FailbackTask}
    {entries : List (ServiceType × ProviderPair)} (h : FallsAsleep clock v entries task)
    (hentries : ∀ entry ∈ entries, providerPair entry.1 = some entry.2) : task.WellFormed := by
  obtain ⟨before, rfl⟩ := h.entries
  refine ⟨?_, h.primary, fun entry hentry => hentries entry ?_⟩
  · exact hentries (task.serviceType, task.providerPair) (by simp)
  · exact List.mem_append_right _ (List.mem_cons_of_mem _ hentry)

theorem TasksWellFormed.step {w v : FailoverWorld} {action : FailoverAction}
    (hw : w.TasksWellFormed) (hstep : w.step clock action = some v) : v.TasksWellFormed := by
  intro task htask
  rcases mem_failbacks_of_step hstep htask with hold | ⟨order, hasleep⟩ | ⟨resumed, hold, hasleep⟩
  · exact hw task hold
  · exact hasleep.wellFormed fun entry hentry => PairOrder.mem_entries_iff.mp hentry
  · exact hasleep.wellFormed (hw resumed hold).remaining

theorem tasksWellFormed_of_reachable {w : FailoverWorld} (hw : (failover clock).Reachable w) :
    w.TasksWellFormed := by
  refine Machine.ReachableWhere.invariant TasksWellFormed ?_
    (fun w action v _ hw _ hstep => hw.step hstep) hw
  rintro w rfl task htask
  exact absurd htask (by simp [initial])

variable (clock) in
theorem perform_activeProviders (w : FailoverWorld) (call : FailoverCall) :
    (w.perform clock call).activeProviders = w.activeProviders
      ∨ (w.perform clock call).activeProviders
          = Function.update w.activeProviders call.serviceType (some call.targetProvider) := by
  rcases perform_cases clock w call with ⟨_, hrefused⟩ | ⟨_, hswitched⟩
  · exact .inl (by rw [hrefused])
  · exact .inr hswitched.active

theorem Routed.perform {w : FailoverWorld} (hw : w.Routed) {call : FailoverCall}
    {pair : ProviderPair} (hpair : providerPair call.serviceType = some pair)
    (htarget : call.targetProvider = pair.primary ∨ call.targetProvider = pair.backup) :
    (w.perform clock call).Routed := by
  rcases perform_activeProviders clock w call with hsame | hswitch
  · exact ⟨by rw [hsame]; exact hw.paired, by rw [hsame]; exact hw.unpaired⟩
  · constructor
    · intro serviceType other hother
      rw [hswitch]
      by_cases htype : serviceType = call.serviceType
      · subst htype
        obtain rfl : pair = other := Option.some.inj (hpair.symm.trans hother)
        simpa using htarget
      · rw [Function.update_of_ne htype]
        exact hw.paired serviceType other hother
    · intro serviceType hnone
      have htype : serviceType ≠ call.serviceType := by
        rintro rfl
        rw [hpair] at hnone
        cases hnone
      rw [hswitch, Function.update_of_ne htype]
      exact hw.unpaired serviceType hnone

theorem calls_target {w u : FailoverWorld} {action : FailoverAction} {call : FailoverCall}
    (hw : w.TasksWellFormed) (hcall : action.Calls w u call) :
    ∃ pair, providerPair call.serviceType = some pair
      ∧ (call.targetProvider = pair.primary ∨ call.targetProvider = pair.backup) := by
  cases action with
  | triggerFailover serviceType reason =>
      obtain ⟨_, rfl, _, _, pair, hpair, htarget⟩ := hcall
      exact ⟨pair, hpair, htarget ▸ pair.other_mem _⟩
  | handleHealthDegradation index order =>
      obtain ⟨_, _, _, _, _, pair, hpair, htarget⟩ := hcall
      exact ⟨pair, hpair, htarget ▸ pair.other_mem _⟩
  | resumeFailback index =>
      obtain ⟨task, htask, _, _, htype, _, _, htarget⟩ := hcall
      have htaskWF : task.WellFormed := hw task (List.mem_of_getElem? htask)
      exact ⟨task.providerPair, htype ▸ htaskWF.paired, .inl (htarget.trans htaskWF.primary.symm)⟩
  | updateServiceHealth | fireTimer | checkProviderRecovery => exact hcall.elim

theorem Routed.switchesBy {w v : FailoverWorld} {action : FailoverAction} (hw : w.Routed)
    (htasks : w.TasksWellFormed) (hv : SwitchesBy clock (action.Calls w) w v) : v.Routed := by
  refine hv.invariant Routed ?_ ?_ hw
  · intro u v hsame hu
    exact ⟨by rw [hsame.active]; exact hu.paired, by rw [hsame.active]; exact hu.unpaired⟩
  · intro u call _ hcall hu
    obtain ⟨pair, hpair, htarget⟩ := calls_target htasks hcall
    exact hu.perform hpair htarget

theorem routed_of_reachable {w : FailoverWorld} (hw : (failover clock).Reachable w) :
    w.Routed := by
  refine Machine.ReachableWhere.invariant Routed ?_ (fun w action v hreach hw _ hstep =>
    hw.switchesBy (tasksWellFormed_of_reachable hreach) (step_switchesBy hstep)) hw
  rintro w rfl
  constructor
  · intro serviceType pair hpair
    exact .inl (by simp [initial, setupFailoverManager, hpair])
  · intro serviceType hnone
    simp [initial, setupFailoverManager, hnone]

theorem Routed.getActiveProvider_eq_iff {w : FailoverWorld} (hw : w.Routed)
    {serviceType : ServiceType} {pair : ProviderPair}
    (hpair : providerPair serviceType = some pair) (provider : ServiceProvider) :
    w.getActiveProvider serviceType = provider
      ↔ w.activeProviders serviceType = some provider := by
  rcases hw.paired serviceType pair hpair with hactive | hactive <;>
    simp [getActiveProvider, hactive]

theorem getActiveProvider_congr {w v : FailoverWorld} {serviceType : ServiceType}
    (h : v.activeProviders serviceType = w.activeProviders serviceType) :
    v.getActiveProvider serviceType = w.getActiveProvider serviceType := by
  simp [getActiveProvider, h]

theorem stepsLocally {w : FailoverWorld} (htasks : w.TasksWellFormed) : w.StepsLocally clock := by
  intro action v hstep
  refine (step_switchesBy hstep).invariant (fun u => ∀ serviceType,
    u.activeProviders serviceType ≠ w.activeProviders serviceType → action.Concerns w serviceType)
    ?_ ?_ fun serviceType hne => absurd rfl hne
  · intro u v hsame hu serviceType hne
    exact hu serviceType (hsame.active ▸ hne)
  · intro u call _ hcall hu serviceType hne
    by_cases hbefore : u.activeProviders serviceType = w.activeProviders serviceType
    · -- this call made the change, so it names the type
      have hnamed : serviceType = call.serviceType := by
        by_contra hother
        rcases perform_activeProviders clock u call with hsame | hswitch
        · exact hne (hsame ▸ hbefore)
        · rw [hswitch, Function.update_of_ne hother] at hne
          exact hne hbefore
      subst hnamed
      cases action with
      | triggerFailover named reason => exact hcall.2.1
      | handleHealthDegradation index order =>
          obtain ⟨notification, hnotification, _, hactive, _⟩ := hcall
          exact ⟨notification, hnotification, getActiveProvider_congr hbefore ▸ hactive⟩
      | resumeFailback index =>
          obtain ⟨task, htask, _, _, htype, _⟩ := hcall
          have htaskWF : task.WellFormed := htasks task (List.mem_of_getElem? htask)
          exact ⟨task, htask, task.providerPair, htype ▸ htaskWF.paired, htaskWF.primary⟩
      | updateServiceHealth | fireTimer | checkProviderRecovery => exact hcall.elim
    · exact hu serviceType hbefore

/-- **Routing is well formed and local.** In every reachable world each paired type is routed to its
primary or its backup and no other type has an entry, and every job changes only types it is
about. -/
theorem failover_routing {w : FailoverWorld} (hw : (failover clock).Reachable w) :
    w.Routed ∧ w.StepsLocally clock :=
  ⟨routed_of_reachable hw, stepsLocally (tasksWellFormed_of_reachable hw)⟩

theorem failover_routing_of_trigger :
    ∃ w, (failover (Clock.ofGaps [])).exec (initial (Clock.ofGaps []))
        [.triggerFailover .authentication "manual"] = some w
      ∧ w.Routed ∧ w.StepsLocally (Clock.ofGaps []) := by
  obtain ⟨w, hexec⟩ : ∃ w, (failover (Clock.ofGaps [])).exec (initial (Clock.ofGaps []))
      [.triggerFailover .authentication "manual"] = some w := ⟨_, rfl⟩
  exact ⟨w, hexec, failover_routing (Machine.reachable_of_exec rfl hexec)⟩

end FailoverWorld

end SkillTalk
