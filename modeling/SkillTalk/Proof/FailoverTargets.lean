import SkillTalk.Proof.DegradationOrder

/-!
# Which automatic switches go to a provider that is down

A failback looks at the recovered provider's health again right before it switches. Handling a
degradation notification does not look at the other provider's health at all. So a run switches to a
provider last reported as failed exactly when, at a type that is out of its cooldown and has the
degraded provider active, the other provider of the pair is down too.
-/

namespace SkillTalk

namespace FailoverWorld

def isDown (w : FailoverWorld) (provider : ServiceProvider) : Bool :=
  (w.healthMonitor.getHealth provider).any fun health => health.status = .failed

def switchesBetween (w v : FailoverWorld) : List FailoverEvent :=
  v.completed.drop w.completed.length

/-- No automatic switch between `w` and `v` goes to a provider that is down in `w`. -/
def SwitchesUp (w v : FailoverWorld) : Prop :=
  ∀ event ∈ switchesBetween w v, event.isAutomatic = true → w.isDown event.toProvider = false

instance (w v : FailoverWorld) : Decidable (SwitchesUp w v) :=
  inferInstanceAs (Decidable (∀ event ∈ _, _ → _))

/-- In the order of the loop, an entry with the degraded provider active and no cooldown has a
second provider that is up. `reads` counts the readings taken before the entry: one for a refused
switch, four for a switch. -/
def OthersUp (clock : Clock Date) (w : FailoverWorld) (provider : ServiceProvider) :
    ℕ → List (ServiceType × ProviderPair) → Prop
  | _, [] => True
  | reads, (serviceType, pair) :: entries =>
      if w.getActiveProvider serviceType = provider then
        if w.inCooldown (clock.reading reads) serviceType then
          OthersUp clock w provider (reads + 1) entries
        else
          w.isDown (pair.other provider) = false ∧ OthersUp clock w provider (reads + 4) entries
      else OthersUp clock w provider reads entries

end FailoverWorld

/-- The job does not handle a degradation at a type whose other provider is down. -/
def FailoverAction.TargetsUp (clock : Clock Date) (w : FailoverWorld) : FailoverAction → Prop
  | .handleHealthDegradation index order =>
      ∀ notification ∈ w.degradations[index]?,
        w.OthersUp clock notification.provider w.reads order.entries
  | _ => True

theorem PairOrder.nodup_keys (order : PairOrder) : (order.entries.map Prod.fst).Nodup := by
  have hwritten : (providerPairs.map Prod.fst).Nodup := by decide
  exact (order.perm.map Prod.fst).nodup_iff.mpr hwritten

namespace FailoverWorld

variable {clock : Clock Date}

def Appends (w : FailoverWorld) (events : List FailoverEvent) (v : FailoverWorld) : Prop :=
  v.completed = w.completed ++ events

theorem Appends.switchesBetween_eq {w v : FailoverWorld} {events : List FailoverEvent}
    (h : Appends w events v) : switchesBetween w v = events := by
  rw [switchesBetween, h, List.drop_left]

theorem Appends.trans {w u v : FailoverWorld} {events events' : List FailoverEvent}
    (hu : Appends w events u) (hv : Appends u events' v) : Appends w (events ++ events') v := by
  rw [Appends, hv, hu, List.append_assoc]

/-- A loop over `entries` goes only to providers that are up exactly when `OthersUp` says so. -/
theorem foldl_degradeEntry_switchesUp {w : FailoverWorld}
    {notification : ServiceHealthNotification} {entries : List (ServiceType × ProviderPair)}
    (hnodup : (entries.map Prod.fst).Nodup) {u : FailoverWorld}
    (hsame : ∀ entry ∈ entries, SameSlot entry.1 w u) :
    ∃ events, Appends u events (entries.foldl (degradeEntry clock notification) u)
      ∧ ((∀ event ∈ events, event.isAutomatic = true → w.isDown event.toProvider = false)
        ↔ w.OthersUp clock notification.provider u.reads entries) := by
  induction entries generalizing u with
  | nil => exact ⟨[], (List.append_nil _).symm, by simp [OthersUp]⟩
  | cons entry entries ih =>
      obtain ⟨hnew, hnodup⟩ := List.nodup_cons.mp hnodup
      obtain ⟨hslot, hslots⟩ := List.forall_mem_cons.mp hsame
      have hnext : ∀ next ∈ entries,
          SameSlot next.1 w (degradeEntry clock notification u entry) := by
        intro next hentry
        have hne : next.1 ≠ entry.1 := fun heq => hnew (heq ▸ List.mem_map_of_mem hentry)
        exact (hslots next hentry).trans (visit_sameSlot_of_ne (v := (notification, entry)) hne)
      obtain ⟨events, happends, hevents⟩ := ih hnodup hnext
      rw [List.foldl_cons]
      by_cases hactive : u.getActiveProvider entry.1 = notification.provider
      · have hactive' : w.getActiveProvider entry.1 = notification.provider :=
          hslot.getActiveProvider.symm.trans hactive
        have hcall := degradeEntry_of_active clock hactive
        rcases perform_cases clock u (degradeCall notification entry) with
          ⟨hcooldown, hrefused⟩ | ⟨hopen, hswitched⟩
        · have hcooldown' : w.inCooldown (clock.reading u.reads) entry.1 = true :=
            (hslot.inCooldown _).symm.trans hcooldown
          have hreads : (degradeEntry clock notification u entry).reads = u.reads + 1 := by
            rw [hcall, hrefused]
          have hfirst : Appends u [] (degradeEntry clock notification u entry) := by
            rw [Appends, hcall, hrefused, List.append_nil]
          refine ⟨events, hfirst.trans happends, ?_⟩
          rw [hevents, hreads, OthersUp, if_pos hactive', if_pos hcooldown']
        · have hopen' : w.inCooldown (clock.reading u.reads) entry.1 = false :=
            (hslot.inCooldown _).symm.trans hopen
          rw [← hcall] at hswitched
          refine ⟨_ :: events, Appends.trans hswitched.completed happends, ?_⟩
          rw [List.forall_mem_cons, hevents, hswitched.reads, OthersUp, if_pos hactive', hopen']
          simp [FailoverCall.event, degradeCall]
      · have hactive' : w.getActiveProvider entry.1 ≠ notification.provider :=
          fun h => hactive (hslot.getActiveProvider.trans h)
        rw [degradeEntry_of_not_active clock hactive] at happends hevents ⊢
        refine ⟨events, happends, ?_⟩
        rw [hevents, OthersUp, if_neg hactive']

theorem handleHealthDegradation_switchesUp {w u : FailoverWorld} {order : PairOrder}
    {notification : ServiceHealthNotification} (hslots : ∀ serviceType, SameSlot serviceType w u)
    (hcompleted : u.completed = w.completed) (hreads : u.reads = w.reads) :
    SwitchesUp w (handleHealthDegradation clock order u notification)
      ↔ w.OthersUp clock notification.provider w.reads order.entries := by
  obtain ⟨events, happends, hevents⟩ :=
    foldl_degradeEntry_switchesUp order.nodup_keys fun entry _ => hslots entry.1
  have hbetween : switchesBetween w (handleHealthDegradation clock order u notification)
      = events := by
    apply Appends.switchesBetween_eq
    rw [Appends, ← hcompleted]
    exact happends
  rw [SwitchesUp, hbetween, ← hreads]
  exact hevents

theorem mem_switchesBetween {w v : FailoverWorld} {allowed : FailoverWorld → FailoverCall → Prop}
    {P : FailoverEvent → Prop} (hv : SwitchesBy clock allowed w v)
    (hP : ∀ u call now, allowed u call → P (call.event now)) :
    ∀ event ∈ switchesBetween w v, P event := by
  have happends : ∃ events, Appends w events v ∧ ∀ event ∈ events, P event := by
    refine hv.invariant (fun u => ∃ events, Appends w events u ∧ ∀ event ∈ events, P event)
      ?_ ?_ ⟨[], (List.append_nil _).symm, by simp⟩
    · rintro u u' hsame ⟨events, happends, hevents⟩
      exact ⟨events, hsame.completed.trans happends, hevents⟩
    · rintro u call _ hallowed ⟨events, happends, hevents⟩
      rcases perform_cases clock u call with ⟨_, hrefused⟩ | ⟨_, hswitched⟩
      · rw [hrefused]
        exact ⟨events, happends, hevents⟩
      · refine ⟨_, happends.trans hswitched.completed, ?_⟩
        exact List.forall_mem_append.mpr ⟨hevents, by simpa using hP u call _ hallowed⟩
  obtain ⟨events, happends, hevents⟩ := happends
  rw [happends.switchesBetween_eq]
  exact hevents

theorem isDown_of_isHealthy {w : FailoverWorld} {provider : ServiceProvider}
    (hhealthy : w.isHealthy provider = true) : w.isDown provider = false := by
  unfold isHealthy at hhealthy
  unfold isDown
  cases hhealth : w.healthMonitor.getHealth provider with
  | none => rfl
  | some health =>
      rw [hhealth] at hhealthy
      have hstatus : health.status = .healthy := of_decide_eq_true hhealthy
      simp [hstatus]

/-- **One job switches automatically to providers that are up exactly when it meets
`TargetsUp`.** -/
theorem switchesUp_iff {w v : FailoverWorld} {action : FailoverAction}
    (hstep : w.step clock action = some v) : SwitchesUp w v ↔ action.TargetsUp clock w := by
  have hcalls := step_switchesBy hstep
  cases action with
  | triggerFailover serviceType reason =>
      refine iff_of_true (mem_switchesBetween hcalls ?_) trivial
      rintro u call now ⟨_, _, hmanual, _⟩ hautomatic
      rw [FailoverCall.event, hmanual] at hautomatic
      cases hautomatic
  | resumeFailback index =>
      refine iff_of_true (mem_switchesBetween hcalls ?_) trivial
      rintro u call now ⟨task, _, _, hhealthy, _, _, _, htarget⟩ _
      rw [FailoverCall.event, htarget]
      exact isDown_of_isHealthy hhealthy
  | handleHealthDegradation index order =>
      obtain ⟨notification, hnotification, rfl⟩ := Option.map_eq_some_iff.mp hstep
      refine (handleHealthDegradation_switchesUp ?_ ?_ ?_).trans ?_
      · exact fun serviceType => ⟨rfl, rfl, rfl⟩
      · rfl
      · rfl
      · simp [FailoverAction.TargetsUp, hnotification]
  | updateServiceHealth health =>
      exact iff_of_true (mem_switchesBetween hcalls fun u call now h => h.elim) trivial
  | fireTimer provider =>
      exact iff_of_true (mem_switchesBetween hcalls fun u call now h => h.elim) trivial
  | checkProviderRecovery index order =>
      exact iff_of_true (mem_switchesBetween hcalls fun u call now h => h.elim) trivial

/-- **A run switches automatically to providers that are up exactly when all of its jobs meet
`TargetsUp`.** -/
theorem automatic_switches_up_iff (clock : Clock Date) (actions : List FailoverAction) :
    (∀ x ∈ (failover clock).transitions (initial clock) actions, SwitchesUp x.1 x.2.2)
      ↔ ∀ x ∈ (failover clock).transitions (initial clock) actions, x.2.1.TargetsUp clock x.1 := by
  refine forall₂_congr fun x hx => switchesUp_iff ?_
  exact (Machine.mem_transitions (.init rfl) hx).2

/-- Supabase is reported as failed and then firebase is. The second report moves authentication from
firebase to supabase. -/
theorem automatic_switch_down :
    let clock := Clock.ofGaps []
    let actions : List FailoverAction :=
      [.updateServiceHealth ⟨.supabase, .failed, 1, 0, 0, none⟩,
        .updateServiceHealth ⟨.firebase, .failed, 1, 0, 0, none⟩,
        .handleHealthDegradation 1 .written]
    ¬ ∀ x ∈ (failover clock).transitions (initial clock) actions, SwitchesUp x.1 x.2.2 := by
  decide +kernel

end FailoverWorld

end SkillTalk
