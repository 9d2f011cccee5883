import Mathlib.Tactic.Linarith
import Mathlib.Tactic.NormNum
import SkillTalk.Proof.FailoverCooldown

/-!
# Degradation notifications commute within a cooldown

Seen from one service type, handling notifications is a latch. The first one that names the active
provider while the type is open switches it, and sets its cooldown. Everything after is refused for
as long as the cooldown runs, so nothing undoes the switch, and before it nothing names the provider
that is active. So the outcome depends only on which providers the notifications name.
-/

namespace SkillTalk

namespace FailoverWorld

/-- Handle notifications one after another, each enumerating `providerPairs` in its own order. -/
def handleAll (clock : Clock Date) (w : FailoverWorld)
    (items : List (ServiceHealthNotification × PairOrder)) : FailoverWorld :=
  items.foldl (fun w item => handleHealthDegradation clock item.2 w item.1) w

def ReadsWithin (clock : Clock Date) (w v : FailoverWorld) (start stop : Date) : Prop :=
  ∀ i, w.reads ≤ i → i < v.reads → start ≤ clock.reading i ∧ clock.reading i ≤ stop

/-- From `w` to `v` less than 300 seconds pass, and no cooldown of `w` runs out. -/
structure Window (clock : Clock Date) (w v : FailoverWorld) (start stop : Date) : Prop where
  short : stop - start < 300
  within : ReadsWithin clock w v start stop
  steady : ∀ serviceType, ∀ last ∈ w.failoverCooldowns serviceType,
    300 ≤ start - last ∨ stop - last < 300

def switchCount (w : FailoverWorld) (serviceType : ServiceType) : ℕ :=
  w.completed.countP fun event => event.serviceType = serviceType

abbrev Visit := ServiceHealthNotification × (ServiceType × ProviderPair)

def visits (items : List (ServiceHealthNotification × PairOrder)) : List Visit :=
  items.flatMap fun item => item.2.entries.map fun entry => (item.1, entry)

variable (clock : Clock Date)

def visit (w : FailoverWorld) (v : Visit) : FailoverWorld :=
  degradeEntry clock v.1 w v.2

theorem handleAll_eq_foldl_visits (w : FailoverWorld)
    (items : List (ServiceHealthNotification × PairOrder)) :
    handleAll clock w items = (visits items).foldl (visit clock) w := by
  induction items generalizing w with
  | nil => rfl
  | cons item items ih =>
      rw [visits, List.flatMap_cons, List.foldl_append, List.foldl_map]
      exact ih _

theorem providerPair_of_mem_visits {items : List (ServiceHealthNotification × PairOrder)}
    {v : Visit} (hv : v ∈ visits items) : providerPair v.2.1 = some v.2.2 := by
  obtain ⟨item, _, hv⟩ := List.mem_flatMap.mp hv
  obtain ⟨entry, hentry, rfl⟩ := List.mem_map.mp hv
  exact PairOrder.mem_entries_iff.mp hentry

theorem exists_visit_iff {items : List (ServiceHealthNotification × PairOrder)}
    {serviceType : ServiceType} {pair : ProviderPair}
    (hpair : providerPair serviceType = some pair) (provider : ServiceProvider) :
    (∃ v ∈ visits items, v.2.1 = serviceType ∧ v.1.provider = provider)
      ↔ ∃ item ∈ items, item.1.provider = provider := by
  constructor
  · rintro ⟨v, hv, _, hprovider⟩
    obtain ⟨item, hitem, hv⟩ := List.mem_flatMap.mp hv
    obtain ⟨entry, _, rfl⟩ := List.mem_map.mp hv
    exact ⟨item, hitem, hprovider⟩
  · rintro ⟨item, hitem, hprovider⟩
    refine ⟨(item.1, (serviceType, pair)), ?_, rfl, hprovider⟩
    exact List.mem_flatMap.mpr
      ⟨item, hitem, List.mem_map.mpr ⟨_, PairOrder.mem_entries_iff.mpr hpair, rfl⟩⟩

structure SameSlot (serviceType : ServiceType) (w u : FailoverWorld) : Prop where
  active : u.activeProviders serviceType = w.activeProviders serviceType
  cooldown : u.failoverCooldowns serviceType = w.failoverCooldowns serviceType
  count : u.switchCount serviceType = w.switchCount serviceType

/-- The type has been switched once since `w`, away from the provider active then, and no earlier
than `start`. -/
structure SwitchedOnce (serviceType : ServiceType) (w : FailoverWorld) (start : Date)
    (u : FailoverWorld) : Prop where
  active : ∃ pair, providerPair serviceType = some pair
    ∧ u.activeProviders serviceType = some (pair.other (w.getActiveProvider serviceType))
  cooldown : ∃ mark ∈ u.failoverCooldowns serviceType, start ≤ mark
  count : u.switchCount serviceType = w.switchCount serviceType + 1

variable {clock}

theorem SameSlot.refl (serviceType : ServiceType) (w : FailoverWorld) :
    SameSlot serviceType w w := ⟨rfl, rfl, rfl⟩

theorem SameSlot.trans {serviceType : ServiceType} {w u v : FailoverWorld}
    (hwu : SameSlot serviceType w u) (huv : SameSlot serviceType u v) :
    SameSlot serviceType w v :=
  ⟨huv.active.trans hwu.active, huv.cooldown.trans hwu.cooldown, huv.count.trans hwu.count⟩

theorem SwitchedOnce.of_sameSlot {serviceType : ServiceType} {w u v : FailoverWorld}
    {start : Date} (h : SwitchedOnce serviceType w start u) (huv : SameSlot serviceType u v) :
    SwitchedOnce serviceType w start v where
  active := huv.active ▸ h.active
  cooldown := huv.cooldown ▸ h.cooldown
  count := huv.count.trans h.count

theorem perform_sameSlot_of_inCooldown {w : FailoverWorld} (call : FailoverCall)
    (hcooldown : w.inCooldown (clock.reading w.reads) call.serviceType = true)
    (serviceType : ServiceType) : SameSlot serviceType w (w.perform clock call) := by
  rw [perform_of_inCooldown hcooldown]
  exact ⟨rfl, rfl, rfl⟩

theorem perform_sameSlot_of_ne {w : FailoverWorld} (call : FailoverCall)
    {serviceType : ServiceType} (hne : serviceType ≠ call.serviceType) :
    SameSlot serviceType w (w.perform clock call) := by
  rcases perform_cases clock w call with ⟨hcooldown, _⟩ | ⟨_, hswitched⟩
  · exact perform_sameSlot_of_inCooldown call hcooldown serviceType
  · refine ⟨?_, ?_, ?_⟩
    · rw [hswitched.active, Function.update_of_ne hne]
    · rw [hswitched.cooldowns, Function.update_of_ne hne]
    · rw [switchCount, switchCount, hswitched.completed, List.countP_append]
      simp [FailoverCall.event, hne.symm]

theorem perform_switchedOnce {w u : FailoverWorld} (call : FailoverCall) {pair : ProviderPair}
    {start : Date} (hu : SameSlot call.serviceType w u)
    (hpair : providerPair call.serviceType = some pair)
    (htarget : call.targetProvider = pair.other (w.getActiveProvider call.serviceType))
    (hopen : u.inCooldown (clock.reading u.reads) call.serviceType = false)
    (hstart : start ≤ clock.reading u.reads) :
    SwitchedOnce call.serviceType w start (u.perform clock call) := by
  have hswitched : Switched clock u call (u.perform clock call) := switched_of_not_inCooldown hopen
  refine ⟨⟨pair, hpair, ?_⟩, ⟨clock.reading (u.reads + 2), ?_, ?_⟩, ?_⟩
  · rw [hswitched.active, Function.update_self, htarget]
  · rw [hswitched.cooldowns]
    simp
  · exact hstart.trans (clock.monotone (Nat.le_add_right _ _))
  · rw [← hu.count, switchCount, switchCount, hswitched.completed, List.countP_append]
    simp [FailoverCall.event]

theorem reads_lt_visit {u : FailoverWorld} {v : Visit}
    (hactive : u.getActiveProvider v.2.1 = v.1.provider) :
    u.reads < (u.visit clock v).reads := by
  rw [visit, degradeEntry_of_active clock hactive]
  rcases perform_cases clock u (degradeCall v.1 v.2) with ⟨_, hrefused⟩ | ⟨_, hswitched⟩
  · rw [hrefused]
    exact Nat.lt_succ_self _
  · rw [hswitched.reads]
    omega

theorem reads_le_visit (u : FailoverWorld) (v : Visit) : u.reads ≤ (u.visit clock v).reads := by
  by_cases hactive : u.getActiveProvider v.2.1 = v.1.provider
  · exact (reads_lt_visit hactive).le
  · rw [visit, degradeEntry_of_not_active clock hactive]

theorem reads_le_foldl_visits (vs : List Visit) (u : FailoverWorld) :
    u.reads ≤ (vs.foldl (visit clock) u).reads := by
  induction vs generalizing u with
  | nil => exact le_rfl
  | cons v vs ih => exact (reads_le_visit u v).trans (ih _)

def OpenAt (w : FailoverWorld) (start : Date) (serviceType : ServiceType) : Prop :=
  ∀ last ∈ w.failoverCooldowns serviceType, 300 ≤ start - last

def Visit.Hits (v : Visit) (w : FailoverWorld) (serviceType : ServiceType) : Prop :=
  v.2.1 = serviceType ∧ v.1.provider = w.getActiveProvider serviceType

theorem not_inCooldown_of_old {u : FailoverWorld} {serviceType : ServiceType} {now : Date}
    (hold : ∀ last ∈ u.failoverCooldowns serviceType, 300 ≤ now - last) :
    u.inCooldown now serviceType = false := by
  rw [Bool.eq_false_iff]
  intro hcooldown
  obtain ⟨last, hlast, hrecent⟩ := inCooldown_iff.mp hcooldown
  exact not_lt.mpr (hold last hlast) hrecent

theorem visit_sameSlot_of_refused {u : FailoverWorld} {v : Visit}
    (hrefused : u.getActiveProvider v.2.1 = v.1.provider →
      u.inCooldown (clock.reading u.reads) v.2.1 = true) (serviceType : ServiceType) :
    SameSlot serviceType u (u.visit clock v) := by
  by_cases hactive : u.getActiveProvider v.2.1 = v.1.provider
  · rw [visit, degradeEntry_of_active clock hactive]
    exact perform_sameSlot_of_inCooldown _ (hrefused hactive) serviceType
  · rw [visit, degradeEntry_of_not_active clock hactive]
    exact .refl serviceType u

theorem visit_sameSlot_of_ne {u : FailoverWorld} {v : Visit} {serviceType : ServiceType}
    (hne : serviceType ≠ v.2.1) : SameSlot serviceType u (u.visit clock v) := by
  by_cases hactive : u.getActiveProvider v.2.1 = v.1.provider
  · rw [visit, degradeEntry_of_active clock hactive]
    exact perform_sameSlot_of_ne _ hne
  · rw [visit, degradeEntry_of_not_active clock hactive]
    exact .refl serviceType u

theorem SameSlot.getActiveProvider {serviceType : ServiceType} {w u : FailoverWorld}
    (h : SameSlot serviceType w u) :
    u.getActiveProvider serviceType = w.getActiveProvider serviceType := by
  rw [FailoverWorld.getActiveProvider, FailoverWorld.getActiveProvider, h.active]

theorem SameSlot.inCooldown {serviceType : ServiceType} {w u : FailoverWorld}
    (h : SameSlot serviceType w u) (now : Date) :
    u.inCooldown now serviceType = w.inCooldown now serviceType := by
  rw [FailoverWorld.inCooldown, FailoverWorld.inCooldown, h.cooldown]

theorem visit_switchedOnce {w u : FailoverWorld} {v : Visit} {start : Date}
    (hu : SameSlot v.2.1 w u) (hpair : providerPair v.2.1 = some v.2.2)
    (hhits : v.Hits w v.2.1) (hopen : w.OpenAt start v.2.1)
    (hstart : start ≤ clock.reading u.reads) :
    SwitchedOnce v.2.1 w start (u.visit clock v) := by
  have hactive : u.getActiveProvider v.2.1 = v.1.provider := hu.getActiveProvider.trans hhits.2.symm
  rw [visit, degradeEntry_of_active clock hactive]
  refine perform_switchedOnce (degradeCall v.1 v.2) hu hpair ?_ ?_ hstart
  · exact congrArg v.2.2.other hhits.2
  · refine not_inCooldown_of_old fun last hlast => ?_
    have hold : 300 ≤ start - last := hopen last (hu.cooldown ▸ hlast)
    linarith

/-- While a cooldown of the type runs, nothing happens to the type. -/
theorem foldl_visits_of_recent {serviceType : ServiceType} {last stop start : Date}
    (hrecent : stop - last < 300) (vs : List Visit) {u : FailoverWorld}
    (hlast : last ∈ u.failoverCooldowns serviceType)
    (hwithin : ReadsWithin clock u (vs.foldl (visit clock) u) start stop) :
    SameSlot serviceType u (vs.foldl (visit clock) u) := by
  induction vs generalizing u with
  | nil => exact .refl serviceType u
  | cons v vs ih =>
      have hvisit : SameSlot serviceType u (u.visit clock v) := by
        by_cases htype : serviceType = v.2.1
        · refine visit_sameSlot_of_refused (fun hactive => ?_) serviceType
          have hread : u.reads < ((v :: vs).foldl (visit clock) u).reads :=
            (reads_lt_visit hactive).trans_le (reads_le_foldl_visits vs _)
          have hstop : clock.reading u.reads ≤ stop := (hwithin _ le_rfl hread).2
          subst htype
          exact inCooldown_iff.mpr ⟨last, hlast, by rw [cooldownDuration]; linarith⟩
        · exact visit_sameSlot_of_ne htype
      refine hvisit.trans (ih (hvisit.cooldown ▸ hlast) fun i hi => ?_)
      exact hwithin i ((reads_le_visit u v).trans hi)

theorem visit_sameSlot_of_not_hits {serviceType : ServiceType} {w u : FailoverWorld} {v : Visit}
    (hu : SameSlot serviceType w u) (hmiss : ¬ v.Hits w serviceType) :
    SameSlot serviceType u (u.visit clock v) := by
  by_cases htype : serviceType = v.2.1
  · refine visit_sameSlot_of_refused (fun hactive => absurd ⟨htype.symm, ?_⟩ hmiss) serviceType
    subst htype
    rw [← hu.getActiveProvider, hactive]
  · exact visit_sameSlot_of_ne htype

/-- While nothing names its active provider, nothing happens to a type. -/
theorem foldl_visits_of_not_hits {serviceType : ServiceType} {w : FailoverWorld} (vs : List Visit)
    {u : FailoverWorld} (hu : SameSlot serviceType w u)
    (hmiss : ∀ v ∈ vs, ¬ v.Hits w serviceType) :
    SameSlot serviceType w (vs.foldl (visit clock) u) := by
  induction vs generalizing u with
  | nil => exact hu
  | cons v vs ih =>
      obtain ⟨hv, hvs⟩ := List.forall_mem_cons.mp hmiss
      exact ih (hu.trans (visit_sameSlot_of_not_hits hu hv)) hvs

/-- The first visit that hits an open type switches it, and the cooldown keeps it so. -/
theorem foldl_visits_of_hits {serviceType : ServiceType} {w : FailoverWorld} {start stop : Date}
    (hshort : stop - start < 300) (hopen : w.OpenAt start serviceType) (vs : List Visit)
    (hpaired : ∀ v ∈ vs, providerPair v.2.1 = some v.2.2) {u : FailoverWorld}
    (hu : SameSlot serviceType w u) (hhits : ∃ v ∈ vs, v.Hits w serviceType)
    (hwithin : ReadsWithin clock u (vs.foldl (visit clock) u) start stop) :
    SwitchedOnce serviceType w start (vs.foldl (visit clock) u) := by
  induction vs generalizing u with
  | nil =>
      obtain ⟨v, hv, _⟩ := hhits
      cases hv
  | cons v vs ih =>
      obtain ⟨hpair, hpairs⟩ := List.forall_mem_cons.mp hpaired
      have hrest : ReadsWithin clock (u.visit clock v) (vs.foldl (visit clock) (u.visit clock v))
          start stop := fun i hi => hwithin i ((reads_le_visit u v).trans hi)
      by_cases hv : v.Hits w serviceType
      · obtain rfl : v.2.1 = serviceType := hv.1
        have hactive : u.getActiveProvider v.2.1 = v.1.provider :=
          hu.getActiveProvider.trans hv.2.symm
        have hread : u.reads < ((v :: vs).foldl (visit clock) u).reads :=
          (reads_lt_visit hactive).trans_le (reads_le_foldl_visits vs _)
        have hswitched : SwitchedOnce v.2.1 w start (u.visit clock v) :=
          visit_switchedOnce hu hpair hv hopen (hwithin _ le_rfl hread).1
        obtain ⟨mark, hmark, hstart⟩ := hswitched.cooldown
        exact hswitched.of_sameSlot (foldl_visits_of_recent (by linarith) vs hmark hrest)
      · refine ih hpairs (hu.trans (visit_sameSlot_of_not_hits hu hv)) ?_ hrest
        obtain ⟨v', hv', hhit⟩ := hhits
        rcases List.mem_cons.mp hv' with rfl | hmem
        · exact absurd hhit hv
        · exact ⟨v', hmem, hhit⟩

/-- A type of `providerPairs` that is open and whose active provider some notification names. -/
def Due (w : FailoverWorld) (start : Date) (items : List (ServiceHealthNotification × PairOrder))
    (serviceType : ServiceType) : Prop :=
  (∃ pair, providerPair serviceType = some pair) ∧ w.OpenAt start serviceType
    ∧ ∃ item ∈ items, item.1.provider = w.getActiveProvider serviceType

variable {w : FailoverWorld} {items : List (ServiceHealthNotification × PairOrder)}
  {start stop : Date}

theorem switchedOnce_of_due (hwindow : Window clock w (handleAll clock w items) start stop)
    {serviceType : ServiceType} (hdue : w.Due start items serviceType) :
    SwitchedOnce serviceType w start (handleAll clock w items) := by
  obtain ⟨⟨pair, hpair⟩, hopen, hnamed⟩ := hdue
  have hwithin := hwindow.within
  rw [handleAll_eq_foldl_visits] at hwithin ⊢
  refine foldl_visits_of_hits hwindow.short hopen _ (fun v => providerPair_of_mem_visits)
    (.refl serviceType w) ?_ hwithin
  exact (exists_visit_iff hpair _).mpr hnamed

theorem sameSlot_of_not_due (hwindow : Window clock w (handleAll clock w items) start stop)
    {serviceType : ServiceType} (hdue : ¬ w.Due start items serviceType) :
    SameSlot serviceType w (handleAll clock w items) := by
  have hwithin := hwindow.within
  rw [handleAll_eq_foldl_visits] at hwithin ⊢
  by_cases hopen : w.OpenAt start serviceType
  · refine foldl_visits_of_not_hits _ (.refl serviceType w) fun v hv hhits => hdue ?_
    have hpair : providerPair serviceType = some v.2.2 :=
      hhits.1 ▸ providerPair_of_mem_visits hv
    exact ⟨⟨_, hpair⟩, hopen, (exists_visit_iff hpair _).mp ⟨v, hv, hhits⟩⟩
  · obtain ⟨last, hlast⟩ := not_forall.mp hopen
    obtain ⟨hmem, hrunning⟩ := Classical.not_imp.mp hlast
    have hrecent : stop - last < 300 := (hwindow.steady serviceType last hmem).resolve_left hrunning
    exact foldl_visits_of_recent hrecent _ hmem hwithin

def switchedTypes (w v : FailoverWorld) : Set ServiceType :=
  {serviceType | w.switchCount serviceType < v.switchCount serviceType}

theorem mem_switchedTypes_iff (hwindow : Window clock w (handleAll clock w items) start stop)
    (serviceType : ServiceType) :
    serviceType ∈ switchedTypes w (handleAll clock w items) ↔ w.Due start items serviceType := by
  constructor
  · intro hswitched
    by_contra hdue
    exact hswitched.ne' (sameSlot_of_not_due hwindow hdue).count
  · intro hdue
    exact (Nat.lt_succ_self _).trans_eq (switchedOnce_of_due hwindow hdue).count.symm

theorem switchCount_handleAll_le (hwindow : Window clock w (handleAll clock w items) start stop)
    (serviceType : ServiceType) :
    (handleAll clock w items).switchCount serviceType ≤ w.switchCount serviceType + 1 := by
  by_cases hdue : w.Due start items serviceType
  · exact (switchedOnce_of_due hwindow hdue).count.le
  · exact (sameSlot_of_not_due hwindow hdue).count.le.trans (Nat.le_succ _)

theorem due_congr {items' : List (ServiceHealthNotification × PairOrder)}
    (hnamed : ∀ provider, (∃ item ∈ items, item.1.provider = provider)
      ↔ ∃ item ∈ items', item.1.provider = provider) (serviceType : ServiceType) :
    w.Due start items serviceType ↔ w.Due start items' serviceType :=
  and_congr_right fun _ => and_congr_right fun _ => hnamed _

/-- **Handling degradation notifications is order independent.** Two handlings that name the same
providers, in whatever order and number and under whatever orders of `providerPairs`, leave the same
active providers and switch the same types, each of them once. One health update posts no more than
three notifications, all about one provider. -/
theorem degradation_order_independent {clock' : Clock Date}
    {items' : List (ServiceHealthNotification × PairOrder)}
    (hnamed : ∀ provider, (∃ item ∈ items, item.1.provider = provider)
      ↔ ∃ item ∈ items', item.1.provider = provider)
    (hwindow : Window clock w (handleAll clock w items) start stop)
    (hwindow' : Window clock' w (handleAll clock' w items') start stop) :
    (handleAll clock w items).activeProviders = (handleAll clock' w items').activeProviders
      ∧ switchedTypes w (handleAll clock w items) = switchedTypes w (handleAll clock' w items')
      ∧ (∀ serviceType,
          (handleAll clock w items).switchCount serviceType ≤ w.switchCount serviceType + 1)
      ∧ ∀ health, (w.healthMonitor.updateServiceHealth clock w.reads health).2.length ≤ 3
          ∧ ∀ notification ∈ (w.healthMonitor.updateServiceHealth clock w.reads health).2,
              notification.provider = health.provider := by
  refine ⟨?_, ?_, switchCount_handleAll_le hwindow,
    fun health => ServiceHealthMonitor.updateServiceHealth_posts clock w.reads _ health⟩
  · funext serviceType
    by_cases hdue : w.Due start items serviceType
    · obtain ⟨pair, hpair, hactive⟩ := (switchedOnce_of_due hwindow hdue).active
      obtain ⟨pair', hpair', hactive'⟩ :=
        (switchedOnce_of_due hwindow' ((due_congr hnamed serviceType).mp hdue)).active
      obtain rfl : pair = pair' := Option.some.inj (hpair.symm.trans hpair')
      rw [hactive, hactive']
    · have hdue' : ¬ w.Due start items' serviceType :=
        fun h => hdue ((due_congr hnamed serviceType).mpr h)
      rw [(sameSlot_of_not_due hwindow hdue).active, (sameSlot_of_not_due hwindow' hdue').active]
  · ext serviceType
    rw [mem_switchedTypes_iff hwindow, mem_switchedTypes_iff hwindow', due_congr hnamed]

theorem degradation_order_independent_of_two :
    let clock := Clock.ofGaps []
    let down provider : ServiceHealthNotification := ⟨.failoverNeeded, provider, "down", 0⟩
    let backward : PairOrder := ⟨providerPairs.reverse, List.reverse_perm _⟩
    let first := handleAll clock (initial clock)
      [(down .firebase, .written), (down .supabase, .written)]
    let second := handleAll clock (initial clock)
      [(down .supabase, backward), (down .firebase, backward), (down .supabase, .written)]
    first.activeProviders = second.activeProviders
      ∧ switchedTypes (initial clock) first = switchedTypes (initial clock) second
      ∧ first.switchCount .authentication = 1 := by
  intro clock down backward first second
  have hzero : ∀ i, clock.reading i = 0 := by
    intro i
    simp [clock, Clock.ofGaps]
  have hwindow : ∀ v, Window clock (initial clock) v 0 0 := by
    intro v
    refine ⟨by norm_num, fun i _ _ => by simp [hzero], fun serviceType last hlast => ?_⟩
    cases hlast
  obtain ⟨hactive, hswitched, -⟩ :=
    degradation_order_independent (by simp [or_comm]) (hwindow first) (hwindow second)
  exact ⟨hactive, hswitched, by decide +kernel⟩

end FailoverWorld

end SkillTalk
