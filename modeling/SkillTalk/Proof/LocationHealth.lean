import SkillTalk.LocationServiceHealthMonitor
import SkillTalk.Proof.LocationFixes

/-!
# What the location health counts say

A success is recorded for each publication, and a failure never. The counts agree with what happened
as long as no call of a service throws, no geocoding comes to a placemark (which publishes its fix a
second time), and no fix is handed to a waiting call without being published.
-/

namespace SkillTalk

open LocationServiceHealthMonitor (ServiceHealth)

namespace LocationServiceHealthMonitor

/-- One more success. -/
def ServiceHealth.succeed (health : ServiceHealth) (now : Date) : ServiceHealth :=
  { health with
    successCount := health.successCount + 1
    lastSuccess := some now }

theorem serviceHealth_recordSuccess (monitor : LocationServiceHealthMonitor)
    (service : LocationServiceKind) (now : Date) :
    (monitor.recordSuccess service now).serviceHealth
      = Function.update monitor.serviceHealth service
          (some ((monitor.healthOf service).succeed now)) :=
  rfl

theorem healthOf_recordSuccess (monitor : LocationServiceHealthMonitor)
    (service : LocationServiceKind) (now : Date) :
    (monitor.recordSuccess service now).healthOf
      = Function.update monitor.healthOf service ((monitor.healthOf service).succeed now) := by
  funext other
  by_cases heq : other = service
  · subst heq
    rw [healthOf, serviceHealth_recordSuccess, Function.update_self, Function.update_self,
      Option.getD_some]
  · rw [healthOf, serviceHealth_recordSuccess, Function.update_of_ne heq,
      Function.update_of_ne heq, healthOf]

end LocationServiceHealthMonitor

namespace MonitoredLocations

variable {clock : Clock Date} {w v : MonitoredLocations} {service : LocationServiceKind}

/-- The share of what the service was asked for that it delivered. -/
def happenedRate (w : MonitoredLocations) (service : LocationServiceKind) : ℚ :=
  ServiceHealth.rate (w.delivered service) (w.thrown service)

/-- The counts are those of what happened, and so are the rates by which services are ranked. -/
structure Reflects (w : MonitoredLocations) : Prop where
  failureCount : ∀ service, (w.healthMonitor.healthOf service).failureCount = w.thrown service
  successCount : ∀ service, (w.healthMonitor.healthOf service).successCount = w.delivered service
  successRate : ∀ service,
    (w.healthMonitor.healthOf service).successRate = w.happenedRate service
  healthiest : ∀ now order, ∀ service ∈ w.healthMonitor.getHealthiestService now order,
    4 / 5 < w.happenedRate service
      ∧ ∀ other ∈ order,
          (w.healthMonitor.serviceHealth other).any (ServiceHealth.isHealthy (now other)) = true →
          w.happenedRate other ≤ w.happenedRate service

structure Counted (w : MonitoredLocations) : Prop where
  failureCount : ∀ service, (w.healthMonitor.healthOf service).failureCount = w.thrown service
  successCount : ∀ service, (w.healthMonitor.healthOf service).successCount = w.delivered service

/-- **The rates follow the counts.** -/
theorem reflects_iff_counted : w.Reflects ↔ w.Counted := by
  constructor
  · intro h
    exact ⟨h.failureCount, h.successCount⟩
  · intro h
    have hrate : ∀ service,
        (w.healthMonitor.healthOf service).successRate = w.happenedRate service := by
      intro service
      rw [ServiceHealth.successRate, h.failureCount, h.successCount, happenedRate]
    refine ⟨h.failureCount, h.successCount, hrate, ?_⟩
    intro now order service hservice
    have hmem := List.mem_filter.mp (List.argmax_mem hservice)
    constructor
    · obtain ⟨health, hhealth, hhealthy⟩ := (Option.any_eq_true _ _).mp hmem.2
      have hof : w.healthMonitor.healthOf service = health := by
        rw [LocationServiceHealthMonitor.healthOf, hhealth, Option.getD_some]
      rw [← hrate, hof]
      exact (of_decide_eq_true hhealthy).1
    · intro other hother hhealthy
      have hcandidate : other ∈ order.filter fun service =>
          (w.healthMonitor.serviceHealth service).any (ServiceHealth.isHealthy (now service)) :=
        List.mem_filter.mpr ⟨hother, hhealthy⟩
      rw [← hrate, ← hrate]
      exact List.le_of_mem_argmax
        (f := fun service => (w.healthMonitor.healthOf service).successRate) hcandidate hservice

/-! ### What one step does to the counts -/

/-- The service has published and delivered so much more; nothing has failed, and no other service
has done anything. -/
structure Grows (w : MonitoredLocations) (service : LocationServiceKind)
    (published delivered : ℕ) (v : MonitoredLocations) : Prop where
  failureCount : ∀ other, (v.healthMonitor.healthOf other).failureCount
    = (w.healthMonitor.healthOf other).failureCount
  successCount : ∀ other, (v.healthMonitor.healthOf other).successCount
    = (w.healthMonitor.healthOf other).successCount + if other = service then published else 0
  thrown : v.thrown = w.thrown
  delivered : ∀ other,
    v.delivered other = w.delivered other + if other = service then delivered else 0

/-- The service has thrown once more, and the monitor has not been told. -/
structure Throws (w : MonitoredLocations) (service : LocationServiceKind)
    (v : MonitoredLocations) : Prop where
  healthMonitor : v.healthMonitor = w.healthMonitor
  thrown : v.thrown service = w.thrown service + 1

theorem Grows.counted_iff {published delivered : ℕ} (h : Grows w service published delivered v)
    (hw : w.Counted) : v.Counted ↔ published = delivered := by
  constructor
  · intro hv
    have hcounts := hv.successCount service
    rw [h.successCount, h.delivered, hw.successCount, if_pos rfl, if_pos rfl] at hcounts
    omega
  · rintro rfl
    constructor
    · intro other
      rw [h.failureCount, h.thrown]
      exact hw.failureCount other
    · intro other
      rw [h.successCount, h.delivered, hw.successCount]

theorem Throws.not_counted (h : Throws w service v) (hw : w.Counted) : ¬ v.Counted := by
  intro hv
  have hcounts := hv.failureCount service
  rw [h.healthMonitor, h.thrown, hw.failureCount] at hcounts
  omega

theorem Throws.of_same {u : MonitoredLocations} (service : LocationServiceKind)
    (hmonitor : u.healthMonitor = w.healthMonitor) (hthrown : u.thrown = w.thrown) :
    Throws w service (u.throws service) := by
  refine ⟨hmonitor, ?_⟩
  rw [← hthrown]
  exact Function.update_self service _ u.thrown

theorem Grows.of_same (service : LocationServiceKind) (hmonitor : v.healthMonitor = w.healthMonitor)
    (hthrown : v.thrown = w.thrown) (hdelivered : v.delivered = w.delivered) :
    Grows w service 0 0 v := by
  constructor
  · intro other
    rw [hmonitor]
  · intro other
    rw [hmonitor, ite_self, Nat.add_zero]
  · exact hthrown
  · intro other
    rw [hdelivered, ite_self, Nat.add_zero]

theorem Grows.recordSuccess {published delivered : ℕ} (h : Grows w service published delivered v)
    (clock : Clock Date) :
    Grows w service (published + 1) delivered (v.recordSuccess clock service) := by
  have hupdate : (v.recordSuccess clock service).healthMonitor.healthOf
      = Function.update v.healthMonitor.healthOf service
          ((v.healthMonitor.healthOf service).succeed (clock.reading v.reads)) :=
    LocationServiceHealthMonitor.healthOf_recordSuccess _ _ _
  have hother : ∀ other, other ≠ service →
      (v.recordSuccess clock service).healthMonitor.healthOf other
        = v.healthMonitor.healthOf other := by
    intro other hne
    rw [hupdate, Function.update_of_ne hne]
  have hown : (v.recordSuccess clock service).healthMonitor.healthOf service
      = (v.healthMonitor.healthOf service).succeed (clock.reading v.reads) := by
    rw [hupdate, Function.update_self]
  constructor
  · intro other
    by_cases heq : other = service
    · subst heq
      rw [hown]
      exact h.failureCount other
    · rw [hother other heq]
      exact h.failureCount other
  · intro other
    by_cases heq : other = service
    · subst heq
      have hcount := h.successCount other
      have hone : ((v.healthMonitor.healthOf other).succeed (clock.reading v.reads)).successCount
          = (v.healthMonitor.healthOf other).successCount + 1 := rfl
      rw [if_pos rfl] at hcount ⊢
      rw [hown, hone]
      omega
    · have hcount := h.successCount other
      rw [if_neg heq] at hcount ⊢
      rw [hother other heq, hcount]
  · exact h.thrown
  · exact h.delivered

theorem Grows.delivers {published : ℕ} (h : Grows w service published 0 v) (fixes : ℕ) :
    Grows w service published fixes (v.delivers service fixes) := by
  refine ⟨h.failureCount, h.successCount, h.thrown, ?_⟩
  intro other
  have hbefore := h.delivered other
  rw [ite_self, Nat.add_zero] at hbefore
  by_cases heq : other = service
  · subst heq
    rw [if_pos rfl, ← hbefore]
    exact Function.update_self _ _ _
  · rw [if_neg heq, Nat.add_zero, ← hbefore]
    exact Function.update_of_ne heq _ _

/-- Each location that is published counts as a success. -/
theorem Grows.sinks (clock : Clock Date) (locations : List UserLocation) {published : ℕ}
    (h : Grows w service published 0 v) :
    Grows w service (published + locations.length) 0
      (locations.foldl (fun w _ => w.recordSuccess clock service) v) := by
  induction locations generalizing v published with
  | nil => exact h
  | cons location locations ih =>
      have hrest := ih (h.recordSuccess clock)
      rwa [List.length_cons, Nat.add_comm locations.length, ← Nat.add_assoc]

/-! ### The calls -/

/-- The call of a service that this turn makes, or that it comes back from, throws. -/
def Refused (w : MonitoredLocations) (answer : IPLocationAnswer) : MonitoredCall → Prop
  | .requestPermission =>
      w.service.primaryService.locationServicesEnabled = false
        ∨ w.service.primaryService.permissionStatus = .denied
        ∨ w.service.primaryService.permissionStatus = .restricted
  | .startTracking | .getCurrentLocation =>
      w.service.primaryService.locationServicesEnabled = false
        ∨ w.service.primaryService.isAuthorized = false
  | .awaitingPrimary continuation =>
      ∃ error, w.service.primaryService.resumptions.lookup continuation = some (.error error)
  | .locating | .locatingFallback => ∃ description, answer = .error description
  | _ => False

theorem locateFallback_cases (clock : Clock Date) (w : MonitoredLocations)
    (answer : IPLocationAnswer) :
    (¬ ∃ description, answer = .error description)
        ∧ (∃ location, (w.locateFallback clock answer).1 = .ok location)
        ∧ Grows w .ipLocation 1 1 (w.locateFallback clock answer).2
      ∨ (∃ description, answer = .error description)
        ∧ (∃ error, (w.locateFallback clock answer).1 = .error error)
        ∧ Throws w .ipLocation (w.locateFallback clock answer).2 := by
  cases answer with
  | ok response =>
      refine .inl ⟨by simp, ⟨_, rfl⟩, ?_⟩
      have hsame : Grows w .ipLocation 0 0
          { w with service := (w.service.locateFallback (.ok response)).2 } :=
        .of_same _ rfl rfl rfl
      exact (hsame.recordSuccess clock).delivers 1
  | error description =>
      exact .inr ⟨⟨description, rfl⟩, ⟨_, rfl⟩, .of_same _ rfl rfl⟩

theorem requestPermission_cases (s : CoreLocationService) :
    s.requestPermission = .ok ()
        ∧ ¬ (s.locationServicesEnabled = false ∨ s.permissionStatus = .denied
          ∨ s.permissionStatus = .restricted)
      ∨ (∃ error, s.requestPermission = .error error)
        ∧ (s.locationServicesEnabled = false ∨ s.permissionStatus = .denied
          ∨ s.permissionStatus = .restricted) := by
  unfold CoreLocationService.requestPermission
  cases henabled : s.locationServicesEnabled with
  | false => exact .inr ⟨⟨_, rfl⟩, .inl rfl⟩
  | true => cases hstatus : s.permissionStatus <;> simp

theorem startTracking_cases (s : CoreLocationService) :
    (∃ t, s.startTracking = (.ok (), t))
        ∧ ¬ (s.locationServicesEnabled = false ∨ s.isAuthorized = false)
      ∨ (∃ error t, s.startTracking = (.error error, t))
        ∧ (s.locationServicesEnabled = false ∨ s.isAuthorized = false) := by
  unfold CoreLocationService.startTracking
  cases s.locationServicesEnabled <;> cases s.isAuthorized <;> simp

theorem getCurrentLocation_cases (clock : Clock Date) (s : CoreLocationService) :
    (∃ request t, s.getCurrentLocation clock = (request, t) ∧ ∀ error, request ≠ .threw error)
        ∧ ¬ (s.locationServicesEnabled = false ∨ s.isAuthorized = false)
      ∨ (∃ error t, s.getCurrentLocation clock = (.threw error, t))
        ∧ (s.locationServicesEnabled = false ∨ s.isAuthorized = false) := by
  unfold CoreLocationService.getCurrentLocation
  cases s.locationServicesEnabled with
  | false => exact .inr ⟨⟨_, _, rfl⟩, .inl rfl⟩
  | true =>
      cases s.isAuthorized with
      | false => exact .inr ⟨⟨_, _, rfl⟩, .inr rfl⟩
      | true => cases s.recentLocation clock <;> simp

theorem Counted.of_same (hw : w.Counted) (hmonitor : v.healthMonitor = w.healthMonitor)
    (hthrown : v.thrown = w.thrown) (hdelivered : v.delivered = w.delivered) : v.Counted :=
  ((Grows.of_same .coreLocation hmonitor hthrown hdelivered).counted_iff hw).mpr rfl

theorem Counted.not_of_throws {u : MonitoredLocations} (hw : w.Counted)
    (hmonitor : u.healthMonitor = w.healthMonitor) (hthrown : u.thrown = w.thrown) :
    ¬ (u.throws .coreLocation).Counted :=
  (Throws.of_same .coreLocation hmonitor hthrown).not_counted hw

/-- **One turn** leaves the counts right exactly when no service throws in it. -/
theorem turn_counted_iff (hw : w.Counted) (answer : IPLocationAnswer) (call : MonitoredCall) :
    (w.turn clock answer call).1.Counted ↔ ¬ w.Refused answer call := by
  cases call with
  | requestPermission =>
      rcases requestPermission_cases w.service.primaryService with
        ⟨hok, hgranted⟩ | ⟨⟨error, herror⟩, hrefused⟩
      · rw [turn, hok]
        exact iff_of_true hw hgranted
      · rw [turn, herror]
        exact iff_of_false (hw.not_of_throws rfl rfl) (not_not_intro hrefused)
  | startTracking =>
      rcases startTracking_cases w.service.primaryService with
        ⟨⟨primary, hok⟩, hgranted⟩ | ⟨⟨error, primary, herror⟩, hrefused⟩
      · rw [turn, hok]
        exact iff_of_true (hw.of_same rfl rfl rfl) hgranted
      · rw [turn, herror]
        exact iff_of_false (hw.not_of_throws rfl rfl) (not_not_intro hrefused)
  | getCurrentLocation =>
      rcases getCurrentLocation_cases clock w.service.primaryService with
        ⟨⟨request, primary, hrequest, hquiet⟩, hgranted⟩ | ⟨⟨error, primary, herror⟩, hrefused⟩
      · rw [turn, hrequest]
        refine iff_of_true ?_ hgranted
        cases request with
        | threw error => exact absurd rfl (hquiet error)
        | cached location => exact hw.of_same rfl rfl rfl
        | waits continuation => exact hw.of_same rfl rfl rfl
      · rw [turn, herror]
        exact iff_of_false (hw.not_of_throws rfl rfl) (not_not_intro hrefused)
  | awaitingPrimary continuation =>
      rcases hresumed : w.service.primaryService.resumptions.lookup continuation with
        - | error | location
      · rw [turn, hresumed]
        refine iff_of_true hw ?_
        rintro ⟨error, herror⟩
        rw [hresumed] at herror
        cases herror
      · rw [turn, hresumed]
        exact iff_of_false (hw.not_of_throws rfl rfl) (not_not_intro ⟨error, hresumed⟩)
      · rw [turn, hresumed]
        refine iff_of_true hw ?_
        rintro ⟨error, herror⟩
        rw [hresumed] at herror
        cases herror
  | locating | locatingFallback =>
      rcases locateFallback_cases clock w answer with
        ⟨hanswered, ⟨location, hlocation⟩, hgrows⟩ | ⟨hfailed, ⟨error, herror⟩, hthrows⟩
      · have hcall : w.locateFallback clock answer
            = (.ok location, (w.locateFallback clock answer).2) := Prod.ext hlocation rfl
        rw [turn, hcall]
        exact iff_of_true ((hgrows.counted_iff hw).mpr rfl) hanswered
      · have hcall : w.locateFallback clock answer
            = (.error error, (w.locateFallback clock answer).2) := Prod.ext herror rfl
        rw [turn, hcall]
        exact iff_of_false (hthrows.not_counted hw) (not_not_intro hfailed)
  | requestFallback | primaryStarted | startFallback | fallbackStarted =>
      exact iff_of_true (hw.of_same rfl rfl rfl) id

/-! ### The jobs of the primary -/

theorem observePrimary_grows {primary : CoreLocationService} {event : LocationAction}
    (hstep : w.service.primaryService.step clock event = some primary) :
    Grows w .coreLocation (w.service.primaryService.publishes clock event).toList.length
      (w.service.primaryService.deliveries clock event)
      ((w.observePrimary clock primary).delivers .coreLocation
        (w.service.primaryService.deliveries clock event)) := by
  have hpublished := (CoreLocationService.fixStep_of_step hstep).publishedLocations
  have hlocations : primary.publishedLocations.drop
      w.service.primaryService.publishedLocations.length
      = (w.service.primaryService.publishes clock event).toList := by
    rw [hpublished, List.drop_left]
  have hsame : Grows w .coreLocation 0 0
      { w with service := w.service.observePrimary primary } := .of_same _ rfl rfl rfl
  have hsinks := hsame.sinks clock (w.service.primaryService.publishes clock event).toList
  rw [Nat.zero_add] at hsinks
  rw [observePrimary, hlocations]
  exact hsinks.delivers _

/-- A job publishes as many locations as it delivers fixes unless it publishes one again or hands
one over. -/
theorem publishes_iff_deliveries (clock : Clock Date) (s : CoreLocationService)
    (event : LocationAction) :
    (s.publishes clock event).toList.length = s.deliveries clock event
      ↔ s.geocodes event = none ∧ s.handsOver clock event = false := by
  cases event with
  | runUpdate index =>
      have hpublishes : s.publishes clock (.runUpdate index) = s.accepts clock (.runUpdate index) :=
        Option.or_none
      have hgeocodes : s.geocodes (.runUpdate index) = none := rfl
      rw [hpublishes, CoreLocationService.accepts, CoreLocationService.deliveries, hgeocodes]
      by_cases hsoon : s.updateTooSoon clock = true
      · rw [if_pos hsoon, if_pos hsoon]
        cases s.handsOver clock (.runUpdate index) <;> simp
      · have hkept : s.handsOver clock (.runUpdate index) = false := by
          simp [CoreLocationService.handsOver, hsoon]
        rw [if_neg hsoon, if_neg hsoon, hkept]
        cases s.updateTasks[index]? <;> simp
  | finishGeocoding index placemarks =>
      have hpublishes : s.publishes clock (.finishGeocoding index placemarks)
          = (s.geocodes (.finishGeocoding index placemarks)).map
              fun geocoded => geocoded.1.withPlacemark geocoded.2 := Option.none_or
      have hdeliveries : s.deliveries clock (.finishGeocoding index placemarks) = 0 := rfl
      have hkept : s.handsOver clock (.finishGeocoding index placemarks) = false := rfl
      rw [hpublishes, hdeliveries, hkept]
      cases s.geocodes (.finishGeocoding index placemarks) <;> simp
  | _ => exact iff_of_true rfl ⟨rfl, rfl⟩

/-- **One job of the primary** leaves the counts right exactly when it publishes as many locations
as it delivers fixes. -/
theorem observePrimary_counted_iff (hw : w.Counted) {primary : CoreLocationService}
    {event : LocationAction}
    (hstep : w.service.primaryService.step clock event = some primary) :
    ((w.observePrimary clock primary).delivers .coreLocation
        (w.service.primaryService.deliveries clock event)).Counted
      ↔ w.service.primaryService.geocodes event = none
        ∧ w.service.primaryService.handsOver clock event = false :=
  ((observePrimary_grows hstep).counted_iff hw).trans (publishes_iff_deliveries clock _ event)

end MonitoredLocations

namespace MonitoredLocation

variable {clock : Clock Date} {p q : MonitoredLocation}

/-- In this step no service throws, no geocoding comes to a placemark, and no fix is handed to a
waiting call without being published. -/
def Quiet (clock : Clock Date) (p : MonitoredLocation) : MonitoredAction → Prop
  | .run index answer => ∀ call ∈ p.tasks[index]?, ¬ p.shared.Refused answer call
  | .primary event =>
      p.shared.service.primaryService.geocodes event = none
        ∧ p.shared.service.primaryService.handsOver clock event = false
  | _ => True

theorem step_counted_iff {action : MonitoredAction} (hp : p.shared.Counted)
    (hstep : p.step clock action = some q) : q.shared.Counted ↔ p.Quiet clock action := by
  cases action with
  | run index answer =>
      have hrun : p.run (MonitoredLocations.turn clock answer) index = some q := hstep
      obtain ⟨call, hcall, hshared, -, -⟩ := TaskPool.exists_of_run hrun
      rw [hshared, MonitoredLocations.turn_counted_iff hp]
      constructor
      · intro hquiet other hother
        obtain rfl := Option.some.inj (hcall.symm.trans hother)
        exact hquiet
      · intro hquiet
        exact hquiet call hcall
  | primary event =>
      rw [step] at hstep
      split at hstep
      · obtain ⟨primary, hprimary, rfl⟩ := Option.map_eq_some_iff.mp hstep
        exact MonitoredLocations.observePrimary_counted_iff hp hprimary
      · cases hstep
  | requestPermission | startTracking | getCurrentLocation =>
      obtain rfl := Option.some.inj hstep
      exact iff_of_true hp trivial

theorem reflects_initial : initial.shared.Reflects :=
  MonitoredLocations.reflects_iff_counted.mpr ⟨fun _ => rfl, fun _ => rfl⟩

/-- **When the health counts say what happened.** All along a run they do exactly when no service
throws in it, no geocoding comes to a placemark, and no fix is handed over unpublished. -/
theorem health_reflects_iff (clock : Clock Date) (actions : List MonitoredAction) :
    (∀ x ∈ (monitoredLocation clock).transitions initial actions, x.2.2.shared.Reflects)
      ↔ ∀ x ∈ (monitoredLocation clock).transitions initial actions, x.1.Quiet clock x.2.1 := by
  refine Machine.forall_transitions_iff (fun p : MonitoredLocation => p.shared.Reflects)
    (fun _ => True) ?_ ?_ actions trivial reflects_initial
  · exact fun _ _ _ _ _ _ => trivial
  · intro p action q hstep _ hp
    rw [MonitoredLocations.reflects_iff_counted]
    exact step_counted_iff (MonitoredLocations.reflects_iff_counted.mp hp) hstep

/-- Location services are off when the permission is asked for: the primary throws, and no failure
is counted. -/
theorem health_not_reflected :
    ∃ p, (monitoredLocation (Clock.ofGaps [])).exec initial
        [.requestPermission, .run 0 (.error "offline")] = some p
      ∧ p.shared.thrown .coreLocation = 1
      ∧ (p.shared.healthMonitor.healthOf .coreLocation).failureCount = 0
      ∧ ¬ p.shared.Reflects := by
  refine ⟨_, rfl, rfl, rfl, ?_⟩
  intro hreflects
  have hcount : 0 = 1 := hreflects.failureCount .coreLocation
  exact Nat.zero_ne_one hcount

end MonitoredLocation

end SkillTalk
