import SkillTalk.CoreLocationService
import SkillTalk.Library.OneShot

/-!
# How often a location request is resumed

A call that waits stores its continuation and starts a timeout block, which resumes the continuation
whatever happened to it in the meantime. So the timeout blocks alone resume every continuation once.
A delegate task that finds a continuation stored resumes it on top of that.
-/

namespace SkillTalk

namespace CoreLocationService

/-- The waiting calls, the timeout blocks still to run, and the continuations resumed so far. -/
def requests (s : CoreLocationService) : OneShot where
  issued := s.continuations
  pending := s.timeouts.map LocationTimeout.continuation
  answered := s.resumptions.map Prod.fst
  stored := s.singleLocationContinuation

variable (clock : Clock Date)

/-- The continuation that the end of a delegate task resumes, if the action comes to one. -/
def delegateResumes (s : CoreLocationService) : LocationAction → Option ℕ
  | .runUpdate _ => if s.updateTooSoon clock then s.singleLocationContinuation else none
  | .finishGeocoding _ _ => s.singleLocationContinuation
  | .runFailure _ => s.singleLocationContinuation
  | _ => none

/-- The action comes to the end of no delegate task that finds a continuation stored. -/
def FindsNone (s : CoreLocationService) (action : LocationAction) : Prop :=
  s.delegateResumes clock action = none

instance (s : CoreLocationService) (action : LocationAction) :
    Decidable (s.FindsNone clock action) :=
  inferInstanceAs (Decidable (_ = none))

theorem step_resumeStored (s : CoreLocationService)
    (result : Except LocationServiceError UserLocation) :
    s.requests.Step s.singleLocationContinuation (s.resumeStored result).requests := by
  unfold resumeStored
  cases hstored : s.singleLocationContinuation with
  | none => exact .idle
  | some continuation =>
      have hanswer : ({ s.resume continuation result with
          singleLocationContinuation := none } : CoreLocationService).requests
            = s.requests.answer continuation := by
        simp [requests, resume, OneShot.answer]
      rw [hanswer]
      exact .answer hstored

theorem step_handleSingleRequest (s : CoreLocationService) (location : CLLocation) :
    s.requests.Step s.singleLocationContinuation (s.handleSingleRequest location).requests := by
  unfold handleSingleRequest
  split
  · rename_i hstored
    rw [hstored]
    exact .idle
  · exact step_resumeStored { s with identifiers := s.identifiers + 1 } _

theorem step_getCurrentLocation (s : CoreLocationService) :
    s.requests.Step none (s.getCurrentLocation clock).2.requests := by
  unfold getCurrentLocation
  split
  · exact .idle
  · split
    · exact .idle
    · split
      · exact .idle
      · have hissue : ∀ t : OneShot, t = s.requests.issue → s.requests.Step none t := by
          rintro t rfl
          exact .issue
        apply hissue
        simp [requests, OneShot.issue]

theorem step_runTimeout {s : CoreLocationService} {index : ℕ} {timeout : LocationTimeout}
    (h : s.timeouts[index]? = some timeout) (result : Except LocationServiceError UserLocation) :
    s.requests.Step none
      (resume { s with timeouts := s.timeouts.eraseIdx index, reads := s.reads + 1 }
        timeout.continuation result).requests := by
  have hpending : s.requests.pending[index]? = some timeout.continuation := by
    simp [requests, h]
  have hfire : ∀ t : OneShot, t = s.requests.fire index timeout.continuation →
      s.requests.Step none t := by
    rintro t rfl
    exact .fire hpending
  apply hfire
  simp [requests, resume, OneShot.fire, List.eraseIdx_map]

theorem step_processLocationUpdate (s : CoreLocationService) (location : CLLocation) :
    s.requests.Step (if s.updateTooSoon clock then s.singleLocationContinuation else none)
      (s.processLocationUpdate clock location).requests := by
  unfold processLocationUpdate
  by_cases hsoon : s.updateTooSoon clock = true
  · rw [if_pos hsoon, if_pos hsoon]
    exact step_handleSingleRequest { s with reads := s.reads + 1 } location
  · rw [if_neg hsoon, if_neg hsoon]
    exact .idle

theorem step_reverseGeocode (s : CoreLocationService) (task : GeocodingTask)
    (placemarks : Option (List CLPlacemark)) :
    s.requests.Step s.singleLocationContinuation
      (s.reverseGeocode task placemarks).requests := by
  unfold reverseGeocode
  cases placemarks.bind List.head? with
  | none => exact step_handleSingleRequest s task.location
  | some placemark =>
      exact step_handleSingleRequest
        { s with
          currentLocation := some (task.userLocation.withPlacemark placemark)
          publishedLocations :=
            s.publishedLocations ++ [task.userLocation.withPlacemark placemark] }
        task.location

/-- **Each step of the service is a step of its waiting calls**, labelled with the continuation that
a delegate task resumes. -/
theorem step_requests {s t : CoreLocationService} {action : LocationAction}
    (hstep : s.step clock action = some t) :
    s.requests.Step (s.delegateResumes clock action) t.requests := by
  cases action with
  | getCurrentLocation =>
      obtain rfl := Option.some.inj hstep
      exact step_getCurrentLocation clock s
  | runTimeout index =>
      simp only [step] at hstep
      split at hstep
      · cases hstep
      · rename_i timeout htimeout
        split at hstep
        · obtain rfl := Option.some.inj hstep
          exact step_runTimeout htimeout _
        · cases hstep
  | runUpdate index =>
      obtain ⟨location, _, rfl⟩ := Option.map_eq_some_iff.mp hstep
      exact step_processLocationUpdate clock
        { s with updateTasks := s.updateTasks.eraseIdx index } location
  | finishGeocoding index placemarks =>
      obtain ⟨task, _, rfl⟩ := Option.map_eq_some_iff.mp hstep
      exact step_reverseGeocode { s with geocodingTasks := s.geocodingTasks.eraseIdx index } task
        placemarks
  | runFailure index =>
      obtain ⟨description, _, rfl⟩ := Option.map_eq_some_iff.mp hstep
      exact step_resumeStored { s with failureTasks := s.failureTasks.eraseIdx index } _
  | startTracking =>
      obtain rfl := Option.some.inj hstep
      unfold startTracking
      split
      · exact .idle
      · split <;> exact .idle
  | runAuthorization index =>
      obtain ⟨status, _, rfl⟩ := Option.map_eq_some_iff.mp hstep
      unfold didChangeAuthorization
      dsimp only
      split <;> exact .idle
  | runAuthorizationCheck =>
      simp only [step] at hstep
      split at hstep
      · cases hstep
      · obtain rfl := Option.some.inj hstep
        exact .idle
  | runServiceCheck enabled status =>
      simp only [step] at hstep
      split at hstep
      · cases hstep
      · obtain rfl := Option.some.inj hstep
        exact .idle
  | _ =>
      obtain rfl := Option.some.inj hstep
      exact .idle

variable {clock}

theorem sound_of_reachable {s : CoreLocationService} (hs : (coreLocation clock).Reachable s) :
    s.requests.Sound := by
  refine Machine.ReachableWhere.invariant (fun s => s.requests.Sound) ?_ ?_ hs
  · rintro s rfl
    exact OneShot.sound_empty
  · intro s action t _ hs _ hstep
    exact (step_requests clock hstep).sound hs

theorem once_of_reachableWhere {s : CoreLocationService}
    (hs : (coreLocation clock).ReachableWhere (FindsNone clock) s) : s.requests.Once := by
  refine Machine.ReachableWhere.invariant (fun s => s.requests.Once) ?_ ?_ hs
  · rintro s rfl
    exact OneShot.once_empty
  · intro s action t hreach hs hguard hstep
    have hsound : s.requests.Sound := sound_of_reachable hreach.reachable
    exact ((step_requests clock hstep).once_iff hsound hs).mpr hguard

def resumeCount (s : CoreLocationService) (continuation : ℕ) : ℕ :=
  (s.resumptions.map Prod.fst).count continuation

/-- No continuation has been resumed twice, and once the timeout blocks have run every continuation
has been resumed. -/
def ResumedOnce (s : CoreLocationService) : Prop :=
  (∀ continuation, s.resumeCount continuation ≤ 1)
    ∧ (s.timeouts = [] → ∀ continuation < s.continuations, 0 < s.resumeCount continuation)

theorem resumed_of_reachable {s : CoreLocationService} (hs : (coreLocation clock).Reachable s)
    (htimeouts : s.timeouts = []) :
    ∀ continuation < s.continuations, 0 < s.resumeCount continuation := by
  intro continuation hlt
  have hpending : s.requests.pending = [] := by
    rw [requests, htimeouts]
    rfl
  exact (sound_of_reachable hs).count_answered_pos hpending hlt

theorem once_iff_resumedOnce {s : CoreLocationService} (hs : (coreLocation clock).Reachable s)
    (htimeouts : s.timeouts = []) : s.requests.Once ↔ s.ResumedOnce := by
  have hweight : ∀ continuation, s.requests.weight continuation = s.resumeCount continuation := by
    intro continuation
    rw [OneShot.weight, requests, htimeouts]
    rfl
  constructor
  · intro honce
    exact ⟨honce.count_answered_le, resumed_of_reachable hs⟩
  · intro honce continuation
    rw [hweight]
    exact honce.1 continuation

/-- **Every caller is resumed once as long as no delegate task finds a continuation stored**, and in
a run whose timeout blocks have all run, only then. -/
theorem getCurrentLocation_resumed_once (clock : Clock Date) :
    (∀ s, (coreLocation clock).ReachableWhere (FindsNone clock) s → s.ResumedOnce)
      ∧ ∀ actions s, (coreLocation clock).exec initial actions = some s → s.timeouts = [] →
          (s.ResumedOnce ↔ ∀ x ∈ (coreLocation clock).transitions initial actions,
            x.1.FindsNone clock x.2.1) := by
  constructor
  · intro s hs
    exact ⟨(once_of_reachableWhere hs).count_answered_le, resumed_of_reachable hs.reachable⟩
  · intro actions s hexec htimeouts
    rw [← once_iff_resumedOnce (Machine.reachable_of_exec rfl hexec) htimeouts]
    refine Machine.exec_iff_forall (fun s => s.requests.Once) (fun s => s.requests.Sound)
      ?_ ?_ ?_ hexec OneShot.sound_empty OneShot.once_empty
    · exact fun s action t hstep => (step_requests clock hstep).sound
    · exact fun s action t hstep => (step_requests clock hstep).once_iff
    · exact fun s action t hstep _ => (step_requests clock hstep).not_once

def fixDelivered : List LocationAction :=
  [.runServiceCheck true .authorizedWhenInUse, .getCurrentLocation,
    .didUpdateLocations [⟨52, 13, 10, 0⟩], .runUpdate 0, .finishGeocoding 0 (some [])]

theorem getCurrentLocation_resumed_once_of_timeout :
    let clock := Clock.ofGaps [0, 0, 10]
    ∃ s, (coreLocation clock).exec initial
        [.runServiceCheck true .authorizedWhenInUse, .getCurrentLocation, .runTimeout 0] = some s
      ∧ s.ResumedOnce ∧ s.continuations = 1 := by
  intro clock
  obtain ⟨s, hexec, hreach, hend⟩ :
      ∃ s, (coreLocation clock).exec initial
          [.runServiceCheck true .authorizedWhenInUse, .getCurrentLocation, .runTimeout 0] = some s
        ∧ (coreLocation clock).ReachableWhere (FindsNone clock) s
        ∧ decide (s.continuations = 1) = true :=
    Machine.exists_reachableWhere rfl _ (by decide +kernel) (by decide +kernel)
  exact ⟨s, hexec, (getCurrentLocation_resumed_once clock).1 s hreach, of_decide_eq_true hend⟩

/-- The fix resumes the caller, and 10 seconds after the call the timeout block resumes it again. -/
theorem getCurrentLocation_resumed_twice :
    ∃ (clock : Clock Date) (s : CoreLocationService), (coreLocation clock).Reachable s
      ∧ s.resumeCount 0 = 2 ∧ ¬ s.ResumedOnce := by
  let clock := Clock.ofGaps [0, 0, 0, 0, 10]
  obtain ⟨s, _, hreach, hend⟩ :
      ∃ s, (coreLocation clock).exec initial (fixDelivered ++ [.runTimeout 0]) = some s
        ∧ (coreLocation clock).Reachable s ∧ decide (s.resumeCount 0 = 2) = true :=
    Machine.exists_reachableWhere rfl _ (by decide +kernel) (by decide +kernel)
  have htwice : s.resumeCount 0 = 2 := of_decide_eq_true hend
  refine ⟨clock, s, hreach, htwice, fun honce => ?_⟩
  have hle : s.resumeCount 0 ≤ 1 := honce.1 0
  omega

end CoreLocationService

end SkillTalk
