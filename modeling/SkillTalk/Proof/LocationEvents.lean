import SkillTalk.MultiLocationService

/-!
# What the wrapper sees of its primary

Most of what happens to the primary concerns its locations only. The wrapper's sinks see what the
primary has published by the time it came to a new state.
-/

namespace SkillTalk

namespace CoreLocationService

/-- What the wrapper depends on in its primary stays as it is. -/
structure Untouched (s t : CoreLocationService) : Prop where
  isTracking : t.isTracking = s.isTracking
  permissionStatus : t.permissionStatus = s.permissionStatus
  publishedPermissions : t.publishedPermissions = s.publishedPermissions

theorem Untouched.refl (s : CoreLocationService) : Untouched s s := ⟨rfl, rfl, rfl⟩

theorem Untouched.trans {s t u : CoreLocationService} (hst : Untouched s t)
    (htu : Untouched t u) : Untouched s u where
  isTracking := htu.isTracking.trans hst.isTracking
  permissionStatus := htu.permissionStatus.trans hst.permissionStatus
  publishedPermissions := htu.publishedPermissions.trans hst.publishedPermissions

theorem untouched_resumeStored (s : CoreLocationService)
    (result : Except LocationServiceError UserLocation) : Untouched s (s.resumeStored result) := by
  unfold resumeStored
  split <;> exact ⟨rfl, rfl, rfl⟩

theorem untouched_handleSingleRequest (s : CoreLocationService) (location : CLLocation) :
    Untouched s (s.handleSingleRequest location) := by
  unfold handleSingleRequest
  split
  · exact .refl s
  · have hidentified : Untouched s { s with identifiers := s.identifiers + 1 } := ⟨rfl, rfl, rfl⟩
    exact hidentified.trans (untouched_resumeStored _ _)

variable (clock : Clock Date)

theorem untouched_getCurrentLocation (s : CoreLocationService) :
    Untouched s (s.getCurrentLocation clock).2 := by
  unfold getCurrentLocation
  split
  · exact .refl s
  · split
    · exact .refl s
    · split <;> exact ⟨rfl, rfl, rfl⟩

theorem untouched_processLocationUpdate (s : CoreLocationService) (location : CLLocation) :
    Untouched s (s.processLocationUpdate clock location) := by
  unfold processLocationUpdate
  split
  · have hread : Untouched s { s with reads := s.reads + 1 } := ⟨rfl, rfl, rfl⟩
    exact hread.trans (untouched_handleSingleRequest _ _)
  · exact ⟨rfl, rfl, rfl⟩

theorem untouched_reverseGeocode (s : CoreLocationService) (task : GeocodingTask)
    (placemarks : Option (List CLPlacemark)) :
    Untouched s (s.reverseGeocode task placemarks) := by
  unfold reverseGeocode
  cases placemarks.bind List.head? with
  | none => exact untouched_handleSingleRequest s task.location
  | some placemark =>
      refine Untouched.trans ?_ (untouched_handleSingleRequest _ task.location)
      exact ⟨rfl, rfl, rfl⟩

/-- The events that do not concern the authorization. -/
def LocationOnly : LocationAction → Prop
  | .startTracking | .stopTracking | .updatePrivacyLevel _ | .runAuthorization _
  | .runServiceCheck _ _ => False
  | _ => True

variable {clock} {s t : CoreLocationService}

theorem untouched_step {event : LocationAction} (hevent : LocationOnly event)
    (h : s.step clock event = some t) : Untouched s t := by
  cases event with
  | getCurrentLocation =>
      obtain rfl := Option.some.inj h
      exact untouched_getCurrentLocation clock s
  | didUpdateLocations | didFailWithError | didChangeAuthorization
  | locationManagerDidChangeAuthorization =>
      obtain rfl := Option.some.inj h
      exact ⟨rfl, rfl, rfl⟩
  | runTimeout index =>
      simp only [step] at h
      split at h
      · cases h
      · split at h
        · obtain rfl := Option.some.inj h
          exact ⟨rfl, rfl, rfl⟩
        · cases h
  | runUpdate index =>
      obtain ⟨location, -, rfl⟩ := Option.map_eq_some_iff.mp h
      have herased : Untouched s { s with updateTasks := s.updateTasks.eraseIdx index } :=
        ⟨rfl, rfl, rfl⟩
      exact herased.trans (untouched_processLocationUpdate clock _ location)
  | finishGeocoding index placemarks =>
      obtain ⟨task, -, rfl⟩ := Option.map_eq_some_iff.mp h
      have herased : Untouched s { s with geocodingTasks := s.geocodingTasks.eraseIdx index } :=
        ⟨rfl, rfl, rfl⟩
      exact herased.trans (untouched_reverseGeocode _ task placemarks)
  | runFailure index =>
      obtain ⟨description, -, rfl⟩ := Option.map_eq_some_iff.mp h
      have herased : Untouched s { s with failureTasks := s.failureTasks.eraseIdx index } :=
        ⟨rfl, rfl, rfl⟩
      exact herased.trans (untouched_resumeStored _ _)
  | runAuthorizationCheck =>
      simp only [step] at h
      split at h
      · cases h
      · obtain rfl := Option.some.inj h
        exact ⟨rfl, rfl, rfl⟩
  | startTracking | stopTracking | updatePrivacyLevel | runAuthorization | runServiceCheck =>
      exact hevent.elim

/-- A step of a delegate task that hears of the authorization. -/
theorem runAuthorization_eq {index : ℕ} (h : s.step clock (.runAuthorization index) = some t) :
    ∃ status, s.authorizationTasks[index]? = some status ∧ t.permissionStatus = status
      ∧ t.publishedPermissions = s.publishedPermissions ++ [status]
      ∧ t.isTracking = if status = .denied ∨ status = .restricted then false else s.isTracking := by
  obtain ⟨status, hstatus, rfl⟩ := Option.map_eq_some_iff.mp h
  refine ⟨status, hstatus, ?_⟩
  unfold didChangeAuthorization stopTracking
  split <;> exact ⟨rfl, rfl, rfl⟩

/-- The check publishes nothing. -/
theorem runServiceCheck_eq {enabled : Bool} {status : CLAuthorizationStatus}
    (h : s.step clock (.runServiceCheck enabled status) = some t) :
    t.permissionStatus = status ∧ t.publishedPermissions = s.publishedPermissions
      ∧ t.isTracking = s.isTracking := by
  simp only [step] at h
  split at h
  · cases h
  · obtain rfl := Option.some.inj h
    exact ⟨rfl, rfl, rfl⟩

theorem startTracking_cases (s : CoreLocationService) :
    (∃ error, s.startTracking = (.error error, s))
      ∨ s.startTracking = (.ok (), { s with isTracking := true }) := by
  unfold startTracking
  split
  · exact .inl ⟨_, rfl⟩
  · split
    · exact .inl ⟨_, rfl⟩
    · exact .inr rfl

end CoreLocationService

namespace MultiLocation

variable {p q : MultiLocation} {clock : Clock Date}

/-- The primary came to a new state, which the wrapper's sinks have seen. -/
structure Observes (p : MultiLocation) (primary : CoreLocationService) (q : MultiLocation) :
    Prop where
  service : q.shared.service = p.shared.service.observePrimary primary
  failures : q.shared.failures = p.shared.failures
  tasks : q.tasks = p.tasks

theorem observes_of_primary {event : LocationAction}
    (h : p.step clock (.primary event) = some q) :
    p.shared.primaryMay event = true ∧ ∃ primary,
      p.shared.service.primaryService.step clock event = some primary ∧ p.Observes primary q
        ∧ q.shared.changedBy = MultiLocationWorld.heardBy event p.shared.changedBy := by
  simp only [step] at h
  split at h
  · rename_i hmay
    obtain ⟨primary, hprimary, rfl⟩ := Option.map_eq_some_iff.mp h
    exact ⟨hmay, primary, hprimary, ⟨rfl, rfl, rfl⟩, rfl⟩
  · cases h

theorem observes_of_firstServiceCheck {enabled : Bool} {status : CLAuthorizationStatus}
    (h : p.step clock (.firstServiceCheck enabled status) = some q) :
    ∃ primary, p.shared.service.primaryService.step clock (.runServiceCheck enabled status)
        = some primary ∧ p.Observes primary q ∧ q.shared.changedBy = p.shared.changedBy := by
  simp only [step] at h
  split at h
  · obtain ⟨primary, hprimary, rfl⟩ := Option.map_eq_some_iff.mp h
    exact ⟨primary, hprimary, ⟨rfl, rfl, rfl⟩, rfl⟩
  · cases h

end MultiLocation

end SkillTalk
