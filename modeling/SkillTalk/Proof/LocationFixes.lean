import SkillTalk.CoreLocationService

/-!
# Which fix a location belongs to

A delegate task publishes a fix when it is accepted, and once more when its geocoding has come to a
placemark. Between the two any number of newer fixes may be accepted, and nothing is checked in the
second place. So the current location is the fix accepted last, or that with its own placemark, as
long as no older geocoding comes to a placemark.
-/

namespace SkillTalk

namespace CoreLocationService

variable (clock : Clock Date)

/-- The fix the job accepts. -/
def accepts (s : CoreLocationService) : LocationAction → Option UserLocation
  | .runUpdate index =>
      if s.updateTooSoon clock then none
      else s.updateTasks[index]?.map (UserLocation.ofFix s.identifiers)
  | _ => none

/-- The placemark that the job brings, and the fix it was looked up for. -/
def geocodes (s : CoreLocationService) : LocationAction → Option (UserLocation × CLPlacemark)
  | .finishGeocoding index placemarks =>
      s.geocodingTasks[index]?.bind fun task =>
        (placemarks.bind List.head?).map fun placemark => (task.userLocation, placemark)
  | _ => none

def publishes (s : CoreLocationService) (action : LocationAction) : Option UserLocation :=
  (s.accepts clock action).or
    ((s.geocodes action).map fun geocoded => geocoded.1.withPlacemark geocoded.2)

/-- The two states agree on the fixes, and the second has made no fewer identifiers. -/
structure SameFixes (s t : CoreLocationService) : Prop where
  currentLocation : t.currentLocation = s.currentLocation
  publishedLocations : t.publishedLocations = s.publishedLocations
  geocodingTasks : t.geocodingTasks = s.geocodingTasks
  identifiers : s.identifiers ≤ t.identifiers

/-- What a step does with the fixes. -/
structure FixStep (s : CoreLocationService) (action : LocationAction) (t : CoreLocationService) :
    Prop where
  currentLocation : t.currentLocation = (s.publishes clock action).or s.currentLocation
  publishedLocations :
    t.publishedLocations = s.publishedLocations ++ (s.publishes clock action).toList
  geocodingTasks : ∀ task ∈ t.geocodingTasks,
    task ∈ s.geocodingTasks ∨ s.accepts clock action = some task.userLocation
  identifiers : s.identifiers ≤ t.identifiers
  accepted : ∀ fix ∈ s.accepts clock action, fix.id = s.identifiers ∧ fix.id < t.identifiers

variable {clock} {s t : CoreLocationService}

theorem SameFixes.trans {u : CoreLocationService} (h : SameFixes s u) (h' : SameFixes u t) :
    SameFixes s t := by
  constructor
  · exact h'.currentLocation.trans h.currentLocation
  · exact h'.publishedLocations.trans h.publishedLocations
  · exact h'.geocodingTasks.trans h.geocodingTasks
  · exact h.identifiers.trans h'.identifiers

theorem sameFixes_resumeStored (s : CoreLocationService)
    (result : Except LocationServiceError UserLocation) : SameFixes s (s.resumeStored result) := by
  unfold resumeStored
  split
  · exact ⟨rfl, rfl, rfl, le_rfl⟩
  · exact ⟨rfl, rfl, rfl, le_rfl⟩

theorem sameFixes_handleSingleRequest (s : CoreLocationService) (location : CLLocation) :
    SameFixes s (s.handleSingleRequest location) := by
  unfold handleSingleRequest
  split
  · exact ⟨rfl, rfl, rfl, le_rfl⟩
  · have hnamed : SameFixes s { s with identifiers := s.identifiers + 1 } :=
      ⟨rfl, rfl, rfl, Nat.le_succ _⟩
    exact hnamed.trans (sameFixes_resumeStored _ _)

/-- A job that accepts nothing, by what it has written before it tells a waiting call. -/
theorem FixStep.of_written {action : LocationAction} {written : CoreLocationService}
    (h : SameFixes written t) (haccepts : s.accepts clock action = none)
    (hcurrent : written.currentLocation = (s.publishes clock action).or s.currentLocation)
    (hpublished : written.publishedLocations
      = s.publishedLocations ++ (s.publishes clock action).toList)
    (htasks : ∀ task ∈ written.geocodingTasks, task ∈ s.geocodingTasks)
    (hidentifiers : s.identifiers ≤ written.identifiers) : FixStep clock s action t := by
  constructor
  · exact h.currentLocation.trans hcurrent
  · exact h.publishedLocations.trans hpublished
  · intro task htask
    rw [h.geocodingTasks] at htask
    exact .inl (htasks task htask)
  · exact hidentifiers.trans h.identifiers
  · intro fix hfix
    rw [haccepts] at hfix
    cases hfix

/-- A job that publishes nothing. -/
theorem FixStep.of_same {action : LocationAction} (haccepts : s.accepts clock action = none)
    (hgeocodes : s.geocodes action = none) (h : SameFixes s t) : FixStep clock s action t := by
  have hpublishes : s.publishes clock action = none := by
    rw [publishes, haccepts, hgeocodes, Option.map_none, Option.or_none]
  refine .of_written h haccepts ?_ ?_ (fun _ => id) le_rfl
  · rw [hpublishes, Option.none_or]
  · rw [hpublishes, Option.toList_none, List.append_nil]

theorem fixStep_runUpdate {index : ℕ} {location : CLLocation}
    (htask : s.updateTasks[index]? = some location) :
    FixStep clock s (.runUpdate index)
      (processLocationUpdate clock { s with updateTasks := s.updateTasks.eraseIdx index }
        location) := by
  by_cases hsoon : s.updateTooSoon clock = true
  · have haccepts : s.accepts clock (.runUpdate index) = none := if_pos hsoon
    have hrefused : processLocationUpdate clock
        { s with updateTasks := s.updateTasks.eraseIdx index } location
        = handleSingleRequest
            { s with updateTasks := s.updateTasks.eraseIdx index, reads := s.reads + 1 }
            location := if_pos hsoon
    have hstarted : SameFixes s
        { s with updateTasks := s.updateTasks.eraseIdx index, reads := s.reads + 1 } :=
      ⟨rfl, rfl, rfl, le_rfl⟩
    rw [hrefused]
    exact .of_same haccepts rfl (hstarted.trans (sameFixes_handleSingleRequest _ location))
  · have haccepts : s.accepts clock (.runUpdate index) = some (.ofFix s.identifiers location) := by
      rw [accepts, if_neg hsoon, htask]
      rfl
    have hpublishes : s.publishes clock (.runUpdate index)
        = some (.ofFix s.identifiers location) := by
      rw [publishes, haccepts]
      rfl
    unfold processLocationUpdate
    rw [if_neg (by exact hsoon)]
    constructor
    · rw [hpublishes]
      rfl
    · rw [hpublishes]
      rfl
    · intro task hmem
      rcases List.mem_append.mp hmem with hold | hnew
      · exact .inl hold
      · obtain rfl := List.mem_singleton.mp hnew
        exact .inr haccepts
    · exact Nat.le_succ _
    · intro fix hfix
      rw [haccepts] at hfix
      obtain rfl := Option.some.inj hfix
      exact ⟨rfl, Nat.lt_succ_self _⟩

theorem fixStep_finishGeocoding {index : ℕ} {task : GeocodingTask}
    (htask : s.geocodingTasks[index]? = some task) (placemarks : Option (List CLPlacemark)) :
    FixStep clock s (.finishGeocoding index placemarks)
      (reverseGeocode { s with geocodingTasks := s.geocodingTasks.eraseIdx index } task
        placemarks) := by
  have hgeocodes : s.geocodes (.finishGeocoding index placemarks)
      = (placemarks.bind List.head?).map fun placemark => (task.userLocation, placemark) := by
    rw [geocodes, htask]
    rfl
  have hpublishes : s.publishes clock (.finishGeocoding index placemarks)
      = (placemarks.bind List.head?).map task.userLocation.withPlacemark := by
    rw [publishes, hgeocodes, Option.map_map]
    rfl
  have hrest : ∀ waiting ∈ s.geocodingTasks.eraseIdx index, waiting ∈ s.geocodingTasks :=
    fun waiting => List.mem_of_mem_eraseIdx
  unfold reverseGeocode
  cases hfirst : placemarks.bind List.head? with
  | none =>
      rw [hfirst] at hpublishes
      have h := sameFixes_handleSingleRequest
        { s with geocodingTasks := s.geocodingTasks.eraseIdx index } task.location
      refine .of_written h rfl ?_ ?_ hrest le_rfl
      · rw [hpublishes, Option.map_none, Option.none_or]
      · rw [hpublishes, Option.map_none, Option.toList_none, List.append_nil]
  | some placemark =>
      rw [hfirst] at hpublishes
      have h := sameFixes_handleSingleRequest
        { s with
          geocodingTasks := s.geocodingTasks.eraseIdx index
          currentLocation := some (task.userLocation.withPlacemark placemark)
          publishedLocations :=
            s.publishedLocations ++ [task.userLocation.withPlacemark placemark] } task.location
      refine .of_written h rfl ?_ ?_ hrest le_rfl
      · rw [hpublishes, Option.map_some, Option.some_or]
      · rw [hpublishes, Option.map_some, Option.toList_some]

/-- **What a step does with the fixes** is decided by what its job accepts and brings. -/
theorem fixStep_of_step {action : LocationAction} (hstep : s.step clock action = some t) :
    FixStep clock s action t := by
  cases action with
  | runUpdate index =>
      obtain ⟨location, htask, rfl⟩ := Option.map_eq_some_iff.mp hstep
      exact fixStep_runUpdate htask
  | finishGeocoding index placemarks =>
      obtain ⟨task, htask, rfl⟩ := Option.map_eq_some_iff.mp hstep
      exact fixStep_finishGeocoding htask placemarks
  | getCurrentLocation =>
      obtain rfl := Option.some.inj hstep
      refine .of_same rfl rfl ?_
      unfold getCurrentLocation
      split_ifs
      · exact ⟨rfl, rfl, rfl, le_rfl⟩
      · exact ⟨rfl, rfl, rfl, le_rfl⟩
      · split <;> exact ⟨rfl, rfl, rfl, le_rfl⟩
  | startTracking =>
      obtain rfl := Option.some.inj hstep
      refine .of_same rfl rfl ?_
      unfold startTracking
      split_ifs <;> exact ⟨rfl, rfl, rfl, le_rfl⟩
  | runTimeout index =>
      rw [step] at hstep
      split at hstep
      · cases hstep
      · split at hstep
        · obtain rfl := Option.some.inj hstep
          exact .of_same rfl rfl ⟨rfl, rfl, rfl, le_rfl⟩
        · cases hstep
  | runFailure index =>
      obtain ⟨description, -, rfl⟩ := Option.map_eq_some_iff.mp hstep
      have hstarted : SameFixes s { s with failureTasks := s.failureTasks.eraseIdx index } :=
        ⟨rfl, rfl, rfl, le_rfl⟩
      exact .of_same rfl rfl (hstarted.trans (sameFixes_resumeStored _ _))
  | runAuthorization index =>
      obtain ⟨status, -, rfl⟩ := Option.map_eq_some_iff.mp hstep
      refine .of_same rfl rfl ?_
      unfold didChangeAuthorization
      dsimp only
      split <;> exact ⟨rfl, rfl, rfl, le_rfl⟩
  | runAuthorizationCheck | runServiceCheck enabled status =>
      rw [step] at hstep
      split at hstep
      · cases hstep
      · obtain rfl := Option.some.inj hstep
        exact .of_same rfl rfl ⟨rfl, rfl, rfl, le_rfl⟩
  | stopTracking | updatePrivacyLevel level | didUpdateLocations locations
  | didFailWithError description | didChangeAuthorization status
  | locationManagerDidChangeAuthorization =>
      obtain rfl := Option.some.inj hstep
      exact .of_same rfl rfl ⟨rfl, rfl, rfl, le_rfl⟩

end CoreLocationService

/-- The service, and what its runs are judged by. -/
structure LocationTrace where
  service : CoreLocationService
  -- the fix accepted last
  accepted : Option UserLocation
  -- the placemarks so far, with the fixes they were looked up for
  geocoded : List (UserLocation × CLPlacemark)

namespace LocationTrace

open CoreLocationService

variable (clock : Clock Date)

def initial : LocationTrace where
  service := .initial
  accepted := none
  geocoded := []

def machine : Machine LocationTrace LocationAction where
  Init r := r = initial
  step r action := (r.service.step clock action).map fun service =>
    { service
      accepted := (r.service.accepts clock action).or r.accepted
      geocoded := r.geocoded ++ (r.service.geocodes action).toList }

/-- The current location is the fix accepted last, as it came or with a placemark that its own
geocoding came to. -/
def OwnPlacemark (r : LocationTrace) : Prop :=
  r.service.currentLocation = r.accepted
    ∨ ∃ fix placemark, r.accepted = some fix ∧ (fix, placemark) ∈ r.geocoded
      ∧ r.service.currentLocation = some (fix.withPlacemark placemark)

/-- A job brings a placemark only for the fix accepted last. -/
def InTime (r : LocationTrace) (action : LocationAction) : Prop :=
  ∀ geocoded ∈ r.service.geocodes action, r.accepted = some geocoded.1

/-- No two fixes share an identifier. -/
structure Fresh (r : LocationTrace) : Prop where
  accepted : ∀ fix ∈ r.accepted, fix.id < r.service.identifiers
  tasks : ∀ task ∈ r.service.geocodingTasks, task.userLocation.id < r.service.identifiers
  same : ∀ task ∈ r.service.geocodingTasks, ∀ fix ∈ r.accepted,
    task.userLocation.id = fix.id → task.userLocation = fix

variable {clock} {r r' : LocationTrace} {action : LocationAction}

theorem service_of_step (hstep : (machine clock).step r action = some r') :
    r.service.step clock action = some r'.service
      ∧ r'.accepted = (r.service.accepts clock action).or r.accepted
      ∧ r'.geocoded = r.geocoded ++ (r.service.geocodes action).toList := by
  obtain ⟨service, hservice, rfl⟩ := Option.map_eq_some_iff.mp hstep
  exact ⟨hservice, rfl, rfl⟩

/-- A fix accepted now has an identifier that no fix had before. -/
theorem Fresh.step (hr : r.Fresh) (hstep : (machine clock).step r action = some r') :
    r'.Fresh := by
  obtain ⟨hservice, haccepted, -⟩ := service_of_step hstep
  have hfixes := fixStep_of_step hservice
  have hold : ∀ task ∈ r'.service.geocodingTasks, task ∈ r.service.geocodingTasks
      ∨ r.service.accepts clock action = some task.userLocation := hfixes.geocodingTasks
  cases hnew : r.service.accepts clock action with
  | none =>
      rw [hnew, Option.none_or] at haccepted
      have htasks : ∀ task ∈ r'.service.geocodingTasks, task ∈ r.service.geocodingTasks := by
        intro task htask
        refine (hold task htask).resolve_right ?_
        rw [hnew]
        exact Option.some_ne_none _ |>.symm
      constructor
      · intro fix hfix
        rw [haccepted] at hfix
        exact (hr.accepted fix hfix).trans_le hfixes.identifiers
      · intro task htask
        exact (hr.tasks task (htasks task htask)).trans_le hfixes.identifiers
      · intro task htask fix hfix
        rw [haccepted] at hfix
        exact hr.same task (htasks task htask) fix hfix
  | some fix =>
      rw [hnew, Option.some_or] at haccepted
      obtain ⟨hid, hlt⟩ := hfixes.accepted fix hnew
      rw [hnew] at hold
      constructor
      · intro other hother
        rw [haccepted] at hother
        obtain rfl := Option.some.inj hother
        exact hlt
      · intro task htask
        rcases hold task htask with hwaiting | hown
        · exact (hr.tasks task hwaiting).trans_le hfixes.identifiers
        · exact Option.some.inj hown ▸ hlt
      · intro task htask other hother hids
        rw [haccepted] at hother
        obtain rfl := Option.some.inj hother
        rcases hold task htask with hwaiting | hown
        · have hbefore : task.userLocation.id < r.service.identifiers := hr.tasks task hwaiting
          omega
        · exact (Option.some.inj hown).symm

variable (clock) in
theorem exists_task_of_geocodes {geocoded : UserLocation × CLPlacemark}
    (h : r.service.geocodes action = some geocoded) :
    r.service.accepts clock action = none
      ∧ ∃ task ∈ r.service.geocodingTasks, task.userLocation = geocoded.1 := by
  cases action with
  | finishGeocoding index placemarks =>
      obtain ⟨task, htask, hplacemark⟩ := Option.bind_eq_some_iff.mp h
      obtain ⟨placemark, -, rfl⟩ := Option.map_eq_some_iff.mp hplacemark
      exact ⟨rfl, task, List.mem_of_getElem? htask, rfl⟩
  | _ => cases h

/-- **One step.** Only a placemark for an older fix takes the current location away from the fix
accepted last. -/
theorem ownPlacemark_iff (hr : r.Fresh) (hown : r.OwnPlacemark)
    (hstep : (machine clock).step r action = some r') : r'.OwnPlacemark ↔ r.InTime action := by
  obtain ⟨hservice, haccepted, hgeocoded⟩ := service_of_step hstep
  have hcurrent := (fixStep_of_step hservice).currentLocation
  cases hplacemark : r.service.geocodes action with
  | none =>
      have hintime : r.InTime action := by
        intro geocoded hmem
        rw [hplacemark] at hmem
        cases hmem
      refine iff_of_true ?_ hintime
      rw [publishes, hplacemark, Option.map_none, Option.or_none] at hcurrent
      rw [hplacemark, Option.toList_none, List.append_nil] at hgeocoded
      cases hnew : r.service.accepts clock action with
      | none =>
          rw [hnew, Option.none_or] at haccepted hcurrent
          rw [OwnPlacemark, hcurrent, haccepted, hgeocoded]
          exact hown
      | some fix =>
          rw [hnew, Option.some_or] at haccepted hcurrent
          exact .inl (hcurrent.trans haccepted.symm)
  | some geocoded =>
      obtain ⟨hnone, task, htask, htaskFix⟩ := exists_task_of_geocodes clock hplacemark
      rw [publishes, hnone, hplacemark, Option.none_or, Option.map_some, Option.some_or]
        at hcurrent
      rw [hnone, Option.none_or] at haccepted
      constructor
      · intro hown'
        -- the current location shows whose geocoding it was
        have hid : ∃ fix, r.accepted = some fix ∧ geocoded.1.id = fix.id := by
          rcases hown' with hplain | ⟨fix, placemark, hfix, -, hplaced⟩
          · rw [hcurrent, haccepted] at hplain
            exact ⟨_, hplain.symm, rfl⟩
          · rw [hcurrent] at hplaced
            rw [haccepted] at hfix
            have hid : (geocoded.1.withPlacemark geocoded.2).id
                = (fix.withPlacemark placemark).id :=
              congrArg UserLocation.id (Option.some.inj hplaced)
            exact ⟨fix, hfix, hid⟩
        obtain ⟨fix, hfix, hids⟩ := hid
        intro other hother
        rw [hplacemark] at hother
        obtain rfl := Option.some.inj hother
        have hsame : task.userLocation = fix :=
          hr.same task htask fix hfix (by rw [htaskFix, hids])
        rw [hfix, ← hsame, htaskFix]
      · intro hintime
        have hlast : r.accepted = some geocoded.1 := hintime geocoded hplacemark
        refine .inr ⟨geocoded.1, geocoded.2, haccepted.trans hlast, ?_, hcurrent⟩
        rw [hgeocoded, hplacemark]
        exact List.mem_append_right _ List.mem_cons_self

theorem fresh_initial : initial.Fresh := by
  constructor
  · exact fun fix hfix => nomatch hfix
  · exact fun task htask => nomatch htask
  · exact fun task htask => nomatch htask

/-- **Whose placemark the current location has.** Along a run it belongs to the fix accepted last
exactly when no geocoding of an older fix comes to a placemark. -/
theorem currentLocation_own_iff (clock : Clock Date) (actions : List LocationAction) :
    (∀ x ∈ (machine clock).transitions initial actions, x.2.2.OwnPlacemark)
      ↔ ∀ x ∈ (machine clock).transitions initial actions, x.1.InTime x.2.1 := by
  refine Machine.forall_transitions_iff OwnPlacemark Fresh ?_ ?_ actions fresh_initial (.inl rfl)
  · exact fun r action r' hstep hr _ => hr.step hstep
  · exact fun r action r' hstep hr hown => ownPlacemark_iff hr hown hstep

def harborFix : CLLocation := ⟨1, 2, 10, 0⟩

def stationFix : CLLocation := ⟨3, 4, 10, 300⟩

def harborPlacemark : CLPlacemark := ⟨none, none, some "Harbor", none, none, none, none⟩

/-- The harbor is looked up while the next fix, five minutes later, is accepted at the station. -/
def lateLookup : List LocationAction :=
  [.didUpdateLocations [harborFix], .runUpdate 0, .didUpdateLocations [stationFix], .runUpdate 0,
    .finishGeocoding 0 (some [harborPlacemark])]

/-- The current location returns to the harbor. -/
theorem lateLookup_not_own :
    ∃ r, (machine (Clock.ofGaps [0, 0, 300])).exec initial lateLookup = some r
      ∧ r.service.currentLocation
        = some ((UserLocation.ofFix 0 harborFix).withPlacemark harborPlacemark)
      ∧ r.accepted = some (.ofFix 1 stationFix) ∧ ¬ r.OwnPlacemark := by
  have hexec : ((machine (Clock.ofGaps [0, 0, 300])).exec initial lateLookup).map
      (fun r => (r.service.currentLocation, r.accepted))
      = some (some ((UserLocation.ofFix 0 harborFix).withPlacemark harborPlacemark),
        some (.ofFix 1 stationFix)) := by
    decide +kernel
  obtain ⟨r, hr, hends⟩ := Option.map_eq_some_iff.mp hexec
  obtain ⟨hcurrent, haccepted⟩ := Prod.mk.inj hends
  refine ⟨r, hr, hcurrent, haccepted, ?_⟩
  rintro (hplain | ⟨fix, placemark, hfix, -, hplaced⟩)
  · rw [hcurrent, haccepted] at hplain
    have hid : 0 = 1 := congrArg UserLocation.id (Option.some.inj hplain)
    exact Nat.zero_ne_one hid
  · rw [haccepted] at hfix
    obtain rfl := Option.some.inj hfix
    rw [hcurrent] at hplaced
    have hid : 0 = 1 := congrArg UserLocation.id (Option.some.inj hplaced)
    exact Nat.zero_ne_one hid

end LocationTrace

end SkillTalk
