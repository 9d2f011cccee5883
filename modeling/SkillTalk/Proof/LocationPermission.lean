import SkillTalk.LocationServiceProtocol
import SkillTalk.Proof.LocationEvents

/-!
# When the wrapper knows its permission

The wrapper hears of a permission only what its primary publishes. A check of the location services
changes the primary's status and publishes nothing, and the fallback's grant is published to nobody.
So the wrapper goes right as long as no check finds a new status and a grant of the fallback's finds
one of the primary's beside it, and it starts right if the bindings came before the first callback.
From any other start and after any other step the wrapper can be found wrong.
-/

namespace SkillTalk

/-- What the wrapper and its services take their permission to be. -/
structure PermissionView where
  wrapper : CLAuthorizationStatus
  primary : CLAuthorizationStatus
  fallback : CLAuthorizationStatus
  level : LocationPrivacyLevel
  changedBy : Option LocationServiceKind

namespace PermissionView

/-- With this status of the primary's and at this level the fallback is not the only one whose grant
would let a location be shown. -/
def Covers (v : PermissionView) (status : CLAuthorizationStatus) (level : LocationPrivacyLevel) :
    Prop :=
  level ≠ .hidden → v.fallback.isAuthorized = true → status.isAuthorized = true

instance (v : PermissionView) (status : CLAuthorizationStatus) (level : LocationPrivacyLevel) :
    Decidable (v.Covers status level) :=
  inferInstanceAs (Decidable (_ → _ → _))

/-- The wrapper knows its permission. -/
structure Known (v : PermissionView) : Prop where
  wrapper : v.wrapper = v.primary
  covered : v.Covers v.primary v.level
  heard : v.fallback.isAuthorized = true → v.changedBy ≠ none
  granted : v.changedBy = some .ipLocation →
    v.fallback = .authorizedWhenInUse ∧ v.primary = .authorizedWhenInUse

end PermissionView

def MultiLocationWorld.permissions (w : MultiLocationWorld) : PermissionView where
  wrapper := w.service.permissionStatus
  primary := w.service.primaryService.permissionStatus
  fallback := w.service.fallbackService.permissionStatus
  level := w.service.privacyLevel
  changedBy := w.changedBy

/-- The wrapper has the status of the service that last granted a permission or heard of a change,
and lets a location be shown, unless it is hidden, exactly when one of the two is authorized. -/
def MultiLocationWorld.PermissionShown (w : MultiLocationWorld) : Prop :=
  ∀ kind ∈ w.changedBy, w.service.permissionStatus = w.service.permissionOf kind
    ∧ (w.service.privacyLevel ≠ .hidden → (w.service.isLocationSharingAllowed = true
        ↔ w.service.primaryService.permissionStatus.isAuthorized = true
          ∨ w.service.fallbackService.permissionStatus.isAuthorized = true))

namespace MultiLocationWorld

variable {w : MultiLocationWorld}

theorem isLocationSharingAllowed_iff {s : MultiLocationService} (h : s.privacyLevel ≠ .hidden) :
    s.isLocationSharingAllowed = true ↔ s.permissionStatus.isAuthorized = true := by
  simp [MultiLocationService.isLocationSharingAllowed, h]

theorem permissionShown_of_known (h : w.permissions.Known) : w.PermissionShown := by
  intro kind hkind
  have hwrapper : w.service.permissionStatus = w.service.primaryService.permissionStatus :=
    h.wrapper
  constructor
  · cases kind with
    | coreLocation => exact hwrapper
    | ipLocation =>
        obtain ⟨hfallback, hprimary⟩ := h.granted hkind
        exact hwrapper.trans (hprimary.trans hfallback.symm)
  · intro hlevel
    rw [isLocationSharingAllowed_iff hlevel, hwrapper]
    exact (or_iff_left_of_imp (h.covered hlevel)).symm

/-- A grant of the fallback's alone is not shown. -/
theorem not_permissionShown_of_not_covered (hchanged : w.changedBy ≠ none)
    (hwrapper : w.permissions.wrapper = w.permissions.primary)
    (hcovered : ¬ w.permissions.Covers w.permissions.primary w.permissions.level) :
    ¬ w.PermissionShown := by
  intro hshown
  obtain ⟨kind, hkind⟩ := Option.ne_none_iff_exists'.mp hchanged
  refine hcovered fun hlevel hfallback => ?_
  have hallowed := ((hshown kind hkind).2 hlevel).mpr (.inr hfallback)
  rw [isLocationSharingAllowed_iff hlevel] at hallowed
  rw [← hwrapper]
  exact hallowed

theorem not_permissionShown_of_primary (hchanged : w.changedBy = some .coreLocation)
    (hne : w.permissions.wrapper ≠ w.permissions.primary) : ¬ w.PermissionShown := by
  intro hshown
  exact hne (hshown .coreLocation hchanged).1

end MultiLocationWorld

open MultiLocationWorld

namespace MultiLocation

variable {p q : MultiLocation} {clock : Clock Date}

/-- The bindings found the primary where the wrapper takes it to be, and the fallback has granted
nothing. -/
structure StartsKnown (p : MultiLocation) : Prop where
  primary : p.shared.service.primaryService.permissionStatus = p.shared.service.permissionStatus
  fallback : p.shared.service.fallbackService.permissionStatus.isAuthorized = false

/-- No check of the location services finds a new status. The fallback grants what the primary has
too, and after its grant no callback and no change of the level leave the fallback alone with it. -/
def KeepsPermission (p : MultiLocation) : MultiLocationAction → Prop
  | .run index _ => p.tasks[index]? = some .requestFallback →
      p.shared.service.primaryService.permissionStatus = .authorizedWhenInUse
  | .primary (.runAuthorization index) =>
      ∀ status ∈ p.shared.service.primaryService.authorizationTasks[index]?,
        p.shared.permissions.Covers status p.shared.service.privacyLevel
  | .primary (.runServiceCheck _ status) | .firstServiceCheck _ status =>
      status = p.shared.service.primaryService.permissionStatus
  | .updatePrivacyLevel level =>
      p.shared.permissions.Covers p.shared.service.primaryService.permissionStatus level
  | _ => True

instance (p : MultiLocation) :
    (action : MultiLocationAction) → Decidable (p.KeepsPermission action)
  | .run index _ => inferInstanceAs (Decidable (p.tasks[index]? = some .requestFallback →
      p.shared.service.primaryService.permissionStatus = .authorizedWhenInUse))
  | .primary (.runAuthorization index) =>
      inferInstanceAs (Decidable (∀ status ∈
        p.shared.service.primaryService.authorizationTasks[index]?,
          p.shared.permissions.Covers status p.shared.service.privacyLevel))
  | .primary (.runServiceCheck _ status) | .firstServiceCheck _ status =>
      inferInstanceAs (Decidable (status = p.shared.service.primaryService.permissionStatus))
  | .updatePrivacyLevel level =>
      inferInstanceAs (Decidable (p.shared.permissions.Covers
        p.shared.service.primaryService.permissionStatus level))
  | .startTracking | .stopTracking | .requestPermission | .fallbackLocated _ =>
      inferInstanceAs (Decidable True)
  | .primary .getCurrentLocation | .primary .startTracking | .primary .stopTracking
  | .primary (.updatePrivacyLevel _) | .primary (.didUpdateLocations _)
  | .primary (.didFailWithError _) | .primary (.didChangeAuthorization _)
  | .primary .locationManagerDidChangeAuthorization | .primary (.runTimeout _)
  | .primary (.runUpdate _) | .primary (.finishGeocoding _ _) | .primary (.runFailure _)
  | .primary .runAuthorizationCheck => inferInstanceAs (Decidable True)

/-! ### What steps do to the view -/

/-- Only a request for permission has a turn that changes what is known of it. -/
theorem turn_permissions (answer : IPLocationAnswer) (w : MultiLocationWorld) {call : LocationCall}
    (hrequest : call ≠ .requestPermission) (hfallback : call ≠ .requestFallback) :
    (w.turn answer call).1.permissions = w.permissions := by
  cases call with
  | startTracking =>
      rcases w.service.primaryService.startTracking_cases with ⟨error, hstart⟩ | hstart <;>
        simp only [turn, hstart] <;> rfl
  | locating trackedBefore => cases answer <;> rfl
  | requestPermission => exact absurd rfl hrequest
  | requestFallback => exact absurd rfl hfallback
  | _ => rfl

theorem turn_requestPermission (answer : IPLocationAnswer) (w : MultiLocationWorld) :
    (w.turn answer .requestPermission).1.permissions = w.permissions
      ∨ (w.turn answer .requestPermission).1.permissions
        = { w.permissions with changedBy := some .coreLocation } := by
  rw [turn]
  split
  · exact .inr rfl
  · exact .inl rfl

theorem permissions_of_observes {primary : CoreLocationService} (h : p.Observes primary q)
    {published : List CLAuthorizationStatus}
    (hpublished : primary.publishedPermissions
      = p.shared.service.primaryService.publishedPermissions ++ published) :
    q.shared.permissions
      = { wrapper := published.getLast?.getD p.shared.service.permissionStatus
          primary := primary.permissionStatus
          fallback := p.shared.service.fallbackService.permissionStatus
          level := p.shared.service.privacyLevel
          changedBy := q.shared.changedBy } := by
  rw [permissions, h.service]
  simp [MultiLocationService.observePrimary, hpublished]

theorem permissions_of_authorization {index : ℕ}
    (h : p.step clock (.primary (.runAuthorization index)) = some q) :
    ∃ status, p.shared.service.primaryService.authorizationTasks[index]? = some status
      ∧ q.shared.permissions = ⟨status, status, p.shared.permissions.fallback,
        p.shared.permissions.level, some .coreLocation⟩ := by
  obtain ⟨-, primary, hprimary, hq, hchanged⟩ := observes_of_primary h
  obtain ⟨status, hstatus, hnew, hpublished, -⟩ := CoreLocationService.runAuthorization_eq hprimary
  refine ⟨status, hstatus, ?_⟩
  rw [permissions_of_observes hq hpublished, hnew, hchanged]
  rfl

theorem permissions_of_check {enabled : Bool} {status : CLAuthorizationStatus}
    {primary : CoreLocationService} (hq : p.Observes primary q)
    (hprimary : p.shared.service.primaryService.step clock (.runServiceCheck enabled status)
      = some primary) :
    q.shared.permissions = ⟨p.shared.permissions.wrapper, status, p.shared.permissions.fallback,
      p.shared.permissions.level, q.shared.changedBy⟩ := by
  obtain ⟨hnew, hpublished, -⟩ := CoreLocationService.runServiceCheck_eq hprimary
  rw [permissions_of_observes hq (hpublished.trans (List.append_nil _).symm), hnew]
  rfl

theorem permissions_of_locationOnly {event : LocationAction}
    (h : p.step clock (.primary event) = some q) (hevent : CoreLocationService.LocationOnly event) :
    q.shared.permissions = p.shared.permissions := by
  obtain ⟨-, primary, hprimary, hq, hchanged⟩ := observes_of_primary h
  have hkept := CoreLocationService.untouched_step hevent hprimary
  have hsame : q.shared.changedBy = p.shared.changedBy := by
    rw [hchanged]
    cases event <;> first | rfl | cases hevent
  rw [permissions_of_observes hq (hkept.publishedPermissions.trans (List.append_nil _).symm),
    hsame, hkept.permissionStatus]
  rfl

/-! ### Steps that keep the permission known -/

theorem known_run {answer : IPLocationAnswer} {index : ℕ} (h : p.run (turn answer) index = some q)
    (hp : p.shared.permissions.Known) (hkeep : p.KeepsPermission (.run index answer)) :
    q.shared.permissions.Known := by
  obtain ⟨call, hcall, hshared, -⟩ := TaskPool.exists_of_run h
  rw [hshared]
  by_cases hrequest : call = .requestPermission
  · subst hrequest
    rcases turn_requestPermission answer p.shared with hview | hview
    · rw [hview]
      exact hp
    · rw [hview]
      exact ⟨hp.wrapper, hp.covered, by simp, by simp⟩
  · by_cases hfallback : call = .requestFallback
    · subst hfallback
      have hprimary : p.shared.permissions.primary = .authorizedWhenInUse := hkeep hcall
      exact
        { wrapper := hp.wrapper
          covered := fun _ _ => by
            change p.shared.permissions.primary.isAuthorized = true
            rw [hprimary]
            rfl
          heard := by simp [turn, permissions]
          granted := fun _ => ⟨rfl, hprimary⟩ }
    · rw [turn_permissions answer p.shared hrequest hfallback]
      exact hp

theorem known_primary {event : LocationAction} (h : p.step clock (.primary event) = some q)
    (hp : p.shared.permissions.Known) (hkeep : p.KeepsPermission (.primary event)) :
    q.shared.permissions.Known := by
  have huntouched : CoreLocationService.LocationOnly event → q.shared.permissions.Known := by
    intro hevent
    rw [permissions_of_locationOnly h hevent]
    exact hp
  obtain ⟨hmay, primary, hprimary, hq, hchanged⟩ := observes_of_primary h
  cases event with
  | startTracking | stopTracking | updatePrivacyLevel => cases hmay
  | runAuthorization index =>
      obtain ⟨status, hstatus, hview⟩ := permissions_of_authorization h
      rw [hview]
      exact ⟨rfl, hkeep status hstatus, by simp, by simp⟩
  | runServiceCheck enabled status =>
      have hsame : status = p.shared.permissions.primary := hkeep
      rw [permissions_of_check hq hprimary, hchanged, hsame]
      exact ⟨hp.wrapper, hp.covered, by simp [heardBy], by simp [heardBy]⟩
  | _ => exact huntouched trivial

theorem known_step {action : MultiLocationAction} (h : p.step clock action = some q)
    (hp : p.shared.permissions.Known) (hkeep : p.KeepsPermission action) :
    q.shared.permissions.Known := by
  cases action with
  | startTracking | stopTracking | requestPermission =>
      obtain rfl := Option.some.inj h
      exact hp
  | updatePrivacyLevel level =>
      obtain rfl := Option.some.inj h
      exact ⟨hp.wrapper, hkeep, hp.heard, hp.granted⟩
  | run index answer => exact known_run h hp hkeep
  | primary event => exact known_primary h hp hkeep
  | firstServiceCheck enabled status =>
      obtain ⟨primary, hprimary, hq, hchanged⟩ := observes_of_firstServiceCheck h
      have hsame : status = p.shared.permissions.primary := hkeep
      rw [permissions_of_check hq hprimary, hchanged, hsame]
      exact hp
  | fallbackLocated answer =>
      obtain rfl := Option.some.inj h
      cases answer <;> exact hp

/-! ### What any other start and any other step lead to -/

/-- Some run ends with the wrapper wrong. -/
def MayMislead (clock : Clock Date) (p : MultiLocation) : Prop :=
  ∃ actions r, (multiLocation clock).exec p actions = some r ∧ ¬ r.shared.PermissionShown

theorem MayMislead.of_step {action : MultiLocationAction} (h : p.step clock action = some q)
    (hq : MayMislead clock q) : MayMislead clock p := by
  obtain ⟨actions, r, hexec, hr⟩ := hq
  exact ⟨action :: actions, r, Option.bind_eq_some_iff.mpr ⟨q, h, hexec⟩, hr⟩

theorem MayMislead.of_not_shown (h : ¬ p.shared.PermissionShown) : MayMislead clock p :=
  ⟨[], p, rfl, h⟩

/-- A callback that makes the primary check its services once more. -/
theorem exists_more_checks (clock : Clock Date) (p : MultiLocation) :
    ∃ t q, p.step clock (.primary .locationManagerDidChangeAuthorization) = some t
      ∧ t.step clock (.primary .runAuthorizationCheck) = some q
      ∧ q.shared.permissions = p.shared.permissions
      ∧ q.shared.service.primaryService.serviceChecks
        = p.shared.service.primaryService.serviceChecks + 1 := by
  obtain ⟨t, hstep, q, hnext, hchecks⟩ :
      ∃ t, p.step clock (.primary .locationManagerDidChangeAuthorization) = some t
        ∧ ∃ q, t.step clock (.primary .runAuthorizationCheck) = some q
          ∧ q.shared.service.primaryService.serviceChecks
            = p.shared.service.primaryService.serviceChecks + 1 :=
    ⟨_, rfl, _, rfl, rfl⟩
  refine ⟨t, q, hstep, hnext, ?_, hchecks⟩
  rw [permissions_of_locationOnly hnext trivial, permissions_of_locationOnly hstep trivial]

theorem exists_check (clock : Clock Date) {p : MultiLocation}
    (h : 1 < p.shared.service.primaryService.serviceChecks) (status : CLAuthorizationStatus) :
    ∃ q, p.step clock (.primary (.runServiceCheck true status)) = some q
      ∧ q.shared.permissions = ⟨p.shared.permissions.wrapper, status,
        p.shared.permissions.fallback, p.shared.permissions.level, some .coreLocation⟩ := by
  have hmay : p.shared.primaryMay (.runServiceCheck true status) = true := by
    simp [primaryMay, h]
  have hsome : (p.shared.service.primaryService.step clock (.runServiceCheck true status)).isSome
      = true := by
    simp [CoreLocationService.step, Nat.ne_of_gt (Nat.zero_lt_of_lt h)]
  obtain ⟨primary, hprimary⟩ := Option.isSome_iff_exists.mp hsome
  have hstep : ∃ q, p.step clock (.primary (.runServiceCheck true status)) = some q := by
    simp [step, hmay, hprimary]
  obtain ⟨q, hq⟩ := hstep
  obtain ⟨-, primary, hprimary, hobserves, hchanged⟩ := observes_of_primary hq
  exact ⟨q, hq, by rw [permissions_of_check hobserves hprimary, hchanged]; rfl⟩

/-- A wrapper with another status than its primary's will be asked for it. -/
theorem mayMislead_of_primary (h : p.shared.permissions.wrapper ≠ p.shared.permissions.primary) :
    MayMislead clock p := by
  obtain ⟨t, u, hstep, hnext, hview, hchecks⟩ := exists_more_checks clock p
  obtain ⟨v, w, hstep', hnext', hview', hchecks'⟩ := exists_more_checks clock u
  have hmany : 1 < w.shared.service.primaryService.serviceChecks := by omega
  obtain ⟨q, hcheck, hq⟩ := exists_check clock hmany w.shared.permissions.primary
  have hwrong : ¬ q.shared.PermissionShown := by
    refine not_permissionShown_of_primary (congrArg PermissionView.changedBy hq) ?_
    rw [hq, hview', hview]
    exact h
  have hend : MayMislead clock w := .of_step hcheck (.of_not_shown hwrong)
  exact .of_step hstep (.of_step hnext (.of_step hstep' (.of_step hnext' hend)))

/-- A grant of the fallback's outlives a denial. -/
theorem mayMislead_of_fallback (h : p.shared.permissions.fallback.isAuthorized = true) :
    MayMislead clock p := by
  obtain ⟨t, hlevel, hview⟩ : ∃ t, p.step clock (.updatePrivacyLevel .city) = some t
      ∧ t.shared.permissions = { p.shared.permissions with level := .city } := ⟨_, rfl, rfl⟩
  obtain ⟨u, hcallback, htasks⟩ :
      ∃ u, t.step clock (.primary (.didChangeAuthorization .denied)) = some u
        ∧ u.shared.service.primaryService.authorizationTasks
          = t.shared.service.primaryService.authorizationTasks ++ [.denied] := ⟨_, rfl, rfl⟩
  have hview' := permissions_of_locationOnly hcallback trivial
  obtain ⟨q, hrun⟩ : ∃ q, u.step clock (.primary (.runAuthorization
      t.shared.service.primaryService.authorizationTasks.length)) = some q := by
    simp [step, primaryMay, CoreLocationService.step, htasks]
  obtain ⟨status, hstatus, hq⟩ := permissions_of_authorization hrun
  obtain rfl : .denied = status := by
    simpa [htasks] using hstatus
  have hwrong : ¬ q.shared.PermissionShown := by
    have hchanged : q.shared.changedBy = some .coreLocation := congrArg PermissionView.changedBy hq
    refine not_permissionShown_of_not_covered (by simp [hchanged]) (by rw [hq]) ?_
    rw [hq, hview', hview]
    intro hcovers
    cases hcovers (fun hhidden => by cases hhidden) h
  exact .of_step hlevel (.of_step hcallback (.of_step hrun (.of_not_shown hwrong)))

theorem mayMislead_of_run {answer : IPLocationAnswer} {index : ℕ}
    (h : p.run (turn answer) index = some q) (hp : p.shared.permissions.Known)
    (hbreak : ¬ p.KeepsPermission (.run index answer)) : MayMislead clock q := by
  obtain ⟨hcall, hprimary⟩ : p.tasks[index]? = some .requestFallback
      ∧ p.shared.permissions.primary ≠ .authorizedWhenInUse := Classical.not_imp.mp hbreak
  obtain ⟨call, htask, hshared, -⟩ := TaskPool.exists_of_run h
  obtain rfl : .requestFallback = call := Option.some.inj (hcall.symm.trans htask)
  refine .of_not_shown fun hshown => hprimary ?_
  rw [hshared] at hshown
  exact hp.wrapper.symm.trans (hshown .ipLocation rfl).1

theorem mayMislead_of_event {event : LocationAction} (h : p.step clock (.primary event) = some q)
    (hp : p.shared.permissions.Known) (hbreak : ¬ p.KeepsPermission (.primary event)) :
    MayMislead clock q := by
  obtain ⟨-, primary, hprimary, hq, hchanged⟩ := observes_of_primary h
  cases event with
  | runAuthorization index =>
      obtain ⟨status, hstatus, hview⟩ := permissions_of_authorization h
      have hcovers : ¬ p.shared.permissions.Covers status p.shared.service.privacyLevel := by
        simpa [KeepsPermission, hstatus] using hbreak
      refine .of_not_shown (not_permissionShown_of_not_covered (by rw [hchanged]; simp [heardBy])
        (by rw [hview]) ?_)
      rw [hview]
      exact hcovers
  | runServiceCheck enabled status =>
      refine mayMislead_of_primary ?_
      rw [permissions_of_check hq hprimary]
      exact fun hwrapper => hbreak (hwrapper.symm.trans hp.wrapper)
  | _ => exact absurd trivial hbreak

theorem mayMislead_of_step {action : MultiLocationAction} (h : p.step clock action = some q)
    (hp : p.shared.permissions.Known) (hbreak : ¬ p.KeepsPermission action) :
    MayMislead clock q := by
  cases action with
  | run index answer => exact mayMislead_of_run h hp hbreak
  | primary event => exact mayMislead_of_event h hp hbreak
  | firstServiceCheck enabled status =>
      obtain ⟨primary, hprimary, hq, -⟩ := observes_of_firstServiceCheck h
      refine mayMislead_of_primary ?_
      rw [permissions_of_check hq hprimary]
      exact fun hwrapper => hbreak (hwrapper.symm.trans hp.wrapper)
  | updatePrivacyLevel level =>
      obtain rfl := Option.some.inj h
      have hcovers : ¬ p.shared.permissions.Covers p.shared.permissions.primary level := hbreak
      have hfallback : p.shared.permissions.fallback.isAuthorized = true := by
        by_contra hnone
        exact hcovers fun _ hgranted => absurd hgranted hnone
      exact .of_not_shown (not_permissionShown_of_not_covered (hp.heard hfallback) hp.wrapper
        hcovers)
  | startTracking | stopTracking | requestPermission | fallbackLocated =>
      exact absurd trivial hbreak

/-- The runs that start with the permission known. -/
def knownLocation (clock : Clock Date) : Machine MultiLocation MultiLocationAction where
  Init p := (multiLocation clock).Init p ∧ p.StartsKnown
  step := MultiLocation.step clock

theorem known_of_reachableWhere (hp : (knownLocation clock).ReachableWhere KeepsPermission p) :
    p.shared.permissions.Known := by
  refine hp.invariant (fun p => p.shared.permissions.Known) ?_ ?_
  · rintro p ⟨⟨huncalled, -⟩, hknown⟩
    have hfallback : p.shared.permissions.fallback.isAuthorized = false := hknown.fallback
    have hchanged : p.shared.permissions.changedBy = none := huncalled.changedBy
    exact ⟨hknown.primary.symm, fun _ => by simp [hfallback], by simp [hfallback],
      by simp [hchanged]⟩
  · intro p action q _ hknown hkeep hstep
    exact known_step hstep hknown hkeep

/-- **A location that may be shown is shown** in every run that starts with the permission known and
keeps it so. Any other start, and any other step of such a run, can lead to a location that is shown
or hidden wrongly. -/
theorem permission_shown (clock : Clock Date) :
    (∀ p, (knownLocation clock).ReachableWhere KeepsPermission p →
        p.shared.PermissionShown
          ∧ ∀ action q, p.step clock action = some q → ¬ p.KeepsPermission action →
            MayMislead clock q)
      ∧ ∀ p, (multiLocation clock).Init p → ¬ p.StartsKnown → MayMislead clock p := by
  constructor
  · intro p hp
    have hknown : p.shared.permissions.Known := known_of_reachableWhere hp
    exact ⟨permissionShown_of_known hknown, fun _ _ hstep => mayMislead_of_step hstep hknown⟩
  · intro p hinit hunknown
    by_cases hfallback : p.shared.permissions.fallback.isAuthorized = true
    · exact mayMislead_of_fallback hfallback
    · refine mayMislead_of_primary fun hwrapper => hunknown ⟨hwrapper.symm, ?_⟩
      exact Bool.eq_false_iff.mpr hfallback

/-- The user grants a permission, the services turn out to be disabled, and the fallback grants it
once more. -/
def grantedTwice : List MultiLocationAction :=
  [.primary (.didChangeAuthorization .authorizedWhenInUse), .primary (.runAuthorization 0),
    .firstServiceCheck false .authorizedWhenInUse, .requestPermission, .run 0 (.error ""),
    .run 0 (.error ""), .updatePrivacyLevel .exact]

theorem permission_shown_of_grants :
    ∃ p, (multiLocation (Clock.ofGaps [])).exec ⟨.initial, []⟩ grantedTwice = some p
      ∧ p.shared.changedBy = some .ipLocation
      ∧ p.shared.service.isLocationSharingAllowed = true ∧ p.shared.PermissionShown := by
  obtain ⟨p, hexec, hchanged, hallowed⟩ :
      ∃ p, (knownLocation (Clock.ofGaps [])).exec ⟨.initial, []⟩ grantedTwice = some p
        ∧ p.shared.changedBy = some .ipLocation
        ∧ p.shared.service.isLocationSharingAllowed = true := ⟨_, rfl, rfl, rfl⟩
  have hp : (knownLocation (Clock.ofGaps [])).ReachableWhere KeepsPermission p := by
    refine Machine.reachableWhere_of_exec ⟨⟨⟨rfl, rfl, rfl, rfl, rfl⟩, rfl⟩, rfl, rfl⟩ grantedTwice
      hexec ?_
    decide +kernel
  exact ⟨p, hexec, hchanged, hallowed, ((permission_shown _).1 p hp).1⟩

/-- The fallback grants a permission that the wrapper does not hear of. -/
theorem granted_permission_not_shown :
    ¬ ∀ (clock : Clock Date) (start p : MultiLocation) (actions : List MultiLocationAction),
      (multiLocation clock).Init start → (multiLocation clock).exec start actions = some p →
        p.shared.PermissionShown := by
  intro h
  obtain ⟨p, hexec, hchanged, hwrapper, hgranted⟩ :
      ∃ p, (multiLocation (Clock.ofGaps [])).exec ⟨.initial, []⟩
          [.firstServiceCheck true .denied, .requestPermission, .run 0 (.error ""),
            .run 0 (.error "")] = some p
        ∧ p.shared.changedBy = some .ipLocation
        ∧ p.shared.service.permissionStatus = .notDetermined
        ∧ p.shared.service.fallbackService.permissionStatus = .authorizedWhenInUse :=
    ⟨_, rfl, rfl, rfl, rfl⟩
  have hshown : p.shared.PermissionShown := h _ _ p _ ⟨⟨rfl, rfl, rfl, rfl, rfl⟩, rfl⟩ hexec
  have hstatus : p.shared.service.permissionStatus
      = p.shared.service.fallbackService.permissionStatus := (hshown _ hchanged).1
  rw [hwrapper, hgranted] at hstatus
  cases hstatus

end MultiLocation

end SkillTalk
