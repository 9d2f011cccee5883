import SkillTalk.LocationPermissionView
import SkillTalk.Proof.LocationPermission

/-!
# What the popup reports

The service hears of a permission only what Core Location publishes, so the popup can report nothing
else: neither a permission that a check of the location services finds, nor one that the fallback
grants. Each publication makes for one change that is drawn, and each request and each appearance
looks once more.
-/

namespace SkillTalk

namespace LocationPermissionView

theorem handlePermissionStatusChange_of_not_authorized (v : LocationPermissionView)
    {status : CLAuthorizationStatus} (h : status.isAuthorized = false) :
    ∃ showingSettings, v.handlePermissionStatusChange status
      = { v with showingSettings := showingSettings } := by
  cases status with
  | authorizedWhenInUse | authorizedAlways => cases h
  | notDetermined => exact ⟨v.showingSettings, rfl⟩
  | restricted | denied => exact ⟨true, rfl⟩

theorem finishRequest_of_authorized (v : LocationPermissionView) {status : CLAuthorizationStatus}
    (h : status.isAuthorized = true) :
    v.finishRequest status = { v with isLoading := false }.onPermissionGranted := by
  cases status with
  | authorizedWhenInUse | authorizedAlways => rfl
  | notDetermined | restricted | denied => cases h

theorem finishRequest_of_not_authorized (v : LocationPermissionView)
    {status : CLAuthorizationStatus} (h : status.isAuthorized = false) :
    v.finishRequest status = { v with isLoading := false, showingSettings := true } := by
  cases status with
  | authorizedWhenInUse | authorizedAlways => cases h
  | notDetermined | restricted | denied => rfl

end LocationPermissionView

namespace MultiLocation

variable {p q : MultiLocation} {clock : Clock Date}

def status (p : MultiLocation) : CLAuthorizationStatus := p.shared.service.permissionStatus

/-- What Core Location has published. -/
def published (p : MultiLocation) : List CLAuthorizationStatus :=
  p.shared.service.primaryService.publishedPermissions

/-- Core Location published these statuses, and the wrapper has the last of them. -/
structure Hears (p q : MultiLocation) (heard : List CLAuthorizationStatus) : Prop where
  published : q.published = p.published ++ heard
  status : q.status = heard.getLast?.getD p.status

theorem hears_of_observes {primary : CoreLocationService} {heard : List CLAuthorizationStatus}
    (h : p.Observes primary q) (hheard : primary.publishedPermissions = p.published ++ heard) :
    p.Hears q heard := by
  constructor
  · rw [published, h.service]
    exact hheard
  · rw [status, h.service, MultiLocationService.observePrimary]
    change ((primary.publishedPermissions.drop p.published.length).getLast?.getD p.status) = _
    rw [hheard, List.drop_left]

/-- No call of the service makes Core Location publish anything. -/
theorem hears_run {answer : IPLocationAnswer} {index : ℕ}
    (h : p.run (MultiLocationWorld.turn answer) index = some q) : p.Hears q [] := by
  obtain ⟨call, -, hshared, -⟩ := TaskPool.exists_of_run h
  have hturn : ∀ w : MultiLocationWorld,
      (w.turn answer call).1.service.primaryService.publishedPermissions
          = w.service.primaryService.publishedPermissions
        ∧ (w.turn answer call).1.service.permissionStatus = w.service.permissionStatus := by
    intro w
    cases call with
    | startTracking =>
        rcases w.service.primaryService.startTracking_cases with ⟨error, hstart⟩ | hstart <;>
          simp only [MultiLocationWorld.turn, hstart] <;> exact ⟨rfl, rfl⟩
    | locating trackedBefore => cases answer <;> exact ⟨rfl, rfl⟩
    | requestPermission =>
        simp only [MultiLocationWorld.turn]
        split <;> exact ⟨rfl, rfl⟩
    | _ => exact ⟨rfl, rfl⟩
  obtain ⟨hpublished, hstatus⟩ := hturn p.shared
  constructor
  · rw [published, hshared, List.append_nil]
    exact hpublished
  · rw [status, hshared]
    exact hstatus

theorem hears_primary {event : LocationAction} (h : p.step clock (.primary event) = some q) :
    (∃ heard, p.Hears q heard) ∧ q.tasks = p.tasks := by
  obtain ⟨hmay, primary, hprimary, hq, -⟩ := observes_of_primary h
  have huntouched : CoreLocationService.LocationOnly event → ∃ heard, p.Hears q heard := by
    intro hevent
    have hkept := CoreLocationService.untouched_step hevent hprimary
    exact ⟨[], hears_of_observes hq (hkept.publishedPermissions.trans (List.append_nil _).symm)⟩
  refine ⟨?_, hq.tasks⟩
  cases event with
  | startTracking | stopTracking | updatePrivacyLevel => cases hmay
  | runAuthorization index =>
      obtain ⟨status, -, -, hpublished, -⟩ := CoreLocationService.runAuthorization_eq hprimary
      exact ⟨[status], hears_of_observes hq hpublished⟩
  | runServiceCheck enabled status =>
      obtain ⟨-, hpublished, -⟩ := CoreLocationService.runServiceCheck_eq hprimary
      exact ⟨[], hears_of_observes hq (hpublished.trans (List.append_nil _).symm)⟩
  | _ => exact huntouched trivial

theorem hears_firstServiceCheck {enabled : Bool} {status : CLAuthorizationStatus}
    (h : p.step clock (.firstServiceCheck enabled status) = some q) :
    p.Hears q [] ∧ q.tasks = p.tasks := by
  obtain ⟨primary, hprimary, hq, -⟩ := observes_of_firstServiceCheck h
  obtain ⟨-, hpublished, -⟩ := CoreLocationService.runServiceCheck_eq hprimary
  exact ⟨hears_of_observes hq (hpublished.trans (List.append_nil _).symm), hq.tasks⟩

end MultiLocation

namespace PermissionPopup

variable {start p q : PermissionPopup} {clock : Clock Date}

/-- What Core Location has published since the popup was opened. -/
def heard (start p : PermissionPopup) : List CLAuthorizationStatus :=
  p.location.published.drop start.location.published.length

/-- The last status that Core Location has published since the popup was opened grants access. -/
def HeardGrant (start p : PermissionPopup) : Prop :=
  ∃ status ∈ (start.heard p).getLast?, status.isAuthorized = true

/-- A change of the status that has not been drawn. -/
def undrawn (p : PermissionPopup) : ℕ := if p.status = p.view.drawnStatus then 0 else 1

/-- The status is the one heard last, the popup loads while its one request is on the way, and each
report has its cause. -/
structure Reports (start p : PermissionPopup) : Prop where
  published : p.location.published = start.location.published ++ start.heard p
  status : p.status = (start.heard p).getLast?.getD .notDetermined
  loading : p.location.tasks.length + p.returned.toNat = p.view.isLoading.toNat
  charged : p.view.granted + p.undrawn
    ≤ (start.heard p).length + p.finished + p.view.appeared.toNat

theorem reports_of_opened (h : start.Opened) : Reports start start := by
  have hheard : start.heard start = [] := List.drop_length
  constructor
  · rw [hheard, List.append_nil]
  · rw [hheard, h.status]
    rfl
  · rw [h.tasks, h.returned, h.view]
    rfl
  · rw [undrawn, h.status, h.view]
    exact Nat.zero_le _

theorem Reports.heardGrant_iff (h : Reports start p) :
    HeardGrant start p ↔ p.status.isAuthorized = true := by
  rw [HeardGrant, h.status]
  cases (start.heard p).getLast? with
  | none => exact iff_of_false (by simp) (by decide)
  | some status => simp

/-- The service and the request have gone on, and the view has not. -/
theorem Reports.of_hears (h : Reports start p) {heard : List CLAuthorizationStatus}
    (hheard : p.location.Hears q.location heard) (hview : q.view = p.view)
    (hfinished : q.finished = p.finished)
    (hloading : q.location.tasks.length + q.returned.toNat
      = p.location.tasks.length + p.returned.toNat) : Reports start q := by
  have hnew : start.heard q = start.heard p ++ heard := by
    rw [PermissionPopup.heard, hheard.published, h.published, List.append_assoc, List.drop_left]
  have hstatus : q.status = heard.getLast?.getD p.status := hheard.status
  constructor
  · rw [hheard.published, hnew, ← List.append_assoc, ← h.published]
  · rw [hstatus, hnew, List.getLast?_append, h.status]
    cases heard.getLast? <;> rfl
  · rw [hloading, h.loading, hview]
  · rw [hnew, List.length_append, hview, hfinished]
    have hcharged := h.charged
    cases heard with
    | nil =>
        have hsame : q.undrawn = p.undrawn := by
          rw [undrawn, undrawn, hstatus, hview]
          rfl
        rw [hsame]
        exact hcharged
    | cons status rest =>
        have hone : q.undrawn ≤ 1 := by
          unfold undrawn
          split <;> omega
        rw [List.length_cons]
        omega

/-- The view has gone on, and the service has not. -/
theorem Reports.of_view (h : Reports start p) (hlocation : q.location = p.location)
    (hloading : q.location.tasks.length + q.returned.toNat = q.view.isLoading.toNat)
    (hcharged : q.view.granted + q.undrawn + p.finished + p.view.appeared.toNat
      ≤ p.view.granted + p.undrawn + q.finished + q.view.appeared.toNat) : Reports start q := by
  have hheard : start.heard q = start.heard p := by rw [heard, heard, hlocation]
  have hstatus : q.status = p.status := by rw [PermissionPopup.status, hlocation]; rfl
  constructor
  · rw [hlocation, hheard]
    exact h.published
  · rw [hstatus, hheard]
    exact h.status
  · exact hloading
  · have hbefore := h.charged
    rw [hheard]
    omega

/-- A change is drawn, or the status is looked at as the popup appears. -/
theorem Reports.of_handled (h : Reports start p) {view : LocationPermissionView}
    (hloading : view.isLoading = p.view.isLoading) (hgranted : view.granted = p.view.granted)
    (hcharged : (p.present view).undrawn + p.view.appeared.toNat + 1
      ≤ p.undrawn + view.appeared.toNat) :
    Reports start (p.present (view.handlePermissionStatusChange p.status)) := by
  have hcases : (view.handlePermissionStatusChange p.status).isLoading = view.isLoading
      ∧ (view.handlePermissionStatusChange p.status).drawnStatus = view.drawnStatus
      ∧ (view.handlePermissionStatusChange p.status).appeared = view.appeared
      ∧ (view.handlePermissionStatusChange p.status).granted ≤ view.granted + 1 := by
    cases p.status <;> simp [LocationPermissionView.handlePermissionStatusChange,
      LocationPermissionView.onPermissionGranted]
  obtain ⟨hstill, hdrawn, happeared, hreport⟩ := hcases
  have hundrawn : (p.present (view.handlePermissionStatusChange p.status)).undrawn
      = (p.present view).undrawn := by
    simp only [undrawn, present, hdrawn]
    rfl
  refine h.of_view rfl ?_ ?_
  · simp only [present, hstill, hloading]
    exact h.loading
  · rw [hundrawn]
    simp only [present, happeared] at hcharged ⊢
    omega

theorem Reports.step (h : Reports start p) {action : PermissionPopupAction}
    (hstep : p.step clock action = some q) : Reports start q := by
  cases action with
  | appear =>
      simp only [PermissionPopup.step] at hstep
      split at hstep
      · cases hstep
      · rename_i happeared
        obtain rfl := Option.some.inj hstep
        refine h.of_handled rfl rfl ?_
        have hsame : (p.present { p.view with appeared := true }).undrawn = p.undrawn := rfl
        rw [hsame, Bool.eq_false_of_not_eq_true happeared]
        exact Nat.le_refl _
  | draw =>
      simp only [PermissionPopup.step] at hstep
      split at hstep
      · exact Option.some.inj hstep ▸ h
      · rename_i hchanged
        obtain rfl := Option.some.inj hstep
        refine h.of_handled rfl rfl ?_
        have hdrawn : (p.present { p.view with drawnStatus := p.status }).undrawn = 0 := if_pos rfl
        have hundrawn : p.undrawn = 1 := if_neg hchanged
        rw [hdrawn, hundrawn]
        change 0 + p.view.appeared.toNat + 1 ≤ 1 + p.view.appeared.toNat
        omega
  | tapAllow =>
      simp only [PermissionPopup.step] at hstep
      split at hstep
      · rename_i htap
        obtain rfl := Option.some.inj hstep
        have hidle : p.view.isLoading = false := by
          simp only [LocationPermissionView.canTap, Bool.and_eq_true, Bool.not_eq_true'] at htap
          exact htap.2
        have hloading := h.loading
        rw [hidle] at hloading
        refine ⟨h.published, h.status, ?_, h.charged⟩
        simp only [TaskPool.add, List.length_append, List.length_singleton, Bool.toNat_true]
        simp only [Bool.toNat_false] at hloading
        omega
      · cases hstep
  | runRequest answer =>
      obtain ⟨location, hrun, rfl⟩ := Option.map_eq_some_iff.mp hstep
      change p.location.run (MultiLocationWorld.turn answer) 0 = some location at hrun
      refine h.of_hears (MultiLocation.hears_run hrun) rfl rfl ?_
      obtain ⟨before, call, after, -, htasks, rfl⟩ := TaskPool.run_eq_some hrun
      -- the request is the only call on the way, and has gone on or returned
      have hloading := h.loading
      have hone : p.view.isLoading.toNat ≤ 1 := Bool.toNat_le _
      rw [htasks, List.length_append, List.length_cons] at hloading
      have hbefore : before = [] := List.eq_nil_of_length_eq_zero (by omega)
      have hafter : after = [] := List.eq_nil_of_length_eq_zero (by omega)
      have hreturned : p.returned.toNat = 0 := by omega
      rw [htasks, hbefore, hafter, hreturned]
      cases (p.location.shared.turn answer call).2 <;> rfl
  | finishRequest =>
      simp only [PermissionPopup.step] at hstep
      split at hstep
      · rename_i hreturned
        obtain rfl := Option.some.inj hstep
        have hloading := h.loading
        have hone : p.view.isLoading.toNat ≤ 1 := Bool.toNat_le _
        rw [hreturned, Bool.toNat_true] at hloading
        have hview : (p.view.finishRequest p.status).isLoading = false
            ∧ (p.view.finishRequest p.status).drawnStatus = p.view.drawnStatus
            ∧ (p.view.finishRequest p.status).appeared = p.view.appeared
            ∧ (p.view.finishRequest p.status).granted ≤ p.view.granted + 1 := by
          unfold LocationPermissionView.finishRequest
          split
          · exact ⟨rfl, rfl, rfl, Nat.le_refl _⟩
          · exact ⟨rfl, rfl, rfl, Nat.le_succ _⟩
        obtain ⟨hidle, hdrawn, happeared, hreport⟩ := hview
        refine h.of_view rfl ?_ ?_
        · simp only [hidle, Bool.toNat_false]
          omega
        · have hundrawn : undrawn ⟨p.view.finishRequest p.status, p.location, false, p.finished + 1⟩
              = p.undrawn := by
            unfold undrawn
            change (if p.status = (p.view.finishRequest p.status).drawnStatus then 0 else 1) = _
            rw [hdrawn]
          rw [hundrawn, happeared]
          change (p.view.finishRequest p.status).granted + p.undrawn + p.finished
              + p.view.appeared.toNat ≤ p.view.granted + p.undrawn + (p.finished + 1) + _
          omega
      · cases hstep
  | tapNotNow =>
      simp only [PermissionPopup.step] at hstep
      split at hstep
      · obtain rfl := Option.some.inj hstep
        exact ⟨h.published, h.status, h.loading, h.charged⟩
      · cases hstep
  | openSettings =>
      simp only [PermissionPopup.step] at hstep
      split at hstep
      · obtain rfl := Option.some.inj hstep
        exact ⟨h.published, h.status, h.loading, h.charged⟩
      · cases hstep
  | cancelSettings =>
      simp only [PermissionPopup.step] at hstep
      split at hstep
      · obtain rfl := Option.some.inj hstep
        exact ⟨h.published, h.status, h.loading, h.charged⟩
      · cases hstep
  | primary event =>
      obtain ⟨location, hevent, rfl⟩ := Option.map_eq_some_iff.mp hstep
      obtain ⟨⟨heard, hhears⟩, htasks⟩ := MultiLocation.hears_primary hevent
      exact h.of_hears hhears rfl rfl (by rw [htasks])
  | firstServiceCheck enabled status =>
      obtain ⟨location, hcheck, rfl⟩ := Option.map_eq_some_iff.mp hstep
      obtain ⟨hhears, htasks⟩ := MultiLocation.hears_firstServiceCheck hcheck
      exact h.of_hears hhears rfl rfl (by rw [htasks])

/-- A report is made where the status grants access. -/
theorem isAuthorized_of_step {action : PermissionPopupAction} (hstep : p.step clock action = some q)
    (hgranted : q.view.granted ≠ p.view.granted) : p.status.isAuthorized = true := by
  by_contra hstatus
  have hdenied : p.status.isAuthorized = false := Bool.eq_false_of_not_eq_true hstatus
  have hhandled : ∀ view : LocationPermissionView, view.granted = p.view.granted →
      (view.handlePermissionStatusChange p.status).granted = p.view.granted := by
    intro view hview
    obtain ⟨showing, hsame⟩ := view.handlePermissionStatusChange_of_not_authorized hdenied
    rw [hsame]
    exact hview
  apply hgranted
  cases action with
  | appear =>
      simp only [PermissionPopup.step] at hstep
      split at hstep
      · cases hstep
      · exact Option.some.inj hstep ▸ hhandled _ rfl
  | draw =>
      simp only [PermissionPopup.step] at hstep
      split at hstep
      · exact Option.some.inj hstep ▸ rfl
      · exact Option.some.inj hstep ▸ hhandled _ rfl
  | finishRequest =>
      simp only [PermissionPopup.step] at hstep
      split at hstep
      · obtain rfl := Option.some.inj hstep
        simp only [p.view.finishRequest_of_not_authorized hdenied]
      · cases hstep
  | tapAllow | tapNotNow | openSettings | cancelSettings =>
      simp only [PermissionPopup.step] at hstep
      split at hstep
      · exact Option.some.inj hstep ▸ rfl
      · cases hstep
  | runRequest | primary | firstServiceCheck =>
      obtain ⟨location, -, rfl⟩ := Option.map_eq_some_iff.mp hstep
      rfl

/-- A request that goes on reports a grant, or asks for the settings. -/
theorem finishRequest_step (clock : Clock Date) (hstep : p.step clock .finishRequest = some q) :
    (p.status.isAuthorized = true → q.view.granted = p.view.granted + 1)
      ∧ (p.status.isAuthorized = false → q.view.showingSettings = true) := by
  simp only [PermissionPopup.step] at hstep
  split at hstep
  · obtain rfl := Option.some.inj hstep
    constructor
    · intro hstatus
      simp only [p.view.finishRequest_of_authorized hstatus]
      rfl
    · intro hstatus
      simp only [p.view.finishRequest_of_not_authorized hstatus]
  · cases hstep

theorem Reports.isLoading_iff (h : Reports start p) :
    p.view.isLoading = true ↔ p.location.tasks ≠ [] ∨ p.returned = true := by
  have hloading := h.loading
  rw [← List.length_pos_iff]
  constructor
  · intro hview
    cases hreturned : p.returned with
    | true => exact .inr rfl
    | false =>
        rw [hview, hreturned, Bool.toNat_true, Bool.toNat_false] at hloading
        exact .inl (by omega)
  · intro hflight
    by_contra hview
    rw [Bool.eq_false_of_not_eq_true hview, Bool.toNat_false] at hloading
    rcases hflight with htasks | hreturned
    · omega
    · rw [hreturned, Bool.toNat_true] at hloading
      omega

theorem reports_of_exec {actions : List PermissionPopupAction}
    (hexec : (permissionPopup clock).exec start actions = some p) (hstart : Reports start start) :
    Reports start p :=
  Machine.exec_relates (m := permissionPopup clock) (fun s t => Reports start s → Reports start t)
    (fun _ => True) (fun _ => id) (fun _ _ _ hst htu => htu ∘ hst) (fun _ _ _ _ => id)
    (fun _ _ _ hstep _ hs => hs.step hstep) hexec trivial hstart

/-- **The popup reports what Core Location has published** and nothing else: each report is made
where the last status published grants access, and a request that has returned reports a grant
there and asks for the settings elsewhere. So a permission that was given before the popup was
opened, or that only the fallback has granted, is not reported. The reports are no more than the
statuses published, the requests that have gone on and the one appearance. -/
theorem popup_reports_published {actions : List PermissionPopupAction}
    (hstart : (permissionPopup clock).Init start)
    (hexec : (permissionPopup clock).exec start actions = some p) :
    (∀ x ∈ (permissionPopup clock).transitions start actions,
        (x.2.2.view.granted ≠ x.1.view.granted → HeardGrant start x.1)
          ∧ (x.2.1 = .finishRequest →
              (HeardGrant start x.1 → x.2.2.view.granted = x.1.view.granted + 1)
                ∧ (¬ HeardGrant start x.1 → x.2.2.view.showingSettings = true)))
      ∧ p.view.granted ≤ (start.heard p).length + p.finished + 1
      ∧ (p.view.isLoading = true ↔ p.location.tasks ≠ [] ∨ p.returned = true) := by
  have hopened : Reports start start := reports_of_opened hstart
  have hend : Reports start p := reports_of_exec hexec hopened
  refine ⟨?_, ?_, hend.isLoading_iff⟩
  · refine (@Machine.forall_steps_iff _ _ (permissionPopup clock) (fun _ _ => True)
      (fun s action t => (t.view.granted ≠ s.view.granted → HeardGrant start s)
        ∧ (action = .finishRequest →
            (HeardGrant start s → t.view.granted = s.view.granted + 1)
              ∧ (¬ HeardGrant start s → t.view.showingSettings = true)))
      (Reports start) ?_ ?_ actions start hopened).mpr fun _ _ => trivial
    · intro s action t hstep hs _
      exact hs.step hstep
    · intro s action t hstep hs
      refine iff_of_true ⟨?_, ?_⟩ trivial
      · intro hgranted
        exact hs.heardGrant_iff.mpr (isAuthorized_of_step hstep hgranted)
      · rintro rfl
        rw [hs.heardGrant_iff, Bool.not_eq_true]
        exact finishRequest_step clock hstep
  · have hcharged := hend.charged
    have happeared : p.view.appeared.toNat ≤ 1 := Bool.toNat_le _
    omega

/-- The system grants the request while it is on the way; the popup is drawn and reports the grant,
and the request goes on and reports it again. -/
theorem popup_reports_published_twice :
    ∃ p, (permissionPopup (Clock.ofGaps [])).exec ⟨.initial, ⟨.initial, []⟩, false, 0⟩
        [.firstServiceCheck true .notDetermined, .appear, .tapAllow,
          .primary (.didChangeAuthorization .authorizedWhenInUse), .primary (.runAuthorization 0),
          .runRequest (.error ""), .draw, .finishRequest] = some p
      ∧ p.view.granted = 2
      ∧ 2 ≤ (heard ⟨.initial, ⟨.initial, []⟩, false, 0⟩ p).length + p.finished + 1 := by
  obtain ⟨p, hexec, hgranted⟩ :
      ∃ p, (permissionPopup (Clock.ofGaps [])).exec ⟨.initial, ⟨.initial, []⟩, false, 0⟩
          [.firstServiceCheck true .notDetermined, .appear, .tapAllow,
            .primary (.didChangeAuthorization .authorizedWhenInUse),
            .primary (.runAuthorization 0), .runRequest (.error ""), .draw, .finishRequest] = some p
        ∧ p.view.granted = 2 := ⟨_, rfl, rfl⟩
  have hopened : Opened ⟨.initial, ⟨.initial, []⟩, false, 0⟩ :=
    ⟨rfl, ⟨rfl, rfl, rfl, rfl, rfl⟩, rfl, rfl, rfl, rfl⟩
  have hcharged := (popup_reports_published hopened hexec).2.1
  rw [hgranted] at hcharged
  exact ⟨p, hexec, hgranted, hcharged⟩

end PermissionPopup

end SkillTalk
