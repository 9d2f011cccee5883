import SkillTalk.Proof.LocationEvents

/-!
# When the tracking flags agree

Three objects hold a flag each, and a call may leave them apart until it returns. They agree
whenever no call is in progress if no call of one kind begins while one of the other kind is under
way, if the network fails only where the fallback tracked already, and if a denial that stops the
primary leaves the fallback tracking or a call that has still to turn to a service. Nothing weaker
will do: from any other step the calls at hand can run so that the flags end apart.
-/

namespace SkillTalk

open TaskPool

namespace LocationCall

/-- The call is one of `startTracking` or `stopTracking`. -/
@[grind]
def tracks : LocationCall → Bool
  | .requestPermission | .requestFallback | .updatePrimary _ | .updateFallback _ => false
  | _ => true

/-- A call of `startTracking` is under way. -/
@[grind]
def starting : LocationCall → Bool
  | .primaryStarted | .startFallback | .locating _ | .fallbackStarted => true
  | _ => false

/-- A call of `stopTracking` is under way. -/
@[grind]
def stopping : LocationCall → Bool
  | .primaryStopped | .fallbackStopped => true
  | _ => false

/-- The call has still to start a service, or to stop both. -/
@[grind]
def settles : LocationCall → Bool
  | .startTracking | .startFallback | .stopTracking => true
  | _ => false

/-- The call has started the fallback. -/
@[grind]
def located : LocationCall → Bool
  | .locating _ | .fallbackStarted => true
  | _ => false

@[grind →]
theorem none_of_not_tracks {call : LocationCall} (h : call.tracks = false) :
    call.starting = false ∧ call.stopping = false ∧ call.settles = false := by
  cases call <;> first | exact ⟨rfl, rfl, rfl⟩ | cases h

@[grind →]
theorem starting_of_located {call : LocationCall} (h : call.located = true) :
    call.starting = true := by
  cases call <;> first | rfl | cases h

end LocationCall

/-- The call left the fallback tracking only if it found it so. -/
def TrackingFailure.Clean (failure : TrackingFailure) : Prop :=
  failure.trackedAfter = true → failure.trackedBefore = true

/-- The flags of the wrapper and its two services. -/
structure TrackingFlags where
  wrapper : Bool
  primary : Bool
  fallback : Bool

@[grind]
def TrackingFlags.ServiceTracks (f : TrackingFlags) : Prop := f.primary = true ∨ f.fallback = true

def MultiLocationWorld.flags (w : MultiLocationWorld) : TrackingFlags where
  wrapper := w.service.isTracking
  primary := w.service.primaryService.isTracking
  fallback := w.service.fallbackService.isTracking

@[simp]
theorem MultiLocationWorld.flags_setTracking (w : MultiLocationWorld) (isTracking : Bool) :
    (w.setTracking isTracking).flags = ⟨isTracking, w.flags.primary, w.flags.fallback⟩ := rfl

namespace MultiLocation

variable {p q : MultiLocation} {clock : Clock Date}

def Quiet (p : MultiLocation) : Prop := ∀ call ∈ p.tasks, call.tracks = false

/-- With no call in progress the flags agree, and no call that threw left the fallback tracking. -/
structure TracksHonestly (p : MultiLocation) : Prop where
  agrees : p.Quiet → (p.shared.service.isTracking = true
    ↔ p.shared.service.primaryService.isTracking = true
      ∨ p.shared.service.fallbackService.isTracking = true)
  clean : ∀ failure ∈ p.shared.failures, failure.Clean

/-- A call begins while none of the other kind is under way, and the network fails a call only where
the fallback tracked before it. -/
@[grind]
def TurnsInStep (p : MultiLocation) (answer : IPLocationAnswer) : LocationCall → Prop
  | .startTracking => ∀ call ∈ p.tasks, call.stopping = false
  | .stopTracking => ∀ call ∈ p.tasks, call.starting = false
  | .locating trackedBefore => answer.isOk = false → trackedBefore = true
  | _ => True

/-- Also, a denial that finds the primary tracking finds the fallback tracking too, or a call that
has still to turn to a service. -/
def KeepsTracking (p : MultiLocation) : MultiLocationAction → Prop
  | .run index answer => ∀ call ∈ p.tasks[index]?, p.TurnsInStep answer call
  | .primary (.runAuthorization index) =>
      ∀ status ∈ p.shared.service.primaryService.authorizationTasks[index]?,
        status = .denied ∨ status = .restricted →
        p.shared.service.primaryService.isTracking = true →
        p.shared.service.fallbackService.isTracking = true ∨ ∃ call ∈ p.tasks, call.settles = true
  | _ => True

/-- A service tracks, or some call is left to settle whether one does. -/
@[grind]
def Tracked (p : MultiLocation) : Prop :=
  p.shared.flags.ServiceTracks ∨ ∃ call ∈ p.tasks, call.settles = true

/-- How the flags stand while calls are in flight. -/
structure InStep (p : MultiLocation) : Prop where
  apart : (∀ call ∈ p.tasks, call.starting = false) ∨ ∀ call ∈ p.tasks, call.stopping = false
  wrapper : p.shared.flags.wrapper = true → p.Tracked ∨ ∃ call ∈ p.tasks, call.stopping = true
  started : .primaryStarted ∈ p.tasks → p.Tracked
  primary : p.shared.flags.primary = true →
    p.shared.flags.wrapper = true ∨ .primaryStarted ∈ p.tasks
  fallback : p.shared.flags.fallback = true → p.shared.flags.wrapper = true
    ∨ .locating false ∈ p.tasks ∨ .fallbackStarted ∈ p.tasks
  located : ∀ call ∈ p.tasks, call.located = true → p.shared.flags.fallback = true
  stopped : ∀ call ∈ p.tasks, call.stopping = true → p.shared.flags.primary = false
  fallbackStopped : .fallbackStopped ∈ p.tasks → p.shared.flags.fallback = false

theorem InStep.tracksHonestly (hp : p.InStep)
    (hclean : ∀ failure ∈ p.shared.failures, failure.Clean) : p.TracksHonestly := by
  refine ⟨fun hquiet => ?_, hclean⟩
  have hnone : ∀ call ∈ p.tasks, call.starting = false ∧ call.stopping = false
      ∧ call.settles = false := fun call hmem => LocationCall.none_of_not_tracks (hquiet call hmem)
  constructor
  · intro hraised
    rcases hp.wrapper hraised with (htracked | ⟨call, hmem, hcall⟩) | ⟨call, hmem, hcall⟩
    · exact htracked
    · rw [(hnone call hmem).2.2] at hcall
      cases hcall
    · rw [(hnone call hmem).2.1] at hcall
      cases hcall
  · rintro (hprimary | hfallback)
    · rcases hp.primary hprimary with hraised | hmem
      · exact hraised
      · cases (hnone _ hmem).1
    · rcases hp.fallback hfallback with hraised | hmem | hmem
      · exact hraised
      · cases (hnone _ hmem).1
      · cases (hnone _ hmem).1

theorem InStep.add (hp : p.InStep) {call : LocationCall} (hstarting : call.starting = false)
    (hstopping : call.stopping = false) (hlocated : call.located = false) :
    InStep (p.add call) := by
  have hmem : ∀ other, other ∈ (p.add call).tasks ↔ other ∈ p.tasks ∨ other = call := by
    simp [TaskPool.add]
  obtain ⟨hapart, hwrapper, hstarted, hprimary, hfallback, hloc, hstopped, hfs⟩ := hp
  constructor <;> grind [TaskPool.add, Tracked, LocationCall.starting, LocationCall.stopping]

/-- A turn of a call that does not track leaves the flags alone. -/
theorem turn_of_not_tracks (answer : IPLocationAnswer) (w : MultiLocationWorld)
    {call : LocationCall} (hcall : call.tracks = false) :
    (w.turn answer call).1.flags = w.flags
      ∧ ∀ next ∈ (w.turn answer call).2, next.tracks = false := by
  cases call with
  | requestPermission =>
      rw [MultiLocationWorld.turn]
      split
      · exact ⟨rfl, by simp⟩
      · exact ⟨rfl, by simp [LocationCall.tracks]⟩
  | requestFallback => exact ⟨rfl, by simp [MultiLocationWorld.turn]⟩
  | updatePrimary level => exact ⟨rfl, by simp [MultiLocationWorld.turn, LocationCall.tracks]⟩
  | updateFallback level => exact ⟨rfl, by simp [MultiLocationWorld.turn]⟩
  | _ => cases hcall

/-- Only the calls that track matter. -/
theorem inStep_of_same_calls (hp : p.InStep) (hflags : q.shared.flags = p.shared.flags)
    (hcalls : ∀ call, call.tracks = true → (call ∈ q.tasks ↔ call ∈ p.tasks)) : q.InStep := by
  obtain ⟨hapart, hwrapper, hstarted, hprimary, hfallback, hlocated, hstopped, hfallbackStopped⟩ :=
    hp
  constructor <;> grind

/-- A call takes a turn, goes on as `next` if it does, and leaves these flags. -/
structure Turned (p q : MultiLocation) (call : LocationCall) (next : Option LocationCall)
    (flags : TrackingFlags) : Prop where
  flags : q.shared.flags = flags
  tasks : ∃ rest : List LocationCall, (∀ other, other ∈ p.tasks ↔ other = call ∨ other ∈ rest)
    ∧ ∀ other, other ∈ q.tasks ↔ other ∈ next ∨ other ∈ rest

theorem turned_of_run {answer : IPLocationAnswer} {index : ℕ}
    (h : p.run (MultiLocationWorld.turn answer) index = some q) :
    ∃ call, p.tasks[index]? = some call
      ∧ p.Turned q call (p.shared.turn answer call).2 (p.shared.turn answer call).1.flags := by
  obtain ⟨call, hcall, hshared, hbefore, hafter⟩ := TaskPool.exists_of_run h
  exact ⟨call, hcall, congrArg _ hshared, _, hbefore, hafter⟩

/-! ### Turns of `startTracking` -/

theorem inStep_primaryStarting (hp : p.InStep)
    (hnone : ∀ call ∈ p.tasks, call.stopping = false)
    (h : p.Turned q .startTracking (some .primaryStarted)
      ⟨p.shared.flags.wrapper, true, p.shared.flags.fallback⟩) : q.InStep := by
  obtain ⟨hflags, rest, hbefore, hafter⟩ := h
  obtain ⟨hapart, hwrapper, hstarted, hprimary, hfallback, hlocated, hstopped, hfallbackStopped⟩ :=
    hp
  constructor <;> grind

theorem inStep_fallbackStarting (hp : p.InStep)
    (hnone : ∀ call ∈ p.tasks, call.stopping = false)
    (h : p.Turned q .startTracking (some .startFallback)
      p.shared.flags) : q.InStep := by
  obtain ⟨hflags, rest, hbefore, hafter⟩ := h
  obtain ⟨hapart, hwrapper, hstarted, hprimary, hfallback, hlocated, hstopped, hfallbackStopped⟩ :=
    hp
  constructor <;> grind

theorem inStep_startFallback (hp : p.InStep)
    (h : p.Turned q .startFallback (some (.locating p.shared.flags.fallback))
      ⟨p.shared.flags.wrapper, p.shared.flags.primary, true⟩) : q.InStep := by
  obtain ⟨hflags, rest, hbefore, hafter⟩ := h
  obtain ⟨hapart, hwrapper, hstarted, hprimary, hfallback, hlocated, hstopped, hfallbackStopped⟩ :=
    hp
  constructor <;> grind

theorem inStep_answered (hp : p.InStep)
    {trackedBefore : Bool}
    (h : p.Turned q (.locating trackedBefore) (some .fallbackStarted)
      p.shared.flags) : q.InStep := by
  obtain ⟨hflags, rest, hbefore, hafter⟩ := h
  have hmem : .locating trackedBefore ∈ p.tasks := (hbefore _).mpr (.inl rfl)
  obtain ⟨hapart, hwrapper, hstarted, hprimary, hfallback, hlocated, hstopped, hfallbackStopped⟩ :=
    hp
  constructor <;> grind

/-- The fallback goes on tracking as it did before the call. -/
theorem inStep_failed (hp : p.InStep)
    (h : p.Turned q (.locating true) none
      p.shared.flags) : q.InStep := by
  obtain ⟨hflags, rest, hbefore, hafter⟩ := h
  obtain ⟨hapart, hwrapper, hstarted, hprimary, hfallback, hlocated, hstopped, hfallbackStopped⟩ :=
    hp
  constructor <;> grind

theorem inStep_raised (hp : p.InStep)
    {call : LocationCall} (hcall : call = .primaryStarted ∨ call = .fallbackStarted)
    (h : p.Turned q call none
      ⟨true, p.shared.flags.primary, p.shared.flags.fallback⟩) : q.InStep := by
  obtain ⟨hflags, rest, hbefore, hafter⟩ := h
  obtain ⟨hapart, hwrapper, hstarted, hprimary, hfallback, hlocated, hstopped, hfallbackStopped⟩ :=
    hp
  constructor <;> grind

/-! ### Turns of `stopTracking` -/

theorem inStep_stopTracking (hp : p.InStep)
    (hnone : ∀ call ∈ p.tasks, call.starting = false)
    (h : p.Turned q .stopTracking (some .primaryStopped)
      ⟨p.shared.flags.wrapper, false, p.shared.flags.fallback⟩) : q.InStep := by
  obtain ⟨hflags, rest, hbefore, hafter⟩ := h
  obtain ⟨hapart, hwrapper, hstarted, hprimary, hfallback, hlocated, hstopped, hfallbackStopped⟩ :=
    hp
  constructor <;> grind

theorem inStep_primaryStopped (hp : p.InStep)
    (h : p.Turned q .primaryStopped (some .fallbackStopped)
      ⟨p.shared.flags.wrapper, p.shared.flags.primary, false⟩) : q.InStep := by
  obtain ⟨hflags, rest, hbefore, hafter⟩ := h
  obtain ⟨hapart, hwrapper, hstarted, hprimary, hfallback, hlocated, hstopped, hfallbackStopped⟩ :=
    hp
  constructor <;> grind

theorem inStep_fallbackStopped (hp : p.InStep)
    (h : p.Turned q .fallbackStopped none
      ⟨false, p.shared.flags.primary, p.shared.flags.fallback⟩) : q.InStep := by
  obtain ⟨hflags, rest, hbefore, hafter⟩ := h
  obtain ⟨hapart, hwrapper, hstarted, hprimary, hfallback, hlocated, hstopped, hfallbackStopped⟩ :=
    hp
  constructor <;> grind

/-! ### All turns -/

theorem inStep_of_not_tracks (hp : p.InStep) {call : LocationCall} {next : Option LocationCall}
    (hcall : call.tracks = false) (hnext : ∀ other ∈ next, other.tracks = false)
    (h : p.Turned q call next p.shared.flags) : q.InStep := by
  obtain ⟨hflags, rest, hbefore, hafter⟩ := h
  refine inStep_of_same_calls hp hflags fun other htracks => ?_
  grind

/-- Each turn of a call leaves the flags in step. -/
theorem inStep_run {answer : IPLocationAnswer} {index : ℕ}
    (h : p.run (MultiLocationWorld.turn answer) index = some q) (hp : p.InStep)
    (hkeep : p.KeepsTracking (.run index answer)) : q.InStep := by
  obtain ⟨call, hcall, hturned⟩ := turned_of_run h
  have hturn : p.TurnsInStep answer call := hkeep call hcall
  have hother : call.tracks = false → q.InStep := by
    intro htracks
    obtain ⟨hflags, hnext⟩ := turn_of_not_tracks answer p.shared htracks
    rw [hflags] at hturned
    exact inStep_of_not_tracks hp htracks hnext hturned
  cases call with
  | startTracking =>
      rcases p.shared.service.primaryService.startTracking_cases with ⟨error, hstart⟩ | hstart
      · simp only [MultiLocationWorld.turn, hstart] at hturned
        exact inStep_fallbackStarting hp hturn hturned
      · simp only [MultiLocationWorld.turn, hstart] at hturned
        exact inStep_primaryStarting hp hturn hturned
  | startFallback => exact inStep_startFallback hp hturned
  | locating trackedBefore =>
      cases answer with
      | ok response => exact inStep_answered hp hturned
      | error description =>
          obtain rfl : trackedBefore = true := hturn rfl
          exact inStep_failed hp hturned
  | primaryStarted => exact inStep_raised hp (.inl rfl) hturned
  | fallbackStarted => exact inStep_raised hp (.inr rfl) hturned
  | stopTracking => exact inStep_stopTracking hp hturn hturned
  | primaryStopped => exact inStep_primaryStopped hp hturned
  | fallbackStopped => exact inStep_fallbackStopped hp hturned
  | requestPermission | requestFallback | updatePrimary | updateFallback => exact hother rfl

theorem inStep_of_flags (hp : p.InStep) (htasks : q.tasks = p.tasks)
    (hflags : q.shared.flags = p.shared.flags) : q.InStep :=
  inStep_of_same_calls hp hflags fun _ _ => by rw [htasks]

/-- A denial stops the primary, and nothing tells the wrapper. -/
theorem inStep_denied (hp : p.InStep) (htasks : q.tasks = p.tasks)
    (hflags : q.shared.flags = ⟨p.shared.flags.wrapper, false, p.shared.flags.fallback⟩)
    (hkeep : p.shared.flags.primary = true →
      p.shared.flags.fallback = true ∨ ∃ call ∈ p.tasks, call.settles = true) : q.InStep := by
  obtain ⟨hapart, hwrapper, hstarted, hprimary, hfallback, hlocated, hstopped, hfallbackStopped⟩ :=
    hp
  constructor <;> grind

theorem Observes.flags {primary : CoreLocationService} (h : p.Observes primary q) :
    q.shared.flags = ⟨p.shared.flags.wrapper, primary.isTracking, p.shared.flags.fallback⟩ := by
  rw [MultiLocationWorld.flags, h.service]
  rfl

/-- Of all that the primary hears, only a denial changes its flag. -/
theorem flags_of_primary {event : LocationAction} (h : p.step clock (.primary event) = some q)
    (hevent : ∀ index, event ≠ .runAuthorization index) : q.shared.flags = p.shared.flags := by
  obtain ⟨hmay, primary, hprimary, hq, -⟩ := observes_of_primary h
  have htracking : primary.isTracking = p.shared.service.primaryService.isTracking := by
    have huntouched : CoreLocationService.LocationOnly event →
        primary.isTracking = p.shared.service.primaryService.isTracking :=
      fun hevent => (CoreLocationService.untouched_step hevent hprimary).isTracking
    cases event with
    | startTracking | stopTracking | updatePrivacyLevel => cases hmay
    | runAuthorization index => exact absurd rfl (hevent index)
    | runServiceCheck enabled status => exact (CoreLocationService.runServiceCheck_eq hprimary).2.2
    | _ => exact huntouched trivial
  rw [hq.flags, htracking]
  rfl

theorem flags_of_authorization {index : ℕ}
    (h : p.step clock (.primary (.runAuthorization index)) = some q) :
    ∃ status, p.shared.service.primaryService.authorizationTasks[index]? = some status
      ∧ q.shared.flags = ⟨p.shared.flags.wrapper,
        if status = .denied ∨ status = .restricted then false else p.shared.flags.primary,
        p.shared.flags.fallback⟩ := by
  obtain ⟨-, primary, hprimary, hq, -⟩ := observes_of_primary h
  obtain ⟨status, hstatus, -, -, htracking⟩ := CoreLocationService.runAuthorization_eq hprimary
  exact ⟨status, hstatus, by rw [hq.flags, htracking]; rfl⟩

theorem inStep_primary {event : LocationAction} (h : p.step clock (.primary event) = some q)
    (hp : p.InStep) (hkeep : p.KeepsTracking (.primary event)) : q.InStep := by
  obtain ⟨-, _, -, hq, -⟩ := observes_of_primary h
  cases event with
  | runAuthorization index =>
      obtain ⟨status, hstatus, hflags⟩ := flags_of_authorization h
      by_cases hdenied : status = .denied ∨ status = .restricted
      · rw [if_pos hdenied] at hflags
        exact inStep_denied hp hq.tasks hflags (hkeep status hstatus hdenied)
      · rw [if_neg hdenied] at hflags
        exact inStep_of_flags hp hq.tasks hflags
  | _ => exact inStep_of_flags hp hq.tasks (flags_of_primary h (by simp))

theorem inStep_step {action : MultiLocationAction} (h : p.step clock action = some q)
    (hp : p.InStep) (hkeep : p.KeepsTracking action) : q.InStep := by
  cases action with
  | startTracking | stopTracking | requestPermission =>
      obtain rfl := Option.some.inj h
      exact hp.add rfl rfl rfl
  | updatePrivacyLevel level =>
      obtain rfl := Option.some.inj h
      have hkept : InStep ⟨{ p.shared with
          service := { p.shared.service with privacyLevel := level } }, p.tasks⟩ :=
        inStep_of_flags hp rfl rfl
      exact hkept.add rfl rfl rfl
  | run index answer => exact inStep_run h hp hkeep
  | primary event => exact inStep_primary h hp hkeep
  | firstServiceCheck enabled status =>
      obtain ⟨primary, hprimary, hq, -⟩ := observes_of_firstServiceCheck h
      obtain ⟨-, -, htracking⟩ := CoreLocationService.runServiceCheck_eq hprimary
      exact inStep_of_flags hp hq.tasks (by rw [hq.flags, htracking]; rfl)
  | fallbackLocated answer =>
      obtain rfl := Option.some.inj h
      cases answer <;> exact inStep_of_flags hp rfl rfl

theorem inStep_of_init (h : (multiLocation clock).Init p) : p.InStep := by
  obtain ⟨huncalled, htasks⟩ := h
  have hflags : p.shared.flags = ⟨false, false, false⟩ := by
    rw [MultiLocationWorld.flags, huncalled.service, huncalled.primary, huncalled.fallback]
  constructor <;> simp [htasks, hflags]

/-! ### Calls that throw -/

def Clean (p : MultiLocation) : Prop := ∀ failure ∈ p.shared.failures, failure.Clean

/-- Only the network makes a call throw. -/
theorem failures_turn (answer : IPLocationAnswer) (w : MultiLocationWorld) (call : LocationCall) :
    (w.turn answer call).1.failures = w.failures
      ∨ ∃ error trackedBefore, call = .locating trackedBefore ∧ answer.isOk = false
        ∧ (w.turn answer call).1.failures
          = w.failures ++ [⟨error, trackedBefore, w.flags.fallback⟩] := by
  cases call with
  | locating trackedBefore =>
      cases answer with
      | ok response => exact .inl rfl
      | error description => exact .inr ⟨_, trackedBefore, rfl, rfl, rfl⟩
  | startTracking | requestPermission =>
      rw [MultiLocationWorld.turn]
      split <;> exact .inl rfl
  | _ => exact .inl rfl

theorem clean_run {answer : IPLocationAnswer} {index : ℕ}
    (h : p.run (MultiLocationWorld.turn answer) index = some q) (hp : p.Clean)
    (hkeep : p.KeepsTracking (.run index answer)) : q.Clean := by
  obtain ⟨call, hcall, hshared, -⟩ := TaskPool.exists_of_run h
  rw [Clean, hshared]
  rcases failures_turn answer p.shared call with
    hsame | ⟨error, trackedBefore, rfl, hfailed, hthrew⟩
  · rw [hsame]
    exact hp
  · have htracked : trackedBefore = true := hkeep _ hcall hfailed
    rw [hthrew, List.forall_mem_append, List.forall_mem_singleton]
    exact ⟨hp, fun _ => htracked⟩

theorem clean_step {action : MultiLocationAction} (h : p.step clock action = some q)
    (hp : p.Clean) (hkeep : p.KeepsTracking action) : q.Clean := by
  cases action with
  | startTracking | stopTracking | requestPermission | updatePrivacyLevel | fallbackLocated =>
      obtain rfl := Option.some.inj h
      exact hp
  | run index answer => exact clean_run h hp hkeep
  | primary event =>
      obtain ⟨-, _, -, hq, -⟩ := observes_of_primary h
      rw [Clean, hq.failures]
      exact hp
  | firstServiceCheck enabled status =>
      obtain ⟨_, -, hq, -⟩ := observes_of_firstServiceCheck h
      rw [Clean, hq.failures]
      exact hp

theorem inStep_of_reachableWhere (hp : (multiLocation clock).ReachableWhere KeepsTracking p) :
    p.InStep := by
  refine hp.invariant InStep (fun _ => inStep_of_init) ?_
  intro p action q _ hinStep hkeep hstep
  exact inStep_step hstep hinStep hkeep

theorem clean_of_reachableWhere (hp : (multiLocation clock).ReachableWhere KeepsTracking p) :
    p.Clean := by
  refine hp.invariant Clean ?_ ?_
  · intro p hinit
    simp [Clean, hinit.1.failures]
  · intro p action q _ hclean hkeep hstep
    exact clean_step hstep hclean hkeep

/-! ### What any other step leads to -/

/-- A network that answers. -/
def answered : IPLocationAnswer := .ok (⟨0, 0, none, none, none, none, none⟩, 0)

abbrev Leads (p q : MultiLocation) : Prop := Runs (MultiLocationWorld.turn answered) p q

theorem leads_turn (w : MultiLocationWorld) (before : List LocationCall) (call : LocationCall)
    (after : List LocationCall) : Leads ⟨w, before ++ call :: after⟩
      ⟨(w.turn answered call).1, before ++ (w.turn answered call).2.toList ++ after⟩ :=
  runs_between w before call after

theorem exec_run {start : MultiLocation} {indices : List ℕ}
    (h : (machine (MultiLocationWorld.turn answered) start).exec p indices = some q) :
    (multiLocation clock).exec p (indices.map (.run · answered)) = some q := by
  induction indices generalizing p with
  | nil => exact h
  | cons index indices ih =>
      obtain ⟨t, hstep, hrest⟩ := Machine.exec_cons_eq_some h
      exact Option.bind_eq_some_iff.mpr ⟨t, hstep, ih hrest⟩

def turnsLeft : LocationCall → ℕ
  | .startTracking => 4
  | .startFallback | .stopTracking => 3
  | .locating _ | .primaryStopped | .requestPermission | .updatePrimary _ => 2
  | .primaryStarted | .fallbackStarted | .fallbackStopped | .requestFallback
  | .updateFallback _ => 1

theorem turnsLeft_turn (w : MultiLocationWorld) (call : LocationCall) :
    (((w.turn answered call).2.toList).map turnsLeft).sum < turnsLeft call := by
  cases call with
  | startTracking | requestPermission =>
      rw [MultiLocationWorld.turn]
      split <;> simp [turnsLeft]
  | locating trackedBefore => exact Nat.one_lt_two
  | _ => simp [MultiLocationWorld.turn, turnsLeft]

/-- The call's last turn writes the flag. -/
def Writes (call : LocationCall) (isTracking : Bool) : Prop :=
  ∀ w : MultiLocationWorld, w.turn answered call = (w.setTracking isTracking, none)

/-- A call under way comes to its last turn while the others wait. -/
theorem exists_leads_last (w : MultiLocationWorld) (before after : List LocationCall)
    {call : LocationCall} (hcall : call.starting = true ∨ call.stopping = true) :
    ∃ v last, Writes last call.starting
      ∧ Leads ⟨w, before ++ call :: after⟩ ⟨v, before ++ last :: after⟩ := by
  have hturn : ∀ (w : MultiLocationWorld) {next : LocationCall} (call : LocationCall),
      (w.turn answered call).2 = some next →
        Leads ⟨w, before ++ call :: after⟩ ⟨(w.turn answered call).1, before ++ next :: after⟩ := by
    intro w next call hnext
    have hrun := leads_turn w before call after
    rwa [hnext, Option.toList_some, List.append_assoc, List.singleton_append] at hrun
  cases call with
  | primaryStarted | fallbackStarted | fallbackStopped => exact ⟨w, _, fun _ => rfl, .refl⟩
  | locating trackedBefore => exact ⟨_, .fallbackStarted, fun _ => rfl, hturn w _ rfl⟩
  | startFallback =>
      have hstarted := hturn w .startFallback rfl
      exact ⟨_, .fallbackStarted, fun _ => rfl, hstarted.trans (hturn _ (.locating _) rfl)⟩
  | primaryStopped => exact ⟨_, .fallbackStopped, fun _ => rfl, hturn w _ rfl⟩
  | startTracking | stopTracking | requestPermission | requestFallback | updatePrimary
  | updateFallback => rcases hcall with hcall | hcall <;> cases hcall

/-- With no call left the flag is wrong. -/
theorem not_tracksHonestly {w : MultiLocationWorld}
    (h : w.flags.wrapper ≠ (w.flags.primary || w.flags.fallback)) :
    ¬ TracksHonestly ⟨w, []⟩ := by
  intro hhonest
  have hagrees := hhonest.agrees (by simp [Quiet])
  refine h (Bool.eq_iff_iff.mpr ?_)
  rw [Bool.or_eq_true]
  exact hagrees

/-- Two calls that write different flags can end with the wrong one. -/
theorem exists_leads_dishonest_of_last (w : MultiLocationWorld) {x y : LocationCall} {a b : Bool}
    (hx : Writes x a) (hy : Writes y b) (hne : a ≠ b) :
    ∃ r, Leads ⟨w, [x, y]⟩ r ∧ ¬ r.TracksHonestly := by
  have hfirst : Leads ⟨w, [x, y]⟩ ⟨w.setTracking a, [y]⟩ := by
    have hrun := leads_turn w [] x [y]
    rwa [hx w] at hrun
  have hsecond : Leads ⟨w, [x, y]⟩ ⟨w.setTracking b, [x]⟩ := by
    have hrun := leads_turn w [x] y []
    rwa [hy w] at hrun
  have hend : ∀ (v : MultiLocationWorld) {last : LocationCall} {isTracking : Bool},
      Writes last isTracking → Leads ⟨v, [last]⟩ ⟨v.setTracking isTracking, []⟩ := by
    intro v last isTracking hlast
    have hrun := leads_turn v [] last []
    rwa [hlast v] at hrun
  by_cases hb : b = (w.flags.primary || w.flags.fallback)
  · refine ⟨_, hsecond.trans (hend _ hx), not_tracksHonestly fun ha => hne ?_⟩
    exact ha.trans hb.symm
  · exact ⟨_, hfirst.trans (hend _ hy), not_tracksHonestly hb⟩

theorem exists_leads_dishonest_of_pair (w : MultiLocationWorld) {x y : LocationCall}
    (hx : x.starting = true ∨ x.stopping = true) (hy : y.starting = true ∨ y.stopping = true)
    (hne : x.starting ≠ y.starting) : ∃ r, Leads ⟨w, [x, y]⟩ r ∧ ¬ r.TracksHonestly := by
  obtain ⟨v, lastX, hwritesX, hrunX⟩ := exists_leads_last w [] [y] hx
  obtain ⟨u, lastY, hwritesY, hrunY⟩ := exists_leads_last v [lastX] [] hy
  obtain ⟨r, hrun, hr⟩ := exists_leads_dishonest_of_last u hwritesX hwritesY hne
  exact ⟨r, (hrunX.trans hrunY).trans hrun, hr⟩

/-- A start and a stop under way together can end with the flag wrong. -/
theorem exists_leads_dishonest_of_overlap {x y : LocationCall} (hx : x ∈ q.tasks) (hy : y ∈ q.tasks)
    (hstarting : x.starting = true) (hstopping : y.stopping = true) :
    ∃ r, Leads q r ∧ ¬ r.TracksHonestly := by
  have hy' : y.starting = false := by
    cases y <;> first | rfl | cases hstopping
  have hstart : x.starting ≠ y.starting := by
    rw [hstarting, hy']
    decide
  have hne : x ≠ y := fun h => hstart (congrArg _ h)
  obtain ⟨w, hruns | hruns⟩ := exists_runs_pair turnsLeft_turn hne hx hy
  · obtain ⟨r, hrun, hr⟩ :=
      exists_leads_dishonest_of_pair w (.inl hstarting) (.inr hstopping) hstart
    exact ⟨r, hruns.trans hrun, hr⟩
  · obtain ⟨r, hrun, hr⟩ :=
      exists_leads_dishonest_of_pair w (.inr hstopping) (.inl hstarting) hstart.symm
    exact ⟨r, hruns.trans hrun, hr⟩

/-- The wrapper's flag is up, no service tracks, and the calls left will not change that. -/
theorem exists_leads_dishonest_of_raised (w : MultiLocationWorld) (tasks : List LocationCall)
    (hflags : w.flags = ⟨true, false, false⟩)
    (hcalls : ∀ call ∈ tasks, call = .primaryStarted ∨ call.tracks = false) :
    ∃ r, Leads ⟨w, tasks⟩ r ∧ ¬ r.TracksHonestly := by
  have hkeep : ∀ (w : MultiLocationWorld) (call : LocationCall), w.flags = ⟨true, false, false⟩ →
      call = .primaryStarted ∨ call.tracks = false →
      (w.turn answered call).1.flags = ⟨true, false, false⟩
        ∧ ∀ next ∈ (w.turn answered call).2, next = .primaryStarted ∨ next.tracks = false := by
    rintro w call hflags (rfl | hcall)
    · simp [MultiLocationWorld.turn, hflags]
    · obtain ⟨hsame, hnext⟩ := turn_of_not_tracks answered w hcall
      exact ⟨hsame.trans hflags, fun next hmem => .inr (hnext next hmem)⟩
  obtain ⟨v, hv, hruns⟩ := exists_runs_sublist (K := fun w => w.flags = ⟨true, false, false⟩)
    turnsLeft_turn hkeep (List.nil_sublist tasks) [] hflags hcalls
  refine ⟨_, hruns, not_tracksHonestly ?_⟩
  simp [hv]

/-- A denial that stops the primary, with no call to come that would start a service. -/
theorem exists_leads_dishonest_of_denied (hp : p.InStep) (htasks : q.tasks = p.tasks)
    (hflags : q.shared.flags = ⟨p.shared.flags.wrapper, false, p.shared.flags.fallback⟩)
    (hprimary : p.shared.flags.primary = true) (hfallback : p.shared.flags.fallback = false)
    (hsettles : ∀ call ∈ p.tasks, call.settles = false) :
    ∃ r, Leads q r ∧ ¬ r.TracksHonestly := by
  have hcalls : ∀ call ∈ q.tasks, call = .primaryStarted ∨ call.tracks = false := by
    intro call hmem
    rw [htasks] at hmem
    have hsettle := hsettles call hmem
    have hlocated := hp.located call hmem
    have hstopped := hp.stopped call hmem
    cases call <;> grind [LocationCall.tracks]
  rcases hp.primary hprimary with hraised | hstarted
  · exact exists_leads_dishonest_of_raised q.shared q.tasks (by rw [hflags, hraised, hfallback])
      hcalls
  · rw [← htasks] at hstarted
    obtain ⟨before, after, hsplit⟩ := List.append_of_mem hstarted
    have hrun : Leads ⟨q.shared, before ++ .primaryStarted :: after⟩
        ⟨q.shared.setTracking true, before ++ [] ++ after⟩ :=
      leads_turn q.shared before .primaryStarted after
    rw [← hsplit, List.append_nil] at hrun
    have hrest : ∀ call ∈ before ++ after, call = .primaryStarted ∨ call.tracks = false := by
      intro call hmem
      refine hcalls call ?_
      rw [hsplit]
      grind
    obtain ⟨r, hruns, hr⟩ := exists_leads_dishonest_of_raised (q.shared.setTracking true)
      (before ++ after) (by simp [hflags, hfallback]) hrest
    exact ⟨r, hrun.trans hruns, hr⟩

/-- A call that throws leaves a trace if it left the fallback tracking. -/
theorem not_tracksHonestly_of_failed {description : String} {index : ℕ} (hp : p.InStep)
    (h : p.run (MultiLocationWorld.turn (.error description)) index = some q)
    (hcall : p.tasks[index]? = some (.locating false)) : ¬ q.TracksHonestly := by
  intro hhonest
  obtain ⟨call, htask, hshared, -⟩ := TaskPool.exists_of_run h
  obtain rfl : .locating false = call := Option.some.inj (hcall.symm.trans htask)
  have hfallback : p.shared.flags.fallback = true :=
    hp.located _ (List.mem_of_getElem? hcall) rfl
  obtain ⟨error, hthrew⟩ : ∃ error, q.shared.failures
      = p.shared.failures ++ [⟨error, false, p.shared.flags.fallback⟩] := by
    rw [hshared]
    exact ⟨_, rfl⟩
  have hclean := hhonest.clean ⟨error, false, p.shared.flags.fallback⟩ (by simp [hthrew])
  cases hclean hfallback

theorem exists_leads_dishonest_of_run {answer : IPLocationAnswer} {index : ℕ} (hp : p.InStep)
    (h : p.run (MultiLocationWorld.turn answer) index = some q)
    (hbreak : ¬ p.KeepsTracking (.run index answer)) : ∃ r, Leads q r ∧ ¬ r.TracksHonestly := by
  obtain ⟨call, hcall, -, hbefore, hafter⟩ := TaskPool.exists_of_run h
  have hturn : ¬ p.TurnsInStep answer call := by
    simpa [KeepsTracking, hcall] using hbreak
  cases call with
  | startTracking =>
      obtain ⟨other, hmem, hother⟩ : ∃ call ∈ p.tasks, call.stopping = true := by
        simpa [TurnsInStep] using hturn
      have hstays : other ∈ q.tasks := by grind
      obtain ⟨next, hnext, hstarting⟩ :
          ∃ next ∈ (p.shared.turn answer .startTracking).2, next.starting = true := by
        rcases p.shared.service.primaryService.startTracking_cases with ⟨error, hstart⟩ | hstart
        · exact ⟨.startFallback, by simp [MultiLocationWorld.turn, hstart], rfl⟩
        · exact ⟨.primaryStarted, by simp [MultiLocationWorld.turn, hstart], rfl⟩
      exact exists_leads_dishonest_of_overlap ((hafter next).mpr (.inl hnext)) hstays hstarting
        hother
  | stopTracking =>
      obtain ⟨other, hmem, hother⟩ : ∃ call ∈ p.tasks, call.starting = true := by
        simpa [TurnsInStep] using hturn
      have hstays : other ∈ q.tasks := by grind
      have hnext : .primaryStopped ∈ q.tasks := (hafter _).mpr (.inl rfl)
      exact exists_leads_dishonest_of_overlap hstays hnext hother rfl
  | locating trackedBefore =>
      cases answer with
      | ok response => exact absurd (fun hfailed => by cases hfailed) hturn
      | error description =>
          cases trackedBefore with
          | false => exact ⟨q, .refl, not_tracksHonestly_of_failed hp h hcall⟩
          | true => exact absurd (fun _ => rfl) hturn
  | _ => exact absurd trivial hturn

theorem exists_leads_dishonest_of_primary {event : LocationAction} (hp : p.InStep)
    (h : p.step clock (.primary event) = some q) (hbreak : ¬ p.KeepsTracking (.primary event)) :
    ∃ r, Leads q r ∧ ¬ r.TracksHonestly := by
  obtain ⟨-, _, -, hq, -⟩ := observes_of_primary h
  cases event with
  | runAuthorization index =>
      obtain ⟨status, hstatus, hdenied, hprimary, hfallback, hsettles⟩ : ∃ status,
          p.shared.service.primaryService.authorizationTasks[index]? = some status
            ∧ (status = .denied ∨ status = .restricted)
            ∧ p.shared.service.primaryService.isTracking = true
            ∧ p.shared.service.fallbackService.isTracking = false
            ∧ ∀ call ∈ p.tasks, call.settles = false := by
        simpa [KeepsTracking] using hbreak
      obtain ⟨heard, hheard, hflags⟩ := flags_of_authorization h
      obtain rfl : status = heard := Option.some.inj (hstatus.symm.trans hheard)
      rw [if_pos hdenied] at hflags
      exact exists_leads_dishonest_of_denied hp hq.tasks hflags hprimary hfallback hsettles
  | _ => exact absurd trivial hbreak

/-- A step that does not keep the flags in step can end with them apart. -/
theorem exists_leads_dishonest {action : MultiLocationAction} (hp : p.InStep)
    (h : p.step clock action = some q) (hbreak : ¬ p.KeepsTracking action) :
    ∃ r, Leads q r ∧ ¬ r.TracksHonestly := by
  cases action with
  | run index answer => exact exists_leads_dishonest_of_run hp h hbreak
  | primary event => exact exists_leads_dishonest_of_primary hp h hbreak
  | _ => exact absurd trivial hbreak

/-- **The tracking flag is honest** in every run in which calls of one kind begin apart from those
of the other, the network fails only a fallback that tracked before, and a denial finds the primary
idle, the fallback tracking, or a call that has still to turn to a service. From any other step the
calls at hand can run to a state where it is not. -/
theorem tracking_honest (hp : (multiLocation clock).ReachableWhere KeepsTracking p) :
    p.TracksHonestly
      ∧ ∀ action q, p.step clock action = some q → ¬ p.KeepsTracking action →
          ∃ actions r, (multiLocation clock).exec q actions = some r ∧ ¬ r.TracksHonestly := by
  have hinStep : p.InStep := inStep_of_reachableWhere hp
  refine ⟨hinStep.tracksHonestly (clean_of_reachableWhere hp), ?_⟩
  intro action q hstep hbreak
  obtain ⟨r, hruns, hr⟩ := exists_leads_dishonest hinStep hstep hbreak
  obtain ⟨indices, hexec⟩ := exists_exec_of_runs hruns q
  exact ⟨_, r, exec_run hexec, hr⟩

instance (p : MultiLocation) (answer : IPLocationAnswer) :
    (call : LocationCall) → Decidable (p.TurnsInStep answer call)
  | .startTracking => inferInstanceAs (Decidable (∀ call ∈ p.tasks, call.stopping = false))
  | .stopTracking => inferInstanceAs (Decidable (∀ call ∈ p.tasks, call.starting = false))
  | .locating trackedBefore =>
      inferInstanceAs (Decidable (answer.isOk = false → trackedBefore = true))
  | .primaryStarted | .startFallback | .fallbackStarted | .primaryStopped | .fallbackStopped
  | .requestPermission | .requestFallback | .updatePrimary _ | .updateFallback _ =>
      inferInstanceAs (Decidable True)

instance (p : MultiLocation) : (action : MultiLocationAction) → Decidable (p.KeepsTracking action)
  | .run index answer =>
      inferInstanceAs (Decidable (∀ call ∈ p.tasks[index]?, p.TurnsInStep answer call))
  | .primary (.runAuthorization index) =>
      inferInstanceAs (Decidable (∀ status ∈
        p.shared.service.primaryService.authorizationTasks[index]?,
          status = .denied ∨ status = .restricted →
          p.shared.service.primaryService.isTracking = true →
          p.shared.service.fallbackService.isTracking = true
            ∨ ∃ call ∈ p.tasks, call.settles = true))
  | .startTracking | .stopTracking | .requestPermission | .updatePrivacyLevel _
  | .firstServiceCheck _ _ | .fallbackLocated _ => inferInstanceAs (Decidable True)
  | .primary .getCurrentLocation | .primary .startTracking | .primary .stopTracking
  | .primary (.updatePrivacyLevel _) | .primary (.didUpdateLocations _)
  | .primary (.didFailWithError _) | .primary (.didChangeAuthorization _)
  | .primary .locationManagerDidChangeAuthorization | .primary (.runTimeout _)
  | .primary (.runUpdate _) | .primary (.finishGeocoding _ _) | .primary (.runFailure _)
  | .primary .runAuthorizationCheck | .primary (.runServiceCheck _ _) =>
      inferInstanceAs (Decidable True)

/-- The fallback tracks, and goes on when the network fails a second call; then the primary tracks
as well, and a denial stops it. -/
def deniedWhileBothTrack : List MultiLocationAction :=
  [.startTracking, .run 0 answered, .run 0 answered, .run 0 answered, .run 0 answered,
    .startTracking, .run 0 answered, .run 0 answered, .run 0 (.error "offline"),
    .firstServiceCheck true .authorizedWhenInUse, .startTracking, .run 0 answered, .run 0 answered,
    .primary (.didChangeAuthorization .denied), .primary (.runAuthorization 0)]

theorem tracking_honest_of_denied :
    ∃ p, (multiLocation (Clock.ofGaps [])).exec ⟨.initial, []⟩ deniedWhileBothTrack = some p
      ∧ p.tasks = [] ∧ p.shared.service.isTracking = true ∧ p.shared.failures.length = 1
      ∧ p.TracksHonestly := by
  obtain ⟨p, hexec, htasks, hraised, hfailed⟩ :
      ∃ p, (multiLocation (Clock.ofGaps [])).exec ⟨.initial, []⟩ deniedWhileBothTrack = some p
        ∧ p.tasks = [] ∧ p.shared.service.isTracking = true ∧ p.shared.failures.length = 1 :=
    ⟨_, rfl, rfl, rfl, rfl⟩
  have hp : (multiLocation (Clock.ofGaps [])).ReachableWhere KeepsTracking p := by
    refine Machine.reachableWhere_of_exec ⟨⟨rfl, rfl, rfl, rfl, rfl⟩, rfl⟩ deniedWhileBothTrack
      hexec ?_
    decide +kernel
  exact ⟨p, hexec, htasks, hraised, hfailed, (tracking_honest hp).1⟩

/-- Both services fail, and the fallback goes on tracking. -/
theorem tracking_after_failure :
    ¬ ∀ (clock : Clock Date) (start p : MultiLocation) (actions : List MultiLocationAction),
      (multiLocation clock).Init start → (multiLocation clock).exec start actions = some p →
        p.TracksHonestly := by
  intro h
  obtain ⟨p, hexec, htasks, hlowered, hfallback⟩ :
      ∃ p, (multiLocation (Clock.ofGaps [])).exec ⟨.initial, []⟩
          [.startTracking, .run 0 (.error "offline"), .run 0 (.error "offline"),
            .run 0 (.error "offline")] = some p
        ∧ p.tasks = [] ∧ p.shared.service.isTracking = false
        ∧ p.shared.service.fallbackService.isTracking = true := ⟨_, rfl, rfl, rfl, rfl⟩
  have hhonest : p.TracksHonestly := h _ _ p _ ⟨⟨rfl, rfl, rfl, rfl, rfl⟩, rfl⟩ hexec
  have hquiet : p.Quiet := by simp [Quiet, htasks]
  have hraised : p.shared.service.isTracking = true :=
    (hhonest.agrees hquiet).mpr (.inr hfallback)
  rw [hlowered] at hraised
  cases hraised

end MultiLocation

end SkillTalk
