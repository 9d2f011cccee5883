import SkillTalk.MultiLocationService

/-!
# The popup that asks for the location

The popup has a `MultiLocationService` of its own. Its Allow button starts a request, and once the
request has returned the popup reads what came of it from the status that the service has heard of.
It reads that status when it appears, too, and when it is drawn for the first time after a change.
What it finds it reports to the screen below through two callbacks.

A popup that is dismissed, or under its alert, takes no taps. A request may still return to it, and
it may still be drawn.
-/

namespace SkillTalk

structure LocationPermissionView where
  showingSettings : Bool
  isLoading : Bool
  appeared : Bool
  dismissed : Bool
  -- the status that `onChange` saw last
  drawnStatus : CLAuthorizationStatus
  -- the calls of `onPermissionGranted` and of `onPermissionDenied`
  granted : ℕ
  denied : ℕ

namespace LocationPermissionView

def initial : LocationPermissionView where
  showingSettings := false
  isLoading := false
  appeared := false
  dismissed := false
  drawnStatus := .notDetermined
  granted := 0
  denied := 0

def onPermissionGranted (v : LocationPermissionView) : LocationPermissionView :=
  { v with granted := v.granted + 1, dismissed := true }

def onPermissionDenied (v : LocationPermissionView) : LocationPermissionView :=
  { v with denied := v.denied + 1, dismissed := true }

def handlePermissionStatusChange (v : LocationPermissionView) :
    CLAuthorizationStatus → LocationPermissionView
  | .authorizedWhenInUse | .authorizedAlways => v.onPermissionGranted
  | .denied | .restricted => { v with showingSettings := true }
  | .notDetermined => v

def checkLocationStatus (v : LocationPermissionView) (status : CLAuthorizationStatus) :
    LocationPermissionView :=
  { v with appeared := true }.handlePermissionStatusChange status

/-- `requestLocationPermission` from the return of the service's call on, which never throws. -/
def finishRequest (v : LocationPermissionView) (status : CLAuthorizationStatus) :
    LocationPermissionView :=
  if status = .authorizedWhenInUse ∨ status = .authorizedAlways then
    { v with isLoading := false }.onPermissionGranted
  else { v with isLoading := false, showingSettings := true }

/-- The popup itself can be tapped. -/
def canTap (v : LocationPermissionView) : Bool :=
  v.appeared && !v.dismissed && !v.showingSettings && !v.isLoading

/-- The alert can be tapped. -/
def canTapAlert (v : LocationPermissionView) : Bool :=
  v.appeared && !v.dismissed && v.showingSettings

end LocationPermissionView

/-- The popup and its service, whether a request has returned and not gone on yet, and how many have
gone on. -/
structure PermissionPopup where
  view : LocationPermissionView
  location : MultiLocation
  returned : Bool
  finished : ℕ

inductive PermissionPopupAction where
  | appear
  | draw
  | tapAllow
  | runRequest (answer : IPLocationAnswer)
  | finishRequest
  | tapNotNow
  | openSettings
  | cancelSettings
  | primary (event : LocationAction)
  | firstServiceCheck (enabled : Bool) (status : CLAuthorizationStatus)

namespace PermissionPopup

def status (p : PermissionPopup) : CLAuthorizationStatus :=
  p.location.shared.service.permissionStatus

def present (p : PermissionPopup) (view : LocationPermissionView) : PermissionPopup :=
  { p with view := view }

variable (clock : Clock Date)

def step (p : PermissionPopup) : PermissionPopupAction → Option PermissionPopup
  | .appear =>
      if p.view.appeared then none else some (p.present (p.view.checkLocationStatus p.status))
  | .draw =>
      if p.status = p.view.drawnStatus then some p
      else
        some (p.present
          ({ p.view with drawnStatus := p.status }.handlePermissionStatusChange p.status))
  | .tapAllow =>
      if p.view.canTap then
        some { p with
          view := { p.view with isLoading := true }
          location := p.location.add .requestPermission }
      else none
  | .runRequest answer =>
      (p.location.step clock (.run 0 answer)).map fun location =>
        { p with location := location, returned := location.tasks.isEmpty }
  | .finishRequest =>
      if p.returned then
        some { p with
          view := p.view.finishRequest p.status
          returned := false
          finished := p.finished + 1 }
      else none
  | .tapNotNow => if p.view.canTap then some (p.present p.view.onPermissionDenied) else none
  | .openSettings =>
      if p.view.canTapAlert then some (p.present { p.view with showingSettings := false }) else none
  | .cancelSettings =>
      if p.view.canTapAlert then
        some (p.present { p.view with showingSettings := false }.onPermissionDenied)
      else none
  | .primary event =>
      (p.location.step clock (.primary event)).map fun location => { p with location := location }
  | .firstServiceCheck enabled status =>
      (p.location.step clock (.firstServiceCheck enabled status)).map fun location =>
        { p with location := location }

end PermissionPopup

/-- A new popup over a new service. -/
structure PermissionPopup.Opened (p : PermissionPopup) : Prop where
  view : p.view = .initial
  uncalled : p.location.shared.Uncalled
  tasks : p.location.tasks = []
  status : p.status = .notDetermined
  returned : p.returned = false
  finished : p.finished = 0

def permissionPopup (clock : Clock Date) : Machine PermissionPopup PermissionPopupAction where
  Init := PermissionPopup.Opened
  step := PermissionPopup.step clock

end SkillTalk
