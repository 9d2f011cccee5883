import SkillTalk.Library.Clock
import SkillTalk.Library.Machine
import SkillTalk.ServiceTypes

/-!
# The Core Location service

`CoreLocationService` holds the service's own state, what it has published, and the work the main
actor still has to run for it: the tasks its delegate callbacks start, the timeout blocks, and the
updates suspended in reverse geocoding. A step of the machine below is one call of the service, one
callback of the system, or one job of the main actor up to its next suspension. The geocoder is the
only suspension of a delegate task.

Coordinates are exact rationals, which the service only copies. Identifiers and continuations are
numbered in the order they are made.
-/

namespace SkillTalk

structure UserLocation where
  id : ℕ
  latitude : ℚ
  longitude : ℚ
  accuracy : ℚ
  timestamp : Date
  city : Option String
  country : Option String
  countryCode : Option String
  region : Option String
  postalCode : Option String
  address : Option String
  deriving DecidableEq

structure CLLocation where
  latitude : ℚ
  longitude : ℚ
  horizontalAccuracy : ℚ
  timestamp : Date
  deriving DecidableEq

structure CLPlacemark where
  thoroughfare : Option String
  subThoroughfare : Option String
  locality : Option String
  administrativeArea : Option String
  postalCode : Option String
  country : Option String
  isoCountryCode : Option String
  deriving DecidableEq

inductive CLAuthorizationStatus where
  | notDetermined
  | restricted
  | denied
  | authorizedAlways
  | authorizedWhenInUse
  deriving DecidableEq, Repr

inductive LocationPrivacyLevel where
  | exact
  | city
  | country
  | region
  | hidden
  deriving DecidableEq, Repr

inductive LocationServiceError where
  | locationPermissionDenied
  | locationPermissionRestricted
  | locationServicesDisabled
  | locationUpdateFailed (reason : String)
  | geocodingFailed (reason : String)
  | invalidLocation
  | privacySettingsBlocked
  deriving DecidableEq

def UserLocation.ofFix (id : ℕ) (location : CLLocation) : UserLocation where
  id := id
  latitude := location.latitude
  longitude := location.longitude
  accuracy := location.horizontalAccuracy
  timestamp := location.timestamp
  city := none
  country := none
  countryCode := none
  region := none
  postalCode := none
  address := none

def CLPlacemark.address (placemark : CLPlacemark) : String :=
  ", ".intercalate
    ([placemark.thoroughfare, placemark.subThoroughfare, placemark.locality,
      placemark.administrativeArea, placemark.country].filterMap id)

def UserLocation.withPlacemark (userLocation : UserLocation) (placemark : CLPlacemark) :
    UserLocation :=
  { userLocation with
    city := placemark.locality
    country := placemark.country
    countryCode := placemark.isoCountryCode
    region := placemark.administrativeArea
    postalCode := placemark.postalCode
    address := some placemark.address }

structure LocationTimeout where
  continuation : ℕ
  deadline : Date
  deriving DecidableEq

/-- A delegate task suspended in the geocoding of its fix. -/
structure GeocodingTask where
  location : CLLocation
  userLocation : UserLocation
  deriving DecidableEq

structure CoreLocationService where
  currentLocation : Option UserLocation
  permissionStatus : CLAuthorizationStatus
  locationServicesEnabled : Bool
  privacyLevel : LocationPrivacyLevel
  isTracking : Bool
  lastLocationUpdate : Option Date
  singleLocationContinuation : Option ℕ
  -- sent by `locationSubject`, oldest first
  publishedLocations : List UserLocation
  publishedPermissions : List CLAuthorizationStatus
  reads : ℕ
  identifiers : ℕ
  continuations : ℕ
  -- every resumption of a continuation, oldest first
  resumptions : List (ℕ × Except LocationServiceError UserLocation)
  timeouts : List LocationTimeout
  -- the fixes of the `didUpdateLocations` tasks that have not started
  updateTasks : List CLLocation
  geocodingTasks : List GeocodingTask
  -- the error texts of the `didFailWithError` tasks that have not run
  failureTasks : List String
  authorizationTasks : List CLAuthorizationStatus
  authorizationChecks : ℕ
  serviceChecks : ℕ

def minimumUpdateInterval : TimeInterval := 300

def locationTimeout : TimeInterval := 10

namespace CoreLocationService

/-- A new service has the task of its `checkLocationServices` waiting. -/
def initial : CoreLocationService where
  currentLocation := none
  permissionStatus := .notDetermined
  locationServicesEnabled := false
  privacyLevel := .city
  isTracking := false
  lastLocationUpdate := none
  singleLocationContinuation := none
  publishedLocations := []
  publishedPermissions := []
  reads := 0
  identifiers := 0
  continuations := 0
  resumptions := []
  timeouts := []
  updateTasks := []
  geocodingTasks := []
  failureTasks := []
  authorizationTasks := []
  authorizationChecks := 0
  serviceChecks := 1

def isAuthorized (s : CoreLocationService) : Bool :=
  s.permissionStatus = .authorizedWhenInUse ∨ s.permissionStatus = .authorizedAlways

/-- The system's answer to a request for authorization comes as a callback. -/
def requestPermission (s : CoreLocationService) : Except LocationServiceError Unit :=
  if s.locationServicesEnabled = false then .error .locationServicesDisabled
  else
    match s.permissionStatus with
    | .notDetermined => .ok ()
    | .denied | .restricted => .error .locationPermissionDenied
    | .authorizedWhenInUse | .authorizedAlways => .ok ()

def startTracking (s : CoreLocationService) :
    Except LocationServiceError Unit × CoreLocationService :=
  if s.locationServicesEnabled = false then (.error .locationServicesDisabled, s)
  else if s.isAuthorized = false then (.error .locationPermissionDenied, s)
  else (.ok (), { s with isTracking := true })

def stopTracking (s : CoreLocationService) : CoreLocationService := { s with isTracking := false }

def updatePrivacyLevel (s : CoreLocationService) (level : LocationPrivacyLevel) :
    CoreLocationService := { s with privacyLevel := level }

def checkLocationServices (s : CoreLocationService) : CoreLocationService :=
  { s with serviceChecks := s.serviceChecks + 1 }

/-- What a call of `getCurrentLocation` comes to at once. -/
inductive LocationRequest where
  | threw (error : LocationServiceError)
  | cached (location : UserLocation)
  | waits (continuation : ℕ)
  deriving DecidableEq

variable (clock : Clock Date)

/-- The cached location is recent. As elsewhere, a reading skipped and a reading not looked at are
the same thing. -/
def recentLocation (s : CoreLocationService) : Option UserLocation :=
  s.currentLocation.filter fun location =>
    clock.reading s.reads - location.timestamp < minimumUpdateInterval

def getCurrentLocation (s : CoreLocationService) : LocationRequest × CoreLocationService :=
  if s.locationServicesEnabled = false then (.threw .locationServicesDisabled, s)
  else if s.isAuthorized = false then (.threw .locationPermissionDenied, s)
  else
    match s.recentLocation clock with
    | some location => (.cached location, { s with reads := s.reads + 1 })
    | none =>
        (.waits s.continuations,
          { s with
            timeouts := s.timeouts ++
              [⟨s.continuations, clock.reading (s.reads + 1) + locationTimeout⟩]
            singleLocationContinuation := some s.continuations
            continuations := s.continuations + 1
            reads := s.reads + 2 })

def resume (s : CoreLocationService) (continuation : ℕ)
    (result : Except LocationServiceError UserLocation) : CoreLocationService :=
  { s with resumptions := s.resumptions ++ [(continuation, result)] }

/-- The end of a delegate task: the continuation it finds stored is resumed and forgotten. -/
def resumeStored (s : CoreLocationService) (result : Except LocationServiceError UserLocation) :
    CoreLocationService :=
  match s.singleLocationContinuation with
  | none => s
  | some continuation => { s.resume continuation result with singleLocationContinuation := none }

/-- The end of a `didUpdateLocations` task, which makes a location of its own from the fix. -/
def handleSingleRequest (s : CoreLocationService) (location : CLLocation) : CoreLocationService :=
  match s.singleLocationContinuation with
  | none => s
  | some _ =>
      { s with identifiers := s.identifiers + 1 }.resumeStored
        (.ok (.ofFix s.identifiers location))

def updateTooSoon (s : CoreLocationService) : Bool :=
  match s.lastLocationUpdate with
  | none => false
  | some lastUpdate => clock.reading s.reads - lastUpdate < minimumUpdateInterval

/-- A `didUpdateLocations` task from its start to the geocoder, or to its end if the fix comes too
soon. -/
def processLocationUpdate (s : CoreLocationService) (location : CLLocation) :
    CoreLocationService :=
  if s.updateTooSoon clock then { s with reads := s.reads + 1 }.handleSingleRequest location
  else
    let userLocation := UserLocation.ofFix s.identifiers location
    { s with
      identifiers := s.identifiers + 1
      currentLocation := some userLocation
      lastLocationUpdate := some (clock.reading (s.reads + 1))
      reads := s.reads + 2
      publishedLocations := s.publishedLocations ++ [userLocation]
      geocodingTasks := s.geocodingTasks ++ [⟨location, userLocation⟩] }

/-- A `didUpdateLocations` task from the geocoder's answer to its end; the answer is `none` when the
geocoder throws. -/
def reverseGeocode (s : CoreLocationService) (task : GeocodingTask)
    (placemarks : Option (List CLPlacemark)) : CoreLocationService :=
  let geocoded :=
    match placemarks.bind List.head? with
    | none => s
    | some placemark =>
        let updatedLocation := task.userLocation.withPlacemark placemark
        { s with
          currentLocation := some updatedLocation
          publishedLocations := s.publishedLocations ++ [updatedLocation] }
  geocoded.handleSingleRequest task.location

def didChangeAuthorization (s : CoreLocationService) (status : CLAuthorizationStatus) :
    CoreLocationService :=
  let changed := { s with permissionStatus := status }
  let handled := if status = .denied ∨ status = .restricted then changed.stopTracking else changed
  { handled with publishedPermissions := handled.publishedPermissions ++ [status] }

end CoreLocationService

/-- Calls of the service, callbacks of the system and jobs of the main actor. Waiting jobs are named
by their position, so any of them may run next. -/
inductive LocationAction where
  | getCurrentLocation
  | startTracking
  | stopTracking
  | updatePrivacyLevel (level : LocationPrivacyLevel)
  | didUpdateLocations (locations : List CLLocation)
  | didFailWithError (description : String)
  | didChangeAuthorization (status : CLAuthorizationStatus)
  | locationManagerDidChangeAuthorization
  | runTimeout (index : ℕ)
  | runUpdate (index : ℕ)
  | finishGeocoding (index : ℕ) (placemarks : Option (List CLPlacemark))
  | runFailure (index : ℕ)
  | runAuthorization (index : ℕ)
  | runAuthorizationCheck
  | runServiceCheck (enabled : Bool) (status : CLAuthorizationStatus)

namespace CoreLocationService

variable (clock : Clock Date)

def step (s : CoreLocationService) : LocationAction → Option CoreLocationService
  | .getCurrentLocation => some (s.getCurrentLocation clock).2
  | .startTracking => some s.startTracking.2
  | .stopTracking => some s.stopTracking
  | .updatePrivacyLevel level => some (s.updatePrivacyLevel level)
  | .didUpdateLocations locations =>
      some { s with updateTasks := s.updateTasks ++ locations.getLast?.toList }
  | .didFailWithError description =>
      some { s with failureTasks := s.failureTasks ++ [description] }
  | .didChangeAuthorization status =>
      some { s with authorizationTasks := s.authorizationTasks ++ [status] }
  | .locationManagerDidChangeAuthorization =>
      some { s with authorizationChecks := s.authorizationChecks + 1 }
  | .runTimeout index =>
      match s.timeouts[index]? with
      | none => none
      | some timeout =>
          if timeout.deadline ≤ clock.reading s.reads then
            some (resume { s with timeouts := s.timeouts.eraseIdx index, reads := s.reads + 1 }
              timeout.continuation (.error (.locationUpdateFailed "Timeout")))
          else none
  | .runUpdate index =>
      s.updateTasks[index]?.map
        (processLocationUpdate clock { s with updateTasks := s.updateTasks.eraseIdx index })
  | .finishGeocoding index placemarks =>
      s.geocodingTasks[index]?.map fun task =>
        reverseGeocode { s with geocodingTasks := s.geocodingTasks.eraseIdx index } task placemarks
  | .runFailure index =>
      s.failureTasks[index]?.map fun description =>
        resumeStored { s with failureTasks := s.failureTasks.eraseIdx index }
          (.error (.locationUpdateFailed description))
  | .runAuthorization index =>
      s.authorizationTasks[index]?.map
        (didChangeAuthorization
          { s with authorizationTasks := s.authorizationTasks.eraseIdx index })
  | .runAuthorizationCheck =>
      if s.authorizationChecks = 0 then none
      else some (checkLocationServices { s with authorizationChecks := s.authorizationChecks - 1 })
  | .runServiceCheck enabled status =>
      if s.serviceChecks = 0 then none
      else
        some { s with
          serviceChecks := s.serviceChecks - 1
          locationServicesEnabled := enabled
          permissionStatus := status }

end CoreLocationService

def coreLocation (clock : Clock Date) : Machine CoreLocationService LocationAction where
  Init s := s = CoreLocationService.initial
  step := CoreLocationService.step clock

end SkillTalk
