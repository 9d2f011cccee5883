import SkillTalk.CoreLocationService
import SkillTalk.Library.TaskPool

/-!
# The multi-provider location service

`MultiLocationService` holds its primary and its fallback, its bindings set up: what the primary
publishes reaches it at once, and of what the fallback publishes only the locations do. Its calls
are tasks that run from one call of a service to the next, and to the answer of the network in
between; other calls, callbacks of the system and jobs of the primary may come in any of these gaps.
Nobody else calls the two services.
-/

namespace SkillTalk

structure IPLocationResponse where
  latitude : ℚ
  longitude : ℚ
  city : Option String
  countryName : Option String
  countryCode : Option String
  region : Option String
  postal : Option String
  deriving DecidableEq

/-- What a request of the geolocation service ends with: a response and the time, or a failure. -/
abbrev IPLocationAnswer := Except String (IPLocationResponse × Date)

structure IPLocationService where
  currentLocation : Option UserLocation
  permissionStatus : CLAuthorizationStatus
  privacyLevel : LocationPrivacyLevel
  isTracking : Bool
  identifiers : ℕ

namespace IPLocationService

def initial : IPLocationService where
  currentLocation := none
  permissionStatus := .denied
  privacyLevel := .country
  isTracking := false
  identifiers := 0

def requestPermission (s : IPLocationService) : IPLocationService :=
  { s with permissionStatus := .authorizedWhenInUse }

/-- `startTracking` before its call of `getCurrentLocation`. -/
def startTracking (s : IPLocationService) : IPLocationService := { s with isTracking := true }

def stopTracking (s : IPLocationService) : IPLocationService := { s with isTracking := false }

def locationOf (s : IPLocationService) (response : IPLocationResponse) (timestamp : Date) :
    UserLocation where
  id := s.identifiers
  latitude := response.latitude
  longitude := response.longitude
  accuracy := 5000
  timestamp := timestamp
  city := response.city
  country := response.countryName
  countryCode := response.countryCode
  region := response.region
  postalCode := response.postal
  address := some (response.city.getD "" ++ ", " ++ response.countryName.getD "")

/-- `getCurrentLocation` from the network's answer on. -/
def getCurrentLocation (s : IPLocationService) :
    IPLocationAnswer → Except LocationServiceError UserLocation × IPLocationService
  | .ok (response, timestamp) =>
      let location := s.locationOf response timestamp
      (.ok location, { s with currentLocation := some location, identifiers := s.identifiers + 1 })
  | .error description =>
      (.error (.locationUpdateFailed ("IP geolocation failed: " ++ description)), s)

def updatePrivacyLevel (s : IPLocationService) (level : LocationPrivacyLevel) :
    IPLocationService := { s with privacyLevel := level }

end IPLocationService

structure MultiLocationService where
  currentLocation : Option UserLocation
  permissionStatus : CLAuthorizationStatus
  privacyLevel : LocationPrivacyLevel
  isTracking : Bool
  primaryService : CoreLocationService
  fallbackService : IPLocationService

inductive LocationServiceKind where
  | coreLocation
  | ipLocation
  deriving DecidableEq, Repr

/-- A call of `startTracking` that threw, and whether the fallback was tracking when the call came
to it and when it threw. -/
structure TrackingFailure where
  error : LocationServiceError
  trackedBefore : Bool
  trackedAfter : Bool
  deriving DecidableEq

namespace MultiLocationService

def initial : MultiLocationService where
  currentLocation := none
  permissionStatus := .notDetermined
  privacyLevel := .city
  isTracking := false
  primaryService := .initial
  fallbackService := .initial

/-- The sinks of the primary's publishers, after the primary came to a new state. -/
def observePrimary (s : MultiLocationService) (primary : CoreLocationService) :
    MultiLocationService :=
  let locations := primary.publishedLocations.drop s.primaryService.publishedLocations.length
  let permissions := primary.publishedPermissions.drop s.primaryService.publishedPermissions.length
  { s with
    primaryService := primary
    currentLocation := locations.getLast?.or s.currentLocation
    permissionStatus := permissions.getLast?.getD s.permissionStatus }

/-- The fallback's `getCurrentLocation`, and the sink of the location it publishes. -/
def locateFallback (s : MultiLocationService) (answer : IPLocationAnswer) :
    Except LocationServiceError UserLocation × MultiLocationService :=
  match s.fallbackService.getCurrentLocation answer with
  | (.ok location, fallback) =>
      (.ok location, { s with fallbackService := fallback, currentLocation := some location })
  | (.error error, fallback) => (.error error, { s with fallbackService := fallback })

def permissionOf (s : MultiLocationService) : LocationServiceKind → CLAuthorizationStatus
  | .coreLocation => s.primaryService.permissionStatus
  | .ipLocation => s.fallbackService.permissionStatus

end MultiLocationService

/-- The service, and what its runs are judged by. -/
structure MultiLocationWorld where
  service : MultiLocationService
  -- the primary's first `checkLocationServices` has not run yet
  checkDue : Bool
  -- the service that last granted a permission or heard of a change
  changedBy : Option LocationServiceKind
  failures : List TrackingFailure

/-- A call, named by what it does next. -/
inductive LocationCall where
  | startTracking
  | primaryStarted
  | startFallback
  | locating (trackedBefore : Bool)
  | fallbackStarted
  | stopTracking
  | primaryStopped
  | fallbackStopped
  | requestPermission
  | requestFallback
  | updatePrimary (level : LocationPrivacyLevel)
  | updateFallback (level : LocationPrivacyLevel)
  deriving DecidableEq

namespace MultiLocationWorld

def initial : MultiLocationWorld where
  service := .initial
  checkDue := true
  changedBy := none
  failures := []

def setTracking (w : MultiLocationWorld) (isTracking : Bool) : MultiLocationWorld :=
  { w with service := { w.service with isTracking := isTracking } }

def setPrimary (w : MultiLocationWorld) (primary : CoreLocationService) : MultiLocationWorld :=
  { w with service := { w.service with primaryService := primary } }

def setFallback (w : MultiLocationWorld) (fallback : IPLocationService) : MultiLocationWorld :=
  { w with service := { w.service with fallbackService := fallback } }

/-- A call from one suspension to the next; the answer is the network's. -/
def turn (answer : IPLocationAnswer) (w : MultiLocationWorld) :
    LocationCall → MultiLocationWorld × Option LocationCall
  | .startTracking =>
      match w.service.primaryService.startTracking with
      | (.ok _, primary) => (w.setPrimary primary, some .primaryStarted)
      | (.error _, primary) => (w.setPrimary primary, some .startFallback)
  | .primaryStarted => (w.setTracking true, none)
  | .startFallback =>
      (w.setFallback w.service.fallbackService.startTracking,
        some (.locating w.service.fallbackService.isTracking))
  | .locating trackedBefore =>
      match w.service.locateFallback answer with
      | (.ok _, located) => ({ w with service := located }, some .fallbackStarted)
      | (.error error, failed) =>
          ({ w with
             service := failed
             failures := w.failures
               ++ [⟨error, trackedBefore, failed.fallbackService.isTracking⟩] },
            none)
  | .fallbackStarted => (w.setTracking true, none)
  | .stopTracking =>
      (w.setPrimary w.service.primaryService.stopTracking, some .primaryStopped)
  | .primaryStopped =>
      (w.setFallback w.service.fallbackService.stopTracking, some .fallbackStopped)
  | .fallbackStopped => (w.setTracking false, none)
  | .requestPermission =>
      match w.service.primaryService.requestPermission with
      | .ok _ => ({ w with changedBy := some .coreLocation }, none)
      | .error _ => (w, some .requestFallback)
  | .requestFallback =>
      ({ w.setFallback w.service.fallbackService.requestPermission with
          changedBy := some .ipLocation }, none)
  | .updatePrimary level =>
      (w.setPrimary (w.service.primaryService.updatePrivacyLevel level),
        some (.updateFallback level))
  | .updateFallback level =>
      (w.setFallback (w.service.fallbackService.updatePrivacyLevel level), none)

/-- What the system and the main actor may do to the primary. Its first check of the location
services has a step of its own. -/
def primaryMay (w : MultiLocationWorld) : LocationAction → Bool
  | .startTracking | .stopTracking | .updatePrivacyLevel _ => false
  | .runServiceCheck _ _ => w.checkDue = false ∨ 1 < w.service.primaryService.serviceChecks
  | _ => true

/-- The primary hears of a change of its authorization. -/
def heardBy (event : LocationAction) (changedBy : Option LocationServiceKind) :
    Option LocationServiceKind :=
  match event with
  | .runAuthorization _ | .runServiceCheck _ _ => some .coreLocation
  | _ => changedBy

def observe (w : MultiLocationWorld) (primary : CoreLocationService) : MultiLocationWorld :=
  { w with service := w.service.observePrimary primary }

end MultiLocationWorld

inductive MultiLocationAction where
  | startTracking
  | stopTracking
  | requestPermission
  | updatePrivacyLevel (level : LocationPrivacyLevel)
  | run (index : ℕ) (answer : IPLocationAnswer)
  | primary (event : LocationAction)
  | firstServiceCheck (enabled : Bool) (status : CLAuthorizationStatus)
  -- the answer to another call of the fallback's `getCurrentLocation`
  | fallbackLocated (answer : IPLocationAnswer)

abbrev MultiLocation := TaskPool MultiLocationWorld LocationCall

namespace MultiLocation

variable (clock : Clock Date)

def step (p : MultiLocation) : MultiLocationAction → Option MultiLocation
  | .startTracking => some (p.add .startTracking)
  | .stopTracking => some (p.add .stopTracking)
  | .requestPermission => some (p.add .requestPermission)
  | .updatePrivacyLevel level =>
      let service := { p.shared.service with privacyLevel := level }
      some (TaskPool.add ⟨{ p.shared with service := service }, p.tasks⟩ (.updatePrimary level))
  | .run index answer => p.run (MultiLocationWorld.turn answer) index
  | .primary event =>
      if p.shared.primaryMay event then
        (p.shared.service.primaryService.step clock event).map fun primary =>
          ⟨{ p.shared.observe primary with
              changedBy := MultiLocationWorld.heardBy event p.shared.changedBy }, p.tasks⟩
      else none
  | .firstServiceCheck enabled status =>
      if p.shared.checkDue then
        (p.shared.service.primaryService.step clock (.runServiceCheck enabled status)).map
          fun primary => ⟨{ p.shared.observe primary with checkDue := false }, p.tasks⟩
      else none
  | .fallbackLocated answer =>
      some ⟨{ p.shared with service := (p.shared.service.locateFallback answer).2 }, p.tasks⟩

end MultiLocation

/-- Nobody has called the service yet, and nothing tracks. -/
structure MultiLocationWorld.Uncalled (w : MultiLocationWorld) : Prop where
  service : w.service.isTracking = false
  primary : w.service.primaryService.isTracking = false
  fallback : w.service.fallbackService.isTracking = false
  changedBy : w.changedBy = none
  failures : w.failures = []

/-- Callbacks may have reached the primary before the bindings were set up. -/
def multiLocation (clock : Clock Date) : Machine MultiLocation MultiLocationAction where
  Init p := p.shared.Uncalled ∧ p.tasks = []
  step := MultiLocation.step clock

end SkillTalk
