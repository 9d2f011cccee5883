import SkillTalk.MultiLocationService
import SkillTalk.SkillCompatibilityService

/-!
# What a location service shows

The four reads that other code makes of a location service: two that each service has itself, and
the protocol's extension, which is written over these and the stored location.
-/

namespace SkillTalk

def CLAuthorizationStatus.isAuthorized (status : CLAuthorizationStatus) : Bool :=
  status = .authorizedWhenInUse ∨ status = .authorizedAlways

def UserLocation.getFormattedLocation (location : UserLocation) : LocationPrivacyLevel → String
  | .exact =>
      location.city.getD "Unknown City" ++ ", " ++ location.country.getD "Unknown Country"
  | .city => location.city.getD "Unknown City"
  | .country => location.country.getD "Unknown Country"
  | .region => location.region.getD "Unknown Region"
  | .hidden => "Location Hidden"

/-- The `getFormattedLocation` of all three services. -/
def formattedLocation (currentLocation : Option UserLocation)
    (privacyLevel : LocationPrivacyLevel) : String :=
  match currentLocation with
  | none => "Location Not Available"
  | some location => location.getFormattedLocation privacyLevel

/-- The parts of the protocol that its extension reads. -/
class LocationServiceProtocol (σ : Type) where
  currentLocation : σ → Option UserLocation
  privacyLevel : σ → LocationPrivacyLevel
  isLocationSharingAllowed : σ → Bool
  getFormattedLocation : σ → String

namespace CoreLocationService

def isLocationSharingAllowed (s : CoreLocationService) : Bool :=
  s.privacyLevel ≠ .hidden ∧ s.isAuthorized = true

def getFormattedLocation (s : CoreLocationService) : String :=
  formattedLocation s.currentLocation s.privacyLevel

instance : LocationServiceProtocol CoreLocationService where
  currentLocation := CoreLocationService.currentLocation
  privacyLevel := CoreLocationService.privacyLevel
  isLocationSharingAllowed := isLocationSharingAllowed
  getFormattedLocation := getFormattedLocation

end CoreLocationService

namespace IPLocationService

def isLocationSharingAllowed (s : IPLocationService) : Bool := s.privacyLevel ≠ .hidden

def getFormattedLocation (s : IPLocationService) : String :=
  formattedLocation s.currentLocation s.privacyLevel

instance : LocationServiceProtocol IPLocationService where
  currentLocation := IPLocationService.currentLocation
  privacyLevel := IPLocationService.privacyLevel
  isLocationSharingAllowed := isLocationSharingAllowed
  getFormattedLocation := getFormattedLocation

end IPLocationService

namespace MultiLocationService

def isLocationSharingAllowed (s : MultiLocationService) : Bool :=
  s.privacyLevel ≠ .hidden ∧ s.permissionStatus.isAuthorized = true

def getFormattedLocation (s : MultiLocationService) : String :=
  formattedLocation s.currentLocation s.privacyLevel

instance : LocationServiceProtocol MultiLocationService where
  currentLocation := MultiLocationService.currentLocation
  privacyLevel := MultiLocationService.privacyLevel
  isLocationSharingAllowed := isLocationSharingAllowed
  getFormattedLocation := getFormattedLocation

end MultiLocationService

namespace LocationServiceProtocol

variable {σ : Type} [LocationServiceProtocol σ]

def getDisplayLocation (s : σ) : String :=
  if isLocationSharingAllowed s = false then "Location Hidden" else getFormattedLocation s

variable (lowercased : String → String)

/-- `contains` is Foundation's. -/
def isInCity (contains : String → String → Bool) (s : σ) (cityName : String) : Bool :=
  match (currentLocation s).bind UserLocation.city with
  | none => false
  | some city => contains (lowercased city) (lowercased cityName)

def isInCountry (s : σ) (countryCode : String) : Bool :=
  match (currentLocation s).bind UserLocation.countryCode with
  | none => false
  | some code => lowercased code = lowercased countryCode

end LocationServiceProtocol

end SkillTalk
