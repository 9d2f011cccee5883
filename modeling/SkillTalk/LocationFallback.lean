import SkillTalk.Library.FirstAnswer
import SkillTalk.MultiLocationService

/-!
# The calls that fall back

Three calls of `MultiLocationService` ask its primary for an answer and, failing that, its fallback.
The two may be any services. Whatever else goes on between the two questions is part of how the
service asked behaves.
-/

namespace SkillTalk

/-- The part of a location service that is asked for answers. -/
structure LocationAnswering (σ ε : Type) where
  getCurrentLocation : Throwing σ ε UserLocation
  getNearbyUsers : ℚ → Throwing σ ε (List String)
  calculateDistance : String → Throwing σ ε ℚ

/-- The state the services share, and which have been asked, oldest first. -/
structure LocationQuestions (σ : Type) where
  state : σ
  asked : List LocationServiceKind

namespace LocationQuestions

variable {σ ε α : Type}

def ask (service : LocationServiceKind) (call : Throwing σ ε α) :
    Throwing (LocationQuestions σ) ε α :=
  fun questions =>
    let (result, state) := call questions.state
    (result, ⟨state, questions.asked ++ [service]⟩)

end LocationQuestions

structure LocationFallback (σ ε : Type) where
  primaryService : Option (LocationAnswering σ ε)
  fallbackService : Option (LocationAnswering σ ε)

/-- The location that `getCurrentLocation` makes up. -/
def UserLocation.madeUp (id : ℕ) (timestamp : Date) : UserLocation :=
  .ofFix id { latitude := 0, longitude := 0, horizontalAccuracy := 0, timestamp }

namespace LocationFallback

open LocationQuestions FirstAnswer

variable {σ ε α : Type}

/-- The initializer; what it is not given, it makes itself. -/
def init (newCoreLocation newIPLocation : LocationAnswering σ ε)
    (primaryService fallbackService : Option (LocationAnswering σ ε)) : LocationFallback σ ε where
  primaryService := some (primaryService.getD newCoreLocation)
  fallbackService := some (fallbackService.getD newIPLocation)

def inTurn (s : LocationFallback σ ε) (standIn : α)
    (call : LocationAnswering σ ε → Throwing σ ε α) : Throwing (LocationQuestions σ) ε α :=
  firstAnswer standIn
    (s.primaryService.map fun service => ask .coreLocation (call service))
    (s.fallbackService.map fun service => ask .ipLocation (call service))

def getCurrentLocation (s : LocationFallback σ ε) (id : ℕ) (timestamp : Date) :
    Throwing (LocationQuestions σ) ε UserLocation :=
  s.inTurn (.madeUp id timestamp) LocationAnswering.getCurrentLocation

def getNearbyUsers (s : LocationFallback σ ε) (radius : ℚ) :
    Throwing (LocationQuestions σ) ε (List String) :=
  s.inTurn [] fun service => service.getNearbyUsers radius

def calculateDistance (s : LocationFallback σ ε) (userId : String) :
    Throwing (LocationQuestions σ) ε ℚ :=
  s.inTurn 0 fun service => service.calculateDistance userId

end LocationFallback

end SkillTalk
