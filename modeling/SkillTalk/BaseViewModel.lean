import SkillTalk.Library.TaskPool

/-!
# The base view model

`withLoading` runs on the main actor from its entry to its operation's first suspension, and again
from the operation's end to its own. Between these, other operations and the user's actions may
come; an operation that calls `withLoading` itself starts and finishes the inner one while it is in
progress. `BaseViewModel` and `AsyncViewModelProtocol` each have a version, and a view model may
have both.
-/

namespace SkillTalk

inductive URLErrorCode where
  | notConnectedToInternet
  | timedOut
  | cannotFindHost
  | cannotConnectToHost
  | other
  deriving DecidableEq, Repr

inductive SkillTalkError where
  | invalidData
  | networkUnavailable
  | authenticationRequired
  | permissionDenied
  | custom (message : String)
  deriving DecidableEq

def SkillTalkError.userMessage : SkillTalkError → String
  | .invalidData => "Invalid data received. Please try again."
  | .networkUnavailable => "Network unavailable. Please check your connection."
  | .authenticationRequired => "Please sign in to continue."
  | .permissionDenied => "Permission denied. Please check your settings."
  | .custom message => message

/-- The errors `handleError` tells apart. -/
inductive OperationError where
  | network (code : URLErrorCode)
  | skillTalk (error : SkillTalkError)
  | other
  deriving DecidableEq

structure BaseViewModel where
  isLoading : Bool
  errorMessage : Option String
  isOnline : Bool
  deriving DecidableEq

namespace BaseViewModel

def initial : BaseViewModel where
  isLoading := false
  errorMessage := none
  isOnline := true

def setLoading (s : BaseViewModel) (loading : Bool) : BaseViewModel := { s with isLoading := loading }

def handleNetworkError (s : BaseViewModel) : URLErrorCode → BaseViewModel × String
  | .notConnectedToInternet =>
      ({ s with isOnline := false }, "No internet connection. Please check your network.")
  | .timedOut => (s, "Request timed out. Please try again.")
  | .cannotFindHost | .cannotConnectToHost =>
      (s, "Unable to connect to server. Please try again later.")
  | .other => (s, "Network error occurred. Please try again.")

/-- Also the protocol's default `handleError`. -/
def handleError (s : BaseViewModel) : OperationError → BaseViewModel
  | .network code =>
      let (handled, message) := s.handleNetworkError code
      { handled with errorMessage := some message }
  | .skillTalk error => { s with errorMessage := some error.userMessage }
  | .other => { s with errorMessage := some "Something went wrong. Please try again." }

def clearError (s : BaseViewModel) : BaseViewModel := { s with errorMessage := none }

/-- `withLoading` before its operation. -/
def withLoadingEntry (s : BaseViewModel) : BaseViewModel := s.setLoading true

/-- `withLoading` after its operation: the `catch` handles the error, then the `defer` runs. -/
def withLoadingExit (s : BaseViewModel) : Except OperationError Unit → BaseViewModel
  | .ok _ => s.setLoading false
  | .error error => (s.handleError error).setLoading false

end BaseViewModel

namespace AsyncViewModelProtocol

def withLoadingEntry (s : BaseViewModel) : BaseViewModel := { s with isLoading := true }

def withLoadingExit (s : BaseViewModel) : Except OperationError Unit → BaseViewModel
  | .ok _ => { s with isLoading := false }
  | .error error => { s.handleError error with isLoading := false }

end AsyncViewModelProtocol

/-- The version of `withLoading` an operation runs in. -/
inductive LoadingVersion where
  | baseViewModel
  | asyncViewModelProtocol
  deriving DecidableEq, Repr

namespace LoadingVersion

def entry : LoadingVersion → BaseViewModel → BaseViewModel
  | .baseViewModel => BaseViewModel.withLoadingEntry
  | .asyncViewModelProtocol => AsyncViewModelProtocol.withLoadingEntry

def exit : LoadingVersion → BaseViewModel → Except OperationError Unit → BaseViewModel
  | .baseViewModel => BaseViewModel.withLoadingExit
  | .asyncViewModelProtocol => AsyncViewModelProtocol.withLoadingExit

end LoadingVersion

/-- The view model and the operations that have started and not yet finished. -/
abbrev LoadingOperations := TaskPool BaseViewModel LoadingVersion

inductive LoadingAction where
  | start (version : LoadingVersion)
  | finish (index : ℕ) (outcome : Except OperationError Unit)
  | clearError

def LoadingOperations.step (p : LoadingOperations) : LoadingAction → Option LoadingOperations
  | .start version => some (TaskPool.add ⟨version.entry p.shared, p.tasks⟩ version)
  | .finish index outcome => p.run (fun s version => (version.exit s outcome, none)) index
  | .clearError => some ⟨p.shared.clearError, p.tasks⟩

def loadingOperations : Machine LoadingOperations LoadingAction where
  Init p := p = ⟨BaseViewModel.initial, []⟩
  step := LoadingOperations.step

end SkillTalk
