import SkillTalk.Proof.FailoverCooldown
import SkillTalk.Proof.DegradationOrder
import SkillTalk.Proof.FailoverLog
import SkillTalk.Proof.RecoveryMonitoring
import SkillTalk.Proof.FailoverTargets
import SkillTalk.AuthServiceProtocol
import SkillTalk.MultiAuthService
import SkillTalk.Proof.AuthSessions
import SkillTalk.CoreLocationService
import SkillTalk.Library.OneShot
import SkillTalk.Proof.LocationContinuations
import SkillTalk.Library.Refinement
import SkillTalk.SkillDatabaseService
import SkillTalk.Library.JoinedText
import SkillTalk.Proof.DatabaseCaches
import SkillTalk.Library.KeyedJoin
import SkillTalk.Proof.SkillSearch
import SkillTalk.Proof.SkillRequests
import SkillTalk.Proof.CompatibilityScores
import SkillTalk.Library.TaskPool
import SkillTalk.ReferenceDataModels
import SkillTalk.BasicTranslationService
import SkillTalk.OccupationsDatabase
import SkillTalk.Proof.TranslationFailure
import SkillTalk.Proof.TranslationStatus
import SkillTalk.Library.TableWrites
import SkillTalk.Proof.BatchTranslations
import SkillTalk.Proof.SkillPicker
import SkillTalk.Proof.SkillSearchBox
import SkillTalk.Proof.SkillNavigation
import SkillTalk.ServiceManager
import SkillTalk.Proof.ServiceDispatch
import SkillTalk.BaseViewModel
import SkillTalk.Proof.LoadingState
import SkillTalk.MultiLocationService
import SkillTalk.Proof.LocationTracking
import SkillTalk.LocationServiceProtocol
import SkillTalk.Proof.LocationPrivacy
import SkillTalk.Proof.LocationPermission
import SkillTalk.LanguageService
import SkillTalk.Proof.LanguageFreshness
import SkillTalk.OnboardingCoordinator
import SkillTalk.SkillSelectionCoordinatorView
import SkillTalk.OnboardingContainerView
import SkillTalk.Proof.OnboardingProgress
import SkillTalk.Proof.OnboardingSkills
import SkillTalk.Library.RemoteValue
import SkillTalk.ProfileViewModel
import SkillTalk.Proof.ProfileSaving
import SkillTalk.Proof.ProfileUpdates
import SkillTalk.Library.StableRank
import SkillTalk.Proof.SkillDifficulty
import SkillTalk.Proof.LoadingTraps
import SkillTalk.Proof.PhoneFormatting
import SkillTalk.BasicInfoForm
import SkillTalk.Proof.PhoneField
import SkillTalk.Proof.BasicInfoRules
import SkillTalk.JSONLoader
import SkillTalk.PlaceModels
import SkillTalk.Proof.JSONRoundTrip
import SkillTalk.Library.QueryString
import SkillTalk.Proof.SearchQuery
import SkillTalk.Proof.SupabaseSettings
import SkillTalk.ServiceReconfiguration
import SkillTalk.Proof.FailedReconfiguration
import SkillTalk.Proof.SyncTime
import SkillTalk.Library.TopK
import SkillTalk.SkillMatching
import SkillTalk.Proof.CompatibilityLoops
import SkillTalk.Proof.OptimalPairs
import SkillTalk.Proof.MatchScores
import SkillTalk.Proof.TopSkills
import SkillTalk.Library.KeyedSelection
import SkillTalk.Library.FilteredLists
import SkillTalk.OnboardingViewModel
import SkillTalk.Proof.SelectionIds
import SkillTalk.SecondLanguageScreen
import SkillTalk.Proof.SecondLanguageLimit
import SkillTalk.Proof.ProfileChanges
import SkillTalk.TextSearch
import SkillTalk.Proof.CategoryTranslations
import SkillTalk.Proof.OccupationSearch
import SkillTalk.Proof.OccupationTranslations
import SkillTalk.CountriesDatabase
import SkillTalk.Proof.CountryCodes
import SkillTalk.SkillSelectionView
import SkillTalk.Proof.SkillListRoutes
import SkillTalk.Library.SlidingWindow
import SkillTalk.Proof.HealthWindow
import SkillTalk.Proof.FailoverStats
import SkillTalk.Proof.LocationFixes
import SkillTalk.LocationServiceHealthMonitor
import SkillTalk.Proof.LocationHealth
import SkillTalk.Library.FirstAnswer
import SkillTalk.LocationFallback
import SkillTalk.Proof.LocationAnswers
import SkillTalk.Library.Dictionary
import SkillTalk.FoundationExtensions
import SkillTalk.Proof.QueryParameters
import SkillTalk.Library.Grouping
import SkillTalk.ReferenceDataGroups
import SkillTalk.Proof.GroupedPickers
import SkillTalk.Library.Trimming
import SkillTalk.Proof.LanguageSearch
import SkillTalk.Library.ExpiringCache
import SkillTalk.ReferenceDataCache
import SkillTalk.Proof.ReferenceDataLoads
import SkillTalk.LocalSkillService
import SkillTalk.Proof.LocalSkills
import SkillTalk.TranslationWarmup
import SkillTalk.Proof.WarmTranslations
import SkillTalk.OnboardingFlow
import SkillTalk.Proof.OnboardingFlows
import SkillTalk.HealthMonitoring
import SkillTalk.Proof.HealthTrends
import SkillTalk.Proof.SimulatedHealth
import SkillTalk.TranslatedQueries
import SkillTalk.Proof.TranslatedAnswers
import SkillTalk.Library.LastWrite
import SkillTalk.SkillTalkApp
import SkillTalk.Proof.AppScreens
import SkillTalk.TranslationStatusCoding
import SkillTalk.Proof.StatusRoundTrip
import SkillTalk.LocationPermissionView
import SkillTalk.Proof.PermissionPopup
import SkillTalk.ProfileScreen
import SkillTalk.Proof.ProfileScreenContent
