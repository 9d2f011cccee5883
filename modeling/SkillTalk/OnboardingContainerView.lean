import SkillTalk.OnboardingCoordinator
import SkillTalk.SkillSelectionCoordinatorView

/-!
# The onboarding views

The container shows the view of the coordinator's current step. A view has local state, which is
made afresh each time the step is entered, and writes to the coordinator's data at points of its
own choice. An action is one enabled control of the view shown, or of the sheet or alert over it.
The app replaces the container as soon as the onboarding is completed.

A `Char` of a text stands for a Swift `Character`, of which one may be several scalars. Which are
numbers, and which white space or new lines, are parameters.
-/

namespace SkillTalk

/-- What `Character` says of the characters of a text. -/
structure OnboardingText where
  isNumber : Char → Bool
  isWhitespaceOrNewline : Char → Bool

/-- What the source's own functions say of ASCII texts. -/
def asciiText : OnboardingText where
  isNumber := Char.isDigit
  isWhitespaceOrNewline := Char.isWhitespace

/-- `trimmingCharacters(in: .whitespacesAndNewlines)`. -/
def OnboardingText.trimmed (rules : OnboardingText) (text : String) : List Char :=
  ((text.toList.dropWhile rules.isWhitespaceOrNewline).reverse.dropWhile
    rules.isWhitespaceOrNewline).reverse

/-! ### Signing in -/

inductive SignInTab where
  | email
  | phone
  deriving DecidableEq, Repr

structure SignInView where
  email : String
  password : String
  phone : String
  selectedTab : SignInTab
  deriving DecidableEq

inductive SignInAction where
  | selectTab (tab : SignInTab)
  | editEmail (text : String)
  | editPassword (text : String)
  | editPhone (text : String)
  | socialButton
  | sendCode
  | primaryButton
  deriving DecidableEq

namespace SignInView

def initial : SignInView where
  email := ""
  password := ""
  phone := ""
  selectedTab := .email

def edit (v : SignInView) : SignInAction → SignInView
  | .selectTab tab => { v with selectedTab := tab }
  | .editEmail text => { v with email := text }
  | .editPassword text => { v with password := text }
  | .editPhone text => { v with phone := text }
  | _ => v

/-- The control is shown and enabled. -/
def Enabled (v : SignInView) : SignInAction → Prop
  | .selectTab _ => True
  | .editEmail _ | .editPassword _ => v.selectedTab = .email
  | .editPhone _ | .sendCode => v.selectedTab = .phone
  | .socialButton => True
  | .primaryButton =>
      ¬ if v.selectedTab = .email then v.email = "" ∨ v.password = "" else v.phone = ""

instance (v : SignInView) : (action : SignInAction) → Decidable (v.Enabled action)
  | .selectTab _ | .socialButton => inferInstanceAs (Decidable True)
  | .editEmail _ | .editPassword _ => inferInstanceAs (Decidable (v.selectedTab = .email))
  | .editPhone _ | .sendCode => inferInstanceAs (Decidable (v.selectedTab = .phone))
  | .primaryButton =>
      inferInstanceAs (Decidable
        (¬ if v.selectedTab = .email then v.email = "" ∨ v.password = "" else v.phone = ""))

/-- The buttons that sign in; none of them asks a service. -/
def signsIn : SignInAction → Bool
  | .socialButton | .sendCode | .primaryButton => true
  | _ => false

end SignInView

/-! ### Basic information -/

structure BasicInfoView where
  name : String
  username : String
  phoneNumber : String
  age : String
  nameError : String
  usernameError : String
  phoneError : String
  ageError : String
  formattedPhoneNumber : String
  deriving DecidableEq

inductive BasicInfoField where
  | name
  | username
  | phoneNumber
  | age
  deriving DecidableEq, Repr

inductive BasicInfoAction where
  | edit (field : BasicInfoField) (text : String)
  | submit (field : BasicInfoField)
  | next
  deriving DecidableEq

namespace BasicInfoView

variable (rules : OnboardingText)

/-- The text's `Character`s that are numbers. -/
def digits (text : String) : List Char := text.toList.filter rules.isNumber

def formatPhoneNumber (phone : String) : String :=
  let digits := digits rules phone
  if digits.length ≤ 3 then String.ofList digits
  else if digits.length ≤ 6 then
    "(" ++ String.ofList (digits.take 3) ++ ") " ++ String.ofList (digits.drop 3)
  else if digits.length ≤ 10 then
    "(" ++ String.ofList (digits.take 3) ++ ") " ++ String.ofList ((digits.drop 3).take 3) ++ "-"
      ++ String.ofList (digits.drop 6)
  else
    "(" ++ String.ofList (digits.take 3) ++ ") " ++ String.ofList ((digits.drop 3).take 3) ++ "-"
      ++ String.ofList ((digits.drop 6).take 4)

def unformatPhoneNumber (formatted : String) : String := String.ofList (digits rules formatted)

/-- The view once `onAppear` has loaded what the coordinator has. -/
def appear {CountryModel UIImage : Type} (data : OnboardingData CountryModel UIImage) :
    BasicInfoView where
  name := data.name
  username := data.username
  phoneNumber := data.phoneNumber
  age := data.age
  nameError := ""
  usernameError := ""
  phoneError := ""
  ageError := ""
  formattedPhoneNumber :=
    if data.phoneNumber = "" then "" else formatPhoneNumber rules data.phoneNumber

def validateName (name : String) : Bool := rules.trimmed name ≠ []

/-- A character of `[a-zA-Z0-9_]`. -/
def isUsernameChar (c : Char) : Bool := c.isAlphanum || c == '_'

def validateUsername (username : String) : Bool :=
  let trimmed := rules.trimmed username
  decide (3 ≤ trimmed.length) && decide (trimmed.length ≤ 20) && trimmed.all isUsernameChar

def validatePhoneNumber (phone : String) : Bool :=
  decide (10 ≤ (digits rules phone).length) && decide ((digits rules phone).length ≤ 15)

def decimal (digits : List Char) : Option ℕ :=
  if digits ≠ [] ∧ digits.all Char.isDigit then
    some (digits.foldl (fun value digit => 10 * value + (digit.toNat - '0'.toNat)) 0)
  else none

/-- `Int(text)`; values too large for an `Int` fail the range check as well. -/
def parsedInt (text : String) : Option Int :=
  match text.toList with
  | '-' :: digits => (decimal digits).map fun value => -(value : Int)
  | '+' :: digits => (decimal digits).map fun value => (value : Int)
  | digits => (decimal digits).map fun value => (value : Int)

def validateAge (age : String) : Bool :=
  match parsedInt age with
  | none => false
  | some ageInt => decide (13 ≤ ageInt) && decide (ageInt ≤ 100)

def isFormValid (v : BasicInfoView) : Bool :=
  decide (v.nameError = "") && decide (v.name ≠ "") && decide (v.usernameError = "")
    && decide (v.username ≠ "") && decide (v.phoneError = "") && decide (v.phoneNumber ≠ "")
    && decide (v.ageError = "") && decide (v.age ≠ "")

def fieldsValid (v : BasicInfoView) : Bool :=
  validateName rules v.name && validateUsername rules v.username
    && validatePhoneNumber rules v.formattedPhoneNumber && validateAge v.age

/-- `validateAllFields`, which also returns `fieldsValid`. -/
def validateAllFields (v : BasicInfoView) : BasicInfoView :=
  { v with
    nameError := if validateName rules v.name then "" else "Name is required"
    usernameError := if validateUsername rules v.username then ""
      else "Username must be 3-20 characters, letters and numbers only"
    phoneError := if validatePhoneNumber rules v.formattedPhoneNumber then ""
      else "Please enter a valid phone number"
    ageError := if validateAge v.age then "" else "Age must be between 13 and 100" }

/-- A field of the form is edited, which clears its error. -/
def edit (v : BasicInfoView) : BasicInfoField → String → BasicInfoView
  | .name, text => { v with name := text, nameError := "" }
  | .username, text => { v with username := text, usernameError := "" }
  | .phoneNumber, text =>
      let formatted := formatPhoneNumber rules text
      { v with
        formattedPhoneNumber := formatted
        phoneNumber := unformatPhoneNumber rules formatted
        phoneError := "" }
  | .age, text => { v with age := String.ofList (digits rules text), ageError := "" }

/-- The return key in a field of the form. -/
def submit (v : BasicInfoView) : BasicInfoField → BasicInfoView
  | .name => if validateName rules v.name then v else { v with nameError := "Invalid name" }
  | .username =>
      if validateUsername rules v.username then v
      else { v with usernameError := "Invalid username" }
  | .phoneNumber =>
      if validatePhoneNumber rules v.formattedPhoneNumber then v
      else { v with phoneError := "Invalid phone number" }
  | .age => if validateAge v.age then v else { v with ageError := "Invalid age" }

def saved {CountryModel UIImage : Type} (v : BasicInfoView)
    (data : OnboardingData CountryModel UIImage) : OnboardingData CountryModel UIImage :=
  { data with
    name := v.name
    username := v.username
    phoneNumber := v.phoneNumber
    age := v.age }

end BasicInfoView

/-! ### The second languages -/

structure VIPService where
  isVIP : Bool
  deriving DecidableEq

namespace VIPService

def initial : VIPService := ⟨false⟩

def enableVIP (_ : VIPService) : VIPService := ⟨true⟩

def maxLanguagesAllowed (vip : VIPService) : ℕ := if vip.isVIP then 3 else 1

def canSelectAdditionalLanguage (vip : VIPService) (currentCount : ℕ) : Bool :=
  currentCount < vip.maxLanguagesAllowed

def getCurrentSkillCount (_ : VIPService) (_ : UserSkillType) : ℕ := 0

def canAddSkill (vip : VIPService) (type : UserSkillType) : Bool :=
  vip.isVIP || vip.getCurrentSkillCount type < if vip.isVIP then 5 else 1

end VIPService

inductive LanguageProficiency where
  | beginner
  | elementary
  | intermediate
  | advanced
  | proficient
  deriving DecidableEq, Repr

structure LanguageWithProficiency where
  language : Language
  proficiency : LanguageProficiency
  deriving DecidableEq

inductive SecondLanguageAction where
  | select (language : Language) (proficiency : LanguageProficiency)
  | remove (language : Language)
  | updateProficiency (language : Language) (proficiency : LanguageProficiency)
  | next
  deriving DecidableEq

/-- The view with what is selected; its `VIPService` is never made a VIP's. -/
structure SecondLanguageView where
  selectedLanguages : List LanguageWithProficiency
  deriving DecidableEq

namespace SecondLanguageView

/-- `onAppear` starts with nothing selected. -/
def appear : SecondLanguageView := ⟨[]⟩

def isLanguageSelected (v : SecondLanguageView) (language : Language) : Bool :=
  v.selectedLanguages.any fun selected => selected.language.code == language.code

def select (v : SecondLanguageView) (language : Language) (proficiency : LanguageProficiency) :
    SecondLanguageView :=
  if !v.isLanguageSelected language
      && VIPService.initial.canSelectAdditionalLanguage v.selectedLanguages.length then
    ⟨v.selectedLanguages ++ [⟨language, proficiency⟩]⟩
  else v

def removeLanguage (v : SecondLanguageView) (language : Language) : SecondLanguageView :=
  ⟨v.selectedLanguages.filter fun selected => selected.language.code != language.code⟩

def updateProficiency (v : SecondLanguageView) (language : Language)
    (proficiency : LanguageProficiency) : SecondLanguageView :=
  match v.selectedLanguages.findIdx? fun selected => selected.language.code == language.code with
  | none => v
  | some index =>
      ⟨v.selectedLanguages.modify index fun selected =>
        { selected with proficiency := proficiency }⟩

end SecondLanguageView

/-! ### Expert and target skills -/

inductive SkillListAction where
  | add
  | upgradeToVIP
  | cancelUpgrade
  | browse (action : SelectionAction)
  | tapSkill (skill : Skill)
  | confirm
  | dismiss
  | remove (skill : Skill)
  | continue

/-- `ExpertiseView` or `TargetSkillView`, with the sheet while it is shown. -/
structure SkillListView where
  vipService : VIPService
  selectedSkills : List Skill
  showingVIPUpgrade : Bool
  sheet : Option SkillSelection

namespace SkillListView

def appear (skills : List Skill) : SkillListView where
  vipService := .initial
  selectedSkills := skills
  showingVIPUpgrade := false
  sheet := none

/-- Neither a sheet nor an alert is over the view. -/
def Uncovered (v : SkillListView) : Prop := v.sheet = none ∧ v.showingVIPUpgrade = false

instance (v : SkillListView) : Decidable v.Uncovered :=
  decidable_of_iff (v.sheet.isNone = true ∧ v.showingVIPUpgrade = false)
    (and_congr_left' Option.isNone_iff_eq_none)

variable (type : UserSkillType)

/-- "Add Skills" or "Add More Skills". -/
def add (v : SkillListView) : Option SkillListView :=
  if ¬ v.Uncovered ∨ (!v.vipService.canAddSkill type && !v.selectedSkills.isEmpty) then none
  else if v.vipService.canAddSkill type || v.selectedSkills.isEmpty then
    some { v with sheet := some SkillSelectionCoordinatorView.opened }
  else some { v with showingVIPUpgrade := true }

def upgradeToVIP (v : SkillListView) : Option SkillListView :=
  if v.showingVIPUpgrade then
    some { v with vipService := v.vipService.enableVIP, showingVIPUpgrade := false }
  else none

def cancelUpgrade (v : SkillListView) : Option SkillListView :=
  if v.showingVIPUpgrade then some { v with showingVIPUpgrade := false } else none

def browse (language : String) (repositories : ℕ → SkillRepository) (v : SkillListView)
    (action : SelectionAction) : Option SkillListView :=
  v.sheet.bind fun sheet =>
    if SkillSelectionCoordinatorView.Browses sheet.shared action then
      (sheet.step language repositories action).map fun sheet => { v with sheet := some sheet }
    else none

def tapSkill (v : SkillListView) (skill : Skill) : Option SkillListView :=
  v.sheet.bind fun sheet =>
    if SkillSelectionCoordinatorView.ShowsSkill sheet.shared skill then
      some { v with
        sheet := some (sheet.act (SkillSelectionCoordinatorView.tapSkillCard sheet.shared skill)
          none) }
    else none

/-- The skills that the sheet's button hands to `onSkillsSelected`. -/
def confirmed (v : SkillListView) : Option (List Skill) :=
  v.sheet.bind fun sheet =>
    if SkillSelectionCoordinatorView.CanConfirm sheet.shared then some sheet.shared.selectedSkills
    else none

/-- The local list, which the coordinator's is set to as well, once `onSkillsSelected` has run. -/
def onSkillsSelected (v : SkillListView) (skills : List Skill) : SkillListView :=
  { v with selectedSkills := skills, sheet := none }

def dismiss (v : SkillListView) : Option SkillListView :=
  v.sheet.map fun _ => { v with sheet := none }

/-- `onRemove` of a card, which removes the first skill of its id. -/
def remove (v : SkillListView) (skill : Skill) : Option SkillListView :=
  if v.Uncovered ∧ skill ∈ v.selectedSkills then
    some { v with
      selectedSkills := v.selectedSkills.eraseP fun selected => selected.id == skill.id }
  else none

def CanContinue (v : SkillListView) : Prop := v.Uncovered ∧ v.selectedSkills ≠ []

instance (v : SkillListView) : Decidable v.CanContinue := inferInstanceAs (Decidable (_ ∧ _))

end SkillListView

/-! ### The profile picture -/

inductive ProfilePictureAction (UIImage : Type) where
  | pick (image : UIImage)
  | crop (cropped : UIImage)
  | cancelCrop
  | startLearning

structure ProfilePictureView (UIImage : Type) where
  selectedImage : Option UIImage
  showingCropView : Bool

/-! ### The container -/

/-- The view of a step with its local state. -/
inductive StepView (UIImage : Type) where
  | welcome
  | signIn (v : SignInView)
  | basicInfo (v : BasicInfoView)
  | countrySelection
  | nativeLanguage
  | secondLanguage (v : SecondLanguageView)
  | expertise (v : SkillListView)
  | targetSkill (v : SkillListView)
  | profilePicture (v : ProfilePictureView UIImage)
  | complete

structure OnboardingContainerView (CountryModel UIImage : Type) where
  coordinator : OnboardingCoordinator CountryModel UIImage
  view : StepView UIImage

inductive OnboardingAction (CountryModel UIImage : Type) where
  | back
  | getStarted
  | signIn (action : SignInAction)
  | basicInfo (action : BasicInfoAction)
  | selectCountry (country : CountryModel)
  | selectNativeLanguage (language : Language)
  | secondLanguage (action : SecondLanguageAction)
  | skills (action : SkillListAction)
  | profilePicture (action : ProfilePictureAction UIImage)
  -- "Start Exploring", or an answer to the location popup
  | finish

namespace OnboardingContainerView

variable {CountryModel UIImage : Type} (rules : OnboardingText) (language : String)
  (repositories : ℕ → SkillRepository)

def currentStepView (c : OnboardingCoordinator CountryModel UIImage) : StepView UIImage :=
  match c.currentStep with
  | .welcome => .welcome
  | .signIn => .signIn .initial
  | .basicInfo => .basicInfo (.appear rules c.onboardingData)
  | .countrySelection => .countrySelection
  | .nativeLanguage => .nativeLanguage
  | .secondLanguage => .secondLanguage .appear
  | .expertise => .expertise (.appear c.onboardingData.expertSkills)
  | .targetSkill => .targetSkill (.appear c.onboardingData.targetSkills)
  | .profilePicture => .profilePicture ⟨c.onboardingData.profilePicture, false⟩
  | .complete => .complete

/-- The coordinator has moved: the view of its step appears. -/
def entered (c : OnboardingCoordinator CountryModel UIImage) :
    OnboardingContainerView CountryModel UIImage :=
  ⟨c, currentStepView rules c⟩

/-- The chevron, hidden on the first step and covered by sheets and alerts. -/
def CanGoBack : StepView UIImage → Prop
  | .welcome => False
  | .expertise v | .targetSkill v => v.Uncovered
  | .profilePicture v => v.showingCropView = false
  | _ => True

instance : (view : StepView UIImage) → Decidable (CanGoBack view)
  | .welcome => inferInstanceAs (Decidable False)
  | .expertise v | .targetSkill v => inferInstanceAs (Decidable v.Uncovered)
  | .profilePicture v => inferInstanceAs (Decidable (v.showingCropView = false))
  | .signIn _ | .basicInfo _ | .countrySelection | .nativeLanguage | .secondLanguage _
  | .complete => inferInstanceAs (Decidable True)

def signInStep (c : OnboardingCoordinator CountryModel UIImage) (v : SignInView)
    (action : SignInAction) : Option (OnboardingContainerView CountryModel UIImage) :=
  if v.Enabled action then
    if SignInView.signsIn action then
      some (entered rules (c.save { c.onboardingData with isAuthenticated := true }).nextStep)
    else some ⟨c, .signIn (v.edit action)⟩
  else none

def basicInfoStep (c : OnboardingCoordinator CountryModel UIImage) (v : BasicInfoView) :
    BasicInfoAction → Option (OnboardingContainerView CountryModel UIImage)
  | .edit field text => some ⟨c, .basicInfo (v.edit rules field text)⟩
  | .submit field => some ⟨c, .basicInfo (v.submit rules field)⟩
  | .next =>
      if v.isFormValid then
        if v.fieldsValid rules then
          some (entered rules (c.save (v.saved c.onboardingData)).nextStep)
        else some ⟨c, .basicInfo (v.validateAllFields rules)⟩
      else none

def secondLanguageStep (c : OnboardingCoordinator CountryModel UIImage) (v : SecondLanguageView) :
    SecondLanguageAction → Option (OnboardingContainerView CountryModel UIImage)
  | .select language proficiency => some ⟨c, .secondLanguage (v.select language proficiency)⟩
  | .remove language => some ⟨c, .secondLanguage (v.removeLanguage language)⟩
  | .updateProficiency language proficiency =>
      some ⟨c, .secondLanguage (v.updateProficiency language proficiency)⟩
  | .next =>
      if v.selectedLanguages = [] then none
      else
        some (entered rules (c.save { c.onboardingData with
          secondLanguages := v.selectedLanguages.map LanguageWithProficiency.language }).nextStep)

/-- The body that `ExpertiseView` and `TargetSkillView` share. -/
def skillListStep (type : UserSkillType) (present : SkillListView → StepView UIImage)
    (c : OnboardingCoordinator CountryModel UIImage) (v : SkillListView) :
    SkillListAction → Option (OnboardingContainerView CountryModel UIImage)
  | .add => (v.add type).map fun v => ⟨c, present v⟩
  | .upgradeToVIP => v.upgradeToVIP.map fun v => ⟨c, present v⟩
  | .cancelUpgrade => v.cancelUpgrade.map fun v => ⟨c, present v⟩
  | .browse action => (v.browse language repositories action).map fun v => ⟨c, present v⟩
  | .tapSkill skill => (v.tapSkill skill).map fun v => ⟨c, present v⟩
  | .confirm =>
      v.confirmed.map fun skills =>
        ⟨c.save (c.onboardingData.setSkills type skills), present (v.onSkillsSelected skills)⟩
  | .dismiss => v.dismiss.map fun v => ⟨c, present v⟩
  | .remove skill =>
      (v.remove skill).map fun v =>
        ⟨c.save (c.onboardingData.setSkills type v.selectedSkills), present v⟩
  | .continue => if v.CanContinue then some (entered rules c.nextStep) else none

def expertiseStep (c : OnboardingCoordinator CountryModel UIImage) (v : SkillListView)
    (action : SkillListAction) : Option (OnboardingContainerView CountryModel UIImage) :=
  skillListStep rules language repositories .expert .expertise c v action

def targetSkillStep (c : OnboardingCoordinator CountryModel UIImage) (v : SkillListView)
    (action : SkillListAction) : Option (OnboardingContainerView CountryModel UIImage) :=
  skillListStep rules language repositories .target .targetSkill c v action

/-- The picker and the crop view are sheets; cropping may make any image of the one picked. -/
def profilePictureStep (c : OnboardingCoordinator CountryModel UIImage)
    (v : ProfilePictureView UIImage) :
    ProfilePictureAction UIImage → Option (OnboardingContainerView CountryModel UIImage)
  | .pick image => if v.showingCropView then none else some ⟨c, .profilePicture ⟨some image, true⟩⟩
  | .crop cropped =>
      if v.showingCropView then
        some ⟨c.save { c.onboardingData with profilePicture := some cropped },
          .profilePicture ⟨some cropped, false⟩⟩
      else none
  | .cancelCrop =>
      if v.showingCropView then some ⟨c, .profilePicture ⟨v.selectedImage, false⟩⟩ else none
  | .startLearning =>
      if v.showingCropView ∨ v.selectedImage.isNone then none
      else
        some (entered rules
          (c.save { c.onboardingData with profilePicture := v.selectedImage }).nextStep)

/-- A control that the view shown does not have, or that is disabled, does nothing. -/
def step (s : OnboardingContainerView CountryModel UIImage)
    (action : OnboardingAction CountryModel UIImage) :
    Option (OnboardingContainerView CountryModel UIImage) :=
  if s.coordinator.onboardingCompleted then none
  else
    match s.view, action with
    | view, .back =>
        if CanGoBack view then some (entered rules s.coordinator.previousStep) else none
    | .welcome, .getStarted => some (entered rules s.coordinator.nextStep)
    | .signIn v, .signIn action => signInStep rules s.coordinator v action
    | .basicInfo v, .basicInfo action => basicInfoStep rules s.coordinator v action
    | .countrySelection, .selectCountry country =>
        some (entered rules (s.coordinator.save
          { s.coordinator.onboardingData with country := some country }).nextStep)
    | .nativeLanguage, .selectNativeLanguage language =>
        some (entered rules (s.coordinator.save
          { s.coordinator.onboardingData with nativeLanguage := some language }).nextStep)
    | .secondLanguage v, .secondLanguage action => secondLanguageStep rules s.coordinator v action
    | .expertise v, .skills action =>
        expertiseStep rules language repositories s.coordinator v action
    | .targetSkill v, .skills action =>
        targetSkillStep rules language repositories s.coordinator v action
    | .profilePicture v, .profilePicture action => profilePictureStep rules s.coordinator v action
    | .complete, .finish => some ⟨s.coordinator.completeOnboarding, .complete⟩
    | _, _ => none

end OnboardingContainerView

def onboarding (CountryModel UIImage : Type) (rules : OnboardingText) (language : String)
    (repositories : ℕ → SkillRepository) :
    Machine (OnboardingContainerView CountryModel UIImage)
      (OnboardingAction CountryModel UIImage) where
  Init s := s = OnboardingContainerView.entered rules .initial
  step := OnboardingContainerView.step rules language repositories

end SkillTalk
