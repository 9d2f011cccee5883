import SkillTalk.Library.Machine
import SkillTalk.OnboardingContainerView

/-!
# The basic information form, one update at a time

A field's `onChange` runs when its text differs from the one it last saw, and again when its handler
has changed the text. The app handles the next event when no field has a change left to see. The
screen comes and goes while the coordinator keeps what `Next` has stored; only the four fields of
the form are read or written here.
-/

namespace SkillTalk

namespace BasicInfoView

def text (v : BasicInfoView) : BasicInfoField → String
  | .name => v.name
  | .username => v.username
  | .phoneNumber => v.formattedPhoneNumber
  | .age => v.age

/-- The text field writes to its binding. -/
def setText (v : BasicInfoView) : BasicInfoField → String → BasicInfoView
  | .name, text => { v with name := text }
  | .username, text => { v with username := text }
  | .phoneNumber, text => { v with formattedPhoneNumber := text }
  | .age, text => { v with age := text }

/-- The handlers of the phone number and of the age; the other fields have none. -/
def onTextChange (rules : OnboardingText) (v : BasicInfoView) : BasicInfoField → String → BasicInfoView
  | .phoneNumber, newValue =>
      let formatted := formatPhoneNumber rules newValue
      { v with
        formattedPhoneNumber := formatted
        phoneNumber := unformatPhoneNumber rules formatted }
  | .age, newValue => { v with age := String.ofList (digits rules newValue) }
  | .name, _ | .username, _ => v

def clearError (v : BasicInfoView) : BasicInfoField → BasicInfoView
  | .name => { v with nameError := "" }
  | .username => { v with usernameError := "" }
  | .phoneNumber => { v with phoneError := "" }
  | .age => { v with ageError := "" }

end BasicInfoView

structure BasicInfoForm where
  view : BasicInfoView
  observed : BasicInfoField → String
  -- the text that the phone number was entered as
  entry : String

namespace BasicInfoForm

variable {CountryModel UIImage : Type} (rules : OnboardingText)

def appear (data : OnboardingData CountryModel UIImage) (entry : String) : BasicInfoForm where
  view := .appear rules data
  observed _ := ""
  entry := entry

/-- The field has a change that its `onChange` has not seen. -/
def Pending (form : BasicInfoForm) (field : BasicInfoField) : Prop :=
  form.view.text field ≠ form.observed field

instance (form : BasicInfoForm) (field : BasicInfoField) : Decidable (form.Pending field) :=
  inferInstanceAs (Decidable (_ ≠ _))

def Settled (form : BasicInfoForm) : Prop :=
  ¬ form.Pending .name ∧ ¬ form.Pending .username ∧ ¬ form.Pending .phoneNumber ∧ ¬ form.Pending .age

instance (form : BasicInfoForm) : Decidable form.Settled := inferInstanceAs (Decidable (_ ∧ _))

def type (form : BasicInfoForm) (field : BasicInfoField) (text : String) : BasicInfoForm :=
  { form with
    view := form.view.setText field text
    entry := if field = .phoneNumber then text else form.entry }

def onChange (form : BasicInfoForm) (field : BasicInfoField) : BasicInfoForm :=
  let newValue := form.view.text field
  { form with
    view := (form.view.onTextChange rules field newValue).clearError field
    observed := Function.update form.observed field newValue }

end BasicInfoForm

structure BasicInfoScreen (CountryModel UIImage : Type) where
  onboardingData : OnboardingData CountryModel UIImage
  -- the text that the stored phone number was entered as
  storedEntry : String
  form : Option BasicInfoForm

inductive BasicInfoEvent where
  | appear
  | type (field : BasicInfoField) (text : String)
  | onChange (field : BasicInfoField)
  | submit (field : BasicInfoField)
  | next
  | back
  deriving DecidableEq

namespace BasicInfoScreen

variable {CountryModel UIImage : Type} (rules : OnboardingText)

def initial : BasicInfoScreen CountryModel UIImage where
  onboardingData := .initial
  storedEntry := ""
  form := none

/-- The button `Next`, which is disabled unless the form is valid. -/
def next (s : BasicInfoScreen CountryModel UIImage) (form : BasicInfoForm) :
    Option (BasicInfoScreen CountryModel UIImage) :=
  if form.view.isFormValid then
    if form.view.fieldsValid rules then
      some ⟨form.view.saved s.onboardingData, form.entry, none⟩
    else some { s with form := some { form with view := form.view.validateAllFields rules } }
  else none

def step (s : BasicInfoScreen CountryModel UIImage) (event : BasicInfoEvent) :
    Option (BasicInfoScreen CountryModel UIImage) :=
  match s.form, event with
  | none, .appear => some { s with form := some (.appear rules s.onboardingData s.storedEntry) }
  | none, _ => none
  | some form, .onChange field =>
      if form.Pending field then some { s with form := some (form.onChange rules field) } else none
  | some form, event =>
      if form.Settled then
        match event with
        | .type field text => some { s with form := some (form.type field text) }
        | .submit field =>
            some { s with form := some { form with view := form.view.submit rules field } }
        | .next => s.next rules form
        | .back => some { s with form := none }
        | _ => none
      else none

end BasicInfoScreen

def basicInfo (CountryModel UIImage : Type) (rules : OnboardingText) :
    Machine (BasicInfoScreen CountryModel UIImage) BasicInfoEvent where
  Init s := s = BasicInfoScreen.initial
  step := BasicInfoScreen.step rules

end SkillTalk
