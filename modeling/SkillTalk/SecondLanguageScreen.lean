import SkillTalk.Library.Machine
import SkillTalk.OnboardingContainerView

/-!
# The second language screen, one event at a time

A tap on a language's row has the proficiency sheet asked for a moment later, through a variable
that all taps share. SwiftUI puts the sheet on screen when it renders next, with the language that
is in the variable then, and takes it off some time after it was dismissed, so one sheet may be
picked from more than once. Taps, removals and picks may come in between; a row may still be tapped
after its language was selected.
-/

namespace SkillTalk

/-- The closure that the sheet is given, for the language it was made with. -/
def SecondLanguageView.onSelect (vip : VIPService) (v : SecondLanguageView) (language : Language)
    (proficiency : LanguageProficiency) : SecondLanguageView :=
  if !v.isLanguageSelected language
      && vip.canSelectAdditionalLanguage v.selectedLanguages.length then
    ⟨v.selectedLanguages ++ [⟨language, proficiency⟩]⟩
  else v

structure SecondLanguageScreen where
  view : SecondLanguageView
  tempLanguage : Option Language
  showingProficiencyPicker : Bool
  -- the rows tapped whose delayed block has yet to run
  delayed : List Language
  -- the language of the sheet on screen
  sheet : Option Language
  deriving DecidableEq

inductive SecondLanguageEvent where
  | tapRow (language : Language)
  | runDelayed (index : ℕ)
  | render
  | pick (proficiency : LanguageProficiency)
  | dismiss
  | remove (language : Language)
  | changeProficiency (language : Language) (proficiency : LanguageProficiency)
  | appear
  deriving DecidableEq

namespace SecondLanguageScreen

def initial : SecondLanguageScreen where
  view := .appear
  tempLanguage := none
  showingProficiencyPicker := false
  delayed := []
  sheet := none

variable (vip : VIPService)

def tapRow (s : SecondLanguageScreen) (language : Language) : SecondLanguageScreen :=
  if vip.canSelectAdditionalLanguage s.view.selectedLanguages.length then
    { s with delayed := s.delayed ++ [language] }
  else s

def runDelayed (s : SecondLanguageScreen) (index : ℕ) : Option SecondLanguageScreen :=
  s.delayed[index]?.map fun language =>
    { s with
      tempLanguage := some language
      showingProficiencyPicker := true
      delayed := s.delayed.eraseIdx index }

/-- Without a language the sheet has no content. -/
def render (s : SecondLanguageScreen) : SecondLanguageScreen :=
  { s with sheet := if s.showingProficiencyPicker then s.tempLanguage else none }

def pick (s : SecondLanguageScreen) (proficiency : LanguageProficiency) :
    Option SecondLanguageScreen :=
  s.sheet.map fun language =>
    { s with
      view := s.view.onSelect vip language proficiency
      tempLanguage := none
      showingProficiencyPicker := false }

def step (s : SecondLanguageScreen) : SecondLanguageEvent → Option SecondLanguageScreen
  | .tapRow language => some (s.tapRow vip language)
  | .runDelayed index => s.runDelayed index
  | .render => some s.render
  | .pick proficiency => s.pick vip proficiency
  | .dismiss => some { s with showingProficiencyPicker := false }
  | .remove language => some { s with view := s.view.removeLanguage language }
  | .changeProficiency language proficiency =>
      some { s with view := s.view.updateProficiency language proficiency }
  | .appear => some { s with view := .appear }

end SecondLanguageScreen

def secondLanguageScreen (vip : VIPService) : Machine SecondLanguageScreen SecondLanguageEvent where
  Init s := s = .initial
  step := SecondLanguageScreen.step vip

end SkillTalk
