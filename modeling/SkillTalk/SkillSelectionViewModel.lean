import SkillTalk.Library.TaskPool
import SkillTalk.SkillModels

/-!
# The skill selection view model

The view model's loads are tasks on the main actor. Each runs from its start to its call of the
repository, and from the answer to its end, and in between other tasks and the user's actions may
come. Each answer is given by one of a family of repositories, so that answers may differ from one
call to the next.

`searchQuery` is published, which has `searchSkills` run some time later, once for several changes
that come close together: after edits of the search box, after the view model empties the query and
after it is set up. It may also run at any other time.
-/

namespace SkillTalk

inductive SkillSelectionStep where
  | categories
  | subcategories
  | skills
  deriving DecidableEq, Repr

/-- What the calls of a repository answer; searches pass no filters. -/
structure SkillRepository where
  getCategories : (language : String) → Except String (List SkillCategory)
  getSubcategories : (categoryId language : String) → Except String (List SkillSubcategory)
  getSkills : (subcategoryId language : String) → Except String (List Skill)
  searchSkills : (query language : String) → Except String (List Skill)
  getPopularSkills : (language : String) → (limit : ℕ) → Except String (List Skill)
  getSkillsByDifficulty : SkillDifficulty → (language : String) → Except String (List Skill)

structure SkillSelectionViewModel where
  categories : List SkillCategory
  subcategories : List SkillSubcategory
  skills : List Skill
  selectedSkills : List Skill
  isLoading : Bool
  errorMessage : Option String
  currentStep : SkillSelectionStep
  selectedCategory : Option SkillCategory
  selectedSubcategory : Option SkillSubcategory
  searchQuery : String
  filteredSkills : List Skill
  -- the search box was edited and `searchSkills` has not been called since
  searchDue : Bool
  -- likewise, but the view model was set up or emptied the query itself
  emptiedDue : Bool

inductive SelectionJob where
  | loadCategories
  | loadSubcategories (categoryId : String)
  | loadSkills (subcategoryId : String)
  | searchSkills
  | loadPopularSkills
  | loadSkillsByDifficulty (difficulty : SkillDifficulty)
  deriving DecidableEq

/-- A task that has not started, or the call of the repository it is suspended in. -/
inductive SelectionTask where
  | created (job : SelectionJob)
  | getCategories
  | getSubcategories (categoryId : String)
  | getSkills (subcategoryId : String)
  | searchSkills (query : String)
  | getPopularSkills
  | getSkillsByDifficulty (difficulty : SkillDifficulty)
  deriving DecidableEq

namespace SkillSelectionViewModel

def initial : SkillSelectionViewModel where
  categories := []
  subcategories := []
  skills := []
  selectedSkills := []
  isLoading := false
  errorMessage := none
  currentStep := .categories
  selectedCategory := none
  selectedSubcategory := none
  searchQuery := ""
  filteredSkills := []
  searchDue := false
  emptiedDue := true

/-- `selectCategory` without the task it creates; likewise `selectSubcategory`. -/
def selectCategory (s : SkillSelectionViewModel) (category : SkillCategory) :
    SkillSelectionViewModel :=
  { s with selectedCategory := some category, currentStep := .subcategories }

def selectSubcategory (s : SkillSelectionViewModel) (subcategory : SkillSubcategory) :
    SkillSelectionViewModel :=
  { s with selectedSubcategory := some subcategory, currentStep := .skills }

/-- `toggleSkill` is another name for it. A skill is looked for whole and removed by its id. -/
def selectSkill (s : SkillSelectionViewModel) (skill : Skill) : SkillSelectionViewModel :=
  if skill ∈ s.selectedSkills then
    { s with selectedSkills := s.selectedSkills.filter fun other => other.id != skill.id }
  else { s with selectedSkills := s.selectedSkills ++ [skill] }

abbrev toggleSkill := selectSkill

def isVIPUpgradeNeeded (_ : SkillSelectionViewModel) : Bool := false

def canGoBack (s : SkillSelectionViewModel) : Bool :=
  match s.currentStep with
  | .categories => false
  | .subcategories | .skills => true

def goBack (s : SkillSelectionViewModel) : SkillSelectionViewModel :=
  match s.currentStep with
  | .categories => s
  | .subcategories =>
      { s with currentStep := .categories, selectedCategory := none, subcategories := [] }
  | .skills =>
      { s with
        currentStep := .subcategories
        selectedSubcategory := none
        skills := []
        filteredSkills := [] }

def editSearch (s : SkillSelectionViewModel) (query : String) : SkillSelectionViewModel :=
  { s with searchQuery := query, searchDue := true }

def clearSearch (s : SkillSelectionViewModel) : SkillSelectionViewModel :=
  { s with searchQuery := "", filteredSkills := s.skills, emptiedDue := true }

def clearSelections (s : SkillSelectionViewModel) : SkillSelectionViewModel :=
  { s with
    selectedSkills := []
    selectedCategory := none
    selectedSubcategory := none
    currentStep := .categories
    searchQuery := ""
    filteredSkills := []
    emptiedDue := true }

def beginLoading (s : SkillSelectionViewModel) : SkillSelectionViewModel :=
  { s with isLoading := true, errorMessage := none }

/-- The end of a load: its answer is shown, or the failure reported. -/
def finishLoading {α : Type} (s : SkillSelectionViewModel) (failure : String)
    (answer : Except String α) (present : α → SkillSelectionViewModel) : SkillSelectionViewModel :=
  match answer with
  | .ok value => { present value with isLoading := false }
  | .error description =>
      { s with errorMessage := some (failure ++ ": " ++ description), isLoading := false }

/-- A task from its start to its call of the repository, or to its end if it makes none. -/
def start (s : SkillSelectionViewModel) :
    SelectionJob → SkillSelectionViewModel × Option SelectionTask
  | .loadCategories => (s.beginLoading, some .getCategories)
  | .loadSubcategories categoryId => (s.beginLoading, some (.getSubcategories categoryId))
  | .loadSkills subcategoryId =>
      match s.selectedCategory with
      | none =>
          ({ s.beginLoading with errorMessage := some "No category selected", isLoading := false },
            none)
      | some _ => (s.beginLoading, some (.getSkills subcategoryId))
  | .searchSkills =>
      if s.searchQuery = "" then ({ s with filteredSkills := s.skills }, none)
      else (s.beginLoading, some (.searchSkills s.searchQuery))
  | .loadPopularSkills => (s.beginLoading, some .getPopularSkills)
  | .loadSkillsByDifficulty difficulty =>
      (s.beginLoading, some (.getSkillsByDifficulty difficulty))

variable (language : String) (repository : SkillRepository)

/-- `loadPopularSkills` and `loadSkillsByDifficulty` go to the skills step with their answer. -/
def showSkills (s : SkillSelectionViewModel) (skills : List Skill) : SkillSelectionViewModel :=
  { s with skills := skills, filteredSkills := skills, currentStep := .skills }

/-- A task from its start to its suspension, or from the repository's answer to its end. -/
def turn (s : SkillSelectionViewModel) :
    SelectionTask → SkillSelectionViewModel × Option SelectionTask
  | .created job => s.start job
  | .getCategories =>
      (s.finishLoading "Failed to load categories" (repository.getCategories language)
        fun categories => { s with categories := categories }, none)
  | .getSubcategories categoryId =>
      (s.finishLoading "Failed to load subcategories"
        (repository.getSubcategories categoryId language)
        fun subcategories => { s with subcategories := subcategories }, none)
  | .getSkills subcategoryId =>
      (s.finishLoading "Failed to load skills" (repository.getSkills subcategoryId language)
        fun skills => { s with skills := skills, filteredSkills := skills }, none)
  | .searchSkills query =>
      (s.finishLoading "Failed to search skills" (repository.searchSkills query language)
        fun searchResults => { s with filteredSkills := searchResults }, none)
  | .getPopularSkills =>
      (s.finishLoading "Failed to load popular skills" (repository.getPopularSkills language 50)
        s.showSkills, none)
  | .getSkillsByDifficulty difficulty =>
      (s.finishLoading "Failed to load skills by difficulty"
        (repository.getSkillsByDifficulty difficulty language) s.showSkills, none)

end SkillSelectionViewModel

inductive SelectionAction where
  | loadCategories
  | selectCategory (category : SkillCategory)
  | selectSubcategory (subcategory : SkillSubcategory)
  | goBack
  | editSearch (query : String)
  | searchSkills
  | clearSearch
  | loadSkills (subcategoryId : String)
  | loadPopularSkills
  | loadSkillsByDifficulty (difficulty : SkillDifficulty)
  | clearSelections
  | run (index answeredBy : ℕ)

abbrev SkillSelection := TaskPool SkillSelectionViewModel SelectionTask

namespace SkillSelection

/-- An action of the view model on its state, and the task it creates. -/
def act (p : SkillSelection) (s : SkillSelectionViewModel) (job : Option SelectionJob) :
    SkillSelection :=
  ⟨s, p.tasks ++ (job.map SelectionTask.created).toList⟩

def step (language : String) (repositories : ℕ → SkillRepository) (p : SkillSelection) :
    SelectionAction → Option SkillSelection
  | .loadCategories => some (p.act p.shared (some .loadCategories))
  | .selectCategory category =>
      some (p.act (p.shared.selectCategory category) (some (.loadSubcategories category.id)))
  | .selectSubcategory subcategory =>
      some (p.act (p.shared.selectSubcategory subcategory) (some (.loadSkills subcategory.id)))
  | .goBack => some (p.act p.shared.goBack none)
  | .editSearch query => some (p.act (p.shared.editSearch query) none)
  | .searchSkills =>
      some (p.act { p.shared with searchDue := false, emptiedDue := false } (some .searchSkills))
  | .clearSearch => some (p.act p.shared.clearSearch none)
  | .loadSkills subcategoryId => some (p.act p.shared (some (.loadSkills subcategoryId)))
  | .loadPopularSkills => some (p.act p.shared (some .loadPopularSkills))
  | .loadSkillsByDifficulty difficulty =>
      some (p.act p.shared (some (.loadSkillsByDifficulty difficulty)))
  | .clearSelections => some (p.act p.shared.clearSelections none)
  | .run index answeredBy =>
      p.run (SkillSelectionViewModel.turn language (repositories answeredBy)) index

end SkillSelection

/-- The view model from a given state on, nothing in flight. -/
def skillSelection (language : String) (repositories : ℕ → SkillRepository)
    (start : SkillSelectionViewModel) : Machine SkillSelection SelectionAction where
  Init p := p = ⟨start, []⟩
  step := SkillSelection.step language repositories

end SkillTalk
