import SkillTalk.SkillDatabaseService

/-!
# The skill repository over the database service

Each call of the repository is one of the service whose errors are wrapped with a message; a trap
goes through. What is tracked of the calls is left out, and so are the stubs.
-/

namespace SkillTalk

inductive SkillRepositoryError where
  | fetchError (message : String)
  | searchError (message : String)
  deriving DecidableEq

namespace DatabaseRepository

variable {ε σ α : Type}

/-- `do`, and a `catch` that wraps what was thrown. -/
def rethrowing (wrap : ε → SkillRepositoryError) (run : EStateM (DatabaseFailure ε) σ α) :
    EStateM (DatabaseFailure SkillRepositoryError) σ α := fun s =>
  match run s with
  | .ok value t => .ok value t
  | .error (.thrown error) t => .error (.thrown (wrap error)) t
  | .error .trapped t => .error .trapped t

variable (files : DatabaseFiles ε) (localizedDescription : ε → String)

def getCategories (language : String) :
    EStateM (DatabaseFailure SkillRepositoryError) SkillDatabaseService (List SkillCategory) :=
  rethrowing
    (fun error => .fetchError ("Failed to fetch categories: " ++ localizedDescription error))
    ((skillDatabaseService files).loadCategories language)

def getSubcategories (categoryId language : String) :
    EStateM (DatabaseFailure SkillRepositoryError) SkillDatabaseService (List SkillSubcategory) :=
  rethrowing
    (fun error => .fetchError ("Failed to fetch subcategories: " ++ localizedDescription error))
    ((skillDatabaseService files).loadSubcategories categoryId language)

def getSkills (subcategoryId language : String) :
    EStateM (DatabaseFailure SkillRepositoryError) SkillDatabaseService (List Skill) :=
  rethrowing
    (fun error => .fetchError ("Failed to fetch skills: " ++ localizedDescription error))
    ((skillDatabaseService files).loadSkills subcategoryId language)

def searchSkills (contains : String → String → Bool) (query language : String) :
    EStateM (DatabaseFailure SkillRepositoryError) SkillDatabaseService (List Skill) :=
  rethrowing
    (fun error => .searchError ("Failed to search skills: " ++ localizedDescription error))
    ((skillDatabaseService files).searchSkills contains query language)

def getPopularSkills (language : String) (limit : Int) :
    EStateM (DatabaseFailure SkillRepositoryError) SkillDatabaseService (List Skill) :=
  rethrowing
    (fun error => .fetchError ("Failed to fetch popular skills: " ++ localizedDescription error))
    ((skillDatabaseService files).getPopularSkills language limit)

def getSkillsByDifficulty (difficulty : SkillDifficulty) (language : String) :
    EStateM (DatabaseFailure SkillRepositoryError) SkillDatabaseService (List Skill) :=
  rethrowing
    (fun error =>
      .fetchError ("Failed to fetch skills by difficulty: " ++ localizedDescription error))
    (do
      let allSkills ← (skillDatabaseService files).getPopularSkills language 1000
      return allSkills.filter fun skill => skill.difficulty = difficulty)

end DatabaseRepository

end SkillTalk
