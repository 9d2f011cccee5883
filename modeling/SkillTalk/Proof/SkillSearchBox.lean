import SkillTalk.Proof.SkillPicker

/-!
# The skill list and the search box

A search shows what it finds whatever the box holds by then, and a load of skills shows them all.
The list matches the box in the end as long as a search or load that finishes out of date is
followed by one that sets the list right. The invariant is that the list matches, or the edit's own
search is still to be run, or a task in flight will make the list match.
-/

namespace SkillTalk

open TaskPool SkillSelectionViewModel

variable {language : String} {repository : SkillRepository}

namespace SkillSelectionViewModel

variable (language repository) in
/-- The list is the search result for what the box holds, or all skills if it is empty. -/
def ListMatches (s : SkillSelectionViewModel) : Prop :=
  if s.searchQuery = "" then s.filteredSkills = s.skills
  else repository.searchSkills s.searchQuery language = .ok s.filteredSkills

variable (language repository) in
/-- The task will make the list match the query, if it succeeds. -/
def Repairs (searchQuery : String) : SelectionTask → Prop
  | .created .searchSkills => True
  | .created (.loadSkills _) => searchQuery = ""
  | .getSkills _ => searchQuery = ""
  | .searchSkills query =>
      searchQuery ≠ ""
        ∧ repository.searchSkills query language = repository.searchSkills searchQuery language
  | _ => False

theorem listMatches_of_empty {s : SkillSelectionViewModel} (hquery : s.searchQuery = "")
    (hlist : s.filteredSkills = s.skills) : s.ListMatches language repository := by
  rw [ListMatches, if_pos hquery]
  exact hlist

theorem listMatches_of_answer {s : SkillSelectionViewModel} (hquery : s.searchQuery ≠ "")
    (hlist : repository.searchSkills s.searchQuery language = .ok s.filteredSkills) :
    s.ListMatches language repository := by
  rw [ListMatches, if_neg hquery]
  exact hlist

theorem start_searchSkills {s : SkillSelectionViewModel} (h : s.searchQuery ≠ "") :
    s.start .searchSkills = (s.beginLoading, some (.searchSkills s.searchQuery)) := by
  simp [start, h]

theorem turn_searchSkills {s : SkillSelectionViewModel} {query : String}
    {searchResults : List Skill}
    (h : repository.searchSkills query language = .ok searchResults) :
    s.turn language repository (.searchSkills query)
      = ({ s with filteredSkills := searchResults, isLoading := false }, none) := by
  simp only [turn, h, finishLoading]

/-- The list matches, or the search that follows an edit is still to be run. -/
def MatchesOrDue (language : String) (repository : SkillRepository) (s : SkillSelectionViewModel) :
    Prop :=
  s.searchDue = true ∨ s.ListMatches language repository

end SkillSelectionViewModel

namespace SkillSelection

variable (language repository)

/-- The task may take its turn: it does not fail, and if it finishes out of date, then the list is
set right by what is still to come. -/
def TimelySearch (p : SkillSelection) (index : ℕ) : SelectionTask → Prop
  | .created (.loadSkills _) => p.shared.selectedCategory ≠ none
  | .searchSkills query =>
      (repository.searchSkills query language).isOk = true
        ∧ (p.shared.searchDue = true
          ∨ Repairs language repository p.shared.searchQuery (.searchSkills query)
          ∨ p.shared.searchQuery = ""
            ∧ repository.searchSkills query language = .ok p.shared.skills
          ∨ ∃ other ∈ p.tasks.eraseIdx index,
            Repairs language repository p.shared.searchQuery other)
  | .getSkills subcategoryId =>
      (repository.getSkills subcategoryId language).isOk = true
        ∧ (p.shared.searchDue = true
          ∨ Repairs language repository p.shared.searchQuery (.getSkills subcategoryId)
          ∨ p.shared.searchQuery ≠ ""
            ∧ repository.getSkills subcategoryId language
              = repository.searchSkills p.shared.searchQuery language
          ∨ ∃ other ∈ p.tasks.eraseIdx index,
            Repairs language repository p.shared.searchQuery other)
  | .getPopularSkills => False
  | .getSkillsByDifficulty _ => False
  | _ => True

/-- The box is edited and cleared, searches and loads of skills are started, and tasks take turns
that are timely. -/
def TimelySearches (p : SkillSelection) : SelectionAction → Prop
  | .editSearch _ => True
  | .searchSkills => True
  | .clearSearch => True
  | .loadSkills _ => True
  | .run index _ => ∀ task ∈ p.tasks[index]?, p.TimelySearch language repository index task
  | _ => False

def MatchesInTime (p : SkillSelection) : Prop :=
  p.Owed (MatchesOrDue language repository)
    fun _ => Repairs language repository p.shared.searchQuery

variable {language repository} {p q : SkillSelection} {index : ℕ}

theorem matchesOrDue_of_frame {s t : SkillSelectionViewModel}
    (h : s.MatchesOrDue language repository) (hdue : t.searchDue = s.searchDue)
    (hquery : t.searchQuery = s.searchQuery) (hskills : t.skills = s.skills)
    (hfiltered : t.filteredSkills = s.filteredSkills) : t.MatchesOrDue language repository := by
  rw [MatchesOrDue, ListMatches, hdue, hquery, hskills, hfiltered]
  exact h

theorem list_start {job : SelectionJob}
    (h : p.TimelySearch language repository index (.created job))
    (hpaid : p.shared.MatchesOrDue language repository
      ∨ Repairs language repository p.shared.searchQuery (.created job)) :
    (p.shared.start job).1.MatchesOrDue language repository
      ∨ ∃ next ∈ (p.shared.start job).2,
        Repairs language repository p.shared.searchQuery next := by
  cases job with
  | loadSkills subcategoryId =>
      rw [start_loadSkills h]
      rcases hpaid with hpaid | hrepairs
      · exact .inl (matchesOrDue_of_frame hpaid rfl rfl rfl rfl)
      · exact .inr ⟨_, rfl, hrepairs⟩
  | searchSkills =>
      by_cases hquery : p.shared.searchQuery = ""
      · rw [start_searchSkills_of_empty hquery]
        exact .inl (.inr (listMatches_of_empty hquery rfl))
      · rw [start_searchSkills hquery]
        exact .inr ⟨_, rfl, hquery, rfl⟩
  | _ => exact .inl (matchesOrDue_of_frame (hpaid.resolve_right id) rfl rfl rfl rfl)

/-- What a timely turn makes of the list. -/
theorem list_turn {task : SelectionTask} (h : p.TimelySearch language repository index task)
    (hpaid : p.shared.MatchesOrDue language repository
      ∨ Repairs language repository p.shared.searchQuery task) :
    (p.shared.turn language repository task).1.MatchesOrDue language repository
      ∨ (∃ next ∈ (p.shared.turn language repository task).2,
        Repairs language repository p.shared.searchQuery next)
      ∨ (p.shared.turn language repository task).2 = none
        ∧ ∃ other ∈ p.tasks.eraseIdx index,
          Repairs language repository p.shared.searchQuery other := by
  cases task with
  | created job => exact (list_start h hpaid).imp_right .inl
  | searchSkills query =>
      obtain ⟨hok, hcurrent⟩ := h
      obtain ⟨searchResults, hanswer⟩ := exists_of_isOk hok
      rw [turn_searchSkills hanswer]
      rcases hcurrent with hdue | ⟨hquery, hsame⟩ | ⟨hquery, hskills⟩ | hother
      · exact .inl (.inl hdue)
      · refine .inl (.inr (listMatches_of_answer hquery ?_))
        exact hsame.symm.trans hanswer
      · refine .inl (.inr (listMatches_of_empty hquery ?_))
        exact Except.ok.inj (hanswer.symm.trans hskills)
      · exact .inr (.inr ⟨rfl, hother⟩)
  | getSkills subcategoryId =>
      obtain ⟨hok, hcurrent⟩ := h
      obtain ⟨skills, hanswer⟩ := exists_of_isOk hok
      rw [turn_getSkills hanswer]
      rcases hcurrent with hdue | hquery | ⟨hquery, hsame⟩ | hother
      · exact .inl (.inl hdue)
      · exact .inl (.inr (listMatches_of_empty hquery rfl))
      · refine .inl (.inr (listMatches_of_answer hquery ?_))
        exact hsame.symm.trans hanswer
      · exact .inr (.inr ⟨rfl, hother⟩)
  | getPopularSkills => exact absurd h id
  | getSkillsByDifficulty difficulty => exact absurd h id
  | _ =>
      have hkept := hpaid.resolve_right id
      refine .inl ?_
      simp only [turn, finishLoading]
      split <;> exact matchesOrDue_of_frame hkept rfl rfl rfl rfl

theorem MatchesInTime.step {action : SelectionAction}
    (h : p.MatchesInTime language repository)
    (hstep : p.step language (fun _ => repository) action = some q)
    (htimely : p.TimelySearches language repository action) :
    q.MatchesInTime language repository := by
  cases action with
  | editSearch query =>
      rw [← Option.some.inj hstep]
      exact .inl (.inl rfl)
  | searchSkills =>
      rw [← Option.some.inj hstep]
      exact .inr ⟨.created .searchSkills, by simp [act], trivial⟩
  | clearSearch =>
      rw [← Option.some.inj hstep]
      exact .inl (.inr (listMatches_of_empty rfl rfl))
  | loadSkills subcategoryId =>
      rw [← Option.some.inj hstep]
      exact owed_act h id fun _ => id
  | run index answeredBy =>
      have hrun : p.run (turn language repository) index = some q := hstep
      have howed := h.of_run_ended hrun fun task htask => list_turn (htimely task htask)
      obtain ⟨before, task, after, -, -, hq⟩ := run_eq_some hrun
      have hquery : q.shared.searchQuery = p.shared.searchQuery := by
        rw [hq]
        exact (turn_selection language repository p.shared task).2.2.1
      rw [MatchesInTime, hquery]
      exact howed
  | _ => exact absurd htimely id

/-- **The list matches the box** whenever nothing is in flight, in every run from a state where it
does in which calls succeed and none that is out of date has the last word. The search that follows
`clearSearch` may still be to come. -/
theorem list_matches_search_box (language : String) (repository : SkillRepository)
    (start : SkillSelectionViewModel) (hstart : start.ListMatches language repository)
    (p : SkillSelection)
    (hp : (skillSelection language (fun _ => repository) start).ReachableWhere
      (TimelySearches language repository) p)
    (hidle : p.tasks = []) (hdue : p.shared.searchDue = false) :
    p.shared.ListMatches language repository := by
  have hmatches : p.MatchesInTime language repository := by
    refine Machine.ReachableWhere.invariant (MatchesInTime language repository) ?_ ?_ hp
    · rintro p rfl
      exact .inl (.inr hstart)
    · exact fun p action q _ h htimely hstep => h.step hstep htimely
  rcases hmatches.paid hidle with hlate | hlist
  · rw [hdue] at hlate
    cases hlate
  · exact hlist

instance (s : SkillSelectionViewModel) : Decidable (s.ListMatches language repository) :=
  inferInstanceAs (Decidable (if s.searchQuery = "" then s.filteredSkills = s.skills
    else repository.searchSkills s.searchQuery language = .ok s.filteredSkills))

instance (searchQuery : String) (task : SelectionTask) :
    Decidable (Repairs language repository searchQuery task) :=
  match task with
  | .created .searchSkills => isTrue trivial
  | .created (.loadSkills _) => inferInstanceAs (Decidable (_ = _))
  | .getSkills _ => inferInstanceAs (Decidable (_ = _))
  | .searchSkills _ => inferInstanceAs (Decidable (_ ∧ _))
  | .created .loadCategories => isFalse id
  | .created (.loadSubcategories _) => isFalse id
  | .created .loadPopularSkills => isFalse id
  | .created (.loadSkillsByDifficulty _) => isFalse id
  | .getCategories => isFalse id
  | .getSubcategories _ => isFalse id
  | .getPopularSkills => isFalse id
  | .getSkillsByDifficulty _ => isFalse id

instance (p : SkillSelection) (index : ℕ) (task : SelectionTask) :
    Decidable (p.TimelySearch language repository index task) :=
  match task with
  | .created (.loadSkills _) => inferInstanceAs (Decidable (_ ≠ _))
  | .searchSkills _ => inferInstanceAs (Decidable (_ ∧ _))
  | .getSkills _ => inferInstanceAs (Decidable (_ ∧ _))
  | .getPopularSkills => isFalse id
  | .getSkillsByDifficulty _ => isFalse id
  | .created .loadCategories => isTrue trivial
  | .created (.loadSubcategories _) => isTrue trivial
  | .created .searchSkills => isTrue trivial
  | .created .loadPopularSkills => isTrue trivial
  | .created (.loadSkillsByDifficulty _) => isTrue trivial
  | .getCategories => isTrue trivial
  | .getSubcategories _ => isTrue trivial

instance (p : SkillSelection) (action : SelectionAction) :
    Decidable (p.TimelySearches language repository action) :=
  match action with
  | .run _ _ => inferInstanceAs (Decidable (∀ _ ∈ _, _))
  | .editSearch _ => isTrue trivial
  | .searchSkills => isTrue trivial
  | .clearSearch => isTrue trivial
  | .loadSkills _ => isTrue trivial
  | .loadCategories => isFalse id
  | .selectCategory _ => isFalse id
  | .selectSubcategory _ => isFalse id
  | .goBack => isFalse id
  | .loadPopularSkills => isFalse id
  | .loadSkillsByDifficulty _ => isFalse id
  | .clearSelections => isFalse id

/-- A search finds the one skill whose name is searched for. -/
def namedRepository : SkillRepository where
  getCategories _ := .ok []
  getSubcategories _ _ := .ok []
  getSkills _ _ := .ok []
  searchSkills query _ := .ok [⟨query, "music", query, .beginner, 0, none, [], none⟩]
  getPopularSkills _ _ := .ok []
  getSkillsByDifficulty _ _ := .ok []

/-- The box is edited twice, and the searches for both texts are under way. -/
def editedTwice : List SelectionAction :=
  [.editSearch "jazz", .searchSkills, .run 0 0, .editSearch "rock", .searchSkills, .run 1 0]

/-- The search for the first text finishes before that for the second. -/
theorem list_matches_search_box_of_edited :
    ∃ p, (skillSelection "en" (fun _ => namedRepository) .initial).exec ⟨.initial, []⟩
        (editedTwice ++ [.run 0 0, .run 0 0]) = some p
      ∧ p.shared.searchQuery = "rock" ∧ p.shared.ListMatches "en" namedRepository := by
  obtain ⟨p, hexec, hreach, hend⟩ :
      ∃ p, (skillSelection "en" (fun _ => namedRepository) .initial).exec ⟨.initial, []⟩
          (editedTwice ++ [.run 0 0, .run 0 0]) = some p
        ∧ (skillSelection "en" (fun _ => namedRepository) .initial).ReachableWhere
          (TimelySearches "en" namedRepository) p
        ∧ (p.tasks.isEmpty && !p.shared.searchDue && decide (p.shared.searchQuery = "rock"))
          = true :=
    Machine.exists_reachableWhere rfl _ (by decide +kernel) (by decide +kernel)
  simp only [Bool.and_eq_true, List.isEmpty_iff, Bool.not_eq_true', decide_eq_true_eq] at hend
  obtain ⟨⟨hidle, hdue⟩, hquery⟩ := hend
  exact ⟨p, hexec, hquery, list_matches_search_box "en" namedRepository .initial (by decide) p hreach
    hidle hdue⟩

/-- The search for the first text finishes last. -/
theorem list_shows_earlier_search :
    ∃ (language : String) (repository : SkillRepository) (p : SkillSelection),
      (skillSelection language (fun _ => repository) .initial).Reachable p ∧ p.tasks = []
        ∧ p.shared.searchDue = false ∧ ¬ p.shared.ListMatches language repository := by
  obtain ⟨p, -, hreach, hend⟩ :
      ∃ p, (skillSelection "en" (fun _ => namedRepository) .initial).exec ⟨.initial, []⟩
          (editedTwice ++ [.run 1 0, .run 0 0]) = some p
        ∧ (skillSelection "en" (fun _ => namedRepository) .initial).Reachable p
        ∧ (p.tasks.isEmpty && !p.shared.searchDue
          && !decide (p.shared.ListMatches "en" namedRepository)) = true :=
    Machine.exists_reachableWhere rfl _ (by decide +kernel) (by decide +kernel)
  simp only [Bool.and_eq_true, List.isEmpty_iff, Bool.not_eq_true', decide_eq_false_iff_not] at hend
  exact ⟨"en", namedRepository, p, hreach, hend.1.1, hend.1.2, hend.2⟩

end SkillSelection

end SkillTalk
