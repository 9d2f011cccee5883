import SkillTalk.Library.StableRank
import SkillTalk.Proof.SkillSearch
import SkillTalk.Proof.TopSkills
import SkillTalk.SkillRepository

/-!
# Which skills of a difficulty are found

Filtering by difficulty asks for the 1000 most popular skills first. An entry gets through when
fewer than 1000 entries precede it in order of popularity, so the skills of a difficulty are found
each once exactly when these are the first entries of their skills.
-/

namespace SkillTalk

open Refinement SkillDatabaseService StableRank TopK

namespace DatabaseRepository

variable {ε : Type} {difficulty : SkillDifficulty} {offered : List Skill}

/-- The order in which the popular skills are sorted. -/
def popularityLE (a b : Skill) : Bool := !decide (b.popularity > a.popularity)

theorem popularityLE_iff {a b : Skill} : popularityLE a b = true ↔ b.popularity ≤ a.popularity := by
  simp [popularityLE]

theorem popularityLE_trans (a b c : Skill) (hab : popularityLE a b = true)
    (hbc : popularityLE b c = true) : popularityLE a c = true :=
  descendingLE_trans a b c hab hbc

theorem popularityLE_total (a b : Skill) : (popularityLE a b || popularityLE b a) = true :=
  descendingLE_total a b

/-- The number of entries that precede this one in order of popularity, those as popular in the
order in which they are offered. -/
def popularityRank (offered : List Skill) (position : ℕ) (skill : Skill) : ℕ :=
  offered.zipIdx.countP fun other =>
    skill.popularity < other.1.popularity
      ∨ other.1.popularity = skill.popularity ∧ other.2 < position

theorem popularityRank_eq_rank (position : ℕ) (skill : Skill) :
    popularityRank offered position skill = rank popularityLE offered (skill, position) := by
  apply List.countP_congr
  intro other _
  simp only [decide_eq_true_eq, Before, popularityLE_iff]
  constructor
  · rintro (hlt | ⟨heq, hpos⟩)
    · exact ⟨by omega, fun hle => by omega⟩
    · exact ⟨by omega, fun _ => hpos⟩
  · rintro ⟨hle, hpos⟩
    by_cases heq : other.1.popularity = skill.popularity
    · exact .inr ⟨heq, hpos (by omega)⟩
    · exact .inl (by omega)

/-- Each skill of the difficulty that is offered is found once, and nothing else is found. -/
def ListsEach (difficulty : SkillDifficulty) (offered found : List Skill) : Prop :=
  ∀ skill, found.count skill
    = if skill ∈ offered ∧ skill.difficulty = difficulty then 1 else 0

theorem ListsEach.mem {skills : List Skill} (h : ListsEach difficulty offered skills)
    {skill : Skill} (hoffered : skill ∈ offered) (hskill : skill.difficulty = difficulty) :
    skill ∈ skills := by
  apply List.count_pos_iff.mp
  rw [h skill, if_pos ⟨hoffered, hskill⟩]
  exact Nat.one_pos

/-- Of the entries of the difficulty, those among the 1000 most popular are the first ones of their
skills. -/
def FirstsLead (difficulty : SkillDifficulty) (offered : List Skill) : Prop :=
  ∀ position skill, offered[position]? = some skill → skill.difficulty = difficulty →
    (popularityRank offered position skill < 1000 ↔ skill ∉ offered.take position)

/-- The skills found when these are offered. -/
def found (difficulty : SkillDifficulty) (offered : List Skill) : List Skill :=
  ((offered.mergeSort popularityLE).take 1000).filter fun skill => skill.difficulty = difficulty

theorem count_found {skill : Skill} : (found difficulty offered).count skill
    = if skill.difficulty = difficulty then ((offered.mergeSort popularityLE).take 1000).count skill
      else 0 := by
  by_cases hskill : skill.difficulty = difficulty
  · rw [if_pos hskill, found, List.count_filter (by simpa using hskill)]
  · rw [if_neg hskill, List.count_eq_zero, found, List.mem_filter]
    rintro ⟨-, hmem⟩
    exact hskill (of_decide_eq_true hmem)

theorem listsEach_found_iff :
    ListsEach difficulty offered (found difficulty offered) ↔ FirstsLead difficulty offered := by
  have hone : ∀ skill ∈ offered, ((offered.mergeSort popularityLE).take 1000).count skill = 1
      ↔ ∀ position, offered[position]? = some skill →
          (popularityRank offered position skill < 1000 ↔ skill ∉ offered.take position) := by
    intro skill hmem
    rw [count_take_eq_one_iff popularityLE_trans popularityLE_total hmem]
    simp only [popularityRank_eq_rank]
    exact Iff.rfl
  constructor
  · intro hlists position skill hget hskill
    have hmem : skill ∈ offered := List.mem_of_getElem? hget
    have hcount := hlists skill
    rw [count_found, if_pos hskill, if_pos ⟨hmem, hskill⟩] at hcount
    exact (hone skill hmem).mp hcount position hget
  · intro hlead skill
    rw [count_found]
    by_cases hskill : skill.difficulty = difficulty
    · by_cases hmem : skill ∈ offered
      · rw [if_pos hskill, if_pos ⟨hmem, hskill⟩]
        exact (hone skill hmem).mpr fun position hget => hlead position skill hget hskill
      · rw [if_pos hskill, if_neg fun h => hmem h.1, List.count_eq_zero]
        intro htaken
        exact hmem (List.mem_mergeSort.mp (List.mem_of_mem_take htaken))
    · rw [if_neg hskill, if_neg fun h => hskill h.2]

theorem rethrowing_of_ok {σ α : Type} {wrap : ε → SkillRepositoryError}
    {run : EStateM (DatabaseFailure ε) σ α} {s t : σ} {value : α} (h : run s = .ok value t) :
    rethrowing wrap run s = .ok value t := by
  simp only [rethrowing, h]

theorem getSkillsByDifficulty_eq {files : DatabaseFiles ε} {localizedDescription : ε → String}
    {language : String} {s t : SkillDatabaseService}
    (hload : (skillDatabaseService files).loadAllSkills language s = .ok offered t) :
    getSkillsByDifficulty files localizedDescription difficulty language s
      = .ok (found difficulty offered) t := by
  have hpopular : (skillDatabaseService files).getPopularSkills language 1000 s
      = .ok ((offered.mergeSort popularityLE).take 1000) t := getPopularSkills_eq hload 1000
  apply rethrowing_of_ok
  change EStateM.bind _ _ s = _
  rw [EStateM.bind, hpopular]
  rfl

/-- **Filtering finds what the query let through.** Whatever the service has cached, the skills of a
difficulty that it offers are found each once, and no other, exactly when their first entries are
the ones among the 1000 most popular. -/
theorem difficulty_filter_complete (files : DatabaseFiles ε) (localizedDescription : ε → String)
    (difficulty : SkillDifficulty) {language : String} {s t : SkillDatabaseService}
    (hload : (skillDatabaseService files).loadAllSkills language s = .ok offered t) :
    ∃ skills, getSkillsByDifficulty files localizedDescription difficulty language s = .ok skills t
      ∧ (ListsEach difficulty offered skills ↔ FirstsLead difficulty offered) :=
  ⟨found difficulty offered, getSkillsByDifficulty_eq hload, listsEach_found_iff⟩

/-- The sample's one skill is intermediate, and is found. -/
theorem difficulty_filter_complete_of_sample :
    ∃ skills t, getSkillsByDifficulty sampleFiles id .intermediate "en" initial = .ok skills t
      ∧ ListsEach .intermediate [⟨"skill_1", "music_guitar", "Fingerstyle", .intermediate, 80, none,
          ["strings"], none⟩] skills := by
  obtain ⟨t, hload⟩ : ∃ t, (skillDatabaseService sampleFiles).loadAllSkills "en" initial
      = .ok [⟨"skill_1", "music_guitar", "Fingerstyle", .intermediate, 80, none, ["strings"], none⟩]
          t := ⟨_, rfl⟩
  obtain ⟨skills, hfound, hiff⟩ := difficulty_filter_complete sampleFiles id .intermediate hload
  refine ⟨skills, t, hfound, hiff.mpr ?_⟩
  intro position skill hget _
  have hrank : popularityRank [⟨"skill_1", "music_guitar", "Fingerstyle", .intermediate, 80, none,
      ["strings"], none⟩] position skill ≤ 1 := List.countP_le_length
  have hzero : position = 0 := by
    have hlt := (List.getElem?_eq_some_iff.mp hget).1
    simpa using hlt
  refine iff_of_true (by omega) ?_
  simp [hzero]

/-! ### A database of many skills -/

def exerciseId (n : ℕ) : String := String.ofList (List.replicate n 's')

def exercise (n : ℕ) : CoreSkill :=
  ⟨exerciseId n, "music_guitar", 1, 80, false, false, [], ∅⟩

theorem nodup_exerciseId (count : ℕ) : ((List.range count).map exerciseId).Nodup := by
  apply List.nodup_range.map
  intro m n h
  have hlist : List.replicate m 's' = List.replicate n 's' := by
    simpa [exerciseId] using congrArg String.toList h
  simpa using congrArg List.length hlist

/-- As the sample, with as many beginners' skills. -/
def exerciseFiles (count : ℕ) : DatabaseFiles String :=
  { sampleFiles with
    coreSkills := fun _ => .ok ((List.range count).map exercise)
    skillTranslations := fun _ => .ok ((List.range count).map fun n => ⟨exerciseId n, "Exercise"⟩) }

def exerciseContent (count : ℕ) : LanguageFiles (exerciseFiles count) "en" where
  coreCategories := [⟨"music", none, none, 1⟩]
  coreSubcategories := [⟨"music_guitar", "music", none, 1⟩]
  coreSkills := (List.range count).map exercise
  categoryTranslations := [⟨"music", "Music"⟩]
  subcategoryTranslations := [⟨"music_guitar", "Guitar"⟩]
  skillTranslations := (List.range count).map fun n => ⟨exerciseId n, "Exercise"⟩
  reads_coreCategories := rfl
  reads_coreSubcategories := rfl
  reads_coreSkills := rfl
  reads_categoryTranslations := rfl
  reads_subcategoryTranslations := rfl
  reads_skillTranslations := rfl
  nodup_coreCategories := List.nodup_singleton _
  nodup_coreSubcategories := List.nodup_singleton _
  nodup_coreSkills := by
    rw [List.map_map]
    exact nodup_exerciseId count
  nodup_categoryTranslations := List.nodup_singleton _
  nodup_subcategoryTranslations := List.nodup_singleton _
  nodup_skillTranslations := by
    rw [List.map_map]
    exact nodup_exerciseId count

theorem mem_visibleSkills_exerciseContent {count n : ℕ} (hn : n < count) :
    (exercise n).translated "Exercise" ∈ (exerciseContent count).visibleSkills := by
  have hskill : exercise n ∈ (exerciseContent count).coreSkills :=
    List.mem_map.mpr ⟨n, List.mem_range.mpr hn, rfl⟩
  have hname : (⟨exerciseId n, "Exercise"⟩ : NameTranslation)
      ∈ (exerciseContent count).skillTranslations :=
    List.mem_map.mpr ⟨n, List.mem_range.mpr hn, rfl⟩
  refine (exerciseContent count).mem_visibleSkills.mpr ⟨exercise n, ?_, _, hname, rfl,
    presentsAs_iff.mpr rfl⟩
  refine ⟨hskill, ⟨_, hname, rfl⟩, ⟨"music_guitar", "music", none, 1⟩, ?_⟩
  simp [exerciseContent, exercise]

theorem loadAllSkills_exerciseFiles (count : ℕ) :
    ∃ t, (skillDatabaseService (exerciseFiles count)).loadAllSkills "en" initial
      = .ok (exerciseContent count).visibleSkills t := by
  have hlanguage : '_' ∉ "en".toList := by simp
  obtain ⟨t, -, hload⟩ := loadAllSkills_refines (exerciseFiles count) hlanguage initial
    (entriesRead_initial (exerciseFiles count))
  rw [(exerciseContent count).loadAllSkills_eq] at hload
  exact ⟨t, hload⟩

theorem not_listsEach_exercises {count : ℕ} (hcount : 1000 < count) :
    ¬ ListsEach .beginner (exerciseContent count).visibleSkills
      (found .beginner (exerciseContent count).visibleSkills) := by
  intro hlists
  have hsub : (List.range count).map exerciseId
      ⊆ (found .beginner (exerciseContent count).visibleSkills).map Skill.id := by
    intro id hid
    obtain ⟨n, hn, rfl⟩ := List.mem_map.mp hid
    have hvisible := mem_visibleSkills_exerciseContent (List.mem_range.mp hn)
    exact List.mem_map.mpr ⟨_, hlists.mem hvisible rfl, rfl⟩
  have hlength : count ≤ (found .beginner (exerciseContent count).visibleSkills).length := by
    simpa using ((nodup_exerciseId count).subperm hsub).length_le
  have hcut : (found .beginner (exerciseContent count).visibleSkills).length ≤ 1000 :=
    (List.length_filter_le _ _).trans (List.length_take_le _ _)
  omega

/-- Of 1001 skills of the difficulty, at most 1000 are found. -/
theorem skill_of_difficulty_dropped :
    ¬ ∀ (files : DatabaseFiles String) (difficulty : SkillDifficulty) (language : String)
      (s t : SkillDatabaseService) (offered skills : List Skill),
      (skillDatabaseService files).loadAllSkills language s = .ok offered t →
      getSkillsByDifficulty files id difficulty language s = .ok skills t →
        ListsEach difficulty offered skills := by
  intro h
  obtain ⟨t, hload⟩ := loadAllSkills_exerciseFiles 1001
  have hcount : 1000 < 1001 := by omega
  apply not_listsEach_exercises hcount
  exact h (exerciseFiles 1001) .beginner "en" initial t _ _ hload (getSkillsByDifficulty_eq hload)

end DatabaseRepository

end SkillTalk
