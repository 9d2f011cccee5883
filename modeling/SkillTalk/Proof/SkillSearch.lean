import SkillTalk.Library.KeyedJoin
import SkillTalk.Proof.DatabaseCaches

/-!
# What a skill search finds

All skills of a language are a join: the translated skills with the subcategories that are
themselves joined with the translated categories. The caches do not change it, so a search filters
this join and the popular skills are a prefix of it, sorted.
-/

namespace SkillTalk

open KeyedJoin Refinement SkillDatabaseService

variable {ε : Type}

def nameIn (translations : List NameTranslation) (id : String) : Option String :=
  (translations.find? fun t => t.id = id).map NameTranslation.name

theorem nameIn_eq_some_iff {translations : List NameTranslation}
    (hnodup : (translations.map NameTranslation.id).Nodup) {id name : String} :
    nameIn translations id = some name ↔ ∃ t ∈ translations, t.id = id ∧ t.name = name := by
  constructor
  · intro h
    obtain ⟨t, hfind, hname⟩ := Option.map_eq_some_iff.mp h
    have hid : t.id = id := by simpa using List.find?_some hfind
    exact ⟨t, List.mem_of_find?_eq_some hfind, hid, hname⟩
  · rintro ⟨t, ht, hid, hname⟩
    have hsome : (translations.find? fun t => t.id = id).isSome = true :=
      List.find?_isSome.mpr ⟨t, ht, by simpa using hid⟩
    obtain ⟨u, hfind⟩ := Option.isSome_iff_exists.mp hsome
    have hu : u.id = id := by simpa using List.find?_some hfind
    have htu : u = t := List.inj_on_of_nodup_map hnodup (List.mem_of_find?_eq_some hfind) ht
      (hu.trans hid.symm)
    rw [nameIn, hfind, htu, Option.map_some, hname]

theorem translationsDict_eq {translations : List NameTranslation}
    (hnodup : (translations.map NameTranslation.id).Nodup) :
    (translationsDict translations : Except (DatabaseFailure ε) _) = .ok (nameIn translations) := by
  rw [translationsDict, if_pos hnodup]
  rfl

/-- The skill is the core skill under this name, with its id, subcategory, popularity and tags, and
with the difficulty its level stands for: `1` to `4` are the difficulties in order, and any other
level is a beginner's. -/
structure PresentsAs (coreSkill : CoreSkill) (name : String) (skill : Skill) : Prop where
  id : skill.id = coreSkill.id
  subcategoryId : skill.subcategoryId = coreSkill.subcategoryId
  englishName : skill.englishName = name
  intermediate_iff : skill.difficulty = .intermediate ↔ coreSkill.difficultyLevel = 2
  advanced_iff : skill.difficulty = .advanced ↔ coreSkill.difficultyLevel = 3
  expert_iff : skill.difficulty = .expert ↔ coreSkill.difficultyLevel = 4
  popularity : skill.popularity = coreSkill.popularityScore
  tags : skill.tags = coreSkill.tags
  icon : skill.icon = none
  translations : skill.translations = none

theorem mapDifficultyLevel_eq_iff (level : Int) (difficulty : SkillDifficulty) :
    mapDifficultyLevel level = difficulty
      ↔ (difficulty = .intermediate ↔ level = 2) ∧ (difficulty = .advanced ↔ level = 3)
        ∧ (difficulty = .expert ↔ level = 4) := by
  cases difficulty <;> grind [mapDifficultyLevel]

theorem presentsAs_iff {coreSkill : CoreSkill} {name : String} {skill : Skill} :
    PresentsAs coreSkill name skill ↔ coreSkill.translated name = skill := by
  constructor
  · intro h
    have hdifficulty : mapDifficultyLevel coreSkill.difficultyLevel = skill.difficulty :=
      (mapDifficultyLevel_eq_iff _ _).mpr ⟨h.intermediate_iff, h.advanced_iff, h.expert_iff⟩
    rw [CoreSkill.translated, hdifficulty, ← h.id, ← h.subcategoryId, ← h.englishName,
      ← h.popularity, ← h.tags, ← h.icon, ← h.translations]
  · rintro rfl
    obtain ⟨hintermediate, hadvanced, hexpert⟩ :=
      (mapDifficultyLevel_eq_iff coreSkill.difficultyLevel _).mp rfl
    exact ⟨rfl, rfl, rfl, hintermediate, hadvanced, hexpert, rfl, rfl, rfl, rfl⟩

/-- The six files a search in the language reads, decoded, each with unique ids. -/
structure LanguageFiles (files : DatabaseFiles ε) (language : String) where
  coreCategories : List CoreCategory
  coreSubcategories : List CoreSubcategory
  coreSkills : List CoreSkill
  categoryTranslations : List CategoryTranslation
  subcategoryTranslations : List SubcategoryTranslation
  skillTranslations : List SkillTranslation
  reads_coreCategories :
    files.coreCategories (files.corePath "categories.json") = .ok coreCategories
  reads_coreSubcategories :
    files.coreSubcategories (files.corePath "subcategories.json") = .ok coreSubcategories
  reads_coreSkills : files.coreSkills (files.corePath "skills.json") = .ok coreSkills
  reads_categoryTranslations :
    files.categoryTranslations (files.translationsPath language "categories.json")
      = .ok categoryTranslations
  reads_subcategoryTranslations :
    files.subcategoryTranslations (files.translationsPath language "subcategories.json")
      = .ok subcategoryTranslations
  reads_skillTranslations :
    files.skillTranslations (files.translationsPath language "skills.json") = .ok skillTranslations
  nodup_coreCategories : (coreCategories.map CoreCategory.id).Nodup
  nodup_coreSubcategories : (coreSubcategories.map CoreSubcategory.id).Nodup
  nodup_coreSkills : (coreSkills.map CoreSkill.id).Nodup
  nodup_categoryTranslations : (categoryTranslations.map NameTranslation.id).Nodup
  nodup_subcategoryTranslations : (subcategoryTranslations.map NameTranslation.id).Nodup
  nodup_skillTranslations : (skillTranslations.map NameTranslation.id).Nodup

namespace LanguageFiles

variable {files : DatabaseFiles ε} {language : String} (content : LanguageFiles files language)

/-- The skill, its subcategory and that subcategory's category are core records with a translation
each. -/
def Visible (coreSkill : CoreSkill) : Prop :=
  coreSkill ∈ content.coreSkills
    ∧ (∃ t ∈ content.skillTranslations, t.id = coreSkill.id)
    ∧ ∃ coreSubcategory ∈ content.coreSubcategories,
        coreSubcategory.id = coreSkill.subcategoryId
          ∧ (∃ t ∈ content.subcategoryTranslations, t.id = coreSubcategory.id)
          ∧ ∃ coreCategory ∈ content.coreCategories,
              coreCategory.id = coreSubcategory.categoryId
                ∧ ∃ t ∈ content.categoryTranslations, t.id = coreCategory.id

/-- The skill is a visible core skill under its translated name. -/
def Shows (skill : Skill) : Prop :=
  ∃ coreSkill, content.Visible coreSkill
    ∧ ∃ t ∈ content.skillTranslations, t.id = coreSkill.id ∧ PresentsAs coreSkill t.name skill

def categories : List SkillCategory :=
  content.coreCategories.filterMap fun coreCategory =>
    (nameIn content.categoryTranslations coreCategory.id).map coreCategory.translated

def subcategories : List SkillSubcategory :=
  content.coreSubcategories.filterMap fun coreSubcategory =>
    (nameIn content.subcategoryTranslations coreSubcategory.id).map coreSubcategory.translated

def skills : List Skill :=
  content.coreSkills.filterMap fun coreSkill =>
    (nameIn content.skillTranslations coreSkill.id).map coreSkill.translated

def visibleSubcategories : List SkillSubcategory :=
  join content.categories SkillCategory.id content.subcategories SkillSubcategory.categoryId

def visibleSkills : List Skill :=
  join content.visibleSubcategories SkillSubcategory.id content.skills Skill.subcategoryId

/-! ### What the loads read -/

theorem readCategories_eq : files.readCategories language = .ok content.categories := by
  simp only [DatabaseFiles.readCategories, content.reads_coreCategories,
    content.reads_categoryTranslations, translationsDict_eq content.nodup_categoryTranslations,
    Except.mapError, bind, Except.bind]
  rfl

theorem readSubcategories_eq (categoryId : String) :
    files.readSubcategories categoryId language
      = .ok (content.subcategories.filter fun s => s.categoryId = categoryId) := by
  simp only [DatabaseFiles.readSubcategories, content.reads_coreSubcategories,
    content.reads_subcategoryTranslations,
    translationsDict_eq content.nodup_subcategoryTranslations, Except.mapError, bind, Except.bind]
  apply congrArg Except.ok
  apply filterMap_filter_comm
  intro coreSubcategory subcategory hname
  obtain ⟨name, -, rfl⟩ := Option.map_eq_some_iff.mp hname
  rfl

theorem readSkills_eq (subcategoryId : String) :
    files.readSkills subcategoryId language
      = .ok (content.skills.filter fun s => s.subcategoryId = subcategoryId) := by
  simp only [DatabaseFiles.readSkills, content.reads_coreSkills, content.reads_skillTranslations,
    translationsDict_eq content.nodup_skillTranslations, Except.mapError, bind, Except.bind]
  apply congrArg Except.ok
  apply filterMap_filter_comm
  intro coreSkill skill hname
  obtain ⟨name, -, rfl⟩ := Option.map_eq_some_iff.mp hname
  rfl

theorem loadAllSkills_eq :
    (cachelessService files).loadAllSkills language = .ok content.visibleSkills := by
  have hskills : ∀ (allSkills : List Skill) (subcategories : List SkillSubcategory),
      subcategories.foldlM (fun allSkills subcategory => do
          let skills ← files.readSkills subcategory.id language
          return allSkills ++ skills) allSkills
        = Except.ok (allSkills ++ join subcategories SkillSubcategory.id content.skills
            Skill.subcategoryId) := by
    intro allSkills subcategories
    apply foldlM_append
    intro allSkills subcategory
    rw [content.readSkills_eq]
    rfl
  have hsubcategories : ∀ (allSkills : List Skill) (categories : List SkillCategory),
      categories.foldlM (fun allSkills category => do
          let subcategories ← files.readSubcategories category.id language
          subcategories.foldlM (fun allSkills subcategory => do
            let skills ← files.readSkills subcategory.id language
            return allSkills ++ skills) allSkills) allSkills
        = Except.ok (allSkills ++ categories.flatMap fun category =>
            join (content.subcategories.filter fun s => s.categoryId = category.id)
              SkillSubcategory.id content.skills Skill.subcategoryId) := by
    intro allSkills categories
    apply foldlM_append
    intro allSkills category
    rw [content.readSubcategories_eq]
    exact hskills allSkills _
  calc
    (cachelessService files).loadAllSkills language
        = (do
            let categories ← files.readCategories language
            categories.foldlM (fun allSkills category => do
              let subcategories ← files.readSubcategories category.id language
              subcategories.foldlM (fun allSkills subcategory => do
                let skills ← files.readSkills subcategory.id language
                return allSkills ++ skills) allSkills) []) := rfl
    _ = .ok ([] ++ content.categories.flatMap fun category =>
            join (content.subcategories.filter fun s => s.categoryId = category.id)
              SkillSubcategory.id content.skills Skill.subcategoryId) := by
      rw [content.readCategories_eq]
      exact hsubcategories [] content.categories
    _ = .ok content.visibleSkills := by
      rw [List.nil_append, visibleSkills, visibleSubcategories, join, join, List.flatMap_assoc]
      rfl

/-! ### The join -/

theorem mem_categories {category : SkillCategory} : category ∈ content.categories
    ↔ ∃ coreCategory ∈ content.coreCategories, ∃ t ∈ content.categoryTranslations,
        t.id = coreCategory.id ∧ coreCategory.translated t.name = category := by
  simp only [categories, List.mem_filterMap, Option.map_eq_some_iff,
    nameIn_eq_some_iff content.nodup_categoryTranslations]
  grind

theorem mem_subcategories {subcategory : SkillSubcategory} :
    subcategory ∈ content.subcategories
      ↔ ∃ coreSubcategory ∈ content.coreSubcategories, ∃ t ∈ content.subcategoryTranslations,
          t.id = coreSubcategory.id ∧ coreSubcategory.translated t.name = subcategory := by
  simp only [subcategories, List.mem_filterMap, Option.map_eq_some_iff,
    nameIn_eq_some_iff content.nodup_subcategoryTranslations]
  grind

theorem mem_skills {skill : Skill} : skill ∈ content.skills
    ↔ ∃ coreSkill ∈ content.coreSkills, ∃ t ∈ content.skillTranslations,
        t.id = coreSkill.id ∧ coreSkill.translated t.name = skill := by
  simp only [skills, List.mem_filterMap, Option.map_eq_some_iff,
    nameIn_eq_some_iff content.nodup_skillTranslations]
  grind

theorem mem_visibleSkills {skill : Skill} : skill ∈ content.visibleSkills ↔ content.Shows skill := by
  simp only [visibleSkills, mem_join, mem_skills, Shows, presentsAs_iff]
  constructor
  · rintro ⟨⟨coreSkill, hskill, t, ht, hid, rfl⟩, subcategory, hsubcategory, hforeign⟩
    obtain ⟨hsub, category, hcategory, hparent⟩ := mem_join.mp hsubcategory
    obtain ⟨coreSubcategory, hcoreSub, u, hu, huid, rfl⟩ := content.mem_subcategories.mp hsub
    obtain ⟨coreCategory, hcoreCat, v, hv, hvid, rfl⟩ := content.mem_categories.mp hcategory
    refine ⟨coreSkill, ⟨hskill, ⟨t, ht, hid⟩, coreSubcategory, hcoreSub, hforeign, ⟨u, hu, huid⟩,
      coreCategory, hcoreCat, hparent, v, hv, hvid⟩, t, ht, hid, rfl⟩
  · rintro ⟨coreSkill, ⟨hskill, -, coreSubcategory, hcoreSub, hforeign, ⟨u, hu, huid⟩,
      coreCategory, hcoreCat, hparent, v, hv, hvid⟩, t, ht, hid, rfl⟩
    have hcategory : coreCategory.translated v.name ∈ content.categories :=
      content.mem_categories.mpr ⟨coreCategory, hcoreCat, v, hv, hvid, rfl⟩
    have hsub : coreSubcategory.translated u.name ∈ content.subcategories :=
      content.mem_subcategories.mpr ⟨coreSubcategory, hcoreSub, u, hu, huid, rfl⟩
    refine ⟨⟨coreSkill, hskill, t, ht, hid, rfl⟩, coreSubcategory.translated u.name, ?_, hforeign⟩
    exact mem_join.mpr ⟨hsub, coreCategory.translated v.name, hcategory, hparent⟩

theorem nodup_visibleSkills : (content.visibleSkills.map Skill.id).Nodup := by
  have hcategories : (content.categories.map SkillCategory.id).Nodup := by
    refine (map_filterMap_sublist ?_).nodup content.nodup_coreCategories
    intro coreCategory category hname
    obtain ⟨name, -, rfl⟩ := Option.map_eq_some_iff.mp hname
    rfl
  have hsubcategories : (content.subcategories.map SkillSubcategory.id).Nodup := by
    refine (map_filterMap_sublist ?_).nodup content.nodup_coreSubcategories
    intro coreSubcategory subcategory hname
    obtain ⟨name, -, rfl⟩ := Option.map_eq_some_iff.mp hname
    rfl
  have hskills : (content.skills.map Skill.id).Nodup := by
    refine (map_filterMap_sublist ?_).nodup content.nodup_coreSkills
    intro coreSkill skill hname
    obtain ⟨name, -, rfl⟩ := Option.map_eq_some_iff.mp hname
    rfl
  exact nodup_map_join (nodup_map_join hcategories hsubcategories) hskills

/-! ### The calls -/

theorem searchSkills_eq (contains : String → String → Bool) (query : String) :
    (cachelessService files).searchSkills contains query language
      = .ok (content.visibleSkills.filter fun skill =>
          contains skill.englishName query || skill.tags.any fun tag => contains tag query) := by
  rw [SkillLoads.searchSkills, content.loadAllSkills_eq]
  rfl

/-- The visible skills, the most popular first. -/
def rankedSkills : List Skill :=
  content.visibleSkills.mergeSort fun a b => !decide (b.popularity > a.popularity)

theorem getPopularSkills_eq (limit : Int) :
    (cachelessService files).getPopularSkills language limit
      = if limit < 0 then .error .trapped else .ok (content.rankedSkills.take limit.toNat) := by
  rw [SkillLoads.getPopularSkills, content.loadAllSkills_eq]
  by_cases hlimit : limit < 0
  · simp only [if_pos hlimit]
    rfl
  · simp only [if_neg hlimit]
    rfl

theorem pairwise_rankedSkills :
    content.rankedSkills.Pairwise fun a b => b.popularity ≤ a.popularity := by
  have hsorted : content.rankedSkills.Pairwise
      fun a b => (!decide (b.popularity > a.popularity)) = true := by
    apply List.pairwise_mergeSort
    · intro a b c hab hbc
      simp only [Bool.not_eq_true', decide_eq_false_iff_not] at hab hbc ⊢
      omega
    · intro a b
      simp only [Bool.or_eq_true, Bool.not_eq_true', decide_eq_false_iff_not]
      omega
  apply hsorted.imp
  intro a b hab
  simp only [Bool.not_eq_true', decide_eq_false_iff_not] at hab
  omega

end LanguageFiles

/-- **A search shows each visible skill that matches once and nothing else**, and the popular skills
are a prefix of the visible skills in order of popularity, whatever has been cached. -/
theorem skill_search_complete {files : DatabaseFiles ε} {language : String}
    (content : LanguageFiles files language) (hlanguage : '_' ∉ language.toList)
    (contains : String → String → Bool) {s : SkillDatabaseService}
    (hs : (skillDatabase files contains).ReachableWhere PlainLanguage s) :
    (∀ query, ∃ found t,
        (skillDatabaseService files).searchSkills contains query language s = .ok found t
          ∧ (found.map Skill.id).Nodup
          ∧ ∀ skill, skill ∈ found ↔ content.Shows skill
              ∧ (contains skill.englishName query = true
                ∨ ∃ tag ∈ skill.tags, contains tag query = true))
      ∧ ∃ ranked : List Skill, (ranked.map Skill.id).Nodup
          ∧ (∀ skill, skill ∈ ranked ↔ content.Shows skill)
          ∧ (ranked.Pairwise fun a b => b.popularity ≤ a.popularity)
          ∧ ∀ limit, ∃ t, (skillDatabaseService files).getPopularSkills language limit s
              = if limit < 0 then .error .trapped t else .ok (ranked.take limit.toNat) t := by
  have hentries : EntriesRead files s := entriesRead_of_reachable hs
  constructor
  · intro query
    obtain ⟨t, -, hrun⟩ := searchSkills_refines files contains query hlanguage s hentries
    rw [content.searchSkills_eq] at hrun
    refine ⟨_, t, hrun, ?_, ?_⟩
    · exact (List.filter_sublist.map Skill.id).nodup content.nodup_visibleSkills
    · intro skill
      simp [List.mem_filter, content.mem_visibleSkills]
  · refine ⟨content.rankedSkills, ?_, ?_, content.pairwise_rankedSkills, ?_⟩
    · exact ((List.mergeSort_perm _ _).map Skill.id).nodup_iff.mpr content.nodup_visibleSkills
    · intro skill
      rw [LanguageFiles.rankedSkills, List.mem_mergeSort, content.mem_visibleSkills]
    · intro limit
      obtain ⟨t, -, hrun⟩ := getPopularSkills_refines files limit hlanguage s hentries
      refine ⟨t, ?_⟩
      rw [hrun, content.getPopularSkills_eq]
      split <;> rfl

/-- The sample's `en` files, decoded. -/
def sampleContent : LanguageFiles sampleFiles "en" where
  coreCategories := [⟨"music", none, none, 1⟩]
  coreSubcategories := [⟨"music_guitar", "music", none, 1⟩]
  coreSkills := [⟨"skill_1", "music_guitar", 2, 80, false, false, ["strings"], ∅⟩]
  categoryTranslations := [⟨"music", "Music"⟩]
  subcategoryTranslations := [⟨"music_guitar", "Guitar"⟩]
  skillTranslations := [⟨"skill_1", "Fingerstyle"⟩]
  reads_coreCategories := rfl
  reads_coreSubcategories := rfl
  reads_coreSkills := rfl
  reads_categoryTranslations := rfl
  reads_subcategoryTranslations := rfl
  reads_skillTranslations := rfl
  nodup_coreCategories := by simp
  nodup_coreSubcategories := by simp
  nodup_coreSkills := by simp
  nodup_categoryTranslations := by simp
  nodup_subcategoryTranslations := by simp
  nodup_skillTranslations := by simp

/-- A tag matches, and the skill is found under its translated name. -/
theorem skill_search_complete_of_tag :
    ∃ found t, (skillDatabaseService sampleFiles).searchSkills (fun text query => text = query)
        "strings" "en" initial = .ok found t
      ∧ ⟨"skill_1", "music_guitar", "Fingerstyle", .intermediate, 80, none, ["strings"], none⟩
          ∈ found := by
  obtain ⟨hsearch, -⟩ := skill_search_complete sampleContent (by simp)
    (fun text query => decide (text = query)) (.init rfl)
  obtain ⟨found, t, hrun, -, hmem⟩ := hsearch "strings"
  refine ⟨found, t, hrun, (hmem _).mpr ⟨?_, .inr ⟨"strings", by simp, by simp⟩⟩⟩
  refine ⟨⟨"skill_1", "music_guitar", 2, 80, false, false, ["strings"], ∅⟩, ?_, ⟨"skill_1",
    "Fingerstyle"⟩, by simp [sampleContent], rfl, presentsAs_iff.mpr rfl⟩
  simp [LanguageFiles.Visible, sampleContent]

end SkillTalk
