import SkillTalk.Library.TopK
import SkillTalk.Proof.DatabaseCaches
import SkillTalk.SkillMatching

/-!
# The top skills

Both queries sort their candidates and cut the list off. The compatible skills are the entries of a
dictionary, enumerated in any order; the popular skills are whatever the database offers, where a
skill may occur more than once.
-/

namespace SkillTalk

open TopK Refinement SkillDatabaseService

/-- The entries of a dictionary are its keys with their own values, each once. -/
theorem isTop_enumerate (order : DictionaryOrder) (dictionary : Finmap fun _ : String => ℚ)
    (limit : ℕ) :
    IsTop Sigma.snd limit dictionary.entries
      (((order.enumerate dictionary).mergeSort (descendingLE Sigma.snd)).take limit) := by
  rw [← order.entries_eq dictionary]
  exact isTop_take_sort Sigma.snd limit (order.enumerate dictionary)

theorem getCompatibleSkills_eq (order : DictionaryOrder)
    {getSkillCompatibility : String → Except String SkillCompatibility} {skillId : String}
    {compatibility : SkillCompatibility}
    (hcompatibility : getSkillCompatibility skillId = .ok compatibility) (limit : ℕ) :
    getCompatibleSkills order getSkillCompatibility skillId limit
      = .ok ((((order.enumerate compatibility.compatibleSkills).mergeSort
          (descendingLE Sigma.snd)).take limit).map fun entry =>
            ⟨entry.1, Finmap.singleton entry.1 entry.2⟩) := by
  have hlimit : ¬ (limit : Int) < 0 := by omega
  rw [getCompatibleSkills, hcompatibility]
  dsimp only
  rw [if_neg hlimit, Int.toNat_natCast]
  rfl

theorem getPopularSkills_eq {ε : Type} {files : DatabaseFiles ε} {language : String}
    {s t : SkillDatabaseService} {offered : List Skill}
    (hload : (skillDatabaseService files).loadAllSkills language s = .ok offered t) (limit : ℕ) :
    (skillDatabaseService files).getPopularSkills language limit s
      = .ok ((offered.mergeSort (descendingLE Skill.popularity)).take limit) t := by
  have hlimit : ¬ (limit : Int) < 0 := by omega
  unfold SkillLoads.getPopularSkills
  change EStateM.bind _ _ s = _
  rw [EStateM.bind, hload]
  dsimp only
  rw [if_neg hlimit, Int.toNat_natCast]
  rfl

/-- **Top-k queries return a true top k.** The compatible skills are the entries of the repository's
dictionary with the largest scores, each under its own id; the popular skills are the most popular
of those offered. -/
theorem top_queries_isTop (order : DictionaryOrder)
    (getSkillCompatibility : String → Except String SkillCompatibility) {ε : Type}
    (files : DatabaseFiles ε) (limit : ℕ) :
    (∀ skillId compatibility, getSkillCompatibility skillId = .ok compatibility →
      ∃ top : List (Σ _ : String, ℚ),
        getCompatibleSkills order getSkillCompatibility skillId limit
            = .ok (top.map fun entry => ⟨entry.1, Finmap.singleton entry.1 entry.2⟩)
          ∧ IsTop Sigma.snd limit compatibility.compatibleSkills.entries top
          ∧ (top.map Sigma.fst).Nodup
          ∧ ∀ entry ∈ top, compatibility.compatibleSkills.lookup entry.1 = some entry.2)
      ∧ ∀ language s offered t,
          (skillDatabaseService files).loadAllSkills language s = .ok offered t →
            ∃ top : List Skill,
              (skillDatabaseService files).getPopularSkills language limit s = .ok top t
                ∧ IsTop Skill.popularity limit offered top
                ∧ ((offered.map Skill.id).Nodup → (top.map Skill.id).Nodup) := by
  constructor
  · intro skillId compatibility hcompatibility
    have htop := isTop_enumerate order compatibility.compatibleSkills limit
    refine ⟨_, getCompatibleSkills_eq order hcompatibility limit, htop, ?_, ?_⟩
    · exact htop.nodup_map (Multiset.nodup_keys.mpr compatibility.compatibleSkills.nodupKeys)
    · intro entry hentry
      exact Finmap.lookup_eq_some_iff.mpr (htop.mem hentry)
  · intro language s offered t hload
    have htop := isTop_take_sort Skill.popularity limit offered
    refine ⟨_, getPopularSkills_eq hload limit, htop, ?_⟩
    intro hnodup
    exact htop.nodup_map (by simpa using hnodup)

noncomputable def someOrder : DictionaryOrder where
  enumerate dictionary := dictionary.entries.toList
  entries_eq dictionary := Multiset.coe_toList dictionary.entries

/-- Of two compatible skills the one with the larger score is returned, and of the sample's one
skill, that skill. -/
theorem top_queries_isTop_of_sample :
    (∃ top : List (Σ _ : String, ℚ),
      getCompatibleSkills someOrder
          (fun skillId => .ok ⟨skillId,
            Finmap.insert "jazz" (3 / 5) (Finmap.singleton "blues" (4 / 5))⟩) "guitar" 1
        = .ok (top.map fun entry => ⟨entry.1, Finmap.singleton entry.1 entry.2⟩)
      ∧ top.length = 1)
    ∧ ∃ top t, (skillDatabaseService sampleFiles).getPopularSkills "en" 1 initial = .ok top t
      ∧ top.length = 1 := by
  have h := top_queries_isTop someOrder
    (fun skillId => .ok ⟨skillId, Finmap.insert "jazz" (3 / 5) (Finmap.singleton "blues" (4 / 5))⟩)
    sampleFiles 1
  obtain ⟨t, hload⟩ : ∃ t, (skillDatabaseService sampleFiles).loadAllSkills "en" initial
      = .ok [⟨"skill_1", "music_guitar", "Fingerstyle", .intermediate, 80, none, ["strings"], none⟩]
          t := ⟨_, rfl⟩
  obtain ⟨top, hget, htop, -⟩ := h.1 "guitar" _ rfl
  obtain ⟨top', hget', htop', -⟩ := h.2 "en" initial _ t hload
  refine ⟨⟨top, hget, ?_⟩, top', t, hget', htop'.length_eq⟩
  rw [htop.length_eq]
  decide +kernel

end SkillTalk
