import SkillTalk.Library.Trimming
import SkillTalk.ReferenceDataGroups

/-!
# The two language searches agree

The service trims the query and puts it into lower case for each comparison, the database puts it
into lower case and trims it then. Lower-casing leaves spaces where they are and puts none anywhere,
so both compare with the same text, and see an empty one for the same queries.
-/

namespace SkillTalk

open Trimming (trim KeepsSpaces)

/-- Texts are trimmed of the spaces at their ends, and put into lower case character by character,
which keeps the spaces. -/
structure TextRules.CharacterWise (rules : TextRules) (isSpace : Char → Bool)
    (lower : Char → List Char) : Prop where
  trimmed : ∀ text, rules.trimmed text = String.ofList (trim isSpace text.toList)
  lowercased : ∀ text, rules.lowercased text = String.ofList (text.toList.flatMap lower)
  keepsSpaces : KeepsSpaces isSpace lower

namespace TextRules.CharacterWise

variable {rules : TextRules} {isSpace : Char → Bool} {lower : Char → List Char}

theorem trimmed_lowercased (h : rules.CharacterWise isSpace lower) (query : String) :
    rules.trimmed (rules.lowercased query) = rules.lowercased (rules.trimmed query) := by
  rw [h.trimmed, h.lowercased, h.lowercased, h.trimmed, String.toList_ofList, String.toList_ofList,
    h.keepsSpaces.trim_flatMap]

theorem lowercased_eq_empty_iff (h : rules.CharacterWise isSpace lower) (text : String) :
    rules.lowercased text = "" ↔ text = "" := by
  have hofList : ∀ characters : List Char, String.ofList characters = "" ↔ characters = [] := by
    intro characters
    rw [← String.toList_inj, String.toList_ofList]
    rfl
  rw [h.lowercased, hofList, h.keepsSpaces.flatMap_eq_nil_iff, ← hofList, String.ofList_toList]

end TextRules.CharacterWise

variable {ε : Type} {clock : Clock Date} {rules : TextRules} {server : ℕ → Except ε (List Language)}
  {isSpace : Char → Bool} {lower : Char → List Char}

/-- **The two searches agree** over one list of languages. -/
theorem language_searches_agree (hrules : rules.CharacterWise isSpace lower)
    {s t : LanguageService} {response : LanguageResponse}
    (hget : s.getAllLanguages clock server = (.ok response, t)) (database : LanguageDatabase)
    (hlist : database.languages = response.languages) (query : String) :
    s.searchLanguages clock rules server query
      = (.ok (database.searchLanguages rules query, response), t) := by
  have hempty : rules.trimmed (rules.lowercased query) = "" ↔ rules.trimmed query = "" := by
    rw [hrules.trimmed_lowercased, hrules.lowercased_eq_empty_iff]
  unfold LanguageService.searchLanguages LanguageDatabase.searchLanguages
  dsimp only
  rw [hget]
  dsimp only
  by_cases htrimmed : rules.trimmed query = ""
  · rw [if_pos htrimmed, if_pos (hempty.mpr htrimmed), hlist]
  · rw [if_neg htrimmed, if_neg (mt hempty.mp htrimmed), hrules.trimmed_lowercased, hlist]
    rfl

/-! ### A dotted capital -/

/-- Lower case for letters of ASCII and for the dotted capital I, which becomes two characters. -/
def lowerOfDotted (c : Char) : List Char := if c = 'İ' then ['i', '\u0307'] else [c.toLower]

def dottedRules : TextRules where
  trimmed text := String.ofList (trim Char.isWhitespace text.toList)
  lowercased text := String.ofList (text.toList.flatMap lowerOfDotted)
  uppercased text := text

theorem toLower_of_not_ascii {c : Char} (hc : 128 ≤ c.toNat) : c.toLower = c := by
  have hrange : ¬ (c.val ≥ 'A'.val ∧ c.val ≤ 'Z'.val) := by
    rintro ⟨-, hle⟩
    have hle : c.toNat ≤ 'Z'.toNat := UInt32.le_iff_toNat_le.mp hle
    have hZ : 'Z'.toNat = 90 := rfl
    omega
  rw [Char.toLower, dif_neg hrange]

/-- Lower case neither moves a space nor makes one. -/
theorem toLower_spaces (c : Char) :
    c.toLower.isWhitespace = c.isWhitespace ∧ (c.isWhitespace = true → c.toLower = c) := by
  have hascii : ∀ n < 128, (Char.ofNat n).toLower.isWhitespace = (Char.ofNat n).isWhitespace
      ∧ ((Char.ofNat n).isWhitespace = true → (Char.ofNat n).toLower = Char.ofNat n) := by
    decide +kernel
  rcases Nat.lt_or_ge c.toNat 128 with hlt | hge
  · have h := hascii c.toNat hlt
    rwa [Char.ofNat_toNat] at h
  · rw [toLower_of_not_ascii hge]
    exact ⟨rfl, fun _ => rfl⟩

theorem dottedRules_characterWise :
    dottedRules.CharacterWise Char.isWhitespace lowerOfDotted := by
  refine ⟨fun _ => rfl, fun _ => rfl, ?_, ?_, ?_⟩
  · intro c hc
    have hplain : c ≠ 'İ' := by
      rintro rfl
      exact absurd hc (by decide)
    rw [lowerOfDotted, if_neg hplain, (toLower_spaces c).2 hc]
  · intro c _
    unfold lowerOfDotted
    split
    · exact List.cons_ne_nil _ _
    · exact List.cons_ne_nil _ _
  · intro c hc d hd
    unfold lowerOfDotted at hd
    split at hd
    · rcases List.mem_pair.mp hd with rfl | rfl
      · rfl
      · rfl
    · rw [List.mem_singleton.mp hd, (toLower_spaces c).1]
      exact hc

def turkishAndGerman : List Language :=
  [⟨"tr", "Turkish", "Türkçe"⟩, ⟨"de", "German", "Deutsch"⟩]

/-- Both find what the server sent, with blanks around the query. -/
theorem language_searches_agree_of_german :
    ∃ response t, (LanguageService.initial "en").getAllLanguages (Clock.ofGaps [])
        (fun _ => (.ok turkishAndGerman : Except String (List Language))) = (.ok response, t)
      ∧ (LanguageService.initial "en").searchLanguages (Clock.ofGaps []) dottedRules
          (fun _ => (.ok turkishAndGerman : Except String (List Language))) " GER "
        = (.ok (LanguageDatabase.searchLanguages dottedRules ⟨turkishAndGerman, ∅⟩ " GER ",
            response), t) := by
  refine ⟨_, _, rfl, ?_⟩
  exact language_searches_agree dottedRules_characterWise rfl ⟨turkishAndGerman, ∅⟩ rfl " GER "

end SkillTalk
