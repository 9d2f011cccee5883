import SkillTalk.OnboardingContainerView

/-!
# What formatting a phone number keeps

A formatted number is laid out from the digits of the text alone, and its digits are the first ten
of them: the layout's own characters are no numbers, and the last branch drops the digits from the
eleventh on.
-/

namespace SkillTalk

/-- The characters that a formatted phone number is laid out with are not numbers. -/
def OnboardingText.PlainLayout (rules : OnboardingText) : Prop :=
  ∀ c ∈ ['(', ')', ' ', '-'], rules.isNumber c = false

theorem plainLayout_asciiText : asciiText.PlainLayout := by
  simp [OnboardingText.PlainLayout, asciiText]

namespace BasicInfoView

variable {rules : OnboardingText}

theorem digits_append (s t : String) : digits rules (s ++ t) = digits rules s ++ digits rules t := by
  rw [digits, String.toList_append, List.filter_append, ← digits, ← digits]

theorem digits_ofList_of_forall {l : List Char} (hl : ∀ c ∈ l, rules.isNumber c = true) :
    digits rules (String.ofList l) = l := by
  rw [digits, String.toList_ofList, List.filter_eq_self]
  exact hl

theorem isNumber_of_mem_digits {text : String} {c : Char} (hc : c ∈ digits rules text) :
    rules.isNumber c = true :=
  (List.mem_filter.mp hc).2

theorem digits_layout (hrules : rules.PlainLayout) {separator : String}
    (hseparator : ∀ c ∈ separator.toList, c ∈ ['(', ')', ' ', '-']) : digits rules separator = [] := by
  rw [digits, List.filter_eq_nil_iff]
  intro c hc
  rw [hrules c (hseparator c hc)]
  exact Bool.false_ne_true

/-- The layout of a phone number's digits. -/
def layout (digits : List Char) : String :=
  if digits.length ≤ 3 then String.ofList digits
  else if digits.length ≤ 6 then
    "(" ++ String.ofList (digits.take 3) ++ ") " ++ String.ofList (digits.drop 3)
  else if digits.length ≤ 10 then
    "(" ++ String.ofList (digits.take 3) ++ ") " ++ String.ofList ((digits.drop 3).take 3) ++ "-"
      ++ String.ofList (digits.drop 6)
  else
    "(" ++ String.ofList (digits.take 3) ++ ") " ++ String.ofList ((digits.drop 3).take 3) ++ "-"
      ++ String.ofList ((digits.drop 6).take 4)

theorem formatPhoneNumber_eq_layout (text : String) :
    formatPhoneNumber rules text = layout (digits rules text) := rfl

theorem digits_layout_eq_take (hrules : rules.PlainLayout) {l : List Char}
    (hl : ∀ c ∈ l, rules.isNumber c = true) : digits rules (layout l) = l.take 10 := by
  have hopen : digits rules "(" = [] := digits_layout hrules (by simp)
  have hclose : digits rules ") " = [] := digits_layout hrules (by simp)
  have hhyphen : digits rules "-" = [] := digits_layout hrules (by simp)
  have htake : ∀ n, digits rules (String.ofList (l.take n)) = l.take n := fun n =>
    digits_ofList_of_forall fun c hc => hl c (List.mem_of_mem_take hc)
  have hdrop : ∀ n, digits rules (String.ofList (l.drop n)) = l.drop n := fun n =>
    digits_ofList_of_forall fun c hc => hl c (List.mem_of_mem_drop hc)
  have hpiece : ∀ m n, digits rules (String.ofList ((l.drop m).take n)) = (l.drop m).take n :=
    fun m n => digits_ofList_of_forall fun c hc =>
      hl c (List.mem_of_mem_drop (List.mem_of_mem_take hc))
  unfold layout
  split_ifs with h3 h6 h10
  · rw [digits_ofList_of_forall hl, List.take_of_length_le (by omega)]
  · simp only [digits_append, hopen, hclose, htake, hdrop, List.nil_append, List.append_nil]
    rw [List.take_append_drop, List.take_of_length_le (by omega)]
  · simp only [digits_append, hopen, hclose, hhyphen, htake, hdrop, hpiece, List.nil_append,
      List.append_nil]
    calc l.take 3 ++ (l.drop 3).take 3 ++ l.drop 6
        = l.take 6 ++ l.drop 6 := by rw [← List.take_add]
      _ = l := List.take_append_drop 6 l
      _ = l.take 10 := (List.take_of_length_le h10).symm
  · simp only [digits_append, hopen, hclose, hhyphen, htake, hpiece, List.nil_append,
      List.append_nil]
    calc l.take 3 ++ (l.drop 3).take 3 ++ (l.drop 6).take 4
        = l.take 6 ++ (l.drop 6).take 4 := by rw [← List.take_add]
      _ = l.take 10 := by rw [← List.take_add]

/-- The digits from the eleventh on do not show. -/
theorem layout_take (l : List Char) : layout (l.take 10) = layout l := by
  by_cases hl : l.length ≤ 10
  · rw [List.take_of_length_le hl]
  · have hlength : (l.take 10).length = 10 := by
      rw [List.length_take]
      omega
    have hprefix : (l.take 10).take 3 = l.take 3 := by
      rw [List.take_take, Nat.min_eq_left (by omega)]
    have hmiddle : ((l.take 10).drop 3).take 3 = (l.drop 3).take 3 := by
      rw [List.drop_take, List.take_take, Nat.min_eq_left (by omega)]
    have hend : (l.take 10).drop 6 = (l.drop 6).take 4 := by rw [List.drop_take]
    unfold layout
    rw [if_neg (by omega), if_neg (by omega), if_pos (by omega), if_neg (by omega),
      if_neg (by omega), if_neg hl, hprefix, hmiddle, hend]

theorem digits_formatPhoneNumber (hrules : rules.PlainLayout) (text : String) :
    digits rules (formatPhoneNumber rules text) = (digits rules text).take 10 := by
  rw [formatPhoneNumber_eq_layout]
  exact digits_layout_eq_take hrules fun c hc => isNumber_of_mem_digits hc

theorem formatPhoneNumber_idempotent (hrules : rules.PlainLayout) (text : String) :
    formatPhoneNumber rules (formatPhoneNumber rules text) = formatPhoneNumber rules text := by
  rw [formatPhoneNumber_eq_layout (formatPhoneNumber rules text), digits_formatPhoneNumber hrules,
    layout_take, formatPhoneNumber_eq_layout]

/-- **Ten digits are kept.** Formatting a text and taking the layout away again gives the text's
digits exactly when there are at most ten. -/
theorem unformat_formatPhoneNumber_iff (hrules : rules.PlainLayout) (text : String) :
    unformatPhoneNumber rules (formatPhoneNumber rules text) = String.ofList (digits rules text)
      ↔ (digits rules text).length ≤ 10 := by
  rw [unformatPhoneNumber, digits_formatPhoneNumber hrules, String.ofList_inj, List.take_eq_self_iff]

theorem unformat_formatPhoneNumber_of_ten :
    unformatPhoneNumber asciiText (formatPhoneNumber asciiText "555 123-4567") = "5551234567" :=
  (unformat_formatPhoneNumber_iff plainLayout_asciiText "555 123-4567").mpr (by decide)

/-- Of the eleven digits, which the validator accepts, the last is gone. -/
theorem eleventh_digit_dropped :
    validatePhoneNumber asciiText "+47 555 123 456" = true
      ∧ digits asciiText "+47 555 123 456" = "47555123456".toList
      ∧ unformatPhoneNumber asciiText (formatPhoneNumber asciiText "+47 555 123 456")
          = "4755512345" := by
  decide

end BasicInfoView

end SkillTalk
