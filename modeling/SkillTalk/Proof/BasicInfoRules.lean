import Mathlib.Data.List.TakeWhile
import SkillTalk.Proof.PhoneField

/-!
# What the basic information form stores

`Next` validates the trimmed username and the formatted phone number, and stores the username
untrimmed and the digits of the formatted number. So what it stores meets the rules that were
checked exactly when trimming has nothing to take away and formatting no digit to drop. The name is
checked as it is stored, and the age's handler leaves nothing but number characters, of which only
ASCII digits are parsed.
-/

namespace SkillTalk

open BasicInfoView

variable {CountryModel UIImage : Type} {rules : OnboardingText}

/-- Layout characters and `+` are not numbers, and the characters of usernames not white space. -/
structure OnboardingText.Conventional (rules : OnboardingText) : Prop where
  layout : rules.PlainLayout
  plus : rules.isNumber '+' = false
  usernameChar : ∀ c, isUsernameChar c = true → rules.isWhitespaceOrNewline c = false

theorem conventional_asciiText : asciiText.Conventional where
  layout := plainLayout_asciiText
  plus := rfl
  usernameChar := by
    intro c hc
    by_contra hspace
    have hwhitespace : c.isWhitespace = true := by simpa [asciiText] using hspace
    simp only [Char.isWhitespace, Bool.or_eq_true, decide_eq_true_eq] at hwhitespace
    rcases hwhitespace with ((rfl | rfl) | rfl) | rfl <;> simp [isUsernameChar] at hc

/-! ### Trimming -/

theorem trimmed_eq_nil {text : String}
    (h : ∀ c ∈ text.toList, rules.isWhitespaceOrNewline c = true) : rules.trimmed text = [] := by
  rw [OnboardingText.trimmed, List.dropWhile_eq_nil_iff.mpr h]
  rfl

theorem trimmed_eq_self {text : String}
    (h : ∀ c ∈ text.toList, rules.isWhitespaceOrNewline c = false) :
    rules.trimmed text = text.toList := by
  have hself : ∀ l : List Char, (∀ c ∈ l, rules.isWhitespaceOrNewline c = false) →
      l.dropWhile rules.isWhitespaceOrNewline = l := by
    intro l hl
    cases l with
    | nil => rfl
    | cons c l =>
        apply List.dropWhile_cons_of_neg
        rw [hl c List.mem_cons_self]
        exact Bool.false_ne_true
  unfold OnboardingText.trimmed
  rw [hself _ h, hself _ fun c hc => h c (List.mem_reverse.mp hc), List.reverse_reverse]

/-- `^[a-zA-Z0-9_]{3,20}$`. -/
def MatchesUsername (text : List Char) : Prop :=
  (∀ c ∈ text, isUsernameChar c = true) ∧ 3 ≤ text.length ∧ text.length ≤ 20

theorem validateUsername_iff (username : String) :
    validateUsername rules username = true ↔ MatchesUsername (rules.trimmed username) := by
  simp only [validateUsername, Bool.and_eq_true, decide_eq_true_eq, List.all_eq_true, MatchesUsername]
  tauto

/-- A validated username matches as it is exactly when trimming leaves it. -/
theorem matchesUsername_iff (hrules : rules.Conventional) {username : String}
    (hvalid : validateUsername rules username = true) :
    MatchesUsername username.toList ↔ rules.trimmed username = username.toList := by
  constructor
  · intro hmatches
    exact trimmed_eq_self fun c hc => hrules.usernameChar c (hmatches.1 c hc)
  · intro htrimmed
    rw [← htrimmed]
    exact (validateUsername_iff username).mp hvalid

theorem exists_visible_of_validateName {name : String} (hvalid : validateName rules name = true) :
    ∃ c ∈ name.toList, rules.isWhitespaceOrNewline c = false := by
  by_contra hnone
  have hspace : ∀ c ∈ name.toList, rules.isWhitespaceOrNewline c = true := by
    intro c hc
    by_contra hvisible
    exact hnone ⟨c, hc, by simpa using hvisible⟩
  have hempty : rules.trimmed name = [] := trimmed_eq_nil hspace
  simp [validateName, hempty] at hvalid

/-! ### The age -/

namespace BasicInfoForm

/-- The age has nothing but number characters, or is about to be filtered. -/
def AgeFiltered (rules : OnboardingText) (form : BasicInfoForm) : Prop :=
  form.Pending .age ∨ ∀ c ∈ form.view.age.toList, rules.isNumber c = true

theorem AgeFiltered.filtered {form : BasicInfoForm} (h : form.AgeFiltered rules)
    (hsettled : ¬ form.Pending .age) : ∀ c ∈ form.view.age.toList, rules.isNumber c = true :=
  h.resolve_left hsettled

theorem AgeFiltered.appear (data : OnboardingData CountryModel UIImage) (entry : String) :
    (BasicInfoForm.appear rules data entry).AgeFiltered rules := by
  by_cases hempty : data.age = ""
  · refine .inr fun c hc => ?_
    change c ∈ data.age.toList at hc
    simp [hempty] at hc
  · exact .inl hempty

theorem AgeFiltered.type {form : BasicInfoForm} (h : form.AgeFiltered rules)
    (hsettled : ¬ form.Pending .age) (field : BasicInfoField) (text : String) :
    (form.type field text).AgeFiltered rules := by
  have hfiltered := h.filtered hsettled
  cases field with
  | name => exact .inr hfiltered
  | username => exact .inr hfiltered
  | phoneNumber => exact .inr hfiltered
  | age =>
      by_cases hchange : text = form.view.age
      · refine .inr ?_
        change ∀ c ∈ text.toList, rules.isNumber c = true
        rwa [hchange]
      · refine .inl fun hobserved => hchange ?_
        exact Eq.trans hobserved (not_not.mp hsettled).symm

theorem age_onChange_of_ne (form : BasicInfoForm) {field : BasicInfoField} (hfield : field ≠ .age) :
    (form.onChange rules field).view.age = form.view.age
      ∧ ((form.onChange rules field).Pending .age ↔ form.Pending .age) := by
  have hage : (form.onChange rules field).view.age = form.view.age := by
    cases field with
    | age => exact absurd rfl hfield
    | name => rfl
    | username => rfl
    | phoneNumber => simp only [BasicInfoForm.onChange, onTextChange, clearError]
  refine ⟨hage, ?_⟩
  change (form.onChange rules field).view.age
    ≠ Function.update form.observed field (form.view.text field) .age ↔ _
  rw [hage, Function.update_of_ne (Ne.symm hfield)]
  exact Iff.rfl

theorem AgeFiltered.onChange {form : BasicInfoForm} (h : form.AgeFiltered rules)
    (field : BasicInfoField) : (form.onChange rules field).AgeFiltered rules := by
  by_cases hfield : field = .age
  · obtain rfl := hfield
    refine .inr fun c hc => ?_
    change c ∈ (String.ofList (digits rules form.view.age)).toList at hc
    rw [String.toList_ofList] at hc
    exact isNumber_of_mem_digits hc
  · obtain ⟨hage, hpending⟩ := age_onChange_of_ne form hfield
    unfold AgeFiltered
    rw [hage, hpending]
    exact h

theorem age_submit (v : BasicInfoView) (field : BasicInfoField) :
    (v.submit rules field).age = v.age := by
  cases field <;> (simp only [submit]; split <;> rfl)

end BasicInfoForm

theorem decimal_of_parsedInt {text : String}
    (hplus : '+' ∉ text.toList) (hminus : '-' ∉ text.toList) {value : ℤ}
    (h : parsedInt text = some value) : ∃ n : ℕ, decimal text.toList = some n ∧ value = n := by
  unfold parsedInt at h
  split at h
  · next heq => exact absurd (heq ▸ List.mem_cons_self) hminus
  · next heq => exact absurd (heq ▸ List.mem_cons_self) hplus
  · cases hdecimal : decimal text.toList with
    | none => simp [hdecimal] at h
    | some n =>
        simp only [hdecimal] at h
        exact ⟨n, rfl, (Option.some.inj h).symm⟩

/-- ASCII digits, leading zeros allowed, of a number from 13 to 100. -/
def MatchesAge (text : List Char) : Prop := ∃ n, decimal text = some n ∧ 13 ≤ n ∧ n ≤ 100

theorem matchesAge_of_validateAge (hrules : rules.Conventional) {age : String}
    (hnumbers : ∀ c ∈ age.toList, rules.isNumber c = true) (hvalid : validateAge age = true) :
    MatchesAge age.toList := by
  have hplus : '+' ∉ age.toList := by
    intro hmem
    have hnumber := hnumbers _ hmem
    rw [hrules.plus] at hnumber
    cases hnumber
  have hminus : '-' ∉ age.toList := by
    intro hmem
    have hnumber := hnumbers _ hmem
    rw [hrules.layout '-' (by simp)] at hnumber
    cases hnumber
  unfold validateAge at hvalid
  cases hparsed : parsedInt age with
  | none => simp [hparsed] at hvalid
  | some value =>
      obtain ⟨n, hn, rfl⟩ := decimal_of_parsedInt hplus hminus hparsed
      simp only [hparsed, Bool.and_eq_true, decide_eq_true_eq] at hvalid
      exact ⟨n, hn, by omega, by omega⟩

namespace BasicInfoScreen

open BasicInfoForm

variable {s t : BasicInfoScreen CountryModel UIImage} {form : BasicInfoForm}

theorem ageFiltered_of_reachable (hs : (basicInfo CountryModel UIImage rules).Reachable s) :
    ∀ form ∈ s.form, form.AgeFiltered rules := by
  refine Machine.ReachableWhere.invariant
    (fun s : BasicInfoScreen CountryModel UIImage => ∀ form ∈ s.form, form.AgeFiltered rules)
    ?_ ?_ hs
  · rintro s rfl form ⟨⟩
  · intro s event t _ hs _ hstep
    cases turns_of_step hstep with
    | appear hform =>
        rintro _ ⟨⟩
        exact .appear _ _
    | onChange hform hpending =>
        rintro _ ⟨⟩
        exact (hs _ hform).onChange _
    | type hform hsettled =>
        rintro _ ⟨⟩
        exact (hs _ hform).type hsettled.2.2.2 _ _
    | submit hform hsettled =>
        rintro _ ⟨⟩
        refine .inr ?_
        rw [age_submit]
        exact (hs _ hform).filtered hsettled.2.2.2
    | rejected hform hsettled =>
        rintro _ ⟨⟩
        exact .inr ((hs _ hform).filtered hsettled.2.2.2)
    | proceed hform hsettled hvalid => rintro _ ⟨⟩
    | back hform hsettled => rintro _ ⟨⟩

/-- What is stored meets the rules of the four fields; the phone number is that of the entry. -/
structure MeetsRules (rules : OnboardingText) (entry : String)
    (data : OnboardingData CountryModel UIImage) : Prop where
  username : MatchesUsername data.username.toList
  name : ∃ c ∈ data.name.toList, rules.isWhitespaceOrNewline c = false
  phoneNumber : data.phoneNumber = String.ofList (digits rules entry)
    ∧ 10 ≤ (digits rules entry).length ∧ (digits rules entry).length ≤ 15
  age : MatchesAge data.age.toList

theorem ten_le_length_digits (hrules : rules.PlainLayout) (hhandled : form.PhoneHandled rules)
    (hvalid : validatePhoneNumber rules form.view.formattedPhoneNumber = true) :
    10 ≤ (digits rules form.entry).length := by
  simp only [validatePhoneNumber, Bool.and_eq_true, decide_eq_true_eq, hhandled.shows,
    digits_formatPhoneNumber hrules, List.length_take] at hvalid
  omega

theorem phoneNumber_meetsRules_iff (hrules : rules.PlainLayout) (hhandled : form.PhoneHandled rules)
    (hvalid : validatePhoneNumber rules form.view.formattedPhoneNumber = true) :
    (form.view.phoneNumber = String.ofList (digits rules form.entry)
        ∧ 10 ≤ (digits rules form.entry).length ∧ (digits rules form.entry).length ≤ 15)
      ↔ (digits rules form.entry).length ≤ 10 := by
  rw [hhandled.stores, hhandled.shows, unformat_formatPhoneNumber_iff hrules]
  have hten := ten_le_length_digits hrules hhandled hvalid
  constructor
  · intro h
    exact h.1
  · intro h
    exact ⟨h, hten, by omega⟩

/-- **What is validated and what is stored.** When `Next` proceeds, the stored values meet the rules
of all four fields exactly when trimming left the username as it was and the number was entered with
at most ten digits. -/
theorem stored_meets_rules_iff (hrules : rules.Conventional)
    (hs : (basicInfo CountryModel UIImage rules).Reachable s) (hform : s.form = some form)
    (hstep : (basicInfo CountryModel UIImage rules).step s .next = some t)
    (hproceeds : t.form = none) :
    MeetsRules rules form.entry t.onboardingData
      ↔ rules.trimmed form.view.username = form.view.username.toList
        ∧ (digits rules form.entry).length ≤ 10 := by
  cases turns_of_step hstep with
  | rejected hform' hsettled => cases hproceeds
  | proceed hform' hsettled hvalid =>
      obtain rfl := Option.some.inj (hform.symm.trans hform')
      simp only [fieldsValid, Bool.and_eq_true] at hvalid
      obtain ⟨⟨⟨hname, husername⟩, hphone⟩, hage⟩ := hvalid
      have hhandled : form.PhoneHandled rules :=
        ((phoneKept_of_reachable hrules.layout hs).shown form hform).handled hsettled.2.2.1
      have hnumbers := (ageFiltered_of_reachable hs form hform).filtered hsettled.2.2.2
      rw [← matchesUsername_iff hrules husername,
        ← phoneNumber_meetsRules_iff hrules.layout hhandled hphone]
      constructor
      · intro hmeets
        exact ⟨hmeets.username, hmeets.phoneNumber⟩
      · rintro ⟨hstored, hnumber⟩
        exact ⟨hstored, exists_visible_of_validateName hname, hnumber,
          matchesAge_of_validateAge hrules hnumbers hage⟩

/-- A run to a form that `Next` takes, checked by evaluation. -/
theorem exists_proceeds (events : List BasicInfoEvent)
    (p : BasicInfoForm → OnboardingData Unit Unit → Bool)
    (hrun : ((basicInfo Unit Unit asciiText).exec initial events).any (fun s =>
      s.form.any fun form => ((basicInfo Unit Unit asciiText).step s .next).any fun t =>
        t.form.isNone && p form t.onboardingData) = true) :
    ∃ s form t, (basicInfo Unit Unit asciiText).exec initial events = some s ∧ s.form = some form
      ∧ (basicInfo Unit Unit asciiText).step s .next = some t ∧ t.form = none
      ∧ p form t.onboardingData = true := by
  obtain ⟨s, hexec, hshown⟩ := (Option.any_eq_true _ _).mp hrun
  obtain ⟨form, hform, hnext⟩ := (Option.any_eq_true _ _).mp hshown
  obtain ⟨t, hstep, hend⟩ := (Option.any_eq_true _ _).mp hnext
  obtain ⟨hnone, hp⟩ := Bool.and_eq_true_iff.mp hend
  exact ⟨s, form, t, hexec, hform, hstep, Option.isNone_iff_eq_none.mp hnone, hp⟩

/-- The sample form stores what it validated. -/
theorem stored_meets_rules_of_sample :
    ∃ s form t, (basicInfo Unit Unit asciiText).exec initial fillIn.dropLast = some s
      ∧ s.form = some form ∧ (basicInfo Unit Unit asciiText).step s .next = some t
      ∧ MeetsRules asciiText form.entry t.onboardingData := by
  obtain ⟨s, form, t, hexec, hform, hstep, hproceeds, hkept⟩ :=
    exists_proceeds fillIn.dropLast
      (fun form _ => decide (asciiText.trimmed form.view.username = form.view.username.toList)
        && decide ((digits asciiText form.entry).length ≤ 10)) (by decide +kernel)
  simp only [Bool.and_eq_true, decide_eq_true_eq] at hkept
  have hreach : (basicInfo Unit Unit asciiText).Reachable s := Machine.reachable_of_exec rfl hexec
  refine ⟨s, form, t, hexec, hform, hstep, ?_⟩
  exact (stored_meets_rules_iff conventional_asciiText hreach hform hstep hproceeds).mpr hkept

/-- A blank after the username, and eleven digits. -/
def fillInLoosely : List BasicInfoEvent :=
  [.appear, .type .name "Ana", .onChange .name, .type .username "ana_1 ", .onChange .username,
    .type .phoneNumber "+47 555 123 456", .onChange .phoneNumber, .onChange .phoneNumber,
    .type .age "30", .onChange .age]

/-- `Next` proceeds, and stores the username with the blank and the number without its last digit.
-/
theorem stored_breaks_rules :
    ¬ ∀ (s t : BasicInfoScreen Unit Unit) (form : BasicInfoForm),
      (basicInfo Unit Unit asciiText).Reachable s → s.form = some form →
        (basicInfo Unit Unit asciiText).step s .next = some t → t.form = none →
          MeetsRules asciiText form.entry t.onboardingData := by
  intro h
  obtain ⟨s, form, t, hexec, hform, hstep, hproceeds, hstored⟩ :=
    exists_proceeds fillInLoosely
      (fun _ data => data.username == "ana_1 " && data.phoneNumber == "4755512345")
      (by decide +kernel)
  obtain ⟨husername, -⟩ := Bool.and_eq_true_iff.mp hstored
  have hmeets := h s t form (Machine.reachable_of_exec rfl hexec) hform hstep hproceeds
  have hblank : isUsernameChar ' ' = true := by
    apply hmeets.username.1
    rw [eq_of_beq husername]
    simp
  cases hblank

end BasicInfoScreen

end SkillTalk
