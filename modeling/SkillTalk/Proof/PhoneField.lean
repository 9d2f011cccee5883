import SkillTalk.BasicInfoForm
import SkillTalk.Proof.PhoneFormatting

/-!
# The phone field settles and stays in step

The handler replaces the text it is given by its formatted form, which is formatted already, so it
runs at most twice and the second run changes nothing. A field without a change left to see
therefore shows the formatted entry, and the phone number is its digits. The stored number is one of
these, and loading it gives it back.
-/

namespace SkillTalk

open BasicInfoView

variable {CountryModel UIImage : Type} {rules : OnboardingText}

namespace BasicInfoForm

/-- What the field shows and what is stored of it come from the entry by formatting it. -/
structure PhoneHandled (rules : OnboardingText) (form : BasicInfoForm) : Prop where
  shows : form.view.formattedPhoneNumber = formatPhoneNumber rules form.entry
  stores : form.view.phoneNumber = unformatPhoneNumber rules form.view.formattedPhoneNumber

theorem PhoneHandled.settled (hrules : rules.PlainLayout) {form : BasicInfoForm}
    (h : form.PhoneHandled rules) :
    form.view.formattedPhoneNumber = formatPhoneNumber rules form.view.formattedPhoneNumber
      ∧ form.view.phoneNumber = unformatPhoneNumber rules form.view.formattedPhoneNumber := by
  refine ⟨?_, h.stores⟩
  rw [h.shows, formatPhoneNumber_idempotent hrules]

/-! ### The handler -/

@[simp]
theorem formattedPhoneNumber_onChange (form : BasicInfoForm) :
    (form.onChange rules .phoneNumber).view.formattedPhoneNumber
      = formatPhoneNumber rules form.view.formattedPhoneNumber := rfl

@[simp]
theorem phoneNumber_onChange (form : BasicInfoForm) :
    (form.onChange rules .phoneNumber).view.phoneNumber
      = unformatPhoneNumber rules (formatPhoneNumber rules form.view.formattedPhoneNumber) := rfl

@[simp]
theorem entry_onChange (form : BasicInfoForm) (field : BasicInfoField) :
    (form.onChange rules field).entry = form.entry := rfl

theorem pending_phoneNumber_iff (form : BasicInfoForm) :
    form.Pending .phoneNumber
      ↔ form.view.formattedPhoneNumber ≠ form.observed .phoneNumber := Iff.rfl

@[simp]
theorem observed_onChange (form : BasicInfoForm) :
    (form.onChange rules .phoneNumber).observed .phoneNumber = form.view.formattedPhoneNumber := by
  change Function.update form.observed .phoneNumber (form.view.text .phoneNumber) .phoneNumber = _
  rw [Function.update_self]
  rfl

/-- Only the phone field's own events touch what it shows and stores. -/
theorem phone_onChange_of_ne (form : BasicInfoForm) {field : BasicInfoField}
    (hfield : field ≠ .phoneNumber) :
    (form.onChange rules field).view.formattedPhoneNumber = form.view.formattedPhoneNumber
      ∧ (form.onChange rules field).view.phoneNumber = form.view.phoneNumber
      ∧ (form.onChange rules field).observed .phoneNumber = form.observed .phoneNumber := by
  cases field with
  | phoneNumber => exact absurd rfl hfield
  | name => exact ⟨rfl, rfl, rfl⟩
  | username => exact ⟨rfl, rfl, rfl⟩
  | age => exact ⟨rfl, rfl, rfl⟩

/-- The handler's second run finds what its first has made, and leaves it. -/
theorem phone_onChange_twice (hrules : rules.PlainLayout) (form : BasicInfoForm) :
    let handled := form.onChange rules .phoneNumber
    let again := handled.onChange rules .phoneNumber
    again.view.formattedPhoneNumber = handled.view.formattedPhoneNumber
      ∧ again.view.phoneNumber = handled.view.phoneNumber ∧ ¬ again.Pending .phoneNumber := by
  simp only [pending_phoneNumber_iff, formattedPhoneNumber_onChange, phoneNumber_onChange,
    observed_onChange, formatPhoneNumber_idempotent hrules, ne_eq, not_true, not_false_eq_true,
    and_self]

/-- Once the field has settled, an edit has come to what the container's view makes of it at once.
-/
theorem view_settled (hrules : rules.PlainLayout) (form : BasicInfoForm) (field : BasicInfoField)
    (text : String) :
    (((form.type field text).onChange rules field).onChange rules field).view
      = form.view.edit rules field text := by
  cases field with
  | name => rfl
  | username => rfl
  | phoneNumber =>
      have htwice : formatPhoneNumber rules (formatPhoneNumber rules text)
          = formatPhoneNumber rules text := formatPhoneNumber_idempotent hrules text
      simp only [onChange, type, setText, BasicInfoView.text, onTextChange, clearError, edit, htwice]
  | age =>
      have htwice : digits rules (String.ofList (digits rules text)) = digits rules text :=
        digits_ofList_of_forall fun c hc => isNumber_of_mem_digits hc
      simp only [onChange, type, setText, BasicInfoView.text, onTextChange, clearError, edit, htwice]

/-! ### What holds between events -/

/-- The field shows the entry as typed, or has been handled since. -/
def PhoneInStep (rules : OnboardingText) (form : BasicInfoForm) : Prop :=
  (form.view.formattedPhoneNumber = form.entry ∧ form.Pending .phoneNumber)
    ∨ form.PhoneHandled rules

theorem PhoneInStep.handled {form : BasicInfoForm} (h : form.PhoneInStep rules)
    (hsettled : ¬ form.Pending .phoneNumber) : form.PhoneHandled rules := by
  rcases h with ⟨-, hpending⟩ | h
  · exact absurd hpending hsettled
  · exact h

theorem PhoneInStep.type (hrules : rules.PlainLayout) {form : BasicInfoForm}
    (h : form.PhoneInStep rules) (hsettled : ¬ form.Pending .phoneNumber) (field : BasicInfoField)
    (text : String) : (form.type field text).PhoneInStep rules := by
  have hhandled : form.PhoneHandled rules := h.handled hsettled
  by_cases hfield : field = .phoneNumber
  · obtain rfl := hfield
    by_cases hchange : (form.type .phoneNumber text).Pending .phoneNumber
    · exact .inl ⟨rfl, hchange⟩
    · -- the text typed is the one shown, which is formatted
      have htext : text = form.view.formattedPhoneNumber :=
        (not_not.mp hchange).trans (not_not.mp hsettled).symm
      obtain ⟨hformatted, hstores⟩ := hhandled.settled hrules
      refine .inr ⟨?_, ?_⟩
      · change text = formatPhoneNumber rules text
        rw [htext]
        exact hformatted
      · change form.view.phoneNumber = unformatPhoneNumber rules text
        rw [htext]
        exact hstores
  · refine .inr ?_
    cases field with
    | phoneNumber => exact absurd rfl hfield
    | name => exact ⟨hhandled.shows, hhandled.stores⟩
    | username => exact ⟨hhandled.shows, hhandled.stores⟩
    | age => exact ⟨hhandled.shows, hhandled.stores⟩

theorem PhoneInStep.onChange (hrules : rules.PlainLayout) {form : BasicInfoForm}
    (h : form.PhoneInStep rules) (field : BasicInfoField) :
    (form.onChange rules field).PhoneInStep rules := by
  by_cases hfield : field = .phoneNumber
  · obtain rfl := hfield
    refine .inr ⟨?_, by rw [phoneNumber_onChange, formattedPhoneNumber_onChange]⟩
    rw [formattedPhoneNumber_onChange, entry_onChange]
    rcases h with ⟨hentry, -⟩ | hhandled
    · rw [hentry]
    · rw [hhandled.shows, formatPhoneNumber_idempotent hrules]
  · obtain ⟨hformatted, hnumber, hobserved⟩ := phone_onChange_of_ne form hfield
    rcases h with ⟨hentry, hpending⟩ | hhandled
    · refine .inl ⟨hformatted.trans hentry, ?_⟩
      change (form.onChange rules field).view.formattedPhoneNumber ≠ _
      rw [hformatted, hobserved]
      exact hpending
    · refine .inr ⟨hformatted.trans hhandled.shows, ?_⟩
      rw [hformatted, hnumber]
      exact hhandled.stores

theorem PhoneInStep.appear (hrules : rules.PlainLayout)
    {data : OnboardingData CountryModel UIImage} {entry : String}
    (hdata : data.phoneNumber = unformatPhoneNumber rules (formatPhoneNumber rules entry)) :
    (BasicInfoForm.appear rules data entry).PhoneInStep rules := by
  have hdigits : digits rules data.phoneNumber = (digits rules entry).take 10 := by
    rw [hdata, unformatPhoneNumber, digits_ofList_of_forall fun c hc => isNumber_of_mem_digits hc,
      digits_formatPhoneNumber hrules]
  have hformat : formatPhoneNumber rules data.phoneNumber = formatPhoneNumber rules entry := by
    rw [formatPhoneNumber_eq_layout, hdigits, layout_take, formatPhoneNumber_eq_layout]
  have hshows : (BasicInfoForm.appear rules data entry).view.formattedPhoneNumber
      = formatPhoneNumber rules entry := by
    change (if data.phoneNumber = "" then "" else formatPhoneNumber rules data.phoneNumber) = _
    by_cases hempty : data.phoneNumber = ""
    · rw [if_pos hempty, ← hformat, hempty]
      rfl
    · rw [if_neg hempty, hformat]
  refine .inr ⟨hshows, ?_⟩
  rw [hshows]
  exact hdata

theorem phone_submit (v : BasicInfoView) (field : BasicInfoField) :
    (v.submit rules field).formattedPhoneNumber = v.formattedPhoneNumber
      ∧ (v.submit rules field).phoneNumber = v.phoneNumber := by
  cases field <;> (simp only [submit]; split <;> exact ⟨rfl, rfl⟩)

theorem PhoneHandled.submit {form : BasicInfoForm} (h : form.PhoneHandled rules)
    (field : BasicInfoField) :
    { form with view := form.view.submit rules field }.PhoneHandled rules := by
  obtain ⟨hformatted, hnumber⟩ := phone_submit form.view field
  refine ⟨hformatted.trans h.shows, ?_⟩
  change (form.view.submit rules field).phoneNumber
    = unformatPhoneNumber rules (form.view.submit rules field).formattedPhoneNumber
  rw [hformatted, hnumber]
  exact h.stores

end BasicInfoForm

namespace BasicInfoScreen

open BasicInfoForm

/-- The stored number and the field's are those of their entries. -/
structure PhoneKept (rules : OnboardingText) (s : BasicInfoScreen CountryModel UIImage) : Prop where
  stored : s.onboardingData.phoneNumber
    = unformatPhoneNumber rules (formatPhoneNumber rules s.storedEntry)
  shown : ∀ form ∈ s.form, form.PhoneInStep rules

/-- What one event does to the screen. -/
inductive Turns (rules : OnboardingText) (s : BasicInfoScreen CountryModel UIImage) :
    BasicInfoEvent → BasicInfoScreen CountryModel UIImage → Prop
  | appear (hform : s.form = none) :
      Turns rules s .appear
        { s with form := some (.appear rules s.onboardingData s.storedEntry) }
  | onChange {form : BasicInfoForm} {field : BasicInfoField} (hform : s.form = some form)
      (hpending : form.Pending field) :
      Turns rules s (.onChange field) { s with form := some (form.onChange rules field) }
  | type {form : BasicInfoForm} {field : BasicInfoField} {text : String} (hform : s.form = some form)
      (hsettled : form.Settled) :
      Turns rules s (.type field text) { s with form := some (form.type field text) }
  | submit {form : BasicInfoForm} {field : BasicInfoField} (hform : s.form = some form)
      (hsettled : form.Settled) :
      Turns rules s (.submit field)
        { s with form := some { form with view := form.view.submit rules field } }
  | rejected {form : BasicInfoForm} (hform : s.form = some form) (hsettled : form.Settled) :
      Turns rules s .next
        { s with form := some { form with view := form.view.validateAllFields rules } }
  | proceed {form : BasicInfoForm} (hform : s.form = some form) (hsettled : form.Settled)
      (hvalid : form.view.fieldsValid rules = true) :
      Turns rules s .next ⟨form.view.saved s.onboardingData, form.entry, none⟩
  | back {form : BasicInfoForm} (hform : s.form = some form) (hsettled : form.Settled) :
      Turns rules s .back { s with form := none }

theorem turns_of_step {s t : BasicInfoScreen CountryModel UIImage} {event : BasicInfoEvent}
    (hstep : (basicInfo CountryModel UIImage rules).step s event = some t) :
    Turns rules s event t := by
  change s.step rules event = some t at hstep
  unfold step at hstep
  cases hform : s.form with
  | none =>
      rw [hform] at hstep
      cases event with
      | appear =>
          obtain rfl := Option.some.inj hstep
          exact .appear hform
      | type | onChange | submit | next | back => cases hstep
  | some form =>
      rw [hform] at hstep
      cases event with
      | onChange field =>
          dsimp only at hstep
          split_ifs at hstep with hpending
          obtain rfl := Option.some.inj hstep
          exact .onChange hform hpending
      | appear =>
          dsimp only at hstep
          split_ifs at hstep
      | type field text =>
          dsimp only at hstep
          split_ifs at hstep with hsettled
          obtain rfl := Option.some.inj hstep
          exact .type hform hsettled
      | submit field =>
          dsimp only at hstep
          split_ifs at hstep with hsettled
          obtain rfl := Option.some.inj hstep
          exact .submit hform hsettled
      | next =>
          simp only [next] at hstep
          split_ifs at hstep with hsettled henabled hvalid
          · obtain rfl := Option.some.inj hstep
            exact .proceed hform hsettled hvalid
          · obtain rfl := Option.some.inj hstep
            exact .rejected hform hsettled
      | back =>
          dsimp only at hstep
          split_ifs at hstep with hsettled
          obtain rfl := Option.some.inj hstep
          exact .back hform hsettled

variable {s t : BasicInfoScreen CountryModel UIImage}

theorem phoneKept_initial :
    PhoneKept rules (initial : BasicInfoScreen CountryModel UIImage) := by
  constructor
  · rfl
  · rintro form ⟨⟩

theorem PhoneKept.step (hrules : rules.PlainLayout) (hs : s.PhoneKept rules) {event : BasicInfoEvent}
    (hturn : Turns rules s event t) : t.PhoneKept rules := by
  cases hturn with
  | appear hform =>
      refine ⟨hs.stored, ?_⟩
      rintro _ ⟨⟩
      exact .appear hrules hs.stored
  | onChange hform hpending =>
      refine ⟨hs.stored, ?_⟩
      rintro _ ⟨⟩
      exact (hs.shown _ hform).onChange hrules _
  | type hform hsettled =>
      refine ⟨hs.stored, ?_⟩
      rintro _ ⟨⟩
      exact (hs.shown _ hform).type hrules hsettled.2.2.1 _ _
  | submit hform hsettled =>
      refine ⟨hs.stored, ?_⟩
      rintro _ ⟨⟩
      have hhandled := (hs.shown _ hform).handled hsettled.2.2.1
      exact .inr (hhandled.submit _)
  | rejected hform hsettled =>
      refine ⟨hs.stored, ?_⟩
      rintro _ ⟨⟩
      have hhandled := (hs.shown _ hform).handled hsettled.2.2.1
      exact .inr ⟨hhandled.shows, hhandled.stores⟩
  | proceed hform hsettled hvalid =>
      have hhandled := (hs.shown _ hform).handled hsettled.2.2.1
      refine ⟨?_, ?_⟩
      · rw [← hhandled.shows]
        exact hhandled.stores
      · rintro _ ⟨⟩
  | back hform hsettled =>
      refine ⟨hs.stored, ?_⟩
      rintro _ ⟨⟩

theorem phoneKept_of_reachable (hrules : rules.PlainLayout)
    (hs : (basicInfo CountryModel UIImage rules).Reachable s) : s.PhoneKept rules := by
  refine Machine.ReachableWhere.invariant (PhoneKept rules) ?_ ?_ hs
  · rintro s rfl
    exact phoneKept_initial
  · intro s event t _ hs _ hstep
    exact hs.step hrules (turns_of_step hstep)

/-! ### Coming back -/

/-- The event does not type into the phone field. -/
def LeavesPhone : BasicInfoEvent → Prop
  | .type field _ => field ≠ .phoneNumber
  | _ => True

/-- The stored number's entry is this one, and so is that of the field. -/
def EntryKept (entry : String) (s : BasicInfoScreen CountryModel UIImage) : Prop :=
  s.storedEntry = entry ∧ ∀ form ∈ s.form, form.entry = entry

theorem EntryKept.step {entry : String} (hs : s.EntryKept entry) {event : BasicInfoEvent}
    (hevent : LeavesPhone event) (hturn : Turns rules s event t) : t.EntryKept entry := by
  obtain ⟨hstored, hshown⟩ := hs
  cases hturn with
  | appear hform => exact ⟨hstored, by rintro _ ⟨⟩; exact hstored⟩
  | onChange hform hpending =>
      have hentry := hshown _ hform
      exact ⟨hstored, by rintro _ ⟨⟩; exact hentry⟩
  | type hform hsettled =>
      refine ⟨hstored, ?_⟩
      rintro _ ⟨⟩
      have hfield : _ ≠ BasicInfoField.phoneNumber := hevent
      change (if _ then _ else _) = entry
      rw [if_neg hfield]
      exact hshown _ hform
  | submit hform hsettled =>
      have hentry := hshown _ hform
      exact ⟨hstored, by rintro _ ⟨⟩; exact hentry⟩
  | rejected hform hsettled =>
      have hentry := hshown _ hform
      exact ⟨hstored, by rintro _ ⟨⟩; exact hentry⟩
  | proceed hform hsettled hvalid => exact ⟨hshown _ hform, by rintro _ ⟨⟩⟩
  | back hform hsettled => exact ⟨hstored, by rintro _ ⟨⟩⟩

theorem EntryKept.exec {entry : String} {events : List BasicInfoEvent} (hs : s.EntryKept entry)
    (hevents : ∀ event ∈ events, LeavesPhone event)
    (hexec : (basicInfo CountryModel UIImage rules).exec s events = some t) :
    t.EntryKept entry := by
  induction events generalizing s with
  | nil => exact Option.some.inj hexec ▸ hs
  | cons event events ih =>
      obtain ⟨u, hstep, hrest⟩ := Machine.exec_cons_eq_some hexec
      rw [List.forall_mem_cons] at hevents
      exact ih (hs.step hevents.1 (turns_of_step hstep)) hevents.2 hrest

/-- **The phone field settles and stays in step.** Formatting is idempotent, so the handler's second
run changes nothing; a field without a change left to see shows a formatted text and stores its
digits; and coming back without typing into the field leaves the stored number as it was. -/
theorem phone_field_settles (hrules : rules.PlainLayout) :
    (∀ text, formatPhoneNumber rules (formatPhoneNumber rules text) = formatPhoneNumber rules text)
      ∧ (∀ form : BasicInfoForm,
          let handled := form.onChange rules .phoneNumber
          let again := handled.onChange rules .phoneNumber
          again.view.formattedPhoneNumber = handled.view.formattedPhoneNumber
            ∧ again.view.phoneNumber = handled.view.phoneNumber ∧ ¬ again.Pending .phoneNumber)
      ∧ (∀ s, (basicInfo CountryModel UIImage rules).Reachable s →
          ∀ form ∈ s.form, ¬ form.Pending .phoneNumber →
            form.view.formattedPhoneNumber
                = formatPhoneNumber rules form.view.formattedPhoneNumber
              ∧ form.view.phoneNumber = unformatPhoneNumber rules form.view.formattedPhoneNumber)
      ∧ ∀ s, (basicInfo CountryModel UIImage rules).Reachable s → s.form = none →
          ∀ events, (∀ event ∈ events, LeavesPhone event) →
            ∀ t, (basicInfo CountryModel UIImage rules).exec s events = some t →
              t.onboardingData.phoneNumber = s.onboardingData.phoneNumber := by
  refine ⟨formatPhoneNumber_idempotent hrules, phone_onChange_twice hrules, ?_, ?_⟩
  · intro s hs form hform hsettled
    have hkept : s.PhoneKept rules := phoneKept_of_reachable hrules hs
    exact ((hkept.shown form hform).handled hsettled).settled hrules
  · intro s hs hform events hevents t hexec
    have hstart : s.EntryKept s.storedEntry := ⟨rfl, by simp [hform]⟩
    have hend : t.EntryKept s.storedEntry := hstart.exec hevents hexec
    have ht : (basicInfo CountryModel UIImage rules).Reachable t :=
      hs.exec hexec fun _ _ => trivial
    rw [(phoneKept_of_reachable hrules ht).stored, (phoneKept_of_reachable hrules hs).stored,
      hend.1]

/-- The form is filled in, every change seen, and `Next` tapped. -/
def fillIn : List BasicInfoEvent :=
  [.appear, .type .name "Ana", .onChange .name, .type .username "ana_1", .onChange .username,
    .type .phoneNumber "555 123 4567", .onChange .phoneNumber, .onChange .phoneNumber,
    .type .age "30", .onChange .age, .next]

def comeBack : List BasicInfoEvent :=
  [.appear, .onChange .name, .onChange .username, .onChange .phoneNumber, .onChange .age, .next]

/-- `Next` stores the same number again. -/
theorem phone_field_settles_of_return :
    ∃ s t, (basicInfo Unit Unit asciiText).exec initial fillIn = some s
      ∧ (basicInfo Unit Unit asciiText).exec s comeBack = some t
      ∧ s.onboardingData.phoneNumber = "5551234567"
      ∧ t.onboardingData.phoneNumber = s.onboardingData.phoneNumber := by
  have hrun : ((basicInfo Unit Unit asciiText).exec initial fillIn).any (fun s =>
      s.form.isNone && s.onboardingData.phoneNumber == "5551234567"
        && ((basicInfo Unit Unit asciiText).exec s comeBack).isSome) = true := by
    decide +kernel
  obtain ⟨s, hs, hend⟩ := (Option.any_eq_true _ _).mp hrun
  simp only [Bool.and_eq_true, Option.isNone_iff_eq_none, beq_iff_eq] at hend
  obtain ⟨⟨hform, hnumber⟩, hreturns⟩ := hend
  obtain ⟨t, ht⟩ := Option.isSome_iff_exists.mp hreturns
  have hreach : (basicInfo Unit Unit asciiText).Reachable s := Machine.reachable_of_exec rfl hs
  obtain ⟨-, -, -, hreturn⟩ := phone_field_settles plainLayout_asciiText
  exact ⟨s, t, hs, ht, hnumber,
    hreturn s hreach hform comeBack (by simp [comeBack, LeavesPhone]) t ht⟩

end BasicInfoScreen

end SkillTalk
