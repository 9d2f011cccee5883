import SkillTalk.Proof.JSONRoundTrip
import SkillTalk.TranslationStatusCoding

/-!
# Translation statuses are read back

All coding keys of a status survive the two conversions. A date is read as the one that its text
stands for, which is written the same; so whatever the first round trip loses, the second loses
nothing.
-/

namespace SkillTalk

open KeyedContainer

theorem readableKey_type : ReadableKey "type" :=
  readableKey_of_words ["type".toList] (by decide) (by decide)

theorem readableKey_date : ReadableKey "date" :=
  readableKey_of_words ["date".toList] (by decide) (by decide)

theorem readableKey_errorMessage : ReadableKey "errorMessage" :=
  readableKey_of_words ["error".toList, "message".toList] (by decide) (by decide)

variable {Number : Type} {dates : DateFormat} {keyOrder : String → String → Bool}

namespace TranslationStatus

/-- The type that a status is written with. -/
def type : TranslationStatus → String
  | .notLoaded => "notLoaded"
  | .loading => "loading"
  | .loaded _ => "loaded"
  | .failed _ => "failed"

/-- The member that a status has beside its type, if any. -/
def value (dates : DateFormat) : TranslationStatus → Option (String × String)
  | .notLoaded | .loading => none
  | .loaded date => some ("date", dates.string date)
  | .failed errorMessage => some ("errorMessage", errorMessage)

/-- The fields that a status is encoded as. -/
def fields (dates : DateFormat) (status : TranslationStatus) :
    List (String × Option (JSON Number)) :=
  ("type", some (.string status.type))
    :: (status.value dates).toList.map fun member => (member.1, some (.string member.2))

theorem encode_eq (status : TranslationStatus) :
    encode dates keyOrder status
      = .ok (keyedObject keyOrder (status.fields dates) : JSON Number) := by
  cases status <;> rfl

theorem nodup_fields (status : TranslationStatus) :
    ((status.fields dates : List (String × Option (JSON Number))).map Prod.fst).Nodup := by
  cases status <;> simp [fields, value]

theorem readable_fields (status : TranslationStatus) :
    ∀ field ∈ (status.fields dates : List (String × Option (JSON Number))),
      ReadableKey field.1 := by
  cases status <;>
    simp [fields, value, readableKey_type, readableKey_date, readableKey_errorMessage]

/-- What is found in the container of a written status. -/
theorem value?_fields (status : TranslationStatus) (field : String × Option (JSON Number))
    (hfield : field ∈ status.fields dates) :
    value? convertFromSnakeCase
      (members convertToSnakeCase keyOrder (status.fields dates)) field.1 = field.2 := by
  have hread (key : String) (value : JSON Number)
      (hmem : (key, some value) ∈ status.fields dates) : ReadableKey key :=
    readable_fields status (key, some value) hmem
  exact value?_members (nodup_fields status) hread hfield

/-! ### What is accepted -/

section Decoding

variable {container : List (String × JSON Number)} {key text : String}

theorem decode_string_iff : SkillTalk.decode container key .string = .ok text
    ↔ value? convertFromSnakeCase container key = some (.string text) := by
  rw [SkillTalk.decode]
  cases hvalue : value? convertFromSnakeCase container key with
  | none => simp
  | some json => cases json <;> simp [JSONCoding.string]

theorem decode_date_iff {date : Date} : SkillTalk.decode container key (.date dates) = .ok date
    ↔ ∃ text, value? convertFromSnakeCase container key = some (.string text)
      ∧ dates.date text = some date := by
  rw [SkillTalk.decode]
  cases hvalue : value? convertFromSnakeCase container key with
  | none => simp
  | some json =>
      cases json with
      | string text => cases hdate : dates.date text <;> simp [JSONCoding.date, hdate]
      | _ => simp [JSONCoding.date]

theorem keyedContainer_iff {json : JSON Number} :
    keyedContainer json = .ok container ↔ json = .object container := by
  cases json <;> simp [keyedContainer]

/-- The container has what the status has beside its type. -/
def Beside (dates : DateFormat) (container : List (String × JSON Number)) :
    TranslationStatus → Prop
  | .notLoaded | .loading => True
  | .loaded date => ∃ text, value? convertFromSnakeCase container "date" = some (.string text)
      ∧ dates.date text = some date
  | .failed errorMessage =>
      value? convertFromSnakeCase container "errorMessage" = some (.string errorMessage)

end Decoding

/-- **What is read as a status**: the objects with its type, and with what belongs to the type. -/
theorem decode_iff {json : JSON Number} {status : TranslationStatus} :
    decode dates json = .ok status ↔ ∃ container, json = .object container
      ∧ value? convertFromSnakeCase container "type" = some (.string status.type)
      ∧ Beside dates container status := by
  simp only [decode, bind_eq_ok, keyedContainer_iff, decode_string_iff]
  refine exists_congr fun container => and_congr_right fun _ => ?_
  constructor
  · rintro ⟨type, htype, hstatus⟩
    split at hstatus
    · subst type
      obtain rfl := Except.ok.inj hstatus
      exact ⟨htype, trivial⟩
    split at hstatus
    · subst type
      obtain rfl := Except.ok.inj hstatus
      exact ⟨htype, trivial⟩
    split at hstatus
    · subst type
      obtain ⟨date, hdate, hloaded⟩ := bind_eq_ok.mp hstatus
      obtain rfl := Except.ok.inj hloaded
      exact ⟨htype, decode_date_iff.mp hdate⟩
    split at hstatus
    · subst type
      obtain ⟨errorMessage, hmessage, hfailed⟩ := bind_eq_ok.mp hstatus
      obtain rfl := Except.ok.inj hfailed
      exact ⟨htype, decode_string_iff.mp hmessage⟩
    · cases hstatus
  · rintro ⟨htype, hbeside⟩
    refine ⟨status.type, htype, ?_⟩
    cases status with
    | notLoaded => rfl
    | loading => rfl
    | loaded date =>
        obtain ⟨text, htext, hdate⟩ := hbeside
        exact bind_eq_ok.mpr ⟨date, decode_date_iff.mpr ⟨text, htext, hdate⟩, rfl⟩
    | failed errorMessage =>
        exact bind_eq_ok.mpr ⟨errorMessage, decode_string_iff.mpr hbeside, rfl⟩

/-! ### The round trip -/

/-- The status that is read after it is written. -/
def ReadBack (dates : DateFormat) (status : TranslationStatus) : TranslationStatus → Prop
  | .loaded read => ∃ date, status = .loaded date ∧ dates.date (dates.string date) = some read
  | read => status = read

/-- The container that a status is written as. -/
def written (dates : DateFormat) (keyOrder : String → String → Bool)
    (status : TranslationStatus) : List (String × JSON Number) :=
  members convertToSnakeCase keyOrder (status.fields dates)

variable (keyOrder) in
theorem value?_type (status : TranslationStatus) :
    value? convertFromSnakeCase (status.written dates keyOrder : List (String × JSON Number)) "type"
      = some (.string status.type) :=
  value?_fields status ("type", some (.string status.type)) List.mem_cons_self

variable (keyOrder) in
theorem beside_iff {status read : TranslationStatus} (htype : status.type = read.type) :
    Beside dates (status.written dates keyOrder : List (String × JSON Number)) read
      ↔ ReadBack dates status read := by
  cases read with
  | notLoaded =>
      cases status <;> first | exact iff_of_true trivial rfl | simp [type] at htype
  | loading =>
      cases status <;> first | exact iff_of_true trivial rfl | simp [type] at htype
  | loaded read =>
      cases status with
      | loaded date =>
          have hdate : value? convertFromSnakeCase
              ((loaded date).written dates keyOrder : List (String × JSON Number)) "date"
              = some (.string (dates.string date)) :=
            value?_fields (loaded date) ("date", some (.string (dates.string date)))
              (by simp [fields, value])
          simp [Beside, ReadBack, hdate]
      | _ => simp [type] at htype
  | failed errorMessage =>
      cases status with
      | failed message =>
          have hmessage : value? convertFromSnakeCase
              ((failed message).written dates keyOrder : List (String × JSON Number)) "errorMessage"
              = some (.string message) :=
            value?_fields (failed message) ("errorMessage", some (.string message))
              (by simp [fields, value])
          simp [Beside, ReadBack, hmessage]
      | _ => simp [type] at htype

theorem type_of_readBack {status read : TranslationStatus} (h : ReadBack dates status read) :
    status.type = read.type := by
  cases read with
  | loaded read =>
      obtain ⟨date, rfl, -⟩ := h
      rfl
  | _ => exact congrArg type h

/-- **What a written status is read as.** -/
theorem decode_encode_iff {json : JSON Number} {status read : TranslationStatus}
    (hencode : encode dates keyOrder status = .ok json) :
    decode dates json = .ok read ↔ ReadBack dates status read := by
  obtain rfl := Except.ok.inj ((encode_eq status).symm.trans hencode)
  rw [decode_iff]
  constructor
  · rintro ⟨container, hcontainer, htype, hbeside⟩
    obtain rfl : status.written dates keyOrder = container := JSON.object.inj hcontainer
    rw [value?_type keyOrder status] at htype
    have hsame : status.type = read.type := JSON.string.inj (Option.some.inj htype)
    exact (beside_iff keyOrder hsame).mp hbeside
  · intro hread
    have hsame := type_of_readBack hread
    refine ⟨status.written dates keyOrder, rfl, ?_, (beside_iff keyOrder hsame).mpr hread⟩
    rw [value?_type keyOrder status, hsame]

theorem readsBack_status_iff {status : TranslationStatus} :
    ReadsBack (coding dates keyOrder : JSONCoding Number TranslationStatus) status
      ↔ ReadBack dates status status := by
  rw [readsBack_iff]
  constructor
  · rintro ⟨json, hencode, hdecode⟩
    exact (decode_encode_iff hencode).mp hdecode
  · intro hread
    exact ⟨_, encode_eq status, (decode_encode_iff (encode_eq status)).mpr hread⟩

theorem readBack_self_iff {status : TranslationStatus} :
    ReadBack dates status status
      ↔ ∀ date, status = .loaded date → dates.date (dates.string date) = some date := by
  cases status with
  | loaded date => simp [ReadBack]
  | _ => simp [ReadBack]

/-- The second trip writes what the first one wrote. -/
theorem encode_of_readBack
    (hdates : ∀ date read, dates.date (dates.string date) = some read →
      dates.string read = dates.string date) {status read : TranslationStatus}
    (h : ReadBack dates status read) :
    (encode dates keyOrder read : Except EncodingError (JSON Number))
      = encode dates keyOrder status := by
  cases read with
  | loaded read =>
      obtain ⟨date, rfl, hdate⟩ := h
      rw [encode_eq, encode_eq]
      simp only [fields, type, value, hdates date read hdate]
  | _ => rw [show status = _ from h]

variable (Number) in
/-- **Statuses are read back** by the loader exactly when their dates are; a status that was read is
written as before and read back from then on; and what is read as a status is an object with a type
and with what belongs to that type. -/
theorem statuses_read_back (keyOrder : String → String → Bool)
    (hdates : ∀ date read, dates.date (dates.string date) = some read →
      dates.string read = dates.string date) :
    let coding : JSONCoding Number TranslationStatus := coding dates keyOrder
    (∀ statuses, ReadsBack coding.array statuses ↔
        ∀ date, .loaded date ∈ statuses → dates.date (dates.string date) = some date)
      ∧ (∀ status json read, coding.encode status = .ok json → coding.decode json = .ok read →
        coding.encode read = .ok json ∧ ReadsBack coding read)
      ∧ ∀ json read, coding.decode json = .ok read ↔ ∃ container, json = .object container
        ∧ value? convertFromSnakeCase container "type" = some (.string read.type)
        ∧ Beside dates container read := by
  refine ⟨fun statuses => ?_, fun status json read hencode hdecode => ?_,
    fun json read => decode_iff⟩
  · rw [readsBack_array_iff]
    simp only [readsBack_status_iff, readBack_self_iff]
    constructor
    · intro h date hmem
      exact h _ hmem date rfl
    · rintro h status hmem date rfl
      exact h date hmem
  · have hread : ReadBack dates status read := (decode_encode_iff hencode).mp hdecode
    have hsame : encode dates keyOrder read = .ok json :=
      (encode_of_readBack hdates hread).trans hencode
    exact ⟨hsame, readsBack_iff.mpr ⟨json, hsame, hdecode⟩⟩

/-- The dates of one second, as they are written to whole seconds. -/
def firstSecond : DateFormat where
  string date := if 0 ≤ date ∧ date < 1 then "2001-01-01T00:00:00Z" else "2001-01-01T00:00:01Z"
  date text :=
    if text = "2001-01-01T00:00:00Z" then some 0
    else if text = "2001-01-01T00:00:01Z" then some 1 else none

/-- Half a second is lost once. -/
theorem statuses_read_back_of_half_second :
    let coding : JSONCoding ℚ TranslationStatus := coding firstSecond fun _ _ => true
    ¬ReadsBack coding.array [.notLoaded, .loaded (1 / 2)]
      ∧ ReadsBack coding.array [.failed "Invalid response", .loaded 0] := by
  have hdates : ∀ date read, firstSecond.date (firstSecond.string date) = some read →
      firstSecond.string read = firstSecond.string date := by
    intro date read hread
    by_cases hfirst : 0 ≤ date ∧ date < 1
    · simp only [firstSecond, if_pos hfirst, if_true, Option.some.injEq] at hread ⊢
      rw [if_pos]
      rw [← hread]
      decide
    · have hlater : ("2001-01-01T00:00:01Z" : String) ≠ "2001-01-01T00:00:00Z" := by decide
      simp only [firstSecond, if_neg hfirst, if_neg hlater, if_true, Option.some.injEq] at hread ⊢
      rw [if_neg]
      rw [← hread]
      decide
  obtain ⟨hback, -⟩ := statuses_read_back ℚ (fun _ _ => true) hdates
  refine ⟨fun h => ?_, (hback _).mpr ?_⟩
  · have hhalf := (hback _).mp h (1 / 2) (by simp)
    exact absurd hhalf (by decide +kernel)
  · intro date hmem
    obtain rfl : date = 0 := by simpa using hmem
    decide +kernel

end TranslationStatus

end SkillTalk
