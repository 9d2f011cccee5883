import Mathlib.Data.List.Basic
import Mathlib.Data.List.TakeWhile

/-!
# Query strings

A URL's query as a form decoder reads it: split at each `&`, each part at its first `=`, with `+`
for a space and escaped bytes of UTF-8. An encoder that escapes what is not allowed is undone by
it, up to the plus signs that it allows.
-/

namespace QueryString

def hexDigit (n : ℕ) : Char := "0123456789ABCDEF".toList.getD n '0'

def escapedByte (byte : UInt8) : List Char :=
  ['%', hexDigit (byte.toNat / 16), hexDigit (byte.toNat % 16)]

/-- The UTF-8 bytes of every character that is not allowed, escaped. -/
def escape (allowed : Char → Bool) (text : List Char) : List Char :=
  text.flatMap fun c =>
    if allowed c then [c] else (String.singleton c).toUTF8.toList.flatMap escapedByte

def hexValue (c : Char) : Option ℕ :=
  if '0' ≤ c ∧ c ≤ '9' then some (c.toNat - '0'.toNat)
  else if 'A' ≤ c ∧ c ≤ 'F' then some (c.toNat - 'A'.toNat + 10)
  else if 'a' ≤ c ∧ c ≤ 'f' then some (c.toNat - 'a'.toNat + 10)
  else none

/-- The bytes a part stands for. A `%` without two hexadecimal digits stands for itself. -/
def unescapedBytes : List Char → List UInt8
  | [] => []
  | c :: rest =>
      if c = '+' then 32 :: unescapedBytes rest
      else
        match c, rest with
        | '%', high :: low :: rest =>
            match hexValue high, hexValue low with
            | some high, some low => UInt8.ofNat (16 * high + low) :: unescapedBytes rest
            | _, _ => String.utf8EncodeChar '%' ++ unescapedBytes (high :: low :: rest)
        | c, rest => String.utf8EncodeChar c ++ unescapedBytes rest

def unescape (part : List Char) : Option String :=
  String.fromUTF8? (unescapedBytes part).toByteArray

/-- What stands between the first `?` and the fragment. -/
def query (url : List Char) : List Char :=
  ((url.takeWhile (· ≠ '#')).dropWhile (· ≠ '?')).drop 1

def parameter (part : List Char) : Option String × Option String :=
  (unescape (part.takeWhile (· ≠ '=')), unescape ((part.dropWhile (· ≠ '=')).drop 1))

def parameters (query : List Char) : List (Option String × Option String) :=
  (query.splitOn '&').map parameter

/-- What an encoder's character is read as. -/
def readAs (allowed : Char → Bool) (c : Char) : Char :=
  if c = '+' ∧ allowed c = true then ' ' else c

/-! ### Escaping and unescaping -/

theorem hexValue_hexDigit : ∀ n < 16, hexValue (hexDigit n) = some n := by
  decide

theorem unescapedBytes_of_plus (rest : List Char) :
    unescapedBytes ('+' :: rest) = 32 :: unescapedBytes rest := by
  rw [unescapedBytes.eq_def]
  exact if_pos rfl

theorem unescapedBytes_of_ne {c : Char} (hplus : c ≠ '+') (hpercent : c ≠ '%')
    (rest : List Char) :
    unescapedBytes (c :: rest) = String.utf8EncodeChar c ++ unescapedBytes rest := by
  rw [unescapedBytes.eq_def]
  simp only [if_neg hplus]
  split
  · exact absurd rfl hpercent
  · rfl

theorem unescapedBytes_escapedByte (byte : UInt8) (rest : List Char) :
    unescapedBytes (escapedByte byte ++ rest) = byte :: unescapedBytes rest := by
  have hbyte : byte.toNat < 256 := UInt8.toNat_lt_size byte
  have hhigh := hexValue_hexDigit (byte.toNat / 16) (by omega)
  have hlow := hexValue_hexDigit (byte.toNat % 16) (by omega)
  have hvalue : 16 * (byte.toNat / 16) + byte.toNat % 16 = byte.toNat := by omega
  simp only [escapedByte, List.cons_append, List.nil_append]
  rw [unescapedBytes, if_neg (by decide)]
  simp only [hhigh, hlow, hvalue, UInt8.ofNat_toNat]

theorem unescapedBytes_escapedBytes (bytes : List UInt8) (rest : List Char) :
    unescapedBytes (bytes.flatMap escapedByte ++ rest) = bytes ++ unescapedBytes rest := by
  induction bytes with
  | nil => rfl
  | cons byte bytes ih =>
    rw [List.flatMap_cons, List.append_assoc, unescapedBytes_escapedByte, ih, List.cons_append]

theorem toList_loop (bytes : ByteArray) (i : ℕ) (read : List UInt8) :
    ByteArray.toList.loop bytes i read = read.reverse ++ bytes.data.toList.drop i := by
  fun_induction ByteArray.toList.loop bytes i read with
  | case1 i read h ih =>
    have hlt : i < bytes.data.toList.length := h
    rw [ih, List.reverse_cons, List.append_assoc, List.drop_eq_getElem_cons hlt]
    congr 1
    simp [ByteArray.get!, getElem!_pos, h]
  | case2 i read h =>
    have hle : bytes.data.toList.length ≤ i := Nat.le_of_not_lt h
    rw [List.drop_of_length_le hle, List.append_nil]

theorem toUTF8_singleton (c : Char) :
    (String.singleton c).toUTF8.toList = String.utf8EncodeChar c := by
  rw [String.toUTF8_eq_toByteArray, String.toByteArray_singleton, List.utf8Encode_singleton,
    ByteArray.toList, toList_loop, List.toList_data_toByteArray]
  rfl

section Escape

variable (allowed : Char → Bool) (text : List Char)

theorem unescapedBytes_escape (hpercent : allowed '%' = false) :
    unescapedBytes (escape allowed text) =
      (text.map (readAs allowed)).flatMap String.utf8EncodeChar := by
  induction text with
  | nil => rfl
  | cons c text ih =>
    have hcons : escape allowed (c :: text) = (if allowed c then [c] else
        (String.singleton c).toUTF8.toList.flatMap escapedByte) ++ escape allowed text :=
      List.flatMap_cons
    rw [hcons, List.map_cons, List.flatMap_cons, ← ih]
    by_cases hallowed : allowed c = true
    · rw [if_pos hallowed, List.singleton_append]
      by_cases hplus : c = '+'
      · subst hplus
        rw [unescapedBytes_of_plus, readAs, if_pos ⟨rfl, hallowed⟩]
        rfl
      · have hne : c ≠ '%' := by
          rintro rfl
          rw [hpercent] at hallowed
          cases hallowed
        rw [unescapedBytes_of_ne hplus hne, readAs, if_neg fun h => hplus h.1]
    · rw [if_neg hallowed, unescapedBytes_escapedBytes, toUTF8_singleton, readAs,
        if_neg fun h => hallowed h.2]

/-- **Unescaping undoes escaping**, but for the plus signs that are allowed. -/
theorem unescape_escape (hpercent : allowed '%' = false) :
    unescape (escape allowed text) = some (String.ofList (text.map (readAs allowed))) := by
  have hbytes : (unescapedBytes (escape allowed text)).toByteArray =
      (text.map (readAs allowed)).utf8Encode := by
    rw [unescapedBytes_escape allowed text hpercent]
    rfl
  rw [unescape, hbytes, String.fromUTF8?, dif_pos ByteArray.isValidUTF8_utf8Encode]
  refine congrArg some (String.toByteArray_inj.1 ?_)
  rw [String.toByteArray_ofList]
  rfl

variable {allowed text}

theorem escape_of_allowed (h : ∀ c ∈ text, allowed c = true) : escape allowed text = text := by
  have hself : ∀ c ∈ text, (if allowed c then [c] else
      (String.singleton c).toUTF8.toList.flatMap escapedByte) = [c] := fun c hc =>
    if_pos (h c hc)
  rw [escape, List.flatMap_congr hself]
  exact List.flatMap_singleton' text

theorem unescape_plain (hpercent : '%' ∉ text) (hplus : '+' ∉ text) :
    unescape text = some (String.ofList text) := by
  let plain (c : Char) : Bool := decide (c ≠ '%' ∧ c ≠ '+')
  have hplain : ∀ c ∈ text, plain c = true := by
    intro c hc
    have hne : c ≠ '%' ∧ c ≠ '+' := ⟨fun h => hpercent (h ▸ hc), fun h => hplus (h ▸ hc)⟩
    simpa [plain] using hne
  have hread : text.map (readAs plain) = text := by
    conv_rhs => rw [← List.map_id text]
    refine List.map_congr_left fun c hc => if_neg fun h => ?_
    exact hplus (h.1 ▸ hc)
  have hescape := unescape_escape plain text (by decide)
  rwa [escape_of_allowed hplain, hread] at hescape

theorem map_readAs_iff (hplus : allowed '+' = true) :
    text.map (readAs allowed) = text ↔ '+' ∉ text := by
  conv_lhs => rhs; rw [← List.map_id text]
  rw [List.map_inj_left]
  constructor
  · intro h hmem
    have hspace := h '+' hmem
    rw [readAs, if_pos ⟨rfl, hplus⟩] at hspace
    exact absurd hspace (by decide)
  · intro h c hc
    have hne : ¬(c = '+' ∧ allowed c = true) := fun hread => h (hread.1 ▸ hc)
    exact if_neg hne

def escapeDigits : List Char := "%0123456789ABCDEF".toList

theorem mem_escapedByte {c : Char} {byte : UInt8} (h : c ∈ escapedByte byte) :
    c ∈ escapeDigits := by
  have hdigit : ∀ n < 16, hexDigit n ∈ escapeDigits := by decide
  have hbyte : byte.toNat < 256 := UInt8.toNat_lt_size byte
  simp only [escapedByte, List.mem_cons, List.not_mem_nil, or_false] at h
  rcases h with rfl | rfl | rfl
  · decide
  · exact hdigit _ (by omega)
  · exact hdigit _ (by omega)

/-- A character of no escape occurs where the text has it and it is allowed. -/
theorem mem_escape_iff {c : Char} (hc : c ∉ escapeDigits) :
    c ∈ escape allowed text ↔ c ∈ text ∧ allowed c = true := by
  rw [escape, List.mem_flatMap]
  constructor
  · rintro ⟨d, hd, hmem⟩
    by_cases hallowed : allowed d = true
    · rw [if_pos hallowed, List.mem_singleton] at hmem
      subst hmem
      exact ⟨hd, hallowed⟩
    · rw [if_neg hallowed] at hmem
      obtain ⟨byte, -, hbyte⟩ := List.mem_flatMap.1 hmem
      exact absurd (mem_escapedByte hbyte) hc
  · rintro ⟨hmem, hallowed⟩
    exact ⟨c, hmem, by rw [if_pos hallowed]; exact List.mem_singleton_self c⟩

end Escape

/-! ### Taking a query apart -/

theorem query_append {before rest : List Char} (hquestion : '?' ∉ before) (hbefore : '#' ∉ before)
    (hrest : '#' ∉ rest) : query (before ++ '?' :: rest) = rest := by
  have hall : ∀ c ∈ before ++ '?' :: rest, c ≠ '#' := by
    intro c hc
    rcases List.mem_append.1 hc with hc | hc
    · exact fun h => hbefore (h ▸ hc)
    · rcases List.mem_cons.1 hc with rfl | hc
      · decide
      · exact fun h => hrest (h ▸ hc)
  have hwhole : (before ++ '?' :: rest).takeWhile (· ≠ '#') = before ++ '?' :: rest :=
    List.takeWhile_eq_self_iff.2 fun c hc => by simpa using hall c hc
  have hbefore : ∀ c ∈ before, decide (c ≠ '?') = true := fun c hc => by
    simpa using fun h : c = '?' => hquestion (h ▸ hc)
  rw [query, hwhole, List.dropWhile_append_of_pos hbefore]
  rfl

theorem parameter_assign {name value : List Char} (hname : '=' ∉ name) :
    parameter (name ++ '=' :: value) = (unescape name, unescape value) := by
  have hname : ∀ c ∈ name, decide (c ≠ '=') = true := fun c hc => by
    simpa using fun h : c = '=' => hname (h ▸ hc)
  rw [parameter, List.takeWhile_append_of_pos hname, List.dropWhile_append_of_pos hname]
  simp

theorem parameters_intercalate {parts : List (List Char)} (hne : parts ≠ [])
    (hparts : ∀ part ∈ parts, '&' ∉ part) :
    parameters (['&'].intercalate parts) = parts.map parameter := by
  rw [parameters, List.splitOn_intercalate '&' hparts hne]

theorem length_splitOn {α : Type*} [DecidableEq α] (separator : α) (xs : List α) :
    (xs.splitOn separator).length = xs.count separator + 1 := by
  induction xs with
  | nil => rfl
  | cons x xs ih =>
    rw [List.splitOn_cons_eq_if_modifyHead, List.count_cons]
    by_cases h : x = separator
    · simp [h, ih]
    · simp [h, ih]

theorem length_parameters (query : List Char) :
    (parameters query).length = query.count '&' + 1 := by
  rw [parameters, List.length_map, length_splitOn]

end QueryString
