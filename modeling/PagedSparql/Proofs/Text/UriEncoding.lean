import Mathlib.Data.List.Basic
import PagedSparql.Value.Strings

/-!
# Percent-encoding loses nothing

An encoded text consists of unreserved characters and of escapes, each a `%` with two uppercase
hexadecimal digits (`Text.PercentEncoded`). Decoding it gives back the bytes of the text
(`Text.percentBytes?_flatMap`), and reading them as UTF-8 the text itself
(`Text.percentDecode?_percentEncode`).

A character is encoded on its own, by its bytes. An unreserved one has one byte and stays as it is;
any other one takes at least three characters, so a text that is its own encoding has none of those
(`Text.percentEncode_eq_self_iff`).
-/

namespace PagedSparql

namespace Text

/-! ## Decoding -/

/-- The character stands for itself: an ASCII letter or digit, or one of four marks. -/
def Unreserved (c : Char) : Prop := c.isAlphanum = true ∨ c ∈ ['-', '_', '.', '~']

/-- These are the characters that are left alone. -/
theorem isUnreserved_iff {c : Char} : isUnreserved c = true ↔ Unreserved c := by
  simp [isUnreserved, Unreserved, or_assoc]

/-- The character is an uppercase hexadecimal digit. -/
def isUpperHex (c : Char) : Bool := ('0' ≤ c && c ≤ '9') || ('A' ≤ c && c ≤ 'F')

/-- Texts of unreserved characters and escapes. -/
inductive PercentEncoded : List Char → Prop where
  /-- The empty text. -/
  | nil : PercentEncoded []
  /-- An unreserved character in front. -/
  | unreserved {c : Char} {rest : List Char} (hc : Unreserved c) :
    PercentEncoded rest → PercentEncoded (c :: rest)
  /-- An escape in front. -/
  | escape {high low : Char} {rest : List Char} (hhigh : isUpperHex high = true)
    (hlow : isUpperHex low = true) :
    PercentEncoded rest → PercentEncoded ('%' :: high :: low :: rest)

/-- The value of a hexadecimal digit. -/
def hexValue? (c : Char) : Option Nat :=
  if '0' ≤ c ∧ c ≤ '9' then some (c.toNat - 48)
  else if 'A' ≤ c ∧ c ≤ 'F' then some (c.toNat - 55)
  else if 'a' ≤ c ∧ c ≤ 'f' then some (c.toNat - 87)
  else none

/-- The bytes of a text with escapes: an escape stands for the byte with its two digits, and any
other character for its bytes in UTF-8. -/
def percentBytes? : List Char → Option (List UInt8)
  | [] => some []
  | '%' :: high :: low :: rest => do
    let high ← hexValue? high
    let low ← hexValue? low
    let bytes ← percentBytes? rest
    some (UInt8.ofNat (16 * high + low) :: bytes)
  | c :: rest =>
    if c = '%' then none else (percentBytes? rest).map fun bytes => String.utf8EncodeChar c ++ bytes

/-- The text that a text with escapes stands for, its bytes read as UTF-8. -/
def percentDecode? (text : String) : Option String :=
  (percentBytes? text.toList).bind fun bytes => String.fromUTF8? bytes.toByteArray

/-! ## Bytes -/

/-- A digit that is written is one, and has the value that it is written for. -/
theorem upperHexDigit_spec {n : Nat} (hn : n < 16) :
    isUpperHex (upperHexDigit n) = true ∧ hexValue? (upperHexDigit n) = some n := by
  have hall : ∀ n < 16, isUpperHex (upperHexDigit n) = true ∧
      hexValue? (upperHexDigit n) = some n := by decide
  exact hall n hn

/-- A letter or digit of ASCII is an ASCII character. -/
theorem toNat_lt_of_isAlphanum {c : Char} (h : c.isAlphanum = true) : c.toNat < 128 := by
  have hlast : c.val ≤ 'Z'.val ∨ c.val ≤ 'z'.val ∨ c.val ≤ '9'.val := by
    rcases Bool.or_eq_true_iff.1 h with hletter | hdigit
    · rcases Bool.or_eq_true_iff.1 hletter with hupper | hlower
      · exact .inl (of_decide_eq_true hupper).2
      · exact .inr (.inl (of_decide_eq_true (Bool.and_eq_true_iff.1 hlower).2))
    · exact .inr (.inr (of_decide_eq_true (Bool.and_eq_true_iff.1 hdigit).2))
  have hupper : 'Z'.val.toNat = 90 := rfl
  have hlower : 'z'.val.toNat = 122 := rfl
  have hdigit : '9'.val.toNat = 57 := rfl
  simp only [UInt32.le_iff_toNat_le] at hlast
  show c.val.toNat < 128
  omega

/-- An unreserved character is an ASCII one, and no `%`. -/
theorem toNat_of_isUnreserved {c : Char} (h : isUnreserved c = true) :
    c.toNat < 128 ∧ c ≠ '%' := by
  refine ⟨?_, fun hc => ?_⟩
  · simp only [isUnreserved, Bool.or_eq_true, beq_iff_eq] at h
    rcases h with (((h | rfl) | rfl) | rfl) | rfl
    · exact toNat_lt_of_isAlphanum h
    all_goals decide
  · subst hc
    exact absurd h (by decide)

/-- The number of an ASCII character is a byte. -/
theorem toNat_ofNat_of_ascii {n : Nat} (h : n < 128) : (UInt8.ofNat n).toNat = n :=
  UInt8.toNat_ofNat_of_lt' (Nat.lt_trans h (by decide))

/-- An ASCII character has one byte in UTF-8, its number. -/
theorem utf8EncodeChar_of_lt {c : Char} (h : c.toNat < 128) :
    String.utf8EncodeChar c = [UInt8.ofNat c.toNat] := by
  show (if c.toNat ≤ 127 then _ else _) = _
  rw [if_pos (by omega)]
  rfl

/-- The bytes of any other character are beyond ASCII. -/
theorem toNat_of_mem_utf8EncodeChar {c : Char} (h : 128 ≤ c.toNat) :
    ∀ b ∈ String.utf8EncodeChar c, 128 ≤ b.toNat := by
  have hval : c.val.toNat = c.toNat := rfl
  unfold String.utf8EncodeChar
  simp only [hval]
  rw [if_neg (by omega)]
  -- Each byte is a remainder with the mark of its place added to it.
  split
  · simp
    omega
  · split
    · simp
      omega
    · simp
      omega

/-- How a byte is encoded. -/
theorem percentByte_cases (b : UInt8) :
    (b.toNat < 128 ∧ isUnreserved (Char.ofNat b.toNat) = true ∧
        percentByte b = [Char.ofNat b.toNat]) ∨
      (¬(b.toNat < 128 ∧ isUnreserved (Char.ofNat b.toNat) = true) ∧
        percentByte b = ['%', upperHexDigit (b.toNat / 16), upperHexDigit (b.toNat % 16)]) := by
  have hlt : b < 128 ↔ b.toNat < 128 := UInt8.lt_iff_toNat_lt
  by_cases h : b.toNat < 128 ∧ isUnreserved (Char.ofNat b.toNat) = true
  · refine .inl ⟨h.1, h.2, if_pos ?_⟩
    rw [Bool.and_eq_true, decide_eq_true_eq, hlt]
    exact h
  · refine .inr ⟨h, if_neg ?_⟩
    rw [Bool.and_eq_true, decide_eq_true_eq, hlt]
    exact h

/-- A byte is the number of a character. -/
theorem toNat_ofNat_byte (b : UInt8) : (Char.ofNat b.toNat).toNat = b.toNat := by
  have hsize := b.toNat_lt
  have hvalid : b.toNat.isValidChar := .inl (by omega)
  rw [Char.ofNat, dif_pos hvalid]
  rfl

/-- The encoding of bytes has the form of an encoded text. -/
theorem percentEncoded_flatMap (bytes : List UInt8) :
    PercentEncoded (bytes.flatMap percentByte) := by
  induction bytes with
  | nil => exact .nil
  | cons b bytes ih =>
    rw [List.flatMap_cons]
    rcases percentByte_cases b with ⟨-, hunreserved, hbyte⟩ | ⟨-, hbyte⟩
    · rw [hbyte]
      exact .unreserved (isUnreserved_iff.1 hunreserved) ih
    · have hsize := b.toNat_lt
      rw [hbyte]
      exact .escape (upperHexDigit_spec (by omega)).1 (upperHexDigit_spec (by omega)).1 ih

/-- The encoding of a byte is decoded to that byte. -/
theorem percentBytes?_percentByte (b : UInt8) (rest : List Char) :
    percentBytes? (percentByte b ++ rest) = (percentBytes? rest).map fun bytes => b :: bytes := by
  rcases percentByte_cases b with ⟨hlt, hunreserved, hbyte⟩ | ⟨-, hbyte⟩
  · have hpercent := (toNat_of_isUnreserved hunreserved).2
    have hutf8 : String.utf8EncodeChar (Char.ofNat b.toNat) = [b] := by
      rw [utf8EncodeChar_of_lt (by rw [toNat_ofNat_byte]; exact hlt), toNat_ofNat_byte,
        UInt8.ofNat_toNat]
    rw [hbyte, List.cons_append, List.nil_append, percentBytes?.eq_3 _ _ (by simp [hpercent]),
      if_neg hpercent, hutf8]
    rfl
  · have hsize := b.toNat_lt
    have hsum : 16 * (b.toNat / 16) + b.toNat % 16 = b.toNat := by omega
    rw [hbyte]
    show percentBytes? ('%' :: _ :: _ :: rest) = _
    rw [percentBytes?, (upperHexDigit_spec (by omega)).2, (upperHexDigit_spec (by omega)).2]
    cases percentBytes? rest with
    | none => rfl
    | some bytes =>
      show some (UInt8.ofNat (16 * (b.toNat / 16) + b.toNat % 16) :: bytes) = some (b :: bytes)
      rw [hsum, UInt8.ofNat_toNat]

/-- Decoding the encoding of bytes gives them back. -/
theorem percentBytes?_flatMap (bytes : List UInt8) :
    percentBytes? (bytes.flatMap percentByte) = some bytes := by
  induction bytes with
  | nil => rfl
  | cons b bytes ih => rw [List.flatMap_cons, percentBytes?_percentByte, ih, Option.map_some]

/-! ## Characters -/

/-- The bytes of a byte array, one after the other. -/
theorem toList_byteArray (bytes : ByteArray) : bytes.toList = bytes.data.toList := by
  have hloop (i : Nat) (read : List UInt8) :
      ByteArray.toList.loop bytes i read = read.reverse ++ bytes.data.toList.drop i := by
    fun_induction ByteArray.toList.loop bytes i read with
    | case1 i read hlt ih =>
      have hlength : i < bytes.data.toList.length := by simpa using hlt
      rw [ih, List.drop_eq_getElem_cons hlength]
      simp [ByteArray.get!, hlt]
    | case2 i read hge =>
      rw [List.drop_eq_nil_of_le (by simpa using hge)]
      simp
  simpa [ByteArray.toList] using hloop 0 []

/-- The bytes of a text are those of its characters. -/
theorem utf8_eq (text : String) :
    Digest.utf8 text = text.toList.flatMap String.utf8EncodeChar := by
  rw [Digest.utf8, String.toUTF8_eq_toByteArray, ← String.utf8Encode_toList, toList_byteArray]
  exact List.toList_data_toByteArray

/-- The encoding of one character. -/
def percentChar (c : Char) : List Char := (String.utf8EncodeChar c).flatMap percentByte

/-- A text is encoded character by character. -/
theorem toList_percentEncode (text : String) :
    (percentEncode text).toList = text.toList.flatMap percentChar := by
  rw [percentEncode, String.toList_ofList, utf8_eq, List.flatMap_assoc]
  rfl

/-- An unreserved character stays as it is. -/
theorem percentChar_of_isUnreserved {c : Char} (h : isUnreserved c = true) :
    percentChar c = [c] := by
  have hlt := (toNat_of_isUnreserved h).1
  have hbyte := toNat_ofNat_of_ascii hlt
  rw [percentChar, utf8EncodeChar_of_lt hlt, List.flatMap_singleton]
  rcases percentByte_cases (UInt8.ofNat c.toNat) with ⟨-, -, hencoded⟩ | ⟨hnot, -⟩
  · rw [hencoded, hbyte, Char.ofNat_toNat]
  · rw [hbyte, Char.ofNat_toNat] at hnot
    exact absurd ⟨hlt, h⟩ hnot

/-- Any other character takes at least three characters. -/
theorem three_le_length_percentChar {c : Char} (h : isUnreserved c = false) :
    3 ≤ (percentChar c).length := by
  obtain ⟨b, bytes, hbytes⟩ := List.exists_cons_of_ne_nil (String.utf8EncodeChar_ne_nil (c := c))
  have hnot : ¬(b.toNat < 128 ∧ isUnreserved (Char.ofNat b.toNat) = true) := by
    rintro ⟨hlt, hunreserved⟩
    -- The first byte of the character would be the character itself.
    by_cases hascii : c.toNat < 128
    · rw [utf8EncodeChar_of_lt hascii] at hbytes
      obtain ⟨rfl, -⟩ := List.cons.inj hbytes
      rw [toNat_ofNat_of_ascii hascii, Char.ofNat_toNat, h] at hunreserved
      exact absurd hunreserved Bool.false_ne_true
    · have hbeyond := toNat_of_mem_utf8EncodeChar (Nat.not_lt.1 hascii) b (by simp [hbytes])
      omega
  rcases percentByte_cases b with ⟨hlt, hunreserved, -⟩ | ⟨-, hencoded⟩
  · exact absurd ⟨hlt, hunreserved⟩ hnot
  · rw [percentChar, hbytes, List.flatMap_cons, hencoded]
    simp

/-- An encoding is at least as long as the text, and longer if the text has a character that is
not unreserved. -/
theorem length_flatMap_percentChar (text : List Char) :
    text.length ≤ (text.flatMap percentChar).length ∧
      ((text.flatMap percentChar).length = text.length → ∀ c ∈ text, isUnreserved c = true) := by
  induction text with
  | nil => simp
  | cons c text ih =>
    rw [List.flatMap_cons, List.length_append, List.length_cons]
    cases h : isUnreserved c with
    | true =>
      rw [percentChar_of_isUnreserved h, List.length_singleton, List.forall_mem_cons]
      exact ⟨by omega, fun hlength => ⟨h, ih.2 (by omega)⟩⟩
    | false =>
      have hthree := three_le_length_percentChar h
      exact ⟨by omega, fun hlength => absurd hlength (by omega)⟩

/-! ## Texts -/

/-- An encoding has the form of an encoded text. -/
theorem percentEncoded_percentEncode (text : String) :
    PercentEncoded (percentEncode text).toList := by
  rw [percentEncode, String.toList_ofList]
  exact percentEncoded_flatMap _

/-- Decoding an encoding gives the text back. -/
theorem percentDecode?_percentEncode (text : String) :
    percentDecode? (percentEncode text) = some text := by
  have hbytes : (Digest.utf8 text).toByteArray = text.toByteArray := by
    rw [utf8_eq, ← String.utf8Encode_toList]
    rfl
  rw [percentDecode?, percentEncode, String.toList_ofList, percentBytes?_flatMap, Option.bind_some,
    hbytes, String.fromUTF8?, dif_pos text.isValidUTF8]
  rfl

/-- Different texts have different encodings. -/
theorem percentEncode_inj {a b : String} : percentEncode a = percentEncode b ↔ a = b := by
  refine ⟨fun h => ?_, fun h => h ▸ rfl⟩
  have hdecoded := congrArg percentDecode? h
  rw [percentDecode?_percentEncode, percentDecode?_percentEncode] at hdecoded
  exact Option.some.inj hdecoded

/-- A text is its own encoding when all its characters are unreserved, and only then. -/
theorem percentEncode_eq_self_iff {text : String} :
    percentEncode text = text ↔ ∀ c ∈ text.toList, Unreserved c := by
  simp only [← isUnreserved_iff]
  rw [← String.toList_inj, toList_percentEncode]
  -- An encoding that is the text itself is not longer than it.
  refine ⟨fun h => (length_flatMap_percentChar text.toList).2 (congrArg List.length h), fun h => ?_⟩
  calc text.toList.flatMap percentChar
      = text.toList.flatMap fun c => [c] :=
        List.flatMap_congr fun c hc => percentChar_of_isUnreserved (h c hc)
    _ = text.toList := List.flatMap_singleton' _

/-- Texts are encoded one after the other. -/
theorem percentEncode_join (texts : List String) :
    percentEncode (String.join texts) = String.join (texts.map percentEncode) := by
  rw [← String.toList_inj, toList_percentEncode, String.toList_join, String.toList_join,
    List.flatMap_assoc, List.flatMap_map]
  exact List.flatMap_congr fun text _ => (toList_percentEncode text).symm

end Text

namespace Value

/-! ## Terms -/

/-- Strings are encoded by their values. -/
theorem mapM_encodeForUri (args : List Term) : args.mapM encodeForUri =
    (args.mapM stringArg).map fun parts => parts.map fun p => .string (Text.percentEncode p.1) := by
  induction args with
  | nil => rfl
  | cons t args ih =>
    rw [List.mapM_cons, List.mapM_cons, ih, encodeForUri]
    cases stringArg t with
    | error e => rfl
    | ok p =>
      cases args.mapM stringArg with
      | error e => rfl
      | ok parts => rfl

/-- Strings without language tag are concatenated to one. -/
theorem concat_map_string (values : List String) :
    concat (values.map .string) = .ok (.string (String.join values)) := by
  have hparts : (values.map Term.string).mapM stringArg = .ok (values.map fun v => (v, none)) := by
    induction values with
    | nil => rfl
    | cons v values ih =>
      rw [List.map_cons, List.mapM_cons, ih]
      rfl
  rw [concat, hparts]
  show Except.ok (stringTerm (String.join ((values.map fun v => (v, none)).map (·.1))) _) = _
  rw [List.map_map, Function.comp_def, List.map_id']
  cases values with
  | nil => rfl
  | cons v values => simp [stringTerm]

/-- The value and the language tag that a string is made of. -/
theorem stringArg_stringTerm (value : String) (language? : Option String) :
    stringArg (stringTerm value language?) = .ok (value, language?) := by
  cases language? <;> rfl

/-- **Percent-encoding loses nothing.** The encoding of a string consists of unreserved characters
and of escapes, it is decoded to the value of the string, and it is that value just when all
characters are unreserved. So different values have different encodings. The encoding of a
concatenation is the concatenation of the encodings, and there is none of either if one of the terms
is no string. -/
theorem encodeForUri_lossless :
    (∀ l : Literal, l.isString = true → ∃ text, encodeForUri (.literal l) = .ok (.string text) ∧
      Text.PercentEncoded text.toList ∧ Text.percentDecode? text = some l.value ∧
      (text = l.value ↔ ∀ c ∈ l.value.toList, Text.Unreserved c)) ∧
    (∀ l m : Literal, l.isString = true → m.isString = true →
      (encodeForUri (.literal l) = encodeForUri (.literal m) ↔ l.value = m.value)) ∧
    (∀ args, concat args >>= encodeForUri = args.mapM encodeForUri >>= concat) := by
  have hencoded (l : Literal) (h : l.isString = true) :
      encodeForUri (.literal l) = .ok (.string (Text.percentEncode l.value)) := by
    rw [encodeForUri, stringArg, if_pos h]
    rfl
  refine ⟨fun l h => ⟨_, hencoded l h, Text.percentEncoded_percentEncode _,
    Text.percentDecode?_percentEncode _, Text.percentEncode_eq_self_iff⟩, fun l m hl hm => ?_,
    fun args => ?_⟩
  · rw [hencoded l hl, hencoded m hm, ← Text.percentEncode_inj]
    simp [Term.string, Literal.simple]
  · rw [mapM_encodeForUri]
    unfold concat
    cases args.mapM stringArg with
    | error e => rfl
    | ok parts =>
      show encodeForUri (stringTerm (String.join (parts.map (·.1))) _) =
        concat (parts.map fun p => .string (Text.percentEncode p.1))
      have hvalues : (parts.map fun p => Term.string (Text.percentEncode p.1)) =
          ((parts.map (·.1)).map Text.percentEncode).map .string := by
        rw [List.map_map, List.map_map]
        rfl
      rw [hvalues, concat_map_string, ← Text.percentEncode_join, encodeForUri, stringArg_stringTerm]
      rfl

/-- A value with blanks, a percent sign and a character of two bytes; its tag is lost. -/
theorem encodeForUri_lossless_sample :
    (Literal.tagged "50 % né" "fr").isString = true ∧
    encodeForUri (.literal (.tagged "50 % né" "fr")) = .ok (.string "50%20%25%20n%C3%A9") ∧
    Text.PercentEncoded "50%20%25%20n%C3%A9".toList ∧
    Text.percentDecode? "50%20%25%20n%C3%A9" = some "50 % né" ∧
    ¬(∀ c ∈ "50 % né".toList, Text.Unreserved c) ∧
    encodeForUri (.literal (.tagged "50 % né" "fr")) ≠
      encodeForUri (.literal (.simple "50 %")) := by
  obtain ⟨hlossless, hinjective, -⟩ := encodeForUri_lossless
  have hencoded : encodeForUri (.literal (.tagged "50 % né" "fr")) =
      .ok (.string "50%20%25%20n%C3%A9") := by decide +kernel
  obtain ⟨text, htext, hform, hdecoded, hself⟩ := hlossless (.tagged "50 % né" "fr") rfl
  obtain rfl : "50%20%25%20n%C3%A9" = text := by
    simpa [Term.string, Literal.simple] using hencoded.symm.trans htext
  exact ⟨rfl, hencoded, hform, hdecoded, fun h => absurd (hself.2 h) (by decide),
    fun h => absurd ((hinjective _ (.simple "50 %") rfl rfl).1 h) (by decide)⟩

end Value

end PagedSparql
