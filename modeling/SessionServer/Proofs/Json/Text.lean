import SessionServer.Json.Lexeme
import SessionServer.Json.Writer
import SessionServer.Proofs.Text.Utf8

/-!
Quoted text that was written is read back, up to the closing quote and no further, whatever characters
it holds. The same holds of passing over it.
-/

namespace SessionServer.Json
open Utf8 (encode encodeChar)

/-- The octets that stand for a character inside quotes. -/
inductive Spelling (c : Char) : Bytes → Prop where
  | plain (notQuote : c ≠ '"') (notBackslash : c ≠ '\\') (notControl : 0x20 ≤ c.toNat) :
      Spelling c (encodeChar c)
  | short {b : UInt8} (known : shortEscape? b = some c) : Spelling c [0x5C, b]
  | hex {digits : Bytes} (four : digits.length = 4)
      (value : ∀ rest, hex? (digits ++ rest) = .ok c.toNat) (control : c.toNat < 0x20) :
      Spelling c (0x5C :: 0x75 :: digits)

theorem hex?_control {n : Nat} (control : n < 0x20) (rest : Bytes) :
    hex? (encode ['0', '0', Text.Hex.digit (n / 16), Text.Hex.digit (n % 16)] ++ rest) = .ok n := by
  have digits : ∀ m < 16, encodeChar (Text.Hex.digit m) = [UInt8.ofNat (Text.Hex.digit m).toNat] ∧
      Text.Hex.value? (Char.ofNat (UInt8.ofNat (Text.Hex.digit m).toNat).toNat) = some m := by
    decide
  obtain ⟨high, highValue⟩ := digits (n / 16) (by omega)
  obtain ⟨low, lowValue⟩ := digits (n % 16) (by omega)
  have zero : encodeChar '0' = [0x30] ∧
      Text.Hex.value? (Char.ofNat (0x30 : UInt8).toNat) = some 0 := by decide
  simp only [Utf8.encode_cons, Utf8.encode_nil, high, low, zero.1, List.cons_append, List.nil_append,
    hex?, zero.2, highValue, lowValue]
  rw [show 0 * 0x1000 + 0 * 0x100 + n / 16 * 0x10 + n % 16 = n by omega]

/-- The characters that stand for a character between quotes. -/
inductive Spells : Char → List Char → Prop where
  | plain {c : Char} (notQuote : c ≠ '"') (notBackslash : c ≠ '\\') (notControl : 0x20 ≤ c.toNat) :
      Spells c [c]
  | short {c letter : Char}
      (known : (c, letter) ∈ [('"', '"'), ('\\', '\\'), ('\x08', 'b'), ('\t', 't'), ('\n', 'n'),
        ('\x0C', 'f'), ('\r', 'r')]) :
      Spells c ['\\', letter]
  | hex {c : Char} (control : c.toNat < 0x20) :
      Spells c ['\\', 'u', '0', '0', Nat.digitChar (c.toNat / 16), Nat.digitChar (c.toNat % 16)]

/-- The characters that stand for characters between quotes, one after the other. -/
inductive SpellsAll : List Char → List Char → Prop where
  | nil : SpellsAll [] []
  | cons {c : Char} {rest front back : List Char} (first : Spells c front) (later : SpellsAll rest back) :
      SpellsAll (c :: rest) (front ++ back)

/-- A text between quotes. -/
inductive Quotes (content : String) : String → Prop where
  | intro {spelled : List Char} (spells : SpellsAll content.toList spelled) :
      Quotes content ("\"" ++ String.ofList spelled ++ "\"")

theorem digit_eq_digitChar {n : Nat} (small : n < 16) : Text.Hex.digit n = Nat.digitChar n :=
  (by decide : ∀ n < 16, Text.Hex.digit n = Nat.digitChar n) n small

theorem spells_writeChar (c : Char) : Spells c (writeChar c) := by
  unfold writeChar
  split
  next same => exact .short (by rw [same]; decide)
  next notQuote =>
  split
  next same => exact .short (by rw [same]; decide)
  next notBackslash =>
  split
  next same => exact .short (by rw [same]; decide)
  next =>
  split
  next same => exact .short (by rw [same]; decide)
  next =>
  split
  next same => exact .short (by rw [same]; decide)
  next =>
  split
  next same => exact .short (by rw [same]; decide)
  next =>
  split
  next same => exact .short (by rw [same]; decide)
  next =>
  split
  next control =>
    rw [digit_eq_digitChar (by omega), digit_eq_digitChar (by omega)]
    exact .hex control
  next notControl => exact .plain notQuote notBackslash (Nat.le_of_not_lt notControl)

theorem spellsAll_writeChar (chars : List Char) : SpellsAll chars (chars.flatMap writeChar) := by
  induction chars with
  | nil => exact .nil
  | cons c rest ih => exact .cons (spells_writeChar c) ih

theorem quotes_writeText (content : String) : Quotes content (String.ofList (writeText content)) := by
  have quoted : String.ofList (writeText content) =
      "\"" ++ String.ofList (content.toList.flatMap writeChar) ++ "\"" := by
    apply String.toList_injective
    simp [writeText]
  rw [quoted]
  exact .intro (spellsAll_writeChar content.toList)

/-- A text in which every character stands for itself is written as it is. -/
theorem writeText_eq {content : String} (plain : content.toList.flatMap writeChar = content.toList) :
    writeText content = '"' :: (content.toList ++ ['"']) := by
  rw [writeText, plain]

theorem flatMap_writeChar {chars : List Char} (plain : ∀ c ∈ chars, writeChar c = [c]) :
    chars.flatMap writeChar = chars := by
  induction chars with
  | nil => rfl
  | cons c rest ih =>
    rw [List.flatMap_cons, plain c List.mem_cons_self,
      ih fun other member => plain other (List.mem_cons_of_mem c member), List.singleton_append]

theorem Spells.spelling {c : Char} {chars : List Char} (spells : Spells c chars) :
    Spelling c (encode chars) := by
  cases spells with
  | plain notQuote notBackslash notControl =>
    rw [Utf8.encode_cons, Utf8.encode_nil, List.append_nil]
    exact .plain notQuote notBackslash notControl
  | @short letter known =>
    have escapes : ∀ pair ∈ [('"', '"'), ('\\', '\\'), ('\x08', 'b'), ('\t', 't'), ('\n', 'n'),
        ('\x0C', 'f'), ('\r', 'r')],
        encode ['\\', pair.2] = [0x5C, UInt8.ofNat pair.2.toNat] ∧
          shortEscape? (UInt8.ofNat pair.2.toNat) = some pair.1 := by decide
    obtain ⟨written, read⟩ := escapes (c, letter) known
    rw [written]
    exact .short read
  | hex control =>
    have high : c.toNat / 16 < 16 := by omega
    have low : c.toNat % 16 < 16 := by omega
    have spelled : encode ['\\', 'u', '0', '0', Nat.digitChar (c.toNat / 16),
        Nat.digitChar (c.toNat % 16)] = 0x5C :: 0x75 ::
          encode ['0', '0', Nat.digitChar (c.toNat / 16), Nat.digitChar (c.toNat % 16)] := rfl
    rw [spelled]
    refine .hex ?_ ?_ control
    · have digits : ∀ m < 16, (encodeChar (Nat.digitChar m)).length = 1 := by decide
      have zero : (encodeChar '0').length = 1 := by decide
      simp only [Utf8.encode_cons, Utf8.encode_nil, List.length_append, digits _ high, digits _ low,
        zero, List.length_nil]
    · rw [← digit_eq_digitChar high, ← digit_eq_digitChar low]
      exact hex?_control control

theorem spelling_writeChar (c : Char) : Spelling c (encode (writeChar c)) :=
  (spells_writeChar c).spelling

/-- No octet of a character that stands for itself ends the text, begins an escape or is a control
character. -/
theorem plain_octet {c : Char} (notQuote : c ≠ '"') (notBackslash : c ≠ '\\')
    (notControl : 0x20 ≤ c.toNat) {b : UInt8} (member : b ∈ encodeChar c) :
    b ≠ 0x22 ∧ b ≠ 0x5C ∧ ¬ b < 0x20 := by
  by_cases ascii : c.toNat < 0x80
  · rw [Utf8.encodeChar_of_ascii ascii, List.mem_singleton] at member
    have value : b.toNat = c.toNat := by
      rw [member]
      exact UInt8.toNat_ofNat_of_lt' (show c.toNat < 256 by omega)
    refine ⟨?_, ?_, ?_⟩
    · rintro rfl
      exact notQuote (Char.toNat_inj.mp value.symm)
    · rintro rfl
      exact notBackslash (Char.toNat_inj.mp value.symm)
    · intro small
      have bound : b.toNat < 0x20 := small
      omega
  · have high := Utf8.le_of_mem_encodeChar (Nat.le_of_not_lt ascii) member
    refine ⟨?_, ?_, ?_⟩
    · rintro rfl
      exact absurd high (by decide)
    · rintro rfl
      exact absurd high (by decide)
    · intro small
      have bound : b.toNat < 0x20 := small
      omega

/-- The octets that belong to the character read last are passed over. -/
theorem textFrom_skip (passed rest : Bytes) (read : List Char) :
    textFrom (passed ++ rest) passed.length read 0 = textFrom rest 0 read 0 := by
  induction passed with
  | nil => rfl
  | cons b more ih => exact ih

/-- Reading a spelled character adds it to what was read. -/
theorem textFrom_spelling {c : Char} {spelled : Bytes} (spelling : Spelling c spelled) (rest : Bytes)
    (read : List Char) : textFrom (spelled ++ rest) 0 read 0 = textFrom rest 0 (c :: read) 0 := by
  cases spelling with
  | plain notQuote notBackslash notControl =>
    obtain ⟨first, more, written, decoded⟩ := Utf8.decodeChar_encodeChar c
    obtain ⟨isQuote, isBackslash, isControl⟩ :=
      plain_octet notQuote notBackslash notControl (written ▸ List.mem_cons_self)
    rw [written, List.cons_append, textFrom, if_neg isQuote, if_neg isBackslash, if_neg isControl,
      decoded rest]
    exact textFrom_skip more rest (c :: read)
  | @short b known =>
    have escaped : escape (b :: rest) = .ok (c, 1) := by rw [escape, known]
    rw [List.cons_append, textFrom, if_neg (by decide), if_pos rfl, List.singleton_append, escaped]
    exact textFrom_skip [b] rest (c :: read)
  | @hex digits four value control =>
    have notLow : isLowSurrogate c.toNat = false := by
      rw [isLowSurrogate, decide_eq_false (by omega), Bool.false_and]
    have notHigh : isHighSurrogate c.toNat = false := by
      rw [isHighSurrogate, decide_eq_false (by omega), Bool.false_and]
    have single : hexEscape (digits ++ rest) = .ok (c, 4) := by
      simp only [hexEscape, value, bind, Except.bind, notLow, notHigh, Bool.false_eq_true, if_false,
        Bool.not_false, if_true, pure, Except.pure, Char.ofNat_toNat]
    have escaped : escape (0x75 :: (digits ++ rest)) = .ok (c, 5) := by
      have notShort : shortEscape? 0x75 = none := by decide
      simp only [escape, notShort, if_true, single]
    have passed := textFrom_skip (0x75 :: digits) rest (c :: read)
    rw [List.length_cons, four] at passed
    rw [List.cons_append, textFrom, if_neg (by decide), if_pos rfl, List.cons_append, escaped]
    exact passed

/-- Text that is spelled in any way is read up to its closing quote. -/
theorem textFrom_of_spellsAll {content spelled : List Char} (spells : SpellsAll content spelled)
    (rest : Bytes) (read : List Char) :
    textFrom (encode spelled ++ 0x22 :: rest) 0 read 0 = .ok (read.reverse ++ content, rest) := by
  induction spells generalizing read with
  | nil =>
    rw [Utf8.encode_nil, List.nil_append, textFrom, if_pos rfl, if_pos rfl, List.append_nil]
  | cons first later ih =>
    rw [Utf8.encode_append, List.append_assoc, textFrom_spelling first.spelling, ih, List.reverse_cons,
      List.append_assoc, List.singleton_append]

theorem quoted_of_spellsAll {content spelled : List Char} (spells : SpellsAll content spelled)
    (rest : Bytes) : quoted (encode spelled ++ 0x22 :: rest) = .ok (content, rest) :=
  textFrom_of_spellsAll spells rest []

theorem quoted_written (content : List Char) (rest : Bytes) :
    quoted (encode (content.flatMap writeChar) ++ 0x22 :: rest) = .ok (content, rest) :=
  quoted_of_spellsAll (spellsAll_writeChar content) rest

/-- The text between quotes can be told from its characters, whatever follows it. -/
theorem spellsAll_unique {content other spelled otherSpelled rest otherRest : List Char}
    (spells : SpellsAll content spelled) (otherSpells : SpellsAll other otherSpelled)
    (same : spelled ++ '"' :: rest = otherSpelled ++ '"' :: otherRest) :
    content = other ∧ rest = otherRest := by
  have quote (chars : List Char) : encode ('"' :: chars) = 0x22 :: encode chars := rfl
  have octets := congrArg encode same
  rw [Utf8.encode_append, Utf8.encode_append, quote, quote] at octets
  have read := quoted_of_spellsAll spells (encode rest)
  rw [octets, quoted_of_spellsAll otherSpells] at read
  obtain ⟨contents, rests⟩ := Prod.mk.inj (Except.ok.inj read)
  exact ⟨contents.symm, (Utf8.encode_injective rests).symm⟩

theorem skipTextFrom_skip (passed rest : Bytes) :
    skipTextFrom (passed ++ rest) passed.length = skipTextFrom rest 0 := by
  induction passed with
  | nil => rfl
  | cons b more ih => exact ih

/-- Octets that neither end the text nor begin an escape are passed over one by one. -/
theorem skipTextFrom_plain {passed : Bytes} (rest : Bytes)
    (plain : ∀ b ∈ passed, b ≠ 0x22 ∧ b ≠ 0x5C ∧ ¬ b < 0x20) :
    skipTextFrom (passed ++ rest) 0 = skipTextFrom rest 0 := by
  induction passed with
  | nil => rfl
  | cons b more ih =>
    obtain ⟨notQuote, notBackslash, notControl⟩ := plain b List.mem_cons_self
    rw [List.cons_append, skipTextFrom, if_neg notQuote, if_neg notBackslash, if_neg notControl]
    exact ih fun other member => plain other (List.mem_cons_of_mem b member)

theorem skipTextFrom_spelling {c : Char} {spelled : Bytes} (spelling : Spelling c spelled)
    (rest : Bytes) : skipTextFrom (spelled ++ rest) 0 = skipTextFrom rest 0 := by
  cases spelling with
  | plain notQuote notBackslash notControl =>
    exact skipTextFrom_plain rest fun b => plain_octet notQuote notBackslash notControl
  | @short b known =>
    have escaped : escapeLength (b :: rest) = .ok 1 := by
      rw [escapeLength, known, Option.isSome_some, if_pos rfl]
    rw [List.cons_append, skipTextFrom, if_neg (by decide), if_pos rfl, List.singleton_append,
      escaped]
    exact skipTextFrom_skip [b] rest
  | @hex digits four value control =>
    have escaped : escapeLength (0x75 :: (digits ++ rest)) = .ok 5 := by
      have notShort : shortEscape? 0x75 = none := by decide
      simp only [escapeLength, notShort, Option.isSome_none, Bool.false_eq_true, if_false, if_true,
        value]
    have passed := skipTextFrom_skip (0x75 :: digits) rest
    rw [List.length_cons, four] at passed
    rw [List.cons_append, skipTextFrom, if_neg (by decide), if_pos rfl, List.cons_append, escaped]
    exact passed

theorem skipText_written (content : List Char) (rest : Bytes) :
    skipText (encode (content.flatMap writeChar) ++ 0x22 :: rest) = .ok rest := by
  rw [skipText]
  induction content with
  | nil => rw [List.flatMap_nil, Utf8.encode_nil, List.nil_append, skipTextFrom, if_pos rfl]
  | cons c more ih =>
    rw [List.flatMap_cons, Utf8.encode_append, List.append_assoc,
      skipTextFrom_spelling (spelling_writeChar c), ih]

/-- The octets of a text between quotes. -/
theorem encode_writeText (content : String) :
    encode (writeText content) =
      0x22 :: (encode (content.toList.flatMap writeChar) ++ [0x22]) := by
  rw [writeText, Utf8.encode_cons, Utf8.encode_append]
  rfl

end SessionServer.Json
