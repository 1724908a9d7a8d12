import SessionServer.Text.Utf8

/-!
Reading one character off the front of octets gives back the character that was written there, and
takes no octet of what follows it; and a character that is read was written with just the octets that it
was read from. So texts and the octets that are read belong together one to one, and the octets of ASCII
stand for nothing but characters of ASCII.
-/

namespace SessionServer.Utf8

private theorem continuation?_ofNat {n : Nat} (bound : n < 0x40) :
    continuation? (UInt8.ofNat (0x80 + n)) = some n := by
  have value : (UInt8.ofNat (0x80 + n)).toNat = 0x80 + n :=
    UInt8.toNat_ofNat_of_lt' (show 0x80 + n < 256 by omega)
  rw [continuation?, value, if_pos (by omega), Nat.add_sub_cancel_left]

theorem of_continuation? {b : UInt8} {n : Nat} (read : continuation? b = some n) :
    n < 0x40 ∧ UInt8.ofNat (0x80 + n) = b := by
  unfold continuation? at read
  split at read
  next range =>
    obtain rfl := Option.some.inj read
    refine ⟨by omega, ?_⟩
    rw [show 0x80 + (b.toNat - 0x80) = b.toNat by omega, UInt8.ofNat_toNat]
  next => cases read

theorem toNat_ofNat {n : Nat} (valid : n.isValidChar) : (Char.ofNat n).toNat = n := by
  rw [Char.ofNat, dif_pos valid]
  rfl

/-- Which numbers are characters: all below the end but the surrogates. -/
theorem toNat_range (c : Char) : c.toNat < 0xD800 ∨ 0xDFFF < c.toNat ∧ c.toNat < 0x110000 := c.valid

theorem encodeChar_of_ascii {c : Char} (ascii : c.toNat < 0x80) :
    encodeChar c = [UInt8.ofNat c.toNat] := if_pos ascii

@[simp] theorem encode_nil : encode [] = [] := rfl

@[simp] theorem encode_cons (c : Char) (rest : List Char) :
    encode (c :: rest) = encodeChar c ++ encode rest := List.flatMap_cons

/-- Only the characters of ASCII have octets of ASCII. -/
theorem le_of_mem_encodeChar {c : Char} (high : 0x80 ≤ c.toNat) {b : UInt8}
    (member : b ∈ encodeChar c) : 0x80 ≤ b.toNat := by
  have range := toNat_range c
  have upper {n : Nat} (least : 0x80 ≤ n) (bound : n < 256) : 0x80 ≤ (UInt8.ofNat n).toNat := by
    rw [UInt8.toNat_ofNat_of_lt' bound]
    exact least
  unfold encodeChar at member
  rw [if_neg (by omega)] at member
  split at member
  next two =>
    simp only [List.mem_cons, List.not_mem_nil, or_false] at member
    rcases member with rfl | rfl
    all_goals exact upper (by omega) (by omega)
  next =>
  split at member
  next three =>
    simp only [List.mem_cons, List.not_mem_nil, or_false] at member
    rcases member with rfl | rfl | rfl
    all_goals exact upper (by omega) (by omega)
  next =>
    simp only [List.mem_cons, List.not_mem_nil, or_false] at member
    rcases member with rfl | rfl | rfl | rfl
    all_goals exact upper (by omega) (by omega)

/-- The octets of a character begin with one from which it is read back, whatever follows. -/
theorem decodeChar_encodeChar (c : Char) :
    ∃ first more, encodeChar c = first :: more ∧
      ∀ rest, decodeChar first (more ++ rest) = some (c, more.length) := by
  have range := toNat_range c
  have lead {n : Nat} (bound : n < 256) : (UInt8.ofNat n).toNat = n :=
    UInt8.toNat_ofNat_of_lt' bound
  by_cases one : c.toNat < 0x80
  · refine ⟨UInt8.ofNat c.toNat, [], encodeChar_of_ascii one, ?_⟩
    intro rest
    simp only [decodeChar, lead (show c.toNat < 256 by omega), if_pos one, Char.ofNat_toNat,
      List.length_nil]
  by_cases two : c.toNat < 0x800
  · have first := lead (show 0xC0 + c.toNat / 0x40 < 256 by omega)
    have written : encodeChar c =
        [UInt8.ofNat (0xC0 + c.toNat / 0x40), UInt8.ofNat (0x80 + c.toNat % 0x40)] := by
      simp only [encodeChar, if_neg one, if_pos two]
    refine ⟨_, _, written, ?_⟩
    intro rest
    simp only [decodeChar, first, if_neg (show ¬ 0xC0 + c.toNat / 0x40 < 0x80 by omega),
      if_neg (show ¬ 0xC0 + c.toNat / 0x40 < 0xC2 by omega),
      if_pos (show 0xC0 + c.toNat / 0x40 < 0xE0 by omega), List.cons_append, List.nil_append,
      List.take_succ_cons, List.take_zero,
      continuation?_ofNat (show c.toNat % 0x40 < 0x40 by omega), Option.bind_eq_bind,
      Option.bind_some, Option.pure_def, List.length_cons, List.length_nil]
    rw [show (0xC0 + c.toNat / 0x40 - 0xC0) * 0x40 + c.toNat % 0x40 = c.toNat by omega,
      Char.ofNat_toNat]
  by_cases three : c.toNat < 0x10000
  · have first := lead (show 0xE0 + c.toNat / 0x1000 < 256 by omega)
    have written : encodeChar c =
        [UInt8.ofNat (0xE0 + c.toNat / 0x1000), UInt8.ofNat (0x80 + c.toNat / 0x40 % 0x40),
          UInt8.ofNat (0x80 + c.toNat % 0x40)] := by
      simp only [encodeChar, if_neg one, if_neg two, if_pos three]
    refine ⟨_, _, written, ?_⟩
    intro rest
    simp only [decodeChar, first, if_neg (show ¬ 0xE0 + c.toNat / 0x1000 < 0x80 by omega),
      if_neg (show ¬ 0xE0 + c.toNat / 0x1000 < 0xC2 by omega),
      if_neg (show ¬ 0xE0 + c.toNat / 0x1000 < 0xE0 by omega),
      if_pos (show 0xE0 + c.toNat / 0x1000 < 0xF0 by omega), List.cons_append, List.nil_append,
      List.take_succ_cons, List.take_zero,
      continuation?_ofNat (show c.toNat / 0x40 % 0x40 < 0x40 by omega),
      continuation?_ofNat (show c.toNat % 0x40 < 0x40 by omega), Option.bind_eq_bind,
      Option.bind_some, Option.pure_def, List.length_cons, List.length_nil]
    rw [show (0xE0 + c.toNat / 0x1000 - 0xE0) * 0x1000 + c.toNat / 0x40 % 0x40 * 0x40 +
      c.toNat % 0x40 = c.toNat by omega, if_pos (by omega), Char.ofNat_toNat]
  · have first := lead (show 0xF0 + c.toNat / 0x40000 < 256 by omega)
    have written : encodeChar c =
        [UInt8.ofNat (0xF0 + c.toNat / 0x40000), UInt8.ofNat (0x80 + c.toNat / 0x1000 % 0x40),
          UInt8.ofNat (0x80 + c.toNat / 0x40 % 0x40), UInt8.ofNat (0x80 + c.toNat % 0x40)] := by
      simp only [encodeChar, if_neg one, if_neg two, if_neg three]
    refine ⟨_, _, written, ?_⟩
    intro rest
    -- by definition alone, the comparison with 0x10000 would be unfolded to a count
    simp -implicitDefEqProofs only [decodeChar, first,
      if_neg (show ¬ 0xF0 + c.toNat / 0x40000 < 0x80 by omega),
      if_neg (show ¬ 0xF0 + c.toNat / 0x40000 < 0xC2 by omega),
      if_neg (show ¬ 0xF0 + c.toNat / 0x40000 < 0xE0 by omega),
      if_neg (show ¬ 0xF0 + c.toNat / 0x40000 < 0xF0 by omega),
      if_pos (show 0xF0 + c.toNat / 0x40000 < 0xF5 by omega), List.cons_append, List.nil_append,
      List.take_succ_cons, List.take_zero,
      continuation?_ofNat (show c.toNat / 0x1000 % 0x40 < 0x40 by omega),
      continuation?_ofNat (show c.toNat / 0x40 % 0x40 < 0x40 by omega),
      continuation?_ofNat (show c.toNat % 0x40 < 0x40 by omega), Option.bind_eq_bind,
      Option.bind_some, Option.pure_def, List.length_cons, List.length_nil]
    rw [show (0xF0 + c.toNat / 0x40000 - 0xF0) * 0x40000 + c.toNat / 0x1000 % 0x40 * 0x1000 +
      c.toNat / 0x40 % 0x40 * 0x40 + c.toNat % 0x40 = c.toNat by omega, if_pos (by omega),
      Char.ofNat_toNat]

theorem encodeChar_two {a x : Nat} (least : 2 ≤ a) (most : a < 0x20) (second : x < 0x40) :
    encodeChar (Char.ofNat (a * 0x40 + x)) = [UInt8.ofNat (0xC0 + a), UInt8.ofNat (0x80 + x)] := by
  have value := toNat_ofNat (n := a * 0x40 + x) (.inl (by omega))
  rw [encodeChar, value, if_neg (by omega), if_pos (by omega), show (a * 0x40 + x) / 0x40 = a by omega,
    show (a * 0x40 + x) % 0x40 = x by omega]

theorem encodeChar_three {a x y : Nat} (most : a < 0x10) (second : x < 0x40) (third : y < 0x40)
    (least : 0x800 ≤ a * 0x1000 + x * 0x40 + y)
    (valid : ¬ (0xD800 ≤ a * 0x1000 + x * 0x40 + y ∧ a * 0x1000 + x * 0x40 + y < 0xE000)) :
    encodeChar (Char.ofNat (a * 0x1000 + x * 0x40 + y)) =
      [UInt8.ofNat (0xE0 + a), UInt8.ofNat (0x80 + x), UInt8.ofNat (0x80 + y)] := by
  have value := toNat_ofNat (n := a * 0x1000 + x * 0x40 + y) (by unfold Nat.isValidChar; omega)
  rw [encodeChar, value, if_neg (by omega), if_neg (by omega), if_pos (by omega),
    show (a * 0x1000 + x * 0x40 + y) / 0x1000 = a by omega,
    show (a * 0x1000 + x * 0x40 + y) / 0x40 % 0x40 = x by omega,
    show (a * 0x1000 + x * 0x40 + y) % 0x40 = y by omega]

theorem encodeChar_four {a x y z : Nat} (second : x < 0x40) (third : y < 0x40) (fourth : z < 0x40)
    (least : 0x10000 ≤ a * 0x40000 + x * 0x1000 + y * 0x40 + z)
    (most : a * 0x40000 + x * 0x1000 + y * 0x40 + z < 0x110000) :
    encodeChar (Char.ofNat (a * 0x40000 + x * 0x1000 + y * 0x40 + z)) =
      [UInt8.ofNat (0xF0 + a), UInt8.ofNat (0x80 + x), UInt8.ofNat (0x80 + y),
        UInt8.ofNat (0x80 + z)] := by
  have value := toNat_ofNat (n := a * 0x40000 + x * 0x1000 + y * 0x40 + z) (.inr ⟨by omega, most⟩)
  rw [encodeChar, value, if_neg (by omega), if_neg (by omega), if_neg (by omega),
    show (a * 0x40000 + x * 0x1000 + y * 0x40 + z) / 0x40000 = a by omega,
    show (a * 0x40000 + x * 0x1000 + y * 0x40 + z) / 0x1000 % 0x40 = x by omega,
    show (a * 0x40000 + x * 0x1000 + y * 0x40 + z) / 0x40 % 0x40 = y by omega,
    show (a * 0x40000 + x * 0x1000 + y * 0x40 + z) % 0x40 = z by omega]

/-- A character that is read is written with just the octets that it was read from, so no
character has a second form. -/
theorem encodeChar_of_decodeChar {first : UInt8} {rest : Bytes} {c : Char} {count : Nat}
    (read : decodeChar first rest = some (c, count)) : encodeChar c = first :: rest.take count := by
  have bound := first.toNat_lt
  have lead {least : Nat} (above : least ≤ first.toNat) :
      UInt8.ofNat (least + (first.toNat - least)) = first := by
    rw [Nat.add_sub_cancel' above, UInt8.ofNat_toNat]
  -- The first octet tells the length. What is refused behind it would be a longer form of another
  -- character, or of none.
  simp only [decodeChar] at read
  split at read
  next one =>
    cases read
    have value := toNat_ofNat (n := first.toNat) (.inl (by omega))
    rw [encodeChar_of_ascii (by omega), value, UInt8.ofNat_toNat, List.take_zero]
  next =>
  split at read
  next => cases read
  next =>
  split at read
  next two =>
    split at read
    next b taken =>
      simp only [Option.bind_eq_bind, Option.bind_eq_some_iff, Option.pure_def] at read
      obtain ⟨x, second, same⟩ := read
      obtain ⟨xBound, xOctet⟩ := of_continuation? second
      cases same
      rw [taken, encodeChar_two (by omega) (by omega) xBound, lead (by omega), xOctet]
    next => cases read
  next =>
  split at read
  next three =>
    split at read
    next b d taken =>
      simp only [Option.bind_eq_bind, Option.bind_eq_some_iff, Option.pure_def,
        Option.ite_none_right_eq_some] at read
      obtain ⟨x, second, y, third, ⟨least, valid⟩, same⟩ := read
      obtain ⟨xBound, xOctet⟩ := of_continuation? second
      obtain ⟨yBound, yOctet⟩ := of_continuation? third
      cases same
      rw [taken, encodeChar_three (by omega) xBound yBound least valid, lead (by omega), xOctet, yOctet]
    next => cases read
  next =>
  split at read
  next four =>
    split at read
    next b d e taken =>
      simp only [Option.bind_eq_bind, Option.bind_eq_some_iff, Option.pure_def,
        Option.ite_none_right_eq_some] at read
      obtain ⟨x, second, y, third, z, fourth, ⟨least, most⟩, same⟩ := read
      obtain ⟨xBound, xOctet⟩ := of_continuation? second
      obtain ⟨yBound, yOctet⟩ := of_continuation? third
      obtain ⟨zBound, zOctet⟩ := of_continuation? fourth
      cases same
      rw [taken, encodeChar_four xBound yBound zBound least most, lead (by omega), xOctet, yOctet, zOctet]
    next => cases read
  next => cases read

theorem scan_skip (more rest : Bytes) (taken : Nat) (read : List Char) :
    scan (more ++ rest) more.length taken read = scan rest 0 taken read := by
  induction more with
  | nil => rfl
  | cons b more ih => exact ih

theorem scan_encode (chars : List Char) (taken : Nat) (read : List Char) :
    ∃ all, scan (encode chars) 0 taken read = (chars.reverse ++ read, all, true) := by
  induction chars generalizing taken read with
  | nil => exact ⟨taken, rfl⟩
  | cons c rest ih =>
    obtain ⟨first, more, written, reads⟩ := decodeChar_encodeChar c
    obtain ⟨all, scanned⟩ := ih (taken + 1 + more.length) (c :: read)
    refine ⟨all, ?_⟩
    rw [encode_cons, written, List.cons_append, scan, reads]
    simp only [scan_skip, scanned, List.reverse_cons, List.append_assoc, List.singleton_append]

/-- A text is read back as it was written. -/
theorem decode_encode (chars : List Char) : decode (encode chars) = some chars := by
  obtain ⟨all, scanned⟩ := scan_encode chars 0 []
  simp only [decode, scanned, List.append_nil, List.reverse_reverse]

/-- What is read to the end is the text of the octets, less those that are skipped. -/
theorem encode_of_scan {bytes : Bytes} {skip taken total : Nat} {read all : List Char}
    (scanned : scan bytes skip taken read = (all, total, true)) :
    ∃ chars, all = chars.reverse ++ read ∧ encode chars = bytes.drop skip := by
  induction bytes generalizing skip taken read with
  | nil =>
    cases skip with
    | zero =>
      cases scanned
      exact ⟨[], rfl, rfl⟩
    | succ skip => cases scanned
  | cons b rest ih =>
    cases skip with
    | zero =>
      rw [scan] at scanned
      split at scanned
      next c count front =>
        obtain ⟨chars, rfl, later⟩ := ih scanned
        refine ⟨c :: chars, ?_, ?_⟩
        · rw [List.reverse_cons, List.append_assoc, List.singleton_append]
        · rw [encode_cons, encodeChar_of_decodeChar front, later, List.cons_append,
            List.take_append_drop, List.drop_zero]
      next => cases scanned
    | succ skip => exact ih scanned

/-- Octets that are read are those of what was read. -/
theorem encode_of_decode {bytes : Bytes} {chars : List Char} (read : decode bytes = some chars) :
    encode chars = bytes := by
  unfold decode at read
  split at read
  next all total scanned =>
    obtain ⟨found, rfl, written⟩ := encode_of_scan scanned
    obtain rfl := Option.some.inj read
    rw [List.append_nil, List.reverse_reverse, written, List.drop_zero]
  next => cases read

theorem toString?_ofString (text : String) : toString? (ofString text) = some text := by
  rw [toString?, ofString, decode_encode, Option.map_some, String.ofList_toList]

/-- A text is read from its own octets and from no others. -/
theorem toString?_eq_some_iff {bytes : Bytes} {text : String} :
    toString? bytes = some text ↔ bytes = ofString text := by
  constructor
  · intro read
    obtain ⟨chars, decoded, rfl⟩ := Option.map_eq_some_iff.mp read
    have same : (String.ofList chars).toList = chars := String.toList_ofList
    rw [ofString, same, encode_of_decode decoded]
  · rintro rfl
    exact toString?_ofString text

theorem length_encodeChar (c : Char) : (encodeChar c).length = c.utf8Size := by
  have below {n : Nat} (bound : n < UInt32.size) :
      c.val ≤ UInt32.ofNatLT n bound ↔ c.toNat < n + 1 := by
    rw [UInt32.le_iff_toNat_le, UInt32.toNat_ofNatLT, Nat.lt_succ_iff]
    rfl
  simp only [encodeChar, Char.utf8Size, below, apply_ite List.length, List.length_cons, List.length_nil,
    Nat.zero_add, Nat.reduceAdd]

theorem length_encode (chars : List Char) :
    (encode chars).length = (String.ofList chars).utf8ByteSize := by
  induction chars with
  | nil => rfl
  | cons c rest ih =>
    rw [encode_cons, List.length_append, length_encodeChar, ih, String.ofList_cons,
      String.utf8ByteSize_append, String.utf8ByteSize_singleton]

theorem length_ofString (text : String) : (ofString text).length = text.utf8ByteSize := by
  rw [ofString, length_encode, String.ofList_toList]

theorem encode_injective {first second : List Char} (same : encode first = encode second) :
    first = second := by
  have read := decode_encode first
  rw [same, decode_encode] at read
  exact (Option.some.inj read).symm

theorem ofString_injective {first second : String} (same : ofString first = ofString second) :
    first = second := String.toList_injective (encode_injective same)

theorem replacing_skip (more rest : Bytes) : replacing (more ++ rest) more.length = replacing rest 0 := by
  induction more with
  | nil => rfl
  | cons b more ih => exact ih

/-- No character of a text is replaced. -/
theorem decodeLossy_encode (chars : List Char) : decodeLossy (encode chars) = chars := by
  unfold decodeLossy
  induction chars with
  | nil => rfl
  | cons c rest ih =>
    obtain ⟨first, more, written, reads⟩ := decodeChar_encodeChar c
    rw [encode_cons, written, List.cons_append, replacing, reads]
    simp only [replacing_skip, ih]

/-- An octet of ASCII stands for its character wherever a character begins. -/
theorem eq_cons_of_encode {chars : List Char} {b : UInt8} {more : Bytes} (ascii : b.toNat < 0x80)
    (written : encode chars = b :: more) :
    ∃ rest, chars = Char.ofNat b.toNat :: rest ∧ encode rest = more := by
  cases chars with
  | nil => cases written
  | cons c rest =>
    rw [encode_cons] at written
    by_cases low : c.toNat < 0x80
    · rw [encodeChar_of_ascii low, List.singleton_append] at written
      obtain ⟨rfl, rest_eq⟩ := List.cons.inj written
      rw [UInt8.toNat_ofNat_of_lt' (show c.toNat < 256 by omega), Char.ofNat_toNat]
      exact ⟨rest, rfl, rest_eq⟩
    · obtain ⟨first, others, same, -⟩ := decodeChar_encodeChar c
      rw [same] at written
      obtain ⟨rfl, -⟩ := List.cons.inj written
      have high := le_of_mem_encodeChar (by omega) (same ▸ List.mem_cons_self : first ∈ encodeChar c)
      omega

/-- An octet of ASCII stands for its character wherever it is. -/
theorem mem_of_mem_encode {chars : List Char} {b : UInt8} (ascii : b.toNat < 0x80)
    (member : b ∈ encode chars) : Char.ofNat b.toNat ∈ chars := by
  obtain ⟨c, there, inside⟩ := List.mem_flatMap.mp member
  by_cases low : c.toNat < 0x80
  · rw [encodeChar_of_ascii low, List.mem_singleton] at inside
    rw [inside, UInt8.toNat_ofNat_of_lt' (show c.toNat < 256 by omega), Char.ofNat_toNat]
    exact there
  · have high := le_of_mem_encodeChar (by omega) inside
    omega

/-- Octets begin with those of a text of ASCII only if their text begins with it. -/
theorem prefix_of_encode {start chars : List Char} (ascii : ∀ c ∈ start, c.toNat < 0x80)
    (begins : encode start <+: encode chars) : start <+: chars := by
  induction start generalizing chars with
  | nil => exact List.nil_prefix
  | cons c start ih =>
    obtain ⟨low, later⟩ := List.forall_mem_cons.mp ascii
    have value : (UInt8.ofNat c.toNat).toNat = c.toNat :=
      UInt8.toNat_ofNat_of_lt' (show c.toNat < 256 by omega)
    obtain ⟨others, whole⟩ := begins
    rw [encode_cons, encodeChar_of_ascii low, List.singleton_append, List.cons_append] at whole
    obtain ⟨rest, rfl, rest_eq⟩ := eq_cons_of_encode (by rwa [value]) whole.symm
    rw [value, Char.ofNat_toNat, List.cons_prefix_cons]
    exact ⟨rfl, ih later ⟨others, rest_eq.symm⟩⟩

end SessionServer.Utf8
