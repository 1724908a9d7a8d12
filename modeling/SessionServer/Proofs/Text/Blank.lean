import SessionServer.Text.Blank

/-!
What trimming takes off a text and which texts it leaves alone, and texts that are cut where they were
joined.
-/

namespace SessionServer.Text

/-- Whether a character is printable ASCII, and not a space. -/
def IsVisible (c : Char) : Prop := 0x21 ≤ c.toNat ∧ c.toNat < 0x7F

instance (c : Char) : Decidable (IsVisible c) := inferInstanceAs (Decidable (_ ∧ _))

theorem isBlank_of_isVisible {c : Char} (visible : IsVisible c) : isBlank c = false := by
  obtain ⟨least, most⟩ := visible
  simp only [isBlank, blankRanges, List.any_cons, List.any_nil, Bool.or_false, Bool.or_eq_false_iff,
    Bool.and_eq_false_iff, decide_eq_false_iff_not]
  omega

theorem dropWhile_isBlank {chars : List Char} (front : ∀ c ∈ chars.head?, isBlank c = false) :
    chars.dropWhile isBlank = chars := by
  cases chars with
  | nil => rfl
  | cons c rest =>
    exact List.dropWhile_cons_of_neg (Bool.not_eq_true _ ▸ front c rfl)

/-- Trimming leaves a text alone that neither starts nor ends with a blank. -/
theorem trim_eq_self {chars : List Char} (front : ∀ c ∈ chars.head?, isBlank c = false)
    (back : ∀ c ∈ chars.getLast?, isBlank c = false) : trim chars = chars := by
  have reversed : ∀ c ∈ chars.reverse.head?, isBlank c = false := by
    rw [List.head?_reverse]
    exact back
  rw [trim, trimStart, dropWhile_isBlank front, trimEnd, dropWhile_isBlank reversed,
    List.reverse_reverse]

/-- Whether a text neither starts nor ends with a blank. -/
structure IsTrimmed (chars : List Char) : Prop where
  front : ∀ c ∈ chars.head?, isBlank c = false
  back : ∀ c ∈ chars.getLast?, isBlank c = false

theorem isTrimmed_iff_all {chars : List Char} :
    IsTrimmed chars ↔ (chars.head?.all fun c => !isBlank c) = true ∧
      (chars.getLast?.all fun c => !isBlank c) = true := by
  simp only [Option.all_eq_true, Bool.not_eq_true']
  exact ⟨fun ⟨front, back⟩ => ⟨front, back⟩, fun ⟨front, back⟩ => ⟨front, back⟩⟩

instance (chars : List Char) : Decidable (IsTrimmed chars) := decidable_of_iff _ isTrimmed_iff_all.symm

theorem IsTrimmed.trim_eq {chars : List Char} (trimmed : IsTrimmed chars) : trim chars = chars :=
  trim_eq_self trimmed.front trimmed.back

theorem isTrimmed_of_isVisible {chars : List Char} (visible : ∀ c ∈ chars, IsVisible c) :
    IsTrimmed chars where
  front c first := isBlank_of_isVisible (visible c (List.mem_of_head? first))
  back c last := isBlank_of_isVisible (visible c (List.mem_of_getLast? last))

theorem trim_of_isVisible {chars : List Char} (visible : ∀ c ∈ chars, IsVisible c) :
    trim chars = chars := (isTrimmed_of_isVisible visible).trim_eq

/-- A text starts as its front does and ends as its back does. -/
theorem isTrimmed_append {front back : List Char} (starts : ∀ c ∈ front.head?, isBlank c = false)
    (trimmed : IsTrimmed back) (nonempty : back ≠ []) (headed : front ≠ []) :
    IsTrimmed (front ++ back) where
  front := by
    cases front with
    | nil => exact absurd rfl headed
    | cons first rest => exact starts
  back := by
    intro c last
    apply trimmed.back
    cases final : back.getLast? with
    | none => exact absurd (List.getLast?_eq_none_iff.mp final) nonempty
    | some d => rwa [List.getLast?_append, final, Option.some_or] at last

theorem trim_isPrefix (chars : List Char) : trim chars <+: trimStart chars := by
  have shorter := (List.dropWhile_suffix isBlank : _ <:+ (trimStart chars).reverse).reverse
  rwa [List.reverse_reverse] at shorter

theorem mem_of_mem_trim {chars : List Char} {c : Char} (member : c ∈ trim chars) : c ∈ chars :=
  (List.dropWhile_suffix isBlank).mem ((trim_isPrefix chars).mem member)

/-- What is left of a text by trimming needs no more of it. -/
theorem isTrimmed_trim (chars : List Char) : IsTrimmed (trim chars) where
  front := by
    intro c first
    obtain ⟨rest, whole⟩ := trim_isPrefix chars
    have start := List.head?_dropWhile_not isBlank chars
    have same : (trimStart chars).head? = some c := by
      rw [← whole, List.head?_append, first, Option.some_or]
    rwa [show (chars.dropWhile isBlank).head? = some c from same] at start
  back := by
    intro c last
    have start := List.head?_dropWhile_not isBlank (trimStart chars).reverse
    rw [trim, trimEnd, List.getLast?_reverse] at last
    rwa [show ((trimStart chars).reverse.dropWhile isBlank).head? = some c from last] at start

/-- Blanks around a text do not matter. -/
theorem trim_padded {left chars right : List Char} (trimmed : IsTrimmed chars) (nonempty : chars ≠ [])
    (before : ∀ c ∈ left, isBlank c = true) (after : ∀ c ∈ right, isBlank c = true) :
    trim (left ++ chars ++ right) = chars := by
  have reversed : ∀ c ∈ chars.reverse.head?, isBlank c = false := by
    rw [List.head?_reverse]
    exact trimmed.back
  have started : trimStart (left ++ chars ++ right) = chars ++ right := by
    rw [trimStart, List.append_assoc, List.dropWhile_append_of_pos before]
    apply dropWhile_isBlank
    cases chars with
    | nil => exact absurd rfl nonempty
    | cons first rest => exact trimmed.front
  rw [trim, started, trimEnd, List.reverse_append, List.dropWhile_append_of_pos]
  · rw [dropWhile_isBlank reversed, List.reverse_reverse]
  · intro c member
    exact after c (List.mem_reverse.mp member)

theorem trim_of_isBlank {chars : List Char} (blank : ∀ c ∈ chars, isBlank c = true) :
    trim chars = [] := by
  have none : trimStart chars = [] := by
    rw [trimStart, ← List.append_nil chars, List.dropWhile_append_of_pos blank, List.dropWhile_nil]
  rw [trim, none]
  rfl

/-- Whether a text is another one, which neither starts nor ends with a blank, with blanks around it. -/
structure IsPadded (chars inner : List Char) : Prop where
  trimmed : IsTrimmed inner
  padding : ∃ left right, chars = left ++ inner ++ right ∧
    (∀ c ∈ left, isBlank c = true) ∧ ∀ c ∈ right, isBlank c = true

theorem isBlank_of_mem_takeWhile {chars : List Char} {c : Char}
    (member : c ∈ chars.takeWhile isBlank) : isBlank c = true :=
  List.all_eq_true.mp List.all_takeWhile c member

theorem isPadded_trim (chars : List Char) : IsPadded chars (trim chars) where
  trimmed := isTrimmed_trim chars
  padding := by
    let left := chars.takeWhile isBlank
    let right := ((trimStart chars).reverse.takeWhile isBlank).reverse
    have start : left ++ trimStart chars = chars := List.takeWhile_append_dropWhile
    have finish : trim chars ++ right = trimStart chars := by
      rw [trim, trimEnd, ← List.reverse_append, List.takeWhile_append_dropWhile, List.reverse_reverse]
    refine ⟨left, right, ?_, ?_, ?_⟩
    · rw [List.append_assoc, finish, start]
    · exact fun c member => isBlank_of_mem_takeWhile member
    · exact fun c member => isBlank_of_mem_takeWhile (List.mem_reverse.mp member)

/-- Trimming takes all the blanks at both ends and nothing else. -/
theorem trim_eq_iff {chars inner : List Char} : trim chars = inner ↔ IsPadded chars inner := by
  constructor
  · rintro rfl
    exact isPadded_trim chars
  · rintro ⟨trimmed, left, right, rfl, before, after⟩
    by_cases empty : inner = []
    · subst empty
      apply trim_of_isBlank
      intro c member
      rw [List.append_nil, List.mem_append] at member
      exact member.elim (before c) (after c)
    · exact trim_padded trimmed empty before after

theorem splitOnce_append {separator : Char} {before : List Char} (after : List Char)
    (absent : separator ∉ before) :
    splitOnce separator (before ++ separator :: after) = some (before, after) := by
  induction before with
  | nil => rw [List.nil_append, splitOnce, if_pos rfl]
  | cons c rest ih =>
      rw [List.mem_cons, not_or] at absent
      rw [List.cons_append, splitOnce, if_neg (Ne.symm absent.1), ih absent.2]
      rfl

/-- A text is cut at its first separator. -/
theorem splitOnce_eq_some_iff {separator : Char} {chars before after : List Char} :
    splitOnce separator chars = some (before, after) ↔
      chars = before ++ separator :: after ∧ separator ∉ before := by
  constructor
  · exact splitOnce_eq_some
  · rintro ⟨rfl, absent⟩
    exact splitOnce_append after absent

theorem splitOnce_eq_none {separator : Char} {chars : List Char} (absent : separator ∉ chars) :
    splitOnce separator chars = none := by
  induction chars with
  | nil => rfl
  | cons c rest ih =>
    rw [List.mem_cons, not_or] at absent
    rw [splitOnce, if_neg (Ne.symm absent.1), ih absent.2, Option.map_none]

end SessionServer.Text
