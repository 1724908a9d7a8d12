/-!
White space and trimming. A character is blank when it carries the Unicode property
`White_Space`; trimming removes blanks at both ends and nothing else.
-/

namespace SessionServer.Text

/-- The code points with the Unicode property `White_Space`, as closed ranges. -/
def blankRanges : List (Nat × Nat) :=
  [(0x09, 0x0D), (0x20, 0x20), (0x85, 0x85), (0xA0, 0xA0), (0x1680, 0x1680), (0x2000, 0x200A),
    (0x2028, 0x2029), (0x202F, 0x202F), (0x205F, 0x205F), (0x3000, 0x3000)]

def isBlank (c : Char) : Bool :=
  blankRanges.any fun range => range.1 ≤ c.toNat && c.toNat ≤ range.2

def trimStart (chars : List Char) : List Char := chars.dropWhile isBlank

def trimEnd (chars : List Char) : List Char := (chars.reverse.dropWhile isBlank).reverse

/-- `chars` without the blanks at either end. -/
def trim (chars : List Char) : List Char := trimEnd (trimStart chars)

def trimmed (text : String) : String := String.ofList (trim text.toList)

/-- The part of `chars` before its first `separator` and the part after it. -/
def splitOnce (separator : Char) : List Char → Option (List Char × List Char)
  | [] => none
  | c :: rest =>
      if c = separator then some ([], rest)
      else (splitOnce separator rest).map fun parts => (c :: parts.1, parts.2)

/-- The pieces of `chars` between its separators: one more than there are separators. -/
def splitAll (separator : Char) : List Char → List (List Char)
  | [] => [[]]
  | c :: rest =>
      if c = separator then [] :: splitAll separator rest
      else
        match splitAll separator rest with
        | [] => [[c]]
        | piece :: pieces => (c :: piece) :: pieces

theorem splitOnce_eq_some {separator : Char} {chars before after : List Char}
    (split : splitOnce separator chars = some (before, after)) :
    chars = before ++ separator :: after ∧ separator ∉ before := by
  induction chars generalizing before with
  | nil => simp [splitOnce] at split
  | cons c rest ih =>
      by_cases same : c = separator
      · simp only [splitOnce, same, if_true, Option.some.injEq, Prod.mk.injEq] at split
        obtain ⟨rfl, rfl⟩ := split
        simp [same]
      · simp only [splitOnce, same, if_false, Option.map_eq_some_iff, Prod.mk.injEq] at split
        obtain ⟨parts, found, rfl, rfl⟩ := split
        have := ih found
        simp [this.1, this.2, Ne.symm same]

theorem splitAll_ne_nil (separator : Char) (chars : List Char) :
    splitAll separator chars ≠ [] := by
  cases chars with
  | nil => simp [splitAll]
  | cons c rest =>
      simp only [splitAll]
      split
      · simp
      · split <;> simp

/-- ASCII letters in lower case, every other character unchanged. -/
def lowerAscii (chars : List Char) : List Char := chars.map Char.toLower

end SessionServer.Text
