import SessionServer.Text.Utf8

/-!
Text for a terminal. Control sequences in it say how the rest is to look; where the text goes elsewhere
they are taken out again, together with every other control character that is no white space.
`plain_append_ground` says that what follows a finished sequence is read on its own.
-/

namespace SessionServer.Text.Terminal

def escape : Char := '\x1b'

inductive Mode where
  /-- Between sequences. -/
  | ground
  /-- Behind the character that begins a sequence. -/
  | escape
  /-- Inside a short sequence. -/
  | short
  /-- Inside a sequence with parameters. -/
  | control
  /-- At the parameters of a device string. -/
  | device
  /-- Behind the first parameter of a device string. -/
  | parameters
  /-- Behind the parameters of a device string. -/
  | intermediate
  /-- Inside the text of a device string, or of another string that nobody reads. -/
  | string
  /-- Inside the text of a command to the system. -/
  | command
  deriving DecidableEq, Repr

/-- Whether a control character stands for white space. -/
def isSpace (c : Char) : Bool := c = '\t' || c = '\n' || c = '\x0c' || c = '\r'

def between (low high : Nat) (c : Char) : Bool := low ≤ c.toNat && c.toNat ≤ high

/-- The octet that ends a string. -/
def terminator : UInt8 := 0x9C

/-- The mode behind a character that is no control character, from a mode inside a sequence. -/
def Mode.follow (mode : Mode) (c : Char) : Mode :=
  match mode with
  | .ground => .ground
  | .escape =>
      if between 0x20 0x2F c then .short
      else if c = '[' then .control
      else if c = ']' then .command
      else if c = 'P' then .device
      else if c = 'X' || c = '^' || c = '_' then .string
      else if between 0x30 0x7E c then .ground
      else .escape
  | .short => if between 0x30 0x7E c then .ground else .short
  | .control => if between 0x40 0x7E c then .ground else .control
  | .device =>
      if between 0x20 0x2F c then .intermediate
      else if between 0x30 0x3F c then .parameters
      else if between 0x40 0x7E c then .string
      else .device
  | .parameters =>
      if between 0x20 0x2F c then .intermediate
      else if between 0x3C 0x7E c then .string
      else .parameters
  | .intermediate => if between 0x30 0x7E c then .string else .intermediate
  | .string => if terminator ∈ Utf8.encodeChar c then .ground else .string
  | .command => .command

/-- Whether white space shows through a sequence that it interrupts. -/
def Mode.showsSpace : Mode → Bool
  | .ground | .escape | .short | .control => true
  | .device | .parameters | .intermediate | .string | .command => false

/-- The mode behind a character, and whether the character shows. -/
def Mode.step (mode : Mode) (c : Char) : Mode × Bool :=
  if c = Terminal.escape then (.escape, false)
  else if c = '\x18' || c = '\x1a' then (.ground, false)
  else if c.toNat < 0x20 then
    if isSpace c && mode.showsSpace then (.ground, true)
    else if mode = .command && c = '\x07' then (.ground, false)
    else (mode, false)
  else if mode = .ground then (.ground, c ≠ '\x7f')
  else (mode.follow c, false)

/-- The characters that show, from a mode on. -/
def shown : Mode → List Char → List Char
  | _, [] => []
  | mode, c :: rest =>
      let (next, shows) := mode.step c
      if shows then c :: shown next rest else shown next rest

def Mode.after (mode : Mode) (text : List Char) : Mode :=
  text.foldl (fun mode c => (mode.step c).1) mode

/-- The text without control sequences. -/
def plain (text : String) : String := String.ofList (shown .ground text.toList)

def bold (text : String) : String := "\x1b[1m" ++ text ++ "\x1b[0m"

def heading (text : String) : String := "\x1b[1m\x1b[4m" ++ text ++ "\x1b[0m"

theorem shown_append (mode : Mode) (before after : List Char) :
    shown mode (before ++ after) = shown mode before ++ shown (mode.after before) after := by
  induction before generalizing mode with
  | nil => rfl
  | cons c rest ih =>
      simp only [List.cons_append, shown, Mode.after, List.foldl_cons]
      split
      · simp only [List.cons_append, ih]; rfl
      · exact ih _

/-- What follows a text that leaves no sequence open is read on its own. -/
theorem plain_append_ground {before after : String}
    (ended : Mode.after .ground before.toList = .ground) :
    plain (before ++ after) = plain before ++ plain after := by
  simp [plain, shown_append, ended]

end SessionServer.Text.Terminal
