import SessionServer.Json.Tree

/-!
Keys as JSON objects. A token's header may carry one; it is checked for its form only.
-/

namespace SessionServer.Token.KeyObject

open Json (Tree)

abbrev Members := List (String × Tree)

/-- The only member with this key; nothing if there are several. -/
def single? (members : Members) (key : String) : Option (Option Tree) :=
  match members.filter (·.1 == key) with
  | [] => some none
  | [member] => some (some member.2)
  | _ => none

def isText : Tree → Bool
  | .text _ => true
  | _ => false

def isTexts : Tree → Bool
  | .list elements => elements.all isText
  | _ => false

/-- Whether a value is null or passes the test. -/
def orNull (test : Tree → Bool) : Tree → Bool
  | .null => true
  | value => test value

/-- Whether a value is nothing at all: null or an object without members. -/
def isEmpty : Tree → Bool
  | .null => true
  | .object [] => true
  | _ => false

def isNull : Tree → Bool
  | .null => true
  | _ => false

/-- The name of a choice, written as a text or as an object whose one member passes for nothing. -/
def choice? (passes : Tree → Bool) : Tree → Option String
  | .text name => some name
  | .object [(name, value)] => if passes value then some name else none
  | _ => none

/-- Whether a member is given at most once, and passes the test if it is. -/
def optional (members : Members) (key : String) (test : Tree → Bool) : Bool :=
  match single? members key with
  | some (some value) => test value
  | some none => true
  | none => false

/-- Whether a member is given exactly once and passes the test. -/
def required (members : Members) (key : String) (test : Tree → Bool) : Bool :=
  match single? members key with
  | some (some value) => test value
  | _ => false

/-- Whether a value is one of these choices, with null beside the name if it is an object. -/
def chooses (names : List String) (value : Tree) : Bool :=
  match choice? isNull value with
  | some name => names.contains name
  | none => false

def curves : List String := ["P-256", "P-384", "P-521", "Ed25519"]

def commonFields : List (String × (Tree → Bool)) :=
  [("use", isText), ("key_ops", isTexts), ("alg", fun value => (choice? isEmpty value).isSome),
    ("kid", isText), ("x5u", isText), ("x5c", isTexts), ("x5t", isText), ("x5t#S256", isText)]

/-- The families of keys, each with the members it needs. -/
def families : List (List (String × (Tree → Bool))) :=
  [ [("kty", chooses ["EC"]), ("crv", chooses curves), ("x", isText), ("y", isText)],
    [("kty", chooses ["RSA"]), ("n", isText), ("e", isText)],
    [("kty", chooses ["oct"]), ("k", isText)],
    [("kty", chooses ["OKP"]), ("crv", chooses curves), ("x", isText)] ]

/-- Whether a value is a key of some family. Members that no family knows are ignored. -/
def isKey : Tree → Bool
  | .object members =>
      (commonFields.all fun field => optional members field.1 (orNull field.2)) &&
        families.any fun family => family.all fun field => required members field.1 field.2
  | _ => false

end SessionServer.Token.KeyObject
