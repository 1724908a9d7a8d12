import SessionServer.Settings.Option
import SessionServer.Text.Terminal

/-!
The help text: a short form with one line an option, and a long form with a paragraph for each. Both
show the values that environment variables have at the moment. The text is laid out for a terminal,
with names in bold type, and then made plain; a control sequence in a variable's value is therefore
taken out as well, and one that is left open takes what follows it up to the next name.
-/

namespace SessionServer.Settings

abbrev Environment := List (String × String)

namespace Help

def indent : String := "          "

def names (option : Description) : String :=
  let short := match option.short with
    | some c => "  " ++ Text.Terminal.bold ("-" ++ String.singleton c) ++ ", "
    | none => "      "
  let value := match option.value with
    | some name => " <" ++ name ++ ">"
    | none => ""
  short ++ Text.Terminal.bold ("--" ++ option.long) ++ value

/-- A text whose later lines are indented like its first. -/
def indented (text : String) : String := text.replace "\n" ("\n" ++ indent)

def variableNote (environment : Environment) (option : Description) : List String :=
  match option.fallback with
  | some name => ["[env: " ++ name ++ "=" ++ (environment.lookup name).getD "" ++ "]"]
  | none => []

def defaultNote (option : Description) : List String :=
  (option.default.map fun value => "[default: " ++ value ++ "]").toList

def choicesNote (option : Description) : List String :=
  if option.choices.isEmpty then []
  else ["[possible values: " ++ ", ".intercalate (option.choices.map (·.1)) ++ "]"]

/-- What is said about an option, with a pointer to the other form for the option of help itself. -/
def about (option : Description) (pointer : String) : String :=
  if option.switch = .help then option.about ++ " " ++ pointer else option.about

def shortEntry (environment : Environment) (option : Description) : String :=
  let notes := about option "(see more with '--help')" :: variableNote environment option ++
    defaultNote option ++ choicesNote option
  names option ++ "\n" ++ indent ++ indented (" ".intercalate notes) ++ "\n"

def widest (option : Description) : Nat :=
  (option.choices.map fun choice => choice.1.length).foldl max 0

/-- The choices of an option with their explanations, if they have any. -/
def explained (option : Description) : String :=
  let lines := option.choices.filterMap fun (name, explanation) =>
    explanation.map fun text =>
      let padding := String.ofList (List.replicate (widest option - name.length) ' ')
      indent ++ "- " ++ Text.Terminal.bold name ++ ": " ++ padding ++ text ++ "\n"
  if lines.isEmpty then "" else "\n" ++ indent ++ "Possible values:\n" ++ String.join lines

def longEntry (environment : Environment) (option : Description) : String :=
  let explanation := explained option
  let notes := variableNote environment option ++ defaultNote option ++
    (if explanation.isEmpty then choicesNote option else [])
  let lines := notes.map fun note => indent ++ indented note ++ "\n"
  names option ++ "\n" ++ indent ++ about option "(see a summary with '-h')" ++ "\n" ++
    explanation ++ (if lines.isEmpty then "" else indent ++ "\n" ++ String.join lines)

def styled (environment : Environment) (long : Bool) : String :=
  let entries :=
    if long then "\n".intercalate (descriptions.map (longEntry environment))
    else String.join (descriptions.map (shortEntry environment))
  programAbout ++ "\n\n" ++ Text.Terminal.heading "Usage:" ++ " " ++
    Text.Terminal.bold programName ++ " [OPTIONS]\n\n" ++ Text.Terminal.heading "Options:" ++ "\n" ++
    entries

def text (environment : Environment) (long : Bool) : String :=
  Text.Terminal.plain (styled environment long)

end Help

end SessionServer.Settings
