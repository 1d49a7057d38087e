import SymbolTrace.Logging.Level
import SymbolTrace.Text.Styled

/-!
# Log events

What is logged: how important it is, which part of the program it comes from, a message, and
named values. The moment of an event is no part of it. An event can be written as one JSON object
or as a line for people.
-/

namespace SymbolTrace.Logging

/-- A value logged with an event. -/
inductive Value where
  | text (shown : String)
  | integer (value : Int)
deriving DecidableEq, Repr

/-- A logged event. -/
structure Event where
  level : Level
  /-- The part of the program that the event comes from. -/
  target : String
  message : String
  fields : List (String × Value)
deriving DecidableEq, Repr

/-- Is a value of this name logged with the event? The message is one too. -/
def Event.hasValue (event : Event) (name : String) : Bool :=
  name == "message" || event.fields.any (·.1 == name)

/-- A value as text. -/
def Value.shown : Value → String
  | text shown => shown
  | integer value => value.repr

/-! ### Written forms -/

/-- The hexadecimal digits of a character's code, four of them. -/
def hexCode (c : Char) : String :=
  String.ofList ((Nat.toDigits 16 c.toNat).leftpad 4 '0')

/-- A character inside a JSON string. -/
def jsonChar (c : Char) : String :=
  if c = '"' then "\\\""
  else if c = '\\' then "\\\\"
  else if c = '\n' then "\\n"
  else if c = '\r' then "\\r"
  else if c = '\t' then "\\t"
  else if c.toNat < 32 then "\\u" ++ hexCode c
  else String.singleton c

/-- A text as a JSON string. -/
def jsonString (text : String) : String :=
  "\"" ++ String.join (text.toList.map jsonChar) ++ "\""

/-- A value in JSON. -/
def Value.json : Value → String
  | text shown => jsonString shown
  | integer value => value.repr

/-- A member of a JSON object. -/
def jsonMember (name : String) (value : String) : String :=
  jsonString name ++ ":" ++ value

/-- A JSON object. -/
def jsonObject (members : List String) : String :=
  "\x7b" ++ ",".intercalate members ++ "\x7d"

/-- An event as one JSON object. -/
def Event.json (event : Event) : String :=
  jsonObject [
    jsonMember "level" (jsonString event.level.label),
    jsonMember "fields" (jsonObject
      (jsonMember "message" (jsonString event.message) ::
        event.fields.map fun (name, value) => jsonMember name value.json)),
    jsonMember "target" (jsonString event.target)]

/-- A named value as it is shown to people: on the console the name is slanted and the equals
sign is faint. -/
def shownField (styled : Bool) (name : String) (value : Value) : String :=
  if styled then Text.inStyles [3] name ++ Text.inStyles [2] "=" ++ value.shown
  else name ++ "=" ++ value.shown

/-- A character of a message as it is shown to people. Characters that could instruct a console
are spelled out. -/
def messageChar (c : Char) : String :=
  match c with
  | '\x1b' => "\\x1b"
  | '\x07' => "\\x07"
  | '\x08' => "\\x08"
  | '\x0c' => "\\x0c"
  | '\x7f' => "\\x7f"
  | _ =>
      if 0x80 ≤ c.toNat && c.toNat ≤ 0x9f then
        "\\u\x7b" ++ String.ofList (Nat.toDigits 16 c.toNat) ++ "\x7d"
      else String.singleton c

/-- A message as it is shown to people. -/
def shownMessage (message : String) : String :=
  String.join (message.toList.map messageChar)

/-- An event as it is shown to people. -/
def Event.pretty (styled : Bool) (event : Event) : String :=
  event.level.label ++ " " ++ event.target ++ ": " ++ shownMessage event.message ++
    String.join (event.fields.map fun (name, value) => " " ++ shownField styled name value)

/-- An event in a format, as it is written on the console or, without styles, in a file. Other
line breaks than the last one come from the values logged. -/
def Event.line (styled : Bool) (format : Format) (event : Event) : String :=
  (match format with
    | .json => event.json
    | .pretty => event.pretty styled) ++ "\n"

/-- Events as they are written on the console. -/
def consoleText (format : Format) (events : List Event) : String :=
  String.join (events.map (Event.line true format))

/-- Events as they are written in a file. -/
def fileText (format : Format) (events : List Event) : String :=
  String.join (events.map (Event.line false format))

end SymbolTrace.Logging
