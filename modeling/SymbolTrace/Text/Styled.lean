/-!
# Styled text

Consoles take instructions among the text that they show, such as one to go on in another colour.
An instruction starts with an escape character. `plain` is what is left of a text when all
instructions are taken out of it, for a stream that no console reads.

Control characters end some instructions and are left out of the others, and they are left out of
the text itself, save line breaks, tabs and form feeds. Where one of these stands inside an
instruction, the text goes on there; but the instruction is not forgotten, and what looks like
the start of another one, or a control character, brings it back.

* `inStyles`: a text in styles of the console.
* `plain`: a text without instructions.
-/

namespace SymbolTrace.Text

/-! ### Styles -/

/-- A text in styles of the console, which are given by their numbers and end behind the text. -/
def inStyles (styles : List Nat) (text : String) : String :=
  String.join (styles.map fun style => "\x1b[" ++ style.repr ++ "m") ++ text ++ "\x1b[0m"

/-! ### Instructions -/

/-- Where in an instruction a console is. -/
inductive ConsoleState where
  /-- Outside of any instruction. -/
  | ground
  /-- Behind the escape character, and behind what may follow it before the end. -/
  | escape
  | escapeIntermediate
  /-- In an instruction about the screen: at its start, in its numbers, behind them, or in one
  that is not well formed. -/
  | controlEntry
  | controlNumbers
  | controlIntermediate
  | controlIgnored
  /-- In an instruction for a device, likewise, and in the text that it takes. -/
  | deviceEntry
  | deviceNumbers
  | deviceIntermediate
  | deviceIgnored
  | deviceText
  /-- In the text of an instruction to the system, and in other texts. -/
  | systemText
  | otherText
deriving DecidableEq, Repr

namespace ConsoleState

/-- Is the code of a character between two others? -/
def isBetween (c : Char) (first last : Nat) : Bool :=
  first ≤ c.toNat && c.toNat ≤ last

/-- The state after a character that follows an escape character. -/
def afterEscape (c : Char) : ConsoleState :=
  if isBetween c 0x20 0x2f then escapeIntermediate
  else
    match c with
    | '[' => controlEntry
    | ']' => systemText
    | 'P' => deviceEntry
    | 'X' | '^' | '_' => otherText
    | _ => if isBetween c 0x30 0x7e then ground else escape

/-- The state after a character in an instruction about the screen. -/
def afterControl (state : ConsoleState) (c : Char) : ConsoleState :=
  if isBetween c 0x40 0x7e then ground
  else if state = controlIgnored then state
  else if isBetween c 0x20 0x2f then controlIntermediate
  else if isBetween c 0x30 0x3f then
    if state = controlEntry || (state = controlNumbers && isBetween c 0x30 0x3b) then
      controlNumbers
    else controlIgnored
  else state

/-- The state after a character in an instruction for a device. -/
def afterDevice (state : ConsoleState) (c : Char) : ConsoleState :=
  if isBetween c 0x40 0x7e then deviceText
  else if isBetween c 0x20 0x2f then deviceIntermediate
  else if isBetween c 0x30 0x3f then
    if state = deviceEntry || (state = deviceNumbers && isBetween c 0x30 0x3b) then
      deviceNumbers
    else deviceIgnored
  else state

/-- Does the character end a text inside an instruction? Any does that has a certain byte. -/
def endsText (c : Char) : Bool :=
  128 ≤ c.toNat && (String.utf8EncodeChar c).contains 0x9c

/-- The state after a character that is not shown. -/
def next (state : ConsoleState) (c : Char) : ConsoleState :=
  if c = '\x18' || c = '\x1a' then ground
  else if c = '\x1b' then escape
  else
    match state with
    | ground => ground
    | escape => afterEscape c
    | escapeIntermediate => if isBetween c 0x30 0x7e then ground else state
    | controlEntry | controlNumbers | controlIntermediate | controlIgnored =>
        state.afterControl c
    | deviceEntry | deviceNumbers | deviceIntermediate => state.afterDevice c
    | deviceIgnored | deviceText | otherText => if endsText c then ground else state
    | systemText => if c = '\x07' then ground else state

/-- Are line breaks and the like shown that stand in an instruction? -/
def showsBreaks : ConsoleState → Bool
  | ground | escape | escapeIntermediate => true
  | controlEntry | controlNumbers | controlIntermediate | controlIgnored => true
  | _ => false

/-- Is the character shown? -/
def shows (state : ConsoleState) (c : Char) : Bool :=
  if c = '\t' || c = '\n' || c = '\x0c' || c = '\r' then state.showsBreaks
  else state = ground && 0x20 ≤ c.toNat && c ≠ '\x7f'

/-- The characters of a text that are shown. While text is shown, an instruction that a line break
interrupted is remembered. -/
def shown (showing : Bool) (state : ConsoleState) : List Char → List Char
  | [] => []
  | c :: rest =>
      if shows (if showing then ground else state) c then
        c :: shown true (if c.toNat < 128 then state else ground) rest
      else shown false (state.next c) rest

end ConsoleState

/-- A text without instructions to a console. -/
def plain (text : String) : String :=
  String.ofList (ConsoleState.shown false .ground text.toList)

end SymbolTrace.Text
