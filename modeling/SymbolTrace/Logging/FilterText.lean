import SymbolTrace.Logging.Filter
import SymbolTrace.Logging.Settings
import SymbolTrace.Numeral
import SymbolTrace.Text.Alphanumeric
import SymbolTrace.Text.Blank
import SymbolTrace.Text.Bytes
import SymbolTrace.Text.RegularExpression

/-!
# Filters as they are written

Filters are written as directives between commas. A directive is a level, or a target, an equals
sign and a level; without a level it lets everything through. Behind the target a scope may stand
in brackets: the name of a span, and the name of a value in braces, perhaps with an equals sign
and the value that it must be. This library logs outside of any span, so directives about spans
apply to no event, and neither do those about a value that must be a certain one.

The parts of a directive are found by their places in it, counted in bytes from its first
character that is no blank, but they are cut out from the start of its text. So with blanks in
front each part starts too early. It may then start or end inside a character, and the filter
cannot be read at all.

* `Filter.read`: the filter that a text stands for.
* `Settings.filter`: the filter of settings.
-/

namespace SymbolTrace.Logging

open Text

/-- The variable that holds the filter. -/
def filterVariable : String := "RUST_LOG"

/-! ### Faults -/

/-- A place inside a character, where a text cannot be cut. -/
structure BrokenCharacter where
  text : List Char
  /-- How many bytes stand in front of the place. -/
  index : Nat
deriving DecidableEq, Repr

namespace BrokenCharacter

/-- The character around a place, and how many bytes stand in front of it, counting on. -/
def enclosing? (index before : Nat) : List Char → Option (Char × Nat)
  | [] => none
  | c :: rest =>
      if index < before + c.utf8Size then some (c, before)
      else enclosing? index (before + c.utf8Size) rest

/-- How many bytes of a text are shown at most. -/
def shownBytes : Nat := 256

/-- The first characters of a text, as many as fit so many bytes. -/
def fitting (size : Nat) : List Char → List Char
  | [] => []
  | c :: rest => if c.utf8Size ≤ size then c :: fitting (size - c.utf8Size) rest else []

/-- A text as it is shown, without its end if it is long. -/
def shown (text : List Char) : String :=
  let front := fitting shownBytes text
  "\u0060" ++ String.ofList front ++ "\u0060" ++ (if front = text then "" else "[...]")

/-- What is said about the place. -/
def message (broken : BrokenCharacter) : String :=
  let inside :=
    match enclosing? broken.index 0 broken.text with
    | none => ""
    | some (c, start) =>
        "it is inside '" ++ String.singleton c ++ "' (bytes " ++ start.repr ++ ".." ++
          (start + c.utf8Size).repr ++ ") of "
  "byte index " ++ broken.index.repr ++ " is not a char boundary; " ++ inside ++
    shown broken.text

end BrokenCharacter

/-- Why a directive is not read. -/
inductive DirectiveFault where
  | notUnderstood
  | broken (place : BrokenCharacter)
deriving DecidableEq, Repr

/-! ### Levels -/

/-- The greatest verbosity that a text names: a level, or a number from 0, for none, to 5. -/
def parseVerbosity? (text : List Char) : Option Nat :=
  match Numeral.read 10 text with
  | .ok number => if number ≤ Level.trace.verbosity then some number else none
  | .error _ =>
      match lowerCase (String.ofList text) with
      | "off" => some 0
      | "error" => some Level.error.verbosity
      | "warn" => some Level.warn.verbosity
      | "info" => some Level.info.verbosity
      | "debug" => some Level.debug.verbosity
      | "trace" => some Level.trace.verbosity
      | _ => none

/-- The greatest verbosity that the text behind an equals sign names; nothing names all. -/
def readVerbosity : List Char → Except DirectiveFault Nat
  | [] => .ok Level.trace.verbosity
  | text =>
      match parseVerbosity? text with
      | some verbosity => .ok verbosity
      | none => .error .notUnderstood

/-! ### Scopes -/

/-- What a directive speaks about besides its target. -/
inductive Scope where
  | everything
  /-- Events that are logged with a value of this name. -/
  | valued (name : String)
  /-- Spans, or values that must be certain ones. -/
  | spans
deriving DecidableEq, Repr

/-- Is the text a sign and digits, or digits alone? -/
def isExponent (text : List Char) : Bool :=
  let digits :=
    match text with
    | '+' :: rest | '-' :: rest => rest
    | rest => rest
  !digits.isEmpty && digits.all Char.isDigit

/-- Is the text a number with digits on at least one side of a point, or without a point, and
perhaps with an exponent? -/
def isDecimal (text : List Char) : Bool :=
  let whole := text.takeWhile Char.isDigit
  let (fraction, rest) :=
    match text.dropWhile Char.isDigit with
    | '.' :: rest => (rest.takeWhile Char.isDigit, rest.dropWhile Char.isDigit)
    | rest => ([], rest)
  !(whole ++ fraction).isEmpty &&
    match rest with
    | [] => true
    | c :: rest => c.toLower = 'e' && isExponent rest

/-- Is the text a number with a plus sign? -/
def isPositive : List Char → Bool
  | '+' :: number =>
      isDecimal number ||
        ["inf", "infinity", "nan"].contains (lowerCase (String.ofList number))
  | _ => false

/-- May a value have to match the text? Numbers and truth values do not need to be told apart
from regular expressions, save that a number may start with a plus sign. -/
def isValuePattern (text : List Char) : Bool :=
  isPositive text || RegularExpression.isUnderstood text

/-- What the text in braces speaks about, if the text in front of it names no span. A second
equals sign ends the value. -/
def readValue (text : List Char) : Except DirectiveFault Scope :=
  let name := text.takeWhile (· ≠ '=')
  match text, text.dropWhile (· ≠ '=') with
  | [], _ => .error .notUnderstood
  | _, [] => .ok (.valued (String.ofList name))
  | _, _ :: value =>
      if isValuePattern (value.takeWhile (· ≠ '=')) then .ok .spans
      else .error .notUnderstood

/-! ### Directives -/

namespace Directive

/-- May a target start with the character? -/
def startsTarget (c : Char) : Bool :=
  c == '-' || c == ':' || c == '_' || isAlphanumeric c

/-- A text without the blanks around it. -/
def trimmed (text : List Char) : List Char :=
  ((text.dropWhile isBlank).reverse.dropWhile isBlank).reverse

/-- So many bytes of a text, and the rest of it. -/
def split (text : List Char) (size : Nat) : Except DirectiveFault (List Char × List Char) :=
  match splitBytes? size text with
  | some parts => .ok parts
  | none => .error (.broken ⟨text, size⟩)

/-- The text from one place to another one. -/
def cut (text : List Char) (start stop : Nat) : Except DirectiveFault (List Char) := do
  let (_, rest) ← split text start
  match splitBytes? (stop - start) rest with
  | some (part, _) => return part
  | none => throw (.broken ⟨text, stop⟩)

/-- A directive with a scope. One about spans applies to no event. -/
def inScope (target : List Char) (verbosity : Nat) : Scope → List Directive
  | .everything => [.about (String.ofList target) verbosity]
  | .valued name => [⟨String.ofList target, some name, verbosity⟩]
  | .spans => []

/-- The verbosity that stands from a place of a text on. -/
def readLevel (text : List Char) (start : Nat) : Except DirectiveFault Nat := do
  let (_, level) ← split text start
  readVerbosity level

/-- The verbosity behind a scope, which ends at a place of a text. What follows it, blanks apart,
is given. -/
def readBehind (text : List Char) (stop : Nat) : List Char → Except DirectiveFault Nat
  | [] => .ok Level.trace.verbosity
  | '=' :: _ => readLevel text (stop + 1)
  | _ => .error .notUnderstood

/-- The scope whose bracket opens in front of a place of a text, and the verbosity behind it. What
follows the bracket, blanks apart, is given. -/
def readScope (text : List Char) (start : Nat) (follows : List Char) :
    Except DirectiveFault (Scope × Nat) :=
  let name := follows.takeWhile fun c => c ≠ ']' ∧ c ≠ '\x7b'
  let nameEnd := start + byteCount name
  match follows.dropWhile fun c => c ≠ ']' ∧ c ≠ '\x7b' with
  | ']' :: behind => do
      let _ ← cut text start nameEnd
      return (.spans, ← readBehind text (nameEnd + 1) behind)
  | _ :: follows => do
      let span ← cut text start nameEnd
      let value := follows.takeWhile (· ≠ '\x7d')
      let valueEnd := nameEnd + 1 + byteCount value
      match follows.dropWhile (· ≠ '\x7d') with
      | [] => throw .notUnderstood
      | _ :: closing =>
          let scope ← readValue (← cut text (nameEnd + 1) valueEnd)
          match closing with
          | ']' :: behind =>
              return (if span.isEmpty then scope else .spans,
                ← readBehind text (valueEnd + 2) behind)
          | _ => throw .notUnderstood
  | [] => .error .notUnderstood

/-- The directives that a text between commas stands for: none for one about spans. A word alone
is a level if it can be. -/
def read (text : List Char) : Except DirectiveFault (List Directive) :=
  match trimmed text with
  | [] => .error .notUnderstood
  | '[' :: follows => do
      let (scope, verbosity) ← readScope text 1 follows
      return inScope [] verbosity scope
  | first :: follows =>
      let name := (first :: follows).takeWhile fun c => c ≠ '=' ∧ c ≠ '['
      let nameEnd := byteCount name
      if startsTarget first then
        match (first :: follows).dropWhile fun c => c ≠ '=' ∧ c ≠ '[' with
        | [] =>
            match parseVerbosity? text with
            | some verbosity => .ok [.about "" verbosity]
            | none => .ok [.about (String.ofList text) Level.trace.verbosity]
        | '[' :: follows => do
            let target ← cut text 0 nameEnd
            let (scope, verbosity) ← readScope text (nameEnd + 1) follows
            return inScope target verbosity scope
        | _ => do
            let target ← cut text 0 nameEnd
            return inScope target (← readLevel text (nameEnd + 1)) .everything
      else .error .notUnderstood

end Directive

/-! ### Filters -/

/-- The filter that a text stands for. Empty directives say nothing, and the first one that is not
read decides. -/
def Filter.read (text : String) : Except DirectiveFault Filter := do
  let pieces := (text.toList.splitOn ',').filter (!·.isEmpty)
  return (← pieces.mapM Directive.read).flatten

/-- The filter of settings: the level asked for, else the filter of the environment, else
warnings. A filter that is not understood counts as none. -/
def Settings.filter (settings : Settings) (environment : Environment) :
    Except BrokenCharacter Filter :=
  match settings.level, environment filterVariable with
  | some level, _ => .ok (Filter.ofLevel level)
  | none, none => .ok (Filter.ofLevel .warn)
  | none, some text =>
      match Filter.read text with
      | .ok filter => .ok filter
      | .error .notUnderstood => .ok (Filter.ofLevel .warn)
      | .error (.broken place) => .error place

end SymbolTrace.Logging
