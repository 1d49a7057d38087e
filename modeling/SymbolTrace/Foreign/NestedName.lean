import SymbolTrace.Mangling.Reading

/-!
# Nested names

Several mangling schemes spell a qualified name as a sequence of parts, each a decimal length and
then that many bytes, closed by an `E`. The parts are shown joined by `::`. Which lengths and
which bytes a part may have is up to the scheme.
-/

namespace SymbolTrace.Foreign

open Mangling

/-- The parts of a qualified name, as they are shown. -/
def qualifiedName (parts : List String) : String :=
  "::".intercalate parts

/-- Is every character of the text an ASCII character? -/
def isAscii (text : List Char) : Bool :=
  text.all fun c => c.toNat < 128

/-- Reads one part of a qualified name. -/
abbrev PartReader := (text : List Char) → Option (Reading String text)

/-- Parts up to the closing `E`, and the text after it. -/
def readParts? (readPart? : PartReader) (text : List Char) :
    Option (List String × List Char) :=
  match text with
  | [] => none
  | 'E' :: rest => some ([], rest)
  | text =>
      match readPart? text with
      | none => none
      | some part =>
          (readParts? readPart? part.rest).map fun (parts, rest) => (part.value :: parts, rest)
termination_by text.length
decreasing_by exact part.rest_lt

end SymbolTrace.Foreign
