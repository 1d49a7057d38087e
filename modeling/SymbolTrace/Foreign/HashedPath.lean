import SymbolTrace.Foreign.NestedName
import SymbolTrace.Numeral

/-!
# Hashed paths

The older of the two Rust schemes: `_ZN`, the parts of a path, the last of which is a hash, and
`E`. The hash is shown like any other part: `_ZN1a17h0123456789abcdefE` is
`a::h0123456789abcdef`.

Characters that names cannot hold stand between dollar signs, as two letters or as a code, and two
dots stand for `::`. An underscore keeps a name from starting with a dollar sign, and is dropped.
So the part `_$LT$u8$u20$as$u20$Add$GT$` is `<u8 as Add>`.
-/

namespace SymbolTrace.Foreign.HashedPath

open Mangling

/-! ### Escapes -/

/-- The characters that have an escape of their own. -/
def namedEscapes : List (String × Char) := [
  ("SP", '@'), ("BP", '*'), ("RF", '&'), ("LT", '<'), ("GT", '>'), ("LP", '('), ("RP", ')'),
  ("C", ',')]

/-- Is the character a digit of a code in an escape? -/
def isCodeDigit (c : Char) : Bool :=
  c.isDigit || ('a' ≤ c && c ≤ 'f')

/-- Is the character an instruction to a device? -/
def isControl (c : Char) : Bool :=
  c.toNat < 0x20 || (0x7F ≤ c.toNat && c.toNat < 0xA0)

/-- The character with a code, unless it is a control character. -/
def codedChar? (digits : List Char) : Option Char :=
  if digits.all isCodeDigit then
    match Numeral.read 16 digits with
    | .ok code =>
        if code.isValidChar && !isControl (Char.ofNat code) then some (Char.ofNat code) else none
    | .error _ => none
  else none

/-- The character that the text between two dollar signs stands for. -/
def escapedChar? (escape : List Char) : Option Char :=
  (namedEscapes.lookup (String.ofList escape)).or
    (match escape with
    | 'u' :: digits => codedChar? digits
    | _ => none)

/-- A text with its escapes replaced. From the first escape that is not understood on it stays as
it is. -/
def unescape (text : List Char) : List Char :=
  match text with
  | [] => []
  | '.' :: '.' :: rest => ':' :: ':' :: unescape rest
  | '$' :: rest =>
      match escapedChar? (rest.takeWhile (· ≠ '$')), _ : rest.dropWhile (· ≠ '$') with
      | some c, _ :: after => c :: unescape after
      | _, _ => '$' :: rest
  | c :: rest => c :: unescape rest
termination_by text.length
decreasing_by
  · simp only [List.length_cons]; omega
  · have := length_dropWhile_le (· ≠ '$') rest
    simp_all only [List.length_cons]
    omega
  · simp only [List.length_cons]; omega

/-- A part of a path as it is shown. -/
def shownPart (part : String) : String :=
  match part.toList with
  | '_' :: '$' :: rest => String.ofList (unescape ('$' :: rest))
  | text => String.ofList (unescape text)

/-! ### Names -/

/-- The shown form of the hashed path at the front, and the text after it. -/
def read? : List Char → Option (String × List Char)
  | '_' :: 'Z' :: 'N' :: body =>
      if isAscii body then
        (readParts? (fun text => (readName text).toOption) body).map fun (parts, rest) =>
          (qualifiedName (parts.map shownPart), rest)
      else none
  | _ => none

end SymbolTrace.Foreign.HashedPath
