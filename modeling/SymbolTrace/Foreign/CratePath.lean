import SymbolTrace.Foreign.NestedName
import SymbolTrace.Foreign.Punycode

/-!
# Crate paths

The newer of the two Rust schemes: `_R` and a path. A path is `C` and the name of a crate, or
`N`, a letter for the namespace, a path, and a name inside it. So `_RNvNtC5hello3foo3bar` is
`hello::foo::bar`. Behind the path there may be a second one, to the crate that asked for the
code; it is not shown.

A name may be numbered, to tell it from others of the same spelling. The number of a crate is
shown if it has one. Namespaces with capital letters hold what the compiler made up, such as
closures, which are shown in braces with their numbers: `_RNCNvC1a1b0` is `a::b::{closure#0}`.
-/

namespace SymbolTrace.Foreign.CratePath

open Mangling Text

/-! ### Names -/

/-- The value of a digit of the radix 62: the digits, the small letters and the capitals. -/
def digitValue? (c : Char) : Option Nat :=
  if c.isDigit then some (c.toNat - '0'.toNat)
  else if c.isLower then some (c.toNat - 'a'.toNat + 10)
  else if c.isUpper then some (c.toNat - 'A'.toNat + 36)
  else none

/-- What digits of the radix 62 count: nothing counts zero, and digits one more than their
value. -/
def count? : List Char → Option Nat
  | [] => some 0
  | digits => (digits.mapM digitValue?).map fun values =>
      values.foldl (fun value digit => value * 62 + digit) 0 + 1

/-- The number in front of a name, which is zero if none is written, and the text after it. A
written number is a word. -/
def readOrdinal? : List Char → Option (Nat × List Char)
  | 's' :: text =>
      match count? (text.takeWhile (· ≠ '_')), text.dropWhile (· ≠ '_') with
      | some count, _ :: rest => if count + 1 < numberBound then some (count + 1, rest) else none
      | _, _ => none
  | text => some (0, text)

/-- An ordinal may be missing, and then nothing is taken. -/
theorem length_le_of_readOrdinal? {text rest : List Char} {ordinal : Nat}
    (h : readOrdinal? text = some (ordinal, rest)) : rest.length ≤ text.length := by
  unfold readOrdinal? at h
  split at h
  · rename_i text
    have := length_dropWhile_le (· ≠ '_') text
    split at h
    · split at h <;> simp_all only [List.length_cons, Option.some.injEq, Prod.mk.injEq,
        reduceCtorEq]
      omega
    · simp at h
  · simp_all

/-- A name: its length, an optional underscore, and its bytes. A length that starts with `0` is
zero. -/
def readName? (text : List Char) : Option (Reading String text) :=
  match text with
  | '0' :: '_' :: _ => some ((Reading.single "").widen id (Nat.le_succ _))
  | '0' :: _ => some (.single "")
  | text =>
      match readNumber text with
      | .error _ => none
      | .ok size =>
          let body := match size.rest with
            | '_' :: rest => rest
            | rest => rest
          match h : splitBytes? size.value body with
          | none => none
          | some (name, rest) =>
              some ⟨String.ofList name, rest, by
                have hbody : body.length ≤ size.rest.length := by
                  simp only [body]
                  split <;> simp_all
                have := length_le_of_splitBytes? h
                have := size.rest_lt
                omega⟩

/-- A name as it is shown. Behind a `u` it is written in ASCII only. -/
def readShown? (text : List Char) : Option (Reading String text) :=
  match text with
  | 'u' :: text =>
      (readName? text).bind fun name =>
        (Punycode.shown? name.value.toList).map fun shown =>
          name.widen (fun _ => String.ofList shown) (Nat.le_succ _)
  | text => readName? text

/-- A name with its number. -/
structure Part where
  name : String
  ordinal : Nat

/-- A name, and the number in front of it. -/
def readPart? (text : List Char) : Option (Reading Part text) :=
  match h : readOrdinal? text with
  | none => none
  | some (ordinal, rest) =>
      (readShown? rest).map fun name =>
        name.widen (⟨·, ordinal⟩) (length_le_of_readOrdinal? h)

/-! ### Paths -/

/-- A crate as it is shown: its number follows in hexadecimal. -/
def Part.crate (part : Part) : String :=
  if part.ordinal = 0 then part.name
  else part.name ++ "[" ++ String.ofList (Nat.toDigits 16 part.ordinal) ++ "]"

/-- What the compiler made up, as it is shown. -/
def Part.generated (part : Part) (namespaceTag : Char) : String :=
  let kind :=
    match namespaceTag with
    | 'C' => "closure"
    | 'S' => "shim"
    | tag => String.singleton tag
  "\x7b" ++ kind ++ (if part.name.isEmpty then "" else ":" ++ part.name) ++ "#" ++
    part.ordinal.repr ++ "\x7d"

/-- A path continued by a name in a namespace. A name without characters does not show, unless the
compiler made it up. -/
def extend (path : List String) (namespaceTag : Char) (part : Part) : List String :=
  if namespaceTag.isUpper then path ++ [part.generated namespaceTag]
  else if part.name.isEmpty then path
  else path ++ [part.name]

/-- No path has more levels. -/
def maxLevels : Nat := 500

/-- Read a path of at most so many levels, as its shown parts from the crate inward. -/
def readPath? (levels : Nat) (text : List Char) : Option (List String × List Char) :=
  match levels, text with
  | _ + 1, 'C' :: text =>
      (readPart? text).map fun part => ([part.value.crate], part.rest)
  | levels + 1, 'N' :: namespaceTag :: text =>
      if namespaceTag.isAlpha then do
        let (path, rest) ← readPath? levels text
        let part ← readPart? rest
        return (extend path namespaceTag part.value, part.rest)
      else none
  | _, _ => none

/-- The text after a second path, which starts with a capital letter, or all of it. -/
def skipPath? (text : List Char) : Option (List Char) :=
  if text.head?.any Char.isUpper then (readPath? maxLevels text).map (·.2) else some text

/-- The shown form of the crate path at the front, and the text after it. -/
def read? : List Char → Option (String × List Char)
  | '_' :: 'R' :: body =>
      if isAscii body then do
        let (path, rest) ← readPath? maxLevels body
        return (qualifiedName path, ← skipPath? rest)
      else none
  | _ => none

end SymbolTrace.Foreign.CratePath
