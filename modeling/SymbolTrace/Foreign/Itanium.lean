import SymbolTrace.Foreign.NestedName

/-!
# Itanium names

The C++ scheme: `_Z`, then one name or `N`, parts and `E`, then the codes of the parameter types.
No codes at all stand for a variable, and the single code `v` for an empty parameter list. Of the
types, those with a single letter as their code are known. So `_ZN3foo3barEib` is
`foo::bar(int, bool)`.

A length is written without leading zeros. Some names are made up by compilers for a namespace
that the program left without one. Names with too many parts are not shown.

Compilers copy functions, and name a copy by words after dots, the first of which is a name and
the others numbers: `_Z3foov.isra.0` is `foo() [clone .isra.0]`. A copy may be copied again.
-/

namespace SymbolTrace.Foreign.Itanium

open Mangling

/-- May the character stand in a name? -/
def isNameChar (c : Char) : Bool :=
  c.isAlphanum || c == '_' || c == '$' || c == '.'

/-- Is the text a name of the scheme: not empty, and of name characters only? -/
def isName (name : String) : Bool :=
  !name.isEmpty && name.toList.all isNameChar

/-- A name after its length. -/
def readPart? : PartReader := fun text =>
  if text.head? = some '0' then none
  else (readName text).toOption.filter fun part => isName part.value

/-- The parts of the name at the front, and the text after it. -/
def readQualified? : List Char → Option (List String × List Char)
  | 'N' :: text => readParts? readPart? text
  | text => (readPart? text).map fun part => ([part.value], part.rest)

/-- Does the name stand for a namespace without a name? -/
def isUnnamed (name : String) : Bool :=
  ["_GLOBAL__N", "_GLOBAL_.N", "_GLOBAL_$N"].any fun start =>
    start.toList.isPrefixOf name.toList

/-- A part of a name as it is shown. -/
def shownPart (name : String) : String :=
  if isUnnamed name then "(anonymous namespace)" else name

/-- The type that a parameter code stands for. -/
def parameterType? : Char → Option String
  | 'v' => some "void"
  | 'w' => some "wchar_t"
  | 'b' => some "bool"
  | 'c' => some "char"
  | 'a' => some "signed char"
  | 'h' => some "unsigned char"
  | 's' => some "short"
  | 't' => some "unsigned short"
  | 'i' => some "int"
  | 'j' => some "unsigned int"
  | 'l' => some "long"
  | 'm' => some "unsigned long"
  | 'x' => some "long long"
  | 'y' => some "unsigned long long"
  | 'n' => some "__int128"
  | 'o' => some "unsigned __int128"
  | 'f' => some "float"
  | 'd' => some "double"
  | 'e' => some "long double"
  | 'g' => some "__float128"
  | 'z' => some "..."
  | _ => none

/-- The parameter list that codes stand for, in parentheses; nothing for no codes. -/
def parameterList? : List Char → Option String
  | [] => some ""
  | ['v'] => some "()"
  | codes => (codes.mapM parameterType?).map fun types => "(" ++ ", ".intercalate types ++ ")"

/-! ### Copies -/

/-- May the character stand in the name of a copy? -/
def isCopyChar (c : Char) : Bool :=
  c.isAlphanum || c == '_' || c == '$'

/-- Numbers of copies are below this one: they fit signed words. -/
def copyBound : Nat := UInt64.size / 2

/-- Are the digits the number of a copy? It has no leading zeros. -/
def isCopyNumber (digits : List Char) : Bool :=
  match digits with
  | [] => false
  | ['0'] => true
  | '0' :: _ => false
  | digits => Nat.ofDigitChars 10 digits 0 < copyBound

/-- What is shown for words that follow the name of a copy. A word that starts like a number must
be one, and any other names a further copy. -/
def shownCopyWords? : List (List Char) → Option String
  | [] => some "]"
  | word :: words =>
      if word.isEmpty || !word.all isCopyChar then none
      else if isCopyNumber (word.takeWhile Char.isDigit) then
        if word.all Char.isDigit then
          (shownCopyWords? words).map ("." ++ String.ofList word ++ ·)
        else none
      else (shownCopyWords? words).map ("] [clone ." ++ String.ofList word ++ ·)

/-- What is shown for the copies that a text names: each in brackets. -/
def shownCopies? (text : List Char) : Option String :=
  match text.splitOn '.' with
  | [[]] => some ""
  | [] :: word :: words =>
      if word.isEmpty || !word.all isCopyChar then none
      else (shownCopyWords? words).map (" [clone ." ++ String.ofList word ++ ·)
  | _ => none

/-! ### Whole names -/

/-- No name that is shown has more parts. -/
def maxParts : Nat := 121

/-- The shown form of an Itanium name. -/
def demangle? (raw : String) : Option String :=
  match raw.toList with
  | '_' :: 'Z' :: body => do
      let (parts, rest) ← readQualified? body
      if parts.isEmpty || maxParts < parts.length then none
      else
        let parameters ← parameterList? (rest.takeWhile (· ≠ '.'))
        let copies ← shownCopies? (rest.dropWhile (· ≠ '.'))
        return qualifiedName (parts.map shownPart) ++ parameters ++ copies
  | _ => none

end SymbolTrace.Foreign.Itanium
