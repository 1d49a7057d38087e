import SymbolTrace.Foreign.CratePath
import SymbolTrace.Foreign.HashedPath

/-!
# Rust names

A Rust name is a hashed path or a crate path. Compilers may append words to it, each after a dot;
these are shown as they are, save the mark of code that was moved between modules, which is left
out: `_RC1a.llvm.07` is `a`, and `_RC1a.cold` is `a.cold`.
-/

namespace SymbolTrace.Foreign.RustName

/-- What starts the mark of moved code. -/
def moveMark : List Char := ".llvm.".toList

/-- May the character stand behind the mark of moved code? -/
def isMoveDigit (c : Char) : Bool :=
  c.isDigit || ('A' ≤ c && c ≤ 'F') || c == '@'

/-- A text without the mark of moved code at its end. The first mark is the one that counts. -/
def withoutMove : List Char → List Char
  | [] => []
  | c :: rest =>
      if moveMark.isPrefixOf (c :: rest) then
        if ((c :: rest).drop moveMark.length).all isMoveDigit then [] else c :: rest
      else c :: withoutMove rest

/-- Is the text made of words after dots? -/
def isAppendix (text : List Char) : Bool :=
  match text with
  | [] => true
  | c :: _ => c == '.' && text.all fun c => 0x21 ≤ c.toNat && c.toNat ≤ 0x7E

/-- The shown form of a Rust name. -/
def demangle? (raw : String) : Option String :=
  let text := withoutMove raw.toList
  match (HashedPath.read? text).or (CratePath.read? text) with
  | some (shown, rest) => if isAppendix rest then some (shown ++ String.ofList rest) else none
  | none => none

end SymbolTrace.Foreign.RustName
