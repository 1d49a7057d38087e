import SymbolTrace.Mangling.Declaration
import SymbolTrace.Mangling.Reading

/-!
# Decoding linkage names

A symbol is read once from left to right, each step decided by the next character. After the
sentinel comes

* `T` and a type, or
* `F` and a function: `D` and the owner of a deinitializer; or `M`, owner and name of a method;
  or `I` and the owner of an initializer; or the name of a free function; then, except for a
  deinitializer, arguments up to `_`, an optional `R` and result type, and an optional `C`.

A type is an optional pointer prefix `P`, count, `T`, and then `F`, parameter types up to `R` and
a result type; or `t` and field types up to `T`; or `s` and the code of a builtin type; or a
name. An argument is an optional `S`, or `E` and a label, and then a name and a type. Text after
the declaration is ignored.

Function and tuple types may nest. The readers take the number of them that are still open and a
limit, and refuse to open one more than the limit allows; with no limit they read any nesting.
Each reader is total because it recurses on unread text that its `Reading` shows to be shorter.
How many pointer markers there is room for depends on the machine, which answers as an `Allocator`.

## Main definitions

* `Allocator`: what there is room for.
* `TypeExpr.read`, `Argument.read`, `Declaration.read`: the readers.
* `decode`: the declaration that a symbol stands for, nesting at most `maxNesting`.
* `demangled`: what is reported of it, and `demangle`: its shown form.
-/

namespace SymbolTrace.Mangling

/-- The most function and tuple types that may be open at one place. -/
def maxNesting : Nat := 64

/-- What there is room for in memory. A shown form is about as long as its symbol, but for the runs
of pointer markers, whose lengths are numbers in the symbol; so only these may be refused. -/
class Allocator where
  /-- Is there room for a run of so many pointer markers? -/
  holdsRun : Nat → Bool
  /-- There is no room for what a word cannot count. -/
  lt_numberBound : ∀ {count : Nat}, holdsRun count = true → count < numberBound

/-- Room for every run that a word can count. -/
@[reducible]
def Allocator.unlimited : Allocator where
  holdsRun count := count < numberBound
  lt_numberBound h := of_decide_eq_true h

variable [Allocator]

/-- May one more function or tuple type be opened inside `depth` open ones? -/
def checkNesting (limit : Option Nat) (depth : Nat) : Except DecodeError Unit :=
  match limit with
  | none => .ok ()
  | some limit => if depth < limit then .ok () else .error (.nestingTooDeep limit)

/-! ### Types -/

/-- The width after the marker of a sized integer: a number, if a digit follows. -/
def readWidth (text : List Char) :
    Except DecodeError { width : Option Nat × List Char // width.2.length ≤ text.length } :=
  match text with
  | [] => .ok ⟨(none, []), Nat.le_refl _⟩
  | c :: cs =>
      if c.isDigit then do
        let width ← readNumber (c :: cs)
        return ⟨(some width.value, width.rest), Nat.le_of_lt width.rest_lt⟩
      else
        .ok ⟨(none, c :: cs), Nat.le_refl _⟩

/-- The code of a builtin type. -/
def Builtin.read (text : List Char) : Except DecodeError (Reading Builtin text) :=
  match text with
  | [] => .error .truncated
  | 'i' :: rest => do
      let width ← readWidth rest
      return ⟨.sizedInt width.val.1, width.val.2, Nat.lt_succ_of_le width.property⟩
  | 'I' :: _ => .ok (.single .int)
  | 'f' :: _ => .ok (.single .float)
  | 'd' :: _ => .ok (.single .double)
  | 'F' :: _ => .ok (.single .float80)
  | 'b' :: _ => .ok (.single .bool)
  | 'v' :: _ => .ok (.single .void)
  | marker :: _ => .error (.unknownTypeMarker marker)

/-- A pointer count and the `T` that closes it, after the `P`. The count is judged last. -/
def readPointerCount (text : List Char) : Except DecodeError (Reading Nat text) := do
  let count ← readNumber text
  match h : count.rest with
  | [] => .error .truncated
  | 'T' :: rest =>
      if Allocator.holdsRun count.value then
        .ok ⟨count.value, rest, by have := count.rest_lt; simp [h] at this; omega⟩
      else
        .error .malformedInteger
  | _ :: _ => .error .unrecognizedFormat

mutual

/-- One type, with its pointer prefix if it has one. -/
def TypeExpr.read (limit : Option Nat) (depth : Nat) (text : List Char) :
    Except DecodeError (Reading TypeExpr text) :=
  match text with
  | 'P' :: text => do
      let count ← readPointerCount text
      let type ← TypeExpr.readForm limit depth (some count.value) count.rest
      return type.widen id (by have := count.rest_lt; simp; omega)
  | text => TypeExpr.readForm limit depth none text
termination_by (text.length, 1)
decreasing_by
  · exact Prod.Lex.left _ _ (Nat.lt_succ_of_lt count.rest_lt)
  · exact Prod.Lex.right _ Nat.zero_lt_one

/-- What follows the pointer prefix of a type: a function type, a tuple, a builtin or a name. -/
def TypeExpr.readForm (limit : Option Nat) (depth : Nat) (pointers : Option Nat)
    (text : List Char) : Except DecodeError (Reading TypeExpr text) :=
  match text with
  | [] => .error .truncated
  | 'F' :: text => do
      checkNesting limit depth
      let parameters ← TypeExpr.readUntil limit (depth + 1) 'R' text
      let result ← TypeExpr.read limit (depth + 1) parameters.rest
      return result.widen (.function pointers parameters.value)
        (Nat.le_succ_of_le (Nat.le_of_lt parameters.rest_lt))
  | 't' :: text => do
      checkNesting limit depth
      let fields ← TypeExpr.readUntil limit (depth + 1) 'T' text
      return fields.widen (.tuple pointers) (Nat.le_succ _)
  | 's' :: text => do
      let code ← Builtin.read text
      return code.widen (.builtin pointers) (Nat.le_succ _)
  | text => do
      let name ← readName text
      return name.widen (.nominal pointers) (Nat.le_refl _)
termination_by (text.length, 0)
decreasing_by
  · exact Prod.Lex.left _ _ (Nat.lt_succ_self _)
  · exact Prod.Lex.left _ _ (Nat.lt_succ_of_lt parameters.rest_lt)
  · exact Prod.Lex.left _ _ (Nat.lt_succ_self _)

/-- Types up to a terminating character, which is taken too. -/
def TypeExpr.readUntil (limit : Option Nat) (depth : Nat) (terminator : Char)
    (text : List Char) : Except DecodeError (Reading (List TypeExpr) text) :=
  match text with
  | [] => .error .truncated
  | c :: rest =>
      if c = terminator then
        .ok (.single [])
      else do
        let type ← TypeExpr.read limit depth (c :: rest)
        let types ← TypeExpr.readUntil limit depth terminator type.rest
        return types.widen (type.value :: ·) (Nat.le_of_lt type.rest_lt)
termination_by (text.length, 2)
decreasing_by
  · exact Prod.Lex.right _ (Nat.lt_succ_self 1)
  · exact Prod.Lex.left _ _ type.rest_lt

end

/-! ### Arguments -/

/-- The label marker of an argument: `S`, `E` and a label, or nothing. -/
def Label.read (text : List Char) :
    Except DecodeError { label : Label × List Char // label.2.length ≤ text.length } :=
  match text with
  | [] => .error .truncated
  | 'S' :: rest => .ok ⟨(.omitted, rest), Nat.le_succ _⟩
  | 'E' :: rest => do
      let name ← readName rest
      return ⟨(.external name.value, name.rest), Nat.le_succ_of_le (Nat.le_of_lt name.rest_lt)⟩
  | rest => .ok ⟨(.placeholder, rest), Nat.le_refl _⟩

/-- One argument: label marker, name and type. -/
def Argument.read (limit : Option Nat) (text : List Char) :
    Except DecodeError (Reading Argument text) := do
  let ⟨(label, rest), h⟩ ← Label.read text
  let name ← readName rest
  let type ← TypeExpr.read limit 0 name.rest
  return type.widen (Argument.mk label name.value)
    (Nat.le_trans (Nat.le_of_lt name.rest_lt) h)

/-- Arguments up to the underscore that ends them, which is taken too. -/
def Argument.readAll (limit : Option Nat) (text : List Char) :
    Except DecodeError (Reading (List Argument) text) :=
  match text with
  | [] => .error .truncated
  | '_' :: _ => .ok (.single [])
  | text => do
      let argument ← Argument.read limit text
      let arguments ← Argument.readAll limit argument.rest
      return arguments.widen (argument.value :: ·) (Nat.le_of_lt argument.rest_lt)
termination_by text.length
decreasing_by exact argument.rest_lt

/-! ### Declarations -/

/-- The result type, if an `R` announces one. -/
def readResult (limit : Option Nat) (text : List Char) :
    Except DecodeError { result : Option TypeExpr × List Char // result.2.length ≤ text.length } :=
  match text with
  | 'R' :: text => do
      let type ← TypeExpr.read limit 0 text
      return ⟨(some type.value, type.rest), Nat.le_succ_of_le (Nat.le_of_lt type.rest_lt)⟩
  | text => .ok ⟨(none, text), Nat.le_refl _⟩

/-- The mark of a closure wrapper, if it is there, and the text after it. -/
def splitClosureMark : List Char → Bool × List Char
  | 'C' :: rest => (true, rest)
  | rest => (false, rest)

omit [Allocator] in
/-- The mark takes one character or nothing. -/
theorem length_splitClosureMark_le (text : List Char) :
    (splitClosureMark text).2.length ≤ text.length := by
  unfold splitClosureMark
  split <;> simp

/-- Arguments, result and closure mark. -/
def Signature.read (limit : Option Nat) (text : List Char) :
    Except DecodeError (Reading Signature text) := do
  let arguments ← Argument.readAll limit text
  let ⟨(result, rest), h⟩ ← readResult limit arguments.rest
  return {
    value := ⟨arguments.value, result, (splitClosureMark rest).1⟩
    rest := (splitClosureMark rest).2
    rest_lt := Nat.lt_of_le_of_lt (Nat.le_trans (length_splitClosureMark_le rest) h)
      arguments.rest_lt }

/-- What is called: owner and name of a method, owner of an initializer, or a name. -/
def Callee.read (limit : Option Nat) (text : List Char) :
    Except DecodeError (Reading Callee text) :=
  match text with
  | 'M' :: text => do
      let owner ← TypeExpr.read limit 0 text
      let name ← readName owner.rest
      return name.widen (.method owner.value) (Nat.le_succ_of_le (Nat.le_of_lt owner.rest_lt))
  | 'I' :: text => do
      let owner ← TypeExpr.read limit 0 text
      return owner.widen .initializer (Nat.le_succ _)
  | text => do
      let name ← readName text
      return name.widen .free (Nat.le_refl _)

/-- What follows the marker of a function: a deinitializer's owner, or callee and signature. -/
def Declaration.readFunctionBody (limit : Option Nat) (text : List Char) :
    Except DecodeError (Reading Declaration text) :=
  match text with
  | 'D' :: text => do
      let owner ← TypeExpr.read limit 0 text
      return owner.widen .deinitializer (Nat.le_succ _)
  | text => do
      let callee ← Callee.read limit text
      let signature ← Signature.read limit callee.rest
      return signature.widen (.function callee.value) (Nat.le_of_lt callee.rest_lt)

/-- A declaration, from the marker after the sentinel on. -/
def Declaration.read (limit : Option Nat) (text : List Char) :
    Except DecodeError (Reading Declaration text) :=
  match text with
  | 'T' :: text => do
      let type ← TypeExpr.read limit 0 text
      return type.widen .type (Nat.le_succ _)
  | 'C' :: _ => .error .unsupported
  | 'F' :: text => do
      let function ← Declaration.readFunctionBody limit text
      return function.widen id (Nat.le_succ _)
  | _ => .error .unrecognizedFormat

/-- The declaration that a symbol stands for, under a given nesting limit. -/
def decodeWithin (limit : Option Nat) (symbol : String) : Except DecodeError Declaration :=
  match afterSentinel? symbol.toList with
  | none => .error .unrecognizedFormat
  | some body => do
      let declaration ← Declaration.read limit body
      return declaration.value

/-- The declaration that a symbol stands for. -/
def decode (symbol : String) : Except DecodeError Declaration :=
  decodeWithin (some maxNesting) symbol

/-- What is reported of a decoded symbol. -/
structure Demangled where
  kind : Kind
  /-- The shown form. -/
  text : String
  /-- Is the symbol the closure wrapper made for a function? -/
  closureWrapper : Bool
deriving DecidableEq, Repr

/-- What is reported of a declaration. -/
def Declaration.demangled (declaration : Declaration) : Demangled where
  kind := declaration.kind
  text := declaration.text
  closureWrapper := declaration.isClosureWrapper

/-- What is reported of a symbol. -/
def demangled (symbol : String) : Except DecodeError Demangled := do
  let declaration ← decode symbol
  return declaration.demangled

/-- The shown form of what a symbol declares. -/
def demangle (symbol : String) : Except DecodeError String := do
  let declaration ← decode symbol
  return declaration.text

end SymbolTrace.Mangling
