import SymbolTrace.Mangling.Declaration
import SymbolTrace.Mangling.Reading

/-!
# The grammar of linkage names

Which characters spell which tree, said without a reader. `Declaration.Spelled d w next` means
that the characters `w` spell the declaration `d` when `next` is the text behind them; the other
relations are of the same form. The text behind counts at three kinds of places, each of them
settled by its first character:

* a number is a whole run of digits, so no digit follows it;
* a sized integer goes without a width only if no digit follows;
* the result type and the closure mark of a signature are left out only if no `R`, or no `C`,
  follows.

The grammar puts no bound on the nesting of types or on the length of a pointer prefix.
`nesting` measures the one, `pointerCounts` lists the other.
-/

namespace SymbolTrace.Mangling

/-! ### Numbers and names -/

/-- Does the text start with a decimal digit? -/
def startsWithDigit (text : List Char) : Bool := text.head?.any Char.isDigit

@[simp] theorem startsWithDigit_nil : startsWithDigit [] = false := rfl

@[simp] theorem startsWithDigit_cons (c : Char) (text : List Char) :
    startsWithDigit (c :: text) = c.isDigit := rfl

/-- The digits spell a number below the bound, and the run of digits ends with them. -/
structure NumberSpelled (value : Nat) (digits next : List Char) : Prop where
  ne_nil : digits ≠ []
  isDigit : ∀ c ∈ digits, c.isDigit = true
  value_eq : Nat.ofDigitChars 10 digits 0 = value
  value_lt : value < numberBound
  maximal : startsWithDigit next = false

/-- A name is spelled by the number of its bytes and then itself. -/
inductive NameSpelled (name : String) : List Char → List Char → Prop
  | intro {size next : List Char} :
      NumberSpelled name.utf8ByteSize size (name.toList ++ next) →
      NameSpelled name (size ++ name.toList) next

/-! ### Types -/

/-- The pointer prefix: nothing, or one count between `P` and `T`. -/
inductive PointersSpelled : Option Nat → List Char → Prop
  | none : PointersSpelled none []
  | some {count : Nat} {digits : List Char} :
      NumberSpelled count digits ['T'] → PointersSpelled (some count) ('P' :: (digits ++ ['T']))

/-- The code of a builtin type. -/
inductive Builtin.Spelled : Builtin → List Char → List Char → Prop
  | int {next : List Char} : Spelled .int ['I'] next
  | unsized {next : List Char} :
      startsWithDigit next = false → Spelled (.sizedInt none) ['i'] next
  | sized {width : Nat} {digits next : List Char} :
      NumberSpelled width digits next → Spelled (.sizedInt (some width)) ('i' :: digits) next
  | float {next : List Char} : Spelled .float ['f'] next
  | double {next : List Char} : Spelled .double ['d'] next
  | float80 {next : List Char} : Spelled .float80 ['F'] next
  | bool {next : List Char} : Spelled .bool ['b'] next
  | void {next : List Char} : Spelled .void ['v'] next

mutual

/-- A type, with the prefix in front of it. -/
inductive TypeExpr.Spelled : TypeExpr → List Char → List Char → Prop
  | builtin {pointers : Option Nat} {stars : List Char} {code : Builtin} {w next : List Char} :
      PointersSpelled pointers stars → code.Spelled w next →
      Spelled (.builtin pointers code) (stars ++ 's' :: w) next
  | nominal {pointers : Option Nat} {stars : List Char} {name : String} {w next : List Char} :
      PointersSpelled pointers stars → NameSpelled name w next →
      Spelled (.nominal pointers name) (stars ++ w) next
  | tuple {pointers : Option Nat} {stars : List Char} {fields : List TypeExpr}
      {w next : List Char} :
      PointersSpelled pointers stars → TypeExpr.AllSpelled fields w ('T' :: next) →
      Spelled (.tuple pointers fields) (stars ++ 't' :: (w ++ ['T'])) next
  | function {pointers : Option Nat} {stars : List Char} {parameters : List TypeExpr}
      {result : TypeExpr} {w v next : List Char} :
      PointersSpelled pointers stars → TypeExpr.AllSpelled parameters w ('R' :: (v ++ next)) →
      Spelled result v next →
      Spelled (.function pointers parameters result) (stars ++ 'F' :: (w ++ 'R' :: v)) next

/-- Types one after the other. -/
inductive TypeExpr.AllSpelled : List TypeExpr → List Char → List Char → Prop
  | nil {next : List Char} : AllSpelled [] [] next
  | cons {type : TypeExpr} {types : List TypeExpr} {w v next : List Char} :
      TypeExpr.Spelled type w (v ++ next) → AllSpelled types v next →
      AllSpelled (type :: types) (w ++ v) next

end

/-! ### Arguments -/

/-- The label marker of an argument, with the label if it has one of its own. -/
inductive Label.Spelled : Label → List Char → List Char → Prop
  | omitted {next : List Char} : Spelled .omitted ['S'] next
  | external {name : String} {w next : List Char} :
      NameSpelled name w next → Spelled (.external name) ('E' :: w) next
  | placeholder {next : List Char} : Spelled .placeholder [] next

/-- Label marker, name and type. -/
inductive Argument.Spelled : Argument → List Char → List Char → Prop
  | intro {label : Label} {name : String} {type : TypeExpr} {l n w next : List Char} :
      label.Spelled l (n ++ (w ++ next)) → NameSpelled name n (w ++ next) → type.Spelled w next →
      Spelled ⟨label, name, type⟩ (l ++ (n ++ w)) next

/-- Arguments one after the other. -/
inductive Argument.AllSpelled : List Argument → List Char → List Char → Prop
  | nil {next : List Char} : AllSpelled [] [] next
  | cons {argument : Argument} {arguments : List Argument} {w v next : List Char} :
      argument.Spelled w (v ++ next) → AllSpelled arguments v next →
      AllSpelled (argument :: arguments) (w ++ v) next

/-! ### Declarations -/

/-- The result type, announced by `R`. -/
inductive ResultSpelled : Option TypeExpr → List Char → List Char → Prop
  | none {next : List Char} : next.head? ≠ some 'R' → ResultSpelled none [] next
  | some {type : TypeExpr} {w next : List Char} :
      type.Spelled w next → ResultSpelled (some type) ('R' :: w) next

/-- The mark of a closure wrapper. -/
inductive ClosureMarkSpelled : Bool → List Char → List Char → Prop
  | plain {next : List Char} : next.head? ≠ some 'C' → ClosureMarkSpelled false [] next
  | wrapper {next : List Char} : ClosureMarkSpelled true ['C'] next

/-- Arguments up to an underscore, and what may come after them. -/
inductive Signature.Spelled : Signature → List Char → List Char → Prop
  | intro {arguments : List Argument} {result : Option TypeExpr} {wrapper : Bool}
      {a r m next : List Char} :
      Argument.AllSpelled arguments a ('_' :: (r ++ (m ++ next))) →
      ResultSpelled result r (m ++ next) → ClosureMarkSpelled wrapper m next →
      Spelled ⟨arguments, result, wrapper⟩ (a ++ '_' :: (r ++ m)) next

/-- What is called. -/
inductive Callee.Spelled : Callee → List Char → List Char → Prop
  | free {name : String} {w next : List Char} :
      NameSpelled name w next → Spelled (.free name) w next
  | method {owner : TypeExpr} {name : String} {w n next : List Char} :
      owner.Spelled w (n ++ next) → NameSpelled name n next →
      Spelled (.method owner name) ('M' :: (w ++ n)) next
  | initializer {owner : TypeExpr} {w next : List Char} :
      owner.Spelled w next → Spelled (.initializer owner) ('I' :: w) next

/-- A declaration, from the marker after the sentinel on. -/
inductive Declaration.Spelled : Declaration → List Char → List Char → Prop
  | type {named : TypeExpr} {w next : List Char} :
      named.Spelled w next → Spelled (.type named) ('T' :: w) next
  | deinitializer {owner : TypeExpr} {w next : List Char} :
      owner.Spelled w next → Spelled (.deinitializer owner) ('F' :: 'D' :: w) next
  | function {callee : Callee} {signature : Signature} {w v next : List Char} :
      callee.Spelled w (v ++ next) → signature.Spelled v next →
      Spelled (.function callee signature) ('F' :: (w ++ v)) next

/-! ### Measures of a tree -/

mutual

/-- How many function and tuple types lie inside each other. -/
def TypeExpr.nesting : TypeExpr → Nat
  | .builtin _ _ => 0
  | .nominal _ _ => 0
  | .tuple _ fields => TypeExpr.nestingAll fields + 1
  | .function _ parameters result => max (TypeExpr.nestingAll parameters) result.nesting + 1

/-- The greatest nesting among several types. -/
def TypeExpr.nestingAll : List TypeExpr → Nat
  | [] => 0
  | type :: types => max type.nesting (TypeExpr.nestingAll types)

end

mutual

/-- The counts of all pointer prefixes, from left to right. -/
def TypeExpr.pointerCounts : TypeExpr → List Nat
  | .builtin pointers _ => pointers.toList
  | .nominal pointers _ => pointers.toList
  | .tuple pointers fields => pointers.toList ++ TypeExpr.pointerCountsAll fields
  | .function pointers parameters result =>
      pointers.toList ++ (TypeExpr.pointerCountsAll parameters ++ result.pointerCounts)

/-- The counts of all pointer prefixes of several types. -/
def TypeExpr.pointerCountsAll : List TypeExpr → List Nat
  | [] => []
  | type :: types => type.pointerCounts ++ TypeExpr.pointerCountsAll types

end

/-- The type that a callee belongs to, if it belongs to one. -/
def Callee.types : Callee → List TypeExpr
  | .free _ => []
  | .method owner _ => [owner]
  | .initializer owner => [owner]

/-- The types of the arguments and of the result. -/
def Signature.types (signature : Signature) : List TypeExpr :=
  signature.arguments.map Argument.type ++ signature.result.toList

/-- The types that a declaration mentions, without the types inside these. -/
def Declaration.types : Declaration → List TypeExpr
  | .type named => [named]
  | .deinitializer owner => [owner]
  | .function callee signature => callee.types ++ signature.types

/-- The greatest nesting among the types of a declaration. -/
def Declaration.nesting (d : Declaration) : Nat := TypeExpr.nestingAll d.types

/-- The counts of all pointer prefixes of a declaration. -/
def Declaration.pointerCounts (d : Declaration) : List Nat := TypeExpr.pointerCountsAll d.types

end SymbolTrace.Mangling
