/-!
# Type expressions

The types a linkage name can spell: builtin and nominal types, tuples and function types. Each
may carry one pointer prefix, written in front of it. A prefix is a count of markers, so it is
kept with the type it decorates and never nests; a count of zero is still a written prefix.

`TypeExpr.text` is the form shown to people, for instance `(Int, *Foo) -> Bool`.
-/

namespace SymbolTrace.Mangling

/-- The builtin types. `sizedInt` is spelled with its own marker and may carry a width. -/
inductive Builtin where
  | int
  | sizedInt (width : Option Nat)
  | float
  | double
  | float80
  | bool
  | void
deriving DecidableEq, Repr

/-- The name a builtin type is shown under. A width is shown without leading zeros. -/
def Builtin.text : Builtin → String
  | int => "Int"
  | sizedInt none => "Int"
  | sizedInt (some width) => "Int" ++ width.repr
  | float => "Float"
  | double => "Double"
  | float80 => "Float80"
  | bool => "Bool"
  | void => "Void"

/-- A type as a linkage name spells it. `pointers` is the count of the pointer prefix in front of
the type, if one is written. -/
inductive TypeExpr where
  | builtin (pointers : Option Nat) (code : Builtin)
  | nominal (pointers : Option Nat) (name : String)
  | tuple (pointers : Option Nat) (fields : List TypeExpr)
  | function (pointers : Option Nat) (parameters : List TypeExpr) (result : TypeExpr)
deriving Repr

/-- One marker for each pointer of the prefix. -/
def pointerText (pointers : Option Nat) : String :=
  String.ofList (List.replicate (pointers.getD 0) '*')

/-- Items separated by a comma and a blank. -/
def commaSeparated : List String → String
  | [] => ""
  | [item] => item
  | item :: items => item ++ ", " ++ commaSeparated items

/-- Items in parentheses, separated by commas. -/
def parenthesized (items : List String) : String :=
  "(" ++ commaSeparated items ++ ")"

/-- What stands between the parameters of a function and its result. -/
def arrow : String := " -> "

mutual

/-- A type as it is shown to people. -/
def TypeExpr.text : TypeExpr → String
  | .builtin pointers code => pointerText pointers ++ code.text
  | .nominal pointers name => pointerText pointers ++ name
  | .tuple pointers fields => pointerText pointers ++ parenthesized (TypeExpr.texts fields)
  | .function pointers parameters result =>
      pointerText pointers ++ parenthesized (TypeExpr.texts parameters) ++ arrow ++ result.text

/-- The shown forms of several types, in order. -/
def TypeExpr.texts : List TypeExpr → List String
  | [] => []
  | type :: types => type.text :: TypeExpr.texts types

end

end SymbolTrace.Mangling
