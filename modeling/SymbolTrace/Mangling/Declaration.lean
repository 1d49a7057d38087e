import SymbolTrace.Mangling.TypeExpr

/-!
# Declarations

What a decodable linkage name declares: a type, a deinitializer, or a function with a signature.
`Declaration.text` is the form shown to people, such as `Foo.bar(_ x: Int) -> Bool`, and
`Declaration.kind` says which sort of declaration it is.

`Kind.ofSymbol?` recognises the kind from the markers at the front of a symbol alone.
It also knows closures, which have a marker but no decoded form.
-/

namespace SymbolTrace.Mangling

/-- The characters every symbol of the scheme starts with. -/
def sentinel : List Char := ['_', 'W']

/-- The text after the sentinel, if the text starts with it. -/
def afterSentinel? : List Char → Option (List Char)
  | '_' :: 'W' :: body => some body
  | _ => none

/-- What is behind the sentinel is the rest of the text. -/
theorem afterSentinel?_eq_some_iff {text body : List Char} :
    afterSentinel? text = some body ↔ text = sentinel ++ body := by
  constructor
  · intro h
    unfold afterSentinel? at h
    split at h
    · cases h
      rfl
    · cases h
  · rintro rfl
    rfl

/-- Does the symbol carry the sentinel? -/
def isMangled (symbol : String) : Bool :=
  (afterSentinel? symbol.toList).isSome

/-! ### Kinds -/

/-- Which sort of function a symbol names. -/
inductive FunctionForm where
  | free
  | method
  | initializer
  | deinitializer
deriving DecidableEq, Repr

/-- What a symbol declares. -/
inductive Kind where
  | type
  | function (kind : FunctionForm)
  | closure
deriving DecidableEq, Repr

/-- The one-word label of a kind. -/
def Kind.label : Kind → String
  | type => "type"
  | function .free => "function"
  | function .method => "method"
  | function .initializer => "initializer"
  | function .deinitializer => "deinitializer"
  | closure => "closure"

/-- The kind announced by the markers at the start of a symbol's body. -/
def Kind.ofBody? : List Char → Option Kind
  | 'T' :: _ => some .type
  | 'C' :: _ => some .closure
  | 'F' :: 'D' :: _ => some (.function .deinitializer)
  | 'F' :: 'M' :: _ => some (.function .method)
  | 'F' :: 'I' :: _ => some (.function .initializer)
  | 'F' :: _ => some (.function .free)
  | _ => none

/-- The kind announced by a symbol's markers; nothing after them is looked at. -/
def Kind.ofSymbol? (symbol : String) : Option Kind := do
  let body ← afterSentinel? symbol.toList
  ofBody? body

/-! ### Trees -/

/-- The label an argument has at the call site. -/
inductive Label where
  /-- The argument's own name serves as its label, and nothing extra is shown. -/
  | omitted
  /-- A label of its own. -/
  | external (name : String)
  /-- No label: an underscore is shown in its place. -/
  | placeholder
deriving DecidableEq, Repr

/-- A labelled parameter. -/
structure Argument where
  label : Label
  name : String
  type : TypeExpr
deriving Repr

/-- What is called: a free function, a method of a type, or an initializer of a type. -/
inductive Callee where
  | free (name : String)
  | method (owner : TypeExpr) (name : String)
  | initializer (owner : TypeExpr)
deriving Repr

/-- Arguments, the result type if one is written, and whether the symbol names the closure
wrapper made for the function. -/
structure Signature where
  arguments : List Argument
  result : Option TypeExpr
  closureWrapper : Bool
deriving Repr

/-- A decoded symbol. -/
inductive Declaration where
  | type (named : TypeExpr)
  | deinitializer (owner : TypeExpr)
  | function (callee : Callee) (signature : Signature)
deriving Repr

/-- The kind of function that a callee is. -/
def Callee.kind : Callee → FunctionForm
  | free _ => .free
  | method _ _ => .method
  | initializer _ => .initializer

/-- What the symbol declares. -/
def Declaration.kind : Declaration → Kind
  | type _ => .type
  | deinitializer _ => .function .deinitializer
  | function callee _ => .function callee.kind

/-- Is the symbol the closure wrapper made for a function? -/
def Declaration.isClosureWrapper : Declaration → Bool
  | function _ signature => signature.closureWrapper
  | _ => false

/-! ### Shown forms -/

/-- What is shown in front of an argument's name. -/
def Label.text : Label → String
  | omitted => ""
  | external name => name ++ " "
  | placeholder => "_ "

/-- An argument with its label, name and type. -/
def Argument.text (argument : Argument) : String :=
  argument.label.text ++ argument.name ++ ": " ++ argument.type.text

/-- The qualified name of what is called. -/
def Callee.text : Callee → String
  | free name => name
  | method owner name => owner.text ++ "." ++ name
  | initializer owner => owner.text ++ ".init"

/-- Nothing, or the arrow and the result type. -/
def resultText : Option TypeExpr → String
  | none => ""
  | some type => arrow ++ type.text

/-- The remark that ends the shown form of a closure wrapper. -/
def closureRemark : String := " (closure #1)"

/-- The arguments, the result and the closure remark. -/
def Signature.text (signature : Signature) : String :=
  parenthesized (signature.arguments.map Argument.text) ++ resultText signature.result ++
    (if signature.closureWrapper then closureRemark else "")

/-- A declaration as it is shown to people. -/
def Declaration.text : Declaration → String
  | type named => named.text
  | deinitializer owner => owner.text ++ ".deinit"
  | function callee signature => callee.text ++ signature.text

end SymbolTrace.Mangling
