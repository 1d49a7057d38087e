import SymbolTrace.HandedText
import SymbolTrace.Mangling.Decode

/-!
# Naming a symbol

Every linkage name gets some text to be shown: its decoded form if the scheme of this library
understands it, else the answer of a secondary demangler, else the name as it is. In the last case
the text is lent from the name, and this is how a name that nothing understands is told from one
that a demangler answers with itself. The secondary demangler is a parameter throughout.

`Language.ofSymbol` guesses from the shape of a name which scheme it belongs to, whether or not
the name decodes.
-/

namespace SymbolTrace

/-- A demangler for the schemes of other toolchains: the shown form of a raw name, if it
understands the name. -/
abbrev SecondaryDemangler := String → Option String

/-! ### Languages -/

/-- The mangling scheme a name has the shape of. -/
inductive Language where
  | w
  | rust
  | cpp
  | unknown
deriving DecidableEq, Repr

/-- The printed name of a language. -/
def Language.label : Language → String
  | w => "w"
  | rust => "rust"
  | cpp => "c++"
  | unknown => "unknown"

/-- Does the first text occur somewhere inside the second? -/
def occursIn (needle : List Char) : List Char → Bool
  | [] => needle.isEmpty
  | c :: rest => needle.isPrefixOf (c :: rest) || occursIn needle rest

/-- The shape of a Rust name: a crate path, or a nested name whose last part is a hash. -/
def isRustShaped (raw : String) : Bool :=
  let text := raw.toList
  ['_', 'R'].isPrefixOf text ||
    (['_', 'Z', 'N'].isPrefixOf text && occursIn ['1', '7', 'h'] text && text.getLast? == some 'E')

/-- The shape of an Itanium name. -/
def isItaniumShaped (raw : String) : Bool :=
  ['_', 'Z'].isPrefixOf raw.toList

/-- The language that the shape of a name points to. -/
def Language.ofSymbol (raw : String) : Language :=
  if Mangling.isMangled raw then .w
  else if isRustShaped raw then .rust
  else if isItaniumShaped raw then .cpp
  else .unknown

/-! ### Secondary demanglers -/

/-- Two demanglers, for Rust names and then for Itanium names, each asked only about names of its
shape. -/
def shapedDemangler (rust itanium : SecondaryDemangler) : SecondaryDemangler := fun raw =>
  (if isRustShaped raw then rust raw else none).or
    (if isItaniumShaped raw then itanium raw else none)

/-! ### Names -/

variable [Mangling.Allocator]

/-- The decoded form of a name, else the secondary demangler's answer, else the name. -/
def renderName (secondary : SecondaryDemangler) (raw : String) : HandedText :=
  match Mangling.demangle raw with
  | .ok text => .owned text
  | .error _ =>
      match secondary raw with
      | some text => .owned text
      | none => .lent raw

/-- The text shown for a name. -/
def shownName (secondary : SecondaryDemangler) (raw : String) : String :=
  (renderName secondary raw).text

/-- A linkage name with what is known about it. -/
structure NamedSymbol where
  raw : String
  demangled : Option String
  language : Language
deriving DecidableEq, Repr

/-- What is known about a linkage name under a secondary demangler. -/
def NamedSymbol.ofRaw (secondary : SecondaryDemangler) (raw : String) : NamedSymbol where
  raw := raw
  demangled := (renderName secondary raw).made?
  language := Language.ofSymbol raw

/-- The demangled text, or the raw name if there is none. -/
def NamedSymbol.shown (name : NamedSymbol) : String :=
  name.demangled.getD name.raw

instance : ToString NamedSymbol := ⟨NamedSymbol.shown⟩

end SymbolTrace
