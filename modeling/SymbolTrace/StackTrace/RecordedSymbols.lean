import SymbolTrace.StackTrace

/-!
# Recorded symbols

A resolver made from a list of symbols. An address belongs to the symbol with the greatest start
at or below it, provided that it lies within the symbol's size, where one is recorded.
-/

namespace SymbolTrace

/-- A symbol as it was recorded. -/
structure RecordedSymbol where
  start : Address
  /-- The number of bytes that belong to the symbol, if it is known. -/
  size : Option Nat
  modulePath : String
  name : String
  /-- The address given out as the start of the symbol. -/
  reported : Address
deriving DecidableEq, Repr

namespace RecordedSymbol

/-- Add a symbol; it takes the place of one with the same start. -/
def insert (symbol : RecordedSymbol) (symbols : List RecordedSymbol) : List RecordedSymbol :=
  symbol :: symbols.filter fun other => other.start ≠ symbol.start

/-- A list of symbols, later ones replacing earlier ones with the same start. -/
def table (symbols : List RecordedSymbol) : List RecordedSymbol :=
  symbols.foldl (fun table symbol => symbol.insert table) []

/-- The later of two symbols in the order of their starts. -/
def later (symbol : RecordedSymbol) : Option RecordedSymbol → RecordedSymbol
  | none => symbol
  | some other => if other.start.toNat ≤ symbol.start.toNat then symbol else other

/-- The symbol with the greatest start at or below an address. -/
def nearest? (symbols : List RecordedSymbol) (address : Address) : Option RecordedSymbol :=
  (symbols.filter fun symbol => symbol.start.toNat ≤ address.toNat).foldr
    (fun symbol best => some (symbol.later best)) none

/-- Does the address lie within the size of the symbol? -/
def covers (symbol : RecordedSymbol) (address : Address) : Bool :=
  match symbol.size with
  | none => true
  | some size => address.bytesAbove symbol.start < size

/-- The resolver of a list of recorded symbols. -/
def resolver (symbols : List RecordedSymbol) : Resolver := fun address => do
  let symbol ← nearest? symbols address
  if symbol.covers address then
    some ⟨.lent symbol.modulePath, .lent symbol.name, symbol.reported⟩
  else none

end RecordedSymbol

end SymbolTrace
