/-!
# Sets of characters

A set of characters is given by ranges of their codes.
-/

namespace SymbolTrace.Text

/-- The characters with codes in some ranges, each given by its first and its last code. -/
abbrev CharSet := List (Nat × Nat)

/-- Does the character belong to the set? -/
def CharSet.has (set : CharSet) (c : Char) : Bool :=
  set.any fun (first, last) => first ≤ c.toNat && c.toNat ≤ last

end SymbolTrace.Text
