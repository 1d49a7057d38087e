/-!
# Reasons a linkage name cannot be decoded

Decoding is all or nothing: a symbol either yields one declaration or fails with exactly one of
the causes below, the first one met when the symbol is read from left to right. Failure is
routine, since most names in a symbol table belong to other schemes, so the wording of a cause
is kept apart from the cause itself.
-/

namespace SymbolTrace.Mangling

/-- Why a linkage name could not be decoded. -/
inductive DecodeError where
  /-- A decimal number was expected and no digit stands there, or its value is too large. -/
  | malformedInteger
  /-- The text ends, or would cut a character, before the declaration is complete. -/
  | truncated
  /-- The character after a builtin marker names no builtin type. -/
  | unknownTypeMarker (marker : Char)
  /-- The sentinel, a declaration marker or the end of a pointer count is missing. -/
  | unrecognizedFormat
  /-- The symbol names a closure, which has no decoded form. -/
  | unsupported
  /-- A function or tuple type opens while `limit` of them are still open. -/
  | nestingTooDeep (limit : Nat)
deriving DecidableEq, Repr

/-- The sentence printed for a decoding failure. -/
def DecodeError.message : DecodeError → String
  | malformedInteger => "Malformed integer in mangled symbol"
  | truncated => "Mangled symbol is truncated"
  | unknownTypeMarker marker => "Unknown builtin type marker '" ++ String.singleton marker ++ "'"
  | unrecognizedFormat => "Not a recognized mangled symbol"
  | unsupported => "Closure symbols are not supported"
  | nestingTooDeep limit => "Type nesting exceeds " ++ limit.repr ++ " levels"

end SymbolTrace.Mangling
