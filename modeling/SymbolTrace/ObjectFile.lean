/-!
# Object files

What the rest of the library needs to know of an executable, a shared library or a relocatable
object: its segments, its sections and its symbols, whatever format they are stored in. An
`ObjectReader` produces such a report; everything else works from the report alone, and takes the
reader as a parameter.
-/

namespace SymbolTrace

/-- The container format of an object file. -/
inductive ObjectFormat where
  | elf
  | machO
  | coff
  | pe
  | xcoff
deriving DecidableEq, Repr

/-- A stretch of the file that is mapped as a whole. -/
structure Segment where
  /-- The name, in formats that name segments and where it is readable. -/
  name : Option String
  address : UInt64
  size : UInt64
deriving DecidableEq, Repr

/-- A part of a segment, or of a file that has no segments. -/
structure Section where
  address : UInt64
  size : UInt64
deriving DecidableEq, Repr

/-- An entry of a symbol table. -/
structure ObjectSymbol where
  /-- The name, where it can be read. -/
  name : Option String
  address : UInt64
  size : UInt64
  /-- Does this file define the symbol? -/
  isDefinition : Bool
  /-- Does the symbol name code? -/
  isText : Bool
deriving DecidableEq, Repr

/-- What is stored in an object file. -/
structure ObjectFile where
  format : ObjectFormat
  segments : List Segment
  sections : List Section
  /-- The symbols of the static table, in file order. -/
  staticSymbols : List ObjectSymbol
  /-- The symbols of the dynamic table, in file order. -/
  dynamicSymbols : List ObjectSymbol
deriving DecidableEq, Repr

/-- All symbols, the static ones first. -/
def ObjectFile.symbols (file : ObjectFile) : List ObjectSymbol :=
  file.staticSymbols ++ file.dynamicSymbols

/-- A reader of object files: its report on the contents of a file or, in its own words, why they
are not those of an object file. -/
abbrev ObjectReader := ByteArray → Except String ObjectFile

end SymbolTrace
