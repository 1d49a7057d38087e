import SymbolTrace.Address
import SymbolTrace.ObjectFile

/-!
# Loaded images

An object file mapped into memory. The mapped part of the file runs from the lowest to the highest
address of its segments; a file that has no segments to speak of is taken by its sections. At run
time that part starts at the load address, and the slide is what has to be added to an address of
the file to get the address at run time. The slide is a signed 64-bit word, so it wraps around
when the two lie more than half the address space apart.

The table of an image holds the code symbols its file defines, in the order of their addresses
and then of their names, byte by byte, without repetitions.

## Main definitions

* `ObjectFile.extent?`: the mapped part of a file.
* `ObjectFile.symbolTable`: the code symbols of a file.
* `Image.map?`: a file mapped at a load address, or where it asks to be.
* `Image.toFile?`, `Image.toRuntime?`: addresses of the file and at run time.
* `Image.nearest?`: the last symbol of the table at or below an address.
-/

namespace SymbolTrace

/-! ### Ranges -/

/-- The sum of two words, or the greatest word if the sum is greater. -/
def saturatingAdd (a b : UInt64) : UInt64 :=
  UInt64.ofNat (min (a.toNat + b.toNat) (UInt64.size - 1))

/-- The sum, or the greatest word. -/
theorem toNat_saturatingAdd (a b : UInt64) :
    (saturatingAdd a b).toNat = min (a.toNat + b.toNat) (UInt64.size - 1) := by
  rw [saturatingAdd, UInt64.toNat_ofNat']
  exact Nat.mod_eq_of_lt (Nat.lt_of_le_of_lt (Nat.min_le_right _ _) (by decide))

/-- Addresses from `start` up to, but without, `stop`. -/
structure AddressRange where
  start : UInt64
  stop : UInt64
  start_le_stop : start.toNat ≤ stop.toNat
deriving DecidableEq, Repr

namespace AddressRange

/-- The range of a number of bytes, cut off at the greatest address. -/
def ofSize (start size : UInt64) : AddressRange where
  start := start
  stop := saturatingAdd start size
  start_le_stop := by
    rw [toNat_saturatingAdd]
    exact Nat.le_min.2 ⟨Nat.le_add_right _ _, Nat.le_pred_of_lt start.toNat_lt⟩

/-- The number of bytes of a range. -/
def size (range : AddressRange) : UInt64 := range.stop - range.start

/-- The smallest range that covers both. -/
def hull (a b : AddressRange) : AddressRange where
  start := if a.start.toNat ≤ b.start.toNat then a.start else b.start
  stop := if a.stop.toNat ≤ b.stop.toNat then b.stop else a.stop
  start_le_stop := by
    have := a.start_le_stop
    have := b.start_le_stop
    split <;> split <;> omega

/-- The smallest range that covers all, if there are any. -/
def hull? : List AddressRange → Option AddressRange
  | [] => none
  | range :: ranges => some (ranges.foldl hull range)

/-- Does the address lie in the range? -/
def contains (range : AddressRange) (a : Address) : Bool :=
  range.start.toNat ≤ a.toNat && a.toNat < range.stop.toNat

/-- The stop itself lies outside. -/
theorem contains_iff {range : AddressRange} {a : Address} :
    range.contains a = true ↔ range.start.toNat ≤ a.toNat ∧ a.toNat < range.stop.toNat := by
  simp [contains]

/-- Since the start never lies above the stop, the size does not wrap around. -/
theorem toNat_size (range : AddressRange) :
    range.size.toNat = range.stop.toNat - range.start.toNat := by
  have := range.start_le_stop
  have := range.start.toNat_lt
  have := range.stop.toNat_lt
  simp only [size, UInt64.toNat_sub]
  omega

end AddressRange

/-- The name of the segment that reserves the addresses around zero. -/
def pageZero : String := "__PAGEZERO"

/-- Does a segment take part in the mapping: has it a size, and does it not merely reserve? -/
def Segment.isMapped (segment : Segment) : Bool :=
  segment.size ≠ 0 && segment.name ≠ some pageZero

/-- The part of the address space that a file's contents are mapped to: the hull of its mapped
segments or, if there are none, of its sections that have a size. -/
def ObjectFile.extent? (file : ObjectFile) : Option AddressRange :=
  let segments := (file.segments.filter Segment.isMapped).map fun segment =>
    AddressRange.ofSize segment.address segment.size
  let sections := (file.sections.filter fun part => part.size ≠ 0).map fun part =>
    AddressRange.ofSize part.address part.size
  (AddressRange.hull? segments).or (AddressRange.hull? sections)

/-! ### Symbols -/

/-- A code symbol of an image. -/
structure CodeSymbol where
  name : String
  /-- The address inside the file. -/
  address : UInt64
  /-- The number of bytes, zero if it is not recorded. -/
  size : UInt64
deriving DecidableEq, Repr

namespace CodeSymbol

/-- The bytes of the name, by which names are ordered. -/
def nameBytes (symbol : CodeSymbol) : List UInt8 :=
  symbol.name.toUTF8.toList

/-- The order of the table: by address, and at one address by name. -/
def le (a b : CodeSymbol) : Bool :=
  a.address < b.address || (a.address == b.address && a.nameBytes ≤ b.nameBytes)

/-- Do two symbols have the same address and name? -/
def sameEntry (a b : CodeSymbol) : Bool :=
  a.address == b.address && a.name == b.name

/-- The symbols without those that repeat the entry right before them; `last` comes before. -/
def dropRepeatsAfter (last : CodeSymbol) : List CodeSymbol → List CodeSymbol
  | [] => []
  | symbol :: rest =>
      if sameEntry last symbol then dropRepeatsAfter last rest
      else symbol :: dropRepeatsAfter symbol rest

/-- The symbols without those that repeat the entry right before them. -/
def dropRepeats : List CodeSymbol → List CodeSymbol
  | [] => []
  | symbol :: rest => symbol :: dropRepeatsAfter symbol rest

end CodeSymbol

/-- A linkage name as the source code has it: Mach-O puts an underscore in front of each. -/
def ObjectFormat.sourceName (format : ObjectFormat) (name : String) : String :=
  match format, name.toList with
  | .machO, '_' :: rest => String.ofList rest
  | _, _ => name

/-- The table entry of a symbol: only code that the file defines, under a name that is readable
and not empty. -/
def ObjectSymbol.tableEntry? (format : ObjectFormat) (symbol : ObjectSymbol) :
    Option CodeSymbol :=
  if symbol.isDefinition && symbol.isText then
    match symbol.name with
    | none => none
    | some name =>
        if format.sourceName name = "" then none
        else some ⟨format.sourceName name, symbol.address, symbol.size⟩
  else none

/-- The code symbols of a file in the order of the table. -/
def ObjectFile.symbolTable (file : ObjectFile) : List CodeSymbol :=
  CodeSymbol.dropRepeats
    ((file.symbols.filterMap (ObjectSymbol.tableEntry? file.format)).mergeSort CodeSymbol.le)

/-! ### Images -/

/-- An object file mapped into memory. -/
structure Image where
  path : String
  /-- What to add to an address of the file to get the address at run time. -/
  slide : Int64
  /-- The addresses at run time. -/
  range : AddressRange
  /-- The code symbols, by their addresses in the file. -/
  symbols : List CodeSymbol
deriving DecidableEq, Repr

namespace Image

/-- A file mapped at a load address or, without one, where it asks to be; none if nothing of the
file gets mapped. -/
def map? (path : String) (file : ObjectFile) (loadAddress : Option Address) : Option Image :=
  file.extent?.map fun mapped =>
    let start := (loadAddress.map Address.value).getD mapped.start
    { path
      slide := start.toInt64 - mapped.start.toInt64
      range := AddressRange.ofSize start mapped.size
      symbols := file.symbolTable }

/-- The address at which the image starts. -/
def loadAddress (image : Image) : Address := ⟨image.range.start⟩

/-- The address after the image. -/
def endAddress (image : Image) : Address := ⟨image.range.stop⟩

/-- Does the image cover the address? -/
def contains (image : Image) (a : Address) : Bool :=
  image.range.contains a

/-- The address inside the file of an address that the image covers. -/
def toFile? (image : Image) (a : Address) : Option Address :=
  if image.contains a then a.shift? (-image.slide) else none

/-- The address at run time of an address inside the file. -/
def toRuntime? (image : Image) (fileAddress : Address) : Option Address :=
  fileAddress.shift? image.slide

/-- The last symbol of the table at or below an address of the file. -/
def lastSymbol? (image : Image) (fileAddress : Address) : Option CodeSymbol :=
  (image.symbols.takeWhile fun symbol => symbol.address ≤ fileAddress.value).getLast?

/-- The nearest symbol at or below an address that the image covers. -/
def nearest? (image : Image) (a : Address) : Option (String × Address) := do
  let fileAddress ← image.toFile? a
  let symbol ← image.lastSymbol? fileAddress
  let start ← image.toRuntime? ⟨symbol.address⟩
  return (symbol.name, start)

end Image

end SymbolTrace
