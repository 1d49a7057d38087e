/-!
# Numbers and names inside a file

Object files store numbers of two, four or eight bytes in either byte order, and most of their
records come in a narrow and a wide variant. A `Layout` says which variant and which order a file
uses. Offsets and sizes are natural numbers, so checking that something lies inside the file
cannot overflow; nothing at all lies inside every file, wherever it is said to start.
-/

namespace SymbolTrace.ObjectFile

/-- The value of bytes in little-endian order. -/
def littleEndian : List UInt8 → Nat
  | [] => 0
  | byte :: rest => byte.toNat + 256 * littleEndian rest

/-- The part of a file from an offset on, as a list of bytes. -/
def slice (bytes : ByteArray) (offset size : Nat) : List UInt8 :=
  (bytes.extract offset (offset + size)).toList

/-- Does the part from `offset` on lie inside the file? -/
def fits (bytes : ByteArray) (offset size : Nat) : Bool :=
  size = 0 || offset + size ≤ bytes.size

/-- The variant and the byte order of a file's records. -/
structure Layout where
  /-- Are addresses stored in eight bytes? -/
  wide : Bool
  bigEndian : Bool
deriving DecidableEq, Repr

namespace Layout

/-- The number stored in `size` bytes at an offset. -/
def number (layout : Layout) (bytes : ByteArray) (offset size : Nat) : Nat :=
  let stored := slice bytes offset size
  littleEndian (if layout.bigEndian then stored.reverse else stored)

/-- The number stored in one byte. -/
def byte (layout : Layout) (bytes : ByteArray) (offset : Nat) : Nat :=
  layout.number bytes offset 1

/-- The number stored in two bytes. -/
def half (layout : Layout) (bytes : ByteArray) (offset : Nat) : Nat :=
  layout.number bytes offset 2

/-- The number stored in four bytes. -/
def word (layout : Layout) (bytes : ByteArray) (offset : Nat) : Nat :=
  layout.number bytes offset 4

/-- One of two values, for the narrow and for the wide variant. -/
def pick {α : Type} (layout : Layout) (narrow wide : α) : α :=
  if layout.wide then wide else narrow

/-- The number stored in four bytes at one offset, or in eight at another. -/
def address (layout : Layout) (bytes : ByteArray) (narrow wide : Nat) : Nat :=
  if layout.wide then layout.number bytes wide 8 else layout.number bytes narrow 4

end Layout

/-! ### Names -/

/-- Bytes as text, if they are UTF-8. -/
def textOf? (bytes : List UInt8) : Option String :=
  String.fromUTF8? (ByteArray.mk bytes.toArray)

/-- The name in a field of fixed size, which ends at the first zero byte if there is one. -/
def fieldName (bytes : ByteArray) (offset size : Nat) : List UInt8 :=
  (slice bytes offset size).takeWhile (· ≠ 0)

/-- A stretch of the file that holds names, each ended by a zero byte. -/
structure StringTable where
  start : Nat
  stop : Nat
deriving DecidableEq, Repr

/-- The offset of the first zero byte from an offset on, if there is one before `stop`. -/
def zeroFrom? (bytes : ByteArray) (stop offset : Nat) : Option Nat :=
  if offset < stop then
    if bytes[offset]? = some 0 then some offset else zeroFrom? bytes stop (offset + 1)
  else none
termination_by stop - offset

/-- The name at an offset of a string table. The table must lie inside the file, and the name and
the zero byte after it inside the table. -/
def StringTable.name? (table : StringTable) (bytes : ByteArray) (offset : Nat) :
    Option String := do
  let start := table.start + offset
  let stop ← if table.stop ≤ bytes.size then zeroFrom? bytes table.stop start else none
  textOf? (slice bytes start (stop - start))

end SymbolTrace.ObjectFile
