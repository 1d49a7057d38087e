import SymbolTrace.ObjectFile
import SymbolTrace.ObjectFile.Fault
import SymbolTrace.ObjectFile.Layout

/-!
# Mach-O files

After the header comes a list of commands. Segment commands carry their sections; the last symbol
table command leads to the symbols and their names. A command that does not fit ends the list,
and a header whose commands lie outside the file has none; neither is a fault.

Sections are numbered from one through all segments. A symbol is defined by the file if it
belongs to a section, and names code if that section is the text section of the text segment.
-/

namespace SymbolTrace.ObjectFile.MachO

/-- The size of the file header. -/
def headerSize (layout : Layout) : Nat := layout.pick 28 32

/-- The size of a segment command without its sections. -/
def segmentCommandSize (layout : Layout) : Nat := layout.pick 56 72

/-- The size of a section's record inside a segment command. -/
def sectionRecordSize (layout : Layout) : Nat := layout.pick 68 80

/-- The size of a symbol table command. -/
def symbolCommandSize : Nat := 24

/-- The size of a symbol's entry. -/
def symbolEntrySize (layout : Layout) : Nat := layout.pick 12 16

/-- The command that describes a segment. -/
def segmentCommand (layout : Layout) : Nat := layout.pick 0x1 0x19

/-- The command that leads to the symbol table. -/
def symbolCommand : Nat := 0x2

/-- A section, and whether it is the one that holds code. -/
structure SectionRecord where
  stored : Section
  holdsCode : Bool
deriving DecidableEq, Repr

/-- What the commands of a file have told so far. -/
structure Contents where
  segments : List Segment
  sections : List SectionRecord
  /-- The offset of the symbols, their number, and where their names are. -/
  symbolTable : Option (Nat × Nat × StringTable)

/-- The name field of the segment and of the section that hold code. -/
def codeNames : List UInt8 × List UInt8 :=
  ("__TEXT".toUTF8.toList, "__text".toUTF8.toList)

/-! ### Commands -/

/-- Where a command starts, and how many bytes it has. -/
structure Command where
  kind : Nat
  offset : Nat
  size : Nat
deriving DecidableEq, Repr

/-- Up to `count` commands from an offset on, as far as they fit before `stop`. -/
def readCommands (layout : Layout) (bytes : ByteArray) (stop offset : Nat) :
    Nat → List Command
  | 0 => []
  | count + 1 =>
      if offset + 8 ≤ stop then
        let size := layout.word bytes (offset + 4)
        if 8 ≤ size ∧ offset + size ≤ stop then
          ⟨layout.word bytes offset, offset, size⟩ ::
            readCommands layout bytes stop (offset + size) count
        else []
      else []

/-- The section whose record is at an offset. -/
def readSection (layout : Layout) (bytes : ByteArray) (offset : Nat) : SectionRecord where
  stored := {
    address := UInt64.ofNat (layout.address bytes (offset + 32) (offset + 32))
    size := UInt64.ofNat (layout.address bytes (offset + 36) (offset + 40)) }
  holdsCode := fieldName bytes (offset + 16) 16 == codeNames.1 &&
    fieldName bytes offset 16 == codeNames.2

/-- The segment of a segment command, and its sections. -/
def readSegment (layout : Layout) (bytes : ByteArray) (command : Command) :
    Except Fault (Segment × List SectionRecord) := do
  if command.size < segmentCommandSize layout then throw .machOCommandSize
  let count := layout.word bytes (command.offset + layout.pick 48 64)
  if command.size < segmentCommandSize layout + count * sectionRecordSize layout then
    throw .machOSectionCount
  let segment : Segment := {
    name := textOf? (fieldName bytes (command.offset + 8) 16)
    address := UInt64.ofNat (layout.address bytes (command.offset + 24) (command.offset + 24))
    size := UInt64.ofNat (layout.address bytes (command.offset + 28) (command.offset + 32)) }
  let first := command.offset + segmentCommandSize layout
  let sections := (List.range count).map fun i =>
    readSection layout bytes (first + i * sectionRecordSize layout)
  return (segment, sections)

/-- The symbol table of a symbol table command. -/
def readSymbolTable (layout : Layout) (bytes : ByteArray) (command : Command) :
    Except Fault (Nat × Nat × StringTable) := do
  if command.size < symbolCommandSize then throw .machOCommandSize
  let offset := layout.word bytes (command.offset + 8)
  let count := layout.word bytes (command.offset + 12)
  let names := layout.word bytes (command.offset + 16)
  let namesSize := layout.word bytes (command.offset + 20)
  if !fits bytes offset (count * symbolEntrySize layout) then throw .machOSymbolTable
  return (offset, count, ⟨names, names + namesSize⟩)

/-- What is known before the first command. -/
def Contents.initial : Contents := ⟨[], [], none⟩

/-- What is known after one more command. -/
def Contents.add (contents : Contents) (layout : Layout) (bytes : ByteArray)
    (command : Command) : Except Fault Contents :=
  if command.kind = segmentCommand layout then do
    let (segment, sections) ← readSegment layout bytes command
    return { contents with
      segments := contents.segments ++ [segment]
      sections := contents.sections ++ sections }
  else if command.kind = symbolCommand then do
    let symbolTable ← readSymbolTable layout bytes command
    return { contents with symbolTable := some symbolTable }
  else
    .ok contents

/-! ### Symbols -/

/-- The symbol whose entry is at an offset; debugging entries are no symbols. -/
def readSymbol? (layout : Layout) (bytes : ByteArray) (sections : List SectionRecord)
    (names : StringTable) (offset : Nat) : Option ObjectSymbol :=
  let kind := layout.byte bytes (offset + 4)
  if kind &&& 0xe0 ≠ 0 then none
  else
    let sectionNumber := layout.byte bytes (offset + 5)
    some {
      name := names.name? bytes (layout.word bytes offset)
      address := UInt64.ofNat (layout.address bytes (offset + 8) (offset + 8))
      size := 0
      isDefinition := kind &&& 0x0e = 0x0e
      isText := sectionNumber ≠ 0 &&
        (sections[sectionNumber - 1]?.map SectionRecord.holdsCode).getD false }

/-- The symbols of a file. -/
def Contents.symbols (contents : Contents) (layout : Layout) (bytes : ByteArray) :
    List ObjectSymbol :=
  match contents.symbolTable with
  | none => []
  | some (offset, count, names) =>
      (List.range count).filterMap fun i =>
        readSymbol? layout bytes contents.sections names (offset + i * symbolEntrySize layout)

/-- What is stored in a Mach-O file. -/
def read (bytes : ByteArray) (layout : Layout) : Except Fault ObjectFile := do
  if !fits bytes 0 (headerSize layout) then throw .machOHeader
  let start := headerSize layout
  let stop := start + layout.word bytes 20
  let commands :=
    if fits bytes start (layout.word bytes 20) then
      readCommands layout bytes stop start (layout.word bytes 16)
    else []
  let contents ← commands.foldlM
    (fun (contents : Contents) command => contents.add layout bytes command) Contents.initial
  return {
    format := .machO
    segments := contents.segments
    sections := contents.sections.map SectionRecord.stored
    staticSymbols := contents.symbols layout bytes
    dynamicSymbols := [] }

end SymbolTrace.ObjectFile.MachO
