import SymbolTrace.ObjectFile
import SymbolTrace.ObjectFile.Fault
import SymbolTrace.ObjectFile.Layout

/-!
# ELF files

The header leads to a table of segments and a table of sections. Counts that do not fit the
header are stored in the otherwise unused section number 0. The first section that holds static
symbols and the first that holds dynamic ones are read; each is linked to the section with its
names, and may have a section with the numbers of sections that do not fit its entries. Sections
that hold relocations by static symbols say which section they are for.

A symbol is defined by the file if it belongs to a proper section and is a function, an object,
or of no type but with a size. Of these, the functions name code.
-/

namespace SymbolTrace.ObjectFile.Elf

/-- The size of the file header. -/
def headerSize (layout : Layout) : Nat := layout.pick 52 64

/-- The size of a segment's entry. -/
def segmentEntrySize (layout : Layout) : Nat := layout.pick 32 56

/-- The size of a section's entry. -/
def sectionEntrySize (layout : Layout) : Nat := layout.pick 40 64

/-- The size of a symbol's entry. -/
def symbolEntrySize (layout : Layout) : Nat := layout.pick 16 24

/-- A count or index that says that the number is kept in section 0. -/
def extended : Nat := 0xffff

/-- The parts of the file header that lead to the tables. -/
structure Header where
  segmentOffset : Nat
  sectionOffset : Nat
  segmentEntry : Nat
  segmentCount : Nat
  sectionEntry : Nat
  sectionCount : Nat
  sectionNames : Nat
deriving DecidableEq, Repr

/-- An entry of the section table. -/
structure SectionHeader where
  kind : Nat
  address : Nat
  offset : Nat
  size : Nat
  link : Nat
  info : Nat
deriving DecidableEq, Repr

/-! ### Headers -/

/-- The layout that the first bytes announce, once they are known to be those of an ELF file. -/
def readLayout (bytes : ByteArray) (wide : Bool) : Except Fault Layout :=
  let layout : Layout := ⟨wide, bytes[5]? == some 2⟩
  if !fits bytes 0 (headerSize layout) then .error .elfHeader
  else if (bytes[5]? == some 1 || bytes[5]? == some 2) && bytes[6]? == some 1 then .ok layout
  else .error .elfUnsupported

/-- The file header. -/
def readHeader (layout : Layout) (bytes : ByteArray) : Header where
  segmentOffset := layout.address bytes 28 32
  sectionOffset := layout.address bytes 32 40
  segmentEntry := layout.half bytes (layout.pick 42 54)
  segmentCount := layout.half bytes (layout.pick 44 56)
  sectionEntry := layout.half bytes (layout.pick 46 58)
  sectionCount := layout.half bytes (layout.pick 48 60)
  sectionNames := layout.half bytes (layout.pick 50 62)

/-- The section entry at an offset. -/
def readSectionHeader (layout : Layout) (bytes : ByteArray) (offset : Nat) : SectionHeader where
  kind := layout.word bytes (offset + 4)
  address := layout.address bytes (offset + 12) (offset + 16)
  offset := layout.address bytes (offset + 16) (offset + 24)
  size := layout.address bytes (offset + 20) (offset + 32)
  link := layout.word bytes (offset + layout.pick 24 40)
  info := layout.word bytes (offset + layout.pick 28 44)

/-- Section number 0, if the file has a section table. -/
def firstSection? (layout : Layout) (bytes : ByteArray) (header : Header) :
    Except Fault (Option SectionHeader) :=
  if header.sectionOffset = 0 then .ok none
  else if header.sectionEntry ≠ sectionEntrySize layout then .error .elfSectionEntrySize
  else if fits bytes header.sectionOffset (sectionEntrySize layout) then
    .ok (some (readSectionHeader layout bytes header.sectionOffset))
  else .error .elfFirstSection

/-! ### Segments -/

/-- How many segments the file has. -/
def segmentCount (layout : Layout) (bytes : ByteArray) (header : Header) : Except Fault Nat :=
  if header.segmentCount < extended then .ok header.segmentCount
  else do
    match ← firstSection? layout bytes header with
    | some first => return first.info
    | none => throw .elfSegmentCount

/-- The segment whose entry is at an offset, if it is one that gets loaded. -/
def readSegment? (layout : Layout) (bytes : ByteArray) (offset : Nat) : Option Segment :=
  if layout.word bytes offset = 1 then
    some {
      name := none
      address := UInt64.ofNat (layout.address bytes (offset + 8) (offset + 16))
      size := UInt64.ofNat (layout.address bytes (offset + 20) (offset + 40)) }
  else none

/-- The loaded segments. -/
def readSegments (layout : Layout) (bytes : ByteArray) (header : Header) :
    Except Fault (List Segment) :=
  if header.segmentOffset = 0 then .ok []
  else do
    let count ← segmentCount layout bytes header
    if count = 0 then return []
    if header.segmentEntry ≠ segmentEntrySize layout then throw .elfSegmentEntrySize
    if !fits bytes header.segmentOffset (count * segmentEntrySize layout) then
      throw .elfSegmentTable
    return (List.range count).filterMap fun i =>
      readSegment? layout bytes (header.segmentOffset + i * segmentEntrySize layout)

/-! ### Sections -/

/-- How many sections the file has, number 0 included. -/
def sectionCount (layout : Layout) (bytes : ByteArray) (header : Header) : Except Fault Nat :=
  if 0 < header.sectionCount then .ok header.sectionCount
  else do
    match ← firstSection? layout bytes header with
    | some first => return first.size
    | none => return 0

/-- All entries of the section table, number 0 included. -/
def readSectionTable (layout : Layout) (bytes : ByteArray) (header : Header) :
    Except Fault (List SectionHeader) :=
  if header.sectionOffset = 0 then .ok []
  else do
    let count ← sectionCount layout bytes header
    if count = 0 then return []
    if header.sectionEntry ≠ sectionEntrySize layout then throw .elfSectionEntrySize
    if !fits bytes header.sectionOffset (count * sectionEntrySize layout) then
      throw .elfSectionTable
    return (List.range count).map fun i =>
      readSectionHeader layout bytes (header.sectionOffset + i * sectionEntrySize layout)

/-- The kind of a section that takes no room in the file. -/
def emptyKind : Nat := 8

/-- Does the section end at an offset that fits a word? -/
def SectionHeader.endsInWord (entry : SectionHeader) : Bool :=
  entry.offset + entry.size < UInt64.size

/-- The section with the names of the sections must be there if there are any sections. -/
def checkSectionNames (header : Header) (table : List SectionHeader) : Except Fault Unit :=
  match table with
  | [] => .ok ()
  | first :: _ =>
      let index := if header.sectionNames = extended then first.link else header.sectionNames
      if index = 0 then .error .elfNoSectionNames
      else match table[index]? with
        | none => .error .elfSectionNames
        | some names =>
            if names.kind = emptyKind || names.endsInWord then .ok ()
            else .error .elfSectionNamesSize

/-! ### Symbols -/

/-- The kind of a section that holds static symbols. -/
def staticSymbolsKind : Nat := 2

/-- The kind of a section that holds dynamic symbols. -/
def dynamicSymbolsKind : Nat := 11

/-- The kind of a section that holds names. -/
def stringsKind : Nat := 3

/-- The names that a section with symbols is linked to; number 0 stands for no names. -/
def readStrings (table : List SectionHeader) (link : Nat) : Except Fault (Option StringTable) :=
  if link = 0 then .ok none
  else match table[link]? with
    | none => .error .elfSectionIndex
    | some strings =>
        if strings.kind ≠ stringsKind then .error .elfStringSection
        else if strings.endsInWord then
          .ok (some ⟨strings.offset, strings.offset + strings.size⟩)
        else .error .elfStringSectionSize

/-- Does the section number of a symbol stand for a section of this file? -/
def isProperSection (index : Nat) : Bool :=
  index ≠ 0 && (index < 0xff00 || index = extended)

/-- The symbol whose entry is at an offset. -/
def readSymbol (layout : Layout) (bytes : ByteArray) (strings : Option StringTable)
    (offset : Nat) : ObjectSymbol :=
  let kind := layout.byte bytes (offset + layout.pick 12 4) % 16
  let size := layout.address bytes (offset + 8) (offset + 16)
  { name := strings.bind fun table => table.name? bytes (layout.word bytes offset)
    address := UInt64.ofNat (layout.address bytes (offset + 4) (offset + 8))
    size := UInt64.ofNat size
    isDefinition := isProperSection (layout.half bytes (offset + layout.pick 14 6)) &&
      (kind = 1 || kind = 2 || (kind = 0 && size ≠ 0))
    isText := kind = 2 || kind = 10 }

/-- The kind of a section with the numbers of sections that do not fit symbols. -/
def symbolSectionsKind : Nat := 18

/-- The sections with numbers of sections for the symbols of a section, given by its number, must
lie inside the file and hold numbers of four bytes. -/
def checkSymbolSections (bytes : ByteArray) (table : List SectionHeader) (index : Nat) :
    Except Fault Unit :=
  if table.all fun entry =>
    entry.kind ≠ symbolSectionsKind || entry.link ≠ index ||
      (fits bytes entry.offset entry.size && entry.size % 4 = 0) then .ok ()
  else .error .elfSymbolSections

/-- The number of the first section of a kind; number 0 if there is none. -/
def firstOfKind (table : List SectionHeader) (kind : Nat) : Nat :=
  (table.findIdx? (·.kind = kind)).getD 0

/-- The symbols of the first section of a kind; its first entry is no symbol. -/
def readSymbols (layout : Layout) (bytes : ByteArray) (table : List SectionHeader)
    (kind : Nat) : Except Fault (List ObjectSymbol) :=
  match table.find? (·.kind = kind) with
  | none => .ok []
  | some symbols => do
      let entry := symbolEntrySize layout
      if !fits bytes symbols.offset symbols.size || symbols.size % entry ≠ 0 then
        throw .elfSymbolTable
      let strings ← readStrings table symbols.link
      checkSymbolSections bytes table (firstOfKind table kind)
      return (List.range (symbols.size / entry)).tail.map fun i =>
        readSymbol layout bytes strings (symbols.offset + i * entry)

/-! ### Relocations -/

/-- The kinds of sections that hold relocations. -/
def relocationKinds : List Nat := [4, 9, 0x40000014]

/-- Sections that hold relocations by the symbols of a section, given by its number, must say a
section of the file that they are for; number 0 stands for none in particular. -/
def checkRelocations (table : List SectionHeader) (symbols : Nat) : Except Fault Unit :=
  if table.all fun entry =>
    !relocationKinds.contains entry.kind || entry.link ≠ symbols ||
      entry.info < table.length then .ok ()
  else .error .elfRelocatedSection

/-- What is stored in an ELF file. -/
def read (bytes : ByteArray) (wide : Bool) : Except Fault ObjectFile := do
  let layout ← readLayout bytes wide
  let header := readHeader layout bytes
  let segments ← readSegments layout bytes header
  let table ← readSectionTable layout bytes header
  checkSectionNames header table
  let staticSymbols ← readSymbols layout bytes table staticSymbolsKind
  let dynamicSymbols ← readSymbols layout bytes table dynamicSymbolsKind
  checkRelocations table (firstOfKind table staticSymbolsKind)
  return {
    format := .elf
    segments
    sections := table.tail.map fun entry => ⟨UInt64.ofNat entry.address, UInt64.ofNat entry.size⟩
    staticSymbols
    dynamicSymbols }

end SymbolTrace.ObjectFile.Elf
