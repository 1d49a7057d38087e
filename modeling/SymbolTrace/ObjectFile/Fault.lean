/-!
# Reasons an object file cannot be read

A reader stops at the first fault. The wording is that of the reports printed to people.
-/

namespace SymbolTrace.ObjectFile

/-- Why a file is not read as an object file. -/
inductive Fault where
  | noMagic
  | unknownMagic
  | unsupportedFormat
  | unknownDosFile
  | elfHeader
  | elfUnsupported
  | elfSegmentEntrySize
  | elfSegmentTable
  | elfSegmentCount
  | elfSectionEntrySize
  | elfFirstSection
  | elfSectionTable
  | elfNoSectionNames
  | elfSectionNames
  | elfSectionNamesSize
  | elfSymbolTable
  | elfSectionIndex
  | elfStringSection
  | elfStringSectionSize
  | elfSymbolSections
  | elfRelocatedSection
  | machOHeader
  | machOCommandSize
  | machOSectionCount
  | machOSymbolTable
deriving DecidableEq, Repr

/-- The wording of a fault. -/
def Fault.message : Fault → String
  | noMagic => "Could not read file magic"
  | unknownMagic => "Unknown file magic"
  | unsupportedFormat => "Unsupported file format"
  | unknownDosFile => "Unknown MS-DOS file"
  | elfHeader => "Invalid ELF header size or alignment"
  | elfUnsupported => "Unsupported ELF header"
  | elfSegmentEntrySize => "Invalid ELF program header entry size"
  | elfSegmentTable => "Invalid ELF program header size or alignment"
  | elfSegmentCount => "Missing ELF section headers for e_phnum overflow"
  | elfSectionEntrySize => "Invalid ELF section header entry size"
  | elfFirstSection => "Invalid ELF section header offset or size"
  | elfSectionTable => "Invalid ELF section header offset/size/alignment"
  | elfNoSectionNames => "Missing ELF e_shstrndx"
  | elfSectionNames => "Invalid ELF e_shstrndx"
  | elfSectionNamesSize => "Invalid ELF shstrtab size"
  | elfSymbolTable => "Invalid ELF symbol table data"
  | elfSectionIndex => "Invalid ELF section index"
  | elfStringSection => "Invalid ELF string section type"
  | elfStringSectionSize => "Invalid ELF string section offset or size"
  | elfSymbolSections => "Invalid ELF symtab_shndx data"
  | elfRelocatedSection => "Invalid ELF sh_info for relocation section"
  | machOHeader => "Invalid Mach-O header size or alignment"
  | machOCommandSize => "Invalid Mach-O command size"
  | machOSectionCount => "Invalid Mach-O number of sections"
  | machOSymbolTable => "Invalid Mach-O symbol table offset or size"

end SymbolTrace.ObjectFile
