import SymbolTrace.ObjectFile.Elf
import SymbolTrace.ObjectFile.MachO

/-!
# Recognising object files

The first bytes of a file decide which format it is read as: ELF or Mach-O. Archives, loader caches
and files for several architectures are recognised but not read, and COFF, PE and XCOFF files are
not recognised. Only the program and worked examples use this reader: images take theirs as a
parameter, so what is proved of images holds for readers of all formats.
-/

namespace SymbolTrace.ObjectFile

/-- The number of bytes a file must have to be recognised. -/
def magicSize : Nat := 16

/-- First bytes of formats that are recognised but not read. -/
def unsupportedMagics : List (List UInt8) :=
  ["!<arch>\n".toUTF8.toList, "!<thin>\n".toUTF8.toList, "dyld_v1 ".toUTF8.toList,
    [0xca, 0xfe, 0xba, 0xbe], [0xca, 0xfe, 0xba, 0xbf]]

/-- What is stored in a file, whatever object format it has. -/
def read (bytes : ByteArray) : Except Fault ObjectFile :=
  if bytes.size < magicSize then .error .noMagic
  else
    match slice bytes 0 magicSize with
    | 0x7f :: 0x45 :: 0x4c :: 0x46 :: 1 :: _ => Elf.read bytes false
    | 0x7f :: 0x45 :: 0x4c :: 0x46 :: 2 :: _ => Elf.read bytes true
    | 0xfe :: 0xed :: 0xfa :: 0xce :: _ => MachO.read bytes ⟨false, true⟩
    | 0xce :: 0xfa :: 0xed :: 0xfe :: _ => MachO.read bytes ⟨false, false⟩
    | 0xfe :: 0xed :: 0xfa :: 0xcf :: _ => MachO.read bytes ⟨true, true⟩
    | 0xcf :: 0xfa :: 0xed :: 0xfe :: _ => MachO.read bytes ⟨true, false⟩
    | magic =>
        if unsupportedMagics.any (·.isPrefixOf magic) then .error .unsupportedFormat
        else if magic.take 2 == "MZ".toUTF8.toList then .error .unknownDosFile
        else .error .unknownMagic

/-- `read` as a reader that tells its faults in their wording. -/
def reader : ObjectReader := fun bytes =>
  (read bytes).mapError Fault.message

end SymbolTrace.ObjectFile
