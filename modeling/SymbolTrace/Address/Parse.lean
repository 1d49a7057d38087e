import SymbolTrace.Address
import SymbolTrace.Numeral

/-!
# Reading addresses

An address is written in hexadecimal after `0x` or `0X`, and in decimal otherwise.
-/

namespace SymbolTrace

/-- A text that is no address, and why. -/
structure AddressFault where
  text : String
  fault : Numeral.Fault
deriving DecidableEq, Repr

/-- The sentence printed for a text that is no address. -/
def AddressFault.message (e : AddressFault) : String :=
  "invalid address '" ++ e.text ++ "': " ++ e.fault.message

/-- The number an address is written as. -/
def Address.readNumber : List Char → Except Numeral.Fault Nat
  | '0' :: 'x' :: digits => Numeral.read 16 digits
  | '0' :: 'X' :: digits => Numeral.read 16 digits
  | digits => Numeral.read 10 digits

/-- The address that a text stands for. -/
def Address.parse (text : String) : Except AddressFault Address :=
  match Address.readNumber text.toList with
  | .ok value => .ok ⟨UInt64.ofNat value⟩
  | .error fault => .error ⟨text, fault⟩

end SymbolTrace
