/-!
# Numbers written by people

Addresses and counts come in as text: an optional plus sign and digits of some radix, either case
for letters, any number of leading zeros, with a value that fits a 64-bit word. Reading goes from
left to right and stops at the first fault, which is either a character that is no digit or a
digit that makes the value too large; a bad character wins over a large value at the same place.
-/

namespace SymbolTrace.Numeral

/-- Why a text is no number. -/
inductive Fault where
  | empty
  | invalidDigit
  | tooLarge
deriving DecidableEq, Repr

/-- The wording of a fault. -/
def Fault.message : Fault → String
  | empty => "cannot parse integer from empty string"
  | invalidDigit => "invalid digit found in string"
  | tooLarge => "number too large to fit in target type"

/-- The value of a letter or digit, counting letters from ten in either case. -/
def charValue? (c : Char) : Option Nat :=
  if c.isDigit then some (c.toNat - '0'.toNat)
  else if c.isLower then some (c.toNat - 'a'.toNat + 10)
  else if c.isUpper then some (c.toNat - 'A'.toNat + 10)
  else none

/-- The value of a digit of the radix. -/
def digitValue? (radix : Nat) (c : Char) : Option Nat :=
  (charValue? c).filter (· < radix)

/-- Values from here on do not fit a word. -/
def bound : Nat := UInt64.size

/-- The value of the digits so far continued by more digits. -/
def readDigits (radix value : Nat) : List Char → Except Fault Nat
  | [] => .ok value
  | c :: rest =>
      match digitValue? radix c with
      | none => .error .invalidDigit
      | some digit =>
          if value * radix + digit < bound then
            readDigits radix (value * radix + digit) rest
          else
            .error .tooLarge

/-- An optional plus sign and at least one digit. A sign alone is a bad digit. -/
def read (radix : Nat) : List Char → Except Fault Nat
  | [] => .error .empty
  | '+' :: c :: rest => readDigits radix 0 (c :: rest)
  | text => readDigits radix 0 text

/-- A decimal number. -/
def readDecimal (text : String) : Except Fault Nat :=
  read 10 text.toList

end SymbolTrace.Numeral
