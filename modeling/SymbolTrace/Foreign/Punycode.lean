/-!
# Punycode

Names that are not all ASCII are written in ASCII: first the ASCII characters, then an underscore,
then a number for each of the others. Without an underscore there are no ASCII characters. So
`gdel_5qa` is `gödel`.

The others are in the order of their codes. A number tells how many places further the next one
goes, counting through all places of the name so far for each code from the last one on. Its
digits are letters and then decimal digits, least digit first; the last one is below a threshold,
which grows with the position of the digit and sinks with a bias that follows the size of the
numbers.
-/

namespace SymbolTrace.Foreign.Punycode

/-- The radix of the numbers. -/
def radix : Nat := 36

/-- The value of a digit. -/
def digitValue? (c : Char) : Option Nat :=
  if c.isLower then some (c.toNat - 'a'.toNat)
  else if c.isDigit then some (c.toNat - '0'.toNat + 26)
  else none

/-- Digits below it end a number. Positions are counted from one. -/
def threshold (bias position : Nat) : Nat :=
  min (max (radix * position - bias) 1) 26

/-- The rest of a number, given its value so far and what its next digit is worth, and the text
after it. -/
def readNumber? (bias position worth value : Nat) : List Char → Option (Nat × List Char)
  | [] => none
  | c :: rest =>
      (digitValue? c).bind fun digit =>
        if digit < threshold bias position then some (value + digit * worth, rest)
        else
          readNumber? bias (position + 1) (worth * (radix - threshold bias position))
            (value + digit * worth) rest

/-- A number takes at least its last digit. -/
theorem length_lt_of_readNumber? {bias position worth value number : Nat}
    {text rest : List Char}
    (h : readNumber? bias position worth value text = some (number, rest)) :
    rest.length < text.length := by
  induction text generalizing position worth value with
  | nil => simp [readNumber?] at h
  | cons c after ih =>
      obtain ⟨digit, -, h⟩ := Option.bind_eq_some_iff.mp h
      split at h
      · simp_all
      · exact Nat.lt_succ_of_lt (ih h)

/-- A number made small by dividing it, and what that adds to the bias. -/
def shrink (number added : Nat) : Nat × Nat :=
  if 455 < number then shrink (number / 35) (added + radix) else (number, added)
termination_by number

/-- The bias after a number. The first one of a name counts less than the others. -/
def nextBias (number divisor places : Nat) : Nat :=
  let share := number / divisor
  let (small, added) := shrink (share + share / places) 0
  added + radix * small / (small + 38)

/-- No name that is decoded has more characters. -/
def maxLength : Nat := 128

/-- A name with the characters put in that a text tells. The place and the code to go on from are
given, and the bias and what the next number is divided by. -/
def insertAll? (name : List Char) (place code bias divisor : Nat) (text : List Char) :
    Option (List Char) :=
  match _ : readNumber? bias 1 1 0 text with
  | none => none
  | some (number, rest) =>
      let places := name.length + 1
      let code := code + (place + number) / places
      let place := (place + number) % places
      if code.isValidChar && places ≤ maxLength then
        let name := name.insertIdx place (Char.ofNat code)
        if rest.isEmpty then some name
        else insertAll? name (place + 1) code (nextBias number divisor places) 2 rest
      else none
termination_by text.length
decreasing_by exact length_lt_of_readNumber? ‹_›

/-- The name that ASCII characters and the numbers of others stand for. -/
def decode? (ascii numbers : List Char) : Option (List Char) :=
  insertAll? ascii 0 128 72 700 numbers

/-- Numbers that stand for no characters, with the ASCII characters, as they are shown. -/
def undecoded (ascii numbers : List Char) : List Char :=
  "punycode\x7b".toList ++ (if ascii.isEmpty then [] else ascii ++ ['-']) ++ numbers ++ ['\x7d']

/-- The shown form of a written name, if any characters are encoded in it. -/
def shown? (written : List Char) : Option (List Char) :=
  let numbers := (written.reverse.takeWhile (· ≠ '_')).reverse
  let ascii := (written.reverse.dropWhile (· ≠ '_')).tail.reverse
  if numbers.isEmpty then none
  else some ((decode? ascii numbers).getD (undecoded ascii numbers))

end SymbolTrace.Foreign.Punycode
