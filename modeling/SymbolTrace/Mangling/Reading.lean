import SymbolTrace.Mangling.DecodeError
import SymbolTrace.Text.Bytes

/-!
# Reading numbers and names

A reader takes the unread text and gives back a value together with what is left. What is left
is always shorter than what was there, and `Reading` carries that fact, so the readers built on
top of these recurse on the unread text without any further bound.

* `readNumber` takes the longest run of decimal digits at the front.
* `readName` takes a length and then exactly that many bytes of UTF-8, never part of a character.
-/

namespace SymbolTrace.Mangling

open Text

/-- A value read off the front of `text`, with the rest of the text. -/
structure Reading (α : Type) (text : List Char) where
  value : α
  rest : List Char
  rest_lt : rest.length < text.length

/-- A value told by a single character. -/
def Reading.single {α : Type} {c : Char} {text : List Char} (value : α) :
    Reading α (c :: text) where
  value := value
  rest := text
  rest_lt := Nat.lt_succ_self text.length

@[simp] theorem Reading.value_single {α : Type} {c : Char} {text : List Char} (value : α) :
    (Reading.single value : Reading α (c :: text)).value = value := rfl

@[simp] theorem Reading.rest_single {α : Type} {c : Char} {text : List Char} (value : α) :
    (Reading.single value : Reading α (c :: text)).rest = text := rfl

/-- The reading of a longer text that starts with characters read before. -/
def Reading.widen {α β : Type} {inner outer : List Char} (reading : Reading α inner) (f : α → β)
    (h : inner.length ≤ outer.length) : Reading β outer where
  value := f reading.value
  rest := reading.rest
  rest_lt := Nat.lt_of_lt_of_le reading.rest_lt h

@[simp] theorem Reading.value_widen {α β : Type} {inner outer : List Char}
    (reading : Reading α inner) (f : α → β) (h : inner.length ≤ outer.length) :
    (reading.widen f h).value = f reading.value := rfl

@[simp] theorem Reading.rest_widen {α β : Type} {inner outer : List Char}
    (reading : Reading α inner) (f : α → β) (h : inner.length ≤ outer.length) :
    (reading.widen f h).rest = reading.rest := rfl

/-- Dropping a run of characters does not make a text longer. -/
theorem length_dropWhile_le {α : Type} (p : α → Bool) (l : List α) :
    (l.dropWhile p).length ≤ l.length :=
  (List.dropWhile_suffix p).length_le

/-! ### Numbers -/

/-- Numbers are held in 64-bit words: a run of digits with this value or more is refused. -/
def numberBound : Nat := UInt64.size

/-- The longest run of decimal digits at the front, as a number below `numberBound`. -/
def readNumber (text : List Char) : Except DecodeError (Reading Nat text) :=
  match text with
  | [] => .error .malformedInteger
  | c :: rest =>
      if c.isDigit then
        let value := Nat.ofDigitChars 10 (c :: rest.takeWhile Char.isDigit) 0
        if value < numberBound then
          .ok ⟨value, rest.dropWhile Char.isDigit,
            Nat.lt_succ_of_le (length_dropWhile_le Char.isDigit rest)⟩
        else
          .error .malformedInteger
      else
        .error .malformedInteger

/-! ### Names -/

/-- A length and then that many bytes. -/
def readName (text : List Char) : Except DecodeError (Reading String text) := do
  let size ← readNumber text
  match h : splitBytes? size.value size.rest with
  | some (name, rest) =>
      .ok ⟨String.ofList name, rest, Nat.lt_of_le_of_lt (length_le_of_splitBytes? h) size.rest_lt⟩
  | none => .error .truncated

end SymbolTrace.Mangling
