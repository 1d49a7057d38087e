import SymbolTrace.Numeral
import SymbolTrace.Text.RegularExpression.Mode

/-!
# Atoms of regular expressions

An atom is a single character, one of the sets of characters that have a letter, or an edge: a
place between characters. Behind a backslash stand characters that mean something else without
it, the letters of sets and edges, and codes in hexadecimal.

Letters, digits and blanks of all scripts are not known here, so their sets, and the edges of
words made of them, can only be asked for in ASCII.
-/

namespace SymbolTrace.Text.RegularExpression

/-- The smallest parts of an expression. -/
inductive Atom where
  | literal (c : Char)
  /-- A set of characters that has a letter. -/
  | letters
  /-- A place between characters. -/
  | edge
deriving DecidableEq, Repr

namespace Atom

/-- May the atom stand in the mode? -/
def isKnown (mode : Mode) : Atom → Bool
  | literal _ => mode.namesCharacters
  | _ => true

/-! ### Escapes -/

/-- The value of so many hexadecimal digits, continuing a value. -/
def readCode? (mode : Mode) (value : Nat) : Nat → List Char → Option (Nat × List Char)
  | 0, text => some (value, text)
  | count + 1, text =>
      match mode.skip text with
      | [] => none
      | c :: rest =>
          (Numeral.digitValue? 16 c).bind fun digit =>
            readCode? mode (value * 16 + digit) count rest

/-- The digits of a code are part of the text. -/
theorem length_le_of_readCode? {mode : Mode} {value count code : Nat} {text rest : List Char}
    (h : readCode? mode value count text = some (code, rest)) : rest.length ≤ text.length := by
  induction count generalizing value text with
  | zero => simp_all [readCode?]
  | succ count ih =>
      have hskip := mode.length_skip_le text
      unfold readCode? at h
      split at h
      · simp at h
      · rename_i c after hafter
        obtain ⟨digit, -, hcode⟩ := Option.bind_eq_some_iff.mp h
        have := ih hcode
        simp only [hafter, List.length_cons] at hskip
        omega

/-- How many digits a code has behind its letter. -/
def codeLength? : Char → Option Nat
  | 'x' => some 2
  | 'u' => some 4
  | 'U' => some 8
  | _ => none

/-- The character with a code. Where bytes are told apart, two digits are a byte, which must be
ASCII. -/
def ofCode? (mode : Mode) (digits code : Nat) : Option Atom :=
  if code.isValidChar && (mode.unicode || digits ≠ 2 || code < 128) then
    some (literal (Char.ofNat code))
  else none

/-- The characters that mean something without a backslash. -/
def isMeta (c : Char) : Bool :=
  "\\.+*?()|[]\x7b\x7d^$#&-~".toList.contains c

/-- Does the character stand for itself behind a backslash? The angle brackets are edges of
words. -/
def standsForItself (c : Char) : Bool :=
  isMeta c || (c.toNat < 128 && !c.isAlphanum && c ≠ '<' && c ≠ '>')

/-- What a single character behind a backslash stands for. -/
def ofEscape? (mode : Mode) (c : Char) : Option Atom :=
  if standsForItself c then some (literal c)
  else
    match c with
    | 'a' => some (literal '\x07')
    | 'f' => some (literal '\x0c')
    | 't' => some (literal '\t')
    | 'n' => some (literal '\n')
    | 'r' => some (literal '\r')
    | 'v' => some (literal '\x0b')
    | 'A' | 'z' => some edge
    | 'b' | 'B' | '<' | '>' => if mode.unicode then none else some edge
    | 'd' | 's' | 'w' => if mode.unicode then none else some letters
    | _ => none

/-- An atom behind a backslash, and the text after it. -/
def readEscape? (mode : Mode) : List Char → Option (Atom × List Char)
  | [] => none
  | c :: rest =>
      match codeLength? c with
      | some digits => do
          let (code, rest) ← readCode? mode 0 digits rest
          return (← ofCode? mode digits code, rest)
      | none => (ofEscape? mode c).map fun atom => (atom, rest)

/-- An escape takes at least one character. -/
theorem length_lt_of_readEscape? {mode : Mode} {text rest : List Char} {atom : Atom}
    (h : readEscape? mode text = some (atom, rest)) : rest.length < text.length := by
  unfold readEscape? at h
  split at h
  · simp at h
  · rename_i c after
    split at h
    · obtain ⟨⟨code, left⟩, hcode, h⟩ := Option.bind_eq_some_iff.mp h
      obtain ⟨_, -, h⟩ := Option.bind_eq_some_iff.mp h
      have := length_le_of_readCode? hcode
      simp_all only [Option.pure_def, Option.some.injEq, Prod.mk.injEq, List.length_cons]
      omega
    · simp only [Option.map_eq_some_iff, Prod.mk.injEq] at h
      obtain ⟨_, -, -, rfl⟩ := h
      simp

end Atom

end SymbolTrace.Text.RegularExpression
