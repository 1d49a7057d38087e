import SymbolTrace.Text.Blank

/-!
# Modes of regular expressions

Flags in an expression change how what follows is understood: whether letters stand for both of
their cases, whether characters are told apart or bytes, and whether blanks and comments between
the items are left out. A comment runs from `#` to the end of its line.

The flags about line ends, dots and greed change what an expression matches, but not whether it
is one.
-/

namespace SymbolTrace.Text.RegularExpression

/-- How a part of an expression is to be understood. -/
structure Mode where
  /-- Do letters stand for both of their cases? -/
  caseless : Bool
  /-- Are the characters of all scripts told apart, rather than bytes? -/
  unicode : Bool
  /-- Are blanks and comments left out? -/
  spaced : Bool
deriving DecidableEq, Repr

namespace Mode

/-- The mode in which an expression starts. -/
def start : Mode := ⟨false, true, false⟩

/-- May a character be named? The cases of letters are known in ASCII only, so where cases do not
matter, characters of all scripts cannot be matched. -/
def namesCharacters (mode : Mode) : Bool := !(mode.caseless && mode.unicode)

/-! ### Blanks -/

/-- A text from its first character on that is neither a blank nor part of a comment. -/
def dropSpace (inComment : Bool) : List Char → List Char
  | [] => []
  | c :: rest =>
      if inComment then dropSpace (c ≠ '\n') rest
      else if isBlank c then dropSpace false rest
      else if c = '#' then dropSpace true rest
      else c :: rest

/-- Blanks and comments are only left out. -/
theorem length_dropSpace_le (inComment : Bool) (text : List Char) :
    (dropSpace inComment text).length ≤ text.length := by
  induction text generalizing inComment with
  | nil => simp [dropSpace]
  | cons c rest ih =>
      unfold dropSpace
      split
      · exact Nat.le_succ_of_le (ih _)
      · split
        · exact Nat.le_succ_of_le (ih _)
        · split
          · exact Nat.le_succ_of_le (ih _)
          · exact Nat.le_refl _

/-- A text without the blanks and comments in front, if they are left out. -/
def skip (mode : Mode) (text : List Char) : List Char :=
  if mode.spaced then dropSpace false text else text

/-- What is skipped in a mode is only left out. -/
theorem length_skip_le (mode : Mode) (text : List Char) :
    (mode.skip text).length ≤ text.length := by
  unfold skip
  split
  · exact length_dropSpace_le false text
  · exact Nat.le_refl _

/-- Behind the first character that is not skipped the text is shorter. -/
theorem length_lt_of_skip {mode : Mode} {text rest : List Char} {c : Char}
    (h : mode.skip text = c :: rest) : rest.length < text.length := by
  have := mode.length_skip_le text
  rwa [h] at this

/-! ### Flags -/

/-- What the flags on and off say about one of them: on, off or, if it is not there, nothing. -/
def setting (on off : List Char) (flag : Char) (now : Bool) : Bool :=
  if on.contains flag then true else if off.contains flag then false else now

/-- Is the text made of flags? Each may stand there once, and so may a minus sign, with a flag
behind it. -/
def areFlags (flags : List Char) : Bool :=
  flags.all (fun c => "imsUuRx-".toList.contains c) && decide flags.Nodup &&
    flags.getLast? ≠ some '-'

/-- The mode with some flags turned on, and the ones behind the minus sign turned off. -/
def turned (mode : Mode) (flags : List Char) : Mode :=
  let on := flags.takeWhile (· ≠ '-')
  let off := flags.dropWhile (· ≠ '-')
  { caseless := setting on off 'i' mode.caseless
    unicode := setting on off 'u' mode.unicode
    spaced := setting on off 'x' mode.spaced }

end Mode

end SymbolTrace.Text.RegularExpression
