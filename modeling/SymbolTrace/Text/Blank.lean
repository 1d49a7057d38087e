import SymbolTrace.Text.CharSet

/-!
# Blanks

The characters that stand for empty space, within a line or between lines, in any script.
-/

namespace SymbolTrace.Text

/-- Blanks other than spaces, tabs, line feeds and carriage returns. -/
def furtherBlanks : CharSet := [
  (0xB, 0xC), (0x85, 0x85), (0xA0, 0xA0), (0x1680, 0x1680), (0x2000, 0x200A), (0x2028, 0x2029),
  (0x202F, 0x202F), (0x205F, 0x205F), (0x3000, 0x3000)]

/-- Is the character a blank? -/
def isBlank (c : Char) : Bool :=
  c.isWhitespace || furtherBlanks.has c

/-- The ASCII blanks are blanks. -/
theorem isBlank_of_isWhitespace {c : Char} (h : c.isWhitespace) : isBlank c := by
  simp [isBlank, h]

end SymbolTrace.Text
