import Mathlib
import SymbolTrace.Frame
import SymbolTrace.Proofs.Address.Reading
import SymbolTrace.Text.Bytes

/-!
# A line determines its frame

A line is laid out in columns (`Frame.printed`), and it is read from both ends. From the front, the
index and the module end at the first blank behind them, since neither holds one; how far a column
is filled up follows from its entry. The address has a fixed length. From the back, the offset
starts behind the last blank, and what is left between the two is the name, whatever it looks like.

## Main results

* `Frame.line_eq_printed`: how a line is laid out.
* `Frame.lineBreak_mem_printed_iff`: what breaks a line.
* `append_blank_inj`, `blank_append_inj`: what ends, or starts, at a blank.
* `column_append_inj`: a column and what follows.
* `Frame.line_inj`: a whole line.
-/

namespace SymbolTrace

open Text

/-! ### Layout -/

/-- The line of a frame as it is laid out: the position and the module in columns of 4 and 34
characters, the start of the symbol in 16 hexadecimal digits, its name, and the offset. -/
def Frame.printed (frame : Frame) : String :=
  String.ofList (frame.index.repr.toList.rightpad 4 ' ') ++ " " ++
    String.ofList (frame.moduleName.toList.rightpad 34 ' ') ++ " 0x" ++
    String.ofList ((Nat.toDigits 16 frame.symbolAddress.toNat).leftpad 16 '0') ++ " " ++
    frame.name ++ " + " ++ frame.offset.repr

/-- A column is its entry, filled up on the right. -/
theorem padRight_eq_rightpad (width : Nat) (entry : String) :
    padRight width entry = String.ofList (entry.toList.rightpad width ' ') := by
  rw [padRight, List.rightpad, String.ofList_append, String.ofList_toList, String.length_toList]

/-- The pieces of a line come to its layout. -/
theorem Frame.line_eq_printed (frame : Frame) : frame.line = frame.printed := by
  have haddress : frame.symbolAddress.text = "0x" ++
      String.ofList ((Nat.toDigits 16 frame.symbolAddress.toNat).leftpad 16 '0') := by
    rw [Address.text, String.ofList_cons, String.ofList_cons]
    rfl
  rw [line_eq, padRight_eq_rightpad, padRight_eq_rightpad, haddress, printed]
  simp only [indexWidth, moduleWidth, String.append_assoc]
  rfl

/-- What is no digit does not occur in a printed number. -/
theorem notMem_toDigits {radix : Nat} (hlt : 1 < radix) (hle : radix ≤ 16) {c : Char}
    (hc : Numeral.digitValue? radix c = none) (value : Nat) : c ∉ Nat.toDigits radix value := by
  intro hmem
  obtain ⟨digit, hdigit⟩ := (Numeral.denotes_toDigits hlt value).isDigit (by omega) hmem
  rw [(Numeral.digitValue?_eq_some_iff hle).2 hdigit] at hc
  cases hc

/-- A line breaks only where the module or the name does. -/
theorem Frame.lineBreak_mem_printed_iff (frame : Frame) :
    '\n' ∈ frame.printed.toList ↔ '\n' ∈ frame.moduleName.toList ∨ '\n' ∈ frame.name.toList := by
  have hdecimal : ∀ value, '\n' ∉ Nat.toDigits 10 value :=
    notMem_toDigits (by decide) (by decide) rfl
  have hhexadecimal : ∀ value, '\n' ∉ Nat.toDigits 16 value :=
    notMem_toDigits (by decide) (by decide) rfl
  simp [printed, List.rightpad, List.leftpad, hdecimal, hhexadecimal]

/-! ### Blanks -/

section

variable {entry other rest others : List Char}

/-- What ends at the first blank. -/
theorem append_blank_inj (hentry : ' ' ∉ entry) (hother : ' ' ∉ other)
    (h : entry ++ ' ' :: rest = other ++ ' ' :: others) : entry = other ∧ rest = others := by
  have hrun : ∀ {front : List Char} (back : List Char), ' ' ∉ front →
      (front ++ ' ' :: back).takeWhile (· != ' ') = front := by
    intro front back hfront
    refine (takeWhile_run ?_ ?_).1
    · intro c hc
      exact bne_iff_ne.2 fun heq => hfront (heq ▸ hc)
    · rintro c ⟨⟩
      rfl
  obtain rfl : entry = other := by rw [← hrun rest hentry, h, hrun others hother]
  exact ⟨rfl, (List.cons.inj (List.append_cancel_left h)).2⟩

/-- What starts behind the last blank. -/
theorem blank_append_inj (hrest : ' ' ∉ rest) (hothers : ' ' ∉ others)
    (h : entry ++ ' ' :: rest = other ++ ' ' :: others) : entry = other ∧ rest = others := by
  have hreverse : rest.reverse ++ ' ' :: entry.reverse = others.reverse ++ ' ' :: other.reverse := by
    simpa using congrArg List.reverse h
  have hinj := append_blank_inj (by simpa using hrest) (by simpa using hothers) hreverse
  exact ⟨List.reverse_inj.1 hinj.2, List.reverse_inj.1 hinj.1⟩

end

/-! ### Columns -/

/-- A column ends at the first blank, and its entry tells how far it is filled up. -/
theorem column_append_inj {width : Nat} {entry other rest others : String}
    (hentry : ' ' ∉ entry.toList) (hother : ' ' ∉ other.toList)
    (h : padRight width entry ++ (" " ++ rest) = padRight width other ++ (" " ++ others)) :
    entry = other ∧ rest = others := by
  have hcolumn : ∀ text next : String, (padRight width text ++ (" " ++ next)).toList =
      text.toList ++ ' ' :: (List.replicate (width - text.length) ' ' ++ next.toList) := by
    intro text next
    simp only [padRight, String.toList_append, String.toList_ofList, List.append_assoc]
    rw [← List.cons_append, ← List.replicate_succ, List.replicate_succ', List.append_assoc]
    rfl
  have hlist := congrArg String.toList h
  rw [hcolumn, hcolumn] at hlist
  obtain rfl := String.toList_inj.1 (append_blank_inj hentry hother hlist).1
  exact ⟨rfl, (String.append_right_inj _).1 ((String.append_right_inj _).1 h)⟩

/-- Digits are no blanks. -/
theorem blank_notMem_repr (value : Nat) : ' ' ∉ value.repr.toList := by
  rw [Nat.repr_eq_ofList_toDigits, String.toList_ofList]
  exact notMem_toDigits (by decide) (by decide) rfl value

/-! ### Addresses -/

/-- Every address is printed in the same width. -/
theorem Address.length_text (a : Address) : a.text.length = 18 := by
  have hlength : (Nat.toDigits 16 a.toNat).length ≤ 16 :=
    (Nat.length_toDigits_le_iff (by decide) (by decide)).2 a.toNat_lt
  simp only [text, String.length_ofList, List.length_cons, List.leftpad, List.length_append,
    List.length_replicate]
  omega

/-- So an address is read from the front of a text. -/
theorem Address.text_append_inj {a b : Address} {rest others : String}
    (h : a.text ++ rest = b.text ++ others) : a = b ∧ rest = others := by
  have hlist := congrArg String.toList h
  rw [String.toList_append, String.toList_append] at hlist
  have hlength : a.text.toList.length = b.text.toList.length := by
    rw [String.length_toList, String.length_toList, length_text, length_text]
  obtain ⟨htext, hrest⟩ := List.append_inj hlist hlength
  exact ⟨text_injective (String.toList_inj.1 htext), String.toList_inj.1 hrest⟩

/-! ### Lines -/

/-- The offset starts behind the last blank, whatever the name in front of it looks like. -/
theorem name_offset_inj {name other : String} {offset others : Nat}
    (h : name ++ (" + " ++ offset.repr) = other ++ (" + " ++ others.repr)) :
    name = other ∧ offset = others := by
  have htail : ∀ (text : String) (value : Nat), (text ++ (" + " ++ value.repr)).toList =
      (text ++ " +").toList ++ ' ' :: value.repr.toList := by
    intro text value
    simp only [String.toList_append, List.append_assoc]
    rfl
  have hlist := congrArg String.toList h
  rw [htail, htail] at hlist
  obtain ⟨hname, hoffset⟩ := blank_append_inj (blank_notMem_repr _) (blank_notMem_repr _) hlist
  exact ⟨(String.append_left_inj _).1 (String.toList_inj.1 hname),
    Nat.repr_injective (String.toList_inj.1 hoffset)⟩

namespace Frame

/-- **A printed line determines its frame**, if no module holds a blank. Nothing is asked of the
names: they may look like the columns beside them. -/
theorem line_inj {frame other : Frame} (hframe : ' ' ∉ frame.moduleName.toList)
    (hother : ' ' ∉ other.moduleName.toList) : frame.line = other.line ↔ frame = other := by
  refine ⟨fun h => ?_, fun h => congrArg line h⟩
  rw [line_eq, line_eq] at h
  obtain ⟨hindex, h⟩ := column_append_inj (blank_notMem_repr _) (blank_notMem_repr _) h
  obtain ⟨hmodule, h⟩ := column_append_inj hframe hother h
  obtain ⟨haddress, h⟩ := Address.text_append_inj h
  obtain ⟨hname, hoffset⟩ := name_offset_inj ((String.append_right_inj " ").1 h)
  cases frame
  cases other
  rw [mk.injEq]
  exact ⟨Nat.repr_injective hindex, hmodule, haddress, hname, hoffset⟩

/-- A name that looks like an address, a name and an offset is not taken for them. -/
theorem line_inj_namedLikeColumns :
    let frame := Frame.mk 0 "app" ⟨0x1000⟩ "0x0000000000001000 f + 1" 2
    let other := Frame.mk 0 "app" ⟨0x1000⟩ "f" 12
    ' ' ∉ frame.moduleName.toList ∧ ' ' ∉ other.moduleName.toList ∧ frame.line ≠ other.line := by
  intro frame other
  have hframe : ' ' ∉ frame.moduleName.toList := by decide
  have hother : ' ' ∉ other.moduleName.toList := by decide
  exact ⟨hframe, hother, fun h => absurd ((line_inj hframe hother).1 h) (by decide)⟩

/-- A blank at the end of a module's name would pass for filling. -/
example : (Frame.mk 0 "app " ⟨0x1000⟩ "f" 2).line = (Frame.mk 0 "app" ⟨0x1000⟩ "f" 2).line := by
  decide

end Frame

end SymbolTrace
