import SymbolTrace.Address

/-!
# Stack frames

One line of a stack trace: the position in the trace, the module, the start of the symbol, its
shown name and the offset from the symbol's start.

```text
0    app                                0x0000000000001000 Foo.bar() + 42
```

The first two columns are padded on the right to 4 and 34 characters. A longer entry is not cut,
so the columns after it move.

A line goes out in small pieces: whoever fills up a column writes the filling one character at a
time, behind an entry or in front of a number.
-/

namespace SymbolTrace

/-- One frame of a stack trace, ready to be printed. -/
structure Frame where
  /-- The position in the trace, counted from the newest. -/
  index : Nat
  /-- The last component of the module's path. -/
  moduleName : String
  /-- Where the symbol starts. -/
  symbolAddress : Address
  /-- The shown name of the symbol. -/
  name : String
  /-- Bytes from the start of the symbol to the address. -/
  offset : Nat
deriving DecidableEq, Repr

/-! ### Columns -/

/-- A text filled up with blanks on the right to a width in characters. -/
def padRight (width : Nat) (text : String) : String :=
  text ++ String.ofList (List.replicate (width - text.length) ' ')

/-- The width of the index column. -/
def indexWidth : Nat := 4

/-- The width of the module column. -/
def moduleWidth : Nat := 34

/-! ### Pieces -/

/-- The pieces that filling is written in. -/
def fillingFragments (filler : Char) (count : Nat) : List String :=
  List.replicate count (String.singleton filler)

/-- Filling that was written character by character is a run of the filler. -/
theorem join_fillingFragments (filler : Char) (count : Nat) :
    String.join (fillingFragments filler count) = String.ofList (List.replicate count filler) := by
  rw [fillingFragments]
  induction count with
  | zero => rfl
  | succ count ih =>
      rw [List.replicate_succ, String.join_cons, ih, List.replicate_succ, String.ofList_cons]

/-- The pieces a column is written in. -/
def columnFragments (width : Nat) (entry : String) : List String :=
  entry :: fillingFragments ' ' (width - entry.length)

/-- The pieces of a column come to the column. -/
theorem join_columnFragments (width : Nat) (entry : String) :
    String.join (columnFragments width entry) = padRight width entry := by
  rw [columnFragments, String.join_cons, join_fillingFragments, padRight]

/-- The pieces an address is written in. -/
def Address.fragments (a : Address) : List String :=
  let digits := Nat.toDigits 16 a.toNat
  "0x" :: (fillingFragments '0' (16 - digits.length) ++ [String.ofList digits])

/-- The pieces of an address come to its text. -/
theorem Address.join_fragments (a : Address) : String.join a.fragments = a.text := by
  simp only [fragments, String.join_cons, String.join_append, join_fillingFragments,
    String.join_nil, String.append_empty, text, List.leftpad, String.ofList_cons,
    String.ofList_append]
  rfl

/-- The pieces a frame's line is written in. -/
def Frame.fragments (frame : Frame) : List String :=
  columnFragments indexWidth frame.index.repr ++ " " ::
    (columnFragments moduleWidth frame.moduleName ++ " " ::
      (frame.symbolAddress.fragments ++ [" ", frame.name, " + ", frame.offset.repr]))

/-- The line of a frame, without the line break. -/
def Frame.line (frame : Frame) : String :=
  String.join frame.fragments

/-- The columns of a line, put together from their entries. -/
theorem Frame.line_eq (frame : Frame) :
    frame.line = padRight indexWidth frame.index.repr ++ (" " ++
      (padRight moduleWidth frame.moduleName ++ (" " ++
        (frame.symbolAddress.text ++ (" " ++ (frame.name ++ (" + " ++ frame.offset.repr))))))) := by
  simp only [line, fragments, String.join_append, String.join_cons, join_columnFragments,
    Address.join_fragments, String.join_nil, String.append_empty]

end SymbolTrace
