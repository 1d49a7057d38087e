import SymbolTrace.Proofs.Mangling.CursorTasks

/-!
# Decoding into an output

The decoder as it writes while it reads. A parser has a text with a cursor in it, an output, and the
number of function and tuple types that are open. A reader takes from what is in front of the cursor
and appends to the output. The items of a list are not written at once: each is captured, which puts
the output aside, has the item written to an empty one, and puts the output back.

A reader that fails leaves a parser behind as well, with what was taken and written by then. Looking
at what is in front of a cursor that does not lie between two characters is a panic, and so is
closing a type when none is open. A reader that succeeds has taken at least one byte, and `Attempt`
carries that fact, so the readers recurse on the bytes that are left.

What the readers of `SymbolTrace.Mangling.Decode` answer without an output is what these ones write,
and what was written before does not matter to them: the modules on settled readers are about this.

* `Parser`, `Attempt`: the state of a reader and what it comes to.
* `capture`, `nested`: a reader with an output of its own, and one inside a function or tuple type.
* `readIdentifier`, `readType`, `readTypeList`, `readBuiltinType`, `readArgument`: the readers.
* `Outcome`: what a reader comes to, without the fact about bytes.
-/

namespace SymbolTrace.Mangling

open Text

variable {α β : Type} {bound inner outer : Nat}

/-! ### Parsers -/

/-- The decoder in the middle of a text. -/
structure Parser where
  input : List Char
  /-- The cursor: how many bytes are behind it. -/
  position : Nat
  output : String
  /-- How many function and tuple types are open. -/
  depth : Nat
deriving DecidableEq, Repr

namespace Parser

variable (parser : Parser)

/-- What is in front of the cursor, if the cursor lies between two characters or at an end. -/
def unread? : Option (List Char) := suffixAt? parser.position parser.input

/-- The byte in front of the cursor. -/
def peek : Option UInt8 := Cursor.byteAt? parser.input parser.position

/-- Is the byte in front of the cursor that of an ASCII character? -/
def sees (marker : Char) : Bool := Cursor.sees parser.input parser.position marker

/-- How many bytes are in front of the cursor. -/
def room : Nat := byteCount parser.input - parser.position

/-- Move the cursor over the byte in front of it. -/
def bump : Parser := { parser with position := parser.position + 1 }

/-- Append to the output. -/
def write (text : String) : Parser := { parser with output := parser.output ++ text }

/-- The parser with an empty output. -/
def cleared : Parser := { parser with output := "" }

/-- The parser inside one more function or tuple type. -/
def deeper : Parser := { parser with depth := parser.depth + 1 }

/-- Moving the cursor makes no room. -/
theorem room_bump_le : parser.bump.room ≤ parser.room :=
  Nat.sub_le_sub_left (Nat.le_succ _) _

variable {parser}

/-- Moving the cursor over a byte takes room. -/
theorem room_bump_lt_of_peek {byte : UInt8} (h : parser.peek = some byte) :
    parser.bump.room < parser.room := by
  have hlt := Cursor.lt_byteCount_of_byteAt? h
  simp only [room, bump]
  omega

/-- Moving the cursor over a character that was seen takes room. -/
theorem room_bump_lt {marker : Char} (h : parser.sees marker = true) :
    parser.bump.room < parser.room :=
  room_bump_lt_of_peek (beq_iff_eq.1 h)

/-- Digits take room. -/
theorem room_lt_of_numberOf {digits : List Char} {value position : Nat}
    (hdigits : Cursor.digitsAt? parser.input parser.position = some digits)
    (hnumber : Cursor.numberOf parser.position digits = .ok (some (value, position))) :
    ({ parser with position } : Parser).room < parser.room := by
  obtain ⟨hlt, hle⟩ := Cursor.position_lt_of_numberOf hdigits hnumber
  simp only [room]
  omega

end Parser

/-! ### Attempts -/

/-- What a reader comes to. -/
inductive Attempt (α : Type) (bound : Nat) where
  /-- A value, and fewer than `bound` bytes in front of the cursor. -/
  | done (value : α) (parser : Parser) (room_lt : parser.room < bound)
  | failed (fault : DecodeError) (parser : Parser)
  | panicked

namespace Attempt

/-- An attempt of which less is known. -/
def widen (attempt : Attempt α inner) (h : inner ≤ outer) : Attempt α outer :=
  match attempt with
  | done value parser room_lt => done value parser (Nat.lt_of_lt_of_le room_lt h)
  | failed fault parser => failed fault parser
  | panicked => panicked

/-- One reader after another. -/
def andThen (first : Attempt α inner)
    (second : α → (parser : Parser) → parser.room < inner → Attempt β outer) : Attempt β outer :=
  match first with
  | done value parser room_lt => second value parser room_lt
  | failed fault parser => failed fault parser
  | panicked => panicked

/-- Take what was written, and put back the output written before. A failure puts it back too. -/
def restore (saved : String) (attempt : Attempt Unit bound) : Attempt String bound :=
  match attempt with
  | done () parser room_lt => done parser.output { parser with output := saved } room_lt
  | failed fault parser => failed fault { parser with output := saved }
  | panicked => panicked

/-- Close a function or tuple type. The count cannot go below zero. A failure closes it too. -/
def close (attempt : Attempt Unit bound) : Attempt Unit bound :=
  match attempt with
  | done () parser room_lt =>
      if parser.depth = 0 then panicked
      else done () { parser with depth := parser.depth - 1 } room_lt
  | failed fault parser =>
      if parser.depth = 0 then panicked
      else failed fault { parser with depth := parser.depth - 1 }
  | panicked => panicked

end Attempt

namespace Parser

/-- What a reader writes, taken out of the output. -/
def capture (read : (parser : Parser) → Attempt Unit parser.room) (parser : Parser) :
    Attempt String parser.room :=
  (read parser.cleared).restore parser.output

/-- An attempt inside one more function or tuple type, if there may be one more. -/
def nested (limit : Option Nat) (parser : Parser) (attempt : Attempt Unit bound) :
    Attempt Unit bound :=
  match checkNesting limit parser.depth with
  | .error fault => .failed fault parser
  | .ok () => attempt.close

/-! ### Numbers and names -/

/-- Read a number if a digit is there. If none is, nothing is taken. -/
def readOptionalInteger (parser : Parser) : Option (Attempt Nat parser.room) :=
  match hdigits : Cursor.digitsAt? parser.input parser.position with
  | none => some .panicked
  | some digits =>
      match hnumber : Cursor.numberOf parser.position digits with
      | .error fault => some (.failed fault parser)
      | .ok none => none
      | .ok (some (value, position)) =>
          some (.done value { parser with position } (room_lt_of_numberOf hdigits hnumber))

/-- Read a number that has to be there. -/
def readInteger (parser : Parser) : Attempt Nat parser.room :=
  parser.readOptionalInteger.getD (.failed .malformedInteger parser)

/-- Copy a name to the output: a length and then that many bytes. -/
def readIdentifier (parser : Parser) : Attempt Unit parser.room :=
  parser.readInteger.andThen fun size parser hroom =>
    -- an end behind all machine words is past the end of the text
    match slice? parser.position (parser.position + size) parser.input with
    | none => .failed .truncated parser
    | some name =>
        .done () ({ parser with position := parser.position + size }.write (String.ofList name))
          (Nat.lt_of_le_of_lt (Nat.sub_le_sub_left (Nat.le_add_right _ _) _) hroom)

/-! ### Types -/

variable [Allocator]

/-- A pointer count and the `T` that closes it, after the `P`; the markers are written. -/
def readPointers (parser : Parser) : Attempt Unit parser.room :=
  parser.readInteger.andThen fun count parser hroom =>
    if parser.sees 'T' then
      if Allocator.holdsRun count then
        .done () (parser.bump.write (pointerText (some count)))
          (Nat.lt_of_le_of_lt parser.room_bump_le hroom)
      else .failed .malformedInteger parser.bump
    else if parser.peek.isSome then .failed .unrecognizedFormat parser
    else .failed .truncated parser

/-- The width after the marker of a sized integer: a number, if a digit follows. -/
def readWidth (parser : Parser) : Attempt Unit (parser.room + 1) :=
  match parser.readOptionalInteger with
  | none => .done () parser (Nat.lt_succ_self _)
  | some attempt => attempt.andThen fun width parser hless =>
      .done () (parser.write width.repr) (Nat.lt_succ_of_lt hless)

/-- The code of a builtin type. -/
def readBuiltinType (parser : Parser) : Attempt Unit parser.room :=
  match hbyte : parser.peek with
  | none => .failed .truncated parser
  | some byte =>
      if parser.sees 'i' then
        (parser.bump.write "Int").readWidth.widen (room_bump_lt_of_peek hbyte)
      else
        match Builtin.ofLetter? (Char.ofUInt8 byte) with
        | some code => .done () (parser.bump.write code.text) (room_bump_lt_of_peek hbyte)
        | none =>
            -- the marker that is reported is the whole character, not its first byte
            match parser.unread? with
            | none => .panicked
            | some unread =>
                .failed (.unknownTypeMarker (unread.head?.getD (Char.ofUInt8 byte))) parser

mutual

/-- One type, with its pointer prefix if it has one. -/
def readType (limit : Option Nat) (parser : Parser) : Attempt Unit parser.room :=
  if hP : parser.sees 'P' then
    parser.bump.readPointers.andThen fun () inside hless =>
      (inside.readForm limit).widen (Nat.le_of_lt (Nat.lt_trans hless (room_bump_lt hP)))
  else
    parser.readForm limit
termination_by (parser.room, 1)
decreasing_by
  · exact Prod.Lex.left _ _ (Nat.lt_trans hless (room_bump_lt hP))
  · exact Prod.Lex.right _ Nat.zero_lt_one

/-- What follows the pointer prefix of a type. -/
def readForm (limit : Option Nat) (parser : Parser) : Attempt Unit parser.room :=
  if parser.peek.isNone then .failed .truncated parser
  else if hF : parser.sees 'F' then
    (parser.bump.nested limit (parser.bump.deeper.readFunctionType limit)).widen
      (Nat.le_of_lt (room_bump_lt hF))
  else if ht : parser.sees 't' then
    (parser.bump.nested limit (parser.bump.deeper.readTupleType limit)).widen
      (Nat.le_of_lt (room_bump_lt ht))
  else if parser.sees 's' then
    parser.bump.readBuiltinType.widen parser.room_bump_le
  else
    parser.readIdentifier
termination_by (parser.room, 0)
decreasing_by
  · exact Prod.Lex.left _ _ (room_bump_lt hF)
  · exact Prod.Lex.left _ _ (room_bump_lt ht)

/-- Types up to a terminating character, which is taken too. Nothing is written. -/
def readTypeList (limit : Option Nat) (terminator : Char) (parser : Parser) :
    Attempt (List String) parser.room :=
  if h : parser.sees terminator then
    .done [] parser.bump (room_bump_lt h)
  else
    -- this is `capture (readType limit)`, in a form that shows where the recursion goes
    ((parser.cleared.readType limit).restore parser.output).andThen fun item behind hless =>
      (behind.readTypeList limit terminator).andThen fun items parser hroom =>
        .done (item :: items) parser (Nat.lt_trans hroom hless)
termination_by (parser.room, 2)
decreasing_by
  · exact Prod.Lex.right _ (Nat.lt_succ_self 1)
  · exact Prod.Lex.left _ _ hless

/-- The parameters and the result of a function type, after its marker. -/
def readFunctionType (limit : Option Nat) (parser : Parser) : Attempt Unit parser.room :=
  (parser.readTypeList limit 'R').andThen fun parameters behind hless =>
    (((behind.write (parenthesized parameters)).write arrow).readType limit).widen
      (Nat.le_of_lt hless)
termination_by (parser.room, 3)
decreasing_by
  · exact Prod.Lex.right _ (Nat.lt_succ_self 2)
  · exact Prod.Lex.left _ _ hless

/-- The fields of a tuple type, after its marker. -/
def readTupleType (limit : Option Nat) (parser : Parser) : Attempt Unit parser.room :=
  (parser.readTypeList limit 'T').andThen fun fields behind hless =>
    .done () (behind.write (parenthesized fields)) hless
termination_by (parser.room, 3)
decreasing_by exact Prod.Lex.right _ (Nat.lt_succ_self 2)

end

/-! ### Arguments -/

/-- The name and the type of an argument. -/
def readNamedType (limit : Option Nat) (parser : Parser) : Attempt Unit parser.room :=
  parser.readIdentifier.andThen fun () behind hless =>
    ((behind.write ": ").readType limit).widen (Nat.le_of_lt hless)

/-- One argument: label marker, name and type. -/
def readArgument (limit : Option Nat) (parser : Parser) : Attempt Unit parser.room :=
  if parser.peek.isNone then .failed .truncated parser
  else if parser.sees 'S' then
    (parser.bump.readNamedType limit).widen parser.room_bump_le
  else if parser.sees 'E' then
    parser.bump.readIdentifier.andThen fun () behind hless =>
      ((behind.write " ").readNamedType limit).widen
        (Nat.le_trans (Nat.le_of_lt hless) parser.room_bump_le)
  else
    ((parser.write "_ ").readNamedType limit).widen (Nat.le_refl _)

end Parser

/-! ### Outcomes -/

/-- A value or a failure, and the parser it leaves; nothing for a panic. -/
abbrev Outcome (α : Type) := Option (Except DecodeError α × Parser)

/-- What an attempt comes to. -/
def Attempt.outcome : Attempt α bound → Outcome α
  | done value parser _ => some (.ok value, parser)
  | failed fault parser => some (.error fault, parser)
  | panicked => none

/-- One reader after another. -/
def Outcome.andThen (first : Outcome α) (second : α → Parser → Outcome β) : Outcome β :=
  match first with
  | some (.ok value, parser) => second value parser
  | some (.error fault, parser) => some (.error fault, parser)
  | none => none

/-- The output is what it was. -/
def Outcome.LeavesOutput (saved : String) (outcome : Outcome α) : Prop :=
  ∀ result after, outcome = some (result, after) → after.output = saved

/-- Readers that leave the output as it was may be chained. -/
theorem Outcome.LeavesOutput.andThen {saved : String} {first : Outcome α}
    {second : α → Parser → Outcome β} (hfirst : first.LeavesOutput saved)
    (hsecond : ∀ value parser, first = some (.ok value, parser) →
      (second value parser).LeavesOutput saved) : (first.andThen second).LeavesOutput saved := by
  intro result after h
  match first with
  | none => cases h
  | some (.error fault, parser) =>
      cases h
      exact hfirst _ _ rfl
  | some (.ok value, parser) => exact hsecond value parser rfl result after h

namespace Attempt

/-- A success has taken at least a byte. -/
theorem room_lt_of_outcome {attempt : Attempt α bound} {value : α} {parser : Parser}
    (h : attempt.outcome = some (.ok value, parser)) : parser.room < bound := by
  cases attempt with
  | done _ _ room_lt =>
      cases h
      exact room_lt
  | failed => cases h
  | panicked => cases h

/-- The bound is no part of the outcome. -/
theorem outcome_widen (attempt : Attempt α inner) (h : inner ≤ outer) :
    (attempt.widen h).outcome = attempt.outcome := by
  cases attempt <;> rfl

/-- The outcome of a chain is the chain of the outcomes. -/
theorem outcome_andThen {first : Attempt α inner}
    {second : α → (parser : Parser) → parser.room < inner → Attempt β outer}
    {next : α → Parser → Outcome β}
    (h : ∀ value parser room_lt, (second value parser room_lt).outcome = next value parser) :
    (first.andThen second).outcome = first.outcome.andThen next := by
  cases first with
  | done value parser room_lt => exact h value parser room_lt
  | failed => rfl
  | panicked => rfl

/-- On both ways out the output is put back. -/
theorem outcome_restore (saved : String) (attempt : Attempt Unit bound) :
    (attempt.restore saved).outcome = attempt.outcome.map fun after =>
      (after.1.map fun () => after.2.output, { after.2 with output := saved }) := by
  cases attempt <;> rfl

/-- On both ways out the type is closed, and with none open this panics. -/
theorem outcome_close (attempt : Attempt Unit bound) :
    attempt.close.outcome = attempt.outcome.bind fun after =>
      if after.2.depth = 0 then none
      else some (after.1, { after.2 with depth := after.2.depth - 1 }) := by
  cases attempt with
  | done _ parser _ | failed _ parser =>
      simp only [close, outcome, Option.bind_some]
      by_cases hdepth : parser.depth = 0
      · rw [if_pos hdepth, if_pos hdepth]
      · rw [if_neg hdepth, if_neg hdepth]
  | panicked => rfl

end Attempt

namespace Parser

open Attempt

variable (limit : Option Nat) (parser : Parser)

/-- The outcome of a capture is what the reader writes to an empty output. -/
theorem outcome_capture (read : (parser : Parser) → Attempt Unit parser.room) :
    (parser.capture read).outcome = (read parser.cleared).outcome.map fun after =>
      (after.1.map fun () => after.2.output, { after.2 with output := parser.output }) :=
  outcome_restore parser.output _

/-- A name is copied if all of its bytes are there. -/
theorem outcome_readIdentifier :
    parser.readIdentifier.outcome = parser.readInteger.outcome.andThen fun size parser =>
      match slice? parser.position (parser.position + size) parser.input with
      | none => some (.error .truncated, parser)
      | some name =>
          some (.ok (), { parser with position := parser.position + size }.write
            (String.ofList name)) := by
  refine outcome_andThen fun size parser _ => ?_
  split
  all_goals rfl

/-- A width that is missing changes nothing. -/
theorem outcome_readWidth :
    parser.readWidth.outcome =
      match parser.readOptionalInteger with
      | none => some (.ok (), parser)
      | some attempt =>
          attempt.outcome.andThen fun width parser => some (.ok (), parser.write width.repr) := by
  rw [readWidth]
  split
  · rfl
  · exact outcome_andThen fun width parser _ => rfl

/-- At the end there is no code. -/
theorem outcome_readBuiltinType_of_peek_eq_none (hpeek : parser.peek = none) :
    parser.readBuiltinType.outcome = some (.error .truncated, parser) := by
  unfold readBuiltinType
  split
  · rfl
  · rename_i byte hbyte
    rw [hpeek] at hbyte
    cases hbyte

/-- A code is told by its first byte, and an unknown one by its whole character. -/
theorem outcome_readBuiltinType {byte : UInt8} (hpeek : parser.peek = some byte) :
    parser.readBuiltinType.outcome =
      if parser.sees 'i' then (parser.bump.write "Int").readWidth.outcome
      else
        match Builtin.ofLetter? (Char.ofUInt8 byte) with
        | some code => some (.ok (), parser.bump.write code.text)
        | none => parser.unread?.map fun unread =>
            (.error (.unknownTypeMarker (unread.head?.getD (Char.ofUInt8 byte))), parser) := by
  unfold readBuiltinType
  split
  · rename_i hnone
    rw [hpeek] at hnone
    cases hnone
  · rename_i byte' hbyte
    obtain rfl : byte' = byte := Option.some.inj (hbyte.symm.trans hpeek)
    split
    · exact outcome_widen _ _
    · cases Builtin.ofLetter? (Char.ofUInt8 byte') with
      | some code => rfl
      | none => cases parser.unread? <;> rfl

variable [Allocator]

/-- The markers are written once the count is closed and there is room for them. -/
theorem outcome_readPointers :
    parser.readPointers.outcome = parser.readInteger.outcome.andThen fun count parser =>
      if parser.sees 'T' then
        if Allocator.holdsRun count then
          some (.ok (), parser.bump.write (pointerText (some count)))
        else some (.error .malformedInteger, parser.bump)
      else if parser.peek.isSome then some (.error .unrecognizedFormat, parser)
      else some (.error .truncated, parser) := by
  refine outcome_andThen fun count parser _ => ?_
  split
  · split
    all_goals rfl
  · split
    all_goals rfl

/-- A type is a pointer prefix and a form, or a form alone. -/
theorem outcome_readType :
    (parser.readType limit).outcome =
      if parser.sees 'P' then
        parser.bump.readPointers.outcome.andThen fun _ inside => (inside.readForm limit).outcome
      else (parser.readForm limit).outcome := by
  rw [readType]
  split
  · exact outcome_andThen fun _ inside _ => outcome_widen _ _
  · rfl

/-- The byte in front of the cursor tells the forms apart. -/
theorem outcome_readForm :
    (parser.readForm limit).outcome =
      if parser.peek.isNone then some (.error .truncated, parser)
      else if parser.sees 'F' then
        (parser.bump.nested limit (parser.bump.deeper.readFunctionType limit)).outcome
      else if parser.sees 't' then
        (parser.bump.nested limit (parser.bump.deeper.readTupleType limit)).outcome
      else if parser.sees 's' then parser.bump.readBuiltinType.outcome
      else parser.readIdentifier.outcome := by
  rw [readForm]
  split
  · rfl
  split
  · exact outcome_widen _ _
  split
  · exact outcome_widen _ _
  split
  · exact outcome_widen _ _
  · rfl

/-- A list is at its end, or it goes on with a captured type. -/
theorem outcome_readTypeList (terminator : Char) :
    (parser.readTypeList limit terminator).outcome =
      if parser.sees terminator then some (.ok [], parser.bump)
      else
        (parser.capture (readType limit)).outcome.andThen fun item behind =>
        (behind.readTypeList limit terminator).outcome.andThen fun items parser =>
          some (.ok (item :: items), parser) := by
  rw [readTypeList]
  split
  · rfl
  · refine outcome_andThen fun item behind _ => ?_
    exact outcome_andThen fun items parser _ => rfl

/-- The parameters are written before the result type is read. -/
theorem outcome_readFunctionType :
    (parser.readFunctionType limit).outcome =
      (parser.readTypeList limit 'R').outcome.andThen fun parameters behind =>
        (((behind.write (parenthesized parameters)).write arrow).readType limit).outcome := by
  rw [readFunctionType]
  exact outcome_andThen fun parameters behind _ => outcome_widen _ _

/-- The fields are written once all of them are read. -/
theorem outcome_readTupleType :
    (parser.readTupleType limit).outcome =
      (parser.readTypeList limit 'T').outcome.andThen fun fields behind =>
        some (.ok (), behind.write (parenthesized fields)) := by
  rw [readTupleType]
  exact outcome_andThen fun fields behind _ => rfl

/-- A name is written before its type is read. -/
theorem outcome_readNamedType :
    (parser.readNamedType limit).outcome =
      parser.readIdentifier.outcome.andThen fun _ behind =>
        ((behind.write ": ").readType limit).outcome :=
  outcome_andThen fun _ _ _ => outcome_widen _ _

/-- The label tells how the name of an argument is shown. -/
theorem outcome_readArgument :
    (parser.readArgument limit).outcome =
      if parser.peek.isNone then some (.error .truncated, parser)
      else if parser.sees 'S' then (parser.bump.readNamedType limit).outcome
      else if parser.sees 'E' then
        parser.bump.readIdentifier.outcome.andThen fun _ behind =>
          ((behind.write " ").readNamedType limit).outcome
      else ((parser.write "_ ").readNamedType limit).outcome := by
  rw [readArgument]
  split
  · rfl
  split
  · exact outcome_widen _ _
  split
  · exact outcome_andThen fun _ behind _ => outcome_widen _ _
  · exact outcome_widen _ _

end Parser

end SymbolTrace.Mangling
