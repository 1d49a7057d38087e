import Mathlib.Logic.Relation
import SymbolTrace.Proofs.Mangling.Answer
import SymbolTrace.Text.Utf8

/-!
# Decoding with a cursor

The decoder, taken apart into small steps. A cursor goes through the bytes of the text after the
sentinel; it looks at single bytes, and takes out parts of the text by byte positions. Looking
at what is behind a position is refused inside a character and past the end, and then the decoder
has no way to go on: it panics. The shown form is written from left to right as the text is read.
Function and tuple types are counted while they are open.

What is left to be done stands on a stack of tasks. A task that reads an item of a list has the text
written so far put aside, and a task below it takes the item and puts that text back. A failure
does not end the decoder at once: the tasks are taken off the stack one by one, and those that
close a type or put a text back still do so.

Nothing of this can be seen from outside: `Cursor.ends_start` in the module on runs of the cursor
says that the steps come to what the readers answer.

* `Task`, `State`: what is left to be done, and the rest of the decoder's state.
* `step`: one step; `Reaches`: any number of them.
-/

namespace SymbolTrace.Mangling.Cursor

open Text

/-! ### Looking at the text -/

/-- The byte at a position. -/
def byteAt? (input : List Char) (position : Nat) : Option UInt8 :=
  (utf8 input)[position]?

/-- Is the byte at a position that of an ASCII character? -/
def sees (input : List Char) (position : Nat) (marker : Char) : Bool :=
  byteAt? input position == some marker.toUInt8

/-- Is the byte that of a decimal digit? -/
def isDigitByte (byte : UInt8) : Bool := 48 ≤ byte && byte ≤ 57

/-- The run of digits at a position. They are counted as bytes and taken out as a text. -/
def digitsAt? (input : List Char) (position : Nat) : Option (List Char) := do
  let unread ← suffixAt? position input
  let size := ((utf8 unread).takeWhile isDigitByte).length
  let (digits, _) ← splitBytes? size unread
  return digits

/-- The number that digits spell, and the position behind them; nothing if there are no digits. -/
def numberOf (position : Nat) (digits : List Char) : Except DecodeError (Option (Nat × Nat)) :=
  if digits = [] then .ok none
  else if Nat.ofDigitChars 10 digits 0 < numberBound then
    .ok (some (Nat.ofDigitChars 10 digits 0, position + digits.length))
  else .error .malformedInteger

/-- There is one way for a number to fail. -/
theorem eq_malformedInteger_of_numberOf {position : Nat} {digits : List Char} {fault : DecodeError}
    (h : numberOf position digits = .error fault) : fault = .malformedInteger := by
  unfold numberOf at h
  split at h
  · cases h
  · split at h <;> cases h
    rfl

/-- A number has a digit at least, and ends with the last one. -/
theorem numberOf_eq_some {position stop value : Nat} {digits : List Char}
    (h : numberOf position digits = .ok (some (value, stop))) :
    digits ≠ [] ∧ value < numberBound ∧ stop = position + digits.length := by
  unfold numberOf at h
  split at h
  · cases h
  · rename_i hne
    split at h
    · rename_i hvalue
      cases h
      exact ⟨hne, hvalue, rfl⟩
    · cases h

section

variable {input unread : List Char} {position : Nat}

/-- The byte at a position is the first one of what is behind it. -/
theorem byteAt?_eq (h : suffixAt? position input = some unread) :
    byteAt? input position = (utf8 unread).head? := by
  obtain ⟨front, rfl, rfl⟩ := suffixAt?_eq_some_iff.1 h
  rw [byteAt?, utf8_append, ← length_utf8, List.getElem?_append_right (Nat.le_refl _), Nat.sub_self,
    List.head?_eq_getElem?]

/-- There is a byte unless the text is at its end. -/
theorem isSome_byteAt? (h : suffixAt? position input = some unread) :
    (byteAt? input position).isSome = true ↔ unread ≠ [] := by
  rw [byteAt?_eq h, List.isSome_head?, Ne, utf8_eq_nil_iff]

/-- There is a byte where a character is. -/
theorem isSome_byteAt?_cons {c : Char} (h : suffixAt? position input = some (c :: unread)) :
    (byteAt? input position).isSome = true :=
  (isSome_byteAt? h).2 (List.cons_ne_nil c unread)

/-- A character that is there is there to be looked at. -/
theorem isNone_byteAt?_cons {c : Char} (h : suffixAt? position input = some (c :: unread)) :
    (byteAt? input position).isNone = false :=
  Option.isNone_eq_false_iff.2 (isSome_byteAt?_cons h)

/-- A byte is enough to recognise an ASCII character. -/
theorem sees_iff (h : suffixAt? position input = some unread) {marker : Char}
    (hmarker : marker.toNat < 128) :
    sees input position marker = true ↔ unread.head? = some marker := by
  rw [sees, byteAt?_eq h, beq_iff_eq]
  cases unread with
  | nil => simp
  | cons c unread =>
      rw [utf8_cons, List.head?_cons, Option.some.injEq]
      constructor
      · intro hhead
        refine (mem_utf8EncodeChar_iff hmarker).1 (List.mem_of_head? ?_)
        rwa [List.head?_append, Option.or_of_isSome (by simp)] at hhead
      · rintro rfl
        rw [utf8EncodeChar_of_ascii hmarker]
        rfl

/-- What is seen is whether the next character is the marker. -/
theorem sees_cons {c : Char} (h : suffixAt? position input = some (c :: unread)) {marker : Char}
    (hmarker : marker.toNat < 128) : sees input position marker = decide (c = marker) := by
  rw [Bool.eq_iff_iff, sees_iff h hmarker, List.head?_cons, Option.some.injEq, decide_eq_true_eq]

/-- At the end nothing is seen. -/
theorem sees_nil (h : suffixAt? position input = some []) {marker : Char}
    (hmarker : marker.toNat < 128) : sees input position marker = false := by
  rw [Bool.eq_false_iff, Ne, sees_iff h hmarker]
  exact nofun

/-- Behind an ASCII character is the next position. -/
theorem suffixAt?_succ {c : Char} (h : suffixAt? position input = some (c :: unread))
    (hc : c.toNat < 128) : suffixAt? (position + 1) input = some unread := by
  obtain ⟨front, rfl, rfl⟩ := suffixAt?_eq_some_iff.1 h
  have hsize : byteCount (front ++ [c]) = byteCount front + 1 := by
    rw [byteCount_append, ← length_utf8 [c], utf8_cons, utf8EncodeChar_of_ascii hc]
    rfl
  rw [← hsize, show front ++ c :: unread = (front ++ [c]) ++ unread by simp, suffixAt?_byteCount]

/-- Behind a part of the text is the position that is so many bytes further. -/
theorem suffixAt?_add {part rest : List Char} (h : suffixAt? position input = some (part ++ rest)) :
    suffixAt? (position + byteCount part) input = some rest := by
  obtain ⟨front, rfl, rfl⟩ := suffixAt?_eq_some_iff.1 h
  rw [← byteCount_append, ← List.append_assoc, suffixAt?_byteCount]

/-- A part of the text can be taken out if it ends between characters. -/
theorem slice?_eq (h : suffixAt? position input = some unread) (size : Nat) :
    slice? position (position + size) input = (splitBytes? size unread).map Prod.fst := by
  simp [slice?, h]

/-- The letters of builtin types are ASCII characters. -/
theorem toNat_lt_of_ofLetter? {c : Char} {code : Builtin} (h : Builtin.ofLetter? c = some code) :
    c.toNat < 128 := by
  fun_cases Builtin.ofLetter? c
  iterate 6 decide
  simp_all [Builtin.ofLetter?]

/-- A single byte tells which builtin type a character stands for. -/
theorem ofLetter?_of_byteAt? {c : Char} {byte : UInt8}
    (h : suffixAt? position input = some (c :: unread))
    (hbyte : byteAt? input position = some byte) :
    Builtin.ofLetter? (Char.ofUInt8 byte) = Builtin.ofLetter? c := by
  have hmem : byte ∈ String.utf8EncodeChar c := by
    rw [byteAt?_eq h, utf8_cons, List.head?_append, Option.or_of_isSome (by simp)] at hbyte
    exact List.mem_of_head? hbyte
  by_cases hlow : byte < 128
  · obtain ⟨hc, rfl⟩ := utf8EncodeChar_eq_singleton_of_mem hmem hlow
    rw [ofUInt8_toUInt8 hc]
  · have hc : ¬ c.toNat < 128 := by
      intro hc
      rw [utf8EncodeChar_of_ascii hc, List.mem_singleton] at hmem
      rw [hmem, UInt8.lt_iff_toNat_lt, toNat_toUInt8 hc] at hlow
      exact hlow hc
    rw [UInt8.lt_iff_toNat_lt, ← toNat_ofUInt8] at hlow
    have hnone : ∀ {d : Char}, ¬ d.toNat < 128 → Builtin.ofLetter? d = none := fun hd =>
      Option.eq_none_iff_forall_ne_some.2 fun _ hcode => hd (toNat_lt_of_ofLetter? hcode)
    rw [hnone hlow, hnone hc]

/-- A single byte tells whether a character is a digit. -/
theorem isDigitByte_eq_isDigit {c : Char} {byte : UInt8} (h : byte ∈ String.utf8EncodeChar c) :
    isDigitByte byte = c.isDigit := by
  have hascii : ∀ {d : Char}, d.toNat < 128 → isDigitByte d.toUInt8 = d.isDigit := by
    intro d hd
    simp only [isDigitByte, Char.isDigit, UInt8.le_iff_toNat_le, UInt32.le_iff_toNat_le,
      toNat_toUInt8 hd]
    rfl
  by_cases hc : c.toNat < 128
  · rw [utf8EncodeChar_of_ascii hc, List.mem_singleton] at h
    rw [h, hascii hc]
  · have hbyte : ¬ isDigitByte byte = true := by
      intro hdigit
      simp only [isDigitByte, Bool.and_eq_true, decide_eq_true_eq] at hdigit
      exact hc (utf8EncodeChar_eq_singleton_of_mem h (UInt8.lt_of_le_of_lt hdigit.2 (by decide))).1
    rw [Bool.eq_false_iff.2 hbyte, Bool.eq_false_iff.2 (mt toNat_lt_of_isDigit hc)]

/-- So the bytes of a run of digits are those in front of the first byte that is none. -/
theorem takeWhile_isDigitByte_utf8 (text : List Char) :
    (utf8 text).takeWhile isDigitByte = utf8 (text.takeWhile Char.isDigit) := by
  induction text with
  | nil => rfl
  | cons c text ih =>
      have hbytes : ∀ byte ∈ String.utf8EncodeChar c, isDigitByte byte = c.isDigit :=
        fun byte => isDigitByte_eq_isDigit
      rw [utf8_cons, List.takeWhile_cons]
      cases hc : c.isDigit with
      | true =>
          rw [List.takeWhile_append_of_pos (fun byte hbyte => (hbytes byte hbyte).trans hc), ih]
          rfl
      | false =>
          cases hencode : String.utf8EncodeChar c with
          | nil => simp at hencode
          | cons byte bytes =>
              have hbyte := hbytes byte (hencode ▸ List.mem_cons_self)
              rw [List.cons_append, List.takeWhile_cons, hbyte, hc]
              rfl

/-- Each digit is one byte. -/
theorem byteCount_takeWhile_isDigit (text : List Char) :
    byteCount (text.takeWhile Char.isDigit) = (text.takeWhile Char.isDigit).length :=
  byteCount_eq_length fun c hc => toNat_lt_of_isDigit (List.all_eq_true.1 List.all_takeWhile c hc)

/-- The digits in front of the cursor are the run of digits that the unread text begins with. -/
theorem digitsAt?_eq (h : suffixAt? position input = some unread) :
    digitsAt? input position = some (unread.takeWhile Char.isDigit) := by
  have hsplit : splitBytes? ((utf8 unread).takeWhile isDigitByte).length unread =
      some (unread.takeWhile Char.isDigit, unread.dropWhile Char.isDigit) := by
    have hrun := splitBytes?_byteCount (unread.takeWhile Char.isDigit)
      (unread.dropWhile Char.isDigit)
    rwa [List.takeWhile_append_dropWhile, ← length_utf8, ← takeWhile_isDigitByte_utf8] at hrun
  simp [digitsAt?, h, hsplit]

/-- Behind the digits the cursor lies between characters again. -/
theorem suffixAt?_digits (h : suffixAt? position input = some unread) :
    suffixAt? (position + (unread.takeWhile Char.isDigit).length) input =
      some (unread.dropWhile Char.isDigit) := by
  rw [← List.takeWhile_append_dropWhile (p := Char.isDigit) (l := unread)] at h
  rw [← byteCount_takeWhile_isDigit]
  exact suffixAt?_add h

/-- A byte lies inside the text. -/
theorem lt_byteCount_of_byteAt? {byte : UInt8} (h : byteAt? input position = some byte) :
    position < byteCount input := by
  obtain ⟨hlt, -⟩ := List.getElem?_eq_some_iff.1 h
  rwa [length_utf8] at hlt

/-- What is seen lies inside the text. -/
theorem lt_byteCount_of_sees {marker : Char} (h : sees input position marker = true) :
    position < byteCount input :=
  lt_byteCount_of_byteAt? (beq_iff_eq.1 h)

/-- The byte of an ASCII character stands between characters. -/
theorem exists_suffixAt? {byte : UInt8} (h : byteAt? input position = some byte)
    (hbyte : byte < 128) : ∃ unread, suffixAt? position input = some unread := by
  induction input generalizing position with
  | nil => cases h
  | cons c cs ih =>
      by_cases hzero : position = 0
      · exact ⟨c :: cs, by rw [hzero, suffixAt?, splitBytes?_zero, Option.map_some]⟩
      rw [byteAt?, utf8_cons] at h
      by_cases hin : position < (String.utf8EncodeChar c).length
      · -- inside a character are no such bytes
        rw [List.getElem?_append_left hin] at h
        have hc := (utf8EncodeChar_eq_singleton_of_mem (List.mem_of_getElem? h) hbyte).1
        rw [utf8EncodeChar_of_ascii hc, List.length_singleton] at hin
        omega
      · rw [List.getElem?_append_right (Nat.le_of_not_lt hin)] at h
        obtain ⟨unread, hunread⟩ := ih h
        obtain ⟨front, rfl, hfront⟩ := suffixAt?_eq_some_iff.1 hunread
        refine ⟨unread, suffixAt?_eq_some_iff.2 ⟨c :: front, rfl, ?_⟩⟩
        rw [byteCount, hfront, ← String.length_utf8EncodeChar]
        omega

/-- The digits of a number are in the text. -/
theorem position_lt_of_numberOf {stop value : Nat} {digits : List Char}
    (hdigits : digitsAt? input position = some digits)
    (hnumber : numberOf position digits = .ok (some (value, stop))) :
    position < stop ∧ stop ≤ byteCount input := by
  obtain ⟨hne, -, rfl⟩ := numberOf_eq_some hnumber
  obtain ⟨unread, hunread, -⟩ := Option.bind_eq_some_iff.1 hdigits
  obtain rfl : unread.takeWhile Char.isDigit = digits :=
    Option.some.inj ((digitsAt?_eq hunread).symm.trans hdigits)
  have hlength := List.length_pos_iff.2 hne
  exact ⟨by omega, le_byteCount_of_suffixAt? (suffixAt?_digits hunread)⟩

end

/-! ### States -/

/-- A list of the grammar. -/
inductive Listing where
  | parameters
  | fields
  | arguments
deriving DecidableEq, Repr

/-- Something that is left to be done. -/
inductive Task where
  | declaration
  | function
  | type
  /-- The number of a pointer prefix. -/
  | pointerCount
  /-- The end of a pointer prefix with this number. -/
  | pointerEnd (count : Nat)
  /-- A type without its pointer prefix. -/
  | form
  | builtin
  /-- The width of a sized integer. -/
  | width
  | name
  /-- The bytes of a name. -/
  | nameBytes (size : Nat)
  /-- The items of a list that are not read yet, behind those that are. -/
  | items (listing : Listing) (read : List String)
  /-- Take what was written as the next item, and put back the text written before. -/
  | collect (listing : Listing) (read : List String) (saved : String)
  /-- Close a function or tuple type. -/
  | close
  | argument
  /-- The result of a function symbol, if there is one. -/
  | result
  | closureMark
  | write (text : String)
deriving DecidableEq, Repr

/-- What ends the list. -/
def Listing.terminator : Listing → Char
  | parameters => 'R'
  | fields => 'T'
  | arguments => '_'

/-- What reads an item of the list. -/
def Listing.item : Listing → Task
  | parameters => .type
  | fields => .type
  | arguments => .argument

/-- The decoder between two steps. -/
structure State where
  /-- The cursor. -/
  position : Nat
  output : String
  /-- The count of open function and tuple types. -/
  depth : Nat
  tasks : List Task
  /-- The failure that is on its way out. -/
  fault : Option DecodeError
  kind : Kind
  closureWrapper : Bool
deriving DecidableEq, Repr

/-- What a step comes to. -/
inductive Progress where
  | next (state : State)
  | done (result : Except DecodeError Demangled)
  | panicked

namespace State

/-- The decoder in front of the first marker. -/
def start : State where
  position := 0
  output := ""
  depth := 0
  tasks := [.declaration]
  fault := none
  kind := .type
  closureWrapper := false

variable (state : State)

/-- Put tasks on the stack; the first of them is done first. -/
def push (tasks : List Task) : State := { state with tasks := tasks ++ state.tasks }

/-- Move the cursor behind the byte it stands at. -/
def bump : State := { state with position := state.position + 1 }

/-- Append to what is shown. -/
def write (text : String) : State := { state with output := state.output ++ text }

/-- Give up for a reason. The tasks are left to be unwound. -/
def fail (fault : DecodeError) : State := { state with fault := some fault }

/-- Read a number if one is there. -/
def readOptionalNumber (input : List Char) (next : Option Nat → State → State) : Progress :=
  match digitsAt? input state.position with
  | none => .panicked
  | some digits =>
      match numberOf state.position digits with
      | .error fault => .next (state.fail fault)
      | .ok none => .next (next none state)
      | .ok (some (value, position)) => .next (next (some value) { state with position })

/-- Read a number that has to be there. -/
def readNumber (input : List Char) (next : Nat → State → State) : Progress :=
  state.readOptionalNumber input fun
    | none, state => state.fail .malformedInteger
    | some value, state => next value state

/-- Open a function or tuple type. -/
def enter (limit : Option Nat) (tasks : List Task) : State :=
  match checkNesting limit state.depth with
  | .error fault => state.fail fault
  | .ok () => { state with depth := state.depth + 1 }.push tasks

/-- What is reported when nothing is left to be done. -/
def result : Except DecodeError Demangled :=
  match state.fault with
  | none => .ok ⟨state.kind, state.output, state.closureWrapper⟩
  | some fault => .error fault

/-- Close a function or tuple type. The count cannot go below zero. -/
def close : Progress :=
  if state.depth = 0 then .panicked else .next { state with depth := state.depth - 1 }

end State

/-! ### Steps -/

/-- What is shown of the width of a sized integer, if it has one. -/
def widthText : Option Nat → String
  | none => ""
  | some width => width.repr

/-- What follows the callee of a function symbol. -/
def signatureTasks : List Task := [.items .arguments [], .result, .closureMark]

variable [Allocator]

/-- Do a task that was taken off the stack. -/
def perform (limit : Option Nat) (input : List Char) (task : Task) (state : State) : Progress :=
  let sees := sees input state.position
  match task with
  | .declaration =>
      if sees 'T' then .next (state.bump.push [.type])
      else if sees 'C' then .next (state.fail .unsupported)
      else if sees 'F' then .next (state.bump.push [.function])
      else .next (state.fail .unrecognizedFormat)
  | .function =>
      if sees 'D' then
        .next ({ state.bump with kind := .function .deinitializer }.push [.type, .write ".deinit"])
      else if sees 'M' then
        .next ({ state.bump with kind := .function .method }.push
          (.type :: .write "." :: .name :: signatureTasks))
      else if sees 'I' then
        .next ({ state.bump with kind := .function .initializer }.push
          (.type :: .write ".init" :: signatureTasks))
      else .next ({ state with kind := .function .free }.push (.name :: signatureTasks))
  | .type =>
      if sees 'P' then .next (state.bump.push [.pointerCount, .form])
      else .next (state.push [.form])
  | .pointerCount => state.readNumber input fun count state => state.push [.pointerEnd count]
  | .pointerEnd count =>
      if sees 'T' then
        if Allocator.holdsRun count then .next (state.bump.write (pointerText (some count)))
        else .next (state.fail .malformedInteger)
      else if (byteAt? input state.position).isSome then .next (state.fail .unrecognizedFormat)
      else .next (state.fail .truncated)
  | .form =>
      if (byteAt? input state.position).isNone then .next (state.fail .truncated)
      else if sees 'F' then
        .next (state.bump.enter limit [.items .parameters [], .write arrow, .type, .close])
      else if sees 't' then .next (state.bump.enter limit [.items .fields [], .close])
      else if sees 's' then .next (state.bump.push [.builtin])
      else .next (state.push [.name])
  | .builtin =>
      match byteAt? input state.position with
      | none => .next (state.fail .truncated)
      | some byte =>
          if sees 'i' then .next ((state.bump.write "Int").push [.width])
          else
            match Builtin.ofLetter? (Char.ofUInt8 byte) with
            | some code => .next (state.bump.write code.text)
            | none =>
                -- the marker that is reported is the whole character, not its first byte
                match suffixAt? state.position input with
                | none => .panicked
                | some unread =>
                    .next (state.fail (.unknownTypeMarker (unread.head?.getD (Char.ofUInt8 byte))))
  | .width => state.readOptionalNumber input fun width state => state.write (widthText width)
  | .name => state.readNumber input fun size state => state.push [.nameBytes size]
  | .nameBytes size =>
      -- an end behind all machine words is past the end of the text
      match slice? state.position (state.position + size) input with
      | none => .next (state.fail .truncated)
      | some name =>
          .next ({ state with position := state.position + size }.write (String.ofList name))
  | .items listing read =>
      if sees listing.terminator then .next (state.bump.write (parenthesized read))
      else .next ({ state with output := "" }.push
        [listing.item, .collect listing read state.output])
  | .collect listing read saved =>
      .next ({ state with output := saved }.push [.items listing (read ++ [state.output])])
  | .close => state.close
  | .argument =>
      if (byteAt? input state.position).isNone then .next (state.fail .truncated)
      else if sees 'S' then .next (state.bump.push [.name, .write ": ", .type])
      else if sees 'E' then .next (state.bump.push [.name, .write " ", .name, .write ": ", .type])
      else .next ((state.write "_ ").push [.name, .write ": ", .type])
  | .result =>
      if sees 'R' then .next ((state.bump.write arrow).push [.type]) else .next state
  | .closureMark =>
      if sees 'C' then .next { state.bump.write closureRemark with closureWrapper := true }
      else .next state
  | .write text => .next (state.write text)

/-- Give up a task that was taken off the stack. -/
def unwind (task : Task) (state : State) : Progress :=
  match task with
  | .collect _ _ saved => .next { state with output := saved }
  | .close => state.close
  | _ => .next state

/-- One step. -/
def step (limit : Option Nat) (input : List Char) (state : State) : Progress :=
  match state.tasks, state.fault with
  | [], _ => .done state.result
  | task :: tasks, none => perform limit input task { state with tasks }
  | task :: tasks, some _ => unwind task { state with tasks }

/-- The second state comes after the first in any number of steps. -/
def Reaches (limit : Option Nat) (input : List Char) : State → State → Prop :=
  Relation.ReflTransGen fun state next => step limit input state = .next next

/-- What every step keeps holds after any number of steps. -/
theorem Reaches.keeps {limit : Option Nat} {input : List Char} {state final : State}
    {P : State → Prop} (hreaches : Reaches limit input state final)
    (hstep : ∀ {state next}, step limit input state = .next next → P state → P next)
    (hstate : P state) : P final := by
  induction hreaches with
  | refl => exact hstate
  | tail _ hnext ih => exact hstep hnext ih

end SymbolTrace.Mangling.Cursor
