import SymbolTrace.Proofs.Mangling.SettledReaders

/-!
# Readers are context-free

What a reader takes, what it writes and what it comes to depend on the text in front of the cursor
and on the number of open types, and on nothing else of the parser. Since the readers are settled,
what is left to see is that the output comes back as it was when it was put aside, also where
reading fails (`leavesOutput_readTypeList`), and what happens at a cursor that has no text in front
of it because it is inside a character or past the end. There a reader panics or stops at once
(`outcome_of_misplaced`): no byte inside a character is that of a marker.

## Main results

* `outcome_of_misplaced`: cursors out of place.
* `context_free`: all readers, at all cursors.
-/

namespace SymbolTrace.Mangling

open Text

variable {α β : Type}

namespace Parser

variable {parser : Parser}

/-- A capture leaves the output as it was. -/
theorem leavesOutput_capture (parser : Parser)
    (read : (parser : Parser) → Attempt Unit parser.room) :
    (parser.capture read).outcome.LeavesOutput parser.output := by
  intro result after h
  rw [outcome_capture] at h
  obtain ⟨inner, -, hafter⟩ := Option.map_eq_some_iff.1 h
  cases hafter
  rfl

/-- A reader that writes. -/
inductive Reader where
  | identifier
  | type
  | functionType
  | tupleType
  | builtinType
  | argument
deriving DecidableEq, Repr

/-! ### Cursors out of place -/

/-- What comes of looking for something in front of a cursor that is inside a character or past the
end. -/
def stopped (parser : Parser) : Outcome α :=
  if parser.peek.isNone then some (.error .truncated, parser) else none

/-- A chain that stops at its first reader has stopped. -/
theorem stopped_andThen (next : α → Parser → Outcome β) :
    (parser.stopped : Outcome α).andThen next = parser.stopped := by
  unfold stopped
  split
  all_goals rfl

/-- A byte inside a character is that of no ASCII character. -/
theorem not_lt_of_misplaced (h : parser.unread? = none) {byte : UInt8}
    (hpeek : parser.peek = some byte) : ¬ byte < 128 := by
  intro hbyte
  obtain ⟨unread, hunread⟩ := Cursor.exists_suffixAt? hpeek hbyte
  rw [unread?, hunread] at h
  cases h

/-- Inside a character no ASCII character is seen. -/
theorem sees_of_misplaced (h : parser.unread? = none) {marker : Char}
    (hmarker : marker.toNat < 128) : parser.sees marker = false := by
  refine Bool.eq_false_iff.2 fun hsees => not_lt_of_misplaced h (beq_iff_eq.1 hsees) ?_
  rw [UInt8.lt_iff_toNat_lt, toNat_toUInt8 hmarker]
  exact hmarker

/-- A name panics at once, since it looks for digits. -/
theorem outcome_readIdentifier_of_misplaced (h : parser.unread? = none) :
    parser.readIdentifier.outcome = none := by
  have hdigits : Cursor.digitsAt? parser.input parser.position = none := by
    rw [Cursor.digitsAt?, show suffixAt? parser.position parser.input = none from h]
    rfl
  have hinteger : parser.readInteger.outcome = none := by
    unfold readInteger readOptionalInteger
    split
    · rfl
    · rename_i digits hsome
      rw [hdigits] at hsome
      cases hsome
  rw [outcome_readIdentifier, hinteger]
  rfl

/-- A code stops, since its byte is none of the letters. -/
theorem outcome_readBuiltinType_of_misplaced (h : parser.unread? = none) :
    parser.readBuiltinType.outcome = parser.stopped := by
  cases hpeek : parser.peek with
  | none => rw [parser.outcome_readBuiltinType_of_peek_eq_none hpeek, stopped, hpeek]; rfl
  | some byte =>
      have hcode : Builtin.ofLetter? (Char.ofUInt8 byte) = none := by
        refine Option.eq_none_iff_forall_ne_some.2 fun code hcode => ?_
        refine not_lt_of_misplaced h hpeek ?_
        rw [UInt8.lt_iff_toNat_lt, ← toNat_ofUInt8]
        exact Cursor.toNat_lt_of_ofLetter? hcode
      rw [parser.outcome_readBuiltinType hpeek, sees_of_misplaced h (by decide),
        if_neg Bool.false_ne_true, hcode, h, stopped, hpeek]
      rfl

/-- A reader that stops puts the output back as well. -/
theorem outcome_capture_of_stopped {read : (parser : Parser) → Attempt Unit parser.room}
    (h : (read parser.cleared).outcome = parser.cleared.stopped) :
    (parser.capture read).outcome = parser.stopped := by
  rw [outcome_capture, h, stopped, stopped, show parser.cleared.peek = parser.peek from rfl]
  split
  all_goals rfl

section

variable [Allocator]

/-- A type stops, as it is taken for a name. -/
theorem outcome_readType_of_misplaced (limit : Option Nat) (h : parser.unread? = none) :
    (parser.readType limit).outcome = parser.stopped := by
  rw [outcome_readType, sees_of_misplaced h (by decide), if_neg Bool.false_ne_true,
    outcome_readForm, sees_of_misplaced h (by decide), if_neg Bool.false_ne_true,
    sees_of_misplaced h (by decide), if_neg Bool.false_ne_true, sees_of_misplaced h (by decide),
    if_neg Bool.false_ne_true, outcome_readIdentifier_of_misplaced h]
  rfl

/-- A list stops at its first type. -/
theorem outcome_readTypeList_of_misplaced (limit : Option Nat) {terminator : Char}
    (hascii : terminator.toNat < 128) (h : parser.unread? = none) :
    (parser.readTypeList limit terminator).outcome = parser.stopped := by
  have hcleared : parser.cleared.unread? = none := h
  rw [outcome_readTypeList, sees_of_misplaced h hascii, if_neg Bool.false_ne_true,
    outcome_capture_of_stopped (outcome_readType_of_misplaced limit hcleared), stopped_andThen]

/-- An argument stops, as it is taken for one without a label. -/
theorem outcome_readArgument_of_misplaced (limit : Option Nat) (h : parser.unread? = none) :
    (parser.readArgument limit).outcome = parser.stopped := by
  have hname : (parser.write "_ ").readIdentifier.outcome = none :=
    outcome_readIdentifier_of_misplaced h
  rw [outcome_readArgument, sees_of_misplaced h (by decide), if_neg Bool.false_ne_true,
    sees_of_misplaced h (by decide), if_neg Bool.false_ne_true, outcome_readNamedType, hname]
  rfl

/-! ### All readers -/

/-- So does a list of types, whether it can be read or not. -/
theorem leavesOutput_readTypeList (limit : Option Nat) (terminator : Char) (parser : Parser) :
    (parser.readTypeList limit terminator).outcome.LeavesOutput parser.output := by
  induction parser using (measure room).wf.induction with
  | _ parser ih =>
      rw [outcome_readTypeList]
      split
      · rintro _ _ ⟨⟩
        rfl
      · refine (leavesOutput_capture parser _).andThen fun item behind hitem => ?_
        have hrest : (behind.readTypeList limit terminator).outcome.LeavesOutput parser.output :=
          leavesOutput_capture parser _ _ _ hitem ▸ ih behind (Attempt.room_lt_of_outcome hitem)
        refine hrest.andThen fun items last hlast => ?_
        rintro _ _ ⟨⟩
        exact hrest _ _ hlast

/-- Run the reader. -/
def Reader.run (limit : Option Nat) : Reader → (parser : Parser) → Attempt Unit parser.room
  | identifier => readIdentifier
  | type => readType limit
  | functionType => readFunctionType limit
  | tupleType => readTupleType limit
  | builtinType => readBuiltinType
  | argument => readArgument limit

/-- What the reader answers where there is no output: the shown form of what it reads. -/
def Reader.answer (limit : Option Nat) (depth : Nat) (text : List Char) : Reader → Answer String
  | identifier => Mangling.answer (readName text)
  | type => (Mangling.answer (TypeExpr.read limit depth text)).shown TypeExpr.text
  | functionType => functionText limit depth text
  | tupleType => tupleText limit depth text
  | builtinType => (Mangling.answer (Builtin.read text)).shown Builtin.text
  | argument => argumentText limit depth text

/-- Every reader that writes is settled. -/
theorem settled_reader (limit : Option Nat) (reader : Reader) (depth : Nat) (text : List Char) :
    Settled (fun parser => (reader.run limit parser).outcome) depth text
      ((reader.answer limit depth text).told (fun _ => ()) id) := by
  obtain ⟨htype, -, hlist⟩ := settled_types limit
  cases reader with
  | identifier => exact settled_readIdentifier depth text
  | type => exact Answer.told_eq_shown .. ▸ htype depth text
  | functionType =>
      exact (hlist depth 'R' text (by decide)).function fun _ rest _ => htype depth rest
  | tupleType => exact (hlist depth 'T' text (by decide)).tuple
  | builtinType => exact Answer.told_eq_shown .. ▸ settled_readBuiltinType depth text
  | argument => exact settled_readArgument limit depth text

/-- Every reader stops at a cursor out of place, and a name panics even at the end. -/
theorem outcome_of_misplaced (limit : Option Nat) (reader : Reader) (h : parser.unread? = none) :
    (reader.run limit parser).outcome = if reader = .identifier then none else parser.stopped := by
  cases reader with
  | identifier => exact outcome_readIdentifier_of_misplaced h
  | type => exact outcome_readType_of_misplaced limit h
  | functionType =>
      refine (parser.outcome_readFunctionType limit).trans ?_
      rw [outcome_readTypeList_of_misplaced limit (by decide) h, stopped_andThen]
      rfl
  | tupleType =>
      refine (parser.outcome_readTupleType limit).trans ?_
      rw [outcome_readTypeList_of_misplaced limit (by decide) h, stopped_andThen]
      rfl
  | builtinType => exact outcome_readBuiltinType_of_misplaced h
  | argument => exact outcome_readArgument_of_misplaced limit h

/-- **Readers are context-free.** Take any reader, a text in front of the cursor and a number of
open types. Then one outcome, one part of the text and one shown form are the same for all parsers
there, whatever text is behind the cursor and whatever was written before: the reader comes to that
outcome, moves the cursor over that part, and appends that form to the output, whether it succeeds
or fails; and what a capture of the reader gives back is that form, with the output as it was. A
list of types is captured item by item, so it leaves the output alone. What is read is what the
readers without an output answer. In front of a cursor inside a character or past the end is no
text; there the readers panic or stop at once, and take and write nothing. -/
theorem context_free (limit : Option Nat) :
    (∀ (reader : Reader) (depth : Nat) (text : List Char), ∃ result taken rest shown,
      text = taken ++ rest ∧
      reader.answer limit depth text = result.map (fun () => (shown, rest)) ∧
      ∀ parser : Parser, parser.unread? = some text → parser.depth = depth →
        (reader.run limit parser).outcome = some (result, (parser.pass taken).write shown) ∧
        (parser.capture (reader.run limit)).outcome =
          some (result.map fun () => shown, parser.pass taken)) ∧
    (∀ (terminator : Char) (depth : Nat) (text : List Char), terminator.toNat < 128 →
      ∃ result taken rest, text = taken ++ rest ∧
        (answer (TypeExpr.readUntil limit depth terminator text)).map
          (fun read => (TypeExpr.texts read.1, read.2)) = result.map (fun items => (items, rest)) ∧
        ∀ parser : Parser, parser.unread? = some text → parser.depth = depth →
          (parser.readTypeList limit terminator).outcome = some (result, parser.pass taken)) ∧
    ∀ parser : Parser, parser.unread? = none →
      (∀ reader : Reader,
        (reader.run limit parser).outcome =
          (if reader = .identifier then none else parser.stopped) ∧
        (parser.capture (reader.run limit)).outcome =
          if reader = .identifier then none else parser.stopped) ∧
      ∀ terminator : Char, terminator.toNat < 128 →
        (parser.readTypeList limit terminator).outcome = parser.stopped := by
  refine ⟨?readers, ?lists, fun parser hmisplaced => ⟨fun reader => ⟨?run, ?capture⟩, ?list⟩⟩
  case readers =>
    intro reader depth text
    obtain ⟨result, taken, rest, shown, htext, hanswer, hread⟩ :=
      settled_reader limit reader depth text
    refine ⟨result, taken, rest, shown, htext, ?_, fun parser hunread hdepth =>
      ⟨hread parser hunread hdepth, outcome_capture_of (hread parser.cleared hunread hdepth)⟩⟩
    rcases hreader : reader.answer limit depth text with fault | ⟨text, behind⟩
    all_goals
      rw [hreader] at hanswer
      cases result
      all_goals cases hanswer
      rfl
  case lists =>
    intro terminator depth text hascii
    obtain ⟨result, taken, rest, shown, htext, hanswer, hread⟩ :=
      (settled_types limit).2.2 depth terminator text hascii
    refine ⟨result, taken, rest, htext, ?_, fun parser hunread hdepth => ?_⟩
    · rcases hlist : answer (TypeExpr.readUntil limit depth terminator text) with
        fault | ⟨types, behind⟩
      all_goals
        rw [hlist] at hanswer
        cases result
        all_goals cases hanswer
        rfl
    · have hlist := hread parser hunread hdepth
      have houtput : parser.output ++ shown = parser.output :=
        leavesOutput_readTypeList limit terminator parser _ _ hlist
      have hwrite : (parser.pass taken).write shown = parser.pass taken := by
        rw [write, show (parser.pass taken).output = parser.output from rfl, houtput]
        rfl
      exact hlist.trans (by rw [hwrite])
  case run => exact outcome_of_misplaced limit reader hmisplaced
  case capture =>
    have hcleared : (reader.run limit parser.cleared).outcome = _ :=
      outcome_of_misplaced limit reader hmisplaced
    by_cases hreader : reader = .identifier
    · rw [if_pos hreader] at hcleared ⊢
      rw [outcome_capture, hcleared]
      rfl
    · rw [if_neg hreader] at hcleared ⊢
      exact outcome_capture_of_stopped hcleared
  case list =>
    exact fun terminator hascii => outcome_readTypeList_of_misplaced limit hascii hmisplaced

end

attribute [local instance] Allocator.unlimited

/-- A tuple with a pointer prefix, inside three open types and behind other text; the types of its
list; and a cursor in the middle of a character. -/
theorem context_free_tuple :
    (Parser.readType (some maxNesting) ⟨"WP1Tt3FooT".toList, 1, "seen: ", 3⟩).outcome =
      some (.ok (), ⟨"WP1Tt3FooT".toList, 10, "seen: *(Foo)", 3⟩) ∧
    (Parser.capture (readType (some maxNesting))
        ⟨"WP1Tt3FooT".toList, 1, "seen: ", 3⟩).outcome =
      some (.ok "*(Foo)", ⟨"WP1Tt3FooT".toList, 10, "seen: ", 3⟩) ∧
    (Parser.readTypeList (some maxNesting) 'T' ⟨"t3FooT".toList, 1, "seen: ", 4⟩).outcome =
      some (.ok ["Foo"], ⟨"t3FooT".toList, 6, "seen: ", 4⟩) ∧
    (Parser.readArgument (some maxNesting) ⟨"é".toList, 1, "seen: ", 0⟩).outcome = none := by
  obtain ⟨hreaders, hlists, hmisplaced⟩ := context_free (some maxNesting)
  obtain ⟨result, taken, rest, shown, htaken, hanswer, hread⟩ :=
    hreaders .type 3 ['P', '1', 'T', 't', '3', 'F', 'o', 'o', 'T']
  obtain ⟨items, takenItems, restItems, htakenItems, hitems, hreadItems⟩ :=
    hlists 'T' 4 ['3', 'F', 'o', 'o', 'T'] (by decide)
  have hname : answer (readName ['3', 'F', 'o', 'o', 'T']) = .ok ("Foo", ['T']) := rfl
  have hcount : answer (readPointerCount ['1', 'T', 't', '3', 'F', 'o', 'o', 'T']) =
      .ok (1, ['t', '3', 'F', 'o', 'o', 'T']) := rfl
  have hopen : openNested (some maxNesting) 3 ['3', 'F', 'o', 'o', 'T'] =
      .ok ((), ['3', 'F', 'o', 'o', 'T']) := rfl
  have hlist : answer (TypeExpr.readUntil (some maxNesting) 4 'T' ['3', 'F', 'o', 'o', 'T']) =
      .ok ([.nominal none "Foo"], []) := by
    simp [answer_readUntil_cons, answer_readType_cons, answer_readForm_cons, hname,
      Answer.andThen_ok]
  have hresult : result = .ok () ∧ shown = "*(Foo)" ∧ rest = [] := by
    simp only [Reader.answer, answer_readType_cons, answer_readForm_cons, hcount, hopen, hlist,
      Answer.andThen_ok] at hanswer
    cases result <;> cases hanswer
    exact ⟨rfl, rfl, rfl⟩
  have hresultItems : items = .ok ["Foo"] ∧ restItems = [] := by
    rw [hlist] at hitems
    cases items <;> cases hitems
    exact ⟨rfl, rfl⟩
  obtain ⟨rfl, rfl, rfl⟩ := hresult
  obtain ⟨rfl, rfl⟩ := hresultItems
  rw [List.append_nil] at htaken htakenItems
  subst htaken htakenItems
  obtain ⟨hrun, hcapture⟩ := hread ⟨"WP1Tt3FooT".toList, 1, "seen: ", 3⟩ (by decide) rfl
  have hrunItems := hreadItems ⟨"t3FooT".toList, 1, "seen: ", 4⟩ (by decide) rfl
  obtain ⟨hstopped, -⟩ := hmisplaced ⟨"é".toList, 1, "seen: ", 0⟩ (by decide)
  exact ⟨hrun, hcapture, hrunItems, (hstopped .argument).1.trans (by decide +kernel)⟩

end Parser

end SymbolTrace.Mangling
