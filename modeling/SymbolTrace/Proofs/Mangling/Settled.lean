import SymbolTrace.Proofs.Mangling.CursorRun
import SymbolTrace.Proofs.Mangling.Parser

/-!
# Readers and what was written before

What a reader does is settled by the text in front of the cursor and the number of open types: what
it takes, what it writes, and whether and how it fails. `Settled` says so, and says that the reader
comes to a given answer; what was written before, and where in a text the cursor stands, are not in
it. This module has the ways to put settled readers together, so that no parser has to be looked at
in order to see that a reader made of others is settled.

## Main results

* `Settled.andThen`: one reader after another.
* `Settled.capture`: a reader with an output of its own.
* `Settled.nested`: a reader inside one more function or tuple type.
-/

namespace SymbolTrace.Mangling

open Text

variable {α β γ : Type} {depth : Nat} {text : List Char}

/-! ### Behind a text -/

namespace Parser

variable {parser : Parser} {c : Char} {cs : List Char} {marker : Char}

/-- The parser with its cursor moved over a text. -/
def pass (parser : Parser) (taken : List Char) : Parser :=
  { parser with position := parser.position + byteCount taken }

/-- Behind a part of the text the rest of it is unread. -/
theorem unread?_pass {taken rest : List Char} (h : parser.unread? = some (taken ++ rest)) :
    (parser.pass taken).unread? = some rest := Cursor.suffixAt?_add h

/-- The cursor passes over two parts one after the other. -/
theorem pass_append (front back : List Char) :
    parser.pass (front ++ back) = (parser.pass front).pass back := by
  simp only [pass, byteCount_append, Nat.add_assoc]

/-- Writing nothing changes nothing. -/
theorem write_empty : parser.write "" = parser := by
  rw [write, String.append_empty]

/-- Two texts are written one after the other. -/
theorem write_append (first second : String) :
    parser.write (first ++ second) = (parser.write first).write second := by
  simp only [write, String.append_assoc]

/-- Where the cursor is does not matter to what is written. -/
theorem pass_write (taken : List Char) (shown : String) :
    (parser.write shown).pass taken = (parser.pass taken).write shown := rfl

/-- One byte is one ASCII character. -/
theorem bump_eq_pass (hc : c.toNat < 128) : parser.bump = parser.pass [c] := by
  have hsize : byteCount [c] = 1 := byteCount_eq_length (by simpa using hc)
  rw [pass, hsize, bump]

/-- Whatever a reader writes is taken out of the output again. -/
theorem outcome_capture_of {read : (parser : Parser) → Attempt Unit parser.room}
    {result : Except DecodeError Unit} {taken : List Char} {shown : String}
    (h : (read parser.cleared).outcome = some (result, (parser.cleared.pass taken).write shown)) :
    (parser.capture read).outcome = some (result.map fun _ => shown, parser.pass taken) := by
  rw [outcome_capture, h]
  cases result with
  | error fault => rfl
  | ok => simp only [Option.map_some, Except.map, write, pass, cleared, String.empty_append]

/-- What is seen is whether the next character is the marker. -/
theorem sees_cons (h : parser.unread? = some (c :: cs)) (hmarker : marker.toNat < 128) :
    parser.sees marker = decide (c = marker) := Cursor.sees_cons h hmarker

/-- At the end nothing is seen. -/
theorem sees_nil (h : parser.unread? = some []) (hmarker : marker.toNat < 128) :
    parser.sees marker = false := Cursor.sees_nil h hmarker

/-- At the end there is no byte. -/
theorem peek_nil (h : parser.unread? = some []) : parser.peek = none := Cursor.byteAt?_eq h

/-- There is a byte where a character is. -/
theorem isSome_peek_cons (h : parser.unread? = some (c :: cs)) : parser.peek.isSome = true :=
  Cursor.isSome_byteAt?_cons h

/-- The same, as the readers ask it. -/
theorem isNone_peek_cons (h : parser.unread? = some (c :: cs)) : parser.peek.isNone = false :=
  Cursor.isNone_byteAt?_cons h

end Parser

/-! ### What a reader comes to and what it writes -/

/-- An answer taken apart into what a reader comes to and what it writes. -/
def Answer.told (value : γ → α) (shown : γ → String) (answered : Answer γ) :
    Answer (α × String) :=
  answered.andThen fun read rest => .ok ((value read, shown read), rest)

/-- The same with a text written before. -/
def Answer.after (text : String) (answered : Answer (α × String)) : Answer (α × String) :=
  answered.told Prod.fst (text ++ Prod.snd ·)

namespace Answer

/-- Only the last reader of a chain is told. -/
theorem told_andThen (value : γ → α) (shown : γ → String) (first : Answer β)
    (second : β → List Char → Answer γ) :
    (first.andThen second).told value shown =
      first.andThen fun read rest => (second read rest).told value shown := by
  rcases first with fault | ⟨read, rest⟩ <;> rfl

/-- What is written in front may be part of what is shown. -/
theorem after_told (text : String) (value : γ → α) (shown : γ → String) (answered : Answer γ) :
    (answered.told value shown).after text = answered.told value (text ++ shown ·) := by
  rcases answered with fault | ⟨read, rest⟩ <;> rfl

/-- Nothing in front changes nothing. -/
theorem after_empty (answered : Answer (α × String)) : answered.after "" = answered := by
  rcases answered with fault | ⟨⟨value, shown⟩, rest⟩
  · rfl
  · simp only [after, told, andThen_ok, String.empty_append]

/-- What a reader without a value comes to is its shown form. -/
theorem told_eq_shown (shown : γ → String) (answered : Answer γ) :
    answered.told (fun _ => ()) shown = (answered.shown shown).told (fun _ => ()) id := by
  rcases answered with fault | ⟨read, rest⟩ <;> rfl

/-- A text in front of a shown form is written before it. -/
theorem told_prepend (text : String) (answered : Answer String) :
    (answered.prepend text).told (fun _ => ()) id =
      (answered.told (fun _ => ()) id).after text := by
  rcases answered with fault | ⟨shown, rest⟩ <;> rfl

@[simp] theorem told_ok (value : γ → α) (shown : γ → String) (read : γ) (rest : List Char) :
    Answer.told value shown (.ok (read, rest)) = .ok ((value read, shown read), rest) := rfl

@[simp] theorem after_ok (text shown : String) (value : α) (rest : List Char) :
    Answer.after text (.ok ((value, shown), rest)) = .ok ((value, text ++ shown), rest) := rfl

end Answer

/-- What a reader does in front of a text is settled: whatever was written before, it takes the same
part of the text, writes the same, and comes to the same value or failure, which the answer says. -/
def Settled (read : Parser → Outcome α) (depth : Nat) (text : List Char)
    (answered : Answer (α × String)) : Prop :=
  ∃ result taken rest shown, text = taken ++ rest ∧
    answered = result.map (fun value => ((value, shown), rest)) ∧
    ∀ parser : Parser, parser.unread? = some text → parser.depth = depth →
      read parser = some (result, (parser.pass taken).write shown)

namespace Settled

variable {read other : Parser → Outcome α} {answered : Answer (α × String)}

/-- Readers that agree on a text are settled alike. -/
theorem congr (h : Settled read depth text answered)
    (heq : ∀ parser : Parser, parser.unread? = some text → parser.depth = depth →
      other parser = read parser) : Settled other depth text answered := by
  obtain ⟨result, taken, rest, shown, htext, hanswered, hread⟩ := h
  exact ⟨result, taken, rest, shown, htext, hanswered, fun parser hunread hdepth =>
    (heq parser hunread hdepth).trans (hread parser hunread hdepth)⟩

/-- What is done at once. -/
theorem done (value : α) :
    Settled (fun parser => some (.ok value, parser)) depth text (.ok ((value, ""), text)) :=
  ⟨.ok value, [], text, "", rfl, rfl, fun parser _ _ => by rw [Parser.write_empty]; rfl⟩

/-- What fails at once. -/
theorem failed (fault : DecodeError) :
    Settled (fun parser => (some (.error fault, parser) : Outcome α)) depth text (.error fault) :=
  ⟨.error fault, [], text, "", rfl, rfl, fun parser _ _ => by rw [Parser.write_empty]; rfl⟩

/-- A text that is only written. -/
theorem wrote (shown : String) :
    Settled (fun parser => some (.ok (), parser.write shown)) depth text
      (.ok (((), shown), text)) :=
  ⟨.ok (), [], text, shown, rfl, rfl, fun _ _ _ => rfl⟩

/-- Something is written first. -/
theorem write (shown : String) (h : Settled read depth text answered) :
    Settled (fun parser => read (parser.write shown)) depth text (answered.after shown) := by
  obtain ⟨result, taken, rest, more, htext, rfl, hread⟩ := h
  refine ⟨result, taken, rest, shown ++ more, htext, ?_, fun parser hunread hdepth => ?_⟩
  · cases result <;> rfl
  · refine (hread (parser.write shown) hunread hdepth).trans ?_
    rw [Parser.pass_write, Parser.write_append]

/-- An ASCII character is taken first. -/
theorem bump {c : Char} {cs : List Char} (hc : c.toNat < 128) (h : Settled read depth cs answered) :
    Settled (fun parser => read parser.bump) depth (c :: cs) answered := by
  obtain ⟨result, taken, rest, shown, rfl, rfl, hread⟩ := h
  refine ⟨result, c :: taken, rest, shown, rfl, rfl, fun parser hunread hdepth => ?_⟩
  have hbehind : (parser.pass [c]).unread? = some (taken ++ rest) := Parser.unread?_pass hunread
  rw [← Parser.bump_eq_pass hc] at hbehind
  refine (hread parser.bump hbehind hdepth).trans ?_
  rw [Parser.bump_eq_pass hc, ← Parser.pass_append, List.singleton_append]

/-- What fails is not gone on with. -/
theorem andThen_error {fault : DecodeError} (h : Settled read depth text (.error fault))
    (next : α → Parser → Outcome β) :
    Settled (fun parser => (read parser).andThen next) depth text (.error fault) := by
  obtain ⟨result, taken, rest, shown, rfl, hanswered, hread⟩ := h
  cases result with
  | ok => cases hanswered
  | error =>
      cases hanswered
      exact ⟨.error fault, taken, rest, shown, rfl, rfl, fun parser hunread hdepth =>
        congrArg (·.andThen next) (hread parser hunread hdepth)⟩

/-- One reader after another. -/
theorem andThen {first : Answer γ} {value : γ → α} {shown : γ → String}
    {second : γ → List Char → Answer (β × String)}
    (hfirst : Settled read depth text (first.told value shown)) (next : α → Parser → Outcome β)
    (hsecond : ∀ v rest, first = .ok (v, rest) →
      Settled (next (value v)) depth rest (second v rest)) :
    Settled (fun parser => (read parser).andThen next) depth text
      (first.andThen fun v rest => (second v rest).after (shown v)) := by
  rcases first with fault | ⟨v, behind⟩
  · exact hfirst.andThen_error next
  · obtain ⟨result, taken, rest, written, rfl, hanswered, hread⟩ := hfirst
    cases result with
    | error => cases hanswered
    | ok =>
        cases hanswered
        obtain ⟨final, more, rest, last, rfl, hlast, hnext⟩ := hsecond v _ rfl
        refine ⟨final, taken ++ more, rest, shown v ++ last, (List.append_assoc ..).symm, ?_,
          fun parser hunread hdepth => ?_⟩
        · simp only [Answer.andThen_ok, hlast]
          cases final <;> rfl
        · have hbehind : ((parser.pass taken).write (shown v)).unread? = some (more ++ rest) :=
            Parser.unread?_pass hunread
          refine (congrArg (·.andThen next) (hread parser hunread hdepth)).trans ?_
          refine (hnext _ hbehind hdepth).trans ?_
          rw [Parser.pass_append, Parser.pass_write, ← Parser.write_append]

/-- A reader with an output of its own. What it would write is what it comes to. -/
theorem capture {read : (parser : Parser) → Attempt Unit parser.room} {answered : Answer γ}
    {shown : γ → String}
    (h : Settled (fun parser => (read parser).outcome) depth text
      (answered.told (fun _ => ()) shown)) :
    Settled (fun parser => (parser.capture read).outcome) depth text
      (answered.told shown fun _ => "") := by
  obtain ⟨result, taken, rest, written, rfl, hanswered, hread⟩ := h
  refine ⟨result.map fun _ => written, taken, rest, "", rfl, ?_, fun parser hunread hdepth => ?_⟩
  · rcases answered with fault | ⟨v, behind⟩ <;> cases result <;> cases hanswered <;> rfl
  · rw [Parser.write_empty]
    exact Parser.outcome_capture_of (hread parser.cleared hunread hdepth)

/-- A reader inside one more function or tuple type. -/
theorem nested {limit : Option Nat} {read : (parser : Parser) → Attempt Unit parser.room}
    {answered : Answer (Unit × String)}
    (h : Settled (fun parser => (read parser).outcome) (depth + 1) text answered) :
    Settled (fun parser => (parser.nested limit (read parser.deeper)).outcome) depth text
      ((openNested limit depth text).andThen fun _ _ => answered) := by
  rw [openNested]
  cases hroom : checkNesting limit depth with
  | error fault =>
      refine (failed fault).congr fun parser _ hdepth => ?_
      simp only [Parser.nested, hdepth, hroom]
      rfl
  | ok =>
      obtain ⟨result, taken, rest, shown, rfl, rfl, hread⟩ := h
      refine ⟨result, taken, rest, shown, rfl, rfl, fun parser hunread hdepth => ?_⟩
      subst hdepth
      have hopen : parser.nested limit (read parser.deeper) = (read parser.deeper).close := by
        rw [Parser.nested, hroom]
      have hread : (read parser.deeper).outcome = _ := hread parser.deeper hunread rfl
      simp only [hopen, Attempt.outcome_close, hread]
      rfl

end Settled

end SymbolTrace.Mangling
