import SymbolTrace.Proofs.Mangling.Recognition

/-!
# Decoding a symbol and its extensions

A symbol is read once from left to right, so what has been settled stays settled when text is put
behind it. `Answer.Extends t before after` relates what a reader answers to a text and to that
text with `t` behind it: a reading that left something unread, or that `t` cannot prolong, stays
and leaves `t` as well; a failure for which the text itself is the reason stays.

What is not settled is what a reader answers where the text ends. `Answer.AtEnd` says that such
an answer has neither left anything nor failed for good, and is what makes `Extends` hold of one
reader after another: the first may stop at the end of the text for no better reason than that
the text ends, and then the second finds nothing there.

## Main results

* `Answer.Extends.andThen`: readers whose answers extend can be chained.
* `extends_readType`, `extends_readDeclaration`: the answers of the readers extend.
* `demangled_append`: so do the reports on symbols.
-/

namespace SymbolTrace.Mangling

open Text

variable {α β : Type} {t : List Char}

/-! ### Answers about longer texts -/

/-- Failures for which the text read so far is the reason, whatever follows it. -/
inductive DecodeError.IsFinal : DecodeError → Prop
  | unknownTypeMarker (marker : Char) : IsFinal (.unknownTypeMarker marker)
  | unrecognizedFormat : IsFinal .unrecognizedFormat
  | unsupported : IsFinal .unsupported
  | nestingTooDeep (limit : Nat) : IsFinal (.nestingTooDeep limit)

/-- Only a number or the end of the text can be at fault in a way that more text may mend. -/
theorem DecodeError.isFinal_or (fault : DecodeError) :
    fault.IsFinal ∨ fault = .truncated ∨ fault = .malformedInteger := by
  cases fault with
  | malformedInteger => exact .inr (.inr rfl)
  | truncated => exact .inr (.inl rfl)
  | unknownTypeMarker marker => exact .inl (.unknownTypeMarker marker)
  | unrecognizedFormat => exact .inl .unrecognizedFormat
  | unsupported => exact .inl .unsupported
  | nestingTooDeep limit => exact .inl (.nestingTooDeep limit)

/-- A text that breaks off may go on. -/
theorem DecodeError.not_isFinal_truncated : ¬ IsFinal .truncated := nofun

/-- A number may be malformed for no other reason than that it has not begun. -/
theorem DecodeError.not_isFinal_malformedInteger : ¬ IsFinal .malformedInteger := nofun

/-- No declaration in front of the text can take its first character as its own. -/
structure Detached (text : List Char) : Prop where
  not_digit : startsWithDigit text = false
  not_result : text.head? ≠ some 'R'
  not_closureMark : text.head? ≠ some 'C'

/-- The second answer is what the first becomes with `t` behind the text that was read. -/
structure Answer.Extends (t : List Char) (before after : Answer α) : Prop where
  ok {value : α} {rest : List Char} :
    before = .ok (value, rest) → rest ≠ [] ∨ Detached t → after = .ok (value, rest ++ t)
  error {fault : DecodeError} : before = .error fault → fault.IsFinal → after = .error fault

/-- What a reader may answer to the empty text. -/
structure Answer.AtEnd (a : Answer α) : Prop where
  rest_eq {value : α} {rest : List Char} : a = .ok (value, rest) → rest = []
  not_final {fault : DecodeError} : a = .error fault → ¬ fault.IsFinal

/-- At the end of a text a reader may succeed with nothing. -/
theorem Answer.AtEnd.ok (value : α) : Answer.AtEnd (.ok (value, [])) where
  rest_eq h := by cases h; rfl
  not_final h := by cases h

/-- At the end of a text a reader may fail for the want of more. -/
theorem Answer.AtEnd.error {fault : DecodeError} (h : ¬ fault.IsFinal) :
    Answer.AtEnd (.error fault : Answer α) where
  rest_eq heq := by cases heq
  not_final heq := by cases heq; exact h

/-- At the end of a text a reader may say just that. -/
theorem Answer.AtEnd.truncated : Answer.AtEnd (.error .truncated : Answer α) :=
  .error DecodeError.not_isFinal_truncated

/-- A second reader adds nothing where the first one already met the end of the text. -/
theorem Answer.AtEnd.andThen {first : Answer α} {second : α → List Char → Answer β}
    (hfirst : first.AtEnd) (hsecond : ∀ value, (second value []).AtEnd) :
    (first.andThen second).AtEnd := by
  rcases first with fault | ⟨value, rest⟩
  · constructor
    · intro value rest h
      cases h
    · intro fault' h
      cases h
      exact hfirst.not_final rfl
  · obtain rfl := hfirst.rest_eq rfl
    exact hsecond value

/-- What was read stays read, and more is left. -/
theorem Answer.Extends.done (value : α) (rest : List Char) :
    Answer.Extends t (.ok (value, rest)) (.ok (value, rest ++ t)) where
  ok h _ := by cases h; rfl
  error h _ := by cases h

/-- A failure may stay. -/
theorem Answer.Extends.fail (fault : DecodeError) :
    Answer.Extends t (.error fault : Answer α) (.error fault) where
  ok h _ := by cases h
  error h _ := h

/-- A failure that is not final says nothing about longer texts. -/
theorem Answer.Extends.of_not_isFinal {fault : DecodeError} (h : ¬ fault.IsFinal)
    (after : Answer α) : Answer.Extends t (.error fault) after where
  ok heq _ := by cases heq
  error heq hfinal := by cases heq; exact absurd hfinal h

/-- A text that broke off may be answered in any way when it goes on. -/
theorem Answer.Extends.truncated (after : Answer α) :
    Answer.Extends t (.error .truncated) after :=
  .of_not_isFinal DecodeError.not_isFinal_truncated after

/-- Where a reader stops because the text ends, it has to stop in front of detached text too. -/
theorem Answer.Extends.stop {value : α} {after : Answer α}
    (h : Detached t → after = .ok (value, t)) : Answer.Extends t (.ok (value, [])) after where
  ok heq hsettled := by
    cases heq
    rcases hsettled with hne | hdetached
    · exact absurd rfl hne
    · exact h hdetached
  error heq _ := by cases heq

/-- **Chaining.** One reader after another extends if both do, provided that the second has
nothing to say where the text ends. -/
theorem Answer.Extends.andThen {first first' : Answer α} {second : α → List Char → Answer β}
    (hfirst : Answer.Extends t first first') (hend : ∀ value, (second value []).AtEnd)
    (hsecond : ∀ value rest, first = .ok (value, rest) →
      Answer.Extends t (second value rest) (second value (rest ++ t))) :
    Answer.Extends t (first.andThen second) (first'.andThen second) := by
  rcases first with fault | ⟨value, rest⟩
  · constructor
    · intro value rest h
      cases h
    · intro fault' h hfinal
      cases h
      rw [hfirst.error rfl hfinal, Answer.andThen_error]
  have hstep : rest ≠ [] ∨ Detached t →
      first'.andThen second = second value (rest ++ t) := by
    intro h
    rw [hfirst.ok rfl h, Answer.andThen_ok]
  have hnext := hsecond value rest rfl
  constructor
  · intro value' rest' h hsettled
    rw [Answer.andThen_ok] at h
    have hrest : rest ≠ [] ∨ Detached t := by
      refine hsettled.imp_left fun hne => ?_
      rintro rfl
      exact hne ((hend value).rest_eq h)
    rw [hstep hrest]
    exact hnext.ok h hsettled
  · intro fault h hfinal
    rw [Answer.andThen_ok] at h
    have hrest : rest ≠ [] := by
      rintro rfl
      exact (hend value).not_final h hfinal
    rw [hstep (.inl hrest)]
    exact hnext.error h hfinal

/-- A value made of what was read changes nothing. -/
theorem Answer.Extends.map {first first' : Answer α} (hfirst : Answer.Extends t first first')
    (f : α → β) :
    Answer.Extends t (first.andThen fun value rest => .ok (f value, rest))
      (first'.andThen fun value rest => .ok (f value, rest)) :=
  hfirst.andThen (fun value => .ok (f value)) fun value rest _ => .done (f value) rest

/-! ### Beginnings of the sentinel -/

/-- A text that neither starts with the sentinel nor is a beginning of it will not start with it
whatever follows. -/
theorem afterSentinel?_append_eq_none {text : List Char} (h : afterSentinel? text = none)
    (hwhole : ¬ text <+: sentinel) : afterSentinel? (text ++ t) = none := by
  cases hbody : afterSentinel? (text ++ t) with
  | none => rfl
  | some body =>
      have heq := afterSentinel?_eq_some_iff.1 hbody
      have hsentinel : sentinel <+: text ++ t := ⟨body, heq.symm⟩
      have htext : text <+: text ++ t := List.prefix_append text t
      rcases List.prefix_or_prefix_of_prefix hsentinel htext with ⟨rest, rfl⟩ | hshort
      · cases h
      · exact absurd hshort hwhole

/-- The texts that the sentinel begins with. -/
theorem toList_prefix_sentinel_iff {s : String} :
    s.toList <+: sentinel ↔ s = "" ∨ s = "_" ∨ s = "_W" := by
  rw [← String.toList_inj, ← String.toList_inj, ← String.toList_inj]
  simp only [sentinel, List.prefix_cons_iff, List.prefix_nil, String.toList_empty]
  constructor
  · rintro (h | ⟨_, h, rfl | ⟨_, rfl, rfl⟩⟩)
    · exact .inl h
    · exact .inr (.inl h)
    · exact .inr (.inr h)
  · rintro (h | h | h)
    · exact .inl h
    · exact .inr ⟨[], h, .inl rfl⟩
    · exact .inr ⟨['W'], h, .inr ⟨[], rfl, rfl⟩⟩

/-- The sentinel has two bytes. -/
theorem not_prefix_sentinel {s : String} (hsize : 3 ≤ s.utf8ByteSize) :
    ¬ s.toList <+: sentinel := by
  intro hpartial
  rcases toList_prefix_sentinel_iff.1 hpartial with rfl | rfl | rfl <;>
    exact absurd hsize (by decide)

/-! ### Numbers, names and builtin types -/

/-- A run of digits ends where it did if something stands behind it or what is appended is detached.
-/
theorem startsWithDigit_append_eq_false {rest : List Char} (hrest : startsWithDigit rest = false)
    (hsettled : rest ≠ [] ∨ Detached t) : startsWithDigit (rest ++ t) = false := by
  cases rest with
  | nil =>
      rcases hsettled with hne | hdetached
      · exact absurd rfl hne
      · exact hdetached.not_digit
  | cons c cs => exact hrest

/-- There is one way for a number to fail. -/
theorem eq_malformedInteger_of_readNumber {text : List Char} {fault : DecodeError}
    (h : answer (readNumber text) = .error fault) : fault = .malformedInteger := by
  cases text with
  | nil => cases h; rfl
  | cons c cs =>
      rw [answer_readNumber_cons] at h
      split at h
      · split at h <;> cases h
        rfl
      · cases h
        rfl

/-- A number that was read stays what it was. Its failures are never final. -/
theorem extends_readNumber (text : List Char) :
    Answer.Extends t (answer (readNumber text)) (answer (readNumber (text ++ t))) := by
  constructor
  · intro value rest h hsettled
    obtain ⟨digits, rfl, hdigits⟩ := answer_readNumber_eq_ok_iff.1 h
    have hmaximal := startsWithDigit_append_eq_false hdigits.maximal hsettled
    exact answer_readNumber_eq_ok_iff.2 ⟨digits, by simp, hdigits.congr hmaximal⟩
  · intro fault h hfinal
    obtain rfl := eq_malformedInteger_of_readNumber h
    cases hfinal

/-- At the end of a text there is no name. -/
theorem atEnd_readName : (answer (readName [])).AtEnd := by
  rw [answer_readName, answer_readNumber_nil]
  exact .error DecodeError.not_isFinal_malformedInteger

/-- A name that was read stays what it was. -/
theorem extends_readName (text : List Char) :
    Answer.Extends t (answer (readName text)) (answer (readName (text ++ t))) := by
  rw [answer_readName, answer_readName]
  refine (extends_readNumber text).andThen (fun size => ?_) fun size rest _ => ?_
  · split
    · rename_i name rest hsplit
      obtain ⟨htext, -⟩ := splitBytes?_eq_some_iff.1 hsplit
      obtain ⟨rfl, rfl⟩ := List.append_eq_nil_iff.1 htext.symm
      exact .ok _
    · exact .truncated
  · split
    · rename_i name next hsplit
      obtain ⟨rfl, hsize⟩ := splitBytes?_eq_some_iff.1 hsplit
      have hsplit' : splitBytes? size (name ++ next ++ t) = some (name, next ++ t) :=
        splitBytes?_eq_some_iff.2 ⟨by rw [List.append_assoc], hsize⟩
      rw [hsplit']
      exact .done _ next
    · exact .truncated _

/-- A width that is left out stays left out: `t` cannot start with a digit. -/
theorem extends_readWidth (text : List Char) :
    Answer.Extends t (laxAnswer (readWidth text)) (laxAnswer (readWidth (text ++ t))) := by
  cases text with
  | nil =>
      rw [List.nil_append, laxAnswer_readWidth_nil]
      refine .stop fun hdetached => ?_
      cases t with
      | nil => rfl
      | cons c cs =>
          have hc : c.isDigit = false := hdetached.not_digit
          rw [laxAnswer_readWidth_cons, if_neg (by simp [hc])]
  | cons c cs =>
      rw [List.cons_append, laxAnswer_readWidth_cons, laxAnswer_readWidth_cons]
      split
      · rw [← List.cons_append]
        exact (extends_readNumber (c :: cs)).map some
      · exact .done none (c :: cs)

/-- A code that was read stays what it was, but for the width of a sized integer. -/
theorem extends_readBuiltin (text : List Char) :
    Answer.Extends t (answer (Builtin.read text)) (answer (Builtin.read (text ++ t))) := by
  cases text with
  | nil =>
      rw [answer_readBuiltin_nil]
      exact .truncated _
  | cons c cs =>
      rw [List.cons_append, answer_readBuiltin_cons, answer_readBuiltin_cons]
      split
      · exact (extends_readWidth cs).map Builtin.sizedInt
      · cases Builtin.ofLetter? c with
        | some code => exact .done code cs
        | none => exact .fail _

/-- Opening a type does not look at the text. -/
theorem extends_openNested (limit : Option Nat) (depth : Nat) (text : List Char) :
    Answer.Extends t (openNested limit depth text) (openNested limit depth (text ++ t)) := by
  rw [openNested, openNested]
  cases checkNesting limit depth with
  | error fault => exact .fail fault
  | ok _ => exact .done () text

section

variable [Allocator]

/-- A pointer count that was closed stays what it was. -/
theorem extends_readPointerCount (text : List Char) :
    Answer.Extends t (answer (readPointerCount text)) (answer (readPointerCount (text ++ t))) := by
  rw [answer_readPointerCount, answer_readPointerCount]
  refine (extends_readNumber text).andThen (fun count => .truncated) fun count rest _ => ?_
  cases rest with
  | nil => exact .truncated _
  | cons c cs =>
      dsimp only [List.cons_append]
      split
      · split
        · exact .done count cs
        · exact .fail _
      · exact .fail _

/-! ### Types -/

/-- At the end of a text there is no form. -/
theorem atEnd_readForm (limit : Option Nat) (depth : Nat) (pointers : Option Nat) :
    (answer (TypeExpr.readForm limit depth pointers [])).AtEnd := by
  rw [answer_readForm_nil]
  exact .truncated

/-- At the end of a text there is no type. -/
theorem atEnd_readType (limit : Option Nat) (depth : Nat) :
    (answer (TypeExpr.read limit depth [])).AtEnd := by
  rw [answer_readType_nil]
  exact .truncated

/-- At the end of a text there is no list of types, for want of its terminator. -/
theorem atEnd_readUntil (limit : Option Nat) (depth : Nat) (terminator : Char) :
    (answer (TypeExpr.readUntil limit depth terminator [])).AtEnd := by
  rw [answer_readUntil_nil]
  exact .truncated

/-- The answers of the readers of types extend, by induction along the readers. -/
theorem extends_readers (t : List Char) (limit : Option Nat) :
    (∀ depth text, Answer.Extends t (answer (TypeExpr.read limit depth text))
      (answer (TypeExpr.read limit depth (text ++ t)))) ∧
    (∀ depth pointers text, Answer.Extends t (answer (TypeExpr.readForm limit depth pointers text))
      (answer (TypeExpr.readForm limit depth pointers (text ++ t)))) ∧
    (∀ depth terminator text,
      Answer.Extends t (answer (TypeExpr.readUntil limit depth terminator text))
        (answer (TypeExpr.readUntil limit depth terminator (text ++ t)))) := by
  apply readType_induction limit
  case prefixed =>
    intro depth cs ih
    rw [List.cons_append, answer_readType_cons, answer_readType_cons, if_pos rfl, if_pos rfl]
    exact (extends_readPointerCount cs).andThen (fun count => atEnd_readForm limit depth _) ih
  case bare =>
    intro depth text hP ih
    cases text with
    | nil =>
        rw [answer_readType_nil]
        exact .truncated _
    | cons c cs =>
        have hc : c ≠ 'P' := by simpa using hP
        rw [List.cons_append, answer_readType_cons, answer_readType_cons, if_neg hc, if_neg hc]
        exact ih
  case formEnd =>
    intro depth pointers
    rw [answer_readForm_nil]
    exact .truncated _
  case function =>
    intro depth pointers cs ihParameters ihResult
    rw [List.cons_append, answer_readForm_cons, answer_readForm_cons, if_pos rfl, if_pos rfl]
    refine (extends_openNested limit depth cs).andThen (fun _ => ?_) fun _ rest hopen => ?_
    · exact (atEnd_readUntil limit (depth + 1) 'R').andThen fun parameters =>
        (atEnd_readType limit (depth + 1)).andThen fun result => .ok _
    obtain ⟨rfl, -⟩ := openNested_eq_ok_iff.1 hopen
    refine ihParameters.andThen (fun parameters => ?_) fun parameters rest hparameters => ?_
    · exact (atEnd_readType limit (depth + 1)).andThen fun result => .ok _
    · exact (ihResult parameters rest hparameters).map _
  case tuple =>
    intro depth pointers cs ih
    rw [List.cons_append, answer_readForm_cons, if_neg (by decide), if_pos rfl,
      answer_readForm_cons, if_neg (by decide), if_pos rfl]
    refine (extends_openNested limit depth cs).andThen (fun _ => ?_) fun _ rest hopen => ?_
    · exact (atEnd_readUntil limit (depth + 1) 'T').andThen fun fields => .ok _
    obtain ⟨rfl, -⟩ := openNested_eq_ok_iff.1 hopen
    exact ih.map _
  case builtin =>
    intro depth pointers cs
    rw [List.cons_append, answer_readForm_cons, if_neg (by decide), if_neg (by decide), if_pos rfl,
      answer_readForm_cons, if_neg (by decide), if_neg (by decide), if_pos rfl]
    exact (extends_readBuiltin cs).map _
  case nominal =>
    intro depth pointers c cs hF ht hs
    rw [List.cons_append, answer_readForm_cons, if_neg hF, if_neg ht, if_neg hs,
      answer_readForm_cons, if_neg hF, if_neg ht, if_neg hs, ← List.cons_append]
    exact (extends_readName (c :: cs)).map _
  case listEnd =>
    intro depth terminator
    rw [answer_readUntil_nil]
    exact .truncated _
  case terminator =>
    intro depth c cs
    rw [List.cons_append, answer_readUntil_cons, answer_readUntil_cons, if_pos rfl, if_pos rfl]
    exact .done [] cs
  case item =>
    intro depth terminator c cs hc ihType ihTypes
    rw [List.cons_append, answer_readUntil_cons, answer_readUntil_cons, if_neg hc, if_neg hc]
    refine ihType.andThen (fun type => ?_) fun type rest htype => ?_
    · exact (atEnd_readUntil limit depth terminator).andThen fun types => .ok _
    · exact (ihTypes type rest htype).map _

/-- A type that was read stays what it was, and so does a final failure. -/
theorem extends_readType (limit : Option Nat) (depth : Nat) (text : List Char) :
    Answer.Extends t (answer (TypeExpr.read limit depth text))
      (answer (TypeExpr.read limit depth (text ++ t))) :=
  (extends_readers t limit).1 depth text

/-! ### Arguments -/

omit [Allocator] in
/-- A label is told by its first character. -/
theorem extends_readLabel (text : List Char) :
    Answer.Extends t (laxAnswer (Label.read text)) (laxAnswer (Label.read (text ++ t))) := by
  cases text with
  | nil =>
      rw [laxAnswer_readLabel_nil]
      exact .truncated _
  | cons c cs =>
      rw [List.cons_append, laxAnswer_readLabel_cons, laxAnswer_readLabel_cons]
      split
      · exact .done Label.omitted cs
      · split
        · exact (extends_readName cs).map Label.external
        · exact .done Label.placeholder (c :: cs)

/-- An argument that was read stays what it was. -/
theorem extends_readArgument (limit : Option Nat) (text : List Char) :
    Answer.Extends t (answer (Argument.read limit text))
      (answer (Argument.read limit (text ++ t))) := by
  rw [answer_readArgument, answer_readArgument]
  refine (extends_readLabel text).andThen (fun label => ?_) fun label rest _ => ?_
  · exact atEnd_readName.andThen fun name => (atEnd_readType limit 0).andThen fun type => .ok _
  refine (extends_readName rest).andThen (fun name => ?_) fun name rest _ => ?_
  · exact (atEnd_readType limit 0).andThen fun type => .ok _
  · exact (extends_readType limit 0 rest).map _

/-- At the end of a text there is no list of arguments. -/
theorem atEnd_readArguments (limit : Option Nat) :
    (answer (Argument.readAll limit [])).AtEnd := by
  rw [answer_readArguments_nil]
  exact .truncated

/-- Arguments stay what they were, since the terminator is part of them. -/
theorem extends_readArguments (limit : Option Nat) (text : List Char) :
    Answer.Extends t (answer (Argument.readAll limit text))
      (answer (Argument.readAll limit (text ++ t))) := by
  induction text using readArguments_induction limit with
  | listEnd =>
      rw [answer_readArguments_nil]
      exact .truncated _
  | underscore cs =>
      rw [List.cons_append, answer_readArguments_cons, answer_readArguments_cons, if_pos rfl,
        if_pos rfl]
      exact .done [] cs
  | item c cs hc ih =>
      have hargument := extends_readArgument (t := t) limit (c :: cs)
      rw [List.cons_append] at hargument ⊢
      rw [answer_readArguments_cons, answer_readArguments_cons, if_neg hc, if_neg hc]
      refine hargument.andThen (fun argument => ?_) fun argument rest hread => ?_
      · exact (atEnd_readArguments limit).andThen fun arguments => .ok _
      · exact (ih argument rest hread).map _

/-! ### Declarations -/

/-- At the end of a text there is no result type, and none is needed. -/
theorem atEnd_readResult (limit : Option Nat) : (laxAnswer (readResult limit [])).AtEnd := .ok none

/-- A result type stays what it was, where anything stands behind it. -/
theorem extends_readResult (limit : Option Nat) (text : List Char) :
    Answer.Extends t (laxAnswer (readResult limit text))
      (laxAnswer (readResult limit (text ++ t))) := by
  cases text with
  | nil =>
      rw [List.nil_append, laxAnswer_readResult_nil]
      refine .stop fun hdetached => ?_
      cases t with
      | nil => rfl
      | cons c cs =>
          have hc : c ≠ 'R' := by simpa using hdetached.not_result
          rw [laxAnswer_readResult_cons, if_neg hc]
  | cons c cs =>
      rw [List.cons_append, laxAnswer_readResult_cons, laxAnswer_readResult_cons]
      split
      · exact (extends_readType limit 0 cs).map some
      · exact .done none (c :: cs)

omit [Allocator] in
/-- A closure mark that is there stays there. -/
theorem extends_splitClosureMark (text : List Char) :
    Answer.Extends t (.ok (splitClosureMark text)) (.ok (splitClosureMark (text ++ t))) := by
  cases text with
  | nil =>
      refine .stop fun hdetached => ?_
      cases t with
      | nil => rfl
      | cons c cs =>
          have hc : c ≠ 'C' := by simpa using hdetached.not_closureMark
          rw [List.nil_append, splitClosureMark_cons, if_neg hc]
  | cons c cs =>
      rw [List.cons_append, splitClosureMark_cons, splitClosureMark_cons]
      split
      · exact .done true cs
      · exact .done false (c :: cs)

/-- At the end of a text there is no signature. -/
theorem atEnd_readSignature (limit : Option Nat) : (answer (Signature.read limit [])).AtEnd := by
  rw [answer_readSignature, answer_readArguments_nil]
  exact .truncated

/-- A signature stays what it was, where anything stands behind it. -/
theorem extends_readSignature (limit : Option Nat) (text : List Char) :
    Answer.Extends t (answer (Signature.read limit text))
      (answer (Signature.read limit (text ++ t))) := by
  rw [answer_readSignature, answer_readSignature]
  refine (extends_readArguments limit text).andThen (fun arguments => ?_) fun arguments rest _ => ?_
  · exact (atEnd_readResult limit).andThen fun result => .ok _
  refine (extends_readResult limit rest).andThen (fun result => .ok _) fun result rest _ => ?_
  exact (extends_splitClosureMark rest).map _

/-- A callee that was read stays what it was. -/
theorem extends_readCallee (limit : Option Nat) (text : List Char) :
    Answer.Extends t (answer (Callee.read limit text))
      (answer (Callee.read limit (text ++ t))) := by
  cases text with
  | nil =>
      rw [answer_readCallee_nil]
      exact .of_not_isFinal DecodeError.not_isFinal_malformedInteger _
  | cons c cs =>
      have hname := extends_readName (t := t) (c :: cs)
      rw [List.cons_append] at hname ⊢
      rw [answer_readCallee_cons, answer_readCallee_cons]
      split
      · refine (extends_readType limit 0 cs).andThen (fun owner => ?_) fun owner rest _ => ?_
        · exact atEnd_readName.andThen fun name => .ok _
        · exact (extends_readName rest).map _
      · split
        · exact (extends_readType limit 0 cs).map Callee.initializer
        · exact hname.map Callee.free

/-- What is behind the marker of functions stays what it was. -/
theorem extends_readFunctionBody (limit : Option Nat) (text : List Char) :
    Answer.Extends t (answer (Declaration.readFunctionBody limit text))
      (answer (Declaration.readFunctionBody limit (text ++ t))) := by
  cases text with
  | nil =>
      rw [answer_readFunctionBody_nil]
      exact .of_not_isFinal DecodeError.not_isFinal_malformedInteger _
  | cons c cs =>
      have hcallee := extends_readCallee (t := t) limit (c :: cs)
      rw [List.cons_append] at hcallee ⊢
      rw [answer_readFunctionBody_cons, answer_readFunctionBody_cons]
      split
      · exact (extends_readType limit 0 cs).map Declaration.deinitializer
      · refine hcallee.andThen (fun callee => ?_) fun callee rest _ => ?_
        · exact (atEnd_readSignature limit).andThen fun signature => .ok _
        · exact (extends_readSignature limit rest).map _

/-- A declaration's marker decides, so there has to be one: the empty text fails for good. -/
theorem extends_readDeclaration (limit : Option Nat) (c : Char) (cs : List Char) :
    Answer.Extends t (answer (Declaration.read limit (c :: cs)))
      (answer (Declaration.read limit (c :: (cs ++ t)))) := by
  rw [answer_readDeclaration_cons, answer_readDeclaration_cons]
  split
  · exact (extends_readType limit 0 cs).map Declaration.type
  · split
    · exact .fail _
    · split
      · exact extends_readFunctionBody limit cs
      · exact .fail _

/-! ### Symbols -/

/-- So does a whole symbol, unless it is a beginning of the sentinel. -/
theorem extends_answerSymbol (limit : Option Nat) {symbol : List Char}
    (hwhole : ¬ symbol <+: sentinel) :
    Answer.Extends t (answerSymbol limit symbol) (answerSymbol limit (symbol ++ t)) := by
  cases hbody : afterSentinel? symbol with
  | none =>
      rw [answerSymbol, answerSymbol, hbody, afterSentinel?_append_eq_none hbody hwhole]
      exact .fail _
  | some body =>
      obtain rfl := afterSentinel?_eq_some_iff.1 hbody
      cases body with
      | nil => exact absurd (List.append_nil sentinel ▸ List.prefix_refl sentinel) hwhole
      | cons c cs =>
          rw [List.append_assoc, answerSymbol_append, answerSymbol_append, List.cons_append]
          exact extends_readDeclaration limit c cs

/-! ### Reports -/

/-- Did decoding stop before the end of the symbol? -/
def LeavesUnread (symbol : String) : Prop :=
  ∃ d rest, answerSymbol (some maxNesting) symbol.toList = .ok (d, rest) ∧ rest ≠ []

/-- What is reported is read off a declaration, whatever is behind it. -/
theorem demangled_eq_ok_iff_answerSymbol {symbol : String} {report : Demangled} :
    demangled symbol = .ok report ↔
      ∃ d rest, answerSymbol (some maxNesting) symbol.toList = .ok (d, rest) ∧
        d.demangled = report := by
  rw [demangled_eq_ok_iff_decode]
  constructor
  · rintro ⟨d, hdecode, hreport⟩
    obtain ⟨rest, hanswer⟩ := decode_eq_ok_iff.1 hdecode
    exact ⟨d, rest, hanswer, hreport⟩
  · rintro ⟨d, rest, hanswer, hreport⟩
    exact ⟨d, decode_eq_ok_iff.2 ⟨rest, hanswer⟩, hreport⟩

/-- What is reported as a failure is the failure of the reader. -/
theorem demangled_eq_error_iff {symbol : String} {fault : DecodeError} :
    demangled symbol = .error fault ↔
      answerSymbol (some maxNesting) symbol.toList = .error fault := by
  rw [demangled, decode, decodeWithin_eq_map_answerSymbol]
  constructor
  · intro h
    rcases hanswer : answerSymbol (some maxNesting) symbol.toList with fault' | read
    · rw [hanswer] at h
      cases h
      rfl
    · rw [hanswer] at h
      cases h
  · intro h
    rw [h]
    rfl

/-- A beginning of the sentinel fails in the one way that it can. -/
theorem demangled_of_prefix_sentinel {s : String} (hpartial : s.toList <+: sentinel) :
    demangled s = .error .unrecognizedFormat := by
  rcases toList_prefix_sentinel_iff.1 hpartial with rfl | rfl | rfl <;> rfl

/-- A report stays what it was, if something was left unread or what is appended is detached. -/
theorem demangled_append_eq_ok {s t : String} {report : Demangled}
    (h : demangled s = .ok report) (hsettled : LeavesUnread s ∨ Detached t.toList) :
    demangled (s ++ t) = .ok report := by
  obtain ⟨d, rest, hanswer, hreport⟩ := demangled_eq_ok_iff_answerSymbol.1 h
  have hwhole : ¬ s.toList <+: sentinel := by
    intro hpartial
    rw [demangled_of_prefix_sentinel hpartial] at h
    cases h
  have hrest : rest ≠ [] ∨ Detached t.toList := by
    refine hsettled.imp_left ?_
    rintro ⟨d', rest', hanswer', hne⟩
    rw [hanswer] at hanswer'
    cases hanswer'
    exact hne
  have hanswer' := (extends_answerSymbol (some maxNesting) hwhole).ok hanswer hrest
  rw [← String.toList_append] at hanswer'
  exact demangled_eq_ok_iff_answerSymbol.2 ⟨d, rest ++ t.toList, hanswer', hreport⟩

/-- A final failure stays, unless the sentinel itself was cut off. -/
theorem demangled_append_eq_error {s t : String} {fault : DecodeError}
    (h : demangled s = .error fault) (hfinal : fault.IsFinal)
    (hwhole : ¬ s.toList <+: sentinel) : demangled (s ++ t) = .error fault := by
  have hanswer := (extends_answerSymbol (t := t.toList) (some maxNesting) hwhole).error
    (demangled_eq_error_iff.1 h) hfinal
  rw [← String.toList_append] at hanswer
  exact demangled_eq_error_iff.2 hanswer

/-- **What has been settled stays settled.** Text behind a symbol changes neither a report on it,
unless the symbol was read to its end and the text starts with a digit, `R` or `C`, nor a failure
that is final, unless the symbol is no more than a beginning of the sentinel. So whatever starts
a symbol that can be decoded, is decoded itself or ends too early or in the middle of a number. -/
theorem demangled_append (s t : String) :
    (∀ report, demangled s = .ok report → LeavesUnread s ∨ Detached t.toList →
      demangled (s ++ t) = .ok report) ∧
    (∀ fault, demangled s = .error fault → fault.IsFinal →
      (fault = .unrecognizedFormat → s ≠ "" ∧ s ≠ "_" ∧ s ≠ "_W") →
      demangled (s ++ t) = .error fault) ∧
    (∀ report, demangled (s ++ t) = .ok report → 3 ≤ s.utf8ByteSize →
      (∃ report', demangled s = .ok report') ∨ demangled s = .error .truncated ∨
        demangled s = .error .malformedInteger) := by
  refine ⟨fun _ => demangled_append_eq_ok, ?_, ?_⟩
  · intro fault h hfinal hshort
    refine demangled_append_eq_error h hfinal fun hpartial => ?_
    rw [demangled_of_prefix_sentinel hpartial] at h
    cases h
    obtain ⟨hempty, hunderscore, hsentinel⟩ := hshort rfl
    rcases toList_prefix_sentinel_iff.1 hpartial with rfl | rfl | rfl
    · exact hempty rfl
    · exact hunderscore rfl
    · exact hsentinel rfl
  · intro report h hsize
    rcases hverdict : demangled s with fault | report'
    · rcases fault.isFinal_or with hfinal | rfl | rfl
      · rw [demangled_append_eq_error hverdict hfinal (not_prefix_sentinel hsize)] at h
        cases h
      · exact .inr (.inl rfl)
      · exact .inr (.inr rfl)
    · exact .inl ⟨report', rfl⟩

end

attribute [local instance] Allocator.unlimited

/-- A type of four letters, and whatever follows it. -/
theorem answerSymbol_node (next : List Char) :
    answerSymbol (some maxNesting) ("_WT4Node".toList ++ next) =
      .ok (.type (.nominal none "Node"), next) := by
  simp [answerSymbol, afterSentinel?, answer_readDeclaration_cons, answer_readType_cons,
    answer_readForm_cons, answer_readName, answer_readNumber_cons, Nat.ofDigitChars, numberBound,
    UInt64.size, splitBytes?, splitBytes?_zero, Char.utf8Size, Answer.andThen_ok]

/-- An unknown code is a final failure. -/
theorem answerSymbol_unknownBuiltin :
    answerSymbol (some maxNesting) "_WTsq".toList = .error (.unknownTypeMarker 'q') := by
  simp [answerSymbol, afterSentinel?, answer_readDeclaration_cons, answer_readType_cons,
    answer_readForm_cons, answer_readBuiltin_cons, Builtin.ofLetter?, Answer.andThen_error]

/-- A type with a suffix behind it, and with two; a builtin type that is none; a name cut short. -/
theorem demangled_append_node :
    demangled ("_WT4Node" ++ ".cold") = .ok ⟨.type, "Node", false⟩ ∧
      demangled ("_WT4Node." ++ "7") = .ok ⟨.type, "Node", false⟩ ∧
      demangled ("_WTsq" ++ "7") = .error (.unknownTypeMarker 'q') ∧
      ((∃ report, demangled "_WT4No" = .ok report) ∨ demangled "_WT4No" = .error .truncated ∨
        demangled "_WT4No" = .error .malformedInteger) := by
  have hnode : demangled "_WT4Node" = .ok ⟨.type, "Node", false⟩ :=
    demangled_eq_ok_iff_answerSymbol.2 ⟨_, [], answerSymbol_node [], rfl⟩
  have hdot : demangled "_WT4Node." = .ok ⟨.type, "Node", false⟩ :=
    demangled_eq_ok_iff_answerSymbol.2 ⟨_, ['.'], answerSymbol_node ['.'], rfl⟩
  have hunknown : demangled "_WTsq" = .error (.unknownTypeMarker 'q') :=
    demangled_eq_error_iff.2 answerSymbol_unknownBuiltin
  have hunread : LeavesUnread "_WT4Node." := ⟨_, ['.'], answerSymbol_node ['.'], by decide⟩
  have hdetached : Detached ".cold".toList := ⟨by decide, by decide, by decide⟩
  refine ⟨?_, ?_, ?_, ?_⟩
  · exact (demangled_append "_WT4Node" ".cold").1 _ hnode (.inr hdetached)
  · exact (demangled_append "_WT4Node." "7").1 _ hdot (.inl hunread)
  · exact (demangled_append "_WTsq" "7").2.1 _ hunknown (.unknownTypeMarker 'q') nofun
  · exact (demangled_append "_WT4No" "de").2.2 _ hnode (by decide)

end SymbolTrace.Mangling
