import SymbolTrace.Proofs.Mangling.Settled

/-!
# The readers are settled

What each reader does in front of a text is settled, and is what the reader without an output
answers. The readers of numbers, names and builtin types are gone through by what the text starts
with. Types are done by the induction along the readers without an output: in each of its cases the
parts are settled, so the whole is, by the ways in which settled readers are put together.

## Main results

* `settled_readIdentifier`, `settled_readPointers`, `settled_readBuiltinType`: the parts of types.
* `settled_types`: types and lists of types.
* `settled_readArgument`: arguments.
-/

namespace SymbolTrace.Mangling

open Text

variable {depth : Nat} {text : List Char}

namespace Parser

variable {limit : Option Nat} {parser : Parser}

/-! ### Numbers and names -/

/-- The number that the digits at the front of a text spell. -/
def leadingNumber (text : List Char) : Nat :=
  Nat.ofDigitChars 10 (text.takeWhile Char.isDigit) 0

/-- A number is read if a digit is there and the number is not too large. -/
theorem answer_readNumber_eq (text : List Char) :
    answer (readNumber text) =
      if text.takeWhile Char.isDigit ≠ [] ∧ leadingNumber text < numberBound then
        .ok (leadingNumber text, text.dropWhile Char.isDigit)
      else .error .malformedInteger := by
  cases text with
  | nil => rfl
  | cons c cs =>
      rw [answer_readNumber_cons]
      by_cases hdigit : c.isDigit = true
      · simp only [leadingNumber, List.takeWhile_cons_of_pos hdigit,
          List.dropWhile_cons_of_pos hdigit, hdigit, if_true, ne_eq, reduceCtorEq,
          not_false_eq_true, true_and]
      · simp only [List.takeWhile_cons_of_neg hdigit, hdigit, ne_eq, not_true_eq_false, false_and,
          Bool.false_eq_true, if_false]

/-- What there is of a number in front of the cursor. -/
theorem readOptionalInteger_cases (hunread : parser.unread? = some text) :
    (text.takeWhile Char.isDigit = [] ∧ parser.readOptionalInteger = none) ∨
    (text.takeWhile Char.isDigit ≠ [] ∧ ∃ attempt, parser.readOptionalInteger = some attempt ∧
      attempt.outcome =
        if leadingNumber text < numberBound then
          some (.ok (leadingNumber text), parser.pass (text.takeWhile Char.isDigit))
        else some (.error .malformedInteger, parser)) := by
  have hdigits := Cursor.digitsAt?_eq hunread
  rw [pass, Cursor.byteCount_takeWhile_isDigit]
  unfold readOptionalInteger
  split
  · rename_i hnone
    rw [hdigits] at hnone
    cases hnone
  · rename_i digits hsome
    obtain rfl : text.takeWhile Char.isDigit = digits := Option.some.inj (hdigits.symm.trans hsome)
    split
    all_goals
      rename_i hnumber
      have hvalues := hnumber
      unfold Cursor.numberOf at hvalues
      split_ifs at hvalues with hnil hvalue
      all_goals cases hvalues
    · exact .inr ⟨hnil, _, rfl, by rw [leadingNumber, if_neg hvalue]; rfl⟩
    · exact .inl ⟨hnil, rfl⟩
    · exact .inr ⟨hnil, _, rfl, by rw [leadingNumber, if_pos hvalue]; rfl⟩

/-- A number is read and not written. -/
theorem settled_readInteger (depth : Nat) (text : List Char) :
    Settled (fun parser => parser.readInteger.outcome) depth text
      ((answer (readNumber text)).told (fun number => number) fun _ => "") := by
  rw [answer_readNumber_eq]
  by_cases hnumber : text.takeWhile Char.isDigit ≠ [] ∧ leadingNumber text < numberBound
  · obtain ⟨hne, hvalue⟩ := hnumber
    rw [if_pos ⟨hne, hvalue⟩]
    refine ⟨.ok (leadingNumber text), text.takeWhile Char.isDigit, text.dropWhile Char.isDigit, "",
      List.takeWhile_append_dropWhile.symm, rfl, fun parser hunread _ => ?_⟩
    rcases readOptionalInteger_cases hunread with ⟨hnil, -⟩ | ⟨-, attempt, hsome, houtcome⟩
    · exact absurd hnil hne
    · rw [if_pos hvalue] at houtcome
      simp only [readInteger, hsome, Option.getD_some, houtcome, write_empty]
  · rw [if_neg hnumber]
    refine (Settled.failed .malformedInteger).congr fun parser hunread _ => ?_
    rcases readOptionalInteger_cases hunread with ⟨-, hnone⟩ | ⟨hne, attempt, hsome, houtcome⟩
    · rw [readInteger, hnone]
      rfl
    · rw [if_neg fun hvalue => hnumber ⟨hne, hvalue⟩] at houtcome
      simp only [readInteger, hsome, Option.getD_some, houtcome]

/-- The bytes of a name. -/
theorem settled_nameBytes (depth size : Nat) (text : List Char) :
    Settled (fun parser : Parser =>
        match slice? parser.position (parser.position + size) parser.input with
        | none => some (.error .truncated, parser)
        | some name =>
            some (.ok (), { parser with position := parser.position + size }.write
              (String.ofList name))) depth text
      (Answer.told (fun _ => ()) id
        (match splitBytes? size text with
        | some (name, rest) => .ok (String.ofList name, rest)
        | none => .error .truncated)) := by
  cases hsplit : splitBytes? size text with
  | none =>
      refine (Settled.failed .truncated).congr fun parser hunread _ => ?_
      simp only [Cursor.slice?_eq hunread size, hsplit, Option.map_none]
  | some split =>
      obtain ⟨name, rest⟩ := split
      obtain ⟨rfl, rfl⟩ := splitBytes?_eq_some_iff.1 hsplit
      refine ⟨.ok (), name, rest, String.ofList name, rfl, rfl, fun parser hunread _ => ?_⟩
      simp only [Cursor.slice?_eq hunread, hsplit, Option.map_some]
      rfl

/-- A name is written as it is. -/
theorem settled_readIdentifier (depth : Nat) (text : List Char) :
    Settled (fun parser => parser.readIdentifier.outcome) depth text
      ((answer (readName text)).told (fun _ => ()) id) := by
  have hname := (settled_readInteger depth text).andThen _ fun size rest _ =>
    settled_nameBytes depth size rest
  simp only [Answer.after_empty] at hname
  rw [answer_readName, Answer.told_andThen]
  exact hname.congr fun parser _ _ => parser.outcome_readIdentifier

/-! ### Builtin types -/

/-- A width is read if a digit is there. -/
theorem laxAnswer_readWidth_eq (text : List Char) :
    laxAnswer (Mangling.readWidth text) =
      if text.takeWhile Char.isDigit = [] then .ok (none, text)
      else (answer (readNumber text)).andThen fun width rest => .ok (some width, rest) := by
  cases text with
  | nil => rfl
  | cons c cs =>
      rw [laxAnswer_readWidth_cons]
      by_cases hdigit : c.isDigit = true
      · rw [if_pos hdigit, List.takeWhile_cons_of_pos hdigit, if_neg (List.cons_ne_nil _ _)]
      · rw [if_neg hdigit, List.takeWhile_cons_of_neg hdigit, if_pos rfl]

/-- A width is written, if it is there. -/
theorem settled_readWidth (depth : Nat) (text : List Char) :
    Settled (fun parser => parser.readWidth.outcome) depth text
      ((laxAnswer (Mangling.readWidth text)).told (fun _ => ()) Cursor.widthText) := by
  rw [laxAnswer_readWidth_eq]
  by_cases hnil : text.takeWhile Char.isDigit = []
  · rw [if_pos hnil]
    refine (Settled.done ()).congr fun parser hunread _ => ?_
    rcases readOptionalInteger_cases hunread with ⟨-, hnone⟩ | ⟨hne, -⟩
    · simp only [outcome_readWidth, hnone]
    · exact absurd hnil hne
  · have hnumber := (settled_readInteger depth text).andThen
      (fun width parser => some (.ok (), parser.write width.repr))
      fun width _ _ => Settled.wrote width.repr
    simp only [Answer.after_empty] at hnumber
    rw [if_neg hnil, Answer.told_andThen]
    refine hnumber.congr fun parser hunread _ => ?_
    rcases readOptionalInteger_cases hunread with ⟨h, -⟩ | ⟨-, attempt, hsome, -⟩
    · exact absurd h hnil
    · simp only [outcome_readWidth, readInteger, hsome, Option.getD_some]

/-- A code without a width is told by its letter. -/
theorem outcome_readBuiltinType_cons {c : Char} {cs : List Char}
    (hunread : parser.unread? = some (c :: cs)) (hi : c ≠ 'i') :
    parser.readBuiltinType.outcome =
      (Builtin.ofLetter? c).elim (some (.error (.unknownTypeMarker c), parser)) fun code =>
        some (.ok (), parser.bump.write code.text) := by
  obtain ⟨byte, hbyte⟩ := Option.isSome_iff_exists.1 (isSome_peek_cons hunread)
  rw [parser.outcome_readBuiltinType hbyte,
    if_neg (by simpa (disch := decide) [sees_cons hunread] using hi),
    Cursor.ofLetter?_of_byteAt? hunread hbyte, hunread]
  cases Builtin.ofLetter? c <;> rfl

/-- The name of a code is written. -/
theorem settled_readBuiltinType (depth : Nat) (text : List Char) :
    Settled (fun parser => parser.readBuiltinType.outcome) depth text
      ((answer (Builtin.read text)).told (fun _ => ()) Builtin.text) := by
  cases text with
  | nil =>
      refine (Settled.failed .truncated).congr fun parser hunread _ => ?_
      exact parser.outcome_readBuiltinType_of_peek_eq_none (peek_nil hunread)
  | cons c cs =>
      rw [answer_readBuiltin_cons]
      by_cases hi : c = 'i'
      · subst hi
        have htold : Answer.told (fun _ => ()) Builtin.text
              ((laxAnswer (Mangling.readWidth cs)).andThen fun width rest =>
                .ok (.sizedInt width, rest)) =
            ((laxAnswer (Mangling.readWidth cs)).told (fun _ => ())
              Cursor.widthText).after "Int" := by
          rcases laxAnswer (Mangling.readWidth cs) with fault | ⟨_ | width, rest⟩ <;> rfl
        rw [if_pos rfl, htold]
        refine (((settled_readWidth depth cs).write "Int").bump (c := 'i') (by decide)).congr
          fun parser hunread _ => ?_
        obtain ⟨byte, hbyte⟩ := Option.isSome_iff_exists.1 (isSome_peek_cons hunread)
        rw [parser.outcome_readBuiltinType hbyte,
          if_pos (by simp (disch := decide) [sees_cons hunread])]
      · rw [if_neg hi]
        cases hcode : Builtin.ofLetter? c with
        | some code =>
            refine ((Settled.wrote code.text).bump (Cursor.toNat_lt_of_ofLetter? hcode)).congr
              fun parser hunread _ => ?_
            rw [outcome_readBuiltinType_cons hunread hi, hcode, Option.elim_some]
        | none =>
            refine (Settled.failed (.unknownTypeMarker c)).congr fun parser hunread _ => ?_
            rw [outcome_readBuiltinType_cons hunread hi, hcode, Option.elim_none]

/-! ### Pointer counts -/

variable [Allocator]

/-- The end of a pointer prefix with this number. -/
theorem settled_pointerEnd (depth count : Nat) (text : List Char) :
    Settled (fun parser : Parser =>
        if parser.sees 'T' then
          if Allocator.holdsRun count then
            some (.ok (), parser.bump.write (pointerText (some count)))
          else some (.error .malformedInteger, parser.bump)
        else if parser.peek.isSome then some (.error .unrecognizedFormat, parser)
        else some (.error .truncated, parser)) depth text
      (Answer.told (fun _ => ()) (fun count => pointerText (some count))
        (match text with
        | [] => .error .truncated
        | c :: rest =>
            if c = 'T' then
              if Allocator.holdsRun count then .ok (count, rest) else .error .malformedInteger
            else .error .unrecognizedFormat)) := by
  cases text with
  | nil =>
      refine (Settled.failed .truncated).congr fun parser hunread _ => ?_
      simp (disch := decide) only [sees_nil hunread, peek_nil hunread, Option.isSome_none,
        Bool.false_eq_true, if_false]
  | cons c rest =>
      by_cases hT : c = 'T'
      · subst hT
        simp only [if_true]
        by_cases hcount : Allocator.holdsRun count
        · rw [if_pos hcount]
          refine ((Settled.wrote _).bump (c := 'T') (by decide)).congr fun parser hunread _ => ?_
          simp (disch := decide) only [sees_cons hunread, decide_true, if_true, if_pos hcount]
        · rw [if_neg hcount]
          refine ((Settled.failed .malformedInteger).bump (c := 'T') (by decide)).congr
            fun parser hunread _ => ?_
          simp (disch := decide) only [sees_cons hunread, decide_true, if_true, if_neg hcount]
      · simp only [if_neg hT]
        refine (Settled.failed .unrecognizedFormat).congr fun parser hunread _ => ?_
        simp (disch := decide) only [sees_cons hunread, decide_eq_true_eq, if_neg hT,
          isSome_peek_cons hunread, if_true]

/-- The markers of a prefix are written. -/
theorem settled_readPointers (depth : Nat) (text : List Char) :
    Settled (fun parser => parser.readPointers.outcome) depth text
      ((answer (readPointerCount text)).told (fun _ => ()) fun count =>
        pointerText (some count)) := by
  have hcount := (settled_readInteger depth text).andThen _ fun count rest _ =>
    settled_pointerEnd depth count rest
  simp only [Answer.after_empty] at hcount
  rw [answer_readPointerCount, Answer.told_andThen]
  exact hcount.congr fun parser _ _ => parser.outcome_readPointers

/-! ### Types -/

/-- The pointer prefix is written in front. -/
theorem told_readForm (limit : Option Nat) (depth : Nat) (pointers : Option Nat)
    (text : List Char) :
    (answer (TypeExpr.readForm limit depth pointers text)).told (fun _ => ()) TypeExpr.text =
      ((answer (TypeExpr.readForm limit depth pointers text)).told (fun _ => ())
        Cursor.formText).after (pointerText pointers) := by
  rw [Answer.told_eq_shown, Cursor.shown_readForm, Answer.told_prepend, ← Answer.told_eq_shown]

/-- What is shown of a function type, from behind its marker on. -/
def functionText (limit : Option Nat) (depth : Nat) (text : List Char) : Answer String :=
  (answer (TypeExpr.readUntil limit depth 'R' text)).andThen fun parameters rest =>
    (answer (TypeExpr.read limit depth rest)).shown fun result =>
      parenthesized (TypeExpr.texts parameters) ++ arrow ++ result.text

/-- What is shown of a tuple type, from behind its marker on. -/
def tupleText (limit : Option Nat) (depth : Nat) (text : List Char) : Answer String :=
  (answer (TypeExpr.readUntil limit depth 'T' text)).shown fun fields =>
    parenthesized (TypeExpr.texts fields)

/-- The reader of types does in front of a text what the one without an output answers. -/
def TypeSettled (limit : Option Nat) (depth : Nat) (text : List Char) : Prop :=
  Settled (fun parser => (parser.readType limit).outcome) depth text
    ((answer (TypeExpr.read limit depth text)).told (fun _ => ()) TypeExpr.text)

/-- The same for lists of types. -/
def ListSettled (limit : Option Nat) (depth : Nat) (terminator : Char) (text : List Char) : Prop :=
  Settled (fun parser => (parser.readTypeList limit terminator).outcome) depth text
    ((answer (TypeExpr.readUntil limit depth terminator text)).told TypeExpr.texts fun _ => "")

/-- A function type is settled if its parameters and its result are. -/
theorem ListSettled.function (hparameters : ListSettled limit depth 'R' text)
    (hresult : ∀ parameters rest,
      answer (TypeExpr.readUntil limit depth 'R' text) = .ok (parameters, rest) →
      TypeSettled limit depth rest) :
    Settled (fun parser => (parser.readFunctionType limit).outcome) depth text
      ((functionText limit depth text).told (fun _ => ()) id) := by
  have hfunction := hparameters.andThen
    (fun parameters behind =>
      (((behind.write (parenthesized parameters)).write arrow).readType limit).outcome)
    fun parameters rest hread =>
      ((hresult parameters rest hread).write arrow).write
        (parenthesized (TypeExpr.texts parameters))
  simp only [Answer.after_told] at hfunction
  rw [functionText, Answer.told_andThen]
  simp only [← Answer.told_eq_shown, String.append_assoc]
  exact hfunction.congr fun parser _ _ => parser.outcome_readFunctionType limit

/-- A tuple is settled if its fields are. -/
theorem ListSettled.tuple (hfields : ListSettled limit depth 'T' text) :
    Settled (fun parser => (parser.readTupleType limit).outcome) depth text
      ((tupleText limit depth text).told (fun _ => ()) id) := by
  have htuple := hfields.andThen
    (fun fields behind => some (.ok (), behind.write (parenthesized fields)))
    fun fields _ _ => Settled.wrote (parenthesized (TypeExpr.texts fields))
  simp only [Answer.after_empty] at htuple
  rw [tupleText, ← Answer.told_eq_shown]
  exact htuple.congr fun parser _ _ => parser.outcome_readTupleType limit

/-- A function type behind its pointer prefix. -/
theorem settled_readForm_function (pointers : Option Nat) {cs : List Char}
    (h : Settled (fun parser => (parser.readFunctionType limit).outcome) (depth + 1) cs
      ((functionText limit (depth + 1) cs).told (fun _ => ()) id)) :
    Settled (fun parser => (parser.readForm limit).outcome) depth ('F' :: cs)
      ((answer (TypeExpr.readForm limit depth pointers ('F' :: cs))).told (fun _ => ())
        Cursor.formText) := by
  rw [functionText, Answer.told_andThen] at h
  simp only [← Answer.told_eq_shown] at h
  rw [answer_readForm_cons, if_pos rfl, Cursor.openNested_andThen]
  simp only [Answer.told_andThen, Answer.told_ok, Cursor.formText]
  refine (h.nested.bump (c := 'F') (by decide)).congr fun parser hunread _ => ?_
  simp (disch := decide) only [outcome_readForm, isNone_peek_cons hunread, sees_cons hunread,
    decide_true, if_true, Bool.false_eq_true, if_false]

/-- A tuple type behind its pointer prefix. -/
theorem settled_readForm_tuple (pointers : Option Nat) {cs : List Char}
    (h : Settled (fun parser => (parser.readTupleType limit).outcome) (depth + 1) cs
      ((tupleText limit (depth + 1) cs).told (fun _ => ()) id)) :
    Settled (fun parser => (parser.readForm limit).outcome) depth ('t' :: cs)
      ((answer (TypeExpr.readForm limit depth pointers ('t' :: cs))).told (fun _ => ())
        Cursor.formText) := by
  rw [tupleText, ← Answer.told_eq_shown] at h
  rw [answer_readForm_cons, if_neg (by decide), if_pos rfl, Cursor.openNested_andThen]
  simp only [Answer.told_andThen, Answer.told_ok, Cursor.formText]
  refine (h.nested.bump (c := 't') (by decide)).congr fun parser hunread _ => ?_
  simp (disch := decide) only [outcome_readForm, isNone_peek_cons hunread, sees_cons hunread,
    decide_eq_true_eq, if_true, Bool.false_eq_true, if_false]
  rfl

/-- A builtin type behind its pointer prefix. -/
theorem settled_readForm_builtin (depth : Nat) (pointers : Option Nat) (cs : List Char) :
    Settled (fun parser => (parser.readForm limit).outcome) depth ('s' :: cs)
      ((answer (TypeExpr.readForm limit depth pointers ('s' :: cs))).told (fun _ => ())
        Cursor.formText) := by
  rw [answer_readForm_cons, if_neg (by decide), if_neg (by decide), if_pos rfl]
  simp only [Answer.told_andThen, Answer.told_ok, Cursor.formText]
  refine ((settled_readBuiltinType depth cs).bump (c := 's') (by decide)).congr
    fun parser hunread _ => ?_
  simp (disch := decide) only [outcome_readForm, isNone_peek_cons hunread, sees_cons hunread,
    decide_eq_true_eq, if_true, Bool.false_eq_true, if_false]
  rfl

/-- A character that opens nothing and marks no builtin type begins a name. -/
theorem settled_readForm_nominal (depth : Nat) (pointers : Option Nat) {c : Char} {cs : List Char}
    (hF : c ≠ 'F') (ht : c ≠ 't') (hs : c ≠ 's') :
    Settled (fun parser => (parser.readForm limit).outcome) depth (c :: cs)
      ((answer (TypeExpr.readForm limit depth pointers (c :: cs))).told (fun _ => ())
        Cursor.formText) := by
  rw [answer_readForm_cons, if_neg hF, if_neg ht, if_neg hs]
  simp only [Answer.told_andThen, Answer.told_ok, Cursor.formText]
  refine (settled_readIdentifier depth (c :: cs)).congr fun parser hunread _ => ?_
  simp (disch := decide) only [outcome_readForm, isNone_peek_cons hunread, sees_cons hunread,
    decide_eq_true_eq, if_neg hF, if_neg ht, if_neg hs, Bool.false_eq_true, if_false]

/-- A type without a pointer prefix. -/
theorem TypeSettled.of_form (hP : text.head? ≠ some 'P')
    (h : Settled (fun parser => (parser.readForm limit).outcome) depth text
      ((answer (TypeExpr.readForm limit depth none text)).told (fun _ => ()) Cursor.formText)) :
    TypeSettled limit depth text := by
  have hread : answer (TypeExpr.read limit depth text) =
      answer (TypeExpr.readForm limit depth none text) := by
    cases text with
    | nil => rw [answer_readType_nil, answer_readForm_nil]
    | cons c cs => rw [answer_readType_cons, if_neg (by simpa using hP)]
  rw [TypeSettled, hread, told_readForm, show pointerText none = "" from rfl, Answer.after_empty]
  refine h.congr fun parser hunread _ => ?_
  have hsees : ¬ parser.sees 'P' = true := mt (Cursor.sees_iff hunread (by decide)).1 hP
  rw [outcome_readType, if_neg hsees]

/-- What follows the pointer prefix of a type is not there. -/
theorem settled_readForm_nil (depth : Nat) (pointers : Option Nat) :
    Settled (fun parser => (parser.readForm limit).outcome) depth []
      ((answer (TypeExpr.readForm limit depth pointers [])).told (fun _ => ())
        Cursor.formText) := by
  rw [answer_readForm_nil]
  refine (Settled.failed .truncated).congr fun parser hunread _ => ?_
  rw [outcome_readForm, peek_nil hunread]
  rfl

/-- The readers of types. -/
theorem settled_types (limit : Option Nat) :
    (∀ depth text, TypeSettled limit depth text) ∧
    (∀ depth pointers text, Settled (fun parser => (parser.readForm limit).outcome) depth text
      ((answer (TypeExpr.readForm limit depth pointers text)).told (fun _ => ())
        Cursor.formText)) ∧
    ∀ depth terminator text, terminator.toNat < 128 → ListSettled limit depth terminator text := by
  refine readType_induction limit ?prefixed (fun _ _ => TypeSettled.of_form) settled_readForm_nil
    ?function ?tuple settled_readForm_builtin ?nominal ?listEnd ?terminator ?item
  case prefixed =>
    intro depth cs ih
    have hprefixed := (settled_readPointers depth cs).andThen
      (fun _ inside => (inside.readForm limit).outcome) ih
    rw [TypeSettled, answer_readType_cons, if_pos rfl, Answer.told_andThen]
    simp only [told_readForm]
    refine (hprefixed.bump (c := 'P') (by decide)).congr fun parser hunread _ => ?_
    simp (disch := decide) only [outcome_readType, sees_cons hunread, decide_true, if_true]
  case function =>
    intro depth pointers cs ihParameters ihResult
    exact settled_readForm_function pointers ((ihParameters (by decide)).function ihResult)
  case tuple =>
    intro depth pointers cs ih
    exact settled_readForm_tuple pointers (ih (by decide)).tuple
  case nominal =>
    intro depth pointers c cs hF ht hs
    exact settled_readForm_nominal depth pointers hF ht hs
  case listEnd =>
    intro depth terminator hascii
    have htype : TypeSettled limit depth [] :=
      .of_form (by simp) (settled_readForm_nil depth none)
    have hitem := htype.capture
    rw [answer_readType_nil] at hitem
    rw [ListSettled, answer_readUntil_nil]
    refine (hitem.andThen_error fun item behind =>
      (behind.readTypeList limit terminator).outcome.andThen fun items parser =>
        some (.ok (item :: items), parser)).congr fun parser hunread _ => ?_
    rw [outcome_readTypeList, sees_nil hunread hascii, if_neg Bool.false_ne_true]
  case terminator =>
    intro depth c cs hascii
    rw [ListSettled, answer_readUntil_cons, if_pos rfl]
    refine ((Settled.done []).bump hascii).congr fun parser hunread _ => ?_
    rw [outcome_readTypeList, sees_cons hunread hascii, if_pos (decide_eq_true rfl)]
  case item =>
    intro depth terminator c cs hc ihFirst ihRest hascii
    have hlist := ihFirst.capture.andThen
      (fun item behind => (behind.readTypeList limit terminator).outcome.andThen
        fun items parser => some (.ok (item :: items), parser))
      fun first rest hfirst => (ihRest first rest hfirst hascii).andThen
        (fun items parser => some (.ok (first.text :: items), parser))
        fun types _ _ => Settled.done (first.text :: TypeExpr.texts types)
    simp only [Answer.after_empty] at hlist
    rw [ListSettled, answer_readUntil_cons, if_neg hc]
    simp only [Answer.told_andThen, Answer.told_ok, TypeExpr.texts]
    refine hlist.congr fun parser hunread _ => ?_
    rw [outcome_readTypeList, sees_cons hunread hascii, if_neg (by simpa using hc)]

/-! ### Arguments -/

/-- A name with its type is settled. -/
theorem settled_readNamedType (limit : Option Nat) (depth : Nat) (text : List Char) :
    Settled (fun parser => (parser.readNamedType limit).outcome) depth text
      ((Cursor.readNamed limit depth text).told (fun _ => ()) id) := by
  have hnamed := (settled_readIdentifier depth text).andThen
    (fun _ behind => ((behind.write ": ").readType limit).outcome)
    fun _ rest _ => ((settled_types limit).1 depth rest).write ": "
  simp only [Answer.after_told, id_eq] at hnamed
  rw [Cursor.readNamed, Answer.told_andThen]
  simp only [← Answer.told_eq_shown]
  exact hnamed.congr fun parser _ _ => parser.outcome_readNamedType limit

/-- What is shown of an argument, read inside so many types. -/
def argumentText (limit : Option Nat) (depth : Nat) (text : List Char) : Answer String :=
  (laxAnswer (Label.read text)).andThen fun label rest =>
  (answer (readName rest)).andThen fun name rest =>
  (answer (TypeExpr.read limit depth rest)).shown fun type => Argument.text ⟨label, name, type⟩

/-- What shows for an argument is its label and then a name with its type. -/
theorem told_argumentText (limit : Option Nat) (depth : Nat) (text : List Char) :
    (argumentText limit depth text).told (fun _ => ()) id =
      (laxAnswer (Label.read text)).andThen fun label rest =>
        ((Cursor.readNamed limit depth rest).told (fun _ => ()) id).after label.text := by
  simp only [← Answer.told_prepend, ← Cursor.shown_argument]
  exact Answer.told_andThen ..

/-- An argument is settled, whatever its label. -/
theorem settled_readArgument (limit : Option Nat) (depth : Nat) (text : List Char) :
    Settled (fun parser => (parser.readArgument limit).outcome) depth text
      ((argumentText limit depth text).told (fun _ => ()) id) := by
  rw [told_argumentText]
  cases text with
  | nil =>
      rw [laxAnswer_readLabel_nil]
      refine (Settled.failed .truncated).congr fun parser hunread _ => ?_
      rw [outcome_readArgument, peek_nil hunread]
      rfl
  | cons c cs =>
      rw [laxAnswer_readLabel_cons]
      split_ifs with hS hE
      · subst hS
        rw [Answer.andThen_ok, Label.text, Answer.after_empty]
        refine ((settled_readNamedType limit depth cs).bump (c := 'S') (by decide)).congr
          fun parser hunread _ => ?_
        simp (disch := decide) only [outcome_readArgument, isNone_peek_cons hunread,
          sees_cons hunread, decide_true, if_true, Bool.false_eq_true, if_false]
      · subst hE
        have hlabel := (settled_readIdentifier depth cs).andThen
          (fun _ behind => ((behind.write " ").readNamedType limit).outcome)
          fun _ rest _ => (settled_readNamedType limit depth rest).write " "
        have htold : ((answer (readName cs)).andThen fun name rest =>
              .ok (Label.external name, rest)).andThen (fun label rest =>
              ((Cursor.readNamed limit depth rest).told (fun _ => ()) id).after label.text) =
            (answer (readName cs)).andThen fun name rest =>
              (((Cursor.readNamed limit depth rest).told (fun _ => ()) id).after
                " ").after name := by
          rcases answer (readName cs) with fault | ⟨name, rest⟩
          · rfl
          · simp only [Answer.andThen_ok, Answer.after_told, Label.text, String.append_assoc]
        rw [htold]
        refine (hlabel.bump (c := 'E') (by decide)).congr fun parser hunread _ => ?_
        simp (disch := decide) only [outcome_readArgument, isNone_peek_cons hunread,
          sees_cons hunread, decide_eq_true_eq, if_neg hS, if_true, Bool.false_eq_true, if_false]
      · rw [Answer.andThen_ok, Label.text]
        refine ((settled_readNamedType limit depth (c :: cs)).write "_ ").congr
          fun parser hunread _ => ?_
        simp (disch := decide) only [outcome_readArgument, isNone_peek_cons hunread,
          sees_cons hunread, decide_eq_true_eq, if_neg hS, if_neg hE, Bool.false_eq_true, if_false]

end Parser

end SymbolTrace.Mangling
