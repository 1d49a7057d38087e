import SymbolTrace.Mangling.Decode

/-!
# What the readers answer

A reader gives back a value, the text it leaves, and the fact that this text is shorter than the
one it was given. The fact makes the readers recurse; statements about them are about the value
and the text alone, which is what `answer` keeps. Answers are chained by `Answer.andThen`.

For each reader there is one equation that says what it answers to the empty text, where that
matters, and one for a text that starts with a character. The other modules work from these
equations and do not open the readers again.

## Main definitions

* `Answer`: a value and the unread text, or a failure.
* `answer`: what a reader answers; `laxAnswer` for the readers that may leave everything unread.
* `Answer.andThen`: one reader after another.
-/

namespace SymbolTrace.Mangling

open Text

variable {α β : Type}

/-- A value and the text left unread, or a failure. -/
abbrev Answer (α : Type) := Except DecodeError (α × List Char)

/-- What a reader answers. -/
def answer {text : List Char} (result : Except DecodeError (Reading α text)) : Answer α :=
  result.map fun reading => (reading.value, reading.rest)

/-- What a reader answers that may leave the whole text unread. -/
def laxAnswer {text : List Char}
    (result : Except DecodeError { read : α × List Char // read.2.length ≤ text.length }) :
    Answer α :=
  result.map Subtype.val

/-- One reader after another: the second is given the value and the text that the first left. -/
def Answer.andThen (first : Answer α) (second : α → List Char → Answer β) : Answer β :=
  match first with
  | .error fault => .error fault
  | .ok (value, rest) => second value rest

/-! ### Chaining -/

/-- A reader that succeeds hands value and rest on. -/
theorem Answer.andThen_ok (value : α) (rest : List Char) (second : α → List Char → Answer β) :
    Answer.andThen (.ok (value, rest)) second = second value rest := rfl

/-- A failure is the answer of the whole chain. -/
theorem Answer.andThen_error (fault : DecodeError) (second : α → List Char → Answer β) :
    Answer.andThen (.error fault) second = .error fault := rfl

/-- A chain succeeds exactly if both readers do. -/
theorem Answer.andThen_eq_ok_iff {first : Answer α} {second : α → List Char → Answer β}
    {value : β} {next : List Char} :
    first.andThen second = .ok (value, next) ↔
      ∃ v rest, first = .ok (v, rest) ∧ second v rest = .ok (value, next) := by
  constructor
  · intro h
    rcases first with fault | ⟨v, rest⟩
    · cases h
    · exact ⟨v, rest, rfl, h⟩
  · rintro ⟨v, rest, rfl, h⟩
    exact h

/-- Chaining is all that happens when a reader's reading is handed to a second reader. -/
theorem answer_bind {inner outer : List Char} {first : Except DecodeError (Reading α inner)}
    {second : Reading α inner → Except DecodeError (Reading β outer)}
    {next : α → List Char → Answer β}
    (h : ∀ reading, answer (second reading) = next reading.value reading.rest) :
    answer (first >>= second) = (answer first).andThen next := by
  rcases first with fault | reading
  · rfl
  · exact h reading

/-- As `answer_bind`, for a first reader that may leave everything unread. -/
theorem answer_laxBind {inner outer : List Char}
    {first : Except DecodeError { read : α × List Char // read.2.length ≤ inner.length }}
    {second : { read : α × List Char // read.2.length ≤ inner.length } →
      Except DecodeError (Reading β outer)}
    {next : α → List Char → Answer β}
    (h : ∀ read, answer (second read) = next read.val.1 read.val.2) :
    answer (first >>= second) = (laxAnswer first).andThen next := by
  rcases first with fault | read
  · rfl
  · exact h read

/-- As `answer_bind`, for a second reader that may leave everything unread. -/
theorem laxAnswer_bind {inner outer : List Char} {first : Except DecodeError (Reading α inner)}
    {second : Reading α inner →
      Except DecodeError { read : β × List Char // read.2.length ≤ outer.length }}
    {next : α → List Char → Answer β}
    (h : ∀ reading, laxAnswer (second reading) = next reading.value reading.rest) :
    laxAnswer (first >>= second) = (answer first).andThen next := by
  rcases first with fault | reading
  · rfl
  · exact h reading

/-- What holds of every reading holds of what is answered. -/
theorem answer_induction {text : List Char} {result : Except DecodeError (Reading α text)}
    {value : α} {rest : List Char} {P : α → List Char → Prop}
    (h : ∀ reading : Reading α text, P reading.value reading.rest)
    (hanswer : answer result = .ok (value, rest)) : P value rest := by
  rcases result with fault | reading
  · cases hanswer
  · cases hanswer
    exact h reading

/-! ### Numbers and names -/

/-- A number needs a digit. -/
theorem answer_readNumber_nil : answer (readNumber []) = .error .malformedInteger := rfl

/-- A number is the longest run of digits, which has to denote a machine word. -/
theorem answer_readNumber_cons (c : Char) (cs : List Char) :
    answer (readNumber (c :: cs)) =
      if c.isDigit then
        if Nat.ofDigitChars 10 (c :: cs.takeWhile Char.isDigit) 0 < numberBound then
          .ok (Nat.ofDigitChars 10 (c :: cs.takeWhile Char.isDigit) 0, cs.dropWhile Char.isDigit)
        else .error .malformedInteger
      else .error .malformedInteger := by
  rw [readNumber]
  by_cases hdigit : c.isDigit
  · by_cases hlt : Nat.ofDigitChars 10 (c :: cs.takeWhile Char.isDigit) 0 < numberBound
    · rw [if_pos hdigit, if_pos hlt, if_pos hdigit, if_pos hlt]
      rfl
    · rw [if_pos hdigit, if_neg hlt, if_pos hdigit, if_neg hlt]
      rfl
  · rw [if_neg hdigit, if_neg hdigit]
    rfl

/-- A name is a number and then as many bytes; bytes that are missing, or that end inside a
character, are told as an end of the text. -/
theorem answer_readName (text : List Char) :
    answer (readName text) =
      (answer (readNumber text)).andThen fun size rest =>
        match splitBytes? size rest with
        | some (name, rest) => .ok (String.ofList name, rest)
        | none => .error .truncated := by
  rw [readName]
  refine answer_bind fun size => ?_
  split <;> rename_i h <;> simp only [h] <;> rfl

/-! ### Types -/

/-- A width may be missing at the end of a text. -/
theorem laxAnswer_readWidth_nil : laxAnswer (readWidth []) = .ok (none, []) := rfl

/-- A width is there if a digit is. -/
theorem laxAnswer_readWidth_cons (c : Char) (cs : List Char) :
    laxAnswer (readWidth (c :: cs)) =
      if c.isDigit then
        (answer (readNumber (c :: cs))).andThen fun width rest => .ok (some width, rest)
      else .ok (none, c :: cs) := by
  rw [readWidth]
  split
  · exact laxAnswer_bind fun width => rfl
  · rfl

/-- The builtin type that a single letter stands for. -/
def Builtin.ofLetter? : Char → Option Builtin
  | 'I' => some .int
  | 'f' => some .float
  | 'd' => some .double
  | 'F' => some .float80
  | 'b' => some .bool
  | 'v' => some .void
  | _ => none

/-- A code needs a character. -/
theorem answer_readBuiltin_nil : answer (Builtin.read []) = .error .truncated := rfl

/-- A code is one letter, or the letter of sized integers and a width. -/
theorem answer_readBuiltin_cons (c : Char) (cs : List Char) :
    answer (Builtin.read (c :: cs)) =
      if c = 'i' then
        (laxAnswer (readWidth cs)).andThen fun width rest => .ok (.sizedInt width, rest)
      else
        match Builtin.ofLetter? c with
        | some code => .ok (code, cs)
        | none => .error (.unknownTypeMarker c) := by
  by_cases hi : c = 'i'
  · subst hi
    rw [if_pos rfl]
    exact answer_laxBind fun width => rfl
  · rw [if_neg hi]
    fun_cases Builtin.ofLetter? c
    iterate 6 rfl
    rw [Builtin.read]
    · rfl
    all_goals simp_all

/-- A type is refused only for the limit, and only where that many are open. -/
theorem checkNesting_eq_error_iff {limit : Option Nat} {depth : Nat} {fault : DecodeError} :
    checkNesting limit depth = .error fault ↔
      ∃ bound, limit = some bound ∧ bound ≤ depth ∧ fault = .nestingTooDeep bound := by
  cases limit with
  | none => simp [checkNesting]
  | some bound =>
      by_cases hroom : depth < bound
      · simp [checkNesting, hroom, Nat.not_le.2 hroom]
      · simp [checkNesting, hroom, Nat.not_lt.1 hroom, eq_comm]

/-- What stands for opening a function or tuple type: the text is left as it is. -/
def openNested (limit : Option Nat) (depth : Nat) (text : List Char) : Answer Unit :=
  (checkNesting limit depth).map fun _ => ((), text)

variable [Allocator]

/-- A pointer count ends with `T`. Only behind that does the allocator have a say. -/
theorem answer_readPointerCount (text : List Char) :
    answer (readPointerCount text) =
      (answer (readNumber text)).andThen fun count rest =>
        match rest with
        | [] => .error .truncated
        | c :: rest =>
            if c = 'T' then
              if Allocator.holdsRun count then .ok (count, rest) else .error .malformedInteger
            else .error .unrecognizedFormat := by
  rw [readPointerCount]
  refine answer_bind fun count => ?_
  split <;> rename_i h
  · simp only [h]
    rfl
  · simp only [h, if_true]
    split <;> rfl
  · rename_i c cs hc
    simp only [h, if_neg hc]
    rfl

/-- A type needs a character. -/
theorem answer_readType_nil (limit : Option Nat) (depth : Nat) :
    answer (TypeExpr.read limit depth []) = .error .truncated := by
  rw [TypeExpr.read, TypeExpr.readForm]
  · rfl
  · simp

/-- A type is a pointer prefix and a form, or a form alone. -/
theorem answer_readType_cons (limit : Option Nat) (depth : Nat) (c : Char) (cs : List Char) :
    answer (TypeExpr.read limit depth (c :: cs)) =
      if c = 'P' then
        (answer (readPointerCount cs)).andThen fun count rest =>
          answer (TypeExpr.readForm limit depth (some count) rest)
      else answer (TypeExpr.readForm limit depth none (c :: cs)) := by
  by_cases hc : c = 'P'
  · subst hc
    rw [TypeExpr.read, if_pos rfl]
    refine answer_bind fun count => ?_
    cases TypeExpr.readForm limit depth (some count.value) count.rest <;> rfl
  · rw [if_neg hc, TypeExpr.read]
    simpa using hc

/-- A form needs a character. -/
theorem answer_readForm_nil (limit : Option Nat) (depth : Nat) (pointers : Option Nat) :
    answer (TypeExpr.readForm limit depth pointers []) = .error .truncated := by
  rw [TypeExpr.readForm]
  rfl

/-- The first character of a form tells function types, tuples and builtin types; any other one
begins a name. What nests is opened before anything in it is read. -/
theorem answer_readForm_cons (limit : Option Nat) (depth : Nat) (pointers : Option Nat) (c : Char)
    (cs : List Char) :
    answer (TypeExpr.readForm limit depth pointers (c :: cs)) =
      if c = 'F' then
        (openNested limit depth cs).andThen fun _ rest =>
        (answer (TypeExpr.readUntil limit (depth + 1) 'R' rest)).andThen fun parameters rest =>
        (answer (TypeExpr.read limit (depth + 1) rest)).andThen fun result rest =>
          .ok (.function pointers parameters result, rest)
      else if c = 't' then
        (openNested limit depth cs).andThen fun _ rest =>
        (answer (TypeExpr.readUntil limit (depth + 1) 'T' rest)).andThen fun fields rest =>
          .ok (.tuple pointers fields, rest)
      else if c = 's' then
        (answer (Builtin.read cs)).andThen fun code rest => .ok (.builtin pointers code, rest)
      else
        (answer (readName (c :: cs))).andThen fun name rest =>
          .ok (.nominal pointers name, rest) := by
  by_cases hF : c = 'F'
  · subst hF
    rw [TypeExpr.readForm, if_pos rfl, openNested]
    cases checkNesting limit depth with
    | error fault => rfl
    | ok _ =>
        refine answer_bind fun parameters => ?_
        exact answer_bind fun result => rfl
  by_cases ht : c = 't'
  · subst ht
    rw [TypeExpr.readForm, if_neg hF, if_pos rfl, openNested]
    cases checkNesting limit depth with
    | error fault => rfl
    | ok _ => exact answer_bind fun fields => rfl
  by_cases hs : c = 's'
  · subst hs
    rw [TypeExpr.readForm, if_neg hF, if_neg ht, if_pos rfl]
    exact answer_bind fun code => rfl
  · rw [TypeExpr.readForm, if_neg hF, if_neg ht, if_neg hs]
    · exact answer_bind fun name => rfl
    all_goals simp_all

/-- A list of types needs its terminator. -/
theorem answer_readUntil_nil (limit : Option Nat) (depth : Nat) (terminator : Char) :
    answer (TypeExpr.readUntil limit depth terminator []) = .error .truncated := by
  rw [TypeExpr.readUntil]
  rfl

/-- A list is at its end, or it goes on with a type. -/
theorem answer_readUntil_cons (limit : Option Nat) (depth : Nat) (terminator c : Char)
    (cs : List Char) :
    answer (TypeExpr.readUntil limit depth terminator (c :: cs)) =
      if c = terminator then .ok ([], cs)
      else
        (answer (TypeExpr.read limit depth (c :: cs))).andThen fun type rest =>
        (answer (TypeExpr.readUntil limit depth terminator rest)).andThen fun types rest =>
          .ok (type :: types, rest) := by
  rw [TypeExpr.readUntil]
  by_cases hc : c = terminator
  · rw [if_pos hc, if_pos hc]
    rfl
  · rw [if_neg hc, if_neg hc]
    refine answer_bind fun type => ?_
    exact answer_bind fun types => rfl

/-- The induction along the readers of types, with what is known of each text as a statement about
answers. What is known of the text behind a number, a list or a type is known for every way in
which that part can be read. -/
theorem readType_induction (limit : Option Nat) {type : Nat → List Char → Prop}
    {form : Nat → Option Nat → List Char → Prop} {list : Nat → Char → List Char → Prop}
    (prefixed : ∀ depth cs,
      (∀ count rest, answer (readPointerCount cs) = .ok (count, rest) →
        form depth (some count) rest) → type depth ('P' :: cs))
    (bare : ∀ depth text, text.head? ≠ some 'P' → form depth none text → type depth text)
    (formEnd : ∀ depth pointers, form depth pointers [])
    (function : ∀ depth pointers cs, list (depth + 1) 'R' cs →
      (∀ parameters rest,
        answer (TypeExpr.readUntil limit (depth + 1) 'R' cs) = .ok (parameters, rest) →
        type (depth + 1) rest) → form depth pointers ('F' :: cs))
    (tuple : ∀ depth pointers cs, list (depth + 1) 'T' cs → form depth pointers ('t' :: cs))
    (builtin : ∀ depth pointers cs, form depth pointers ('s' :: cs))
    (nominal : ∀ depth pointers c cs, c ≠ 'F' → c ≠ 't' → c ≠ 's' → form depth pointers (c :: cs))
    (listEnd : ∀ depth terminator, list depth terminator [])
    (terminator : ∀ depth c cs, list depth c (c :: cs))
    (item : ∀ depth terminator c cs, c ≠ terminator → type depth (c :: cs) →
      (∀ first rest, answer (TypeExpr.read limit depth (c :: cs)) = .ok (first, rest) →
        list depth terminator rest) → list depth terminator (c :: cs)) :
    (∀ depth text, type depth text) ∧ (∀ depth pointers text, form depth pointers text) ∧
      ∀ depth terminator text, list depth terminator text := by
  refine TypeExpr.read.mutual_induct type form list ?_ ?_ formEnd ?_ tuple builtin ?_ listEnd
    terminator ?_
  · intro depth cs ih
    exact prefixed depth cs fun count rest hcount =>
      answer_induction (P := fun count rest => form depth (some count) rest) ih hcount
  · intro depth text hP ih
    refine bare depth text (fun hhead => ?_) ih
    obtain ⟨cs, rfl⟩ := List.head?_eq_some_iff.1 hhead
    exact hP cs rfl
  · intro depth pointers cs ihParameters ihResult
    exact function depth pointers cs ihParameters fun parameters rest hparameters =>
      answer_induction (P := fun _ rest => type (depth + 1) rest) ihResult hparameters
  · intro depth pointers text hnil hF ht hs
    cases text with
    | nil => exact absurd rfl hnil
    | cons c cs =>
        exact nominal depth pointers c cs (fun hc => hF cs (by rw [hc]))
          (fun hc => ht cs (by rw [hc])) (fun hc => hs cs (by rw [hc]))
  · intro depth terminator c cs hc ihFirst ihRest
    exact item depth terminator c cs hc ihFirst fun first rest hfirst =>
      answer_induction (P := fun _ rest => list depth terminator rest) ihRest hfirst

/-! ### Arguments -/

omit [Allocator] in
/-- A label is not looked for at the end of a text. -/
theorem laxAnswer_readLabel_nil : laxAnswer (Label.read []) = .error .truncated := rfl

omit [Allocator] in
/-- One character tells the labels apart; where none is, a placeholder is shown. -/
theorem laxAnswer_readLabel_cons (c : Char) (cs : List Char) :
    laxAnswer (Label.read (c :: cs)) =
      if c = 'S' then .ok (.omitted, cs)
      else if c = 'E' then
        (answer (readName cs)).andThen fun name rest => .ok (.external name, rest)
      else .ok (.placeholder, c :: cs) := by
  by_cases hS : c = 'S'
  · subst hS
    rfl
  by_cases hE : c = 'E'
  · subst hE
    rw [if_neg hS, if_pos rfl]
    exact laxAnswer_bind fun name => rfl
  · rw [if_neg hS, if_neg hE, Label.read]
    · rfl
    all_goals simp_all

/-- An argument is a label, a name and a type outside of all others. -/
theorem answer_readArgument (limit : Option Nat) (text : List Char) :
    answer (Argument.read limit text) =
      (laxAnswer (Label.read text)).andThen fun label rest =>
      (answer (readName rest)).andThen fun name rest =>
      (answer (TypeExpr.read limit 0 rest)).andThen fun type rest =>
        .ok (⟨label, name, type⟩, rest) := by
  rw [Argument.read]
  refine answer_laxBind fun label => ?_
  refine answer_bind fun name => ?_
  exact answer_bind fun type => rfl

/-- A list of arguments needs its terminator. -/
theorem answer_readArguments_nil (limit : Option Nat) :
    answer (Argument.readAll limit []) = .error .truncated := by
  rw [Argument.readAll]
  rfl

/-- A list is at its end, or it goes on with an argument. -/
theorem answer_readArguments_cons (limit : Option Nat) (c : Char) (cs : List Char) :
    answer (Argument.readAll limit (c :: cs)) =
      if c = '_' then .ok ([], cs)
      else
        (answer (Argument.read limit (c :: cs))).andThen fun argument rest =>
        (answer (Argument.readAll limit rest)).andThen fun arguments rest =>
          .ok (argument :: arguments, rest) := by
  by_cases hc : c = '_'
  · subst hc
    rw [Argument.readAll]
    rfl
  · rw [if_neg hc, Argument.readAll]
    · refine answer_bind fun argument => ?_
      exact answer_bind fun arguments => rfl
    all_goals simp_all

/-- The induction along the reader of arguments. What is known of the text behind an argument is
known for every way in which that argument can be read. -/
theorem readArguments_induction (limit : Option Nat) {list : List Char → Prop} (listEnd : list [])
    (underscore : ∀ cs, list ('_' :: cs))
    (item : ∀ c cs, c ≠ '_' →
      (∀ argument rest, answer (Argument.read limit (c :: cs)) = .ok (argument, rest) →
        list rest) → list (c :: cs)) (text : List Char) : list text := by
  refine Argument.readAll.induct list listEnd underscore ?_ text
  intro text hnil hunderscore ih
  cases text with
  | nil => exact absurd rfl hnil
  | cons c cs =>
      refine item c cs (fun hc => hunderscore cs (by rw [hc])) fun argument rest hargument => ?_
      exact answer_induction (P := fun _ rest => list rest) ih hargument

/-! ### Declarations -/

/-- A result type may be missing at the end of a text. -/
theorem laxAnswer_readResult_nil (limit : Option Nat) :
    laxAnswer (readResult limit []) = .ok (none, []) := rfl

/-- A result type is there if its marker is. -/
theorem laxAnswer_readResult_cons (limit : Option Nat) (c : Char) (cs : List Char) :
    laxAnswer (readResult limit (c :: cs)) =
      if c = 'R' then
        (answer (TypeExpr.read limit 0 cs)).andThen fun type rest => .ok (some type, rest)
      else .ok (none, c :: cs) := by
  by_cases hc : c = 'R'
  · subst hc
    exact laxAnswer_bind fun type => rfl
  · rw [if_neg hc, readResult]
    · rfl
    · simpa using hc

omit [Allocator] in
/-- The closure mark is one character. -/
theorem splitClosureMark_cons (c : Char) (cs : List Char) :
    splitClosureMark (c :: cs) = if c = 'C' then (true, cs) else (false, c :: cs) := by
  by_cases hc : c = 'C'
  · subst hc
    rfl
  · rw [if_neg hc, splitClosureMark]
    simpa using hc

/-- A signature is arguments, an optional result and an optional closure mark, in this order. -/
theorem answer_readSignature (limit : Option Nat) (text : List Char) :
    answer (Signature.read limit text) =
      (answer (Argument.readAll limit text)).andThen fun arguments rest =>
      (laxAnswer (readResult limit rest)).andThen fun result rest =>
      Answer.andThen (.ok (splitClosureMark rest)) fun wrapper rest =>
        .ok (⟨arguments, result, wrapper⟩, rest) := by
  rw [Signature.read]
  refine answer_bind fun arguments => ?_
  exact answer_laxBind fun result => rfl

/-- A callee without a marker is a name, and a name needs a digit. -/
theorem answer_readCallee_nil (limit : Option Nat) :
    answer (Callee.read limit []) = .error .malformedInteger := rfl

/-- The marker of a callee tells methods and initializers from free functions. -/
theorem answer_readCallee_cons (limit : Option Nat) (c : Char) (cs : List Char) :
    answer (Callee.read limit (c :: cs)) =
      if c = 'M' then
        (answer (TypeExpr.read limit 0 cs)).andThen fun owner rest =>
        (answer (readName rest)).andThen fun name rest => .ok (.method owner name, rest)
      else if c = 'I' then
        (answer (TypeExpr.read limit 0 cs)).andThen fun owner rest => .ok (.initializer owner, rest)
      else
        (answer (readName (c :: cs))).andThen fun name rest => .ok (.free name, rest) := by
  by_cases hM : c = 'M'
  · subst hM
    rw [if_pos rfl, Callee.read]
    refine answer_bind fun owner => ?_
    exact answer_bind fun name => rfl
  by_cases hI : c = 'I'
  · subst hI
    exact answer_bind fun owner => rfl
  · rw [if_neg hM, if_neg hI, Callee.read]
    · exact answer_bind fun name => rfl
    all_goals simp_all

/-- Nothing behind the marker of functions is read as a free function. -/
theorem answer_readFunctionBody_nil (limit : Option Nat) :
    answer (Declaration.readFunctionBody limit []) = .error .malformedInteger := rfl

/-- Deinitializers have an owner and no signature; all others have a callee and a signature. -/
theorem answer_readFunctionBody_cons (limit : Option Nat) (c : Char) (cs : List Char) :
    answer (Declaration.readFunctionBody limit (c :: cs)) =
      if c = 'D' then
        (answer (TypeExpr.read limit 0 cs)).andThen fun owner rest =>
          .ok (.deinitializer owner, rest)
      else
        (answer (Callee.read limit (c :: cs))).andThen fun callee rest =>
        (answer (Signature.read limit rest)).andThen fun signature rest =>
          .ok (.function callee signature, rest) := by
  by_cases hD : c = 'D'
  · subst hD
    exact answer_bind fun owner => rfl
  · rw [if_neg hD, Declaration.readFunctionBody]
    · refine answer_bind fun callee => ?_
      exact answer_bind fun signature => rfl
    · simpa using hD

/-- A bare sentinel announces nothing. -/
theorem answer_readDeclaration_nil (limit : Option Nat) :
    answer (Declaration.read limit []) = .error .unrecognizedFormat := rfl

/-- A declaration is a type or a function. Closures are announced but not supported. -/
theorem answer_readDeclaration_cons (limit : Option Nat) (c : Char) (cs : List Char) :
    answer (Declaration.read limit (c :: cs)) =
      if c = 'T' then
        (answer (TypeExpr.read limit 0 cs)).andThen fun type rest => .ok (.type type, rest)
      else if c = 'C' then .error .unsupported
      else if c = 'F' then answer (Declaration.readFunctionBody limit cs)
      else .error .unrecognizedFormat := by
  by_cases hT : c = 'T'
  · subst hT
    exact answer_bind fun type => rfl
  by_cases hC : c = 'C'
  · subst hC
    rfl
  by_cases hF : c = 'F'
  · subst hF
    rw [if_neg hT, if_neg hC, if_pos rfl, Declaration.read]
    cases Declaration.readFunctionBody limit cs <;> rfl
  · rw [if_neg hT, if_neg hC, if_neg hF, Declaration.read]
    · rfl
    all_goals simp_all

/-! ### Symbols -/

/-- The declaration that a symbol stands for, and what is left of the symbol after it. -/
def answerSymbol (limit : Option Nat) (symbol : List Char) : Answer Declaration :=
  match afterSentinel? symbol with
  | none => .error .unrecognizedFormat
  | some body => answer (Declaration.read limit body)

/-- What is behind the sentinel is read as a declaration. -/
theorem answerSymbol_append (limit : Option Nat) (body : List Char) :
    answerSymbol limit (sentinel ++ body) = answer (Declaration.read limit body) := rfl

/-- The decoder reports the declaration and forgets what is behind it. -/
theorem decodeWithin_eq_map_answerSymbol (limit : Option Nat) (symbol : String) :
    decodeWithin limit symbol = (answerSymbol limit symbol.toList).map Prod.fst := by
  rw [decodeWithin, answerSymbol]
  cases afterSentinel? symbol.toList with
  | none => rfl
  | some body =>
      dsimp only
      cases Declaration.read limit body <;> rfl

end SymbolTrace.Mangling
