import SymbolTrace.Proofs.Mangling.Extension

/-!
# Kinds told by markers, and kinds decoded

`Kind.ofSymbol?` looks at the sentinel and at no more than two markers behind it; the decoder reads
a whole declaration. They never disagree: whatever is decoded is of the kind that its markers
announce, and closures are the symbols that are refused as unsupported.

For the converse it has to be known what the failures tell about the text. `Answer.Blames text`
says so of a reader that was given `text`: it never calls anything unsupported, and it calls a
format unrecognized only because of a pointer count in that text that is not closed. A chain of
readers blames the text that the first of them was given, since what the first leaves is the end
of it. Only the marker of a declaration is refused on other grounds.

## Main results

* `Answer.Blames.andThen`, `blames_readers`: readers blame the text that they are given.
* `Declaration.Spelled.ofBody?_eq`: markers announce the kind of what they stand in front of.
* `classification_agrees`: the reports and failures of the decoder against the kind announced.
-/

namespace SymbolTrace.Mangling

open Text

variable {α β : Type} {text : List Char}

/-! ### What a failure tells -/

/-- The text has a pointer count in it that is followed by something else than what closes it. -/
def UnclosedPointerCount (text : List Char) : Prop :=
  ∃ front digits c back, text = front ++ 'P' :: (digits ++ c :: back) ∧ digits ≠ [] ∧
    (∀ d ∈ digits, d.isDigit = true) ∧ c.isDigit = false ∧ c ≠ 'T'

/-- A text has the unclosed counts of its ends. -/
theorem UnclosedPointerCount.of_suffix {rest : List Char} (h : UnclosedPointerCount rest)
    (hrest : rest <:+ text) : UnclosedPointerCount text := by
  obtain ⟨front, digits, c, back, rfl, hcount⟩ := h
  obtain ⟨before, rfl⟩ := hrest
  exact ⟨before ++ front, digits, c, back, by rw [List.append_assoc], hcount⟩

/-- What a reader of parts of a declaration may answer to the text it is given. -/
structure Answer.Blames (text : List Char) (a : Answer α) : Prop where
  suffix {value : α} {rest : List Char} : a = .ok (value, rest) → rest <:+ text
  supported : a ≠ .error .unsupported
  unclosed : a = .error .unrecognizedFormat → UnclosedPointerCount text

/-- A success blames nothing and leaves an end of the text. -/
theorem Answer.Blames.ok (value : α) {rest : List Char} (h : rest <:+ text) :
    Answer.Blames text (.ok (value, rest)) where
  suffix heq := by cases heq; exact h
  supported := nofun
  unclosed := nofun

/-- Failures of any other cause tell nothing here. -/
theorem Answer.Blames.error {fault : DecodeError} (hsupported : fault ≠ .unsupported)
    (hrecognized : fault ≠ .unrecognizedFormat) :
    Answer.Blames text (.error fault : Answer α) where
  suffix := nofun
  supported heq := hsupported (Except.error.inj heq)
  unclosed heq := absurd (Except.error.inj heq) hrecognized

/-- That the text broke off is always a reason. -/
theorem Answer.Blames.truncated : Answer.Blames text (.error .truncated : Answer α) :=
  .error nofun nofun

/-- That a number is wrong is always a reason. -/
theorem Answer.Blames.malformedInteger :
    Answer.Blames text (.error .malformedInteger : Answer α) :=
  .error nofun nofun

/-- What blames an end of a text blames the text. -/
theorem Answer.Blames.of_suffix {rest : List Char} {a : Answer α} (h : a.Blames rest)
    (hrest : rest <:+ text) : a.Blames text where
  suffix heq := (h.suffix heq).trans hrest
  supported := h.supported
  unclosed heq := (h.unclosed heq).of_suffix hrest

/-- One more character may stand in front. -/
theorem Answer.Blames.cons {rest : List Char} {a : Answer α} (h : a.Blames rest) (c : Char) :
    a.Blames (c :: rest) :=
  h.of_suffix (List.suffix_cons c rest)

/-- **Chaining.** What the second reader blames is the end of what the first was given. -/
theorem Answer.Blames.andThen {first : Answer α} {second : α → List Char → Answer β}
    (hfirst : first.Blames text)
    (hsecond : ∀ value rest, first = .ok (value, rest) → (second value rest).Blames rest) :
    (first.andThen second).Blames text := by
  rcases first with fault | ⟨value, rest⟩
  · have hsupported : fault ≠ .unsupported := fun h => hfirst.supported (congrArg _ h)
    constructor
    · intro value rest heq
      cases heq
    · exact fun heq => hsupported (Except.error.inj heq)
    · intro heq
      cases heq
      exact hfirst.unclosed rfl
  · rw [Answer.andThen_ok]
    exact (hsecond value rest rfl).of_suffix (hfirst.suffix rfl)

/-- A value made of what was read changes nothing. -/
theorem Answer.Blames.map {first : Answer α} (hfirst : first.Blames text) (f : α → β) :
    (first.andThen fun value rest => .ok (f value, rest)).Blames text :=
  hfirst.andThen fun value rest _ => .ok (f value) (List.suffix_refl rest)

/-! ### Numbers, names and builtin types -/

/-- Numbers fail for what they are. -/
theorem blames_readNumber (text : List Char) : (answer (readNumber text)).Blames text := by
  rcases hnumber : answer (readNumber text) with fault | ⟨value, rest⟩
  · obtain rfl := eq_malformedInteger_of_readNumber hnumber
    exact .malformedInteger
  · obtain ⟨digits, rfl, -⟩ := answer_readNumber_eq_ok_iff.1 hnumber
    exact .ok value (List.suffix_append digits rest)

/-- Names fail for their sizes or for the end of the text. -/
theorem blames_readName (text : List Char) : (answer (readName text)).Blames text := by
  rw [answer_readName]
  refine (blames_readNumber text).andThen fun size rest _ => ?_
  split
  · rename_i name next hsplit
    obtain ⟨rfl, -⟩ := splitBytes?_eq_some_iff.1 hsplit
    exact .ok _ (List.suffix_append name next)
  · exact .truncated

/-- Widths fail as numbers do. -/
theorem blames_readWidth (text : List Char) : (laxAnswer (readWidth text)).Blames text := by
  cases text with
  | nil =>
      rw [laxAnswer_readWidth_nil]
      exact .ok none (List.suffix_refl [])
  | cons c cs =>
      rw [laxAnswer_readWidth_cons]
      split
      · exact (blames_readNumber (c :: cs)).map some
      · exact .ok none (List.suffix_refl (c :: cs))

/-- An unknown code is a character of the text. -/
theorem blames_readBuiltin (text : List Char) : (answer (Builtin.read text)).Blames text := by
  cases text with
  | nil =>
      rw [answer_readBuiltin_nil]
      exact .truncated
  | cons c cs =>
      rw [answer_readBuiltin_cons]
      split
      · exact ((blames_readWidth cs).map Builtin.sizedInt).cons c
      · cases Builtin.ofLetter? c with
        | some code => exact .ok code (List.suffix_cons c cs)
        | none => exact .error nofun nofun

/-- Types are refused for nesting under a limit only. -/
theorem blames_openNested (limit : Option Nat) (depth : Nat) (text : List Char) :
    (openNested limit depth text).Blames text := by
  rw [openNested]
  rcases hroom : checkNesting limit depth with fault | ⟨⟩
  · obtain ⟨bound, -, -, rfl⟩ := checkNesting_eq_error_iff.1 hroom
    exact .error (by simp) (by simp)
  · exact .ok () (List.suffix_refl text)

/-- Labels fail as names do. -/
theorem blames_readLabel (text : List Char) : (laxAnswer (Label.read text)).Blames text := by
  cases text with
  | nil =>
      rw [laxAnswer_readLabel_nil]
      exact .truncated
  | cons c cs =>
      rw [laxAnswer_readLabel_cons]
      split
      · exact .ok Label.omitted (List.suffix_cons c cs)
      · split
        · exact ((blames_readName cs).map Label.external).cons c
        · exact .ok Label.placeholder (List.suffix_refl (c :: cs))

/-- Behind the closure mark is an end of the text. -/
theorem splitClosureMark_suffix (text : List Char) : (splitClosureMark text).2 <:+ text := by
  cases text with
  | nil => exact List.suffix_refl []
  | cons c cs =>
      rw [splitClosureMark_cons]
      split
      · exact List.suffix_cons c cs
      · exact List.suffix_refl (c :: cs)

/-! ### Kinds -/

/-- What the first marker decides: the markers behind it only tell functions apart. -/
theorem Kind.ofBody?_cases (body : List Char) :
    (ofBody? body = none ∧ ∀ c ∈ body.head?, c ≠ 'T' ∧ c ≠ 'C' ∧ c ≠ 'F') ∨
    (ofBody? body = some .closure ∧ ∃ cs, body = 'C' :: cs) ∨
    (ofBody? body = some .type ∧ ∃ cs, body = 'T' :: cs) ∨
    ((∃ form, ofBody? body = some (.function form)) ∧ ∃ cs, body = 'F' :: cs) := by
  fun_cases Kind.ofBody? body with
  | case1 cs => exact .inr (.inr (.inl ⟨rfl, cs, rfl⟩))
  | case2 cs => exact .inr (.inl ⟨rfl, cs, rfl⟩)
  | case3 cs => exact .inr (.inr (.inr ⟨⟨.deinitializer, rfl⟩, _, rfl⟩))
  | case4 cs => exact .inr (.inr (.inr ⟨⟨.method, rfl⟩, _, rfl⟩))
  | case5 cs => exact .inr (.inr (.inr ⟨⟨.initializer, rfl⟩, _, rfl⟩))
  | case6 cs => exact .inr (.inr (.inr ⟨⟨.free, rfl⟩, cs, rfl⟩))
  | case7 body hT hC _ _ _ hF =>
      refine .inl ⟨rfl, fun c hc => ?_⟩
      obtain ⟨cs, rfl⟩ := List.head?_eq_some_iff.1 hc
      exact ⟨fun h => hT cs (by rw [h]), fun h => hC cs (by rw [h]), fun h => hF cs (by rw [h])⟩

/-- Markers announce the kind of what they stand in front of. -/
theorem Declaration.Spelled.ofBody?_eq {d : Declaration} {w next : List Char}
    (h : d.Spelled w next) : Kind.ofBody? (w ++ next) = some d.kind := by
  cases h with
  | type _ => rfl
  | deinitializer _ => rfl
  | function hcallee _ =>
      cases hcallee with
      | free hname =>
          obtain ⟨c, cs, rfl, hc⟩ := hname.exists_cons
          have hD : c ≠ 'D' := ne_of_isDigit hc rfl
          have hM : c ≠ 'M' := ne_of_isDigit hc rfl
          have hI : c ≠ 'I' := ne_of_isDigit hc rfl
          simp [Kind.ofBody?, Declaration.kind, Callee.kind, hD, hM, hI]
      | method _ _ => rfl
      | initializer _ => rfl

/-- The markers of a symbol announce the kind of the declaration that it spells. -/
theorem Kind.ofSymbol?_of_spelled {symbol : String} {d : Declaration} {w next : List Char}
    (hsymbol : symbol.toList = sentinel ++ w ++ next) (h : d.Spelled w next) :
    ofSymbol? symbol = some d.kind := by
  have hbody : afterSentinel? symbol.toList = some (w ++ next) :=
    afterSentinel?_eq_some_iff.2 (by rw [hsymbol, List.append_assoc])
  rw [ofSymbol?, hbody]
  exact h.ofBody?_eq

/-- Only functions with a callee have wrappers, and the remark is the last thing shown of one. -/
theorem Declaration.demangled_of_closureWrapper {d : Declaration}
    (h : d.demangled.closureWrapper = true) :
    (∃ form ∈ [FunctionForm.free, .method, .initializer], d.demangled.kind = .function form) ∧
      ∃ front, d.demangled.text = front ++ closureRemark := by
  cases d with
  | type named => cases h
  | deinitializer owner => cases h
  | function callee signature =>
      have hwrapper : signature.closureWrapper = true := h
      refine ⟨⟨callee.kind, ?_, rfl⟩, ?_⟩
      · cases callee <;> simp [Callee.kind]
      · refine ⟨callee.text ++ (parenthesized (signature.arguments.map Argument.text) ++
          resultText signature.result), ?_⟩
        simp only [Declaration.demangled, Declaration.text, Signature.text, hwrapper, if_true,
          String.append_assoc]

/-! ### Pointer counts -/

variable [Allocator]

/-- The one place where a format is not recognized behind the marker of a declaration. -/
theorem blames_readPointerCount (text : List Char) :
    (answer (readPointerCount text)).Blames ('P' :: text) := by
  rw [answer_readPointerCount]
  rcases hcount : answer (readNumber text) with fault | ⟨count, rest⟩
  · obtain rfl := eq_malformedInteger_of_readNumber hcount
    exact .malformedInteger
  obtain ⟨digits, rfl, hdigits⟩ := answer_readNumber_eq_ok_iff.1 hcount
  rw [Answer.andThen_ok]
  cases rest with
  | nil => exact .truncated
  | cons c cs =>
      have hsuffix : cs <:+ 'P' :: (digits ++ c :: cs) := by
        rw [← List.cons_append]
        exact (List.suffix_cons c cs).trans (List.suffix_append ('P' :: digits) (c :: cs))
      have hunclosed (hc : c ≠ 'T') : UnclosedPointerCount ('P' :: (digits ++ c :: cs)) :=
        ⟨[], digits, c, cs, rfl, hdigits.ne_nil, hdigits.isDigit, hdigits.maximal, hc⟩
      dsimp only
      split
      · split
        · exact .ok count hsuffix
        · exact .malformedInteger
      · rename_i hc
        exact ⟨nofun, nofun, fun _ => hunclosed hc⟩

/-! ### Types -/

/-- The readers of types blame their text, by induction along the readers. -/
theorem blames_readers (limit : Option Nat) :
    (∀ depth text, (answer (TypeExpr.read limit depth text)).Blames text) ∧
    (∀ depth pointers text, (answer (TypeExpr.readForm limit depth pointers text)).Blames text) ∧
    (∀ depth terminator text,
      (answer (TypeExpr.readUntil limit depth terminator text)).Blames text) := by
  apply readType_induction limit
  case prefixed =>
    intro depth cs ih
    rw [answer_readType_cons, if_pos rfl]
    exact (blames_readPointerCount cs).andThen ih
  case bare =>
    intro depth text hP ih
    cases text with
    | nil =>
        rw [answer_readType_nil]
        exact .truncated
    | cons c cs =>
        rw [answer_readType_cons, if_neg (by simpa using hP)]
        exact ih
  case formEnd =>
    intro depth pointers
    rw [answer_readForm_nil]
    exact .truncated
  case function =>
    intro depth pointers cs ihParameters ihResult
    rw [answer_readForm_cons, if_pos rfl]
    refine ((blames_openNested limit depth cs).andThen fun _ rest hopen => ?_).cons 'F'
    obtain ⟨rfl, -⟩ := openNested_eq_ok_iff.1 hopen
    refine ihParameters.andThen fun parameters rest hparameters => ?_
    exact (ihResult parameters rest hparameters).map _
  case tuple =>
    intro depth pointers cs ih
    rw [answer_readForm_cons, if_neg (by decide), if_pos rfl]
    refine ((blames_openNested limit depth cs).andThen fun _ rest hopen => ?_).cons 't'
    obtain ⟨rfl, -⟩ := openNested_eq_ok_iff.1 hopen
    exact ih.map _
  case builtin =>
    intro depth pointers cs
    rw [answer_readForm_cons, if_neg (by decide), if_neg (by decide), if_pos rfl]
    exact ((blames_readBuiltin cs).map _).cons 's'
  case nominal =>
    intro depth pointers c cs hF ht hs
    rw [answer_readForm_cons, if_neg hF, if_neg ht, if_neg hs]
    exact (blames_readName (c :: cs)).map _
  case listEnd =>
    intro depth terminator
    rw [answer_readUntil_nil]
    exact .truncated
  case terminator =>
    intro depth c cs
    rw [answer_readUntil_cons, if_pos rfl]
    exact .ok [] (List.suffix_cons c cs)
  case item =>
    intro depth terminator c cs hc ihType ihTypes
    rw [answer_readUntil_cons, if_neg hc]
    refine ihType.andThen fun type rest htype => ?_
    exact (ihTypes type rest htype).map _

/-- Types fail for reasons that are in the text. -/
theorem blames_readType (limit : Option Nat) (depth : Nat) (text : List Char) :
    (answer (TypeExpr.read limit depth text)).Blames text :=
  (blames_readers limit).1 depth text

/-! ### Functions -/

/-- So do arguments, -/
theorem blames_readArgument (limit : Option Nat) (text : List Char) :
    (answer (Argument.read limit text)).Blames text := by
  rw [answer_readArgument]
  refine (blames_readLabel text).andThen fun label rest _ => ?_
  refine (blames_readName rest).andThen fun name rest _ => ?_
  exact (blames_readType limit 0 rest).map _

/-- lists of arguments, -/
theorem blames_readArguments (limit : Option Nat) (text : List Char) :
    (answer (Argument.readAll limit text)).Blames text := by
  induction text using readArguments_induction limit with
  | listEnd =>
      rw [answer_readArguments_nil]
      exact .truncated
  | underscore cs =>
      rw [answer_readArguments_cons, if_pos rfl]
      exact .ok [] (List.suffix_cons '_' cs)
  | item c cs hc ih =>
      rw [answer_readArguments_cons, if_neg hc]
      refine (blames_readArgument limit (c :: cs)).andThen fun argument rest hread => ?_
      exact (ih argument rest hread).map _

/-- result types, -/
theorem blames_readResult (limit : Option Nat) (text : List Char) :
    (laxAnswer (readResult limit text)).Blames text := by
  cases text with
  | nil =>
      rw [laxAnswer_readResult_nil]
      exact .ok none (List.suffix_refl [])
  | cons c cs =>
      rw [laxAnswer_readResult_cons]
      split
      · exact ((blames_readType limit 0 cs).map some).cons c
      · exact .ok none (List.suffix_refl (c :: cs))

/-- signatures, -/
theorem blames_readSignature (limit : Option Nat) (text : List Char) :
    (answer (Signature.read limit text)).Blames text := by
  rw [answer_readSignature]
  refine (blames_readArguments limit text).andThen fun arguments rest _ => ?_
  refine (blames_readResult limit rest).andThen fun result rest _ => ?_
  exact (Answer.Blames.ok _ (splitClosureMark_suffix rest)).map _

/-- callees, -/
theorem blames_readCallee (limit : Option Nat) (text : List Char) :
    (answer (Callee.read limit text)).Blames text := by
  cases text with
  | nil =>
      rw [answer_readCallee_nil]
      exact .malformedInteger
  | cons c cs =>
      rw [answer_readCallee_cons]
      split
      · refine ((blames_readType limit 0 cs).andThen fun owner rest _ => ?_).cons c
        exact (blames_readName rest).map _
      · split
        · exact ((blames_readType limit 0 cs).map Callee.initializer).cons c
        · exact (blames_readName (c :: cs)).map Callee.free

/-- and whatever is behind the marker of functions. -/
theorem blames_readFunctionBody (limit : Option Nat) (text : List Char) :
    (answer (Declaration.readFunctionBody limit text)).Blames text := by
  cases text with
  | nil =>
      rw [answer_readFunctionBody_nil]
      exact .malformedInteger
  | cons c cs =>
      rw [answer_readFunctionBody_cons]
      split
      · exact ((blames_readType limit 0 cs).map Declaration.deinitializer).cons c
      · refine (blames_readCallee limit (c :: cs)).andThen fun callee rest _ => ?_
        exact (blames_readSignature limit rest).map _

/-! ### Declarations -/

/-- The decoder goes by the marker as well: it refuses what announces nothing and what announces a
closure, and otherwise blames the text behind the marker. -/
theorem answer_readDeclaration_cases (limit : Option Nat) (body : List Char) :
    (Kind.ofBody? body = none ∧
      answer (Declaration.read limit body) = .error .unrecognizedFormat) ∨
    (Kind.ofBody? body = some .closure ∧
      answer (Declaration.read limit body) = .error .unsupported) ∨
    (∃ kind, Kind.ofBody? body = some kind ∧ kind ≠ .closure ∧
      (answer (Declaration.read limit body)).Blames body) := by
  rcases Kind.ofBody?_cases body with ⟨hkind, hmarker⟩ | ⟨hkind, cs, rfl⟩ | ⟨hkind, cs, rfl⟩ |
    ⟨⟨form, hkind⟩, cs, rfl⟩
  · refine .inl ⟨hkind, ?_⟩
    cases body with
    | nil => exact answer_readDeclaration_nil limit
    | cons c cs =>
        obtain ⟨hT, hC, hF⟩ := hmarker c rfl
        rw [answer_readDeclaration_cons, if_neg hT, if_neg hC, if_neg hF]
  · refine .inr (.inl ⟨hkind, ?_⟩)
    rw [answer_readDeclaration_cons, if_neg (by decide), if_pos rfl]
  · refine .inr (.inr ⟨_, hkind, nofun, ?_⟩)
    rw [answer_readDeclaration_cons, if_pos rfl]
    exact ((blames_readType limit 0 cs).map Declaration.type).cons 'T'
  · refine .inr (.inr ⟨_, hkind, nofun, ?_⟩)
    rw [answer_readDeclaration_cons, if_neg (by decide), if_neg (by decide), if_pos rfl]
    exact (blames_readFunctionBody limit cs).cons 'F'

/-! ### Symbols -/

/-- The classifier and the reader look at the same marker of a symbol: both give up on one that
announces nothing, the reader gives up on closures, and otherwise it blames the text. -/
theorem answerSymbol_cases (limit : Option Nat) (symbol : String) :
    (Kind.ofSymbol? symbol = none ∧
      answerSymbol limit symbol.toList = .error .unrecognizedFormat) ∨
    (Kind.ofSymbol? symbol = some .closure ∧
      answerSymbol limit symbol.toList = .error .unsupported) ∨
    (∃ kind, Kind.ofSymbol? symbol = some kind ∧ kind ≠ .closure ∧
      (answerSymbol limit symbol.toList).Blames symbol.toList) := by
  cases hbody : afterSentinel? symbol.toList with
  | none => exact .inl ⟨by rw [Kind.ofSymbol?, hbody]; rfl, by rw [answerSymbol, hbody]⟩
  | some body =>
      have hkind : Kind.ofSymbol? symbol = Kind.ofBody? body := by
        rw [Kind.ofSymbol?, hbody]
        rfl
      have hsuffix : body <:+ symbol.toList := ⟨sentinel, (afterSentinel?_eq_some_iff.1 hbody).symm⟩
      have hanswer : answerSymbol limit symbol.toList = answer (Declaration.read limit body) := by
        rw [answerSymbol, hbody]
      rw [hkind, hanswer]
      refine (answer_readDeclaration_cases limit body).imp_right (Or.imp_right ?_)
      rintro ⟨kind, hkind, hne, hblames⟩
      exact ⟨kind, hkind, hne, hblames.of_suffix hsuffix⟩

/-- **The classifier and the decoder agree.** What is reported of a symbol is of the kind that its
markers announce, and only functions other than deinitializers are reported as closure wrappers,
with the remark at the end. A symbol is refused as unsupported exactly if its markers announce a
closure. If they announce nothing, the format is not recognized; and if the format is not
recognized in spite of what they announce, a pointer count in the symbol is not closed. -/
theorem classification_agrees (symbol : String) :
    (∀ report, demangled symbol = .ok report →
      Kind.ofSymbol? symbol = some report.kind ∧
      (report.closureWrapper = true →
        (∃ form ∈ [FunctionForm.free, .method, .initializer], report.kind = .function form) ∧
          ∃ front, report.text = front ++ " (closure #1)")) ∧
    (demangled symbol = .error .unsupported ↔ Kind.ofSymbol? symbol = some .closure) ∧
    (Kind.ofSymbol? symbol = none → demangled symbol = .error .unrecognizedFormat) ∧
    (∀ kind, Kind.ofSymbol? symbol = some kind → demangled symbol = .error .unrecognizedFormat →
      ∃ front digits c back, symbol.toList = front ++ 'P' :: (digits ++ c :: back) ∧
        digits ≠ [] ∧ (∀ d ∈ digits, d.isDigit = true) ∧ c.isDigit = false ∧ c ≠ 'T') := by
  have hreport : ∀ report, demangled symbol = .ok report →
      Kind.ofSymbol? symbol = some report.kind ∧ (report.closureWrapper = true →
        (∃ form ∈ [FunctionForm.free, .method, .initializer], report.kind = .function form) ∧
          ∃ front, report.text = front ++ closureRemark) := by
    intro report h
    obtain ⟨d, next, hanswer, rfl⟩ := demangled_eq_ok_iff_answerSymbol.1 h
    obtain ⟨w, hsymbol, hspelled, -⟩ := answerSymbol_eq_ok_iff.1 hanswer
    exact ⟨Kind.ofSymbol?_of_spelled hsymbol hspelled, Declaration.demangled_of_closureWrapper⟩
  refine ⟨hreport, ?_⟩
  simp only [demangled_eq_error_iff]
  rcases answerSymbol_cases (some maxNesting) symbol with ⟨hkind, hanswer⟩ | ⟨hkind, hanswer⟩ |
    ⟨kind, hkind, hne, hblames⟩
  · exact ⟨by simp [hkind, hanswer], fun _ => hanswer, by simp [hkind]⟩
  · exact ⟨by simp [hkind, hanswer], by simp [hkind], by simp [hanswer]⟩
  · exact ⟨by simp [hkind, hblames.supported, hne], by simp [hkind], fun _ _ => hblames.unclosed⟩

-- a type is announced, but its pointer count ends with an `X`
example : Kind.ofSymbol? "_WTP1X" = some .type ∧
    demangled "_WTP1X" = .error .unrecognizedFormat := by
  constructor <;> cbv

end SymbolTrace.Mangling
