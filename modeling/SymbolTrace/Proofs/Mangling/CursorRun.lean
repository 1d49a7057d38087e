import SymbolTrace.Proofs.Mangling.CursorTasks

/-!
# What the cursor comes to

The steps of the cursor come to an end, and what they have shown by then is what the readers
answer. Types are done by the induction along their readers, arguments by the one along theirs;
the parts of a function symbol are put together from these.

## Main results

* `carries_type`, `carries_arguments`, `carries_signature`: the readers.
* `ends_start`, `ends_demangledWithin`: the whole run.
-/

namespace SymbolTrace.Mangling

open Text

variable {α : Type}

variable [Allocator]

namespace Cursor

variable {limit : Option Nat} {input text : List Char} {state next : State} {depth : Nat}

/-! ### Names, pointer counts and builtin types -/

/-- The task of a name comes to what the reader of names answers. -/
theorem carries_name (text : List Char) :
    Carries limit input [.name] depth text ((answer (readName text)).shown id) := by
  rw [Answer.shown_id, answer_readName]
  refine .number (fun _ => rfl) fun size rest _ => .single fun state _ hunread => ?_
  have hslice := slice?_eq hunread size
  rcases hsplit : splitBytes? size rest with _ | ⟨name, rest'⟩
  · refine ⟨state.position, ?_⟩
    simp only [perform, hslice, hsplit]
    rfl
  · obtain ⟨rfl, rfl⟩ := splitBytes?_eq_some_iff.1 hsplit
    refine ⟨state.position + byteCount name, suffixAt?_add hunread, ?_⟩
    simp only [perform, hslice, hsplit]
    rfl

/-- The task of a pointer count writes the markers. -/
theorem carries_pointerCount (text : List Char) :
    Carries limit input [.pointerCount] depth text
      ((answer (readPointerCount text)).shown fun count => pointerText (some count)) := by
  rw [answer_readPointerCount, Answer.shown_andThen]
  refine .number (fun _ => rfl) fun count rest _ => .single fun state _ hunread => ?_
  cases rest with
  | nil =>
      refine ⟨state.position, ?_⟩
      simp (disch := decide) only [perform, sees_nil hunread, byteAt?_eq hunread]
      rfl
  | cons c rest =>
      simp (disch := decide) only [perform, sees_cons hunread, decide_eq_true_eq,
        isSome_byteAt?_cons hunread, if_true]
      by_cases hT : c = 'T'
      · subst hT
        simp only [if_true]
        by_cases hcount : Allocator.holdsRun count
        · rw [if_pos hcount, if_pos hcount]
          exact ⟨state.position + 1, suffixAt?_succ hunread (by decide), rfl⟩
        · rw [if_neg hcount, if_neg hcount]
          exact ⟨state.position, rfl⟩
      · rw [if_neg hT, if_neg hT]
        exact ⟨state.position, rfl⟩

/-- The task of a width writes it, if it is there. -/
theorem carries_width (text : List Char) :
    Carries limit input [.width] depth text ((laxAnswer (readWidth text)).shown widthText) := by
  refine .single fun state _ hunread => ?_
  cases text with
  | nil =>
      refine ⟨state.position, hunread, ?_⟩
      rw [perform, readOptionalNumber_none hunread (by simp)]
      rfl
  | cons c cs =>
      rw [laxAnswer_readWidth_cons]
      by_cases hdigit : c.isDigit = true
      · have hread := readOptionalNumber_some hdigit hunread fun width state =>
          state.write (widthText width)
        rw [if_pos hdigit]
        rcases hnumber : answer (readNumber (c :: cs)) with fault | ⟨value, rest⟩
        · rw [hnumber] at hread
          exact ⟨state.position, hread⟩
        · rw [hnumber] at hread
          exact hread
      · rw [if_neg hdigit]
        refine ⟨state.position, hunread, ?_⟩
        rw [perform, readOptionalNumber_none hunread (by rintro _ ⟨⟩; simpa using hdigit)]
        rfl

/-- The task of a builtin type writes its name. -/
theorem carries_builtin (text : List Char) :
    Carries limit input [.builtin] depth text ((answer (Builtin.read text)).shown Builtin.text) := by
  cases text with
  | nil =>
      refine .single fun state _ hunread => ⟨state.position, ?_⟩
      simp only [perform, byteAt?_eq hunread]
      rfl
  | cons c cs =>
      rw [answer_readBuiltin_cons]
      by_cases hi : c = 'i'
      · subst hi
        have hshown : Answer.shown Builtin.text
              ((laxAnswer (readWidth cs)).andThen fun width rest => .ok (.sizedInt width, rest)) =
            ((laxAnswer (readWidth cs)).shown widthText).prepend "Int" := by
          rcases laxAnswer (readWidth cs) with fault | ⟨_ | width, rest⟩ <;> rfl
        rw [if_pos rfl, hshown]
        refine (carries_width cs).step "Int" fun state _ hunread => ?_
        obtain ⟨byte, hbyte⟩ := Option.isSome_iff_exists.1 (isSome_byteAt?_cons hunread)
        refine ⟨state.position + 1, suffixAt?_succ hunread (by decide), ?_⟩
        simp (disch := decide) only [perform, hbyte, sees_cons hunread, decide_true, if_true]
        rfl
      · refine .single fun state _ hunread => ?_
        obtain ⟨byte, hbyte⟩ := Option.isSome_iff_exists.1 (isSome_byteAt?_cons hunread)
        simp (disch := decide) only [perform, hbyte, sees_cons hunread, decide_eq_true_eq, if_neg hi,
          ofLetter?_of_byteAt? hunread hbyte, hunread]
        cases hcode : Builtin.ofLetter? c with
        | some code =>
            exact ⟨state.position + 1, suffixAt?_succ hunread (toNat_lt_of_ofLetter? hcode), rfl⟩
        | none => exact ⟨state.position, rfl⟩

/-! ### Types -/

/-- What is shown of a type behind its pointer prefix. -/
def formText : TypeExpr → String
  | .builtin _ code => code.text
  | .nominal _ name => name
  | .tuple _ fields => parenthesized (TypeExpr.texts fields)
  | .function _ parameters result =>
      parenthesized (TypeExpr.texts parameters) ++ arrow ++ result.text

/-- The pointer prefix is shown in front. -/
theorem shown_readForm (limit : Option Nat) (depth : Nat) (pointers : Option Nat)
    (text : List Char) :
    (answer (TypeExpr.readForm limit depth pointers text)).shown TypeExpr.text =
      ((answer (TypeExpr.readForm limit depth pointers text)).shown formText).prepend
        (pointerText pointers) := by
  cases text with
  | nil =>
      rw [answer_readForm_nil]
      rfl
  | cons c cs =>
      rw [answer_readForm_cons]
      split_ifs
      all_goals
        simp only [Answer.shown_andThen, Answer.prepend_andThen, Answer.shown_ok, Answer.prepend_ok,
          TypeExpr.text, formText, String.append_assoc]

omit [Allocator] in
/-- Opening a type leaves the text as it is. -/
theorem openNested_andThen {γ : Type} (limit : Option Nat) (depth : Nat) (text : List Char)
    (next : Unit → List Char → Answer γ) :
    (openNested limit depth text).andThen next =
      (openNested limit depth text).andThen fun _ _ => next () text := by
  rw [openNested]
  rcases checkNesting limit depth with fault | ⟨⟩ <;> rfl

/-- At the end of the text there is no form. -/
theorem carries_form_nil : Carries limit input [.form] depth [] (.error .truncated) := by
  refine .single fun state _ hunread => ⟨state.position, ?_⟩
  simp only [perform, byteAt?_eq hunread]
  rfl

/-- The end of a list. -/
theorem carries_items_end {listing : Listing} (read : List String) (cs : List Char) :
    Carries limit input [.items listing read] depth (listing.terminator :: cs)
      (.ok (parenthesized read, cs)) := by
  have hascii : listing.terminator.toNat < 128 := by cases listing <;> decide
  refine .single fun state _ hunread => ⟨state.position + 1, suffixAt?_succ hunread hascii, ?_⟩
  simp only [perform, sees_cons hunread hascii, decide_true, if_true]
  rfl

/-- Without a pointer prefix a type is its form. -/
theorem carries_type_of_form {text : List Char} {answered : Answer String}
    (hP : text.head? ≠ some 'P') (hform : Carries limit input [.form] depth text answered) :
    Carries limit input [.type] depth text answered := by
  refine hform.pass fun state _ hunread => ⟨state.position, hunread, ?_⟩
  have hsees : ¬ sees input state.position 'P' = true := by
    rwa [sees_iff hunread (by decide)]
  simp only [perform, if_neg hsees]
  rfl

/-- A function type: parameters, the arrow and the result. -/
theorem carries_function (pointers : Option Nat) {cs : List Char}
    (hparameters : Carries limit input [.items .parameters []] (depth + 1) cs
      ((answer (TypeExpr.readUntil limit (depth + 1) 'R' cs)).shown fun types =>
        parenthesized (TypeExpr.texts types)))
    (hresult : ∀ types rest,
      answer (TypeExpr.readUntil limit (depth + 1) 'R' cs) = .ok (types, rest) →
      Carries limit input [.type] (depth + 1) rest
        ((answer (TypeExpr.read limit (depth + 1) rest)).shown TypeExpr.text)) :
    Carries limit input [.form] depth ('F' :: cs)
      ((answer (TypeExpr.readForm limit depth pointers ('F' :: cs))).shown formText) := by
  have hinside : Carries limit input ([.items .parameters []] ++ [.write arrow, .type]) (depth + 1)
      cs _ := .seq (by simp [Task.IsPlain, unwind]) hparameters fun types rest htypes =>
        (hresult types rest htypes).write arrow
  rw [answer_readForm_cons, if_pos rfl, openNested_andThen]
  simp only [Answer.shown_andThen, Answer.shown_ok, formText, String.append_assoc]
  simp only [Answer.prepend_shown] at hinside
  refine .nest (fun state _ hunread => ⟨state.position + 1, suffixAt?_succ hunread (by decide), ?_⟩)
    hinside
  simp (disch := decide) only [perform, isNone_byteAt?_cons hunread, sees_cons hunread, decide_true,
    if_true]
  rfl

/-- A tuple type. -/
theorem carries_tuple (pointers : Option Nat) {cs : List Char}
    (hfields : Carries limit input [.items .fields []] (depth + 1) cs
      ((answer (TypeExpr.readUntil limit (depth + 1) 'T' cs)).shown fun types =>
        parenthesized (TypeExpr.texts types))) :
    Carries limit input [.form] depth ('t' :: cs)
      ((answer (TypeExpr.readForm limit depth pointers ('t' :: cs))).shown formText) := by
  rw [answer_readForm_cons, if_neg (by decide), if_pos rfl, openNested_andThen]
  simp only [Answer.shown_andThen, Answer.shown_ok, formText]
  refine .nest (fun state _ hunread => ⟨state.position + 1, suffixAt?_succ hunread (by decide), ?_⟩)
    hfields
  simp (disch := decide) only [perform, isNone_byteAt?_cons hunread, sees_cons hunread,
    decide_eq_true_eq, if_true]
  rfl

/-- A builtin type. -/
theorem carries_form_builtin (pointers : Option Nat) (cs : List Char) :
    Carries limit input [.form] depth ('s' :: cs)
      ((answer (TypeExpr.readForm limit depth pointers ('s' :: cs))).shown formText) := by
  rw [answer_readForm_cons, if_neg (by decide), if_neg (by decide), if_pos rfl]
  simp only [Answer.shown_andThen, Answer.shown_ok, formText]
  refine (carries_builtin cs).pass fun state _ hunread =>
    ⟨state.position + 1, suffixAt?_succ hunread (by decide), ?_⟩
  simp (disch := decide) only [perform, isNone_byteAt?_cons hunread, sees_cons hunread,
    decide_eq_true_eq, if_true]
  rfl

/-- A character that opens nothing and marks no builtin type begins a name. -/
theorem carries_form_nominal (pointers : Option Nat) {c : Char} {cs : List Char} (hF : c ≠ 'F')
    (ht : c ≠ 't') (hs : c ≠ 's') :
    Carries limit input [.form] depth (c :: cs)
      ((answer (TypeExpr.readForm limit depth pointers (c :: cs))).shown formText) := by
  rw [answer_readForm_cons, if_neg hF, if_neg ht, if_neg hs]
  simp only [Answer.shown_andThen, Answer.shown_ok, formText]
  refine (carries_name (c :: cs)).pass fun state _ hunread => ⟨state.position, hunread, ?_⟩
  simp (disch := decide) only [perform, isNone_byteAt?_cons hunread, sees_cons hunread,
    decide_eq_true_eq, if_neg hF, if_neg ht, if_neg hs]
  rfl

/-- The readers of types. -/
theorem carries_types (limit : Option Nat) (input : List Char) :
    (∀ depth text, Carries limit input [.type] depth text
      ((answer (TypeExpr.read limit depth text)).shown TypeExpr.text)) ∧
    (∀ depth pointers text, Carries limit input [.form] depth text
      ((answer (TypeExpr.readForm limit depth pointers text)).shown formText)) ∧
    ∀ depth terminator text, ∀ listing : Listing, listing.item = .type →
      listing.terminator = terminator → ∀ read, Carries limit input [.items listing read] depth text
        ((answer (TypeExpr.readUntil limit depth terminator text)).shown fun types =>
          parenthesized (read ++ TypeExpr.texts types)) := by
  refine readType_induction limit ?prefixed ?bare ?formEnd ?function ?tuple ?builtin ?nominal
    ?listEnd ?terminator ?item
  case prefixed =>
    intro depth cs ih
    have hinside : Carries limit input ([.pointerCount] ++ [.form]) depth cs _ :=
      .seq (by simp [Task.IsPlain, unwind]) (carries_pointerCount cs) ih
    rw [answer_readType_cons, if_pos rfl, Answer.shown_andThen]
    simp only [shown_readForm]
    refine hinside.pass fun state _ hunread =>
      ⟨state.position + 1, suffixAt?_succ hunread (by decide), ?_⟩
    simp (disch := decide) only [perform, sees_cons hunread, decide_true, if_true]
    rfl
  case bare =>
    intro depth text hP ih
    have hread : answer (TypeExpr.read limit depth text) =
        answer (TypeExpr.readForm limit depth none text) := by
      cases text with
      | nil => rw [answer_readType_nil, answer_readForm_nil]
      | cons c cs => rw [answer_readType_cons, if_neg (by simpa using hP)]
    rw [hread, shown_readForm, show pointerText none = "" from rfl, Answer.prepend_empty]
    exact carries_type_of_form hP ih
  case formEnd =>
    intro depth pointers
    rw [answer_readForm_nil]
    exact carries_form_nil
  case function =>
    intro depth pointers cs ihParameters ihResult
    exact carries_function pointers (ihParameters .parameters rfl rfl []) ihResult
  case tuple =>
    intro depth pointers cs ih
    exact carries_tuple pointers (ih .fields rfl rfl [])
  case builtin =>
    intro depth pointers cs
    exact carries_form_builtin pointers cs
  case nominal =>
    intro depth pointers c cs hF ht hs
    exact carries_form_nominal pointers hF ht hs
  case listEnd =>
    intro depth terminator listing hitem _ read
    have hnil : Carries limit input [listing.item] depth [] (.error .truncated) :=
      hitem ▸ carries_type_of_form (by simp) carries_form_nil
    rw [answer_readUntil_nil]
    exact hnil.itemEnd
  case terminator =>
    rintro depth _ cs listing - rfl read
    rw [answer_readUntil_cons, if_pos rfl]
    simpa [TypeExpr.texts] using carries_items_end read cs
  case item =>
    rintro depth _ c cs hc ihFirst ihRest listing hitem rfl read
    rw [answer_readUntil_cons, if_neg hc, Answer.shown_andThen]
    rw [← hitem] at ihFirst
    refine ihFirst.item (by simpa using hc) fun type rest htype => ?_
    have hrest := ihRest type rest htype listing hitem rfl (read ++ [type.text])
    simp only [List.append_assoc, List.singleton_append] at hrest
    simp only [Answer.shown_andThen, Answer.shown_ok, TypeExpr.texts]
    exact hrest

/-- The task of a type comes to what the reader of types answers. -/
theorem carries_type (limit : Option Nat) (input : List Char) (depth : Nat) (text : List Char) :
    Carries limit input [.type] depth text
      ((answer (TypeExpr.read limit depth text)).shown TypeExpr.text) :=
  (carries_types limit input).1 depth text

/-! ### Arguments and results -/

/-- A name and a type, as they stand in an argument. -/
def readNamed (limit : Option Nat) (depth : Nat) (text : List Char) : Answer String :=
  (answer (readName text)).andThen fun name rest =>
    (answer (TypeExpr.read limit depth rest)).shown fun type => name ++ (": " ++ type.text)

/-- Three tasks make a name with its type. -/
theorem carries_named (text : List Char) :
    Carries limit input [.name, .write ": ", .type] depth text (readNamed limit depth text) := by
  have hnamed := (carries_name text).seq (by simp [Task.IsPlain, unwind]) fun name rest _ =>
    (carries_type limit input depth rest).write ": "
  simp only [Answer.prepend_shown, id_eq] at hnamed
  exact hnamed

/-- What is read of an argument behind its label. -/
theorem shown_argument (limit : Option Nat) (depth : Nat) (label : Label) (text : List Char) :
    ((answer (readName text)).andThen fun name rest =>
      (answer (TypeExpr.read limit depth rest)).andThen fun type rest =>
        .ok (Argument.text ⟨label, name, type⟩, rest)) =
      (readNamed limit depth text).prepend label.text := by
  simp only [readNamed, Answer.prepend_andThen, Answer.prepend_shown, Argument.text,
    String.append_assoc]
  rfl

/-- The task of an argument comes to what the reader of arguments answers. -/
theorem carries_argument (text : List Char) :
    Carries limit input [.argument] 0 text
      ((answer (Argument.read limit text)).shown Argument.text) := by
  rw [answer_readArgument]
  simp only [Answer.shown_andThen, Answer.shown_ok, shown_argument]
  cases text with
  | nil =>
      rw [laxAnswer_readLabel_nil]
      refine .single fun state _ hunread => ⟨state.position, ?_⟩
      simp only [perform, byteAt?_eq hunread]
      rfl
  | cons c cs =>
      rw [laxAnswer_readLabel_cons]
      split_ifs with hS hE
      · subst hS
        rw [Answer.andThen_ok, Label.text, Answer.prepend_empty]
        refine (carries_named cs).pass fun state _ hunread =>
          ⟨state.position + 1, suffixAt?_succ hunread (by decide), ?_⟩
        simp (disch := decide) only [perform, isNone_byteAt?_cons hunread, sees_cons hunread,
          decide_true, if_true]
        rfl
      · subst hE
        have hlabel :
            Carries limit input ([.name] ++ [.write " ", .name, .write ": ", .type]) 0 cs _ :=
          (carries_name cs).seq (by simp [Task.IsPlain, unwind]) fun name rest _ =>
            (carries_named rest).write " "
        have hlabel : Carries limit input [.name, .write " ", .name, .write ": ", .type] 0 cs
            (((answer (readName cs)).andThen fun name rest => .ok (Label.external name, rest)).andThen
              fun label rest => (readNamed limit 0 rest).prepend label.text) := by
          rcases hname : answer (readName cs) with fault | ⟨name, rest⟩
          · rw [hname] at hlabel
            exact hlabel
          · rw [hname] at hlabel
            simp only [Answer.andThen_ok, Answer.prepend_prepend, id_eq] at hlabel
            exact hlabel
        refine hlabel.pass fun state _ hunread =>
          ⟨state.position + 1, suffixAt?_succ hunread (by decide), ?_⟩
        simp (disch := decide) only [perform, isNone_byteAt?_cons hunread, sees_cons hunread,
          decide_eq_true_eq, if_neg hS, if_true]
        rfl
      · rw [Answer.andThen_ok, Label.text]
        refine (carries_named (c :: cs)).step "_ " fun state _ hunread => ⟨state.position, hunread, ?_⟩
        simp (disch := decide) only [perform, isNone_byteAt?_cons hunread, sees_cons hunread,
          decide_eq_true_eq, if_neg hS, if_neg hE]
        rfl

/-- The reader of arguments. -/
theorem carries_arguments (limit : Option Nat) (input text : List Char) (read : List String) :
    Carries limit input [.items .arguments read] 0 text
      ((answer (Argument.readAll limit text)).shown fun arguments =>
        parenthesized (read ++ arguments.map Argument.text)) := by
  induction text using readArguments_induction limit generalizing read with
  | listEnd =>
      have hnil : Carries limit input [Listing.arguments.item] 0 [] _ := carries_argument []
      rw [answer_readArgument, laxAnswer_readLabel_nil, Answer.andThen_error] at hnil
      rw [answer_readArguments_nil]
      exact hnil.itemEnd
  | underscore cs =>
      rw [answer_readArguments_cons, if_pos rfl, Answer.shown_ok, List.map_nil, List.append_nil]
      show Carries limit input [.items .arguments read] 0 (Listing.arguments.terminator :: cs) _
      exact carries_items_end read cs
  | item c cs hc ih =>
      rw [answer_readArguments_cons, if_neg hc, Answer.shown_andThen]
      have hargument : Carries limit input [Listing.arguments.item] 0 (c :: cs) _ :=
        carries_argument (c :: cs)
      refine hargument.item (by simpa [Listing.terminator] using hc) fun argument rest hread => ?_
      have hrest := ih argument rest hread (read ++ [argument.text])
      simp only [List.append_assoc, List.singleton_append] at hrest
      simp only [Answer.shown_andThen, Answer.shown_ok, List.map_cons]
      exact hrest

/-- The task of a result writes the arrow and the type, if they are there. -/
theorem carries_result (text : List Char) :
    Carries limit input [.result] 0 text ((laxAnswer (readResult limit text)).shown resultText) := by
  cases text with
  | nil =>
      refine .single fun state _ hunread => ⟨state.position, hunread, ?_⟩
      simp (disch := decide) only [perform, sees_nil hunread, Bool.false_eq_true, if_false]
      rw [resultText, State.advance_empty]
      rfl
  | cons c cs =>
      rw [laxAnswer_readResult_cons]
      by_cases hR : c = 'R'
      · subst hR
        have hshown : Answer.shown resultText
              ((answer (TypeExpr.read limit 0 cs)).andThen fun type rest => .ok (some type, rest)) =
            ((answer (TypeExpr.read limit 0 cs)).shown TypeExpr.text).prepend arrow := by
          rw [Answer.shown_andThen, Answer.prepend_shown]
          rfl
        rw [if_pos rfl, hshown]
        refine (carries_type limit input 0 cs).step arrow fun state _ hunread =>
          ⟨state.position + 1, suffixAt?_succ hunread (by decide), ?_⟩
        simp (disch := decide) only [perform, sees_cons hunread, decide_true, if_true]
        rfl
      · rw [if_neg hR]
        refine .single fun state _ hunread => ⟨state.position, hunread, ?_⟩
        simp (disch := decide) only [perform, sees_cons hunread, decide_eq_true_eq, if_neg hR]
        rw [resultText, State.advance_empty]
        rfl

/-! ### Whole symbols -/

/-- From a state on, the steps come to an end with a result. -/
def Ends (limit : Option Nat) (input : List Char) (state : State)
    (result : Except DecodeError Demangled) : Prop :=
  ∃ final, Reaches limit input state final ∧ step limit input final = .done result

/-- A run may start one step earlier. -/
theorem Ends.head {result : Except DecodeError Demangled}
    (hstep : step limit input state = .next next) (h : Ends limit input next result) :
    Ends limit input state result := by
  obtain ⟨final, hreaches, hdone⟩ := h
  exact ⟨final, .head hstep hreaches, hdone⟩

/-- Where nothing is left to be done, what was written is reported. -/
theorem ends_nil (limit : Option Nat) (input : List Char) (hfault : state.fault = none) :
    Ends limit input (state.withTasks [])
      (.ok ⟨state.kind, state.output, state.closureWrapper⟩) := by
  refine ⟨_, .refl, ?_⟩
  simp only [step, State.withTasks, State.result, hfault]

/-- The end of tasks that nothing stands below. -/
theorem Finishes.ends {tasks : List Task} {answered : Answer String}
    (h : Finishes limit input state tasks [] answered) (hfault : state.fault = none) :
    Ends limit input (state.withTasks tasks)
      (answered.map fun read => ⟨state.kind, state.output ++ read.1, state.closureWrapper⟩) := by
  rcases answered with fault | ⟨shown, rest⟩
  · obtain ⟨position, output, hreaches⟩ := h
    exact ⟨_, hreaches, rfl⟩
  · obtain ⟨position, _, hreaches⟩ := h
    obtain ⟨final, hrest, hdone⟩ := ends_nil limit input
      (show (state.advance position shown).fault = none from hfault)
    exact ⟨final, hreaches.trans hrest, hdone⟩

/-- The mark of a closure wrapper is looked for last. -/
theorem ends_closureMark (limit : Option Nat) (hfault : state.fault = none)
    (hwrapper : state.closureWrapper = false) (hunread : suffixAt? state.position input = some text) :
    Ends limit input (state.withTasks [.closureMark])
      (.ok ⟨state.kind, state.output ++ (if (splitClosureMark text).1 then closureRemark else ""),
        (splitClosureMark text).1⟩) := by
  by_cases hC : text.head? = some 'C'
  · obtain ⟨cs, rfl⟩ := List.head?_eq_some_iff.1 hC
    have hend : Ends limit input
        ({ state.bump.write closureRemark with closureWrapper := true }.withTasks [])
        (.ok ⟨state.kind, state.output ++ closureRemark, true⟩) := ends_nil limit input hfault
    refine hend.head ((step_cons hfault).trans ?_)
    show (if sees input state.position 'C' = true then _ else _) = _
    rw [if_pos ((sees_iff hunread (by decide)).2 hC)]
    rfl
  · have hmark : (splitClosureMark text).1 = false := by
      cases text with
      | nil => rfl
      | cons c cs => rw [splitClosureMark_cons, if_neg (by simpa using hC)]
    have hend := ends_nil limit input hfault
    rw [hwrapper] at hend
    rw [hmark, if_neg Bool.false_ne_true, String.append_empty]
    refine hend.head ((step_cons hfault).trans ?_)
    show (if sees input state.position 'C' = true then _ else _) = _
    rw [if_neg (mt (sees_iff hunread (by decide)).1 hC)]

/-- Tasks in front of the mark of a closure wrapper. -/
theorem Carries.endsMarked {tasks : List Task} {answered : Answer String}
    (h : Carries limit input tasks depth text answered) (hfault : state.fault = none)
    (hdepth : state.depth = depth) (hwrapper : state.closureWrapper = false)
    (hunread : suffixAt? state.position input = some text) :
    Ends limit input (state.withTasks (tasks ++ [.closureMark]))
      (answered.map fun read => ⟨state.kind,
        state.output ++ read.1 ++ (if (splitClosureMark read.2).1 then closureRemark else ""),
        (splitClosureMark read.2).1⟩) := by
  have hfinish := h state [.closureMark] hfault hdepth hunread
  rcases answered with fault | ⟨shown, rest⟩
  · obtain ⟨position, output, hreaches⟩ := hfinish
    have hskip : Cursor.step limit input
        ((state.failAt position output fault).withTasks [.closureMark]) =
        .next ((state.failAt position output fault).withTasks []) := step_cons_of_fault rfl
    exact ⟨_, hreaches.tail hskip, rfl⟩
  · obtain ⟨position, hposition, hreaches⟩ := hfinish
    obtain ⟨final, hrest, hdone⟩ := ends_closureMark limit
      (show (state.advance position shown).fault = none from hfault) hwrapper hposition
    exact ⟨final, hreaches.trans hrest, hdone⟩

/-- What is shown of arguments and a result. -/
def readSignatureText (limit : Option Nat) (text : List Char) : Answer String :=
  (answer (Argument.readAll limit text)).andThen fun arguments rest =>
    ((laxAnswer (readResult limit rest)).shown resultText).prepend
      (parenthesized (arguments.map Argument.text))

/-- Arguments and result are done one after the other. -/
theorem carries_signature (text : List Char) :
    Carries limit input [.items .arguments [], .result] 0 text (readSignatureText limit text) :=
  (carries_arguments limit input text []).seq (by simp [Task.IsPlain, unwind])
    fun _ rest _ => carries_result rest

/-- What is reported of a function symbol, put together from what is shown of its parts. -/
theorem demangled_function {answered : Answer Callee} {form : FunctionForm}
    (hform : ∀ callee rest, answered = .ok (callee, rest) → callee.kind = form) :
    ((answered.andThen fun callee rest =>
        (answer (Signature.read limit rest)).andThen fun signature rest =>
          .ok (Declaration.function callee signature, rest)).map fun read => read.1.demangled) =
      ((answered.andThen fun callee rest =>
          (readSignatureText limit rest).prepend callee.text).map fun read =>
        ⟨.function form,
          "" ++ read.1 ++ (if (splitClosureMark read.2).1 then closureRemark else ""),
          (splitClosureMark read.2).1⟩) := by
  rcases answered with fault | ⟨callee, rest⟩
  · rfl
  · simp only [Answer.andThen_ok, answer_readSignature, readSignatureText, Answer.prepend_andThen]
    rcases answer (Argument.readAll limit rest) with fault | ⟨arguments, rest⟩
    · rfl
    · simp only [Answer.andThen_ok]
      rcases laxAnswer (readResult limit rest) with fault | ⟨result, rest⟩
      · rfl
      · rcases hmark : splitClosureMark rest with ⟨wrapper, next⟩
        simp only [Answer.andThen_ok, Answer.shown_ok, Answer.prepend_ok, Except.map, hmark,
          Declaration.demangled, Declaration.kind, hform callee _ rfl, Declaration.text,
          Signature.text, Declaration.isClosureWrapper, String.append_assoc, String.empty_append]

/-- The decoder behind the marker of a function. -/
def State.inFunction (position : Nat) (form : FunctionForm) : State :=
  { State.start with position, kind := .function form }

/-- A callee with everything that follows it. -/
theorem ends_callee {tasks : List Task} {answered : Answer Callee} {form : FunctionForm}
    {position : Nat} (hform : ∀ callee rest, answered = .ok (callee, rest) → callee.kind = form)
    (hunread : suffixAt? position input = some text)
    (h : Carries limit input tasks 0 text (answered.shown Callee.text)) :
    Ends limit input ((State.inFunction position form).withTasks (tasks ++ signatureTasks))
      ((answered.andThen fun callee rest =>
          (answer (Signature.read limit rest)).andThen fun signature rest =>
            .ok (Declaration.function callee signature, rest)).map fun read =>
        read.1.demangled) := by
  have hcarries : Carries limit input (tasks ++ [.items .arguments [], .result]) 0 text _ :=
    h.seq (by simp [Task.IsPlain, unwind]) fun callee rest _ => carries_signature rest
  have hends := hcarries.endsMarked (show (State.inFunction position form).fault = none from rfl)
    rfl rfl hunread
  rw [List.append_assoc] at hends
  rw [demangled_function hform]
  exact hends

/-- A deinitializer. -/
theorem ends_deinitializer {position : Nat} (hunread : suffixAt? position input = some text) :
    Ends limit input ((State.inFunction position .deinitializer).withTasks [.type, .write ".deinit"])
      (((answer (TypeExpr.read limit 0 text)).andThen fun owner rest =>
        .ok (Declaration.deinitializer owner, rest)).map fun read => read.1.demangled) := by
  have hcarries : Carries limit input ([.type] ++ [.write ".deinit"]) 0 text _ :=
    (carries_type limit input 0 text).seq (by simp [Task.IsPlain, unwind])
      fun owner rest _ => (Carries.nil rest).write ".deinit"
  have hends := (hcarries (State.inFunction position .deinitializer) [] rfl rfl hunread).ends rfl
  rcases hread : answer (TypeExpr.read limit 0 text) with fault | ⟨owner, rest⟩
  · rw [hread] at hends
    exact hends
  · rw [hread] at hends
    simp only [Answer.andThen_ok, Answer.prepend_ok, Except.map, State.inFunction, State.start,
      String.empty_append, String.append_empty] at hends
    exact hends

/-- The callee of a method. -/
theorem carries_method (text : List Char) :
    Carries limit input [.type, .write ".", .name] 0 text
      (((answer (TypeExpr.read limit 0 text)).andThen fun owner rest =>
        (answer (readName rest)).andThen fun name rest =>
          .ok (Callee.method owner name, rest)).shown Callee.text) := by
  have hcarries : Carries limit input ([.type] ++ [.write ".", .name]) 0 text _ :=
    (carries_type limit input 0 text).seq (by simp [Task.IsPlain, unwind])
      fun owner rest _ => (carries_name rest).write "."
  simp only [Answer.prepend_shown] at hcarries
  simp only [Answer.shown_andThen, Answer.shown_ok, Callee.text, String.append_assoc]
  exact hcarries

/-- The callee of an initializer. -/
theorem carries_initializer (text : List Char) :
    Carries limit input [.type, .write ".init"] 0 text
      (((answer (TypeExpr.read limit 0 text)).andThen fun owner rest =>
        .ok (Callee.initializer owner, rest)).shown Callee.text) := by
  have hcarries : Carries limit input ([.type] ++ [.write ".init"]) 0 text _ :=
    (carries_type limit input 0 text).seq (by simp [Task.IsPlain, unwind])
      fun owner rest _ => (Carries.nil rest).write ".init"
  simp only [Answer.prepend_ok, String.append_empty] at hcarries
  simp only [Answer.shown_andThen, Answer.shown_ok, Callee.text]
  exact hcarries

/-- The callee of a function that belongs to no type. -/
theorem carries_free (text : List Char) :
    Carries limit input [.name] 0 text
      (((answer (readName text)).andThen fun name rest =>
        .ok (Callee.free name, rest)).shown Callee.text) := by
  simp only [Answer.shown_andThen, Answer.shown_ok, Callee.text]
  exact carries_name text

omit [Allocator] in
/-- A chain that ends with a callee of one form. -/
theorem kind_of_andThen {answered : Answer α} {next : α → List Char → Answer Callee}
    {form : FunctionForm}
    (h : ∀ value rest callee last, next value rest = .ok (callee, last) → callee.kind = form)
    (callee : Callee) (rest : List Char) (hread : answered.andThen next = .ok (callee, rest)) :
    callee.kind = form := by
  obtain ⟨value, middle, -, hnext⟩ := Answer.andThen_eq_ok_iff.1 hread
  exact h value middle callee rest hnext

/-- A function that belongs to no type. -/
theorem ends_free {position : Nat} (hunread : suffixAt? position input = some text) :
    Ends limit input ((State.inFunction position .free).withTasks (.name :: signatureTasks))
      ((((answer (readName text)).andThen fun name rest => .ok (Callee.free name, rest)).andThen
        fun callee rest => (answer (Signature.read limit rest)).andThen fun signature rest =>
          .ok (Declaration.function callee signature, rest)).map fun read => read.1.demangled) :=
  ends_callee (kind_of_andThen (by rintro _ _ _ _ ⟨⟩; rfl)) hunread (carries_free text)

/-- The function symbols, from behind their marker on. -/
theorem ends_function {position : Nat} (hunread : suffixAt? position input = some text) :
    Ends limit input ({ State.start with position }.withTasks [.function])
      ((answer (Declaration.readFunctionBody limit text)).map fun read => read.1.demangled) := by
  have hstep : step limit input ({ State.start with position }.withTasks [.function]) =
      perform limit input .function ({ State.start with position }.withTasks []) := step_cons rfl
  cases text with
  | nil =>
      simp (disch := decide) only [perform, State.withTasks, sees_nil hunread, Bool.false_eq_true,
        if_false] at hstep
      exact (ends_free hunread).head hstep
  | cons c cs =>
      rw [answer_readFunctionBody_cons]
      simp (disch := decide) only [perform, State.withTasks, sees_cons hunread, decide_eq_true_eq]
        at hstep
      by_cases hD : c = 'D'
      · rw [if_pos hD] at hstep ⊢
        subst hD
        exact (ends_deinitializer (suffixAt?_succ hunread (by decide))).head hstep
      rw [if_neg hD] at hstep ⊢
      rw [answer_readCallee_cons]
      by_cases hM : c = 'M'
      · rw [if_pos hM] at hstep ⊢
        subst hM
        exact (ends_callee (kind_of_andThen fun _ _ => kind_of_andThen (by rintro _ _ _ _ ⟨⟩; rfl))
          (suffixAt?_succ hunread (by decide)) (carries_method cs)).head hstep
      rw [if_neg hM] at hstep ⊢
      by_cases hI : c = 'I'
      · rw [if_pos hI] at hstep ⊢
        subst hI
        exact (ends_callee (kind_of_andThen (by rintro _ _ _ _ ⟨⟩; rfl))
          (suffixAt?_succ hunread (by decide)) (carries_initializer cs)).head hstep
      rw [if_neg hI] at hstep ⊢
      exact (ends_free hunread).head hstep

/-- A type symbol, from behind its marker on. -/
theorem ends_type {position : Nat} (hunread : suffixAt? position input = some text) :
    Ends limit input ({ State.start with position }.withTasks [.type])
      (((answer (TypeExpr.read limit 0 text)).andThen fun type rest =>
        .ok (Declaration.type type, rest)).map fun read => read.1.demangled) := by
  have hends := (carries_type limit input 0 text { State.start with position } [] rfl rfl
    hunread).ends rfl
  rcases hread : answer (TypeExpr.read limit 0 text) with fault | ⟨type, rest⟩
  · rw [hread] at hends
    exact hends
  · rw [hread] at hends
    simp only [Answer.shown_ok, Except.map, State.start, String.empty_append] at hends
    exact hends

/-- A symbol that is refused at its first marker. -/
theorem ends_refused {fault : DecodeError}
    (hstep : step limit input .start = .next ((State.start.withTasks []).fail fault)) :
    Ends limit input .start (.error fault) :=
  ⟨_, .single hstep, rfl⟩

/-- The steps of a decoder come to what the reader of declarations answers. -/
theorem ends_start (limit : Option Nat) (body : List Char) :
    Ends limit body .start
      ((answer (Declaration.read limit body)).map fun read => read.1.demangled) := by
  have hunread : suffixAt? State.start.position body = some body := suffixAt?_byteCount [] body
  have hstep : step limit body .start = perform limit body .declaration (State.start.withTasks []) :=
    rfl
  cases body with
  | nil => exact ends_refused rfl
  | cons c cs =>
      rw [answer_readDeclaration_cons]
      simp (disch := decide) only [perform, State.withTasks, sees_cons hunread, decide_eq_true_eq]
        at hstep
      split_ifs at hstep ⊢ with hT hC hF
      · subst hT
        exact (ends_type (suffixAt?_succ hunread (by decide))).head hstep
      · exact ends_refused hstep
      · subst hF
        exact (ends_function (suffixAt?_succ hunread (by decide))).head hstep
      · exact ends_refused hstep

end Cursor

/-- What is reported of a symbol under a given nesting limit. -/
def demangledWithin (limit : Option Nat) (symbol : String) : Except DecodeError Demangled :=
  (decodeWithin limit symbol).map Declaration.demangled

/-- What is reported is reported under the greatest nesting. -/
theorem demangled_eq_demangledWithin (symbol : String) :
    demangled symbol = demangledWithin (some maxNesting) symbol := by
  rw [demangled, demangledWithin, decode]
  cases decodeWithin (some maxNesting) symbol <;> rfl

/-- What is behind the sentinel settles what is reported. -/
theorem demangledWithin_of_afterSentinel? {limit : Option Nat} {symbol : String}
    {body : List Char} (hbody : afterSentinel? symbol.toList = some body) :
    demangledWithin limit symbol =
      (answer (Declaration.read limit body)).map fun read => read.1.demangled := by
  rw [demangledWithin, decodeWithin_eq_map_answerSymbol, answerSymbol, hbody]
  show ((answer (Declaration.read limit body)).map Prod.fst).map _ = _
  cases answer (Declaration.read limit body) <;> rfl

/-- The steps of a decoder come to what is reported of the symbol. -/
theorem Cursor.ends_demangledWithin (limit : Option Nat) {symbol : String} {body : List Char}
    (hbody : afterSentinel? symbol.toList = some body) :
    Ends limit body .start (demangledWithin limit symbol) := by
  rw [demangledWithin_of_afterSentinel? hbody]
  exact ends_start limit body

end SymbolTrace.Mangling
