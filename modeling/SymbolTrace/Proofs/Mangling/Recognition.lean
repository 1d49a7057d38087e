import SymbolTrace.Proofs.Mangling.Admission
import SymbolTrace.Proofs.Mangling.Lexeme

/-!
# The decoder recognises its grammar

Each reader accepts exactly the texts that start with a spelling of the grammar, takes that
spelling and nothing more, and gives back the tree it spells.
-/

namespace SymbolTrace.Mangling

/-! ### Spellings -/

/-- May a type start with this character? -/
def IsTypeStart (c : Char) : Prop := c.isDigit = true ∨ c = 'P' ∨ c = 's' ∨ c = 't' ∨ c = 'F'

/-- No type starts with the terminator of a list of types, nor with a marker of what may come
after one. -/
theorem IsTypeStart.ne {c : Char} (h : IsTypeStart c) : c ≠ 'R' ∧ c ≠ 'T' := by
  constructor <;> rintro rfl <;> simp [IsTypeStart] at h

/-- With or without a prefix a type begins as types do. -/
theorem PointersSpelled.exists_cons {pointers : Option Nat} {stars form : List Char} {c : Char}
    (h : PointersSpelled pointers stars) (hc : IsTypeStart c) :
    ∃ d ds, stars ++ c :: form = d :: ds ∧ IsTypeStart d := by
  cases h with
  | none => exact ⟨c, form, rfl, hc⟩
  | some _ => exact ⟨'P', _, rfl, .inr (.inl rfl)⟩

/-- The spelling of a type is not empty, and its first character tells that it is a type. -/
theorem TypeExpr.Spelled.exists_cons {type : TypeExpr} {w next : List Char}
    (h : type.Spelled w next) : ∃ c cs, w = c :: cs ∧ IsTypeStart c := by
  cases h with
  | builtin hstars _ => exact hstars.exists_cons (.inr (.inr (.inl rfl)))
  | nominal hstars hname =>
      obtain ⟨c, cs, rfl, hc⟩ := hname.exists_cons
      exact hstars.exists_cons (.inl hc)
  | tuple hstars _ => exact hstars.exists_cons (.inr (.inr (.inr (.inl rfl))))
  | function hstars _ _ => exact hstars.exists_cons (.inr (.inr (.inr (.inr rfl))))

/-- A name begins with a digit. -/
theorem NameSpelled.startsWithDigit_append {name : String} {w next : List Char}
    (h : NameSpelled name w next) (text : List Char) : startsWithDigit (w ++ text) = true := by
  obtain ⟨c, cs, rfl, hc⟩ := h.exists_cons
  exact hc

/-- No argument starts with the underscore that ends the arguments. -/
theorem Argument.Spelled.exists_cons {argument : Argument} {w next : List Char}
    (h : argument.Spelled w next) : ∃ c cs, w = c :: cs ∧ c ≠ '_' := by
  obtain ⟨hlabel, hname, -⟩ := h
  cases hlabel with
  | omitted => exact ⟨'S', _, rfl, by decide⟩
  | external _ => exact ⟨'E', _, rfl, by decide⟩
  | placeholder =>
      obtain ⟨c, cs, rfl, hc⟩ := hname.exists_cons
      exact ⟨c, _, rfl, ne_of_isDigit hc rfl⟩

/-- No callee starts with the marker of a deinitializer. -/
theorem Callee.Spelled.exists_cons {callee : Callee} {w next : List Char}
    (h : callee.Spelled w next) : ∃ c cs, w = c :: cs ∧ c ≠ 'D' := by
  cases h with
  | free hname =>
      obtain ⟨c, cs, rfl, hc⟩ := hname.exists_cons
      exact ⟨c, cs, rfl, ne_of_isDigit hc rfl⟩
  | method _ _ => exact ⟨'M', _, rfl, by decide⟩
  | initializer _ => exact ⟨'I', _, rfl, by decide⟩

/-- What is read as a label spells it. -/
theorem Label.spelled_of_read {text next : List Char} {label : Label}
    (h : laxAnswer (Label.read text) = .ok (label, next)) :
    ∃ w, text = w ++ next ∧ label.Spelled w next := by
  cases text with
  | nil => cases h
  | cons c cs =>
      rw [laxAnswer_readLabel_cons] at h
      split at h
      · rename_i hc
        cases h
        exact ⟨['S'], by simp [hc], .omitted⟩
      · split at h
        · rename_i hc
          obtain ⟨name, rest, hname, h⟩ := Answer.andThen_eq_ok_iff.1 h
          cases h
          obtain ⟨w, rfl, hw⟩ := answer_readName_eq_ok_iff.1 hname
          exact ⟨'E' :: w, by simp [hc], .external hw⟩
        · cases h
          exact ⟨[], rfl, .placeholder⟩

/-- A label is read back if a number stands behind it: without it, the text could end, or a
placeholder be taken for a marker. -/
theorem Label.read_of_spelled {label : Label} {w next : List Char} (h : label.Spelled w next)
    (hnext : startsWithDigit next = true) :
    laxAnswer (Label.read (w ++ next)) = .ok (label, next) := by
  cases h with
  | omitted => rfl
  | external hname =>
      rename_i name w
      rw [List.cons_append, laxAnswer_readLabel_cons, if_neg (by decide), if_pos rfl,
        answer_readName_eq_ok_iff.2 ⟨w, rfl, hname⟩, Answer.andThen_ok]
  | placeholder =>
      cases next with
      | nil => cases hnext
      | cons c cs =>
          rw [startsWithDigit_cons] at hnext
          rw [List.nil_append, laxAnswer_readLabel_cons, if_neg (ne_of_isDigit hnext rfl),
            if_neg (ne_of_isDigit hnext rfl)]

/-- The closure mark that is split off is the one spelled. -/
theorem splitClosureMark_eq_iff {text next : List Char} {wrapper : Bool} :
    splitClosureMark text = (wrapper, next) ↔
      ∃ w, text = w ++ next ∧ ClosureMarkSpelled wrapper w next := by
  constructor
  · intro h
    cases text with
    | nil =>
        cases h
        exact ⟨[], rfl, .plain (by simp)⟩
    | cons c cs =>
        rw [splitClosureMark_cons] at h
        split at h
        · rename_i hc
          cases h
          exact ⟨['C'], by simp [hc], .wrapper⟩
        · rename_i hc
          cases h
          exact ⟨[], rfl, .plain (by simpa using hc)⟩
  · rintro ⟨w, rfl, h⟩
    cases h with
    | plain hnext =>
        cases next with
        | nil => rfl
        | cons c cs =>
            rw [List.nil_append, splitClosureMark_cons, if_neg (by simpa using hnext)]
    | wrapper => rfl

variable [Allocator]

/-! ### Types -/

/-- Handing what follows a pointer prefix to the reader of forms is all that a prefix does. -/
theorem answer_readType_stars {limit : Option Nat} {depth : Nat} {pointers : Option Nat}
    {stars text : List Char} (hstars : PointersSpelled pointers stars)
    (hheld : PointersHeld pointers) (htext : text.head? ≠ some 'P') :
    answer (TypeExpr.read limit depth (stars ++ text)) =
      answer (TypeExpr.readForm limit depth pointers text) := by
  cases hstars with
  | none =>
      cases text with
      | nil => rw [List.nil_append, answer_readType_nil, answer_readForm_nil]
      | cons c cs =>
          rw [List.nil_append, answer_readType_cons, if_neg (by simpa using htext)]
  | some hcount =>
      rename_i count digits
      have hread : answer (readPointerCount (digits ++ 'T' :: text)) = .ok (count, text) :=
        answer_readPointerCount_eq_ok_iff.2 ⟨digits, rfl, hcount, hheld count rfl⟩
      rw [List.cons_append, List.append_assoc, List.singleton_append, answer_readType_cons,
        if_pos rfl, hread, Answer.andThen_ok]

/-- Whatever a reader of types accepts is spelled in the text and admitted. A form is spelled
together with any prefix that stands for the pointers it was given. -/
theorem spelled_of_readType (limit : Option Nat) :
    (∀ depth text, ∀ {type next}, answer (TypeExpr.read limit depth text) = .ok (type, next) →
      ∃ w, text = w ++ next ∧ type.Spelled w next ∧ type.Admitted limit depth) ∧
    (∀ depth pointers text, ∀ {type next},
      answer (TypeExpr.readForm limit depth pointers text) = .ok (type, next) →
      ∀ {stars}, PointersSpelled pointers stars → PointersHeld pointers →
      ∃ w, text = w ++ next ∧ type.Spelled (stars ++ w) next ∧ type.Admitted limit depth) ∧
    (∀ depth terminator text, ∀ {types next},
      answer (TypeExpr.readUntil limit depth terminator text) = .ok (types, next) →
      ∃ w, text = w ++ terminator :: next ∧ TypeExpr.AllSpelled types w (terminator :: next) ∧
        ∀ type ∈ types, type.Admitted limit depth) := by
  apply readType_induction limit
  case prefixed =>
    intro depth cs ih type next h
    rw [answer_readType_cons, if_pos rfl] at h
    obtain ⟨count, rest, hcount, hform⟩ := Answer.andThen_eq_ok_iff.1 h
    obtain ⟨digits, rfl, hdigits, hlt⟩ := answer_readPointerCount_eq_ok_iff.1 hcount
    have hheld : PointersHeld (some count) := by simpa [PointersHeld] using hlt
    obtain ⟨w, rfl, hw, hadmitted⟩ := ih count rest hcount hform (.some hdigits) hheld
    exact ⟨'P' :: (digits ++ ['T']) ++ w, by simp, hw, hadmitted⟩
  case bare =>
    intro depth text hP ih type next h
    have hread : answer (TypeExpr.read limit depth ([] ++ text)) =
        answer (TypeExpr.readForm limit depth none text) :=
      answer_readType_stars .none pointersHeld_none hP
    exact ih (hread ▸ h) .none pointersHeld_none
  case formEnd =>
    intro depth pointers type next h
    rw [answer_readForm_nil] at h
    cases h
  case function =>
    intro depth pointers cs ihParameters ihResult type next h stars hstars hheld
    rw [answer_readForm_cons, if_pos rfl] at h
    obtain ⟨_, rest, hopen, h⟩ := Answer.andThen_eq_ok_iff.1 h
    obtain ⟨rfl, hroom⟩ := openNested_eq_ok_iff.1 hopen
    obtain ⟨parameters, rest, hparameters, h⟩ := Answer.andThen_eq_ok_iff.1 h
    obtain ⟨result, rest', hresult, h⟩ := Answer.andThen_eq_ok_iff.1 h
    cases h
    obtain ⟨v, rfl, hv, hvadmitted⟩ := ihResult parameters rest hparameters hresult
    obtain ⟨w, rfl, hw, hwadmitted⟩ := ihParameters hparameters
    refine ⟨'F' :: (w ++ 'R' :: v), by simp, .function hstars hw hv, ?_⟩
    exact admitted_function_iff.2 ⟨hheld, hroom, hwadmitted, hvadmitted⟩
  case tuple =>
    intro depth pointers cs ih type next h stars hstars hheld
    rw [answer_readForm_cons, if_neg (by decide), if_pos rfl] at h
    obtain ⟨_, rest, hopen, h⟩ := Answer.andThen_eq_ok_iff.1 h
    obtain ⟨rfl, hroom⟩ := openNested_eq_ok_iff.1 hopen
    obtain ⟨fields, rest, hfields, h⟩ := Answer.andThen_eq_ok_iff.1 h
    cases h
    obtain ⟨w, rfl, hw, hwadmitted⟩ := ih hfields
    refine ⟨'t' :: (w ++ ['T']), by simp, .tuple hstars hw, ?_⟩
    exact admitted_tuple_iff.2 ⟨hheld, hroom, hwadmitted⟩
  case builtin =>
    intro depth pointers cs type next h stars hstars hheld
    rw [answer_readForm_cons, if_neg (by decide), if_neg (by decide), if_pos rfl] at h
    obtain ⟨code, rest, hcode, h⟩ := Answer.andThen_eq_ok_iff.1 h
    cases h
    obtain ⟨w, rfl, hw⟩ := answer_readBuiltin_eq_ok_iff.1 hcode
    exact ⟨'s' :: w, rfl, .builtin hstars hw, (admitted_iff_pointersHeld rfl rfl).2 hheld⟩
  case nominal =>
    intro depth pointers c cs hF ht hs type next h stars hstars hheld
    rw [answer_readForm_cons, if_neg hF, if_neg ht, if_neg hs] at h
    obtain ⟨name, rest, hname, h⟩ := Answer.andThen_eq_ok_iff.1 h
    cases h
    obtain ⟨w, htext, hw⟩ := answer_readName_eq_ok_iff.1 hname
    exact ⟨w, htext, .nominal hstars hw, (admitted_iff_pointersHeld rfl rfl).2 hheld⟩
  case listEnd =>
    intro depth terminator types next h
    rw [answer_readUntil_nil] at h
    cases h
  case terminator =>
    intro depth c cs types next h
    rw [answer_readUntil_cons, if_pos rfl] at h
    cases h
    exact ⟨[], rfl, .nil, by simp⟩
  case item =>
    intro depth terminator c cs hc ihType ihTypes types next h
    rw [answer_readUntil_cons, if_neg hc] at h
    obtain ⟨type, rest, htype, h⟩ := Answer.andThen_eq_ok_iff.1 h
    obtain ⟨types', rest', htypes, h⟩ := Answer.andThen_eq_ok_iff.1 h
    cases h
    obtain ⟨v, rfl, hv, hvadmitted⟩ := ihTypes type rest htype htypes
    obtain ⟨w, htext, hw, hwadmitted⟩ := ihType htype
    refine ⟨w ++ v, by rw [htext, List.append_assoc], .cons hw hv, ?_⟩
    exact List.forall_mem_cons.2 ⟨hwadmitted, hvadmitted⟩

mutual

/-- A type is read back from any spelling that is admitted. -/
theorem answer_readType_of_spelled {limit : Option Nat} (type : TypeExpr) {depth : Nat}
    {w next : List Char} (h : type.Spelled w next) (hadmitted : type.Admitted limit depth) :
    answer (TypeExpr.read limit depth (w ++ next)) = .ok (type, next) := by
  cases h with
  | builtin hstars hcode =>
      rename_i pointers stars code w
      have hheld := (admitted_iff_pointersHeld rfl rfl).1 hadmitted
      rw [List.append_assoc, answer_readType_stars hstars hheld (by simp), List.cons_append,
        answer_readForm_cons, if_neg (by decide), if_neg (by decide), if_pos rfl,
        answer_readBuiltin_eq_ok_iff.2 ⟨w, rfl, hcode⟩, Answer.andThen_ok]
  | nominal hstars hname =>
      rename_i pointers stars name w
      have hheld := (admitted_iff_pointersHeld rfl rfl).1 hadmitted
      have hread := answer_readName_eq_ok_iff.2 ⟨w, rfl, hname⟩
      obtain ⟨c, cs, rfl, hc⟩ := hname.exists_cons
      have hP : c ≠ 'P' := ne_of_isDigit hc rfl
      rw [List.append_assoc, answer_readType_stars hstars hheld (by simpa using hP),
        List.cons_append, answer_readForm_cons, if_neg (ne_of_isDigit hc rfl),
        if_neg (ne_of_isDigit hc rfl), if_neg (ne_of_isDigit hc rfl), ← List.cons_append, hread,
        Answer.andThen_ok]
  | tuple hstars hfields =>
      rename_i pointers stars fields w
      obtain ⟨hheld, hroom, hall⟩ := admitted_tuple_iff.1 hadmitted
      have hread := answer_readUntil_of_allSpelled fields (.inr rfl) hfields hall
      rw [List.append_assoc, answer_readType_stars hstars hheld (by simp), List.cons_append,
        List.append_assoc, List.singleton_append, answer_readForm_cons, if_neg (by decide),
        if_pos rfl, openNested_eq_ok_iff.2 ⟨rfl, hroom⟩, Answer.andThen_ok, hread,
        Answer.andThen_ok]
  | function hstars hparameters hresult =>
      rename_i pointers stars parameters result w v
      obtain ⟨hheld, hroom, hall, hresultAdmitted⟩ := admitted_function_iff.1 hadmitted
      have hreadAll := answer_readUntil_of_allSpelled parameters (.inl rfl) hparameters hall
      have hread := answer_readType_of_spelled result hresult hresultAdmitted
      rw [List.append_assoc, answer_readType_stars hstars hheld (by simp), List.cons_append,
        List.append_assoc, List.cons_append, answer_readForm_cons, if_pos rfl,
        openNested_eq_ok_iff.2 ⟨rfl, hroom⟩, Answer.andThen_ok, hreadAll, Answer.andThen_ok,
        hread, Answer.andThen_ok]

/-- Types are read back from any spelling that is admitted, up to the terminator behind it. -/
theorem answer_readUntil_of_allSpelled {limit : Option Nat} (types : List TypeExpr)
    {depth : Nat} {terminator : Char} (hterminator : terminator = 'R' ∨ terminator = 'T')
    {w next : List Char} (h : TypeExpr.AllSpelled types w (terminator :: next))
    (hadmitted : ∀ type ∈ types, type.Admitted limit depth) :
    answer (TypeExpr.readUntil limit depth terminator (w ++ terminator :: next)) =
      .ok (types, next) := by
  cases h with
  | nil => rw [List.nil_append, answer_readUntil_cons, if_pos rfl]
  | cons htype htypes =>
      rename_i type types w v
      obtain ⟨hfirst, hrest⟩ := List.forall_mem_cons.1 hadmitted
      have hread := answer_readType_of_spelled type htype hfirst
      have hreadAll := answer_readUntil_of_allSpelled types hterminator htypes hrest
      obtain ⟨c, cs, rfl, hc⟩ := htype.exists_cons
      have hne : c ≠ terminator := by
        rcases hterminator with rfl | rfl
        · exact hc.ne.1
        · exact hc.ne.2
      rw [List.append_assoc, List.cons_append, answer_readUntil_cons, if_neg hne,
        ← List.cons_append, hread, Answer.andThen_ok, hreadAll, Answer.andThen_ok]

end

/-- A type is read exactly where an admitted one is spelled. -/
theorem answer_readType_eq_ok_iff {limit : Option Nat} {depth : Nat} {text next : List Char}
    {type : TypeExpr} :
    answer (TypeExpr.read limit depth text) = .ok (type, next) ↔
      ∃ w, text = w ++ next ∧ type.Spelled w next ∧ type.Admitted limit depth := by
  constructor
  · exact (spelled_of_readType limit).1 depth text
  · rintro ⟨w, rfl, h, hadmitted⟩
    exact answer_readType_of_spelled type h hadmitted

/-! ### Arguments -/

/-- An argument is read exactly where one with an admitted type is spelled. -/
theorem answer_readArgument_eq_ok_iff {limit : Option Nat} {text next : List Char}
    {argument : Argument} :
    answer (Argument.read limit text) = .ok (argument, next) ↔
      ∃ w, text = w ++ next ∧ argument.Spelled w next ∧ argument.type.Admitted limit 0 := by
  rw [answer_readArgument]
  constructor
  · intro h
    obtain ⟨label, rest, hlabel, h⟩ := Answer.andThen_eq_ok_iff.1 h
    obtain ⟨name, rest', hname, h⟩ := Answer.andThen_eq_ok_iff.1 h
    obtain ⟨type, rest'', htype, h⟩ := Answer.andThen_eq_ok_iff.1 h
    cases h
    obtain ⟨w, rfl, hw, hadmitted⟩ := answer_readType_eq_ok_iff.1 htype
    obtain ⟨n, rfl, hn⟩ := answer_readName_eq_ok_iff.1 hname
    obtain ⟨l, rfl, hl⟩ := Label.spelled_of_read hlabel
    exact ⟨l ++ (n ++ w), by simp, .intro hl hn hw, hadmitted⟩
  · rintro ⟨_, rfl, h, hadmitted⟩
    obtain ⟨hlabel, hname, htype⟩ := h
    rename_i label name type l n w
    have hreadLabel := Label.read_of_spelled hlabel (hname.startsWithDigit_append _)
    rw [List.append_assoc, List.append_assoc, hreadLabel, Answer.andThen_ok,
      answer_readName_eq_ok_iff.2 ⟨n, rfl, hname⟩, Answer.andThen_ok,
      answer_readType_eq_ok_iff.2 ⟨w, rfl, htype, hadmitted⟩, Answer.andThen_ok]

/-- Arguments are read exactly where they are spelled, up to an underscore. -/
theorem answer_readArguments_eq_ok_iff {limit : Option Nat} {text next : List Char}
    {arguments : List Argument} :
    answer (Argument.readAll limit text) = .ok (arguments, next) ↔
      ∃ w, text = w ++ '_' :: next ∧ Argument.AllSpelled arguments w ('_' :: next) ∧
        ∀ argument ∈ arguments, argument.type.Admitted limit 0 := by
  constructor
  · intro h
    induction text using readArguments_induction limit generalizing arguments with
    | listEnd => rw [answer_readArguments_nil] at h; cases h
    | underscore cs =>
        rw [answer_readArguments_cons, if_pos rfl] at h
        cases h
        exact ⟨[], rfl, .nil, by simp⟩
    | item c cs hc ih =>
        rw [answer_readArguments_cons, if_neg hc] at h
        obtain ⟨argument, rest, hargument, h⟩ := Answer.andThen_eq_ok_iff.1 h
        obtain ⟨arguments', rest', harguments, h⟩ := Answer.andThen_eq_ok_iff.1 h
        cases h
        obtain ⟨v, rfl, hv, hall⟩ := ih argument rest hargument harguments
        obtain ⟨w, htext, hw, hadmitted⟩ := answer_readArgument_eq_ok_iff.1 hargument
        refine ⟨w ++ v, by rw [htext, List.append_assoc], .cons hw hv, ?_⟩
        exact List.forall_mem_cons.2 ⟨hadmitted, hall⟩
  · rintro ⟨w, rfl, h, hadmitted⟩
    induction arguments generalizing w with
    | nil =>
        cases h
        rw [List.nil_append, answer_readArguments_cons, if_pos rfl]
    | cons argument arguments ih =>
        cases h with
        | cons hargument harguments =>
            rename_i w v
            obtain ⟨hfirst, hrest⟩ := List.forall_mem_cons.1 hadmitted
            have hread := answer_readArgument_eq_ok_iff.2 ⟨w, rfl, hargument, hfirst⟩
            obtain ⟨c, cs, rfl, hc⟩ := hargument.exists_cons
            rw [List.append_assoc, List.cons_append, answer_readArguments_cons, if_neg hc,
              ← List.cons_append, hread, Answer.andThen_ok, ih v harguments hrest,
              Answer.andThen_ok]

/-! ### Declarations -/

/-- A result type is read exactly where one is spelled, or none is. -/
theorem laxAnswer_readResult_eq_ok_iff {limit : Option Nat} {text next : List Char}
    {result : Option TypeExpr} :
    laxAnswer (readResult limit text) = .ok (result, next) ↔
      ∃ w, text = w ++ next ∧ ResultSpelled result w next ∧
        ∀ type ∈ result, type.Admitted limit 0 := by
  constructor
  · intro h
    cases text with
    | nil =>
        cases h
        exact ⟨[], rfl, .none (by simp), by simp⟩
    | cons c cs =>
        rw [laxAnswer_readResult_cons] at h
        split at h
        · rename_i hc
          obtain ⟨type, rest, htype, h⟩ := Answer.andThen_eq_ok_iff.1 h
          cases h
          obtain ⟨w, rfl, hw, hadmitted⟩ := answer_readType_eq_ok_iff.1 htype
          exact ⟨'R' :: w, by simp [hc], .some hw, by simpa using hadmitted⟩
        · rename_i hc
          cases h
          exact ⟨[], rfl, .none (by simpa using hc), by simp⟩
  · rintro ⟨w, rfl, h, hadmitted⟩
    cases h with
    | none hnext =>
        cases next with
        | nil => rfl
        | cons c cs =>
            rw [List.nil_append, laxAnswer_readResult_cons, if_neg (by simpa using hnext)]
    | some htype =>
        rename_i type w
        rw [List.cons_append, laxAnswer_readResult_cons, if_pos rfl,
          answer_readType_eq_ok_iff.2 ⟨w, rfl, htype, hadmitted type rfl⟩, Answer.andThen_ok]

/-- A signature is read exactly where one with admitted types is spelled. -/
theorem answer_readSignature_eq_ok_iff {limit : Option Nat} {text next : List Char}
    {signature : Signature} :
    answer (Signature.read limit text) = .ok (signature, next) ↔
      ∃ w, text = w ++ next ∧ signature.Spelled w next ∧
        ∀ type ∈ signature.types, type.Admitted limit 0 := by
  rw [answer_readSignature]
  constructor
  · intro h
    obtain ⟨arguments, rest, harguments, h⟩ := Answer.andThen_eq_ok_iff.1 h
    obtain ⟨result, rest', hresult, h⟩ := Answer.andThen_eq_ok_iff.1 h
    obtain ⟨wrapper, rest'', hwrapper, h⟩ := Answer.andThen_eq_ok_iff.1 h
    cases h
    obtain ⟨m, rfl, hm⟩ := splitClosureMark_eq_iff.1 (Except.ok.inj hwrapper)
    obtain ⟨r, rfl, hr, hresultAdmitted⟩ := laxAnswer_readResult_eq_ok_iff.1 hresult
    obtain ⟨a, rfl, ha, hall⟩ := answer_readArguments_eq_ok_iff.1 harguments
    refine ⟨a ++ '_' :: (r ++ m), by simp, .intro ha hr hm, ?_⟩
    intro type htype
    rcases List.mem_append.1 htype with htype | htype
    · obtain ⟨argument, hargument, rfl⟩ := List.mem_map.1 htype
      exact hall argument hargument
    · exact hresultAdmitted type (Option.mem_toList.1 htype)
  · rintro ⟨_, rfl, h, hadmitted⟩
    obtain ⟨harguments, hresult, hmark⟩ := h
    rename_i arguments result wrapper a r m
    have hall : ∀ argument ∈ arguments, argument.type.Admitted limit 0 := fun argument h =>
      hadmitted _ (List.mem_append_left _ (List.mem_map_of_mem h))
    have hresultAdmitted : ∀ type ∈ result, type.Admitted limit 0 := fun type h =>
      hadmitted type (List.mem_append_right _ (Option.mem_toList.2 h))
    rw [List.append_assoc, List.cons_append, List.append_assoc,
      answer_readArguments_eq_ok_iff.2 ⟨a, rfl, harguments, hall⟩, Answer.andThen_ok,
      laxAnswer_readResult_eq_ok_iff.2 ⟨r, rfl, hresult, hresultAdmitted⟩, Answer.andThen_ok,
      splitClosureMark_eq_iff.2 ⟨m, rfl, hmark⟩, Answer.andThen_ok]

/-- What is called is read exactly where it is spelled with admitted types. -/
theorem answer_readCallee_eq_ok_iff {limit : Option Nat} {text next : List Char}
    {callee : Callee} :
    answer (Callee.read limit text) = .ok (callee, next) ↔
      ∃ w, text = w ++ next ∧ callee.Spelled w next ∧
        ∀ type ∈ callee.types, type.Admitted limit 0 := by
  constructor
  · intro h
    cases text with
    | nil => rw [answer_readCallee_nil] at h; cases h
    | cons c cs =>
        rw [answer_readCallee_cons] at h
        split at h
        · rename_i hc
          obtain ⟨owner, rest, howner, h⟩ := Answer.andThen_eq_ok_iff.1 h
          obtain ⟨name, rest', hname, h⟩ := Answer.andThen_eq_ok_iff.1 h
          cases h
          obtain ⟨n, rfl, hn⟩ := answer_readName_eq_ok_iff.1 hname
          obtain ⟨w, rfl, hw, hadmitted⟩ := answer_readType_eq_ok_iff.1 howner
          exact ⟨'M' :: (w ++ n), by simp [hc], .method hw hn, by simpa [Callee.types]⟩
        · split at h
          · rename_i hc
            obtain ⟨owner, rest, howner, h⟩ := Answer.andThen_eq_ok_iff.1 h
            cases h
            obtain ⟨w, rfl, hw, hadmitted⟩ := answer_readType_eq_ok_iff.1 howner
            exact ⟨'I' :: w, by simp [hc], .initializer hw, by simpa [Callee.types]⟩
          · obtain ⟨name, rest, hname, h⟩ := Answer.andThen_eq_ok_iff.1 h
            cases h
            obtain ⟨w, htext, hw⟩ := answer_readName_eq_ok_iff.1 hname
            exact ⟨w, htext, .free hw, by simp [Callee.types]⟩
  · rintro ⟨w, rfl, h, hadmitted⟩
    cases h with
    | free hname =>
        have hread := answer_readName_eq_ok_iff.2 ⟨w, rfl, hname⟩
        obtain ⟨c, cs, rfl, hc⟩ := hname.exists_cons
        rw [List.cons_append, answer_readCallee_cons, if_neg (ne_of_isDigit hc rfl),
          if_neg (ne_of_isDigit hc rfl), ← List.cons_append, hread, Answer.andThen_ok]
    | method howner hname =>
        rename_i owner name w n
        rw [List.cons_append, List.append_assoc, answer_readCallee_cons, if_pos rfl,
          answer_readType_eq_ok_iff.2 ⟨w, rfl, howner, hadmitted owner List.mem_cons_self⟩,
          Answer.andThen_ok, answer_readName_eq_ok_iff.2 ⟨n, rfl, hname⟩, Answer.andThen_ok]
    | initializer howner =>
        rename_i owner w
        rw [List.cons_append, answer_readCallee_cons, if_neg (by decide), if_pos rfl,
          answer_readType_eq_ok_iff.2 ⟨w, rfl, howner, hadmitted owner List.mem_cons_self⟩,
          Answer.andThen_ok]

/-- What follows the marker of a function is read exactly where it is spelled with admitted
types. -/
theorem answer_readFunctionBody_eq_ok_iff {limit : Option Nat} {text next : List Char}
    {d : Declaration} :
    answer (Declaration.readFunctionBody limit text) = .ok (d, next) ↔
      ∃ w, text = w ++ next ∧ d.Spelled ('F' :: w) next ∧
        ∀ type ∈ d.types, type.Admitted limit 0 := by
  constructor
  · intro h
    cases text with
    | nil => rw [answer_readFunctionBody_nil] at h; cases h
    | cons c cs =>
        rw [answer_readFunctionBody_cons] at h
        split at h
        · rename_i hc
          obtain ⟨owner, rest, howner, h⟩ := Answer.andThen_eq_ok_iff.1 h
          cases h
          obtain ⟨w, rfl, hw, hadmitted⟩ := answer_readType_eq_ok_iff.1 howner
          exact ⟨'D' :: w, by simp [hc], .deinitializer hw, by simpa [Declaration.types]⟩
        · obtain ⟨callee, rest, hcallee, h⟩ := Answer.andThen_eq_ok_iff.1 h
          obtain ⟨signature, rest', hsignature, h⟩ := Answer.andThen_eq_ok_iff.1 h
          cases h
          obtain ⟨v, rfl, hv, hvadmitted⟩ := answer_readSignature_eq_ok_iff.1 hsignature
          obtain ⟨w, htext, hw, hwadmitted⟩ := answer_readCallee_eq_ok_iff.1 hcallee
          refine ⟨w ++ v, by rw [htext, List.append_assoc], .function hw hv, ?_⟩
          exact List.forall_mem_append.2 ⟨hwadmitted, hvadmitted⟩
  · rintro ⟨w, rfl, h, hadmitted⟩
    cases h with
    | deinitializer howner =>
        rename_i owner w
        rw [List.cons_append, answer_readFunctionBody_cons, if_pos rfl,
          answer_readType_eq_ok_iff.2 ⟨w, rfl, howner, hadmitted owner List.mem_cons_self⟩,
          Answer.andThen_ok]
    | function hcallee hsignature =>
        rename_i callee signature w v
        obtain ⟨hwadmitted, hvadmitted⟩ := List.forall_mem_append.1 hadmitted
        have hread := answer_readCallee_eq_ok_iff.2 ⟨w, rfl, hcallee, hwadmitted⟩
        obtain ⟨c, cs, rfl, hc⟩ := hcallee.exists_cons
        rw [List.append_assoc, List.cons_append, answer_readFunctionBody_cons, if_neg hc,
          ← List.cons_append, hread, Answer.andThen_ok,
          answer_readSignature_eq_ok_iff.2 ⟨v, rfl, hsignature, hvadmitted⟩, Answer.andThen_ok]

/-- A declaration is read exactly where one with admitted types is spelled. -/
theorem answer_readDeclaration_eq_ok_iff {limit : Option Nat} {text next : List Char}
    {d : Declaration} :
    answer (Declaration.read limit text) = .ok (d, next) ↔
      ∃ w, text = w ++ next ∧ d.Spelled w next ∧ ∀ type ∈ d.types, type.Admitted limit 0 := by
  constructor
  · intro h
    cases text with
    | nil => rw [answer_readDeclaration_nil] at h; cases h
    | cons c cs =>
        rw [answer_readDeclaration_cons] at h
        split at h
        · rename_i hc
          obtain ⟨named, rest, hnamed, h⟩ := Answer.andThen_eq_ok_iff.1 h
          cases h
          obtain ⟨w, rfl, hw, hadmitted⟩ := answer_readType_eq_ok_iff.1 hnamed
          exact ⟨'T' :: w, by simp [hc], .type hw, by simpa [Declaration.types]⟩
        · split at h
          · cases h
          · split at h
            · rename_i hc
              obtain ⟨w, rfl, hw, hadmitted⟩ := answer_readFunctionBody_eq_ok_iff.1 h
              exact ⟨'F' :: w, by simp [hc], hw, hadmitted⟩
            · cases h
  · rintro ⟨w, rfl, h, hadmitted⟩
    have hfunction : ∀ {v : List Char}, d.Spelled ('F' :: v) next →
        answer (Declaration.read limit ('F' :: (v ++ next))) = .ok (d, next) := by
      intro v hv
      rw [answer_readDeclaration_cons, if_neg (by decide), if_neg (by decide), if_pos rfl]
      exact answer_readFunctionBody_eq_ok_iff.2 ⟨v, rfl, hv, hadmitted⟩
    cases h with
    | type hnamed =>
        rename_i named w
        rw [List.cons_append, answer_readDeclaration_cons, if_pos rfl,
          answer_readType_eq_ok_iff.2 ⟨w, rfl, hnamed, hadmitted named List.mem_cons_self⟩,
          Answer.andThen_ok]
    | deinitializer howner => exact hfunction (.deinitializer howner)
    | function hcallee hsignature => exact hfunction (.function hcallee hsignature)

/-! ### Symbols -/

/-- A symbol is decoded exactly if the sentinel and a spelling with admitted types start it. -/
theorem answerSymbol_eq_ok_iff {limit : Option Nat} {symbol next : List Char}
    {d : Declaration} :
    answerSymbol limit symbol = .ok (d, next) ↔
      ∃ w, symbol = sentinel ++ w ++ next ∧ d.Spelled w next ∧
        ∀ type ∈ d.types, type.Admitted limit 0 := by
  rw [answerSymbol]
  constructor
  · intro h
    cases hbody : afterSentinel? symbol with
    | none => rw [hbody] at h; cases h
    | some body =>
        rw [hbody] at h
        obtain ⟨w, rfl, hw, hadmitted⟩ := answer_readDeclaration_eq_ok_iff.1 h
        refine ⟨w, ?_, hw, hadmitted⟩
        rw [afterSentinel?_eq_some_iff.1 hbody, List.append_assoc]
  · rintro ⟨w, rfl, hw, hadmitted⟩
    exact answer_readDeclaration_eq_ok_iff.2 ⟨w, rfl, hw, hadmitted⟩

/-- A symbol decodes if a declaration is read within the limit, whatever is behind it. -/
theorem decode_eq_ok_iff {symbol : String} {d : Declaration} :
    decode symbol = .ok d ↔
      ∃ next, answerSymbol (some maxNesting) symbol.toList = .ok (d, next) := by
  rw [decode, decodeWithin_eq_map_answerSymbol]
  constructor
  · intro h
    rcases hanswer : answerSymbol (some maxNesting) symbol.toList with fault | ⟨d', next⟩
    · rw [hanswer] at h
      cases h
    · rw [hanswer] at h
      cases h
      exact ⟨next, rfl⟩
  · rintro ⟨next, h⟩
    rw [h]
    rfl

/-- What is reported is read off the declaration. -/
theorem demangled_eq_ok_iff_decode {symbol : String} {report : Demangled} :
    demangled symbol = .ok report ↔ ∃ d, decode symbol = .ok d ∧ d.demangled = report := by
  rw [demangled]
  constructor
  · intro h
    rcases hdecode : decode symbol with fault | d
    · rw [hdecode] at h
      cases h
    · rw [hdecode] at h
      exact ⟨d, rfl, Except.ok.inj h⟩
  · rintro ⟨d, h, rfl⟩
    rw [h]
    rfl

/-- The types of a declaration are admitted under the limits of the decoder exactly if the whole
declaration keeps them. -/
theorem forall_types_admitted_iff {d : Declaration} :
    (∀ type ∈ d.types, type.Admitted (some maxNesting) 0) ↔
      d.nesting ≤ maxNesting ∧ ∀ count ∈ d.pointerCounts, Allocator.holdsRun count := by
  rw [all_admitted_iff]
  refine and_congr_left fun _ => ?_
  simp only [Option.mem_some_iff, forall_eq', Nat.zero_add, Declaration.nesting]
  omega

/-- **The decoder recognises the grammar.** A symbol is reported with a kind, a shown form and a
closure flag exactly if, behind the sentinel, it starts with a spelling of some declaration of
that kind, shown form and flag, whose types nest no deeper than the limit and whose pointer
prefixes can be held. -/
theorem demangled_eq_ok_iff_spelled (symbol : String) (kind : Kind) (text : String)
    (wrapper : Bool) :
    demangled symbol = .ok ⟨kind, text, wrapper⟩ ↔
      ∃ (d : Declaration) (w next : List Char),
        symbol.toList = sentinel ++ w ++ next ∧ d.Spelled w next ∧
        d.nesting ≤ maxNesting ∧ (∀ count ∈ d.pointerCounts, Allocator.holdsRun count) ∧
        d.kind = kind ∧ d.text = text ∧ d.isClosureWrapper = wrapper := by
  rw [demangled_eq_ok_iff_decode]
  constructor
  · rintro ⟨d, hdecode, hreport⟩
    cases hreport
    obtain ⟨next, hanswer⟩ := decode_eq_ok_iff.1 hdecode
    obtain ⟨w, hsymbol, hw, hadmitted⟩ := answerSymbol_eq_ok_iff.1 hanswer
    obtain ⟨hnesting, hpointers⟩ := forall_types_admitted_iff.1 hadmitted
    exact ⟨d, w, next, hsymbol, hw, hnesting, hpointers, rfl, rfl, rfl⟩
  · rintro ⟨d, w, next, hsymbol, hw, hnesting, hpointers, rfl, rfl, rfl⟩
    have hadmitted := forall_types_admitted_iff.2 ⟨hnesting, hpointers⟩
    exact ⟨d, decode_eq_ok_iff.2 ⟨next, answerSymbol_eq_ok_iff.2 ⟨w, hsymbol, hw, hadmitted⟩⟩,
      rfl⟩

end SymbolTrace.Mangling
