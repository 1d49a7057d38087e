import Mathlib.Algebra.GroupWithZero.Nat
import SymbolTrace.Proofs.Mangling.Recognition
import SymbolTrace.Text.Utf8

/-!
# The size of what is shown

The shown form of a symbol is at most five times as long as the symbol, pointer markers apart:
these are written out, so that a few digits can stand for any number of them.

Single steps write more than that. An omitted label, the separators and the remark on closure
wrappers take up to thirteen bytes for one, so the factor holds only of parts that are charged for
each other. Each item of a list is charged for the separator behind it: a type and two more bytes
stay within the factor, and so does an argument, because a name leaves room for four bytes more.

## Main results

* `TypeExpr.Spelled.utf8ByteSize_text_le`, `Argument.Spelled.utf8ByteSize_text_le`: the items.
* `Declaration.Spelled.utf8ByteSize_text_le`: whole declarations.
* `utf8ByteSize_demangle_le`: symbols.
-/

namespace SymbolTrace.Mangling

open Text

/-! ### Numbers and names -/

/-- So many digits denote less than so many powers of ten. -/
theorem ofDigitChars_lt {digits : List Char} (hdigits : ∀ c ∈ digits, c.isDigit = true)
    (start : Nat) : Nat.ofDigitChars 10 digits start < (start + 1) * 10 ^ digits.length := by
  induction digits generalizing start with
  | nil => simp
  | cons c digits ih =>
      have hc : c.toNat - '0'.toNat < 10 := by
        have hc := hdigits c List.mem_cons_self
        simp only [Char.isDigit, Bool.and_eq_true, decide_eq_true_eq, UInt32.le_iff_toNat_le] at hc
        have hle : c.toNat ≤ 57 := hc.2
        have hzero : '0'.toNat = 48 := rfl
        omega
      have hnext := ih (fun d hd => hdigits d (List.mem_cons_of_mem c hd))
        (10 * start + (c.toNat - '0'.toNat))
      rw [Nat.ofDigitChars_cons, List.length_cons, Nat.pow_succ']
      calc Nat.ofDigitChars 10 digits (10 * start + (c.toNat - '0'.toNat))
          < (10 * start + (c.toNat - '0'.toNat) + 1) * 10 ^ digits.length := hnext
        _ ≤ ((start + 1) * 10) * 10 ^ digits.length := Nat.mul_le_mul_right _ (by omega)
        _ = (start + 1) * (10 * 10 ^ digits.length) := Nat.mul_assoc _ _ _

/-- A number is not shown longer than it is spelled: leading zeros are left out. -/
theorem NumberSpelled.utf8ByteSize_repr_le {value : Nat} {digits next : List Char}
    (h : NumberSpelled value digits next) : value.repr.utf8ByteSize ≤ byteCount digits := by
  have hlt : value < 10 ^ digits.length := by
    have hlt := ofDigitChars_lt h.isDigit 0
    rwa [h.value_eq, Nat.zero_add, Nat.one_mul] at hlt
  have hlength : (Nat.toDigits 10 value).length ≤ digits.length :=
    (Nat.length_toDigits_le_iff (by decide) (List.length_pos_iff.2 h.ne_nil)).2 hlt
  have hascii : ∀ c ∈ Nat.toDigits 10 value, c.toNat < 128 := fun c hc =>
    toNat_lt_of_isDigit (Nat.isDigit_of_mem_toDigits (by decide) (by decide) hc)
  calc value.repr.utf8ByteSize
      = byteCount (Nat.toDigits 10 value) := by
        rw [Nat.repr_eq_ofList_toDigits, byteCount_eq_utf8ByteSize]
    _ = (Nat.toDigits 10 value).length := byteCount_eq_length hascii
    _ ≤ digits.length := hlength
    _ ≤ byteCount digits := length_le_byteCount digits

/-- A name leaves room for four bytes more, even if it is empty. -/
theorem NameSpelled.utf8ByteSize_le {name : String} {w next : List Char}
    (h : NameSpelled name w next) : name.utf8ByteSize + 4 ≤ 5 * byteCount w := by
  obtain ⟨hsize⟩ := h
  rename_i size
  have hdigits : 0 < size.length := List.length_pos_iff.2 hsize.ne_nil
  have hbytes := length_le_byteCount size
  have hname : byteCount name.toList = name.utf8ByteSize := by
    rw [byteCount_eq_utf8ByteSize, String.ofList_toList]
  rw [byteCount_append, hname]
  omega

/-! ### Types -/

/-- Each marker is one byte. -/
theorem utf8ByteSize_pointerText (pointers : Option Nat) :
    (pointerText pointers).utf8ByteSize = pointers.toList.sum := by
  have hstars : ∀ count, byteCount (List.replicate count '*') = count := by
    intro count
    rw [byteCount_eq_length (by simp), List.length_replicate]
  rw [pointerText, ← byteCount_eq_utf8ByteSize, hstars]
  cases pointers <;> simp

/-- The bytes of items, each with a separator behind it. -/
def separatedSize (items : List String) : Nat :=
  (items.map fun item => item.utf8ByteSize + 2).sum

/-- Around items and separators there are two parentheses. -/
theorem utf8ByteSize_parenthesized_le (items : List String) :
    (parenthesized items).utf8ByteSize ≤ separatedSize items + 2 := by
  have hitems : (commaSeparated items).utf8ByteSize ≤ separatedSize items := by
    induction items with
    | nil => simp [commaSeparated, separatedSize]
    | cons item items ih =>
        cases items with
        | nil => simp [commaSeparated, separatedSize]
        | cons next items =>
            have hcomma : (", " : String).utf8ByteSize = 2 := rfl
            simp only [commaSeparated, separatedSize, List.map_cons, List.sum_cons,
              String.utf8ByteSize_append] at ih ⊢
            omega
  have hopen : ("(" : String).utf8ByteSize = 1 := rfl
  have hclose : (")" : String).utf8ByteSize = 1 := rfl
  simp only [parenthesized, String.utf8ByteSize_append]
  omega

/-- The marker of builtin types pays for what is missing here. -/
theorem Builtin.Spelled.utf8ByteSize_text_le {code : Builtin} {w next : List Char}
    (h : code.Spelled w next) : code.text.utf8ByteSize ≤ 5 * byteCount w + 3 := by
  cases h with
  | sized hwidth =>
      rename_i width digits
      have hdigits := hwidth.utf8ByteSize_repr_le
      have hint : ("Int" : String).utf8ByteSize = 3 := rfl
      have hmarker : 'i'.utf8Size = 1 := rfl
      simp only [Builtin.text, String.utf8ByteSize_append, byteCount]
      omega
  | int | unsized | float | double | float80 | bool | void => decide

mutual

/-- A type, a separator behind it and its pointer markers. -/
theorem TypeExpr.Spelled.utf8ByteSize_text_le {type : TypeExpr} {w next : List Char}
    (h : type.Spelled w next) :
    type.text.utf8ByteSize + 2 ≤ 5 * byteCount w + type.pointerCounts.sum := by
  cases h with
  | builtin hstars hcode =>
      rename_i pointers stars code w
      have hcode := hcode.utf8ByteSize_text_le
      have hmarker : 's'.utf8Size = 1 := rfl
      simp only [TypeExpr.text, TypeExpr.pointerCounts, String.utf8ByteSize_append,
        utf8ByteSize_pointerText, byteCount_append, byteCount]
      omega
  | nominal hstars hname =>
      have hname := hname.utf8ByteSize_le
      simp only [TypeExpr.text, TypeExpr.pointerCounts, String.utf8ByteSize_append,
        utf8ByteSize_pointerText, byteCount_append]
      omega
  | tuple hstars hfields =>
      rename_i pointers stars fields w
      have hfields := hfields.separatedSize_texts_le
      have hlist := utf8ByteSize_parenthesized_le (TypeExpr.texts fields)
      have hmarker : 't'.utf8Size = 1 := rfl
      simp only [TypeExpr.text, TypeExpr.pointerCounts, String.utf8ByteSize_append,
        utf8ByteSize_pointerText, byteCount_append, byteCount, List.sum_append]
      omega
  | function hstars hparameters hresult =>
      rename_i pointers stars parameters result w v
      have hparameters := hparameters.separatedSize_texts_le
      have hresult := hresult.utf8ByteSize_text_le
      have hlist := utf8ByteSize_parenthesized_le (TypeExpr.texts parameters)
      have harrow : arrow.utf8ByteSize = 4 := rfl
      have hmarker : 'F'.utf8Size = 1 := rfl
      have hterminator : 'R'.utf8Size = 1 := rfl
      simp only [TypeExpr.text, TypeExpr.pointerCounts, String.utf8ByteSize_append,
        utf8ByteSize_pointerText, byteCount_append, byteCount, List.sum_append]
      omega

/-- Types, each with a separator behind it. -/
theorem TypeExpr.AllSpelled.separatedSize_texts_le {types : List TypeExpr} {w next : List Char}
    (h : TypeExpr.AllSpelled types w next) :
    separatedSize (TypeExpr.texts types) ≤
      5 * byteCount w + (TypeExpr.pointerCountsAll types).sum := by
  cases h with
  | nil => simp [TypeExpr.texts, separatedSize]
  | cons htype htypes =>
      have htype := htype.utf8ByteSize_text_le
      have htypes := htypes.separatedSize_texts_le
      simp only [TypeExpr.texts, TypeExpr.pointerCountsAll, separatedSize, List.map_cons,
        List.sum_cons, List.sum_append, byteCount_append] at htypes ⊢
      omega

end

/-! ### Arguments -/

/-- A label and the name behind it leave room for the colon and a separator. -/
theorem Label.Spelled.utf8ByteSize_text_le {label : Label} {name : String}
    {l n next next' : List Char} (hlabel : label.Spelled l next)
    (hname : NameSpelled name n next') :
    label.text.utf8ByteSize + name.utf8ByteSize + 2 ≤ 5 * byteCount (l ++ n) := by
  have hn := hname.utf8ByteSize_le
  rw [byteCount_append]
  cases hlabel with
  | omitted =>
      have htext : Label.omitted.text.utf8ByteSize = 0 := rfl
      omega
  | external hown =>
      rename_i own w
      have hw := hown.utf8ByteSize_le
      have hmarker : 'E'.utf8Size = 1 := rfl
      have hblank : (" " : String).utf8ByteSize = 1 := rfl
      simp only [Label.text, String.utf8ByteSize_append, byteCount]
      omega
  | placeholder =>
      have htext : Label.placeholder.text.utf8ByteSize = 2 := rfl
      omega

/-- An argument, a separator behind it and its pointer markers. -/
theorem Argument.Spelled.utf8ByteSize_text_le {argument : Argument} {w next : List Char}
    (h : argument.Spelled w next) :
    argument.text.utf8ByteSize + 2 ≤
      5 * byteCount w + argument.type.pointerCounts.sum := by
  obtain ⟨hlabel, hname, htype⟩ := h
  have hnamed := hlabel.utf8ByteSize_text_le hname
  have htype := htype.utf8ByteSize_text_le
  have hcolon : (": " : String).utf8ByteSize = 2 := rfl
  simp only [Argument.text, String.utf8ByteSize_append, byteCount_append] at hnamed ⊢
  omega

/-- Arguments, each with a separator behind it. -/
theorem Argument.AllSpelled.separatedSize_texts_le {arguments : List Argument}
    {w next : List Char} (h : Argument.AllSpelled arguments w next) :
    separatedSize (arguments.map Argument.text) ≤
      5 * byteCount w + (TypeExpr.pointerCountsAll (arguments.map Argument.type)).sum := by
  induction arguments generalizing w with
  | nil => simp [separatedSize]
  | cons argument arguments ih =>
      cases h with
      | cons hargument harguments =>
          have hargument := hargument.utf8ByteSize_text_le
          have harguments := ih harguments
          simp only [TypeExpr.pointerCountsAll, separatedSize, List.map_cons, List.sum_cons,
            List.sum_append, byteCount_append] at harguments ⊢
          omega

/-! ### Declarations -/

/-- The markers of several types add up. -/
theorem TypeExpr.sum_pointerCountsAll_append (types types' : List TypeExpr) :
    (TypeExpr.pointerCountsAll (types ++ types')).sum =
      (TypeExpr.pointerCountsAll types).sum + (TypeExpr.pointerCountsAll types').sum := by
  induction types with
  | nil => simp [TypeExpr.pointerCountsAll]
  | cons type types ih =>
      simp only [List.cons_append, TypeExpr.pointerCountsAll, List.sum_append, ih]
      omega

/-- The arrow is charged to the marker of the result and to the separator that its type lacks. -/
theorem ResultSpelled.utf8ByteSize_resultText_le {result : Option TypeExpr} {w next : List Char}
    (h : ResultSpelled result w next) :
    (resultText result).utf8ByteSize ≤
      5 * byteCount w + (TypeExpr.pointerCountsAll result.toList).sum := by
  cases h with
  | none => simp [resultText]
  | some htype =>
      have htype := htype.utf8ByteSize_text_le
      have harrow : arrow.utf8ByteSize = 4 := rfl
      have hmarker : 'R'.utf8Size = 1 := rfl
      simp only [resultText, String.utf8ByteSize_append, byteCount, Option.toList_some,
        TypeExpr.pointerCountsAll, List.append_nil]
      omega

/-- The remark of a closure wrapper is the one text that its marker does not pay for. -/
theorem ClosureMarkSpelled.utf8ByteSize_remark_le {wrapper : Bool} {w next : List Char}
    (h : ClosureMarkSpelled wrapper w next) :
    (if wrapper then closureRemark else "").utf8ByteSize ≤ 5 * byteCount w + 8 := by
  cases h with
  | plain => decide
  | wrapper => decide

/-- The parts of a signature are charged one by one. The parentheses and the closure remark may take
five bytes more than the terminator and the mark pay for. -/
theorem Signature.Spelled.utf8ByteSize_text_le {signature : Signature} {w next : List Char}
    (h : signature.Spelled w next) :
    signature.text.utf8ByteSize ≤
      5 * byteCount w + (TypeExpr.pointerCountsAll signature.types).sum + 5 := by
  obtain ⟨harguments, hresult, hmark⟩ := h
  rename_i arguments result wrapper a r m
  have hitems := harguments.separatedSize_texts_le
  have hlist := utf8ByteSize_parenthesized_le (arguments.map Argument.text)
  have hresult := hresult.utf8ByteSize_resultText_le
  have hremark := hmark.utf8ByteSize_remark_le
  have hunderscore : '_'.utf8Size = 1 := rfl
  simp only [Signature.text, Signature.types, TypeExpr.sum_pointerCountsAll_append,
    String.utf8ByteSize_append, byteCount_append, byteCount]
  omega

/-- A callee is charged for its owner and its name. -/
theorem Callee.Spelled.utf8ByteSize_text_le {callee : Callee} {w next : List Char}
    (h : callee.Spelled w next) :
    callee.text.utf8ByteSize ≤
      5 * byteCount w + (TypeExpr.pointerCountsAll callee.types).sum := by
  cases h with
  | free hname =>
      have hname := hname.utf8ByteSize_le
      simp only [Callee.text, Callee.types, TypeExpr.pointerCountsAll, List.sum_nil]
      omega
  | method howner hname =>
      have howner := howner.utf8ByteSize_text_le
      have hname := hname.utf8ByteSize_le
      have hdot : ("." : String).utf8ByteSize = 1 := rfl
      simp only [Callee.text, Callee.types, TypeExpr.pointerCountsAll, List.append_nil,
        String.utf8ByteSize_append, byteCount_append, byteCount]
      omega
  | initializer howner =>
      have howner := howner.utf8ByteSize_text_le
      have hinit : (".init" : String).utf8ByteSize = 5 := rfl
      have hmarker : 'I'.utf8Size = 1 := rfl
      simp only [Callee.text, Callee.types, TypeExpr.pointerCountsAll, List.append_nil,
        String.utf8ByteSize_append, byteCount]
      omega

/-- A declaration stays within the factor by its markers alone. -/
theorem Declaration.Spelled.utf8ByteSize_text_le {d : Declaration} {w next : List Char}
    (h : d.Spelled w next) :
    d.text.utf8ByteSize ≤ 5 * byteCount w + d.pointerCounts.sum := by
  have hF : 'F'.utf8Size = 1 := rfl
  cases h with
  | type hnamed =>
      have hnamed := hnamed.utf8ByteSize_text_le
      simp only [Declaration.text, Declaration.pointerCounts, Declaration.types,
        TypeExpr.pointerCountsAll, List.append_nil, byteCount]
      omega
  | deinitializer howner =>
      have howner := howner.utf8ByteSize_text_le
      have hdeinit : (".deinit" : String).utf8ByteSize = 7 := rfl
      simp only [Declaration.text, Declaration.pointerCounts, Declaration.types,
        TypeExpr.pointerCountsAll, List.append_nil, String.utf8ByteSize_append, byteCount]
      omega
  | function hcallee hsignature =>
      have hcallee := hcallee.utf8ByteSize_text_le
      have hsignature := hsignature.utf8ByteSize_text_le
      simp only [Declaration.text, Declaration.pointerCounts, Declaration.types,
        TypeExpr.sum_pointerCountsAll_append, String.utf8ByteSize_append, byteCount_append,
        byteCount]
      omega

/-! ### Symbols -/

section

variable [Allocator]

/-- **The shown form is linear in the symbol, pointer markers apart.** Whenever a symbol is shown,
the text has at most five bytes for each byte of the symbol, and one more for each pointer marker
that the prefixes read on the way ask for. Without a pointer prefix the factor is all there is. -/
theorem utf8ByteSize_demangle_le {symbol text : String} (h : demangle symbol = .ok text) :
    ∃ d w next, decode symbol = .ok d ∧ d.text = text ∧
      symbol.toList = sentinel ++ w ++ next ∧ d.Spelled w next ∧
      text.utf8ByteSize ≤ 5 * symbol.utf8ByteSize + d.pointerCounts.sum ∧
      (d.pointerCounts = [] → text.utf8ByteSize ≤ 5 * symbol.utf8ByteSize) := by
  obtain ⟨d, hdecode, rfl⟩ : ∃ d, decode symbol = .ok d ∧ d.text = text := by
    rw [demangle] at h
    cases hdecode : decode symbol with
    | error fault => rw [hdecode] at h; cases h
    | ok d => rw [hdecode] at h; cases h; exact ⟨d, rfl, rfl⟩
  obtain ⟨next, hanswer⟩ := decode_eq_ok_iff.1 hdecode
  obtain ⟨w, hsymbol, hspelled, -⟩ := answerSymbol_eq_ok_iff.1 hanswer
  have hw : byteCount w ≤ symbol.utf8ByteSize := by
    rw [← String.ofList_toList (s := symbol), ← byteCount_eq_utf8ByteSize, hsymbol,
      byteCount_append, byteCount_append]
    omega
  have hsize : d.text.utf8ByteSize ≤ 5 * symbol.utf8ByteSize + d.pointerCounts.sum := by
    have hsize := hspelled.utf8ByteSize_text_le
    omega
  refine ⟨d, w, next, hdecode, rfl, hsymbol, hspelled, hsize, fun hnone => ?_⟩
  rw [hnone, List.sum_nil] at hsize
  exact hsize

end

attribute [local instance] Allocator.unlimited

/-- A tuple of empty names, behind a pointer prefix. -/
theorem decode_emptyNames :
    decode "_WTP3Tt0sF0T" =
      .ok (.type
        (.tuple (some 3) [.nominal none "", .builtin none .float80, .nominal none ""])) := by
  have hroom : Allocator.holdsRun 3 = true := rfl
  refine decode_eq_ok_iff.2 ⟨[], ?_⟩
  simp [hroom, answerSymbol, afterSentinel?, answer_readDeclaration_cons, answer_readType_cons,
    answer_readPointerCount, answer_readForm_cons, openNested, checkNesting, maxNesting, Except.map,
    answer_readUntil_cons, answer_readName, answer_readBuiltin_cons, Builtin.ofLetter?,
    answer_readNumber_cons, Nat.ofDigitChars, numberBound, UInt64.size,
    splitBytes?_zero, Answer.andThen_ok]

/-- A prefix of three, and empty names between separators: sixteen bytes for twelve. -/
theorem utf8ByteSize_demangle_emptyNames :
    demangle "_WTP3Tt0sF0T" = .ok "***(, Float80, )" ∧
      ∃ d w next, decode "_WTP3Tt0sF0T" = .ok d ∧ d.text = "***(, Float80, )" ∧
        "_WTP3Tt0sF0T".toList = sentinel ++ w ++ next ∧ d.Spelled w next ∧
        "***(, Float80, )".utf8ByteSize ≤ 5 * "_WTP3Tt0sF0T".utf8ByteSize + d.pointerCounts.sum ∧
        (d.pointerCounts = [] →
          "***(, Float80, )".utf8ByteSize ≤ 5 * "_WTP3Tt0sF0T".utf8ByteSize) := by
  have hdemangle : demangle "_WTP3Tt0sF0T" = .ok "***(, Float80, )" := by
    rw [demangle, decode_emptyNames]
    rfl
  exact ⟨hdemangle, utf8ByteSize_demangle_le hdemangle⟩

end SymbolTrace.Mangling
