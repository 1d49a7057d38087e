import SymbolTrace.Proofs.RunningText.Replacement

/-!
# Running text in parts

A marked word does not go on over a character that stands in no word, and does not depend on what
comes after that character. So the leftmost cutting of a text with such a separator in it is made of
the leftmost cuttings of the two sides (`Cutting.IsLeftmost.append_separator`), and each side is
made readable as if it stood alone (`demangleWords_append_separator`). By induction this holds of
any number of fields with separators between them, whatever stands in the others
(`demangleWords_local`).
-/

namespace SymbolTrace.RunningText

open Mangling Text

/-! ### Separators -/

/-- An ASCII letter or digit, or the underscore. -/
def IsWordCharacter (c : Char) : Prop :=
  ('a' ≤ c ∧ c ≤ 'z') ∨ ('A' ≤ c ∧ c ≤ 'Z') ∨ ('0' ≤ c ∧ c ≤ '9') ∨ c = '_'

instance (c : Char) : Decidable (IsWordCharacter c) :=
  inferInstanceAs (Decidable (_ ∨ _))

/-- The characters of words are the ASCII letters and digits and the underscore. -/
theorem inWord_iff {c : Char} : inWord c = true ↔ IsWordCharacter c := by
  delta inWord IsWordCharacter Char.isAlphanum Char.isAlpha Char.isUpper Char.isLower Char.isDigit
  simp only [Bool.or_eq_true, Bool.and_eq_true, decide_eq_true_eq, beq_iff_eq]
  constructor
  · rintro (((hupper | hlower) | hdigit) | hline)
    · exact .inr (.inl hupper)
    · exact .inl hlower
    · exact .inr (.inr (.inl hdigit))
    · exact .inr (.inr (.inr hline))
  · rintro (hlower | hupper | hdigit | hline)
    · exact .inl (.inl (.inr hlower))
    · exact .inl (.inl (.inl hupper))
    · exact .inl (.inr hdigit)
    · exact .inr hline

section

variable {separator : Char}

/-- Whether a marked word begins is settled in front of the separator. -/
theorem startsMarkedWord_append_iff (hseparator : inWord separator = false)
    {front rest : List Char} :
    StartsMarkedWord (front ++ separator :: rest) ↔ StartsMarkedWord front := by
  have hne : ∀ c, inWord c = true → c ≠ separator := by
    rintro c hc rfl
    rw [hseparator] at hc
    cases hc
  constructor
  · rintro ⟨c, more, heq, hc⟩
    rcases front with _ | ⟨first, _ | ⟨second, _ | ⟨third, front⟩⟩⟩
    · exact absurd (List.cons.inj heq).1.symm (hne '_' (by decide))
    · exact absurd (List.cons.inj (List.cons.inj heq).2).1.symm (hne 'W' (by decide))
    · exact absurd (List.cons.inj (List.cons.inj (List.cons.inj heq).2).2).1.symm (hne c hc)
    · cases heq
      exact ⟨c, front, rfl, hc⟩
  · rintro ⟨c, more, rfl, hc⟩
    exact ⟨c, more ++ separator :: rest, by simp, hc⟩

/-- Behind a separator anything may stand: no word reaches over it. -/
theorem FreeOfWords.append_separator (hseparator : inWord separator = false)
    {between next : List Char} (h : FreeOfWords between next) (rest : List Char) :
    FreeOfWords between (next ++ separator :: rest) := by
  intro front back hsplit hback hstart
  rw [← List.append_assoc, startsMarkedWord_append_iff hseparator] at hstart
  exact h front back hsplit hback hstart

/-- A marked word ends in front of a separator, whatever is behind that. -/
theorem IsMarkedWord.append_separator (hseparator : inWord separator = false)
    {word next : List Char} (h : IsMarkedWord word next) (rest : List Char) :
    IsMarkedWord word (next ++ separator :: rest) where
  exists_body := h.exists_body
  head_next := by
    intro c hc
    cases next with
    | nil =>
        cases hc
        exact hseparator
    | cons d next => exact h.head_next c hc

/-- No marked word begins at the separator itself. -/
theorem freeOfWords_separator (hseparator : inWord separator = false) (rest : List Char) :
    FreeOfWords [separator] rest := by
  intro front back hsplit hback hstart
  cases front with
  | nil =>
      obtain rfl : [separator] = back := hsplit
      have hnone : StartsMarkedWord [] := (startsMarkedWord_append_iff hseparator).1 hstart
      obtain ⟨c, more, heq, -⟩ := hnone
      cases heq
  | cons first front =>
      exact hback (List.append_eq_nil_iff.1 (List.cons.inj hsplit).2.symm).2

end

/-! ### Cuttings one after the other -/

namespace Cutting

/-- The pieces of one text and then those of another; between the last word of the one and the first
of the other there is one piece. -/
def append : Cutting → Cutting → Cutting
  | last tail, other => other.prepend tail
  | word between marked rest, other => word between marked (rest.append other)

/-- The sources of two cuttings are put together. -/
theorem source_append (cutting other : Cutting) :
    (cutting.append other).source = cutting.source ++ other.source := by
  induction cutting with
  | last tail => exact other.source_prepend tail
  | word between marked rest ih => simp only [append, source, ih, List.append_assoc]

/-- The words of two cuttings stand one after the other. -/
theorem words_append (cutting other : Cutting) :
    (cutting.append other).words = cutting.words ++ other.words := by
  induction cutting with
  | last tail => exact other.words_prepend tail
  | word between marked rest ih => simp only [append, words, ih, List.cons_append]

/-- On both sides of a separator the leftmost words stay the leftmost words. -/
theorem IsLeftmost.append_separator {separator : Char} (hseparator : inWord separator = false)
    {cutting other : Cutting} (h : cutting.IsLeftmost) (hother : other.IsLeftmost) :
    (cutting.append (other.prepend [separator])).IsLeftmost := by
  induction h with
  | last hfree =>
      refine (hother.prepend (freeOfWords_separator hseparator other.source)).prepend ?_
      rw [source_prepend]
      exact hfree.append_separator hseparator other.source
  | word hfree hmarked _ ih =>
      refine .word ?_ ?_ ih
      · rw [source_append, source_prepend, ← List.append_assoc]
        exact hfree.append_separator hseparator other.source
      · rw [source_append, source_prepend]
        exact hmarked.append_separator hseparator other.source

variable [Allocator]

/-- Two cuttings are made readable one after the other. -/
theorem readable_append (cutting other : Cutting) :
    (cutting.append other).readable = cutting.readable ++ other.readable := by
  induction cutting with
  | last tail => exact other.readable_prepend tail
  | word between marked rest ih => simp only [append, readable_word, ih, List.append_assoc]

/-- Something is replaced if it is in one of the two. -/
theorem decodes_append (cutting other : Cutting) :
    (cutting.append other).decodes = (cutting.decodes || other.decodes) := by
  simp only [decodes, words_append, List.any_append]

/-- Text in front of a cutting holds no words. -/
theorem decodes_prepend (text : List Char) (cutting : Cutting) :
    (cutting.prepend text).decodes = cutting.decodes := by
  rw [decodes, words_prepend, decodes]

end Cutting

/-! ### Readable texts -/

section

variable [Allocator]

/-- Every leftmost cutting of a text says what is made of it. -/
theorem demangleWords_of_isLeftmost {text : String} {cutting : Cutting} (h : cutting.IsLeftmost)
    (hsource : cutting.source = text.toList) :
    demangleWords text = ⟨String.ofList cutting.readable, cutting.decodes⟩ := by
  obtain ⟨other, hfollows⟩ := (Pass.start_at text.toList).exists_cutting
  obtain rfl := h.eq_of_source_eq hfollows.isLeftmost (hsource.trans hfollows.source_eq.symm)
  exact demangleWords_eq_outcome hfollows

/-- Every text has a leftmost cutting. -/
theorem exists_isLeftmost (text : String) :
    ∃ cutting : Cutting, cutting.IsLeftmost ∧ cutting.source = text.toList := by
  obtain ⟨cutting, hfollows⟩ := (Pass.start_at text.toList).exists_cutting
  exact ⟨cutting, hfollows.isLeftmost, hfollows.source_eq⟩

/-- A text that is one marked word gives way to the word's shown form. -/
theorem text_demangleWords_of_word {word shown : String} (hword : IsMarkedWord word.toList [])
    (hshown : demangle word = .ok shown) : (demangleWords word).text = shown := by
  have hsome : shownWord? word.toList = some shown :=
    shownWord?_eq_some_iff.2 (by rwa [String.ofList_toList])
  have hleftmost : (Cutting.word [] word.toList (.last [])).IsLeftmost :=
    .word (.nil _) hword (.last (.nil []))
  rw [demangleWords_of_isLeftmost hleftmost (List.append_nil _), Cutting.readable_word, hsome]
  simp [Cutting.readable]

/-- The two sides of a separator are made readable on their own. -/
theorem demangleWords_append_separator {separator : Char} (hseparator : inWord separator = false)
    (front back : String) :
    demangleWords (front ++ String.singleton separator ++ back) =
      ⟨(demangleWords front).text ++ String.singleton separator ++ (demangleWords back).text,
        (demangleWords front).anyDecoded || (demangleWords back).anyDecoded⟩ := by
  obtain ⟨cutting, hcutting, hfront⟩ := exists_isLeftmost front
  obtain ⟨other, hother, hback⟩ := exists_isLeftmost back
  have hsource : (cutting.append (other.prepend [separator])).source =
      (front ++ String.singleton separator ++ back).toList := by
    simp [Cutting.source_append, hfront, hback]
  rw [demangleWords_of_isLeftmost (hcutting.append_separator hseparator hother) hsource,
    demangleWords_of_isLeftmost hcutting hfront, demangleWords_of_isLeftmost hother hback,
    Cutting.readable_append, Cutting.decodes_append, Cutting.readable_prepend,
    Cutting.decodes_prepend, String.ofList_append, String.ofList_append, String.append_assoc,
    String.singleton_eq_ofList]

/-! ### Fields -/

/-- A text made of fields: a first one, and the others each behind a separator. -/
def joined (first : String) (rest : List (Char × String)) : String :=
  rest.foldl (fun text field => text ++ String.singleton field.1 ++ field.2) first

/-- Each field is made readable on its own. -/
theorem demangleWords_joined {rest : List (Char × String)}
    (hrest : ∀ field ∈ rest, inWord field.1 = false) (first : String) :
    demangleWords (joined first rest) =
      ⟨joined (demangleWords first).text
          (rest.map fun (separator, field) => (separator, (demangleWords field).text)),
        (demangleWords first).anyDecoded ||
          rest.any fun (_, field) => (demangleWords field).anyDecoded⟩ := by
  induction rest generalizing first with
  | nil => simp [joined]
  | cons field rest ih =>
      obtain ⟨hfield, hrest⟩ := List.forall_mem_cons.1 hrest
      have hall := ih hrest (first ++ String.singleton field.1 ++ field.2)
      rw [demangleWords_append_separator hfield] at hall
      rw [List.any_cons, ← Bool.or_assoc]
      exact hall

/-- **What is made of a field does not depend on the others.** A character that is no ASCII letter
or digit and no underscore separates: what stands in front of it and behind it is made readable as
two texts would be, and the whole is reported as changed exactly if one of the two is. So it is with
any number of fields and any such separators between them. -/
theorem demangleWords_local :
    (∀ (front back : String) (separator : Char), ¬ IsWordCharacter separator →
      let whole := demangleWords (front ++ String.singleton separator ++ back)
      whole.text =
          (demangleWords front).text ++ String.singleton separator ++ (demangleWords back).text ∧
        (whole.anyDecoded = true ↔
          (demangleWords front).anyDecoded = true ∨ (demangleWords back).anyDecoded = true)) ∧
    ∀ (first : String) (rest : List (Char × String)),
      (∀ field ∈ rest, ¬ IsWordCharacter field.1) →
      let whole := demangleWords (joined first rest)
      whole.text = joined (demangleWords first).text
          (rest.map fun (separator, field) => (separator, (demangleWords field).text)) ∧
        (whole.anyDecoded = true ↔ (demangleWords first).anyDecoded = true ∨
          ∃ field ∈ rest, (demangleWords field.2).anyDecoded = true) := by
  constructor
  · intro front back separator hseparator whole
    rw [← inWord_iff, Bool.not_eq_true] at hseparator
    have hwhole := demangleWords_append_separator hseparator front back
    refine ⟨congrArg DemangledText.text hwhole, ?_⟩
    rw [congrArg DemangledText.anyDecoded hwhole, Bool.or_eq_true]
  · intro first rest hrest whole
    have hseparators : ∀ field ∈ rest, inWord field.1 = false := by
      intro field hfield
      rw [← Bool.not_eq_true, inWord_iff]
      exact hrest field hfield
    have hwhole := demangleWords_joined hseparators first
    refine ⟨congrArg DemangledText.text hwhole, ?_⟩
    rw [congrArg DemangledText.anyDecoded hwhole, Bool.or_eq_true, List.any_eq_true]

end

attribute [local instance] Allocator.unlimited

/-- A word that does not decode has no part in what is made of the fields beside it. -/
theorem demangleWords_local_threeFields :
    (∀ field ∈ [('=', "_WC"), ('é', "_WTsb")], ¬ IsWordCharacter field.1) ∧
      (demangleWords "_WTsI=_WCé_WTsb").text = "Int=_WCéBool" := by
  have hseparators : ∀ field ∈ [('=', "_WC"), ('é', "_WTsb")], ¬ IsWordCharacter field.1 := by
    decide
  have hint : (demangleWords "_WTsI").text = "Int" :=
    text_demangleWords_of_word ⟨⟨['T', 's', 'I'], rfl, by decide, List.all_eq_true.1 rfl⟩, nofun⟩
      (by cbv)
  have hkept : (demangleWords "_WC").text = "_WC" := by decide +kernel
  have hbool : (demangleWords "_WTsb").text = "Bool" :=
    text_demangleWords_of_word ⟨⟨['T', 's', 'b'], rfl, by decide, List.all_eq_true.1 rfl⟩, nofun⟩
      (by cbv)
  have hwhole := (demangleWords_local.2 "_WTsI" _ hseparators).1
  simp only [List.map_cons, List.map_nil, hint, hkept, hbool] at hwhole
  exact ⟨hseparators, hwhole⟩

end SymbolTrace.RunningText
