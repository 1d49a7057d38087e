import SymbolTrace.RunningText

/-!
# Marked words and the text between them

What making a text readable comes to, said without a pass through it. A `Cutting` is a text in
pieces, marked words and what stands between them. It is leftmost if no marked word begins inside a
piece that stands between words, and each word ends only where its word characters do. A text can
be cut in one such way and no other, and what is made of the text is what the pieces make.

Nothing is said of sentinels inside a word: they are among its word characters, whether the word
decodes or not.

## Main results

* `Cutting.IsLeftmost.eq_of_source_eq`: leftmost cuttings of one text are the same.
* `Pass.At.exists_cutting`: from any state on, a pass does what a leftmost cutting of the unread
  text says.
* `demangleWords_eq_replacement`: so does `demangleWords`.
-/

namespace SymbolTrace.RunningText

open Mangling Text

/-! ### Cuttings -/

/-- Does the text start with a sentinel and at least one word character? -/
def StartsMarkedWord (text : List Char) : Prop :=
  ∃ c rest, text = sentinel ++ c :: rest ∧ inWord c = true

/-- No marked word begins inside the first text when the second is behind it. -/
def FreeOfWords (between next : List Char) : Prop :=
  ∀ front back, between = front ++ back → back ≠ [] → ¬ StartsMarkedWord (back ++ next)

/-- A sentinel with all the word characters behind it, of which there are some. -/
structure IsMarkedWord (word next : List Char) : Prop where
  exists_body : ∃ body, word = sentinel ++ body ∧ body ≠ [] ∧ ∀ c ∈ body, inWord c = true
  head_next : ∀ c, next.head? = some c → inWord c = false

/-- A text in pieces. -/
inductive Cutting where
  /-- No word is left. -/
  | last (tail : List Char)
  /-- A word, with the text in front of it and the pieces behind it. -/
  | word (between marked : List Char) (rest : Cutting)

namespace Cutting

/-- The text that the pieces were cut from. -/
def source : Cutting → List Char
  | last tail => tail
  | word between marked rest => between ++ (marked ++ rest.source)

/-- The marked words, from left to right. -/
def words : Cutting → List (List Char)
  | last _ => []
  | word _ marked rest => marked :: rest.words

/-- The pieces put together again, with the shown form in place of each word that decodes. -/
def readable [Allocator] : Cutting → List Char
  | last tail => tail
  | word between marked rest =>
      between ++
        ((match demangle (String.ofList marked) with
          | .ok shown => shown.toList
          | .error _ => marked) ++ rest.readable)

/-- The words are cut from left to right, each at the first place where one begins. -/
inductive IsLeftmost : Cutting → Prop
  | last {tail : List Char} : FreeOfWords tail [] → IsLeftmost (.last tail)
  | word {between marked : List Char} {rest : Cutting} :
      FreeOfWords between (marked ++ rest.source) → IsMarkedWord marked rest.source →
      IsLeftmost rest → IsLeftmost (.word between marked rest)

end Cutting

/-! ### There is one leftmost cutting -/

/-- A marked word begins where it stands. -/
theorem IsMarkedWord.startsMarkedWord {word next : List Char} (h : IsMarkedWord word next) :
    StartsMarkedWord (word ++ next) := by
  obtain ⟨body, rfl, hne, hall⟩ := h.exists_body
  cases body with
  | nil => exact absurd rfl hne
  | cons c body =>
      exact ⟨c, body ++ next, by simp, hall c List.mem_cons_self⟩

/-- Where a marked word begins, one marked word begins. -/
theorem IsMarkedWord.append_inj {word word' next next' : List Char} (h : IsMarkedWord word next)
    (h' : IsMarkedWord word' next') (heq : word ++ next = word' ++ next') :
    word = word' ∧ next = next' := by
  obtain ⟨body, rfl, -, hall⟩ := h.exists_body
  obtain ⟨body', rfl, -, hall'⟩ := h'.exists_body
  rw [List.append_assoc, List.append_assoc] at heq
  have htext := List.append_cancel_left heq
  have hbody : body = body' := by
    rw [← (takeWhile_run hall h.head_next).1, htext, (takeWhile_run hall' h'.head_next).1]
  subst hbody
  exact ⟨rfl, List.append_cancel_left htext⟩

/-- No word begins inside the empty text. -/
theorem FreeOfWords.nil (next : List Char) : FreeOfWords [] next := by
  intro front back hsplit hback
  exact absurd (List.append_eq_nil_iff.1 hsplit.symm).2 hback

/-- The first word begins where the text in front of it ends. -/
theorem FreeOfWords.eq_of_append_eq {between between' text text' : List Char}
    (h : FreeOfWords between text) (h' : FreeOfWords between' text')
    (hstart : StartsMarkedWord text) (hstart' : StartsMarkedWord text')
    (heq : between ++ text = between' ++ text') : between = between' := by
  rcases List.append_eq_append_iff.1 heq with ⟨more, hbetween', htext⟩ | ⟨more, hbetween, htext'⟩
  · by_cases hmore : more = []
    · rw [hbetween', hmore, List.append_nil]
    · exact absurd (htext ▸ hstart) (h' between more hbetween' hmore)
  · by_cases hmore : more = []
    · rw [hbetween, hmore, List.append_nil]
    · exact absurd (htext' ▸ hstart') (h between' more hbetween hmore)

/-- A text without marked words is not cut. -/
theorem FreeOfWords.not_startsMarkedWord {tail between text : List Char}
    (h : FreeOfWords tail []) (heq : tail = between ++ text) : ¬ StartsMarkedWord text := by
  intro hstart
  refine h between text heq ?_ (by rwa [List.append_nil])
  obtain ⟨c, rest, rfl, -⟩ := hstart
  exact List.cons_ne_nil _ _

/-- Leftmost cuttings of one text are the same. -/
theorem Cutting.IsLeftmost.eq_of_source_eq {cutting other : Cutting} (h : cutting.IsLeftmost)
    (h' : other.IsLeftmost) (heq : cutting.source = other.source) : cutting = other := by
  induction h generalizing other with
  | last hfree =>
      cases h' with
      | last => exact congrArg Cutting.last heq
      | word _ hmarked => exact absurd hmarked.startsMarkedWord (hfree.not_startsMarkedWord heq)
  | word hfree hmarked _ ih =>
      cases h' with
      | last hfree' =>
          exact absurd hmarked.startsMarkedWord (hfree'.not_startsMarkedWord heq.symm)
      | word hfree' hmarked' hrest' =>
          have hbetween := hfree.eq_of_append_eq hfree' hmarked.startsMarkedWord
            hmarked'.startsMarkedWord heq
          subst hbetween
          obtain ⟨rfl, hsource⟩ := hmarked.append_inj hmarked' (List.append_cancel_left heq)
          rw [ih hrest' hsource]

/-! ### Text in front of a cutting -/

/-- Two texts in a row are free of words if each is, with what is behind it. -/
theorem FreeOfWords.append {between more next : List Char} (h : FreeOfWords between (more ++ next))
    (hmore : FreeOfWords more next) : FreeOfWords (between ++ more) next := by
  intro front back hsplit hback hstart
  rcases List.append_eq_append_iff.1 hsplit with ⟨middle, -, hmiddle⟩ | ⟨middle, hmiddle, rfl⟩
  · exact hmore middle back hmiddle hback hstart
  · by_cases hnil : middle = []
    · subst hnil
      exact hmore [] more rfl (by simpa using hback) (by simpa using hstart)
    · exact h front middle hmiddle hnil (by simpa using hstart)

/-- Put text in front of the first piece. -/
def Cutting.prepend (text : List Char) : Cutting → Cutting
  | last tail => last (text ++ tail)
  | word between marked rest => word (text ++ between) marked rest

@[simp] theorem Cutting.source_prepend (text : List Char) (cutting : Cutting) :
    (cutting.prepend text).source = text ++ cutting.source := by
  cases cutting <;> simp [prepend, source]

@[simp] theorem Cutting.words_prepend (text : List Char) (cutting : Cutting) :
    (cutting.prepend text).words = cutting.words := by
  cases cutting <;> rfl

@[simp] theorem Cutting.readable_prepend [Allocator] (text : List Char) (cutting : Cutting) :
    (cutting.prepend text).readable = text ++ cutting.readable := by
  cases cutting <;> simp [prepend, readable]

/-- Text in front that is free of words leaves a cutting leftmost. -/
theorem Cutting.IsLeftmost.prepend {cutting : Cutting} (h : cutting.IsLeftmost) {text : List Char}
    (htext : FreeOfWords text cutting.source) : (cutting.prepend text).IsLeftmost := by
  cases h with
  | last hfree => exact .last (FreeOfWords.append (by simpa [source] using htext) hfree)
  | word hfree hmarked hrest => exact .word (htext.append hfree) hmarked hrest

/-! ### Sentinels and marked words -/

/-- No marked word begins where no sentinel does. -/
theorem FreeOfSentinels.freeOfWords {between next : List Char} (h : FreeOfSentinels between next) :
    FreeOfWords between next := by
  rintro front back hsplit hback ⟨c, rest, htext, -⟩
  have hnone := h front back hsplit hback
  rw [htext] at hnone
  cases hnone

/-- A sentinel without a word character behind it marks no word. -/
theorem freeOfWords_sentinel {body : List Char} (hbody : body.takeWhile inWord = []) :
    FreeOfWords sentinel body := by
  rintro front back hsplit hback ⟨c, rest, htext, hc⟩
  rcases front with _ | ⟨first, _ | ⟨second, front⟩⟩
  · obtain rfl : sentinel = back := hsplit
    rw [List.append_cancel_left htext, List.takeWhile_cons_of_pos hc] at hbody
    cases hbody
  · obtain rfl : ['W'] = back := (List.cons.inj hsplit).2
    exact absurd (List.cons.inj htext).1 (by decide)
  · have hnil := (List.cons.inj (List.cons.inj hsplit).2).2
    exact hback (List.append_eq_nil_iff.1 hnil.symm).2

/-- A sentinel and the word characters behind it are a marked word, if there are any. -/
theorem isMarkedWord_takeWhile {body : List Char} (hbody : body.takeWhile inWord ≠ []) :
    IsMarkedWord (sentinel ++ body.takeWhile inWord) (body.dropWhile inWord) where
  exists_body :=
    ⟨body.takeWhile inWord, rfl, hbody, fun c hc => List.all_eq_true.1 List.all_takeWhile c hc⟩
  head_next c hc := by
    have hhead := List.head?_dropWhile_not inWord body
    rw [hc] at hhead
    exact hhead

/-- With the word at the first sentinel in front of it, a leftmost cutting of the text behind the
word is a leftmost cutting of the whole text. -/
theorem Cutting.IsLeftmost.word_takeWhile {gap body : List Char} {cutting : Cutting}
    (h : cutting.IsLeftmost) (hsource : cutting.source = body.dropWhile inWord)
    (hgap : FreeOfSentinels gap (sentinel ++ body)) (hbody : body.takeWhile inWord ≠ []) :
    (Cutting.word gap (sentinel ++ body.takeWhile inWord) cutting).IsLeftmost := by
  refine .word ?_ ?_ h
  · rw [hsource, List.append_assoc, List.takeWhile_append_dropWhile]
    exact hgap.freeOfWords
  · rw [hsource]
    exact isMarkedWord_takeWhile hbody

/-- A sentinel with the word characters behind it is put together with the rest of the text. -/
theorem Cutting.source_word_takeWhile {gap body : List Char} {cutting : Cutting}
    (hsource : cutting.source = body.dropWhile inWord) :
    (Cutting.word gap (sentinel ++ body.takeWhile inWord) cutting).source =
      gap ++ (sentinel ++ body) := by
  rw [source, hsource, List.append_assoc sentinel, List.takeWhile_append_dropWhile]

/-! ### Passes -/

section

variable [Allocator]

/-- A word is shown as its symbol is. -/
theorem shownWord?_eq_some_iff {word : List Char} {shown : String} :
    shownWord? word = some shown ↔ demangle (String.ofList word) = .ok shown := by
  rw [shownWord?]
  cases demangle (String.ofList word) <;> simp [Except.toOption]

/-- A word is replaced if it decodes, and kept otherwise. -/
theorem Cutting.readable_word (between marked : List Char) (rest : Cutting) :
    (word between marked rest).readable =
      between ++ ((shownWord? marked).elim marked String.toList ++ rest.readable) := by
  rw [readable, shownWord?]
  cases demangle (String.ofList marked) <;> rfl

/-- Does any word of the cutting decode? -/
def Cutting.decodes (cutting : Cutting) : Bool :=
  cutting.words.any fun word => (shownWord? word).isSome

/-- Something is replaced if one of the words decodes. -/
theorem Cutting.decodes_iff {cutting : Cutting} :
    cutting.decodes = true ↔
      ∃ word ∈ cutting.words, ∃ shown, demangle (String.ofList word) = .ok shown := by
  simp only [decodes, List.any_eq_true, Option.isSome_iff_exists, shownWord?_eq_some_iff]

/-- Where no word decodes, the pieces make the text that they were cut from. -/
theorem Cutting.readable_of_not_decodes {cutting : Cutting} (h : cutting.decodes = false) :
    cutting.readable = cutting.source := by
  induction cutting with
  | last tail => rfl
  | word between marked rest ih =>
      simp only [decodes, words, List.any_cons, Bool.or_eq_false_iff] at h
      obtain ⟨hmarked, hrest⟩ := h
      have hnone : shownWord? marked = none := by simpa using hmarked
      rw [readable_word, hnone, ih hrest]
      rfl

/-- What a pass makes of a text whose unread part is cut in this way: nothing until a word decodes,
then what it has made so far, what is pending, and what the pieces make. -/
def Cutting.outcome (cutting : Cutting) (pass : Pass) (pending : List Char) : Option (List Char) :=
  if pass.readable.isSome || cutting.decodes then
    some (pass.readable.getD [] ++ (pending ++ cutting.readable))
  else none

/-- What the leftmost cutting of the unread text says is what the pass does. -/
structure Pass.Follows (text pending unread : List Char) (pass : Pass) (cutting : Cutting) :
    Prop where
  isLeftmost : cutting.IsLeftmost
  source_eq : cutting.source = unread
  outcome_eq : (pass.run? text).bind (·.result? text) = some (cutting.outcome pass pending)

section

variable {text pending gap body : List Char} {pass next : Pass} {cutting : Cutting}

/-- At a text without sentinels there is only the last piece. -/
theorem Pass.At.follows_last {front unread : List Char} (h : pass.At text front pending unread)
    (hfree : FreeOfSentinels unread []) (hrun : pass.run? text = some pass) :
    pass.Follows text pending unread (.last unread) where
  isLeftmost := .last hfree.freeOfWords
  source_eq := rfl
  outcome_eq := by
    rw [hrun, Option.bind_some, h.result?_eq]
    cases hreadable : pass.readable <;>
      simp [Cutting.outcome, Cutting.decodes, Cutting.words, Cutting.readable, hreadable]

/-- A sentinel that marks no word is text between words. -/
theorem Pass.Follows.bare (hgap : FreeOfSentinels gap (sentinel ++ body))
    (hbody : body.takeWhile inWord = []) (hrun : pass.run? text = next.run? text)
    (hreadable : next.readable = pass.readable)
    (h : next.Follows text (pending ++ (gap ++ sentinel)) body cutting) :
    pass.Follows text pending (gap ++ (sentinel ++ body)) (cutting.prepend (gap ++ sentinel)) where
  isLeftmost := by
    refine h.isLeftmost.prepend ?_
    rw [h.source_eq]
    exact hgap.freeOfWords.append (freeOfWords_sentinel hbody)
  source_eq := by rw [Cutting.source_prepend, h.source_eq, List.append_assoc]
  outcome_eq := by
    rw [hrun, h.outcome_eq]
    simp only [Cutting.outcome, Cutting.decodes, Cutting.words_prepend, Cutting.readable_prepend,
      hreadable, List.append_assoc]

/-- A word that does not decode stands for itself. -/
theorem Pass.Follows.keep (hgap : FreeOfSentinels gap (sentinel ++ body))
    (hbody : body.takeWhile inWord ≠ [])
    (hword : shownWord? (sentinel ++ body.takeWhile inWord) = none)
    (hrun : pass.run? text = next.run? text) (hreadable : next.readable = pass.readable)
    (h : next.Follows text (pending ++ (gap ++ (sentinel ++ body.takeWhile inWord)))
      (body.dropWhile inWord) cutting) :
    pass.Follows text pending (gap ++ (sentinel ++ body))
      (.word gap (sentinel ++ body.takeWhile inWord) cutting) where
  isLeftmost := h.isLeftmost.word_takeWhile h.source_eq hgap hbody
  source_eq := Cutting.source_word_takeWhile h.source_eq
  outcome_eq := by
    rw [hrun, h.outcome_eq]
    simp only [Cutting.outcome, Cutting.decodes, Cutting.words, List.any_cons, hword,
      Option.isSome_none, Bool.false_or, Cutting.readable_word, Option.elim_none, hreadable,
      List.append_assoc]

/-- In the place of a word that decodes stands its shown form. -/
theorem Pass.Follows.replace {shown : String} (hgap : FreeOfSentinels gap (sentinel ++ body))
    (hbody : body.takeWhile inWord ≠ [])
    (hword : shownWord? (sentinel ++ body.takeWhile inWord) = some shown)
    (hrun : pass.run? text = next.run? text)
    (hreadable : next.readable = some (pass.readable.getD [] ++ (pending ++ gap) ++ shown.toList))
    (h : next.Follows text [] (body.dropWhile inWord) cutting) :
    pass.Follows text pending (gap ++ (sentinel ++ body))
      (.word gap (sentinel ++ body.takeWhile inWord) cutting) where
  isLeftmost := h.isLeftmost.word_takeWhile h.source_eq hgap hbody
  source_eq := Cutting.source_word_takeWhile h.source_eq
  outcome_eq := by
    rw [hrun, h.outcome_eq]
    simp only [Cutting.outcome, Cutting.decodes, Cutting.words, List.any_cons, hword,
      Option.isSome_some, Bool.true_or, Bool.or_true, if_true, Cutting.readable_word,
      Option.elim_some, hreadable, Option.getD_some, List.nil_append, List.append_assoc]

end

/-- From any state on, a pass does what a leftmost cutting of the unread text says. -/
theorem Pass.At.exists_cutting {text front pending unread : List Char} {pass : Pass}
    (h : pass.At text front pending unread) :
    ∃ cutting, pass.Follows text pending unread cutting := by
  refine At.induction (motive := fun _ pending unread pass =>
    ∃ cutting, pass.Follows text pending unread cutting) ?done ?keep ?replace h
  case done =>
    intro front pending unread pass hat hfree hrun
    exact ⟨_, hat.follows_last hfree hrun⟩
  case keep =>
    rintro front pending gap body pass next hgap hword hrun hreadable ⟨cutting, hfollows⟩
    by_cases hbody : body.takeWhile inWord = []
    · have hrest := List.takeWhile_append_dropWhile (p := inWord) (l := body)
      rw [hbody, List.nil_append] at hrest
      rw [hbody, List.append_nil, hrest] at hfollows
      exact ⟨_, hfollows.bare hgap hbody hrun hreadable⟩
    · exact ⟨_, hfollows.keep hgap hbody hword hrun hreadable⟩
  case replace =>
    rintro front pending gap body pass next shown hgap hword hrun hreadable ⟨cutting, hfollows⟩
    exact ⟨_, hfollows.replace hgap (ne_nil_of_shownWord? hword) hword hrun hreadable⟩

/-! ### Readable texts -/

/-- What a pass does to a text is what a cutting of it says. -/
theorem demangleWords_eq_outcome {text : String} {cutting : Cutting}
    (h : Pass.start.Follows text.toList [] text.toList cutting) :
    demangleWords text = ⟨String.ofList cutting.readable, cutting.decodes⟩ := by
  have hrewrite : rewrite? text.toList = some (cutting.outcome Pass.start []) := h.outcome_eq
  simp only [demangleWords, hrewrite, Option.get_some]
  rcases hdecodes : cutting.decodes with _ | _
  · rw [cutting.readable_of_not_decodes hdecodes, h.source_eq, String.ofList_toList]
    simp [Cutting.outcome, hdecodes, Pass.start]
  · simp [Cutting.outcome, hdecodes, Pass.start]

/-- **Words are replaced where they stand.** A text can be cut in just one way at its leftmost
marked words, each with all its word characters. The readable text is the text between them as it
stands with, in the place of each word, its shown form or, if it does not decode, the word itself.
It is reported as changed exactly if a word decodes. -/
theorem demangleWords_eq_replacement (text : String) :
    ∃ cutting : Cutting, (cutting.IsLeftmost ∧ cutting.source = text.toList) ∧
      (∀ other : Cutting, other.IsLeftmost → other.source = text.toList → other = cutting) ∧
      (demangleWords text).text = String.ofList cutting.readable ∧
      ((demangleWords text).anyDecoded = true ↔
        ∃ word ∈ cutting.words, ∃ shown, demangle (String.ofList word) = .ok shown) := by
  obtain ⟨cutting, hfollows⟩ := (Pass.start_at text.toList).exists_cutting
  refine ⟨cutting, ⟨hfollows.isLeftmost, hfollows.source_eq⟩, ?_, ?_, ?_⟩
  · intro other hother hsource
    exact hother.eq_of_source_eq hfollows.isLeftmost (hsource.trans hfollows.source_eq.symm)
  · rw [demangleWords_eq_outcome hfollows]
  · rw [demangleWords_eq_outcome hfollows]
    exact Cutting.decodes_iff

end

attribute [local instance] Allocator.unlimited in
/-- A word that does not decode hides one that would. -/
example : demangleWords "_W: _WC_WTsb" = ⟨"_W: _WC_WTsb", false⟩ := by
  decide +kernel

end SymbolTrace.RunningText
