import Mathlib.Logic.Relation
import SymbolTrace.Proofs.Mangling.CursorRun
import SymbolTrace.Proofs.Mangling.CursorSafety
import SymbolTrace.RunningText

/-!
# No part of a text is refused

Reading symbols and making text readable take parts of a text by byte positions, in the middle of
a crash, where a position inside a character or past the end could not be reported any more.
There is no such position, whatever the text is. For symbols this is known of every state that the
decoder passes through; here it is shown of every pass over a running text. The positions of a pass
cut the text between characters (`Pass.At`), and each sentinel leads to positions that do so again.

## Main results

* `Pass.At.next?_cases`: what one sentinel leads to.
* `Pass.exists_at_of_reaches`: what any number of sentinels lead to.
* `never_refused`: symbols and running text together.
-/

namespace SymbolTrace.RunningText

open Mangling Text

namespace Pass

/-- The positions between which the next sentinel stands, with the word characters behind it. -/
def Finds (text : List Char) (pass : Pass) (wordStart wordEnd : Nat) : Prop :=
  ∃ unread distance body, suffixAt? pass.searched text = some unread ∧
    findSentinel? unread = some distance ∧ wordStart = pass.searched + distance ∧
    suffixAt? (wordStart + byteCount sentinel) text = some body ∧
    wordEnd = wordStart + byteCount sentinel + (body.takeWhile inWord).length

variable {text front pending unread gap body : List Char} {pass next : Pass}

/-- The positions of the next word, told by the parts of the text. -/
theorem At.exists_of_finds (h : pass.At text front pending unread) {wordStart wordEnd : Nat}
    (hfinds : pass.Finds text wordStart wordEnd) :
    ∃ gap body, unread = gap ++ (sentinel ++ body) ∧
      wordStart = byteCount (front ++ (pending ++ gap)) ∧
      wordEnd =
        byteCount (front ++ (pending ++ (gap ++ (sentinel ++ body.takeWhile inWord)))) := by
  obtain ⟨unread', distance, body, hunread, hfind, rfl, hbody, rfl⟩ := hfinds
  obtain rfl : unread = unread' := Option.some.inj (h.suffixAt?_searched.symm.trans hunread)
  obtain ⟨gap, body', rfl, rfl, -⟩ := exists_of_findSentinel? hfind
  obtain rfl : body' = body := Option.some.inj (h.suffixAt?_body.symm.trans hbody)
  refine ⟨gap, body', rfl, ?_, h.wordEnd_eq⟩
  rw [h.searched_eq, ← byteCount_append, List.append_assoc]

/-- A word stands behind what is copied and ends inside the text. -/
theorem At.ordered (h : pass.At text front pending unread) {wordStart wordEnd : Nat}
    (hfinds : pass.Finds text wordStart wordEnd) :
    pass.copied ≤ wordStart ∧ wordStart < wordEnd ∧ wordEnd ≤ byteCount text := by
  obtain ⟨gap, body, rfl, rfl, rfl⟩ := h.exists_of_finds hfinds
  have hsize := congrArg byteCount (List.takeWhile_append_dropWhile (p := inWord) (l := body))
  have hsentinel : byteCount sentinel = 2 := rfl
  simp only [h.text_eq, h.copied_eq, byteCount_append, hsentinel] at hsize ⊢
  omega

/-- A word stands between characters. -/
theorem At.boundaries (h : pass.At text front pending unread) {wordStart wordEnd : Nat}
    (hfinds : pass.Finds text wordStart wordEnd) :
    (suffixAt? pass.copied text).isSome = true ∧ (suffixAt? wordStart text).isSome = true ∧
      (suffixAt? wordEnd text).isSome = true := by
  obtain ⟨gap, body, rfl, rfl, rfl⟩ := h.exists_of_finds hfinds
  have hword : text = front ++ (pending ++ gap) ++ (sentinel ++ body) := by
    simp only [h.text_eq, List.append_assoc]
  have hbehind : text = front ++ (pending ++ (gap ++ (sentinel ++ body.takeWhile inWord))) ++
      body.dropWhile inWord := by
    simp only [h.text_eq, List.append_assoc, List.takeWhile_append_dropWhile]
  refine ⟨?_, ?_, ?_⟩
  · rw [h.copied_eq, h.text_eq, suffixAt?_byteCount, Option.isSome_some]
  · rw [hword, suffixAt?_byteCount, Option.isSome_some]
  · rw [hbehind, suffixAt?_byteCount, Option.isSome_some]

end Pass

variable [Allocator]

namespace Pass

/-- The second pass comes after the first at any number of sentinels. -/
def Reaches (text : List Char) : Pass → Pass → Prop :=
  Relation.ReflTransGen fun pass next => pass.next? text = some (some next)

/-- Nothing that is done at the next sentinel, or at the end, is refused by the text. -/
structure Safe (text : List Char) (pass : Pass) : Prop where
  isSome_next? : (pass.next? text).isSome = true
  isSome_result? : (pass.result? text).isSome = true
  finds : ∀ next, pass.next? text = some (some next) →
    ∃ wordStart, pass.Finds text wordStart next.searched
  ordered : ∀ wordStart wordEnd, pass.Finds text wordStart wordEnd →
    pass.copied ≤ wordStart ∧ wordStart < wordEnd ∧ wordEnd ≤ byteCount text
  boundaries : ∀ wordStart wordEnd, pass.Finds text wordStart wordEnd →
    (suffixAt? pass.copied text).isSome = true ∧ (suffixAt? wordStart text).isSome = true ∧
      (suffixAt? wordEnd text).isSome = true

variable {text front pending unread gap body : List Char} {pass next : Pass}

/-! ### One sentinel -/

/-- The word of a sentinel ends where the pass after it goes on. -/
theorem At.exists_take? (h : pass.At text front pending (gap ++ (sentinel ++ body))) :
    ∃ next, pass.take? text (pass.searched + byteCount gap) = some next ∧
      next.searched =
        pass.searched + byteCount gap + byteCount sentinel + (body.takeWhile inWord).length ∧
      ∃ front pending, next.At text front pending (body.dropWhile inWord) := by
  rcases hword : shownWord? (sentinel ++ body.takeWhile inWord) with _ | shown
  · obtain ⟨next, htake, -, hat⟩ := h.take?_keep hword
    exact ⟨next, htake, hat.searched_eq.trans h.wordEnd_eq.symm, _, _, hat⟩
  · obtain ⟨next, htake, -, hat⟩ := h.take?_replace hword
    have hsearched := hat.searched_eq
    rw [List.append_nil] at hsearched
    exact ⟨next, htake, hsearched.trans h.wordEnd_eq.symm, _, _, hat⟩

/-- A pass whose positions cut the text between characters is at its end, or the next sentinel leads
to positions that do so again. -/
theorem At.next?_cases (h : pass.At text front pending unread) :
    (findSentinel? unread = none ∧ pass.next? text = some none) ∨
      ∃ gap body next, unread = gap ++ (sentinel ++ body) ∧
        findSentinel? unread = some (byteCount gap) ∧ pass.next? text = some (some next) ∧
        next.searched =
          pass.searched + byteCount gap + byteCount sentinel + (body.takeWhile inWord).length ∧
        ∃ front pending, next.At text front pending (body.dropWhile inWord) := by
  rcases hfind : findSentinel? unread with _ | distance
  · exact .inl ⟨rfl, h.next?_of_none hfind⟩
  · obtain ⟨gap, body, rfl, rfl, -⟩ := exists_of_findSentinel? hfind
    obtain ⟨next, htake, hsearched, hat⟩ := h.exists_take?
    exact .inr ⟨gap, body, next, rfl, rfl, h.next?_of_take? hfind htake, hsearched, hat⟩

/-- The word of the next sentinel is what a pass goes on behind. -/
theorem At.exists_finds (h : pass.At text front pending unread)
    (hnext : pass.next? text = some (some next)) :
    ∃ wordStart, pass.Finds text wordStart next.searched := by
  rcases h.next?_cases with ⟨-, hend⟩ | ⟨gap, body, next', rfl, hfind, hsome, hsearched, -⟩
  · rw [hend] at hnext
    cases hnext
  · rw [hsome] at hnext
    cases hnext
    exact ⟨_, _, _, body, h.suffixAt?_searched, hfind, rfl, h.suffixAt?_body, hsearched⟩

/-- Looking for the next sentinel is refused nowhere. -/
theorem At.isSome_next? (h : pass.At text front pending unread) :
    (pass.next? text).isSome = true := by
  rcases h.next?_cases with ⟨-, hnext⟩ | ⟨gap, body, next, -, -, hnext, -⟩
  · rw [hnext, Option.isSome_some]
  · rw [hnext, Option.isSome_some]

/-- Nothing is refused where the positions cut the text between characters. -/
theorem At.safe (h : pass.At text front pending unread) : pass.Safe text where
  isSome_next? := h.isSome_next?
  isSome_result? := by rw [h.result?_eq, Option.isSome_some]
  finds := fun _ hnext => h.exists_finds hnext
  ordered := fun _ _ hfinds => h.ordered hfinds
  boundaries := fun _ _ hfinds => h.boundaries hfinds

/-! ### All sentinels -/

/-- The positions of a pass always cut the text between characters. -/
theorem exists_at_of_reaches (hreaches : Reaches text start pass) :
    ∃ front pending unread, pass.At text front pending unread := by
  induction hreaches with
  | refl => exact ⟨[], [], text, start_at text⟩
  | tail _ hnext ih =>
      obtain ⟨front, pending, unread, hat⟩ := ih
      rcases hat.next?_cases with ⟨-, hend⟩ | ⟨gap, body, next, -, -, hsome, -, hat'⟩
      · rw [hend] at hnext
        cases hnext
      · rw [hsome] at hnext
        cases hnext
        obtain ⟨front', pending', hat'⟩ := hat'
        exact ⟨front', pending', _, hat'⟩

/-- A pass comes to its end, and that is the end of its run. -/
theorem At.exists_last (h : pass.At text front pending unread) :
    ∃ last, Reaches text pass last ∧ last.next? text = some none ∧ pass.run? text = some last := by
  induction hleft : byteCount text - pass.searched using Nat.strongRecOn
    generalizing pass front pending unread with
  | _ left ih =>
    subst hleft
    rcases h.next?_cases with ⟨-, hend⟩ | ⟨gap, body, next, -, -, hnext, -, front', pending', hat⟩
    · exact ⟨pass, .refl, hend, run?_of_next?_none hend⟩
    · obtain ⟨last, hreaches, hend, hrun⟩ := ih _ (unsearched_lt hnext) hat rfl
      exact ⟨last, .head hnext hreaches, hend, (run?_of_next?_some hnext).trans hrun⟩

end Pass

/-- The readable text is what the pass comes to. -/
theorem demangleWords_eq {text : String} {readable : Option (List Char)}
    (h : rewrite? text.toList = some readable) :
    demangleWords text = ⟨readable.elim text String.ofList, readable.isSome⟩ := by
  have hget : (rewrite? text.toList).get (isSome_rewrite? text.toList) = readable :=
    Option.get_of_eq_some _ h
  rw [demangleWords, hget]
  cases readable <;> rfl

/-- **Nothing is refused on the way.** This is about every text. Read as a symbol, its decoder comes
to what is reported, and in every state on the way the cursor lies between characters and not past
the end, what it takes out is there, the ends of names are exact and the count of open types is
right. Made readable, it is gone through by passes that come to the readable text, and at every
sentinel the positions of the word are in order, inside the text and between characters. -/
theorem never_refused (text : String) :
    (∀ body, afterSentinel? text.toList = some body →
      Cursor.Ends (some maxNesting) body .start (demangled text) ∧
      ∀ state, Cursor.Reaches (some maxNesting) body .start state →
        Cursor.Safe (some maxNesting) body state) ∧
    (∃ last readable, Pass.Reaches text.toList .start last ∧
      last.next? text.toList = some none ∧ last.result? text.toList = some readable ∧
      demangleWords text = ⟨readable.elim text String.ofList, readable.isSome⟩) ∧
    ∀ pass, Pass.Reaches text.toList .start pass → pass.Safe text.toList := by
  refine ⟨fun body hbody => ⟨?decoded, ?states⟩, ?readable, ?passes⟩
  case decoded =>
    rw [demangled_eq_demangledWithin]
    exact Cursor.ends_demangledWithin (some maxNesting) hbody
  case states =>
    intro state hreaches
    exact (Cursor.sound_of_reaches hreaches).safe
  case readable =>
    obtain ⟨last, hreaches, hend, hrun⟩ := (Pass.start_at text.toList).exists_last
    obtain ⟨front, pending, unread, hat⟩ := Pass.exists_at_of_reaches hreaches
    refine ⟨last, _, hreaches, hend, hat.result?_eq, demangleWords_eq ?_⟩
    rw [rewrite?, hrun, Option.bind_some, hat.result?_eq]
  case passes =>
    intro pass hreaches
    obtain ⟨front, pending, unread, hat⟩ := Pass.exists_at_of_reaches hreaches
    exact hat.safe

end SymbolTrace.RunningText
