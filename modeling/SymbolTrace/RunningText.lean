import SymbolTrace.Mangling.Decode
import SymbolTrace.Text.Bytes

/-!
# Symbols inside running text

Logs and crash dumps carry symbols in the middle of other text. A marked word is the sentinel and
all the word characters that follow it, at least one of them. `demangleWords` puts the shown form
in place of each marked word that decodes and leaves everything else as it stands.

A `Pass` goes through the text once, from left to right, and holds two byte positions: what lies in
front of `copied` is in the readable text already, and what lies in front of `searched` is not
looked at again. The readable text is begun when the first word decodes. Parts of the text are
taken out by their byte positions, which is refused inside a character. That never happens, because
the positions of a pass always cut the text between characters (`Pass.At`).

* `Pass.take?`, `Pass.run?`: what becomes of one sentinel, and of all of them.
* `Pass.take?_keep`, `Pass.take?_replace`: what one sentinel does to the parts of the text.
* `isSome_rewrite?`: no part is ever refused.
-/

namespace SymbolTrace.RunningText

open Mangling Text

/-! ### Words -/

/-- Letters, digits and the underscore, in ASCII only. -/
def inWord (c : Char) : Bool :=
  c.isAlphanum || c == '_'

/-- Word characters have one byte each. -/
theorem utf8Size_eq_one {c : Char} (h : inWord c = true) : c.utf8Size = 1 := by
  have hcode : c.val ≤ 127 := by
    delta inWord Char.isAlphanum Char.isAlpha Char.isUpper Char.isLower Char.isDigit at h
    simp only [Bool.or_eq_true, Bool.and_eq_true, decide_eq_true_eq, beq_iff_eq] at h
    rcases h with ((⟨-, h⟩ | ⟨-, h⟩) | ⟨-, h⟩) | rfl
    · exact UInt32.le_trans h (by decide)
    · exact UInt32.le_trans h (by decide)
    · exact UInt32.le_trans h (by decide)
    · decide
  simp [Char.utf8Size, hcode]

/-- So in a run of them bytes and characters are as many. -/
theorem byteCount_takeWhile_inWord (text : List Char) :
    byteCount (text.takeWhile inWord) = (text.takeWhile inWord).length := by
  induction text with
  | nil => rfl
  | cons c rest ih =>
      rw [List.takeWhile_cons]
      split
      · rename_i hc
        rw [byteCount, utf8Size_eq_one hc, ih, List.length_cons, Nat.add_comm]
      · rfl

/-! ### Sentinels -/

/-- The number of bytes in front of the first sentinel of a text. -/
def findSentinel? : List Char → Option Nat
  | [] => none
  | c :: rest =>
      if (afterSentinel? (c :: rest)).isSome then some 0
      else (findSentinel? rest).map (c.utf8Size + ·)

/-- No sentinel begins inside the first text when the second is behind it. -/
def FreeOfSentinels (between next : List Char) : Prop :=
  ∀ front back, between = front ++ back → back ≠ [] → afterSentinel? (back ++ next) = none

/-- In no text there is no sentinel. -/
theorem FreeOfSentinels.nil (next : List Char) : FreeOfSentinels [] next := by
  intro front back hsplit hback
  exact absurd (List.append_eq_nil_iff.1 hsplit.symm).2 hback

/-- A text is free of sentinels if none starts at its first character and none behind it. -/
theorem FreeOfSentinels.cons {c : Char} {between next : List Char}
    (hfirst : ¬ (afterSentinel? (c :: (between ++ next))).isSome) (h : FreeOfSentinels between next) :
    FreeOfSentinels (c :: between) next := by
  intro front back hsplit hback
  cases front with
  | nil =>
      obtain rfl : c :: between = back := hsplit
      exact Option.not_isSome_iff_eq_none.1 hfirst
  | cons d front => exact h front back (List.cons.inj hsplit).2 hback

/-- The sentinel that is found is the first one. -/
theorem exists_of_findSentinel? {text : List Char} {distance : Nat}
    (h : findSentinel? text = some distance) :
    ∃ gap body, text = gap ++ (sentinel ++ body) ∧ byteCount gap = distance ∧
      FreeOfSentinels gap (sentinel ++ body) := by
  induction text generalizing distance with
  | nil => cases h
  | cons c rest ih =>
      rw [findSentinel?] at h
      split at h
      · rename_i hfirst
        cases h
        obtain ⟨body, hbody⟩ := Option.isSome_iff_exists.1 hfirst
        exact ⟨[], body, afterSentinel?_eq_some_iff.1 hbody, rfl, .nil _⟩
      · rename_i hfirst
        obtain ⟨distance', h', rfl⟩ := Option.map_eq_some_iff.1 h
        obtain ⟨gap, body, rfl, rfl, hgap⟩ := ih h'
        exact ⟨c :: gap, body, rfl, rfl, hgap.cons hfirst⟩

/-- Where none is found there is none. -/
theorem freeOfSentinels_of_findSentinel? {text : List Char} (h : findSentinel? text = none) :
    FreeOfSentinels text [] := by
  induction text with
  | nil => exact .nil _
  | cons c rest ih =>
      rw [findSentinel?] at h
      split at h
      · cases h
      · rename_i hfirst
        exact (ih (Option.map_eq_none_iff.1 h)).cons (by rwa [List.append_nil])

/-! ### Positions -/

/-- How far a text has been made readable. -/
structure Pass where
  /-- The readable text so far, once a word has decoded. -/
  readable : Option (List Char)
  /-- The bytes of the text that the readable text stands for. -/
  copied : Nat
  /-- The bytes of the text in which no further word is looked for. -/
  searched : Nat

namespace Pass

/-- Nothing has been read. -/
def start : Pass := ⟨none, 0, 0⟩

/-- The readable text with what is not copied yet behind it; nothing if no word has decoded. -/
def result? (text : List Char) (pass : Pass) : Option (Option (List Char)) :=
  match pass.readable with
  | none => some none
  | some readable => do
      let uncopied ← suffixAt? pass.copied text
      return some (readable ++ uncopied)

/-- The text cut at the positions of a pass: what the readable text stands for, what was searched
after that, and what is unread. -/
structure At (text front pending unread : List Char) (pass : Pass) : Prop where
  text_eq : text = front ++ (pending ++ unread)
  copied_eq : pass.copied = byteCount front
  searched_eq : pass.searched = byteCount (front ++ pending)

/-- At the start nothing is copied and everything is unread. -/
theorem start_at (text : List Char) : start.At text [] [] text :=
  ⟨rfl, rfl, rfl⟩

section

variable {text front pending unread gap body : List Char} {pass : Pass}

/-- What is in front of the search position is the unread text. -/
theorem At.suffixAt?_searched (h : pass.At text front pending unread) :
    suffixAt? pass.searched text = some unread := by
  rw [h.searched_eq, h.text_eq, ← List.append_assoc, suffixAt?_byteCount]

/-- At its end a pass copies what is pending and what is unread, if it has replaced anything. -/
theorem At.result?_eq (h : pass.At text front pending unread) :
    pass.result? text = some (pass.readable.map (· ++ (pending ++ unread))) := by
  rw [result?, h.copied_eq, h.text_eq, suffixAt?_byteCount]
  cases pass.readable <;> rfl

/-- What stands behind the sentinel can be looked at. -/
theorem At.suffixAt?_body (h : pass.At text front pending (gap ++ (sentinel ++ body))) :
    suffixAt? (pass.searched + byteCount gap + byteCount sentinel) text = some body := by
  have htext : text = (front ++ pending ++ gap ++ sentinel) ++ body := by
    simp only [h.text_eq, List.append_assoc]
  rw [h.searched_eq, ← byteCount_append, ← byteCount_append, htext, suffixAt?_byteCount]

/-- A word ends as many bytes behind its sentinel as there are word characters. -/
theorem At.wordEnd_eq (h : pass.At text front pending (gap ++ (sentinel ++ body))) :
    pass.searched + byteCount gap + byteCount sentinel + (body.takeWhile inWord).length =
      byteCount (front ++ (pending ++ (gap ++ (sentinel ++ body.takeWhile inWord)))) := by
  rw [h.searched_eq, ← byteCount_takeWhile_inWord]
  simp only [byteCount_append, Nat.add_assoc]

/-- A word can be taken out of the text. -/
theorem At.slice?_word (h : pass.At text front pending (gap ++ (sentinel ++ body))) :
    slice? (pass.searched + byteCount gap)
      (pass.searched + byteCount gap + byteCount sentinel + (body.takeWhile inWord).length) text =
        some (sentinel ++ body.takeWhile inWord) := by
  have htext : text = (front ++ pending ++ gap) ++
      ((sentinel ++ body.takeWhile inWord) ++ body.dropWhile inWord) := by
    simp only [h.text_eq, List.append_assoc, List.takeWhile_append_dropWhile]
  have hend : front ++ (pending ++ (gap ++ (sentinel ++ body.takeWhile inWord))) =
      (front ++ pending ++ gap) ++ (sentinel ++ body.takeWhile inWord) := by
    simp only [List.append_assoc]
  rw [h.wordEnd_eq, h.searched_eq, ← byteCount_append, hend, htext, slice?_byteCount]

/-- The text between the last word that decoded and the next one can be taken out as well. -/
theorem At.slice?_between (h : pass.At text front pending (gap ++ (sentinel ++ body))) :
    slice? pass.copied (pass.searched + byteCount gap) text = some (pending ++ gap) := by
  have htext : text = front ++ ((pending ++ gap) ++ (sentinel ++ body)) := by
    simp only [h.text_eq, List.append_assoc]
  rw [h.searched_eq, h.copied_eq, ← byteCount_append, List.append_assoc, htext, slice?_byteCount]

end

end Pass

/-! ### Passes -/

variable [Allocator]

/-- The shown form of the symbol that a word is, if it decodes. -/
def shownWord? (word : List Char) : Option String :=
  (demangle (String.ofList word)).toOption

/-- A sentinel alone is no symbol. -/
theorem ne_nil_of_shownWord? {body : List Char} {shown : String}
    (h : shownWord? (sentinel ++ body) = some shown) : body ≠ [] := by
  rintro rfl
  cases h

namespace Pass

/-- The word between two positions has decoded: the text in front of it is copied, and its shown
form comes after that. -/
def replace? (text : List Char) (pass : Pass) (wordStart wordEnd : Nat) (shown : String) :
    Option Pass := do
  let between ← slice? pass.copied wordStart text
  return ⟨some (pass.readable.getD [] ++ between ++ shown.toList), wordEnd, wordEnd⟩

/-- The pass after the sentinel at a position, and after the word that it marks, if it marks one.
A word takes in all word characters, so it takes in any further sentinel among them. -/
def take? (text : List Char) (pass : Pass) (wordStart : Nat) : Option Pass := do
  let bodyStart := wordStart + byteCount sentinel
  let body ← suffixAt? bodyStart text
  let size := (body.takeWhile inWord).length
  if size = 0 then some { pass with searched := bodyStart }
  else do
    let wordEnd := bodyStart + size
    let word ← slice? wordStart wordEnd text
    match shownWord? word with
    | some shown => pass.replace? text wordStart wordEnd shown
    | none => some { pass with searched := wordEnd }

/-- Every sentinel takes a pass further. -/
theorem lt_searched_of_take? {text : List Char} {pass next : Pass} {wordStart : Nat}
    (h : pass.take? text wordStart = some next) : wordStart < next.searched := by
  obtain ⟨body, -, h⟩ := Option.bind_eq_some_iff.1 h
  by_cases hsize : (body.takeWhile inWord).length = 0
  · rw [if_pos hsize] at h
    cases h
    exact Nat.lt_add_of_pos_right (by decide)
  · rw [if_neg hsize] at h
    obtain ⟨word, -, h⟩ := Option.bind_eq_some_iff.1 h
    have hend : wordStart < wordStart + byteCount sentinel + (body.takeWhile inWord).length := by
      omega
    split at h
    · obtain ⟨between, -, h⟩ := Option.bind_eq_some_iff.1 h
      cases h
      exact hend
    · cases h
      exact hend

/-- The pass after the next sentinel, if there is one. -/
def next? (text : List Char) (pass : Pass) : Option (Option Pass) := do
  let unread ← suffixAt? pass.searched text
  match findSentinel? unread with
  | none => some none
  | some distance => (pass.take? text (pass.searched + distance)).map some

/-- After every sentinel less of the text is left to search. -/
theorem unsearched_lt {text : List Char} {pass next : Pass}
    (h : pass.next? text = some (some next)) :
    byteCount text - next.searched < byteCount text - pass.searched := by
  obtain ⟨unread, hunread, h⟩ := Option.bind_eq_some_iff.1 h
  obtain ⟨front, rfl, hfront⟩ := suffixAt?_eq_some_iff.1 hunread
  split at h
  · cases h
  · rename_i distance hfind
    obtain ⟨gap, body, rfl, rfl, -⟩ := exists_of_findSentinel? hfind
    obtain ⟨next, htake, hnext⟩ := Option.map_eq_some_iff.1 h
    cases hnext
    have hsearched := lt_searched_of_take? htake
    have hsentinel : byteCount sentinel = 2 := rfl
    simp only [byteCount_append, hsentinel]
    omega

/-- The pass after all sentinels. -/
def run? (text : List Char) (pass : Pass) : Option Pass :=
  match _ : pass.next? text with
  | none => none
  | some none => some pass
  | some (some next) => run? text next
termination_by byteCount text - pass.searched
decreasing_by exact unsearched_lt (by assumption)

/-- A pass without a next sentinel is the last one. -/
theorem run?_of_next?_none {text : List Char} {pass : Pass} (h : pass.next? text = some none) :
    pass.run? text = some pass := by
  rw [run?]
  split <;> simp_all

/-- A run may start one sentinel later. -/
theorem run?_of_next?_some {text : List Char} {pass next : Pass}
    (h : pass.next? text = some (some next)) : pass.run? text = next.run? text := by
  rw [run?]
  split <;> simp_all

section

variable {text front pending unread gap body : List Char} {pass : Pass}

/-- A sentinel whose word does not decode, or that marks no word, is passed over with its word. -/
theorem At.take?_keep (h : pass.At text front pending (gap ++ (sentinel ++ body)))
    (hword : shownWord? (sentinel ++ body.takeWhile inWord) = none) :
    ∃ next, pass.take? text (pass.searched + byteCount gap) = some next ∧
      next.readable = pass.readable ∧
      next.At text front (pending ++ (gap ++ (sentinel ++ body.takeWhile inWord)))
        (body.dropWhile inWord) := by
  refine ⟨{ pass with searched := pass.searched + byteCount gap + byteCount sentinel +
    (body.takeWhile inWord).length }, ?_, rfl, ?_, h.copied_eq, h.wordEnd_eq⟩
  · simp only [take?, Option.bind_eq_bind, h.suffixAt?_body, Option.bind_some, h.slice?_word, hword]
    split
    · rename_i hsize
      rw [hsize, Nat.add_zero]
    · rfl
  · simp only [h.text_eq, List.append_assoc, List.takeWhile_append_dropWhile]

/-- A word that decodes is replaced, and all in front of it is copied. -/
theorem At.take?_replace (h : pass.At text front pending (gap ++ (sentinel ++ body)))
    {shown : String} (hword : shownWord? (sentinel ++ body.takeWhile inWord) = some shown) :
    ∃ next, pass.take? text (pass.searched + byteCount gap) = some next ∧
      next.readable = some (pass.readable.getD [] ++ (pending ++ gap) ++ shown.toList) ∧
      next.At text (front ++ (pending ++ (gap ++ (sentinel ++ body.takeWhile inWord)))) []
        (body.dropWhile inWord) := by
  have hsize : (body.takeWhile inWord).length ≠ 0 :=
    mt List.length_eq_zero_iff.1 (ne_nil_of_shownWord? hword)
  let wordEnd := pass.searched + byteCount gap + byteCount sentinel + (body.takeWhile inWord).length
  refine ⟨⟨some (pass.readable.getD [] ++ (pending ++ gap) ++ shown.toList), wordEnd, wordEnd⟩,
    ?_, rfl, ?_, h.wordEnd_eq, ?_⟩
  · simp only [take?, Option.bind_eq_bind, h.suffixAt?_body, Option.bind_some, h.slice?_word, hword,
      if_neg hsize, replace?, h.slice?_between]
    rfl
  · simp only [h.text_eq, List.append_assoc, List.takeWhile_append_dropWhile, List.nil_append]
  · rw [List.append_nil]
    exact h.wordEnd_eq

/-- Without a sentinel in the unread text the pass is at its end. -/
theorem At.next?_of_none (h : pass.At text front pending unread)
    (hfind : findSentinel? unread = none) : pass.next? text = some none := by
  simp only [next?, h.suffixAt?_searched, hfind, Option.bind_eq_bind, Option.bind_some]

/-- The next sentinel is the first one of the unread text. -/
theorem At.next?_of_take? {next : Pass} (h : pass.At text front pending unread)
    (hfind : findSentinel? unread = some (byteCount gap))
    (htake : pass.take? text (pass.searched + byteCount gap) = some next) :
    pass.next? text = some (some next) := by
  simp only [next?, h.suffixAt?_searched, hfind, htake, Option.bind_eq_bind, Option.bind_some,
    Option.map_some]

end

/-- A pass goes on after each sentinel. It ends at a text without sentinels, and what becomes of it
is told by what one sentinel does to the parts of the text. -/
theorem At.induction {text : List Char} {motive : List Char → List Char → List Char → Pass → Prop}
    (done : ∀ {front pending unread pass}, pass.At text front pending unread →
      FreeOfSentinels unread [] → pass.run? text = some pass → motive front pending unread pass)
    (keep : ∀ {front pending gap body pass next},
      FreeOfSentinels gap (sentinel ++ body) →
      shownWord? (sentinel ++ body.takeWhile inWord) = none →
      pass.run? text = next.run? text → next.readable = pass.readable →
      motive front (pending ++ (gap ++ (sentinel ++ body.takeWhile inWord)))
        (body.dropWhile inWord) next →
      motive front pending (gap ++ (sentinel ++ body)) pass)
    (replace : ∀ {front pending gap body pass next shown},
      FreeOfSentinels gap (sentinel ++ body) →
      shownWord? (sentinel ++ body.takeWhile inWord) = some shown →
      pass.run? text = next.run? text →
      next.readable = some (pass.readable.getD [] ++ (pending ++ gap) ++ shown.toList) →
      motive (front ++ (pending ++ (gap ++ (sentinel ++ body.takeWhile inWord)))) []
        (body.dropWhile inWord) next →
      motive front pending (gap ++ (sentinel ++ body)) pass)
    {front pending unread : List Char} {pass : Pass} (h : pass.At text front pending unread) :
    motive front pending unread pass := by
  induction hlength : unread.length using Nat.strongRecOn generalizing front pending unread pass with
  | _ length ih =>
    subst hlength
    rcases hfind : findSentinel? unread with _ | distance
    · exact done h (freeOfSentinels_of_findSentinel? hfind)
        (run?_of_next?_none (h.next?_of_none hfind))
    · obtain ⟨gap, body, rfl, rfl, hgap⟩ := exists_of_findSentinel? hfind
      have hshorter : (body.dropWhile inWord).length < (gap ++ (sentinel ++ body)).length := by
        have := (List.dropWhile_suffix inWord (l := body)).length_le
        simp only [List.length_append, sentinel, List.length_cons]
        omega
      have hrun : ∀ {next : Pass}, pass.take? text (pass.searched + byteCount gap) = some next →
          pass.run? text = next.run? text :=
        fun htake => run?_of_next?_some (h.next?_of_take? hfind htake)
      rcases hword : shownWord? (sentinel ++ body.takeWhile inWord) with _ | shown
      · obtain ⟨next, htake, hreadable, hat⟩ := h.take?_keep hword
        exact keep hgap hword (hrun htake) hreadable (ih _ hshorter hat rfl)
      · obtain ⟨next, htake, hreadable, hat⟩ := h.take?_replace hword
        exact replace hgap hword (hrun htake) hreadable (ih _ hshorter hat rfl)

/-- A pass whose positions cut the text between characters comes to an end, and its result is not
refused. -/
theorem At.isSome_result? {text front pending unread : List Char} {pass : Pass}
    (h : pass.At text front pending unread) :
    ((pass.run? text).bind (·.result? text)).isSome = true := by
  refine At.induction (motive := fun _ _ _ pass =>
    ((pass.run? text).bind (·.result? text)).isSome = true) ?done ?keep ?replace h
  case done =>
    intro front pending unread pass hat _ hrun
    rw [hrun, Option.bind_some, hat.result?_eq, Option.isSome_some]
  case keep =>
    intro front pending gap body pass next _ _ hrun _ ih
    rw [hrun, ih]
  case replace =>
    intro front pending gap body pass next shown _ _ hrun _ ih
    rw [hrun, ih]

end Pass

/-! ### Readable texts -/

/-- A text with every marked word that decodes replaced; nothing if none does. -/
def rewrite? (text : List Char) : Option (Option (List Char)) :=
  (Pass.start.run? text).bind (·.result? text)

/-- No part of the text is refused on the way. -/
theorem isSome_rewrite? (text : List Char) : (rewrite? text).isSome = true :=
  (Pass.start_at text).isSome_result?

/-- A text made readable, and whether any word of it decoded. -/
structure DemangledText where
  text : String
  anyDecoded : Bool
deriving DecidableEq, Repr

/-- Every marked word that decodes replaced by its shown form. A text without such words is given
back as it is. -/
def demangleWords (text : String) : DemangledText :=
  match (rewrite? text.toList).get (isSome_rewrite? text.toList) with
  | some readable => ⟨String.ofList readable, true⟩
  | none => ⟨text, false⟩

end SymbolTrace.RunningText
