import SymbolTrace.Text.RegularExpression.Atom

/-!
# Sets of characters in brackets

A set in brackets has characters, ranges of characters, sets with names or letters and further
sets in brackets as its items. `&&`, `--` and `~~` between items combine what stands on both
sides, from left to right: what is in both, in the first only, in just one.

Behind the bracket a `^` stands for all other characters; dashes, or a closing bracket, stand for
themselves there.

Where bytes are told apart, a set may hold none beyond ASCII, not even one that others are combined
with. So none may stand for all other characters there, and none with a name either.

* `Bracket.read?`: how deep a set is nested, if it is understood.
-/

namespace SymbolTrace.Text.RegularExpression

/-- A bracket whose closing one has not been read. -/
structure Bracket where
  /-- How deep the set in front of the last operator is nested, if there is one. -/
  left : Option Nat
  /-- How many items there are behind the last operator. -/
  count : Nat
  /-- How deep the deepest of these items is nested. -/
  deepest : Nat
deriving DecidableEq, Repr

namespace Bracket

/-- May a set stand for all other characters? Where bytes are told apart, it would hold the ones
beyond ASCII. -/
def canNegate (mode : Mode) : Bool := mode.unicode

/-! ### Items -/

/-- A bracket with so many single characters. -/
def ofCharacters (count : Nat) : Bracket := ⟨none, count, 0⟩

/-- One more item. -/
def add (bracket : Bracket) (depth : Nat) : Bracket :=
  { bracket with count := bracket.count + 1, deepest := max bracket.deepest depth }

/-- How deep the items behind the last operator are nested as one set. Several of them are nested
in it. -/
def union (bracket : Bracket) : Nat :=
  if bracket.count ≤ 1 then bracket.deepest else bracket.deepest + 1

/-- How deep all between the brackets is nested. What an operator combines is nested in it. -/
def depth (bracket : Bracket) : Nat :=
  match bracket.left with
  | none => bracket.union
  | some left => max left bracket.union + 1

/-- An operator after what has been read. -/
def operate (bracket : Bracket) : Bracket := ⟨some bracket.depth, 0, 0⟩

/-- May the atom stand in brackets? -/
def admits (mode : Mode) : Atom → Bool
  | .literal c => mode.namesCharacters && (mode.unicode || c.toNat < 128)
  | .letters => true
  | .edge => false

/-- Are the atoms the ends of a range? -/
def isRange : Atom → Atom → Bool
  | .literal first, .literal last => first ≤ last
  | _, _ => false

/-- A single character or an escape, and the text after it. -/
def readAtom? (mode : Mode) : List Char → Option (Atom × List Char)
  | [] => none
  | '\\' :: rest => Atom.readEscape? mode rest
  | c :: rest => some (.literal c, rest)

/-- An atom takes at least one character. -/
theorem length_lt_of_readAtom? {mode : Mode} {text rest : List Char} {atom : Atom}
    (h : readAtom? mode text = some (atom, rest)) : rest.length < text.length := by
  unfold readAtom? at h
  split at h
  · simp at h
  · exact Nat.lt_succ_of_lt (Atom.length_lt_of_readEscape? h)
  · simp_all

/-- The character that follows, which decides whether a dash stands for itself. The mark of a
comment is passed over here, but the comment is not. -/
def following? (mode : Mode) (text : List Char) : Option Char :=
  if mode.spaced then
    match text.dropWhile isBlank with
    | '#' :: rest => (rest.dropWhile isBlank).head?
    | rest => rest.head?
  else text.head?

/-- The text after a character or a range. A dash stands for itself in front of another one and
in front of the closing bracket. -/
def readItem? (mode : Mode) (text : List Char) : Option (List Char) := do
  let (first, rest) ← readAtom? mode text
  match mode.skip rest with
  | '-' :: after =>
      if following? mode after = some ']' || following? mode after = some '-' then
        if admits mode first then some (mode.skip rest) else none
      else
        let (last, rest) ← readAtom? mode (mode.skip after)
        if admits mode first && admits mode last && isRange first last then some rest else none
  | rest => if admits mode first then some rest else none

/-- An item takes at least one character. -/
theorem length_lt_of_readItem? {mode : Mode} {text rest : List Char}
    (h : readItem? mode text = some rest) : rest.length < text.length := by
  unfold readItem? at h
  obtain ⟨⟨first, after⟩, hfirst, h⟩ := Option.bind_eq_some_iff.mp h
  have hlt := length_lt_of_readAtom? hfirst
  have hskip := mode.length_skip_le after
  simp only at h
  split at h
  · rename_i behind hbehind
    rw [hbehind, List.length_cons] at hskip
    split at h
    · obtain ⟨-, h⟩ := Option.ite_none_right_eq_some.mp h
      simp only [Option.some.injEq, hbehind] at h
      subst h
      simp only [List.length_cons]
      omega
    · obtain ⟨⟨last, left⟩, hlast, h⟩ := Option.bind_eq_some_iff.mp h
      have hlast := length_lt_of_readAtom? hlast
      have hbehind := mode.length_skip_le behind
      obtain ⟨-, h⟩ := Option.ite_none_right_eq_some.mp h
      simp only [Option.some.injEq] at h
      subst h
      omega
  · obtain ⟨-, h⟩ := Option.ite_none_right_eq_some.mp h
    simp only [Option.some.injEq] at h
    subst h
    omega

/-! ### Names -/

/-- The names of sets. -/
def setNames : List String := [
  "alnum", "alpha", "ascii", "blank", "cntrl", "digit", "graph", "lower", "print", "punct",
  "space", "upper", "word", "xdigit"]

/-- The text after the name of a set and what closes it. -/
def readSetName? (text : List Char) : Option (List Char) :=
  match text.dropWhile (· ≠ ':') with
  | ':' :: ']' :: rest =>
      if setNames.contains (String.ofList (text.takeWhile (· ≠ ':'))) then some rest else none
  | _ => none

/-- The rest behind the name of a set is part of the text. -/
theorem length_le_of_readSetName? {text rest : List Char}
    (h : readSetName? text = some rest) : rest.length ≤ text.length := by
  have hdrop := (List.dropWhile_suffix (l := text) (· ≠ ':')).length_le
  unfold readSetName? at h
  split at h
  · split at h <;> simp_all
    omega
  · simp at h

/-- Whether a set with a name stands for all other characters, given the text behind its bracket,
and the text after it. -/
def readNamed? : List Char → Option (Bool × List Char)
  | ':' :: '^' :: text => (readSetName? text).map fun rest => (true, rest)
  | ':' :: text => (readSetName? text).map fun rest => (false, rest)
  | _ => none

/-- A named set takes at least its opening. -/
theorem length_lt_of_readNamed? {text rest : List Char} {negated : Bool}
    (h : readNamed? text = some (negated, rest)) : rest.length < text.length := by
  unfold readNamed? at h
  split at h
  · simp only [Option.map_eq_some_iff, Prod.mk.injEq] at h
    obtain ⟨_, hname, -, rfl⟩ := h
    have := length_le_of_readSetName? hname
    simp only [List.length_cons]
    omega
  · simp only [Option.map_eq_some_iff, Prod.mk.injEq] at h
    obtain ⟨_, hname, -, rfl⟩ := h
    have := length_le_of_readSetName? hname
    simp only [List.length_cons]
    omega
  · simp at h

/-- May a set with a name stand in brackets? -/
def admitsNamed (mode : Mode) (negated : Bool) : Bool :=
  mode.namesCharacters && (canNegate mode || !negated)

/-! ### Brackets -/

/-- The number of dashes in front, and the text after them. -/
def readDashes (mode : Mode) (text : List Char) : Nat × List Char :=
  match text with
  | '-' :: rest =>
      let (count, after) := readDashes mode (mode.skip rest)
      (count + 1, after)
  | _ => (0, text)
termination_by text.length
decreasing_by
  have := mode.length_skip_le rest
  simp only [List.length_cons]
  omega

/-- Behind leading dashes there is part of the text. -/
theorem length_readDashes_le (mode : Mode) (text : List Char) :
    (readDashes mode text).2.length ≤ text.length := by
  fun_induction readDashes mode text with
  | case1 rest count after hafter ih =>
      have := mode.length_skip_le rest
      simp_all only [List.length_cons]
      omega
  | case2 => simp

/-- How many characters stand for themselves right behind a bracket, and the text after them. -/
def readFirst (mode : Mode) (text : List Char) : Nat × List Char :=
  match readDashes mode text with
  | (0, ']' :: rest) => (1, mode.skip rest)
  | first => first

/-- Behind what stands for itself in first place there is part of the text. -/
theorem length_readFirst_le (mode : Mode) (text : List Char) :
    (readFirst mode text).2.length ≤ text.length := by
  have hle := length_readDashes_le mode text
  unfold readFirst
  split
  · rename_i rest hdashes
    have := mode.length_skip_le rest
    simp_all only [List.length_cons]
    omega
  · exact hle

/-- A bracket with what stands for itself in front of a text, and the text after that. -/
def start? (mode : Mode) (text : List Char) : Option (Bracket × List Char) :=
  let (count, rest) := readFirst mode text
  if count = 0 || mode.namesCharacters then some (ofCharacters count, rest) else none

/-- A bracket that starts leaves part of the text. -/
theorem length_le_of_start? {mode : Mode} {text rest : List Char} {bracket : Bracket}
    (h : start? mode text = some (bracket, rest)) : rest.length ≤ text.length := by
  obtain ⟨-, h⟩ := Option.ite_none_right_eq_some.mp h
  simp only [Option.some.injEq, Prod.mk.injEq] at h
  rw [← h.2]
  exact length_readFirst_le mode text

/-- An opening bracket, given the text behind it, and the text after what stands for itself. -/
def readOpening? (mode : Mode) (text : List Char) : Option (Bracket × List Char) :=
  match mode.skip text with
  | '^' :: rest => if canNegate mode then start? mode (mode.skip rest) else none
  | rest => start? mode rest

/-- The opening of a bracket leaves part of the text. -/
theorem length_le_of_readOpening? {mode : Mode} {text rest : List Char} {bracket : Bracket}
    (h : readOpening? mode text = some (bracket, rest)) : rest.length ≤ text.length := by
  have hskip := mode.length_skip_le text
  unfold readOpening? at h
  split at h
  · rename_i after hafter
    obtain ⟨-, h⟩ := Option.ite_none_right_eq_some.mp h
    have := mode.length_skip_le after
    have := length_le_of_start? h
    simp_all only [List.length_cons]
    omega
  · exact Nat.le_trans (length_le_of_start? h) hskip

/-- How deep the outermost of some open brackets is nested in itself, and the text after the
bracket that closes it. -/
def readItems? (mode : Mode) (outer : List Bracket) (bracket : Bracket) (text : List Char) :
    Option (Nat × List Char) :=
  match _ : mode.skip text with
  | [] => none
  | ']' :: rest =>
      match outer with
      | [] => some (bracket.depth + 1, rest)
      | next :: outer => readItems? mode outer (next.add (bracket.depth + 1)) rest
  | '[' :: rest =>
      match _ : readNamed? rest with
      | some (negated, after) =>
          if admitsNamed mode negated then readItems? mode outer (bracket.add 0) after else none
      | none =>
          match _ : readOpening? mode rest with
          | some (inner, after) => readItems? mode (bracket :: outer) inner after
          | none => none
  | '&' :: '&' :: rest | '-' :: '-' :: rest | '~' :: '~' :: rest =>
      readItems? mode outer bracket.operate rest
  | written =>
      match _ : readItem? mode written with
      | some rest => readItems? mode outer (bracket.add 0) rest
      | none => none
termination_by text.length
decreasing_by
  · exact Mode.length_lt_of_skip ‹_›
  · have := Mode.length_lt_of_skip ‹mode.skip text = _›
    have := length_lt_of_readNamed? ‹_›
    omega
  · have := Mode.length_lt_of_skip ‹mode.skip text = _›
    have := length_le_of_readOpening? ‹_›
    omega
  · have := Mode.length_lt_of_skip ‹mode.skip text = _›
    exact Nat.lt_of_succ_lt this
  · have := Mode.length_lt_of_skip ‹mode.skip text = _›
    exact Nat.lt_of_succ_lt this
  · have := Mode.length_lt_of_skip ‹mode.skip text = _›
    exact Nat.lt_of_succ_lt this
  · subst written
    exact Nat.lt_of_lt_of_le (length_lt_of_readItem? ‹_›) (mode.length_skip_le text)

/-- The items of a bracket leave part of the text, however deep they nest. -/
theorem length_le_of_readItems? {mode : Mode} {outer : List Bracket} {bracket : Bracket}
    {text rest : List Char} {depth : Nat}
    (h : readItems? mode outer bracket text = some (depth, rest)) :
    rest.length ≤ text.length := by
  fun_induction readItems? mode outer bracket text with
  | case1 | case5 | case7 | case12 => simp at h
  | case2 _ _ _ hskip =>
      simp only [Option.some.injEq, Prod.mk.injEq] at h
      rw [← h.2]
      exact Nat.le_of_lt (Mode.length_lt_of_skip hskip)
  | case3 _ _ _ hskip _ _ ih =>
      have := Mode.length_lt_of_skip hskip
      have := ih h
      omega
  | case4 _ _ _ _ hskip _ _ hnamed _ ih =>
      have := Mode.length_lt_of_skip hskip
      have := length_lt_of_readNamed? hnamed
      have := ih h
      omega
  | case6 _ _ _ _ hskip _ _ _ hopening ih =>
      have := Mode.length_lt_of_skip hskip
      have := length_le_of_readOpening? hopening
      have := ih h
      omega
  | case8 _ _ _ _ hskip ih | case9 _ _ _ _ hskip ih | case10 _ _ _ _ hskip ih =>
      have := Mode.length_lt_of_skip hskip
      have := ih h
      simp only [List.length_cons] at *
      omega
  | case11 _ _ text =>
      have := mode.length_skip_le text
      have := length_lt_of_readItem? ‹_›
      have := ‹_ → _› h
      omega

/-- How deep the set is nested whose opening bracket stands in front of the text, and the text
after it. -/
def read? (mode : Mode) (text : List Char) : Option (Nat × List Char) :=
  (readOpening? mode text).bind fun (bracket, rest) => readItems? mode [] bracket rest

/-- A bracket leaves part of the text. -/
theorem length_le_of_read? {mode : Mode} {text rest : List Char} {depth : Nat}
    (h : read? mode text = some (depth, rest)) : rest.length ≤ text.length := by
  obtain ⟨⟨bracket, after⟩, hopening, h⟩ := Option.bind_eq_some_iff.mp h
  exact Nat.le_trans (length_le_of_readItems? h) (length_le_of_readOpening? hopening)

end Bracket

end SymbolTrace.Text.RegularExpression
