import SymbolTrace.Text.Alphanumeric
import SymbolTrace.Text.RegularExpression.Bracket

/-!
# Regular expressions

Which texts are regular expressions. An expression consists of alternatives between bars, and an
alternative of items one after another: atoms, sets in brackets, groups in parentheses, and flags.
Behind an item, but not behind flags, `?`, `*` and `+` say how often it may be repeated, and a
further `?` that few repetitions are preferred; a repeated item is an item again. Braces are not
used for repetitions, but one that opens has to be escaped.

A group may have a name, which no other group has, or flags for what it holds. Flags alone last
until the end of the group that they stand in. Nothing can be asked about what surrounds a match.

Items, groups and sets are nested in each other to a limited depth.

* `RegularExpression.isUnderstood`: is a text a regular expression?
-/

namespace SymbolTrace.Text.RegularExpression

/-! ### Items -/

/-- What matters about items one after another. -/
structure Sequence where
  count : Nat
  /-- How deep the items are nested. -/
  depth : Nat
  /-- How deep the last item is nested, if it can be repeated. -/
  last : Option Nat
deriving DecidableEq, Repr

namespace Sequence

/-- No items. -/
def empty : Sequence := ⟨0, 0, none⟩

/-- One more item. -/
def add (items : Sequence) (depth : Nat) : Sequence :=
  ⟨items.count + 1, max items.depth depth, some depth⟩

/-- Flags behind the items. -/
def addFlags (items : Sequence) : Sequence := ⟨items.count + 1, items.depth, none⟩

/-- The items with the last one repeated. -/
def repeatLast? (items : Sequence) : Option Sequence :=
  items.last.map fun depth => ⟨items.count, max items.depth (depth + 1), some (depth + 1)⟩

/-- How deep the items are nested as a whole: several of them are nested in it. -/
def whole (items : Sequence) : Nat :=
  if items.count ≤ 1 then items.depth else items.depth + 1

end Sequence

/-- Alternatives, the last of which is being read. -/
structure Alternatives where
  /-- How deep the complete ones are nested, if there are any. -/
  complete : Option Nat
  current : Sequence
deriving DecidableEq, Repr

namespace Alternatives

/-- One alternative without items. -/
def empty : Alternatives := ⟨none, Sequence.empty⟩

/-- How deep the alternatives are nested, the current one included. -/
def depth (alternatives : Alternatives) : Nat :=
  max (alternatives.complete.getD 0) alternatives.current.whole

/-- The next alternative starts. -/
def next (alternatives : Alternatives) : Alternatives :=
  ⟨some alternatives.depth, Sequence.empty⟩

/-- How deep the alternatives are nested as a whole: several of them are nested in it. -/
def whole (alternatives : Alternatives) : Nat :=
  if alternatives.complete.isSome then alternatives.depth + 1 else alternatives.depth

end Alternatives

/-! ### Groups -/

/-- May the text be the name of a group? -/
def isGroupName : List Char → Bool
  | [] => false
  | first :: rest =>
      (first = '_' || isLetter first) &&
        rest.all fun c => "_.[]".toList.contains c || isAlphanumeric c

/-- What an opening parenthesis starts. -/
inductive Opening where
  | group (mode : Mode)
  | named (name : List Char)
  /-- Flags alone, with the closing parenthesis. -/
  | flags (mode : Mode)
deriving DecidableEq, Repr

/-- The name of a group, and the text after it. -/
def readGroupName? (text : List Char) : Option (Opening × List Char) :=
  let name := text.takeWhile (· ≠ '>')
  match text.dropWhile (· ≠ '>') with
  | _ :: rest => if isGroupName name then some (.named name, rest) else none
  | [] => none

/-- Flags, of a group or alone, and the text after them. -/
def readFlags? (mode : Mode) (text : List Char) : Option (Opening × List Char) :=
  let flags := text.takeWhile fun c => c ≠ ':' ∧ c ≠ ')'
  if Mode.areFlags flags then
    match text.dropWhile fun c => c ≠ ':' ∧ c ≠ ')' with
    | ':' :: rest => some (.group (mode.turned flags), rest)
    | ')' :: rest => if flags.isEmpty then none else some (.flags (mode.turned flags), rest)
    | _ => none
  else none

/-- What the parenthesis in front of a text starts, and the text after that. -/
def readOpening? (mode : Mode) (text : List Char) : Option (Opening × List Char) :=
  match mode.skip text with
  | '?' :: 'P' :: '<' :: rest => readGroupName? rest
  | '?' :: '<' :: rest => readGroupName? rest
  | '?' :: rest => readFlags? mode rest
  | rest => some (.group mode, rest)

/-- What is behind the name of a group is part of the text. -/
theorem length_le_of_readGroupName? {text rest : List Char} {opening : Opening}
    (h : readGroupName? text = some (opening, rest)) : rest.length ≤ text.length := by
  have hdrop := (List.dropWhile_suffix (l := text) (· ≠ '>')).length_le
  simp only [readGroupName?] at h
  split at h
  · split at h <;> simp_all
    omega
  · simp at h

/-- What is behind flags is part of the text. -/
theorem length_le_of_readFlags? {mode : Mode} {text rest : List Char} {opening : Opening}
    (h : readFlags? mode text = some (opening, rest)) : rest.length ≤ text.length := by
  have hdrop := (List.dropWhile_suffix (l := text) fun c => c ≠ ':' ∧ c ≠ ')').length_le
  simp only [readFlags?] at h
  split at h
  · split at h
    · rename_i after hafter
      rw [hafter, List.length_cons] at hdrop
      simp only [Option.some.injEq, Prod.mk.injEq] at h
      rw [← h.2]
      omega
    · rename_i after hafter
      rw [hafter, List.length_cons] at hdrop
      split at h
      · simp at h
      · simp only [Option.some.injEq, Prod.mk.injEq] at h
        rw [← h.2]
        omega
    · simp at h
  · simp at h

/-- What is behind the opening of a group is part of the text. -/
theorem length_le_of_readOpening? {mode : Mode} {text rest : List Char} {opening : Opening}
    (h : readOpening? mode text = some (opening, rest)) : rest.length ≤ text.length := by
  have hskip := mode.length_skip_le text
  unfold readOpening? at h
  split at h
  · have := length_le_of_readGroupName? h
    simp_all only [List.length_cons]
    omega
  · have := length_le_of_readGroupName? h
    simp_all only [List.length_cons]
    omega
  · have := length_le_of_readFlags? h
    simp_all only [List.length_cons]
    omega
  · simp_all

/-! ### Reading -/

/-- A group that has not been closed: what stands in front of it, and the mode there. -/
structure OpenGroup where
  mode : Mode
  before : Alternatives
deriving DecidableEq, Repr

/-- What has been read of an expression. -/
structure Progress where
  mode : Mode
  /-- The open groups, the innermost one first. -/
  outer : List OpenGroup
  here : Alternatives
  /-- The names of groups so far. -/
  names : List (List Char)
deriving DecidableEq, Repr

namespace Progress

/-- Nothing read. -/
def start : Progress := ⟨Mode.start, [], Alternatives.empty, []⟩

/-- The progress with other items in the current alternative. -/
def withItems (progress : Progress) (items : Sequence) : Progress :=
  { progress with here := { progress.here with current := items } }

/-- One more item. -/
def add (progress : Progress) (depth : Nat) : Progress :=
  progress.withItems (progress.here.current.add depth)

/-- A group starts. -/
def openGroup (progress : Progress) (mode : Mode) : Progress :=
  { progress with
    mode := mode
    outer := ⟨progress.mode, progress.here⟩ :: progress.outer
    here := Alternatives.empty }

/-- Something in parentheses starts. -/
def enter? (progress : Progress) : Opening → Option Progress
  | .group mode => some (progress.openGroup mode)
  | .named name =>
      if progress.names.contains name then none
      else some { progress.openGroup progress.mode with names := name :: progress.names }
  | .flags mode =>
      some { progress.withItems progress.here.current.addFlags with mode := mode }

/-- The innermost group ends, if there is one. -/
def leave? (progress : Progress) : Option Progress :=
  match progress.outer with
  | [] => none
  | ⟨mode, before⟩ :: outer =>
      some (Progress.add ⟨mode, outer, before, progress.names⟩ (progress.here.whole + 1))

/-- How deep expressions may be nested. -/
def maxDepth : Nat := 250

/-- May the expression end here? -/
def isComplete (progress : Progress) : Bool :=
  progress.outer.isEmpty && progress.here.whole ≤ maxDepth

end Progress

/-- The text after the mark of a repetition that prefers few, if it is there. -/
def afterLazy : List Char → List Char
  | '?' :: rest => rest
  | text => text

/-- The mark of a lazy repetition may be missing. -/
theorem length_afterLazy_le (text : List Char) : (afterLazy text).length ≤ text.length := by
  unfold afterLazy
  split <;> simp

/-- Is the text the rest of an expression that has been read so far? -/
def continues (progress : Progress) (text : List Char) : Bool :=
  match _ : progress.mode.skip text with
  | [] => progress.isComplete
  | '(' :: rest =>
      match _ : readOpening? progress.mode rest with
      | some (opening, after) =>
          match progress.enter? opening with
          | some inside => continues inside after
          | none => false
      | none => false
  | ')' :: rest =>
      match progress.leave? with
      | some outside => continues outside rest
      | none => false
  | '|' :: rest => continues { progress with here := progress.here.next } rest
  | '[' :: rest =>
      match _ : Bracket.read? progress.mode rest with
      | some (depth, after) => continues (progress.add depth) after
      | none => false
  | '\\' :: rest =>
      match _ : Atom.readEscape? progress.mode rest with
      | some (atom, after) => atom.isKnown progress.mode && continues (progress.add 0) after
      | none => false
  | c :: rest =>
      if c = '?' || c = '*' || c = '+' then
        match progress.here.current.repeatLast? with
        | some items => continues (progress.withItems items) (afterLazy rest)
        | none => false
      else if c = '\x7b' then false
      else if c = '^' || c = '$' then continues (progress.add 0) rest
      else if c = '.' then progress.mode.unicode && continues (progress.add 0) rest
      else progress.mode.namesCharacters && continues (progress.add 0) rest
termination_by text.length
decreasing_by
  all_goals have hlt := Mode.length_lt_of_skip ‹progress.mode.skip text = _›
  · have := length_le_of_readOpening? ‹_›
    omega
  · exact hlt
  · exact hlt
  · have := Bracket.length_le_of_read? ‹_›
    omega
  · have := Atom.length_lt_of_readEscape? ‹_›
    omega
  · have := length_afterLazy_le rest
    omega
  all_goals exact hlt

/-- Is the text a regular expression? -/
def isUnderstood (text : List Char) : Bool :=
  continues Progress.start text

end SymbolTrace.Text.RegularExpression
