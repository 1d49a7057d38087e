/-!
# Similar words

Characters of two words match that are equal and stand at about the same place: no further apart
than half the length of the longer word, less one. Each character matches one other at most, the
first that is left. The similarity of the words is the mean of three parts: how much of either word
matches, and how many of the matching characters are in order. Two characters that have changed
places count as one out of order.
-/

namespace SymbolTrace.Text

/-- The characters of a word that match one of another word, with the places they match there, in
the order of the first word. The characters before have matched the places that are taken. -/
def matching (other : List Char) (reach : Nat) (index : Nat) (taken : List Nat) :
    List Char → List (Char × Nat)
  | [] => []
  | c :: rest =>
      let free := (List.range other.length).find? fun place =>
        index ≤ place + reach && place ≤ index + reach && other[place]? = some c &&
          !taken.contains place
      match free with
      | some place => (c, place) :: matching other reach (index + 1) (place :: taken) rest
      | none => matching other reach (index + 1) taken rest

/-- How similar two words are, from 0 to 1. -/
def similarity (word other : List Char) : Float :=
  let reach := max word.length other.length / 2 - 1
  let found := matching other reach 0 [] word
  let places := found.map (·.2)
  let ordered := (List.range other.length).filter places.contains
  let misplaced := ((found.map (some ·.1)).zip (ordered.map (other[·]?))).countP fun (a, b) => a ≠ b
  let count := found.length.toFloat
  if word.isEmpty && other.isEmpty then 1.0
  else if found.isEmpty then 0.0
  else
    (count / word.length.toFloat + count / other.length.toFloat +
      (found.length - misplaced / 2).toFloat / count) / 3.0

end SymbolTrace.Text
