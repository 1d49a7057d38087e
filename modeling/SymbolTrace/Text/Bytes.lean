/-!
# Texts as bytes

Places in a text are sometimes given by the number of bytes in front of them, in UTF-8. A text is
only ever cut between characters.
-/

namespace SymbolTrace.Text

/-- How many bytes a text has. -/
def byteCount : List Char → Nat
  | [] => 0
  | c :: rest => c.utf8Size + byteCount rest

/-- Split off the characters that make up exactly the first `size` bytes. -/
def splitBytes? (size : Nat) : List Char → Option (List Char × List Char)
  | [] => if size = 0 then some ([], []) else none
  | c :: cs =>
      if size = 0 then some ([], c :: cs)
      else if c.utf8Size ≤ size then
        (splitBytes? (size - c.utf8Size) cs).map fun (taken, rest) => (c :: taken, rest)
      else none

/-- No bytes can be taken from any text. -/
theorem splitBytes?_zero (text : List Char) : splitBytes? 0 text = some ([], text) := by
  cases text <;> rfl

/-- A text is put together again from the two parts it was split into. -/
theorem eq_append_of_splitBytes? {size : Nat} {text taken rest : List Char}
    (h : splitBytes? size text = some (taken, rest)) : text = taken ++ rest := by
  induction text generalizing size taken rest with
  | nil =>
      simp only [splitBytes?] at h
      split at h <;> simp_all
  | cons c cs ih =>
      simp only [splitBytes?] at h
      split at h
      · simp_all
      · split at h
        · obtain ⟨⟨taken', rest'⟩, h', heq⟩ := Option.map_eq_some_iff.1 h
          simp only [Prod.mk.injEq] at heq
          obtain ⟨rfl, rfl⟩ := heq
          simp [ih h']
        · simp at h

/-- The rest is not longer than the text. -/
theorem length_le_of_splitBytes? {size : Nat} {text taken rest : List Char}
    (h : splitBytes? size text = some (taken, rest)) : rest.length ≤ text.length := by
  simp [eq_append_of_splitBytes? h]

/-- The front has as many bytes as were asked for. -/
theorem byteCount_of_splitBytes? {size : Nat} {text taken rest : List Char}
    (h : splitBytes? size text = some (taken, rest)) : byteCount taken = size := by
  induction text generalizing size taken rest with
  | nil =>
      simp only [splitBytes?] at h
      split at h <;> simp_all [byteCount]
  | cons c cs ih =>
      simp only [splitBytes?] at h
      split at h
      · simp_all [byteCount]
      · split at h
        · obtain ⟨⟨taken', rest'⟩, h', heq⟩ := Option.map_eq_some_iff.1 h
          simp only [Prod.mk.injEq] at heq
          obtain ⟨rfl, rfl⟩ := heq
          simp only [byteCount, ih h']
          omega
        · simp at h

/-- A text can be split wherever one character ends. -/
theorem splitBytes?_byteCount (taken rest : List Char) :
    splitBytes? (byteCount taken) (taken ++ rest) = some (taken, rest) := by
  induction taken with
  | nil => cases rest <;> rfl
  | cons c cs ih =>
      have hc := c.utf8Size_pos
      rw [List.cons_append, splitBytes?, byteCount, if_neg (by omega), if_pos (by omega),
        Nat.add_sub_cancel_left, ih]
      rfl

/-- The split succeeds exactly at the places between characters. -/
theorem splitBytes?_eq_some_iff {size : Nat} {text taken rest : List Char} :
    splitBytes? size text = some (taken, rest) ↔
      text = taken ++ rest ∧ byteCount taken = size := by
  constructor
  · intro h
    exact ⟨eq_append_of_splitBytes? h, byteCount_of_splitBytes? h⟩
  · rintro ⟨rfl, rfl⟩
    exact splitBytes?_byteCount taken rest

/-- The bytes of a text are those of the string it makes. -/
theorem byteCount_eq_utf8ByteSize (text : List Char) :
    byteCount text = (String.ofList text).utf8ByteSize := by
  induction text with
  | nil => simp [byteCount]
  | cons c rest ih =>
      rw [String.ofList_cons, String.utf8ByteSize_append, String.utf8ByteSize_singleton,
        byteCount, ih]

/-- Bytes add up. -/
theorem byteCount_append (front back : List Char) :
    byteCount (front ++ back) = byteCount front + byteCount back := by
  induction front with
  | nil => simp [byteCount]
  | cons c front ih => rw [List.cons_append, byteCount, byteCount, ih, Nat.add_assoc]

/-- Every character has a byte at least. -/
theorem length_le_byteCount (text : List Char) : text.length ≤ byteCount text := by
  induction text with
  | nil => exact Nat.le_refl 0
  | cons c rest ih =>
      have hc := c.utf8Size_pos
      rw [List.length_cons, byteCount]
      omega

/-! ### Parts of a text -/

/-- The text behind a byte position, which has to lie between characters. -/
def suffixAt? (position : Nat) (text : List Char) : Option (List Char) :=
  (splitBytes? position text).map Prod.snd

/-- The text between two byte positions, which have to lie between characters and in order. -/
def slice? (start stop : Nat) (text : List Char) : Option (List Char) := do
  let behind ← suffixAt? start text
  if start ≤ stop then (splitBytes? (stop - start) behind).map Prod.fst else none

/-- A position that lies between characters, told by what stands in front of it. -/
theorem suffixAt?_eq_some_iff {position : Nat} {text behind : List Char} :
    suffixAt? position text = some behind ↔
      ∃ front, text = front ++ behind ∧ byteCount front = position := by
  rw [suffixAt?, Option.map_eq_some_iff]
  constructor
  · rintro ⟨⟨front, behind⟩, hsplit, rfl⟩
    exact ⟨front, splitBytes?_eq_some_iff.1 hsplit⟩
  · rintro ⟨front, htext, hsize⟩
    exact ⟨(front, behind), splitBytes?_eq_some_iff.2 ⟨htext, hsize⟩, rfl⟩

/-- Behind a front stands the rest. -/
theorem suffixAt?_byteCount (front behind : List Char) :
    suffixAt? (byteCount front) (front ++ behind) = some behind :=
  suffixAt?_eq_some_iff.2 ⟨front, rfl, rfl⟩

/-- A part is taken out between the ends of what stands in front of it and of the part itself. -/
theorem slice?_byteCount (front part behind : List Char) :
    slice? (byteCount front) (byteCount (front ++ part)) (front ++ (part ++ behind)) =
      some part := by
  rw [slice?, suffixAt?_byteCount, byteCount_append]
  simp [splitBytes?_byteCount]

/-- No position lies past the end. -/
theorem le_byteCount_of_suffixAt? {position : Nat} {text behind : List Char}
    (h : suffixAt? position text = some behind) : position ≤ byteCount text := by
  obtain ⟨front, rfl, rfl⟩ := suffixAt?_eq_some_iff.1 h
  rw [byteCount_append]
  exact Nat.le_add_right _ _

/-- What is taken out ends inside the text. -/
theorem le_byteCount_of_slice? {start stop : Nat} {text part : List Char}
    (h : slice? start stop text = some part) : stop ≤ byteCount text := by
  obtain ⟨behind, hbehind, htaken⟩ := Option.bind_eq_some_iff.1 h
  obtain ⟨front, rfl, rfl⟩ := suffixAt?_eq_some_iff.1 hbehind
  split at htaken
  · obtain ⟨⟨taken, rest⟩, hsplit, -⟩ := Option.map_eq_some_iff.1 htaken
    obtain ⟨rfl, hsize⟩ := splitBytes?_eq_some_iff.1 hsplit
    rw [byteCount_append, byteCount_append]
    omega
  · cases htaken

/-- The run at the front of characters of a kind and a text that starts with none of that kind. -/
theorem takeWhile_run {kind : Char → Bool} {run next : List Char} (hrun : ∀ c ∈ run, kind c = true)
    (hnext : ∀ c, next.head? = some c → kind c = false) :
    (run ++ next).takeWhile kind = run ∧ (run ++ next).dropWhile kind = next := by
  rw [List.takeWhile_append_of_pos hrun, List.dropWhile_append_of_pos hrun]
  cases next with
  | nil => simp
  | cons c next =>
      have hc : ¬ kind c = true := by simp [hnext c rfl]
      rw [List.takeWhile_cons_of_neg hc, List.dropWhile_cons_of_neg hc, List.append_nil]
      exact ⟨rfl, rfl⟩

end SymbolTrace.Text
