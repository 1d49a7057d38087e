import SymbolTrace.Proofs.Mangling.Answer
import SymbolTrace.Proofs.Mangling.Grammar

/-!
# Numbers, names, builtin types and pointer counts

The readers that call no reader of types accept exactly the texts that start with a spelling of
the grammar, take that spelling and nothing more, and give back what it spells.
-/

namespace SymbolTrace.Mangling

open Text

/-! ### Numbers and names -/

/-- A run of digits is as long as it can be. -/
theorem not_startsWithDigit_dropWhile (text : List Char) :
    startsWithDigit (text.dropWhile Char.isDigit) = false := by
  induction text with
  | nil => rfl
  | cons c cs ih =>
      rw [List.dropWhile_cons]
      split
      · exact ih
      · rename_i hc
        simpa using hc

/-- The run of digits at the front of digits and a text that starts with none. -/
theorem takeWhile_digits {digits next : List Char} (hdigits : ∀ c ∈ digits, c.isDigit = true)
    (hnext : startsWithDigit next = false) :
    (digits ++ next).takeWhile Char.isDigit = digits ∧
      (digits ++ next).dropWhile Char.isDigit = next := by
  refine takeWhile_run hdigits ?_
  intro c hc
  obtain ⟨cs, rfl⟩ := List.head?_eq_some_iff.1 hc
  rwa [startsWithDigit_cons] at hnext

/-- A number is read exactly where one is spelled. -/
theorem answer_readNumber_eq_ok_iff {text next : List Char} {value : Nat} :
    answer (readNumber text) = .ok (value, next) ↔
      ∃ digits, text = digits ++ next ∧ NumberSpelled value digits next := by
  constructor
  · intro h
    cases text with
    | nil => cases h
    | cons c cs =>
        rw [answer_readNumber_cons] at h
        split at h
        · rename_i hc
          split at h
          · rename_i hlt
            cases h
            refine ⟨c :: cs.takeWhile Char.isDigit, by simp, List.cons_ne_nil _ _, ?_, rfl, hlt,
              not_startsWithDigit_dropWhile cs⟩
            intro d hd
            rcases List.mem_cons.1 hd with rfl | hd
            · exact hc
            · exact List.all_eq_true.1 List.all_takeWhile d hd
          · cases h
        · cases h
  · rintro ⟨digits, rfl, h⟩
    obtain ⟨hne, hdigits, rfl, hlt, hnext⟩ := h
    cases digits with
    | nil => exact absurd rfl hne
    | cons c cs =>
        obtain ⟨htake, hdrop⟩ :=
          takeWhile_digits (fun d hd => hdigits d (List.mem_cons_of_mem c hd)) hnext
        rw [List.cons_append, answer_readNumber_cons, htake, hdrop,
          if_pos (hdigits c List.mem_cons_self), if_pos hlt]

/-- A name is read exactly where one is spelled. -/
theorem answer_readName_eq_ok_iff {text next : List Char} {name : String} :
    answer (readName text) = .ok (name, next) ↔
      ∃ w, text = w ++ next ∧ NameSpelled name w next := by
  rw [answer_readName, Answer.andThen_eq_ok_iff]
  constructor
  · rintro ⟨size, rest, hsize, h⟩
    obtain ⟨digits, rfl, hdigits⟩ := answer_readNumber_eq_ok_iff.1 hsize
    split at h
    · rename_i taken rest' hsplit
      cases h
      obtain ⟨rfl, rfl⟩ := splitBytes?_eq_some_iff.1 hsplit
      rw [byteCount_eq_utf8ByteSize] at hdigits
      refine ⟨digits ++ (String.ofList taken).toList, ?_, .intro ?_⟩
      · simp
      · simpa using hdigits
    · cases h
  · rintro ⟨w, rfl, h⟩
    obtain ⟨hsize⟩ := h
    rename_i size
    refine ⟨name.utf8ByteSize, name.toList ++ next,
      answer_readNumber_eq_ok_iff.2 ⟨size, by simp, hsize⟩, ?_⟩
    have hsplit : splitBytes? name.utf8ByteSize (name.toList ++ next) =
        some (name.toList, next) := by
      rw [splitBytes?_eq_some_iff, byteCount_eq_utf8ByteSize, String.ofList_toList]
      exact ⟨rfl, rfl⟩
    simp [hsplit]

/-- No marker is a digit, so what starts with a digit starts with no marker. -/
theorem ne_of_isDigit {c marker : Char} (hc : c.isDigit = true) (hmarker : marker.isDigit = false) :
    c ≠ marker := by
  rintro rfl
  rw [hc] at hmarker
  cases hmarker

/-- A name starts with the first digit of its size. -/
theorem NameSpelled.exists_cons {name : String} {w next : List Char}
    (h : NameSpelled name w next) : ∃ c cs, w = c :: cs ∧ c.isDigit = true := by
  obtain ⟨hsize⟩ := h
  obtain ⟨hne, hdigits, -, -, -⟩ := hsize
  rename_i size
  cases size with
  | nil => exact absurd rfl hne
  | cons c cs => exact ⟨c, cs ++ name.toList, rfl, hdigits c List.mem_cons_self⟩

/-! ### Builtin types and pointer prefixes -/

/-- The width that is read is the one spelled behind the marker of sized integers. -/
theorem laxAnswer_readWidth_eq_ok_iff {text next : List Char} {width : Option Nat} :
    laxAnswer (readWidth text) = .ok (width, next) ↔
      ∃ w, text = w ++ next ∧ (Builtin.sizedInt width).Spelled ('i' :: w) next := by
  constructor
  · intro h
    cases text with
    | nil =>
        cases h
        exact ⟨[], rfl, .unsized rfl⟩
    | cons c cs =>
        rw [laxAnswer_readWidth_cons] at h
        split at h
        · obtain ⟨value, rest, hvalue, h⟩ := Answer.andThen_eq_ok_iff.1 h
          cases h
          obtain ⟨digits, htext, hdigits⟩ := answer_readNumber_eq_ok_iff.1 hvalue
          exact ⟨digits, htext, .sized hdigits⟩
        · rename_i hc
          cases h
          exact ⟨[], rfl, .unsized (by simpa using hc)⟩
  · rintro ⟨w, rfl, h⟩
    cases h with
    | unsized hnext =>
        cases next with
        | nil => rfl
        | cons c cs =>
            rw [startsWithDigit_cons] at hnext
            rw [List.nil_append, laxAnswer_readWidth_cons, if_neg (by simp [hnext])]
    | sized hdigits =>
        have hread := answer_readNumber_eq_ok_iff.2 ⟨w, rfl, hdigits⟩
        obtain ⟨hne, hall, -, -, -⟩ := hdigits
        cases w with
        | nil => exact absurd rfl hne
        | cons c cs =>
            rw [List.cons_append] at hread ⊢
            rw [laxAnswer_readWidth_cons, if_pos (hall c List.mem_cons_self), hread,
              Answer.andThen_ok]

/-- A letter of the table spells its code, whatever follows. -/
theorem Builtin.spelled_of_ofLetter? {c : Char} {code : Builtin} {next : List Char}
    (h : Builtin.ofLetter? c = some code) : code.Spelled [c] next := by
  unfold Builtin.ofLetter? at h
  split at h <;> cases h <;> constructor

/-- A builtin type is read exactly where one is spelled. -/
theorem answer_readBuiltin_eq_ok_iff {text next : List Char} {code : Builtin} :
    answer (Builtin.read text) = .ok (code, next) ↔
      ∃ w, text = w ++ next ∧ code.Spelled w next := by
  constructor
  · intro h
    cases text with
    | nil => cases h
    | cons c cs =>
        rw [answer_readBuiltin_cons] at h
        split at h
        · rename_i hc
          obtain ⟨width, rest, hwidth, h⟩ := Answer.andThen_eq_ok_iff.1 h
          cases h
          obtain ⟨w, rfl, hw⟩ := laxAnswer_readWidth_eq_ok_iff.1 hwidth
          exact ⟨'i' :: w, by simp [hc], hw⟩
        · split at h
          · rename_i hletter
            cases h
            exact ⟨[c], rfl, Builtin.spelled_of_ofLetter? hletter⟩
          · cases h
  · rintro ⟨w, rfl, h⟩
    have hsized : ∀ {width : Option Nat} {w : List Char},
        (Builtin.sizedInt width).Spelled ('i' :: w) next →
        answer (Builtin.read ('i' :: (w ++ next))) = .ok (.sizedInt width, next) := by
      intro width w hw
      rw [answer_readBuiltin_cons, if_pos rfl,
        laxAnswer_readWidth_eq_ok_iff.2 ⟨w, rfl, hw⟩, Answer.andThen_ok]
    cases h with
    | unsized hnext => exact hsized (.unsized hnext)
    | sized hdigits => exact hsized (.sized hdigits)
    | int | float | double | float80 | bool | void => rfl

/-- What follows a number matters only in that it is no digit. -/
theorem NumberSpelled.congr {value : Nat} {digits next next' : List Char}
    (h : NumberSpelled value digits next) (hnext : startsWithDigit next' = false) :
    NumberSpelled value digits next' :=
  ⟨h.ne_nil, h.isDigit, h.value_eq, h.value_lt, hnext⟩

variable [Allocator]

/-- A pointer count is read exactly where one is spelled that can be held. -/
theorem answer_readPointerCount_eq_ok_iff {text next : List Char} {count : Nat} :
    answer (readPointerCount text) = .ok (count, next) ↔
      ∃ digits, text = digits ++ 'T' :: next ∧ NumberSpelled count digits ['T'] ∧
        Allocator.holdsRun count := by
  rw [answer_readPointerCount, Answer.andThen_eq_ok_iff]
  constructor
  · rintro ⟨value, rest, hvalue, h⟩
    obtain ⟨digits, rfl, hdigits⟩ := answer_readNumber_eq_ok_iff.1 hvalue
    cases rest with
    | nil => cases h
    | cons c cs =>
        dsimp only at h
        split at h
        · rename_i hc
          split at h
          · rename_i hlt
            cases h
            exact ⟨digits, by rw [hc], hdigits.congr rfl, hlt⟩
          · cases h
        · cases h
  · rintro ⟨digits, rfl, hdigits, hlt⟩
    refine ⟨count, 'T' :: next,
      answer_readNumber_eq_ok_iff.2 ⟨digits, rfl, hdigits.congr rfl⟩, ?_⟩
    simp [hlt]

end SymbolTrace.Mangling
