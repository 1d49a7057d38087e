import Mathlib.Data.Nat.Digits.Lemmas
import SymbolTrace.Numeral

/-!
# What a number is read as

A text of digits denotes the value that the powers of the radix give it. Reading goes through the
text once, with the value of the digits so far, and stops at the first character that is no digit
or takes the value past a word. So every text either denotes a value that fits a word, and is read
as it, or has a first fault, and is refused for it.

## Main definitions

* `IsDigit`, `Denotes`: digits, and texts of digits, with their values.
* `FirstFault`: where reading stops, and why.
* `Refused`: why a text behind which a sign may stand is refused.

## Main results

* `digitValue?_eq_some_iff`: the digits that are read.
* `denotes_or_firstFault`, `readDigits_of_denotes`, `readDigits_of_firstFault`: every text of digits
  is read or refused.
* `read_eq_ok_iff`, `read_eq_error_iff`: the same behind an optional sign.
* `denotes_toDigits`: the digits of a value denote it.
-/

namespace SymbolTrace.Numeral

variable {radix : Nat}

/-! ### Digits -/

/-- The character is the digit of a value. Digits from ten on are letters, in either case. -/
def IsDigit (radix : Nat) (c : Char) (digit : Nat) : Prop :=
  digit < radix ∧ (c = digit.digitChar ∨ c = digit.digitChar.toUpper)

/-- Digits are read in both cases. -/
theorem charValue?_digitChar {digit : Nat} (h : digit < 16) :
    charValue? digit.digitChar = some digit ∧ charValue? digit.digitChar.toUpper = some digit := by
  have hall : ∀ digit < 16, charValue? digit.digitChar = some digit ∧
      charValue? digit.digitChar.toUpper = some digit := by decide
  exact hall digit h

/-- Where the digits stand in the table of characters. -/
theorem digitChar_of_toNat_eq {c : Char} {digit : Nat} (h : digit < 16) :
    (digit < 10 → c.toNat = 48 + digit → c = digit.digitChar) ∧
      (10 ≤ digit → c.toNat = 87 + digit → c = digit.digitChar) ∧
      (10 ≤ digit → c.toNat = 55 + digit → c = digit.digitChar.toUpper) := by
  have hall : ∀ digit < 16,
      (digit < 10 → Char.ofNat (48 + digit) = digit.digitChar) ∧
        (10 ≤ digit → Char.ofNat (87 + digit) = digit.digitChar) ∧
        (10 ≤ digit → Char.ofNat (55 + digit) = digit.digitChar.toUpper) := by decide
  obtain ⟨hdigit, hlower, hupper⟩ := hall digit h
  refine ⟨fun hlt hc => ?_, fun hle hc => ?_, fun hle hc => ?_⟩
  · rw [← hdigit hlt, ← hc, Char.ofNat_toNat]
  · rw [← hlower hle, ← hc, Char.ofNat_toNat]
  · rw [← hupper hle, ← hc, Char.ofNat_toNat]

/-- Where the small letters stand in the table of characters. -/
theorem toNat_of_isLower {c : Char} (h : c.isLower = true) : 97 ≤ c.toNat ∧ c.toNat ≤ 122 := by
  delta Char.isLower at h
  simpa [UInt32.le_iff_toNat_le] using h

/-- Where the capital letters stand in the table of characters. -/
theorem toNat_of_isUpper {c : Char} (h : c.isUpper = true) : 65 ≤ c.toNat ∧ c.toNat ≤ 90 := by
  delta Char.isUpper at h
  simpa [UInt32.le_iff_toNat_le] using h

/-- Where a character that has a value stands in the table of characters. -/
theorem toNat_of_charValue? {c : Char} {digit : Nat} (h : charValue? c = some digit) :
    digit < 10 ∧ c.toNat = 48 + digit ∨ 10 ≤ digit ∧ c.toNat = 87 + digit ∨
      10 ≤ digit ∧ c.toNat = 55 + digit := by
  have hzero : '0'.toNat = 48 := rfl
  have hnine : '9'.toNat = 57 := rfl
  have ha : 'a'.toNat = 97 := rfl
  have hA : 'A'.toNat = 65 := rfl
  unfold charValue? at h
  by_cases hdigit : c.isDigit
  · have hrange : '0'.toNat ≤ c.toNat ∧ c.toNat ≤ '9'.toNat := Char.isDigit_iff_toNat.1 hdigit
    rw [if_pos hdigit] at h
    cases h
    omega
  · rw [if_neg hdigit] at h
    by_cases hlower : c.isLower
    · have hrange := toNat_of_isLower hlower
      rw [if_pos hlower] at h
      cases h
      omega
    · rw [if_neg hlower] at h
      by_cases hupper : c.isUpper
      · have hrange := toNat_of_isUpper hupper
        rw [if_pos hupper] at h
        cases h
        omega
      · rw [if_neg hupper] at h
        cases h

/-- A character with a value below sixteen is the digit of that value. -/
theorem eq_digitChar_of_charValue? {c : Char} {digit : Nat} (h : charValue? c = some digit)
    (hlt : digit < 16) : c = digit.digitChar ∨ c = digit.digitChar.toUpper := by
  obtain ⟨hdigit, hlower, hupper⟩ := digitChar_of_toNat_eq (c := c) hlt
  rcases toNat_of_charValue? h with ⟨hless, hc⟩ | ⟨hle, hc⟩ | ⟨hle, hc⟩
  · exact .inl (hdigit hless hc)
  · exact .inl (hlower hle hc)
  · exact .inr (hupper hle hc)

/-- The digits that are read are those of the radix. -/
theorem digitValue?_eq_some_iff (hradix : radix ≤ 16) {c : Char} {digit : Nat} :
    digitValue? radix c = some digit ↔ IsDigit radix c digit := by
  rw [digitValue?, Option.filter_eq_some_iff, decide_eq_true_eq, and_comm, IsDigit]
  refine and_congr_right fun hlt => ?_
  have hsixteen : digit < 16 := by omega
  constructor
  · exact fun h => eq_digitChar_of_charValue? h hsixteen
  · rintro (rfl | rfl)
    · exact (charValue?_digitChar hsixteen).1
    · exact (charValue?_digitChar hsixteen).2

/-- A character is the digit of one value only. -/
theorem IsDigit.unique (hradix : radix ≤ 16) {c : Char} {digit other : Nat}
    (h : IsDigit radix c digit) (hother : IsDigit radix c other) : digit = other := by
  rw [← digitValue?_eq_some_iff hradix] at h hother
  exact Option.some.inj (h.symm.trans hother)

/-! ### Texts of digits -/

/-- The text is made of digits, whose values count from the last one on by the powers of the
radix. -/
def Denotes (radix : Nat) (text : List Char) (value : Nat) : Prop :=
  ∃ places, List.Forall₂ (IsDigit radix) text.reverse places ∧ value = Nat.ofDigits radix places

variable {text before after : List Char} {c : Char} {value start : Nat}

/-- No digits denote zero. -/
theorem denotes_nil : Denotes radix [] 0 :=
  ⟨[], .nil, rfl⟩

/-- One more digit moves the value up by one place. -/
theorem denotes_push_iff :
    Denotes radix (text ++ [c]) value ↔
      ∃ start digit, Denotes radix text start ∧ IsDigit radix c digit ∧
        value = start * radix + digit := by
  have hplace : ∀ digit places, Nat.ofDigits radix (digit :: places) =
      Nat.ofDigits radix places * radix + digit := by
    intro digit places
    rw [Nat.ofDigits_cons, Nat.mul_comm, Nat.add_comm]
  simp only [Denotes, List.reverse_concat, List.forall₂_cons_left_iff]
  constructor
  · rintro ⟨_, ⟨digit, places, hdigit, hplaces, rfl⟩, rfl⟩
    exact ⟨_, digit, ⟨places, hplaces, rfl⟩, hdigit, hplace digit places⟩
  · rintro ⟨_, digit, ⟨places, hplaces, rfl⟩, hdigit, rfl⟩
    exact ⟨digit :: places, ⟨digit, places, hdigit, hplaces, rfl⟩, (hplace digit places).symm⟩

/-- What denotes a value has its front denote one that is not greater. -/
theorem Denotes.front (h : Denotes radix (before ++ after) value) (hpos : 0 < radix) :
    ∃ start ≤ value, Denotes radix before start := by
  induction after using List.reverseRecOn generalizing value with
  | nil => exact ⟨value, le_rfl, by rwa [List.append_nil] at h⟩
  | append_singleton after c ih =>
      rw [← List.append_assoc] at h
      obtain ⟨middle, digit, hmiddle, -, rfl⟩ := denotes_push_iff.1 h
      obtain ⟨start, hle, hstart⟩ := ih hmiddle
      have hplace : middle ≤ middle * radix := Nat.le_mul_of_pos_right middle hpos
      exact ⟨start, by omega, hstart⟩

/-- A text of digits denotes one value only. -/
theorem Denotes.unique (hradix : radix ≤ 16) {other : Nat} (h : Denotes radix text value)
    (hother : Denotes radix text other) : value = other := by
  obtain ⟨places, hplaces, rfl⟩ := h
  obtain ⟨others, hothers, rfl⟩ := hother
  have hright : Relator.RightUnique (IsDigit radix) := fun _ _ _ => IsDigit.unique hradix
  rw [List.right_unique_forall₂' hright hplaces hothers]

/-- What denotes a value is made of digits. -/
theorem Denotes.isDigit (h : Denotes radix text value) (hpos : 0 < radix) (hc : c ∈ text) :
    ∃ digit, IsDigit radix c digit := by
  obtain ⟨before, after, rfl⟩ := List.append_of_mem hc
  rw [List.append_cons] at h
  obtain ⟨_, -, hfront⟩ := h.front hpos
  obtain ⟨_, digit, -, hdigit, -⟩ := denotes_push_iff.1 hfront
  exact ⟨digit, hdigit⟩

/-- Zeros in front of a text leave its value as it is. -/
theorem Denotes.leadingZeros (h : Denotes radix text value) (hpos : 0 < radix) (count : Nat) :
    Denotes radix (List.replicate count '0' ++ text) value := by
  obtain ⟨places, hplaces, rfl⟩ := h
  have hzeros : List.Forall₂ (IsDigit radix) (List.replicate count '0')
      (List.replicate count 0) := by
    induction count with
    | zero => exact .nil
    | succ count ih => exact .cons ⟨hpos, .inl rfl⟩ ih
  refine ⟨places ++ List.replicate count 0, ?_, (Nat.ofDigits_append_replicate_zero places).symm⟩
  rw [List.reverse_append, List.reverse_replicate]
  exact List.rel_append hplaces hzeros

/-- The digits of a value denote it. -/
theorem denotes_toDigits (hradix : 1 < radix) (value : Nat) :
    Denotes radix (Nat.toDigits radix value) value := by
  induction value using Nat.strongRecOn with
  | ind value ih =>
      rcases Nat.lt_or_ge value radix with hlt | hge
      · rw [Nat.toDigits_of_lt_base hlt]
        exact denotes_push_iff.2 ⟨0, value, denotes_nil, ⟨hlt, .inl rfl⟩, by omega⟩
      · have hless : value / radix < value := Nat.div_lt_self (by omega) hradix
        have hdigit : value % radix < radix := Nat.mod_lt _ (by omega)
        rw [Nat.toDigits_of_base_le hradix hge]
        refine denotes_push_iff.2 ⟨_, _, ih _ hless, ⟨hdigit, .inl rfl⟩, ?_⟩
        rw [Nat.mul_comm, Nat.div_add_mod]

/-! ### Reading digits -/

/-- The character cannot follow the digits before it: it is no digit, or it takes the value past a
word. -/
inductive FaultAt (radix : Nat) (before : List Char) (c : Char) : Fault → Prop
  | invalidDigit (none : ∀ digit, ¬ IsDigit radix c digit) : FaultAt radix before c .invalidDigit
  | tooLarge {value : Nat} (denotes : Denotes radix (before ++ [c]) value)
      (large : UInt64.size ≤ value) : FaultAt radix before c .tooLarge

/-- The first character that cannot follow, with the fault that it is. -/
def FirstFault (radix : Nat) (text : List Char) (fault : Fault) : Prop :=
  ∃ before c after value, text = before ++ c :: after ∧ Denotes radix before value ∧
    value < UInt64.size ∧ FaultAt radix before c fault

/-- Either a character is the fault, or reading goes on behind it. -/
theorem faultAt_or_fits (h : Denotes radix before start) (c : Char) :
    (∃ fault, FaultAt radix before c fault) ∨
      ∃ value, Denotes radix (before ++ [c]) value ∧ value < UInt64.size := by
  by_cases hc : ∃ digit, IsDigit radix c digit
  · obtain ⟨digit, hdigit⟩ := hc
    have hpush := denotes_push_iff.2 ⟨start, digit, h, hdigit, rfl⟩
    rcases Nat.lt_or_ge (start * radix + digit) UInt64.size with hlt | hge
    · exact .inr ⟨_, hpush, hlt⟩
    · exact .inl ⟨.tooLarge, .tooLarge hpush hge⟩
  · exact .inl ⟨.invalidDigit, .invalidDigit (not_exists.1 hc)⟩

/-- A text denotes a value that fits a word, or has a first fault. -/
theorem denotes_or_firstFault (radix : Nat) (text : List Char) :
    (∃ value, Denotes radix text value ∧ value < UInt64.size) ∨
      ∃ fault, FirstFault radix text fault := by
  induction text using List.reverseRecOn with
  | nil => exact .inl ⟨0, denotes_nil, by decide⟩
  | append_singleton text c ih =>
      rcases ih with ⟨value, hvalue, hlt⟩ | ⟨fault, before, d, after, value, rfl, hfirst⟩
      · rcases faultAt_or_fits hvalue c with ⟨fault, hfault⟩ | hfits
        · exact .inr ⟨fault, text, c, [], value, rfl, hvalue, hlt, hfault⟩
        · exact .inl hfits
      · exact .inr ⟨fault, before, d, after ++ [c], value, by simp, hfirst⟩

section

variable (hradix : radix ≤ 16) (hpos : 0 < radix)

include hradix

/-- A character that cannot follow is refused for what it is. -/
theorem readDigits_cons_of_faultAt {fault : Fault} (hstart : Denotes radix before start)
    (h : FaultAt radix before c fault) : readDigits radix start (c :: after) = .error fault := by
  cases h with
  | invalidDigit hnone =>
      have hvalue : digitValue? radix c = none := by
        rw [Option.eq_none_iff_forall_ne_some]
        exact fun digit hdigit => hnone digit ((digitValue?_eq_some_iff hradix).1 hdigit)
      rw [readDigits, hvalue]
  | tooLarge hvalue hlarge =>
      obtain ⟨front, digit, hfront, hdigit, rfl⟩ := denotes_push_iff.1 hvalue
      obtain rfl := hfront.unique hradix hstart
      rw [readDigits, (digitValue?_eq_some_iff hradix).2 hdigit]
      exact if_neg (Nat.not_lt.2 hlarge)

/-- A digit that fits is taken. -/
theorem readDigits_cons_of_fits (hstart : Denotes radix before start)
    (h : Denotes radix (before ++ [c]) value) (hlt : value < UInt64.size) :
    readDigits radix start (c :: after) = readDigits radix value after := by
  obtain ⟨front, digit, hfront, hdigit, rfl⟩ := denotes_push_iff.1 h
  obtain rfl := hfront.unique hradix hstart
  rw [readDigits, (digitValue?_eq_some_iff hradix).2 hdigit]
  exact if_pos hlt

include hpos

/-- Reading goes through a text that denotes a value, as long as that value fits a word. -/
theorem readDigits_append (hstart : Denotes radix before start)
    (h : Denotes radix (before ++ text) value) (hlt : value < UInt64.size) :
    readDigits radix start (text ++ after) = readDigits radix value after := by
  induction text generalizing before start with
  | nil =>
      rw [List.append_nil] at h
      rw [hstart.unique hradix h, List.nil_append]
  | cons c text ih =>
      rw [List.append_cons] at h
      obtain ⟨next, hle, hnext⟩ := h.front hpos
      rw [List.cons_append, readDigits_cons_of_fits hradix hstart hnext (by omega), ih hnext h]

/-- A text that denotes a word is read as that word. -/
theorem readDigits_of_denotes (h : Denotes radix text value) (hlt : value < UInt64.size) :
    readDigits radix 0 text = .ok value := by
  have hread : readDigits radix 0 (text ++ []) = .ok value :=
    readDigits_append hradix hpos denotes_nil h hlt
  rwa [List.append_nil] at hread

/-- A text with a fault is refused for the first one. -/
theorem readDigits_of_firstFault {fault : Fault} (h : FirstFault radix text fault) :
    readDigits radix 0 text = .error fault := by
  obtain ⟨before, c, after, value, rfl, hvalue, hlt, hfault⟩ := h
  rw [readDigits_append hradix hpos denotes_nil hvalue hlt,
    readDigits_cons_of_faultAt hradix hvalue hfault]

/-- Exactly the texts that denote words are read. -/
theorem readDigits_eq_ok_iff :
    readDigits radix 0 text = .ok value ↔ Denotes radix text value ∧ value < UInt64.size := by
  refine ⟨fun h => ?_, fun ⟨hvalue, hlt⟩ => readDigits_of_denotes hradix hpos hvalue hlt⟩
  rcases denotes_or_firstFault radix text with ⟨other, hother, hlt⟩ | ⟨fault, hfault⟩
  · rw [readDigits_of_denotes hradix hpos hother hlt] at h
    cases h
    exact ⟨hother, hlt⟩
  · rw [readDigits_of_firstFault hradix hpos hfault] at h
    cases h

/-- Exactly the texts with a fault are refused, each for its first one. -/
theorem readDigits_eq_error_iff {fault : Fault} :
    readDigits radix 0 text = .error fault ↔ FirstFault radix text fault := by
  refine ⟨fun h => ?_, readDigits_of_firstFault hradix hpos⟩
  rcases denotes_or_firstFault radix text with ⟨value, hvalue, hlt⟩ | ⟨other, hother⟩
  · rw [readDigits_of_denotes hradix hpos hvalue hlt] at h
    cases h
  · rw [readDigits_of_firstFault hradix hpos hother] at h
    cases h
    exact hother

end

/-! ### Signs -/

/-- Why a text is refused. A plus sign may stand in front of the digits, but not alone. -/
inductive Refused (radix : Nat) : List Char → Fault → Prop
  | empty : Refused radix [] .empty
  | loneSign : Refused radix ['+'] .invalidDigit
  | signed {text : List Char} {fault : Fault} (first : FirstFault radix text fault) :
      Refused radix ('+' :: text) fault
  | unsigned {text : List Char} {fault : Fault} (sign : text.head? ≠ some '+')
      (first : FirstFault radix text fault) : Refused radix text fault

/-- Where a fault is, there is a character. -/
theorem FirstFault.ne_nil {fault : Fault} (h : FirstFault radix text fault) : text ≠ [] := by
  obtain ⟨before, c, after, -, rfl, -⟩ := h
  exact List.append_ne_nil_of_right_ne_nil before (List.cons_ne_nil c after)

/-- Without a sign the digits are read. -/
theorem read_of_unsigned (hne : text ≠ []) (hsign : text.head? ≠ some '+') :
    read radix text = readDigits radix 0 text := by
  unfold read
  split
  · exact absurd rfl hne
  · exact absurd rfl hsign
  · rfl

/-- A plus in front is passed over. -/
theorem read_of_signed (hne : text ≠ []) : read radix ('+' :: text) = readDigits radix 0 text := by
  cases text with
  | nil => exact absurd rfl hne
  | cons c text => rfl

/-- Digits are expected behind a plus sign that does not stand alone, and else from the start. -/
theorem read_cases (radix : Nat) (text : List Char) :
    text = [] ∨ text = ['+'] ∨
      (∃ digits, text = '+' :: digits ∧ digits ≠ [] ∧
        read radix text = readDigits radix 0 digits) ∨
      text.head? ≠ some '+' ∧ text ≠ [] ∧ read radix text = readDigits radix 0 text := by
  by_cases hsign : text.head? = some '+'
  · obtain ⟨digits, rfl⟩ := List.head?_eq_some_iff.1 hsign
    by_cases hne : digits = []
    · exact .inr (.inl (by rw [hne]))
    · exact .inr (.inr (.inl ⟨digits, rfl, hne, read_of_signed hne⟩))
  · by_cases hne : text = []
    · exact .inl hne
    · exact .inr (.inr (.inr ⟨hsign, hne, read_of_unsigned hne hsign⟩))

section

variable (hradix : radix ≤ 16) (hpos : 0 < radix)

include hradix

/-- A plus is no digit. -/
theorem not_isDigit_plus (digit : Nat) : ¬ IsDigit radix '+' digit := by
  intro h
  cases (digitValue?_eq_some_iff hradix).2 h

/-- A lone sign is refused as a character that is no digit, not as an empty text. -/
theorem read_loneSign : read radix ['+'] = .error .invalidDigit := by
  have hfault : FaultAt radix [] '+' .invalidDigit := .invalidDigit (not_isDigit_plus hradix)
  change readDigits radix 0 ['+'] = .error .invalidDigit
  exact readDigits_cons_of_faultAt hradix denotes_nil hfault

include hpos

/-- A text is read exactly if it is made of digits, perhaps with a plus sign in front of them. -/
theorem read_eq_ok_iff :
    read radix text = .ok value ↔
      ∃ sign digits, text = sign ++ digits ∧ (sign = [] ∨ sign = ['+']) ∧ digits ≠ [] ∧
        Denotes radix digits value ∧ value < UInt64.size := by
  constructor
  · intro h
    rcases read_cases radix text with rfl | rfl | ⟨digits, rfl, hne, hread⟩ | ⟨-, hne, hread⟩
    · cases h
    · rw [read_loneSign hradix] at h
      cases h
    · rw [hread, readDigits_eq_ok_iff hradix hpos] at h
      exact ⟨['+'], digits, rfl, .inr rfl, hne, h⟩
    · rw [hread, readDigits_eq_ok_iff hradix hpos] at h
      exact ⟨[], text, rfl, .inl rfl, hne, h⟩
  · rintro ⟨sign, digits, rfl, hsign, hne, hvalue⟩
    rcases hsign with rfl | rfl
    · have hunsigned : digits.head? ≠ some '+' := by
        intro hplus
        obtain ⟨digit, hdigit⟩ := hvalue.1.isDigit hpos (List.mem_of_head? hplus)
        exact not_isDigit_plus hradix digit hdigit
      rw [List.nil_append, read_of_unsigned hne hunsigned, readDigits_eq_ok_iff hradix hpos]
      exact hvalue
    · rw [List.singleton_append, read_of_signed hne, readDigits_eq_ok_iff hradix hpos]
      exact hvalue

/-- A text is refused exactly for the faults that it has. -/
theorem read_eq_error_iff {fault : Fault} :
    read radix text = .error fault ↔ Refused radix text fault := by
  constructor
  · intro h
    rcases read_cases radix text with rfl | rfl | ⟨digits, rfl, -, hread⟩ | ⟨hsign, -, hread⟩
    · cases h
      exact .empty
    · rw [read_loneSign hradix] at h
      cases h
      exact .loneSign
    · rw [hread, readDigits_eq_error_iff hradix hpos] at h
      exact .signed h
    · rw [hread, readDigits_eq_error_iff hradix hpos] at h
      exact .unsigned hsign h
  · intro h
    cases h with
    | empty => rfl
    | loneSign => exact read_loneSign hradix
    | signed hfirst =>
        rw [read_of_signed hfirst.ne_nil, readDigits_eq_error_iff hradix hpos]
        exact hfirst
    | unsigned hsign hfirst =>
        rw [read_of_unsigned hfirst.ne_nil hsign, readDigits_eq_error_iff hradix hpos]
        exact hfirst

end

end SymbolTrace.Numeral
