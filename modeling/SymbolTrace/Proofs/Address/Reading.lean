import SymbolTrace.Address.Parse
import SymbolTrace.Proofs.Numeral.Reading

/-!
# What an address is read as

A text of an address may open with `0x` or `0X`, which makes the number behind it hexadecimal. No
decimal number looks like that, so a text is opened wherever it can be, and this decides how the
rest of it is read.

## Main definitions

* `Opening`, `Opens`: how a text is opened.
* `Written`: the texts of an address.

## Main results

* `parse_eq_ok_iff`, `parse_eq_error_iff`: what is read, and what is refused for which fault.
* `parse_text`, `parse_repr`: the printed forms are read back.
* `reading_exact`: all of it together.
-/

namespace SymbolTrace.Address

open Numeral

/-! ### Openings -/

/-- What the text of an address may open with. -/
inductive Opening where
  | none
  | lower
  | upper
deriving DecidableEq, Repr

namespace Opening

/-- The characters of an opening. -/
def chars : Opening → List Char
  | none => []
  | lower => ['0', 'x']
  | upper => ['0', 'X']

/-- The radix of the digits behind an opening. -/
def radix : Opening → Nat
  | none => 10
  | lower => 16
  | upper => 16

/-- The radices have digits and small letters at most. -/
theorem radix_le (opening : Opening) : opening.radix ≤ 16 := by
  cases opening <;> decide

/-- No radix is zero. -/
theorem radix_pos (opening : Opening) : 0 < opening.radix := by
  cases opening <;> decide

end Opening

/-- The text opens like this, and the body is what follows. There is no other way to open it. -/
structure Opens (text : String) (opening : Opening) (body : List Char) : Prop where
  toList_eq : text.toList = opening.chars ++ body
  eq_of_opened : ∀ other rest, text.toList = other.chars ++ rest → other = .none ∨ other = opening

variable {text : String} {opening : Opening} {body : List Char} {a : Address}

/-- No text is opened in two ways. -/
theorem Opening.eq_of_chars_append {opening other : Opening} {body rest : List Char}
    (hne : opening ≠ .none) (h : opening.chars ++ body = other.chars ++ rest) :
    other = .none ∨ other = opening := by
  cases opening with
  | none => exact absurd rfl hne
  | lower =>
      cases other with
      | none => exact .inl rfl
      | lower => exact .inr rfl
      | upper => cases h
  | upper =>
      cases other with
      | none => exact .inl rfl
      | lower => cases h
      | upper => exact .inr rfl

/-- A text with a prefix opens with it. -/
theorem opens_of_ne_none (hne : opening ≠ .none) (h : text.toList = opening.chars ++ body) :
    Opens text opening body :=
  ⟨h, fun _ _ hother => Opening.eq_of_chars_append hne (h.symm.trans hother)⟩

/-- What does not start with a zero follows no matter how the text opens. -/
theorem opens_of_head?_ne (hzero : body.head? ≠ some '0')
    (h : text.toList = opening.chars ++ body) : Opens text opening body := by
  by_cases hne : opening = .none
  · subst hne
    refine ⟨h, fun other rest hother => ?_⟩
    cases other with
    | none => exact .inl rfl
    | lower => exact absurd (congrArg List.head? (h.symm.trans hother)) hzero
    | upper => exact absurd (congrArg List.head? (h.symm.trans hother)) hzero
  · exact opens_of_ne_none hne h

/-- Every text opens in some way. -/
theorem exists_opens (text : String) : ∃ opening body, Opens text opening body := by
  by_cases h : ∃ opening body, opening ≠ Opening.none ∧ text.toList = opening.chars ++ body
  · obtain ⟨opening, body, hne, htext⟩ := h
    exact ⟨opening, body, opens_of_ne_none hne htext⟩
  · refine ⟨.none, text.toList, rfl, fun other rest hother => .inl ?_⟩
    by_contra hne
    exact h ⟨other, rest, hne, hother⟩

/-- The prefix decides the radix, and the rest is read in it. -/
theorem readNumber_of_opens (h : Opens text opening body) :
    readNumber text.toList = read opening.radix body := by
  obtain ⟨htext, hopened⟩ := h
  cases opening with
  | lower => rw [htext]; rfl
  | upper => rw [htext]; rfl
  | none =>
      unfold readNumber
      split
      · rename_i digits heq
        exact absurd (hopened .lower digits heq) (by decide)
      · rename_i digits heq
        exact absurd (hopened .upper digits heq) (by decide)
      · rw [htext]; rfl

/-! ### Texts of addresses -/

/-- The text is that of an address: perhaps an opening, perhaps a plus sign, and digits. -/
def Written (text : String) (a : Address) : Prop :=
  ∃ (opening : Opening) (sign digits : List Char),
    text.toList = opening.chars ++ sign ++ digits ∧ (sign = [] ∨ sign = ['+']) ∧ digits ≠ [] ∧
      Denotes opening.radix digits a.toNat

/-- A number without an opening opens in no other way: `x` is no decimal digit. -/
theorem opens_of_denotes {sign digits : List Char}
    (h : text.toList = opening.chars ++ (sign ++ digits))
    (hsign : sign = [] ∨ sign = ['+']) {value : Nat} (hvalue : Denotes opening.radix digits value) :
    Opens text opening (sign ++ digits) := by
  have hx : ∀ digit, ¬ IsDigit 10 'x' digit ∧ ¬ IsDigit 10 'X' digit := by
    intro digit
    rw [← digitValue?_eq_some_iff (by decide), ← digitValue?_eq_some_iff (by decide)]
    exact ⟨nofun, nofun⟩
  by_cases hne : opening = .none
  · subst hne
    rcases hsign with rfl | rfl
    · refine ⟨h, fun other rest hother => ?_⟩
      have hdigits : digits = other.chars ++ rest := h.symm.trans hother
      subst hdigits
      cases other with
      | none => exact .inl rfl
      | lower =>
          obtain ⟨digit, hdigit⟩ := hvalue.isDigit (by decide) (c := 'x') (by simp [Opening.chars])
          exact absurd hdigit (hx digit).1
      | upper =>
          obtain ⟨digit, hdigit⟩ := hvalue.isDigit (by decide) (c := 'X') (by simp [Opening.chars])
          exact absurd hdigit (hx digit).2
    · exact opens_of_head?_ne (by simp) h
  · exact opens_of_ne_none hne h

/-- A value that fits a word is kept. -/
theorem toNat_ofNat_of_lt {value : Nat} (h : value < UInt64.size) :
    toNat ⟨UInt64.ofNat value⟩ = value :=
  UInt64.toNat_ofNat_of_lt h

/-- **What is read.** -/
theorem parse_eq_ok_iff : parse text = .ok a ↔ Written text a := by
  constructor
  · intro h
    obtain ⟨opening, body, hopens⟩ := exists_opens text
    rw [parse, readNumber_of_opens hopens] at h
    cases hread : read opening.radix body with
    | error fault =>
        rw [hread] at h
        cases h
    | ok value =>
        rw [hread] at h
        cases h
        obtain ⟨sign, digits, rfl, hsign, hne, hvalue, hlt⟩ :=
          (read_eq_ok_iff opening.radix_le opening.radix_pos).1 hread
        refine ⟨opening, sign, digits, ?_, hsign, hne, ?_⟩
        · rw [hopens.toList_eq, List.append_assoc]
        · rwa [toNat_ofNat_of_lt hlt]
  · rintro ⟨opening, sign, digits, htext, hsign, hne, hvalue⟩
    rw [List.append_assoc] at htext
    have hread : read opening.radix (sign ++ digits) = .ok a.toNat :=
      (read_eq_ok_iff opening.radix_le opening.radix_pos).2
        ⟨sign, digits, rfl, hsign, hne, hvalue, a.toNat_lt⟩
    rw [parse, readNumber_of_opens (opens_of_denotes htext hsign hvalue), hread]
    exact congrArg Except.ok (ext_toNat (toNat_ofNat_of_lt a.toNat_lt))

example : parse "0X+00fF" = .ok ⟨0xff⟩ := by decide

/-- **What is refused.** -/
theorem parse_eq_error_iff {e : AddressFault} :
    parse text = .error e ↔ e.text = text ∧
      ∃ opening body, Opens text opening body ∧ Refused opening.radix body e.fault := by
  have hparse : ∀ opening body, Opens text opening body → (parse text = .error e ↔
      e.text = text ∧ Refused opening.radix body e.fault) := by
    intro opening body hopens
    rw [parse, readNumber_of_opens hopens, ← read_eq_error_iff opening.radix_le opening.radix_pos]
    obtain ⟨etext, efault⟩ := e
    cases read opening.radix body with
    | ok value => simp
    | error fault => simp [eq_comm]
  constructor
  · intro h
    obtain ⟨opening, body, hopens⟩ := exists_opens text
    obtain ⟨htext, hrefused⟩ := (hparse opening body hopens).1 h
    exact ⟨htext, opening, body, hopens, hrefused⟩
  · rintro ⟨htext, opening, body, hopens, hrefused⟩
    exact (hparse opening body hopens).2 ⟨htext, hrefused⟩

/-- Reading stops before it comes to the last character. -/
example : parse "18446744073709551616z" = .error ⟨"18446744073709551616z", .tooLarge⟩ := by
  decide

/-- Only the empty text is refused as empty. -/
theorem refused_empty_iff {radix : Nat} : Refused radix body .empty ↔ body = [] := by
  constructor
  · intro h
    cases h with
    | empty => rfl
    | signed first =>
        obtain ⟨_, _, _, _, -, -, -, hfault⟩ := first
        cases hfault
    | unsigned _ first =>
        obtain ⟨_, _, _, _, -, -, -, hfault⟩ := first
        cases hfault
  · rintro rfl
    exact .empty

/-- Only a bare prefix, or nothing, is refused as empty. -/
theorem parse_eq_empty_iff :
    parse text = .error ⟨text, .empty⟩ ↔ ∃ opening : Opening, text.toList = opening.chars := by
  simp only [parse_eq_error_iff, true_and, refused_empty_iff]
  constructor
  · rintro ⟨opening, body, hopens, rfl⟩
    exact ⟨opening, hopens.toList_eq.trans (List.append_nil _)⟩
  · rintro ⟨opening, htext⟩
    exact ⟨opening, [], opens_of_head?_ne (by simp) (htext.trans (List.append_nil _).symm), rfl⟩

/-- A sign alone is a character that is no digit. -/
theorem parse_loneSign (opening : Opening) {sign : Char} (hsign : sign = '+' ∨ sign = '-') :
    parse (String.ofList (opening.chars ++ [sign])) =
      .error ⟨String.ofList (opening.chars ++ [sign]), .invalidDigit⟩ := by
  refine parse_eq_error_iff.2 ⟨rfl, opening, [sign], opens_of_head?_ne ?_ String.toList_ofList, ?_⟩
  · rcases hsign with rfl | rfl <;> decide
  · rcases hsign with rfl | rfl
    · exact .loneSign
    · have hminus : ∀ digit, ¬ IsDigit opening.radix '-' digit := by
        intro digit h
        cases (digitValue?_eq_some_iff opening.radix_le).2 h
      exact .unsigned (by decide) ⟨[], '-', [], 0, rfl, denotes_nil, by decide,
        .invalidDigit hminus⟩

/-! ### Printed forms -/

/-- The text that an address is printed as is read back. -/
theorem parse_text (a : Address) : parse a.text = .ok a := by
  refine parse_eq_ok_iff.2 ⟨.lower, [], (Nat.toDigits 16 a.toNat).leftpad 16 '0',
    String.toList_ofList, .inl rfl, ?_, ?_⟩
  · exact List.append_ne_nil_of_right_ne_nil _ Nat.toDigits_ne_nil
  · exact (denotes_toDigits (by decide) a.toNat).leadingZeros (by decide) _

/-- The decimal number of an address is read back. -/
theorem parse_repr (a : Address) : parse a.toNat.repr = .ok a := by
  refine parse_eq_ok_iff.2 ⟨.none, [], Nat.toDigits 10 a.toNat, ?_, .inl rfl,
    Nat.toDigits_ne_nil, denotes_toDigits (by decide) a.toNat⟩
  rw [Nat.repr_eq_ofList_toDigits, String.toList_ofList]
  rfl

/-- Addresses are told apart by their texts. -/
theorem text_injective {a b : Address} (h : a.text = b.text) : a = b := by
  have hread := parse_text a
  rw [h, parse_text] at hread
  exact (Except.ok.inj hread).symm

/-- **Reading an address is exact.**

* A text is read as an address exactly if it is an optional opening, an optional plus sign, and
  digits of the radix that the opening asks for, and if these denote the address. So what they
  denote fits a word.
* A text is refused exactly for the fault that its body has: it is empty, it is a plus sign alone,
  or, behind an optional plus sign, some first character is no digit or takes the value past a word.
* In particular it is refused as empty exactly if nothing follows the opening, and a sign alone is
  refused as an invalid digit.
* The printed form of an address and its decimal number are read back as that address. -/
theorem reading_exact :
    (∀ text a, parse text = .ok a ↔ Written text a) ∧
    (∀ text e, parse text = .error e ↔ e.text = text ∧
      ∃ opening body, Opens text opening body ∧ Refused opening.radix body e.fault) ∧
    (∀ text, parse text = .error ⟨text, .empty⟩ ↔
      ∃ opening : Opening, text.toList = opening.chars) ∧
    (∀ opening : Opening,
      let plus := String.ofList (opening.chars ++ ['+'])
      let minus := String.ofList (opening.chars ++ ['-'])
      parse plus = .error ⟨plus, .invalidDigit⟩ ∧ parse minus = .error ⟨minus, .invalidDigit⟩) ∧
    ∀ a : Address, parse a.text = .ok a ∧ parse a.toNat.repr = .ok a := by
  refine ⟨fun text a => parse_eq_ok_iff, fun text e => parse_eq_error_iff,
    fun text => parse_eq_empty_iff, ?_, fun a => ⟨parse_text a, parse_repr a⟩⟩
  intro opening plus minus
  exact ⟨parse_loneSign opening (.inl rfl), parse_loneSign opening (.inr rfl)⟩

end SymbolTrace.Address
