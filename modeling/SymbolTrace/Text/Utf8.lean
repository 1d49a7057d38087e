import SymbolTrace.Text.Bytes

/-!
# The bytes of a text

A text has a byte sequence, its characters one after the other in UTF-8. A byte below `0x80` is
only ever a whole character, so looking at single bytes never mistakes a part of a character for
an ASCII character (`mem_utf8EncodeChar_iff`).

* `utf8`: the bytes of a text.
* `fromUTF8?_eq_some_iff`: the byte sequences that are texts.
-/

namespace SymbolTrace.Text

/-- The bytes of a text, in order. -/
def utf8 (text : List Char) : List UInt8 := text.flatMap String.utf8EncodeChar

@[simp] theorem utf8_nil : utf8 [] = [] := rfl

@[simp] theorem utf8_cons (c : Char) (text : List Char) :
    utf8 (c :: text) = String.utf8EncodeChar c ++ utf8 text := rfl

/-- Texts are encoded part by part. -/
theorem utf8_append (front back : List Char) : utf8 (front ++ back) = utf8 front ++ utf8 back :=
  List.flatMap_append

/-- Every character has a byte. -/
theorem utf8_eq_nil_iff {text : List Char} : utf8 text = [] ↔ text = [] := by
  cases text <;> simp

/-- There are as many bytes as are counted. -/
theorem length_utf8 (text : List Char) : (utf8 text).length = byteCount text := by
  induction text with
  | nil => rfl
  | cons c text ih =>
      rw [utf8_cons, List.length_append, ih, String.length_utf8EncodeChar, byteCount]

/-! ### Single bytes -/

/-- An ASCII character is one byte. -/
theorem utf8EncodeChar_of_ascii {c : Char} (h : c.toNat < 128) :
    String.utf8EncodeChar c = [c.toUInt8] := by
  refine String.utf8EncodeChar_eq_singleton (Char.utf8Size_eq_one_iff.2 ?_)
  exact UInt32.le_iff_toNat_le.2 (Nat.le_of_lt_succ h)

/-- ASCII text has as many bytes as characters. -/
theorem byteCount_eq_length {text : List Char} (h : ∀ c ∈ text, c.toNat < 128) :
    byteCount text = text.length := by
  induction text with
  | nil => rfl
  | cons c text ih =>
      have hc := congrArg List.length (utf8EncodeChar_of_ascii (h c List.mem_cons_self))
      rw [String.length_utf8EncodeChar, List.length_singleton] at hc
      rw [byteCount, hc, ih fun d hd => h d (List.mem_cons_of_mem c hd), List.length_cons,
        Nat.add_comm]

/-- Digits are ASCII characters. -/
theorem toNat_lt_of_isDigit {c : Char} (h : c.isDigit = true) : c.toNat < 128 := by
  simp only [Char.isDigit, Bool.and_eq_true, decide_eq_true_eq, UInt32.le_iff_toNat_le] at h
  exact Nat.lt_of_le_of_lt h.2 (by decide)

/-- The mark that every byte of a longer character carries. -/
theorem le_or_mark (byte : UInt8) {mark : UInt8} (h : 128 ≤ mark) : 128 ≤ byte ||| mark := by
  rw [UInt8.le_iff_toNat_le] at h ⊢
  rw [UInt8.toNat_or]
  exact Nat.le_trans h Nat.right_le_or

/-- A byte below `0x80` is a whole character. -/
theorem utf8EncodeChar_eq_singleton_of_mem {c : Char} {byte : UInt8}
    (h : byte ∈ String.utf8EncodeChar c) (hbyte : byte < 128) : c.toNat < 128 ∧ byte = c.toUInt8 := by
  have hlow : ∀ {b mark : UInt8}, 128 ≤ mark → byte ≠ b ||| mark := by
    rintro b mark hmark rfl
    exact UInt8.not_lt.2 (le_or_mark b hmark) hbyte
  rcases Char.utf8Size_eq c with hsize | hsize | hsize | hsize
  · rw [String.utf8EncodeChar_eq_singleton hsize, List.mem_singleton] at h
    exact ⟨Nat.lt_succ_of_le (UInt32.le_iff_toNat_le.1 (Char.utf8Size_eq_one_iff.1 hsize)), h⟩
  · rw [String.utf8EncodeChar_eq_cons_cons hsize] at h
    simp [hlow] at h
  · rw [String.utf8EncodeChar_eq_cons_cons_cons hsize] at h
    simp [hlow] at h
  · rw [String.utf8EncodeChar_eq_cons_cons_cons_cons hsize] at h
    simp [hlow] at h

/-- An ASCII character is its own byte. -/
theorem toNat_toUInt8 {c : Char} (h : c.toNat < 128) : c.toUInt8.toNat = c.toNat := by
  show c.val.toNat % 256 = c.val.toNat
  have : c.val.toNat < 128 := h
  omega

/-- A byte is taken for the character of its value. -/
theorem toNat_ofUInt8 (byte : UInt8) : (Char.ofUInt8 byte).toNat = byte.toNat := rfl

/-- The byte of an ASCII character stands for it. -/
theorem ofUInt8_toUInt8 {c : Char} (h : c.toNat < 128) : Char.ofUInt8 c.toUInt8 = c := by
  apply Char.toNat_inj.1
  rw [toNat_ofUInt8, toNat_toUInt8 h]

/-- The byte of an ASCII character stands in no other character. -/
theorem mem_utf8EncodeChar_iff {a c : Char} (ha : a.toNat < 128) :
    a.toUInt8 ∈ String.utf8EncodeChar c ↔ c = a := by
  constructor
  · intro h
    have hlow : a.toUInt8 < 128 := by
      rw [UInt8.lt_iff_toNat_lt, toNat_toUInt8 ha]
      exact ha
    obtain ⟨hc, hbyte⟩ := utf8EncodeChar_eq_singleton_of_mem h hlow
    apply Char.toNat_inj.1
    rw [← toNat_toUInt8 hc, ← hbyte, toNat_toUInt8 ha]
  · rintro rfl
    rw [utf8EncodeChar_of_ascii ha]
    exact List.mem_singleton_self _

/-! ### Bytes that are a text -/

/-- The bytes in the order of their positions. -/
theorem toList_eq (stream : ByteArray) : stream.toList = stream.data.toList := by
  have hloop : ∀ index taken, ByteArray.toList.loop stream index taken =
      taken.reverse ++ stream.data.toList.drop index := by
    intro index taken
    fun_induction ByteArray.toList.loop stream index taken with
    | case1 index taken hindex ih =>
        have hlength : index < stream.data.toList.length := hindex
        have hget : stream.get! index = stream.data.toList[index] :=
          getElem!_pos stream.data index hindex
        rw [ih, List.reverse_cons, List.append_assoc, List.drop_eq_getElem_cons hlength, hget,
          List.singleton_append]
    | case2 index taken hindex =>
        rw [List.drop_eq_nil_of_le (Nat.le_of_not_lt hindex), List.append_nil]
  exact hloop 0 []

/-- Bytes make a text exactly if they are the text's own. -/
theorem fromUTF8?_eq_some_iff {bytes : ByteArray} {text : String} :
    String.fromUTF8? bytes = some text ↔ bytes.data.toList = utf8 text.toList := by
  have hutf8 : text.toByteArray.data.toList = utf8 text.toList := by
    rw [← String.utf8Encode_toList]
    exact List.toList_data_toByteArray
  rw [← hutf8, Array.toList_inj, ← ByteArray.ext_iff]
  unfold String.fromUTF8?
  split
  · rw [Option.some.injEq, ← String.toByteArray_inj]
    rfl
  · rename_i hinvalid
    constructor
    · intro h
      cases h
    · rintro rfl
      exact absurd text.isValidUTF8 hinvalid

end SymbolTrace.Text
