/-!
# Code addresses

An address is a 64-bit word. It has a type of its own so that it is not mixed up with sizes,
offsets and counts. Moving an address by an unsigned distance wraps around; moving it by a signed
bias is refused when the result does not fit; the offset of one address from another is zero when
the other lies above it.

Each operation comes with a lemma that states its value in the natural numbers or the integers.
-/

namespace SymbolTrace

/-- A code address. -/
structure Address where
  value : UInt64
deriving DecidableEq, Repr

namespace Address

/-- The null address. -/
def zero : Address := ⟨0⟩

instance : Inhabited Address := ⟨zero⟩

instance : Ord Address := ⟨fun a b => compare a.value b.value⟩

/-- The address as a natural number. -/
def toNat (a : Address) : Nat := a.value.toNat

/-- The address that is `n` bytes further on, around the end of the address space. -/
def advance (a : Address) (n : UInt64) : Address := ⟨a.value + n⟩

/-- The address that is `n` bytes back, around the start of the address space. -/
def retreat (a : Address) (n : UInt64) : Address := ⟨a.value - n⟩

/-- Bytes from `base` up to the address; zero if `base` lies above it. -/
def bytesAbove (a base : Address) : Nat := a.toNat - base.toNat

/-- The address moved by a signed bias, if it stays inside the address space. -/
def shift? (a : Address) (bias : Int64) : Option Address :=
  if 0 ≤ (a.toNat : Int) + bias.toInt ∧ (a.toNat : Int) + bias.toInt < UInt64.size then
    some ⟨UInt64.ofNat ((a.toNat : Int) + bias.toInt).toNat⟩
  else none

/-- `0x` and sixteen hexadecimal digits. -/
def text (a : Address) : String :=
  String.ofList ('0' :: 'x' :: (Nat.toDigits 16 a.toNat).leftpad 16 '0')

/-- An address is a machine word. -/
theorem toNat_lt (a : Address) : a.toNat < UInt64.size := a.value.toNat_lt

/-- Addresses are told apart by their values. -/
theorem ext_toNat {a b : Address} (h : a.toNat = b.toNat) : a = b := by
  cases a
  cases b
  exact congrArg Address.mk (UInt64.toNat_inj.1 h)

/-- A bias moves an address exactly, or not at all: nothing wraps around. -/
theorem shift?_eq_some_iff {a b : Address} {bias : Int64} :
    a.shift? bias = some b ↔ (b.toNat : Int) = a.toNat + bias.toInt := by
  have hb : b.toNat < 18446744073709551616 := b.toNat_lt
  unfold shift?
  simp only [UInt64.size]
  constructor
  · intro h
    split at h
    · rename_i hfit
      rw [Option.some.injEq] at h
      subst h
      simp only [toNat, UInt64.toNat_ofNat'] at hfit ⊢
      omega
    · cases h
  · intro h
    rw [if_pos (by omega), Option.some.injEq]
    apply ext_toNat
    simp only [toNat, UInt64.toNat_ofNat'] at h hb ⊢
    omega

end Address

end SymbolTrace
