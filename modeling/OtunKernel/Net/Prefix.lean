import OtunKernel.Net.Addr

namespace OtunKernel.Net

open Addr

def Addr.next : Addr → Addr
  | .zero => .zero
  | .v4 bits => if bits = BitVec.allOnes 32 then .zero else .v4 (bits + 1)
  | .v6 bits => if bits = BitVec.allOnes 128 then .zero else .v6 (bits + 1)

def Addr.width : Addr → Nat
  | .zero => 0
  | .v4 _ => 32
  | .v6 _ => 128

-- A valid netip.Prefix. Its address need not be the first of the range.
structure Prefix where
  addr : Addr
  bits : Nat
  valid : addr.isValid = true ∧ bits ≤ addr.width
deriving DecidableEq

def Prefix.contains (range : Prefix) (address : Addr) : Bool :=
  match range.addr, address with
  | .v4 base, .v4 bits => (base ^^^ bits) >>> (32 - range.bits) == 0
  | .v6 base, .v6 bits => (base ^^^ bits) >>> (128 - range.bits) == 0
  | _, _ => false

def broadcastAddress (range : Prefix) : Addr :=
  match range.addr with
  | .zero => .zero
  | .v4 base => .v4 (base ||| BitVec.allOnes 32 >>> range.bits)
  | .v6 base => .v6 (base ||| BitVec.allOnes 128 >>> range.bits)

theorem toNat_succ {width : Nat} {bits : BitVec width} (inside : bits ≠ BitVec.allOnes width) :
    (bits + 1).toNat = bits.toNat + 1 := by
  have last : bits.toNat ≠ 2 ^ width - 1 := by
    intro same
    refine inside (BitVec.eq_of_toNat_eq ?_)
    rw [same, BitVec.toNat_allOnes]
  simpa [BitVec.toNat_add, BitVec.ofNat_eq_ofNat, BitVec.toNat_ofNat, Nat.add_mod_mod] using Nat.mod_eq_of_lt (by omega)

variable {address : Addr} {range : Prefix}

theorem contains_family (inside : range.contains address = true) : address.is4 = range.addr.is4 ∧ address.is6 = range.addr.is6 := by
  unfold Prefix.contains at inside
  grind [is4, is6]

theorem next_next_is4 (family : address.is4 = true) (before : address ≠ .v4 0xfffffffe#32)
    (valid : address.next.isValid = true) : address.next.next.is4 = true := by
  cases address with
  | zero | v6 => contradiction
  | v4 bits =>
    have inside : bits ≠ BitVec.allOnes 32 := by
      rintro rfl
      contradiction
    have more : bits + 1 ≠ BitVec.allOnes 32 := by grind
    simp only [next, if_neg inside, if_neg more, is4]

def Addr.index : Addr → Nat
  | .zero => 0
  | .v4 bits => bits.toNat
  | .v6 bits => bits.toNat

theorem next_index (valid : address.next.isValid = true) : address.next.index = address.index + 1 := by
  cases address with
  | zero => contradiction
  | v4 bits =>
    have inside : bits ≠ BitVec.allOnes 32 := by
      rintro rfl
      contradiction
    rw [next, if_neg inside]
    exact toNat_succ inside
  | v6 bits =>
    have inside : bits ≠ BitVec.allOnes 128 := by
      rintro rfl
      contradiction
    rw [next, if_neg inside]
    exact toNat_succ inside

theorem contains_valid (inside : range.contains address = true) : address.isValid = true := by
  cases address with
  | zero => cases base : range.addr <;> simp [Prefix.contains, base] at inside
  | v4 | v6 => rfl

theorem next_not_is4 (address : Addr) (other : address.is4 = false) : address.next.is4 = false := by
  cases address with
  | zero => rfl
  | v4 => contradiction
  | v6 =>
    rw [next]
    split <;> rfl

end OtunKernel.Net
