import Mathlib.Algebra.Order.Ring.Nat
import OtunKernel.Lib.Outcome

namespace OtunKernel.Lib

abbrev Bytes := List UInt8

def beUint16 (high low : UInt8) : UInt16 := high.toUInt16 <<< 8 ||| low.toUInt16

def uint16At (bytes : Bytes) (i : Nat) : UInt16 := beUint16 (bytes.getD i 0) (bytes.getD (i + 1) 0)

def putUint16 (value : UInt16) : Bytes := [(value >>> 8).toUInt8, value.toUInt8]

theorem be_uint16_toNat (high low : UInt8) : (beUint16 high low).toNat = high.toNat * 256 + low.toNat := by
  have high_lt := high.toNat_lt
  have low_lt := low.toNat_lt
  have shifted : high.toNat <<< 8 % 2 ^ 16 = high.toNat * 256 := by omega
  change high.toNat <<< 8 % 2 ^ 16 ||| low.toNat = _
  rw [shifted, show high.toNat * 256 = 2 ^ 8 * high.toNat by omega, ← Nat.two_pow_add_eq_or_of_lt low_lt]

theorem be_uint16_put (value : UInt16) : beUint16 (value >>> 8).toUInt8 value.toUInt8 = value := by
  apply UInt16.toNat_inj.mp
  have bounded := value.toNat_lt
  rw [be_uint16_toNat]
  change value.toNat >>> 8 % 256 * 256 + value.toNat % 256 = value.toNat
  omega

theorem index_byte {ε : Type} {bytes : Bytes} {i : Nat} (inside : i < bytes.length) :
    (indexAt bytes i : Outcome ε UInt8) = .ok (bytes.getD i 0) := index_at_eq inside

def beNat (bytes : Bytes) : Nat := bytes.foldl (fun value byte => value * 256 + byte.toNat) 0

theorem be_nat_cons_lt (byte : UInt8) (bytes : Bytes) : beNat (byte :: bytes) < (byte.toNat + 1) * 256 ^ bytes.length := by
  have grows : ∀ (bytes : Bytes) (value : Nat),
      bytes.foldl (fun value byte => value * 256 + byte.toNat) value < (value + 1) * 256 ^ bytes.length := by
    intro bytes
    induction bytes with
    | nil => intro value; simp
    | cons byte bytes ih =>
      intro value
      have small := byte.toNat_lt
      calc
        _ < (value * 256 + byte.toNat + 1) * 256 ^ bytes.length := ih (value * 256 + byte.toNat)
        _ ≤ (value + 1) * 256 * 256 ^ bytes.length := Nat.mul_le_mul_right _ (by omega)
        _ = (value + 1) * 256 ^ (byte :: bytes).length := by rw [List.length_cons, Nat.pow_succ, Nat.mul_assoc, Nat.mul_comm 256]
  rw [beNat, List.foldl_cons, Nat.zero_add]
  exact grows bytes byte.toNat

def beBytes : Nat → Nat → Bytes
  | 0, _ => []
  | count + 1, value => beBytes count (value / 256) ++ [UInt8.ofNat value]

@[simp] theorem length_be_bytes (count value : Nat) : (beBytes count value).length = count := by
  induction count generalizing value with
  | zero => rfl
  | succ _ ih => rw [beBytes, List.length_append, ih]; rfl

theorem be_nat_be_bytes_mod (count value : Nat) : beNat (beBytes count value) = value % 256 ^ count := by
  induction count generalizing value with
  | zero => rw [Nat.pow_zero, Nat.mod_one]; rfl
  | succ count ih =>
    have earlier : (beBytes count (value / 256)).foldl (fun value byte => value * 256 + byte.toNat) 0 = _ := ih (value / 256)
    rw [beBytes, beNat, List.foldl_append, earlier, Nat.pow_succ', Nat.mod_mul]
    simp only [List.foldl_cons, List.foldl_nil, UInt8.toNat_ofNat']
    omega

theorem be_nat_be_bytes {count value : Nat} (small : value < 256 ^ count) : beNat (beBytes count value) = value := by
  rw [be_nat_be_bytes_mod, Nat.mod_eq_of_lt small]

theorem getD_drop (bytes : Bytes) (count i : Nat) (byte : UInt8) :
    (bytes.drop count).getD i byte = bytes.getD (count + i) byte := by
  rw [List.getD_eq_getElem?_getD, List.getD_eq_getElem?_getD, List.getElem?_drop]

theorem getD_take (bytes : Bytes) {count i : Nat} (inside : i < count) (byte : UInt8) :
    (bytes.take count).getD i byte = bytes.getD i byte := by
  rw [List.getD_eq_getElem?_getD, List.getD_eq_getElem?_getD, List.getElem?_take_of_lt inside]

@[simp] theorem uint16_at_drop (bytes : Bytes) (count i : Nat) : uint16At (bytes.drop count) i = uint16At bytes (count + i) := by
  rw [uint16At, uint16At, getD_drop, getD_drop, Nat.add_assoc]

section
variable {α : Type} [BEq α]

theorem length_splitOn (separator : α) (items : List α) : (items.splitOn separator).length = items.count separator + 1 := by
  induction items with
  | nil => rfl
  | cons _ _ ih =>
    rw [List.splitOn] at ih ⊢
    grind [List.splitOnP_cons_eq_if_modifyHead]

theorem sum_length_splitOn (separator : α) (items : List α) :
    ((items.splitOn separator).map List.length).sum + (items.splitOn separator).length = items.length + 1 := by
  induction items with
  | nil => rfl
  | cons _ rest ih =>
    rw [List.splitOn] at ih ⊢
    rw [List.splitOnP_cons_eq_if_modifyHead]
    split
    · grind
    cases parts : List.splitOnP (fun x => x == separator) rest with
    | nil => simp_all
    | cons => grind [List.modifyHead_cons, List.length_cons]

theorem not_mem_of_mem_splitOn [LawfulBEq α] {separator : α} {items part : List α}
    (member : part ∈ items.splitOn separator) : separator ∉ part := by
  induction items generalizing part with
  | nil => simp_all
  | cons item rest ih =>
    rw [List.splitOn] at ih member
    rw [List.splitOnP_cons_eq_if_modifyHead] at member
    split at member
    · grind
    cases parts : List.splitOnP (fun x => x == separator) rest with
    | nil => simp_all
    | cons first =>
      rw [parts] at member ih
      rcases List.mem_cons.mp member with rfl | later
      · grind
      · grind

end

section
variable {α : Type}

def cutAt (items : List α) : Nat → List Nat → List (List α)
  | start, [] => [items.drop start]
  | start, cut :: rest => (items.take cut).drop start :: cutAt items cut rest

variable (items : List α) {start : Nat} {cuts : List Nat}

@[simp] theorem length_cut_at (start : Nat) (cuts : List Nat) : (cutAt items start cuts).length = cuts.length + 1 := by
  induction cuts generalizing start with
  | nil => rfl
  | cons _ _ ih => rw [cutAt, List.length_cons, ih, List.length_cons]

theorem cut_at_getD {i : Nat} (inside : i ≤ cuts.length) :
    (cutAt items start cuts).getD i [] =
      (items.take (cuts.getD i items.length)).drop (if i = 0 then start else cuts.getD (i - 1) 0) := by
  induction cuts generalizing start i with
  | nil =>
    obtain rfl : i = 0 := Nat.le_zero.mp inside
    change items.drop start = (items.take items.length).drop start
    rw [List.take_length]
  | cons _ _ ih => grind [cutAt, List.getD_cons_succ]

theorem cut_at_flatten (after : ∀ cut ∈ cuts, start ≤ cut) (ordered : cuts.Pairwise (· < ·)) :
    (cutAt items start cuts).flatten = items.drop start := by
  induction cuts generalizing start with
  | nil => rw [cutAt, List.flatten_singleton]
  | cons cut _ ih =>
    have first := after cut List.mem_cons_self
    have later := List.pairwise_cons.mp ordered
    rw [cutAt, List.flatten_cons, ih (fun other member => Nat.le_of_lt (later.1 other member)) later.2]
    by_cases inside : start ≤ (items.take cut).length
    · rw [← List.drop_append_of_le_length inside, List.take_append_drop]
    grind [List.drop_eq_nil_of_le]

theorem cut_at_full (after : ∀ cut ∈ cuts, start < cut) (ordered : cuts.Pairwise (· < ·))
    (inside : ∀ cut ∈ cuts, cut < items.length) (begins : start < items.length) :
    ∀ piece ∈ cutAt items start cuts, piece ≠ [] := by
  induction cuts generalizing start with
  | nil =>
    intro piece member
    rw [cutAt, List.mem_singleton] at member
    rw [member, ← List.length_pos_iff, List.length_drop]
    omega
  | cons cut _ ih =>
    have later := List.pairwise_cons.mp ordered
    intro piece member
    rw [cutAt, List.mem_cons] at member
    rcases member with rfl | member
    · simp_all
    · grind

end
end OtunKernel.Lib
