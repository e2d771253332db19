import OtunKernel.Lib.Bytes

namespace OtunKernel.Lib

variable {ε α β : Type} {onEnd : Option ε → Bool → ε} {size : Nat}

-- A program that reads its input in full pieces and asks for memory. onEnd is
-- its error if the input ends before: it is told the error at which it breaks
-- off, if any, and whether nothing was left.
inductive Decoder (ε β : Type) where
  | done (value : β)
  | fail (err : ε)
  | running
  | take (size : Nat) (onEnd : Option ε → Bool → ε) (next : Bytes → Decoder ε β)
  | make (size : Nat) (next : Decoder ε β)

namespace Decoder

def bind : Decoder ε α → (α → Decoder ε β) → Decoder ε β
  | .done value, next => next value
  | .fail err, _ => .fail err
  | .running, _ => .running
  | .take size onEnd first, next => .take size onEnd (fun bytes => (first bytes).bind next)
  | .make size first, next => .make size (first.bind next)

instance : Monad (Decoder ε) where
  pure := .done
  bind := bind

def mapError (f : ε → ε) : Decoder ε α → Decoder ε α
  | .done value => .done value
  | .fail err => .fail (f err)
  | .running => .running
  | .take size onEnd next => .take size (fun broken nothing => f (onEnd broken nothing)) (fun bytes => (next bytes).mapError f)
  | .make size next => .make size (next.mapError f)

def run (limit : Nat) (broken : Option ε) : Decoder ε α → Bytes → Outcome ε (α × Bytes)
  | .done value, rest => .ok (value, rest)
  | .fail err, _ => .error err
  | .running, _ => .running
  | .take size onEnd next, rest =>
    if size ≤ rest.length then (next (rest.take size)).run limit broken (rest.drop size)
    else .error (onEnd broken (rest.length == 0))
  | .make size next, rest => if size ≤ limit then next.run limit broken rest else .panic

def times (body : Nat → Decoder ε α) : Nat → Nat → Decoder ε (List α)
  | 0, _ => .done []
  | count + 1, i => do
    let value ← body i
    let later ← times body count (i + 1)
    .done (value :: later)

variable {limit : Nat} {broken : Option ε}

@[simp] theorem run_pure (value : α) (rest : Bytes) : (pure value : Decoder ε α).run limit broken rest = .ok (value, rest) := rfl

@[simp] theorem run_done (value : α) (rest : Bytes) : (.done value : Decoder ε α).run limit broken rest = .ok (value, rest) := rfl

@[simp] theorem run_fail (err : ε) (rest : Bytes) : (.fail err : Decoder ε α).run limit broken rest = .error err := rfl

theorem run_bind (first : Decoder ε α) (next : α → Decoder ε β) (bytes : Bytes) : (first >>= next).run limit broken bytes =
      (first.run limit broken bytes >>= fun read => (next read.1).run limit broken read.2) := by
  change (first.bind next).run limit broken bytes = _
  induction first generalizing bytes with
  | done | fail | running => rfl
  | take _ _ _ ih =>
    rw [bind, run, run]
    split
    · exact ih _ _
    · rfl
  | make _ _ ih =>
    rw [bind, run, run]
    split
    · exact ih bytes
    · rfl

variable {bytes rest : Bytes} {value : α} {next : Bytes → Decoder ε α} {decoder : Decoder ε α} {first : Decoder ε α}

theorem run_bind_ok (read : first.run limit broken bytes = .ok (value, rest))
    (next : α → Decoder ε β) : (first >>= next).run limit broken bytes = (next value).run limit broken rest := by
  simp [run_bind, read]

theorem run_take (length : bytes.length = size) :
    (take size onEnd next).run limit broken (bytes ++ rest) = (next bytes).run limit broken rest := by
  grind [run]

theorem run_take_one (byte : UInt8) (rest : Bytes) :
    (take 1 onEnd next).run limit broken (byte :: rest) = (next [byte]).run limit broken rest := by
  rfl

theorem run_make (accepted : size ≤ limit) (next : Decoder ε α) (bytes : Bytes) :
    (make size next).run limit broken bytes = next.run limit broken bytes := if_pos accepted

theorem run_map_error (f : ε → ε) (decoder : Decoder ε α) (bytes : Bytes)
    (read : decoder.run limit broken bytes = .ok (value, rest)) :
    (decoder.mapError f).run limit broken bytes = .ok (value, rest) := by
  induction decoder generalizing bytes with
  | done => exact read
  | fail | running => cases read
  | take _ _ _ ih | make _ _ ih => grind [run, mapError]

theorem run_shrinks (read : decoder.run limit broken bytes = .ok (value, rest)) : rest.length ≤ bytes.length := by
  induction decoder generalizing bytes with
  | done => simp_all
  | fail | running => cases read
  | take _ _ _ ih | make _ _ ih => grind [run]

theorem run_times (body : Nat → Decoder ε β) (encode : α → Bytes) (value : α → β) {items : List α}
    (each : ∀ item ∈ items, ∀ i rest, (body i).run limit broken (encode item ++ rest) = .ok (value item, rest))
    (i : Nat) (rest : Bytes) :
    (times body items.length i).run limit broken (items.flatMap encode ++ rest) = .ok (items.map value, rest) := by
  induction items generalizing i with
  | nil => rfl
  | cons item later ih =>
    have first := each item (by simp) i (later.flatMap encode ++ rest)
    have tail := ih (fun other member => each other (by simp [member])) (i + 1)
    simp [List.length_cons, times, List.flatMap_cons, List.append_assoc, run_bind_ok first, run_bind_ok tail]

end Decoder

section

def putUvarintFrom : Nat → Nat → Bytes
  | 0, _ => []
  | count + 1, value =>
    if value < 128 then [UInt8.ofNat value] else UInt8.ofNat (value % 128 + 128) :: putUvarintFrom count (value / 128)

def putUvarint (value : Nat) : Bytes := putUvarintFrom 10 value

def decodeUvarintFrom (onEnd : Option ε → Bool → ε) (overflow : ε) : Nat → Nat → Nat → Decoder ε Nat
  | 0, _, _ => .fail overflow
  | count + 1, i, value => .take 1 (fun broken _ => onEnd broken (i == 0)) (fun bytes =>
    let byte := (bytes.getD 0 0).toNat
    if byte < 128 then
      if i = 9 ∧ 1 < byte then .fail overflow else .done (value + byte * 128 ^ i)
    else decodeUvarintFrom onEnd overflow count (i + 1) (value + (byte - 128) * 128 ^ i))

def decodeUvarint (onEnd : Option ε → Bool → ε) (overflow : ε) : Decoder ε Nat := decodeUvarintFrom onEnd overflow 10 0 0

variable {limit : Nat} {broken : Option ε} {onEnd : Option ε → Bool → ε} {overflow : ε}

theorem run_decode_uvarint_from {count i value partly : Nat} (all : count + i = 10) (small : value * 128 ^ i < 2 ^ 64)
    (needed : i = 0 ∨ 0 < value) (rest : Bytes) : (decodeUvarintFrom onEnd overflow count i partly).run
    limit broken (putUvarintFrom count value ++ rest) = .ok (partly + value * 128 ^ i, rest) := by
  induction count generalizing i value partly with
  | zero => grind
  | succ _ ih =>
    rw [putUvarintFrom, decodeUvarintFrom]
    by_cases last : value < 128
    · have byte : (UInt8.ofNat value).toNat = value := by rw [UInt8.toNat_ofNat']; omega
      have tenth : ¬ (i = 9 ∧ 1 < value) := by grind
      rw [if_pos last, List.singleton_append, Decoder.run_take_one]
      simp only [List.getD_cons_zero, byte]
      simp [last, tenth]
    have byte : (UInt8.ofNat (value % 128 + 128)).toNat = value % 128 + 128 := by rw [UInt8.toNat_ofNat']; omega
    have parts : value * 128 ^ i = value % 128 * 128 ^ i + value / 128 * 128 ^ (i + 1) := by
      rw [Nat.pow_succ, Nat.mul_comm (128 ^ i) 128, ← Nat.mul_assoc, ← Nat.add_mul]
      congr 1
      omega
    rw [if_neg last, List.cons_append, Decoder.run_take_one]
    grind

theorem run_decode_uvarint {value : Nat} (small : value < 2 ^ 64) (rest : Bytes) :
    (decodeUvarint onEnd overflow).run limit broken (putUvarint value ++ rest) = .ok (value, rest) := by
  have read := @run_decode_uvarint_from ε limit broken onEnd overflow 10 0 value 0 rfl (by omega) (.inl rfl) rest
  rwa [Nat.pow_zero, Nat.mul_one, Nat.zero_add] at read

theorem decode_uvarint_ensures (bytes : Bytes) :
    ((decodeUvarint onEnd overflow).run limit broken bytes).Ensures (fun read => read.1 < 2 ^ 64) := by
  have from_bits : ∀ count i value bytes, count + i = 10 → value < 128 ^ i →
      ((decodeUvarintFrom onEnd overflow count i value).run limit broken bytes).Ensures (fun read => read.1 < 2 ^ 64) := by
    intro count
    induction count with
    | zero => exact fun _ _ _ _ _ => trivial
    | succ count ih =>
      intro i value bytes all below
      rw [decodeUvarintFrom, Decoder.run]
      split
      · dsimp only
        have byte_lt := ((bytes.take 1).getD 0 0).toNat_lt
        generalize ((bytes.take 1).getD 0 0).toNat = byte at byte_lt ⊢
        split
        · split
          · trivial
          change value + byte * 128 ^ i < 2 ^ 64
          by_cases ninth : i = 9
          · grind
          have lower : 128 ^ i ≤ 128 ^ 8 := Nat.pow_le_pow_right (by omega) (by omega)
          have most : byte * 128 ^ i ≤ 127 * 128 ^ i := Nat.mul_le_mul_right _ (by omega)
          omega
        have most : (byte - 128) * 128 ^ i ≤ 127 * 128 ^ i := Nat.mul_le_mul_right _ (by omega)
        grind
      · trivial
  exact from_bits 10 0 0 bytes rfl (by decide)

end
end OtunKernel.Lib
