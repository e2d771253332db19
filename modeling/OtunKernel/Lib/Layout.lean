import OtunKernel.Lib.Decoder

namespace OtunKernel.Lib

-- A part of a format: the sizes that its length fields ask for, up to the place
-- where the input is malformed or ends, and what is left behind the part.
abbrev Layout := Bytes → List Nat × Option Bytes

namespace Layout

def malformed : Layout := fun _ => ([], none)

def bytes (size : Nat) : Layout := fun input => ([], if size ≤ input.length then some (input.drop size) else none)

def both (first second : Layout) : Layout := fun input =>
  match first input with
  | (asked, some rest) => (asked ++ (second rest).1, (second rest).2)
  | (asked, none) => (asked, none)

def repeated (each : Layout) : Nat → Layout
  | 0 => bytes 0
  | count + 1 => both each (repeated each count)

def choice (next : UInt8 → Layout) : Layout
  | byte :: rest => next byte rest
  | [] => ([], none)

def asking (size : Nat) (layout : Layout) : Layout := fun input => (size :: (layout input).1, (layout input).2)

def uvarintFrom : Nat → Nat → Nat → Bytes → Option (Nat × Bytes)
  | count + 1, i, value, byte :: rest =>
    if byte.toNat < 128 then if i = 9 ∧ 1 < byte.toNat then none else some (value + byte.toNat * 128 ^ i, rest)
    else uvarintFrom count (i + 1) (value + (byte.toNat - 128) * 128 ^ i) rest
  | _, _, _, _ => none

-- A length field is a uvarint, or eight bytes if wide.
def length (wide : Bool) (input : Bytes) : Option (Nat × Bytes) :=
  if wide then if 8 ≤ input.length then some (beNat (input.take 8), input.drop 8) else none
  else uvarintFrom 10 0 0 input

def counted (wide : Bool) (next : Nat → Layout) : Layout := fun input =>
  match length wide input with
  | some (count, rest) => next count rest
  | none => ([], none)

end Layout

namespace Decoder

variable {ε α β : Type} {bound limit : Nat} {part other : Layout} {decoder : Decoder ε α} {bytes : Bytes}

-- The outcome of a run that asks for these sizes and leaves these bytes.
def Meets (limit : Nat) (expected : List Nat × Option Bytes) : Outcome ε (α × Bytes) → Prop
  | .ok (_, rest) => (∀ size ∈ expected.1, size ≤ limit) ∧ expected.2 = some rest
  | .error _ => (∀ size ∈ expected.1, size ≤ limit) ∧ expected.2 = none
  | .panic => ∃ size ∈ expected.1, limit < size
  | .running => False

section
variable {expected : List Nat × Option Bytes} {outcome : Outcome ε (α × Bytes)} (meets : Meets limit expected outcome)
include meets

theorem meets_returns_iff : outcome.Returns ↔ ∀ size ∈ expected.1, size ≤ limit := by
  cases outcome with
  | ok | error => exact iff_of_true trivial meets.1
  | panic => exact iff_of_false id (fun granted => by grind [Meets])
  | running => exact meets.elim

theorem meets_behind {asked : List Nat} (granted : ∀ size ∈ asked, size ≤ limit) :
    Meets limit (asked ++ expected.1, expected.2) outcome := by
  cases outcome with
  | ok | error => exact ⟨by grind [Meets], meets.2⟩
  | panic =>
    obtain ⟨size, member, large⟩ := meets
    exact ⟨size, List.mem_append_right _ member, large⟩
  | running => exact meets.elim

end

-- On an input below the bound the decoder ends, asks for what the length fields
-- of the layout ask for, and reads what the layout takes up.
def Follows (bound : Nat) (part : Layout) (decoder : Decoder ε α) : Prop :=
  ∀ limit broken (bytes : Bytes), bytes.length < bound → Meets limit (part bytes) (decoder.run limit broken bytes)

-- The decoder reads one length field.
def Reads (wide : Bool) (field : Decoder ε Nat) : Prop := ∀ limit broken bytes,
  (∃ found, Layout.length wide bytes = some found ∧ field.run limit broken bytes = .ok found) ∨
    ∃ err, Layout.length wide bytes = none ∧ field.run limit broken bytes = .error err

namespace Follows

theorem done (value : α) : (Decoder.done value : Decoder ε α).Follows bound (Layout.bytes 0) :=
  fun _ _ _ _ => ⟨List.forall_mem_nil _, rfl⟩

theorem fail (err : ε) : (Decoder.fail err : Decoder ε α).Follows bound Layout.malformed :=
  fun _ _ _ _ => ⟨List.forall_mem_nil _, rfl⟩

theorem take (size : Nat) (onEnd : Option ε → Bool → ε) (value : Bytes → α) :
    (Decoder.take size onEnd (fun bytes => .done (value bytes))).Follows bound (Layout.bytes size) := by
  intro limit broken bytes _
  grind [run, Layout.bytes, Meets]

theorem make {size : Nat} (follows : decoder.Follows bound part) :
    (Decoder.make size decoder).Follows bound (Layout.asking size part) := by
  intro limit broken bytes short
  rw [run]
  split
  · rename_i granted
    exact meets_behind (follows limit broken bytes short) (List.forall_mem_singleton.mpr granted)
  · exact ⟨size, List.mem_cons_self, by omega⟩

theorem bind {first : Decoder ε α} {next : α → Decoder ε β} (before : first.Follows bound part)
    (after : ∀ value, (next value).Follows bound other) : (first >>= next).Follows bound (Layout.both part other) := by
  intro limit broken bytes short
  have meets := before limit broken bytes short
  rw [run_bind, Layout.both]
  generalize part bytes = expected at meets
  obtain ⟨asked, left⟩ := expected
  cases outcome : first.run limit broken bytes with
  | ok read =>
    rw [outcome] at meets
    obtain ⟨granted, rfl⟩ := meets
    exact meets_behind (after _ limit broken _ (Nat.lt_of_le_of_lt (run_shrinks outcome) short)) granted
  | error =>
    rw [outcome] at meets
    obtain ⟨granted, rfl⟩ := meets
    exact ⟨granted, rfl⟩
  | panic =>
    rw [outcome] at meets
    obtain ⟨size, member, large⟩ := meets
    cases left with
    | none => exact ⟨size, member, large⟩
    | some => exact ⟨size, List.mem_append_left _ member, large⟩
  | running => rw [outcome] at meets; exact meets.elim

theorem map (follows : decoder.Follows bound part) (f : α → β) : (decoder >>= fun value => .done (f value)).Follows bound part := by
  intro limit broken bytes short
  have meets := follows limit broken bytes short
  rw [run_bind]
  cases outcome : decoder.run limit broken bytes <;> rwa [outcome] at meets

theorem map_error (follows : decoder.Follows bound part) (f : ε → ε) : (decoder.mapError f).Follows bound part := by
  intro limit broken bytes short
  have meets := follows limit broken bytes short
  generalize part bytes = expected at meets
  clear follows short
  induction decoder generalizing bytes with
  | done | fail | running => exact meets
  | take _ _ _ ih | make _ _ ih => grind [run, mapError, Meets]

theorem times {body : Nat → Decoder ε α} (each : ∀ i, (body i).Follows bound part) (count i : Nat) :
    (times body count i).Follows bound (Layout.repeated part count) := by
  induction count generalizing i with
  | zero => exact .done []
  | succ _ ih => exact (each i).bind (fun value => (ih (i + 1)).map (fun later => value :: later))

theorem choice {onEnd : Option ε → Bool → ε} {next : UInt8 → Layout} {after : UInt8 → Decoder ε α}
    (each : ∀ byte, (after byte).Follows bound (next byte)) :
    (Decoder.take 1 onEnd (fun bytes => .done (bytes.getD 0 0)) >>= after).Follows (bound + 1) (Layout.choice next) := by
  intro limit broken bytes short
  cases bytes with
  | nil => exact ⟨List.forall_mem_nil _, rfl⟩
  | cons byte rest => exact each byte limit broken rest (Nat.lt_of_succ_lt_succ short)

theorem below (follows : decoder.Follows (bound + 1) part) : decoder.Follows bound part :=
  fun limit broken bytes short => follows limit broken bytes (Nat.lt_succ_of_lt short)

theorem counted {field : Decoder ε Nat} {wide : Bool} {parts : Nat → Layout} {next : Nat → Decoder ε α} (reads : field.Reads wide)
    (after : ∀ count, (next count).Follows bound (parts count)) : (field >>= next).Follows bound (Layout.counted wide parts) := by
  intro limit broken bytes short
  rw [run_bind, Layout.counted]
  rcases reads limit broken bytes with ⟨found, length, read⟩ | ⟨err, length, failed⟩
  · rw [read, length]
    exact after _ limit broken _ (Nat.lt_of_le_of_lt (run_shrinks read) short)
  · rw [failed, length]
    exact ⟨List.forall_mem_nil _, rfl⟩

end Follows

theorem uvarint_reads (onEnd : Option ε → Bool → ε) (overflow : ε) : (decodeUvarint onEnd overflow).Reads false := by
  have each : ∀ count i value limit broken bytes,
      (∃ found, Layout.uvarintFrom count i value bytes = some found ∧
        (decodeUvarintFrom onEnd overflow count i value).run limit broken bytes = .ok found) ∨
      ∃ err, Layout.uvarintFrom count i value bytes = none ∧
        (decodeUvarintFrom onEnd overflow count i value).run limit broken bytes = .error err := by
    intro count
    induction count with
    | zero => exact fun _ _ _ _ _ => .inr ⟨overflow, rfl, rfl⟩
    | succ count ih =>
      intro i value limit broken bytes
      cases bytes with
      | nil => exact .inr ⟨_, rfl, rfl⟩
      | cons byte rest =>
        rw [Layout.uvarintFrom, decodeUvarintFrom, run_take_one]
        have first : [byte].getD 0 0 = byte := rfl
        simp only [first]
        split
        · split
          · exact .inr ⟨_, rfl, rfl⟩
          · exact .inl ⟨_, rfl, rfl⟩
        · exact ih ..
  exact each 10 0 0

end Decoder
end OtunKernel.Lib
