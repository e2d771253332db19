import OtunKernel.Lib.Decoder

namespace OtunKernel.Lib

variable {ε α : Type} {reader : Buffered} {later : Bytes} {byte : UInt8}

-- How a source hands out its bytes: a read gives one byte more than pieces
-- says, if it has them and the buffer has room.
structure Feed where
  capacity : Nat
  room : 0 < capacity
  pieces : Nat → Nat

-- A source with a position, read through a buffer. count is what was read
-- from the source, reads how often.
structure Buffered where
  content : Bytes
  position : Nat := 0
  reads : Nat := 0
  buffer : Bytes := []
  count : Nat := 0

namespace Buffered

variable (feed : Feed) (reader : Buffered)

def rest : Bytes := reader.buffer ++ reader.content.drop reader.position

def fill : Buffered :=
  let bytes := (reader.content.drop reader.position).take (min feed.capacity (feed.pieces reader.reads + 1))
  { reader with
    position := reader.position + bytes.length
    reads := reader.reads + 1
    buffer := bytes
    count := reader.count + bytes.length }

def pop : Option UInt8 × Buffered :=
  match reader.buffer with
  | [] => (none, reader)
  | byte :: later => (some byte, { reader with buffer := later })

def readByte : Option UInt8 × Buffered :=
  match reader.buffer with
  | [] => (reader.fill feed).pop
  | _ :: _ => reader.pop

def readUpTo : Nat → Buffered → Bytes × Buffered
  | 0, reader => ([], reader)
  | size + 1, reader =>
    match reader.readByte feed with
    | (none, later) => ([], later)
    | (some byte, later) => (byte :: (readUpTo size later).1, (readUpTo size later).2)

def seek (offset : Nat) : Buffered := { reader with position := offset, buffer := [] }

structure Counted (file : Bytes) (reader : Buffered) : Prop where
  content : reader.content = file
  count : reader.count = reader.position
  inside : reader.position ≤ file.length

variable {reader}

theorem rest_seek (offset : Nat) : (reader.seek offset).rest = reader.content.drop offset := rfl

theorem fill_rest (empty : reader.buffer = []) : (reader.fill feed).rest = reader.rest := by
  simp only [rest, fill, empty, List.nil_append, ← List.drop_drop]
  rw [List.length_take]
  by_cases enough : min feed.capacity (feed.pieces reader.reads + 1) ≤ (reader.content.drop reader.position).length
  · rw [Nat.min_eq_left enough, List.take_append_drop]
  · grind [List.take_of_length_le]

theorem fill_buffer (empty : reader.buffer = []) (ended : (reader.fill feed).buffer = []) : reader.rest = [] := by
  have positive : min feed.capacity (feed.pieces reader.reads + 1) ≠ 0 := by
    have room := feed.room
    omega
  rw [rest, empty]
  exact (List.take_eq_nil_iff.mp ended).resolve_left positive

theorem pop_rest (front : reader.buffer = byte :: later) : reader.pop = (some byte, { reader with buffer := later }) := by
  rw [pop, front]

theorem read_byte_cons (next : reader.rest = byte :: later) :
    ∃ after, reader.readByte feed = (some byte, after) ∧ after.rest = later := by
  cases front : reader.buffer with
  | cons _ others =>
    rw [readByte, front]
    refine ⟨{ reader with buffer := others }, ?_, ?_⟩
    · rw [rest, front, List.cons_append, List.cons.injEq] at next
      simpa [← next.1] using pop_rest front
    rw [rest, front, List.cons_append, List.cons.injEq] at next
    exact next.2
  | nil =>
    have same := fill_rest feed front
    rw [readByte, front]
    cases filled : (reader.fill feed).buffer with
    | nil =>
      simp [fill_buffer feed front filled] at next
    | cons _ others =>
      rw [next, rest, filled, List.cons_append, List.cons.injEq] at same
      exact ⟨{ reader.fill feed with buffer := others }, by rw [← same.1]; exact pop_rest filled, same.2⟩

theorem read_byte_nil (ended : reader.rest = []) : (reader.readByte feed).1 = none ∧ (reader.readByte feed).2.rest = [] := by
  have empty : reader.buffer = [] := (List.append_eq_nil_iff.mp ended).1
  have filled := fill_rest feed empty
  rw [ended] at filled
  have front : (reader.fill feed).buffer = [] := (List.append_eq_nil_iff.mp filled).1
  rw [readByte, empty, pop, front]
  exact ⟨rfl, filled⟩

theorem read_up_to_spec (size : Nat) (reader : Buffered) :
    (readUpTo feed size reader).1 = reader.rest.take size ∧ (readUpTo feed size reader).2.rest = reader.rest.drop size := by
  induction size generalizing reader with
  | zero => exact ⟨rfl, rfl⟩
  | succ _ ih =>
    rw [readUpTo]
    cases next : reader.rest with
    | nil =>
      obtain ⟨none_left, after⟩ := read_byte_nil feed next
      generalize reader.readByte feed = read at none_left after ⊢
      obtain ⟨_, _⟩ := read
      cases none_left
      exact ⟨rfl, after⟩
    | cons byte =>
      obtain ⟨after, read, remains⟩ := read_byte_cons feed next
      grind

end Buffered

open Buffered

namespace Decoder

variable (limit : Nat) (feed : Feed)

def runBuffered : Decoder ε α → Buffered → Outcome ε α × Buffered
  | .done value, reader => (.ok value, reader)
  | .fail err, reader => (.error err, reader)
  | .running, reader => (.running, reader)
  | .take size onEnd next, reader =>
    let read := readUpTo feed size reader
    if read.1.length = size then (next read.1).runBuffered read.2 else (.error (onEnd none (read.1.length == 0)), read.2)
  | .make size next, reader => if size ≤ limit then next.runBuffered reader else (.panic, reader)

variable {limit}

theorem run_buffered_spec (limit : Nat) (decoder : Decoder ε α) (reader : Buffered) :
    (decoder.runBuffered limit feed reader).1 = (decoder.run limit none reader.rest >>= fun read => .ok read.1) ∧
      (decoder.runBuffered limit feed reader).2.rest <:+ reader.rest ∧
      ∀ value rest, decoder.run limit none reader.rest = .ok (value, rest) →
        (decoder.runBuffered limit feed reader).2.rest = rest := by
  induction decoder generalizing reader with
  | done => exact ⟨rfl, List.suffix_refl _, by rintro _ _ ⟨⟩; rfl⟩
  | fail | running => exact ⟨rfl, List.suffix_refl _, by rintro _ _ ⟨⟩⟩
  | take size _ next ih =>
    obtain ⟨bytes, others⟩ := read_up_to_spec feed size reader
    have count : (readUpTo feed size reader).1.length = min size reader.rest.length := by rw [bytes, List.length_take]
    rw [runBuffered, run]
    by_cases enough : size ≤ reader.rest.length
    · rw [if_pos enough, if_pos (count.trans (Nat.min_eq_left enough)), ← bytes, ← others]
      obtain ⟨outcome, suffix, rest⟩ := ih (readUpTo feed size reader).1 (readUpTo feed size reader).2
      exact ⟨outcome, suffix.trans (others ▸ List.drop_suffix _ _), rest⟩
    have short : min size reader.rest.length = reader.rest.length := by grind
    rw [if_neg enough, if_neg (by omega), count, short]
    exact ⟨rfl, others ▸ List.drop_suffix _ _, by rintro _ _ ⟨⟩⟩
  | make size _ ih =>
    rw [runBuffered, run]
    by_cases accepted : size ≤ limit
    · simpa [accepted, accepted] using ih reader
    rw [if_neg accepted, if_neg accepted]
    exact ⟨rfl, List.suffix_refl _, by rintro _ _ ⟨⟩⟩

theorem run_buffered_ok {decoder : Decoder ε α} {value : α} {rest : Bytes}
    (read : decoder.run limit none reader.rest = .ok (value, rest)) :
    ∃ later, decoder.runBuffered limit feed reader = (.ok value, later) ∧ later.rest = rest := by
  obtain ⟨outcome, _, remains⟩ := run_buffered_spec feed limit decoder reader
  rw [read] at outcome
  exact ⟨_, Prod.ext outcome rfl, remains value rest read⟩

theorem run_buffered_keeps {feed : Feed} {holds : Buffered → Prop} (byte : ∀ reader, holds reader → holds (reader.readByte feed).2)
    (decoder : Decoder ε α) (limit : Nat) (before : holds reader) : holds (decoder.runBuffered limit feed reader).2 := by
  have pieces : ∀ size reader, holds reader → holds (readUpTo feed size reader).2 := by
    intro size
    induction size with
    | zero => exact fun _ before => before
    | succ _ ih => grind [readUpTo]
  induction decoder generalizing reader with
  | done | fail | running => exact before
  | take size _ _ ih =>
    rw [runBuffered]
    split
    · exact ih _ (pieces size reader before)
    · grind
  | make _ _ ih => grind [runBuffered]

end Decoder

namespace Buffered

variable (feed : Feed)

theorem pop_content (reader : Buffered) : reader.pop.2.content = reader.content := by
  cases front : reader.buffer <;> simp [pop, front]

theorem read_byte_content (reader : Buffered) : (reader.readByte feed).2.content = reader.content := by
  cases front : reader.buffer with
  | nil | cons =>
    rw [readByte, front]
    exact pop_content _

variable {file : Bytes} {reader : Buffered}

theorem pop_counted (counted : reader.Counted file) : reader.pop.2.Counted file := by
  cases front : reader.buffer with
  | nil =>
    simp [pop, front, counted]
  | cons =>
    rw [pop, front]
    exact ⟨counted.content, counted.count, counted.inside⟩

theorem fill_counted (counted : reader.Counted file) : (reader.fill feed).Counted file := by
  refine ⟨counted.content, ?_, ?_⟩
  · simp only [fill, counted.count]
  · grind [counted.inside, fill, counted.content]

theorem read_byte_counted (reader : Buffered) (counted : reader.Counted file) : (reader.readByte feed).2.Counted file := by
  cases front : reader.buffer with
  | nil =>
    simpa [readByte, front] using pop_counted (fill_counted feed counted)
  | cons =>
    simpa [readByte, front] using pop_counted counted

theorem start_counted (file : Bytes) : Counted file { content := file } := ⟨rfl, rfl, Nat.zero_le _⟩

theorem counted_rest (counted : reader.Counted file) : reader.count + reader.rest.length = file.length + reader.buffer.length := by
  have inside := counted.inside
  rw [rest, List.length_append, counted.content, List.length_drop, counted.count]
  omega

end Buffered

def Feed.upTo (feed : Feed) (size : Nat) : Feed where
  capacity := max feed.capacity size
  room := Nat.lt_of_lt_of_le feed.room (Nat.le_max_left _ _)
  pieces := feed.pieces

namespace Buffered

variable (feed : Feed)

-- bufio.Reader.Read: at most one read from the source, into the slice itself if
-- that is not smaller than the buffer.
def readInto (reader : Buffered) (size : Nat) : Bytes × Buffered :=
  let filled := if reader.buffer = [] ∧ size ≠ 0 then reader.fill (feed.upTo size) else reader
  (filled.buffer.take size, { filled with buffer := filled.buffer.drop size })

theorem read_into_spec (reader : Buffered) (size : Nat) :
    (reader.readInto feed size).1 ++ (reader.readInto feed size).2.rest = reader.rest ∧ (reader.readInto feed size).1.length ≤ size ∧
      (0 < size → (reader.readInto feed size).1 = [] → reader.rest = []) := by
  have whole (filled : Buffered) : filled.buffer.take size ++ rest { filled with buffer := filled.buffer.drop size } =
      filled.rest := by
    rw [rest, rest, ← List.append_assoc, List.take_append_drop]
  rw [readInto]
  by_cases empty : reader.buffer = [] ∧ size ≠ 0
  · grind [fill_rest, fill_buffer]
  · grind

end Buffered

end OtunKernel.Lib
