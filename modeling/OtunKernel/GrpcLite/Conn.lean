import OtunKernel.Lib.Buffered
import OtunKernel.Lib.Runs

namespace OtunKernel.GrpcLite

open Lib Decoder

-- The reader, or the error that setup was called with in its place.
structure GunConn where
  reader : Except String Buffered
  readRemaining : Int := 0

def newGunConn (stream : Bytes) : GunConn := { reader := .ok { content := stream } }

def readHeader : Decoder String Nat :=
  .take 6 (fun _ _ => "EOF") (fun _ =>
    decodeUvarint (fun _ first => if first then "EOF" else "unexpected EOF") "binary: varint overflows a 64-bit integer")

def intOf (dataLen : Nat) : Int := if dataLen < 2 ^ 63 then dataLen else dataLen - 2 ^ 64

-- The rest of read once readRemaining is known: b is cut to it, which panics
-- if it is negative.
def readBody (feed : Feed) (reader : Buffered) (readLen : Int) (size : Nat) : Outcome String Bytes × GunConn :=
  if readLen < 0 then (.panic, { reader := .ok reader, readRemaining := readLen })
  else
    let wanted := min size readLen.toNat
    let read := reader.readInto feed wanted
    (if read.1 = [] ∧ wanted ≠ 0 then .error "EOF" else .ok read.1,
      { reader := .ok read.2, readRemaining := readLen - read.1.length })

def GunConn.read (feed : Feed) (conn : GunConn) (size : Nat) : Outcome String Bytes × GunConn :=
  match conn.reader with
  | .error err => (.error err, conn)
  | .ok reader =>
    if 0 < conn.readRemaining then readBody feed reader conn.readRemaining size
    else
      match readHeader.runBuffered 0 feed reader with
      | (.ok dataLen, later) => readBody feed later (intOf dataLen) size
      | (.error err, later) => (.error err, { conn with reader := .ok later })
      | (.panic, later) => (.panic, { conn with reader := .ok later })
      | (.running, later) => (.running, { conn with reader := .ok later })

structure Payload where
  bytes : Bytes
  addressable : bytes.length < 2 ^ 63

def gunHeader (dataLen : Nat) : Bytes :=
  let varLen := (putUvarint dataLen).length
  0x00 :: (beBytes 4 (1 + varLen + dataLen) ++ 0x0A :: putUvarint dataLen)

inductive GunWrite where
  | write (b : Payload)
  | writeBuffer (buffer : Payload)

def GunWrite.payload : GunWrite → Payload
  | .write b => b
  | .writeBuffer buffer => buffer

def GunWrite.written : GunWrite → Bytes
  | .write b => gunHeader b.bytes.length ++ b.bytes
  | .writeBuffer buffer => gunHeader buffer.bytes.length ++ buffer.bytes

def readAll (feed : Feed) : GunConn → List Nat → List (Outcome String Bytes)
  | _, [] => []
  | conn, size :: sizes => (conn.read feed size).1 :: readAll feed (conn.read feed size).2 sizes

def bytesOf : Outcome String Bytes → Bytes
  | .ok bytes => bytes
  | _ => []

def delivered (results : List (Outcome String Bytes)) : Bytes := results.flatMap bytesOf

theorem int_of_nonneg_iff {dataLen : Nat} (bounded : dataLen < 2 ^ 64) : 0 ≤ intOf dataLen ↔ ¬ 2 ^ 63 ≤ dataLen := by
  rw [intOf]
  split <;> omega

theorem run_read_header (call : GunWrite) (rest : Bytes) :
    readHeader.run 0 none (call.written ++ rest) = .ok (call.payload.bytes.length, call.payload.bytes ++ rest) := by
  have read (payload : Payload) : readHeader.run 0 none (gunHeader payload.bytes.length ++ payload.bytes ++ rest) =
      .ok (payload.bytes.length, payload.bytes ++ rest) := by
    have small := payload.addressable
    rw [readHeader, run, if_pos (by simp [gunHeader]; omega), List.append_assoc]
    exact run_decode_uvarint (by omega) _
  cases call with
  | write b | writeBuffer b => exact read b

-- What the connection has still to give: the rest of a message, and the
-- messages after it.
structure Waiting (conn : GunConn) (part : Bytes) (calls : List GunWrite) : Prop where
  stream : ∃ reader, conn.reader = .ok reader ∧ reader.rest = part ++ calls.flatMap GunWrite.written
  remaining : conn.readRemaining = part.length

def unread (part : Bytes) (calls : List GunWrite) : Bytes := part ++ calls.flatMap (fun call => call.payload.bytes)

variable (feed : Feed) {part : Bytes} {calls : List GunWrite} {conn : GunConn}

theorem read_body_waiting {reader : Buffered} (size : Nat) (stream : reader.rest = part ++ calls.flatMap GunWrite.written) :
    ∃ bytes later, part = bytes ++ later ∧ (readBody feed reader part.length size).1 = .ok bytes ∧
      Waiting (readBody feed reader part.length size).2 later calls ∧ (0 < size → part ≠ [] → bytes ≠ []) := by
  rw [readBody, Int.toNat_natCast]
  dsimp only
  obtain ⟨whole, short, some_byte⟩ := reader.read_into_spec feed (min size part.length)
  generalize reader.readInto feed (min size part.length) = read at whole short some_byte ⊢
  obtain ⟨bytes, after⟩ := read
  have inside : bytes <+: part := by grind [List.prefix_of_prefix_length_le]
  obtain ⟨later, rfl⟩ := inside
  have progress : min size (bytes ++ later).length ≠ 0 → bytes ≠ [] := by grind
  refine ⟨bytes, later, rfl, if_neg (fun ⟨empty, wanted⟩ => progress wanted empty), ⟨⟨after, rfl, ?_⟩, ?_⟩, ?_⟩
  · rw [stream, List.append_assoc] at whole
    exact List.append_cancel_left whole
  · grind
  · grind

theorem read_waiting (waiting : Waiting conn part calls) (size : Nat) :
    ((∃ err, (conn.read feed size).1 = .error err) ∧ unread part calls = [] ∧ Waiting (conn.read feed size).2 [] []) ∨
      ∃ bytes later rest, (conn.read feed size).1 = .ok bytes ∧ unread part calls = bytes ++ unread later rest ∧
        Waiting (conn.read feed size).2 later rest ∧
        (0 < size → (unread later rest).length + rest.length < (unread part calls).length + calls.length) := by
  obtain ⟨⟨reader, held, stream⟩, remaining⟩ := waiting
  by_cases inside : part = []
  · subst inside
    rw [GunConn.read, held]
    dsimp only
    rw [if_neg (by rw [remaining]; simp)]
    cases calls with
    | nil =>
      have ended : reader.rest = [] := stream
      obtain ⟨outcome, suffix, _⟩ := Decoder.run_buffered_spec feed 0 readHeader reader
      rw [ended] at outcome suffix
      generalize readHeader.runBuffered 0 feed reader = read at outcome suffix ⊢
      obtain ⟨_, after⟩ := read
      cases outcome
      exact .inl ⟨⟨_, rfl⟩, rfl, ⟨after, rfl, List.suffix_nil.mp suffix⟩, remaining⟩
    | cons call calls =>
      rw [List.nil_append, List.flatMap_cons] at stream
      have header := run_read_header call (calls.flatMap GunWrite.written)
      rw [← stream] at header
      obtain ⟨later, read, remains⟩ := Decoder.run_buffered_ok feed header
      rw [read]
      dsimp only
      rw [intOf, if_pos call.payload.addressable]
      obtain ⟨bytes, part, split, result, after, _⟩ := read_body_waiting feed size remains
      refine .inr ⟨bytes, part, calls, result, ?_, after, fun _ => ?_⟩
      · simp [unread, split]
      · grind [unread]
  have going : 0 < conn.readRemaining := by
    have length := List.length_pos_iff.mpr inside
    omega
  rw [GunConn.read, held]
  dsimp only
  rw [if_pos going, remaining]
  obtain ⟨bytes, later, split, result, after, progress⟩ := read_body_waiting feed size stream
  refine .inr ⟨bytes, later, calls, result, by simp [unread, split], after, fun positive => ?_⟩
  grind [List.length_pos_iff, unread]

theorem read_all_waiting (waiting : Waiting conn part calls) (sizes : List Nat) :
    ∃ left, unread part calls = delivered (readAll feed conn sizes) ++ left ∧
      (∀ result ∈ readAll feed conn sizes, (∃ bytes, result = .ok bytes) ∨ ∃ err, result = .error err ∧ left = []) ∧
      ((∀ size ∈ sizes, 0 < size) → (unread part calls).length + calls.length ≤ sizes.length → left = []) := by
  induction sizes generalizing conn part calls with
  | nil =>
    refine ⟨unread part calls, rfl, by simp [readAll], fun _ enough => ?_⟩
    grind [Nat.add_eq_zero_iff]
  | cons size sizes ih =>
    rw [readAll]
    rcases read_waiting feed waiting size with ⟨⟨err, failed⟩, ended, after⟩ | ⟨bytes, later, rest, read, split, after, progress⟩
    · obtain ⟨left, whole, each, _⟩ := ih after
      rw [failed, ended]
      have nothing : delivered (readAll feed (conn.read feed size).2 sizes) = [] ∧ left = [] := List.append_eq_nil_iff.mp whole.symm
      refine ⟨[], by simp [delivered, bytesOf, ← nothing.1], ?_, fun _ _ => rfl⟩
      intro result member
      rcases List.mem_cons.mp member with rfl | member
      · grind
      · exact (each result member).imp_right (fun ⟨err, same, _⟩ => ⟨err, same, rfl⟩)
    obtain ⟨left, whole, each, all⟩ := ih after
    refine ⟨left, ?_, ?_, fun positive enough => ?_⟩
    · grind [delivered, bytesOf]
    · intro result member
      rcases List.mem_cons.mp member with rfl | member
      · exact .inl ⟨bytes, read⟩
      · exact each result member
    · grind

theorem gun_stream_transparent (calls : List GunWrite) (sizes : List Nat) :
    let written := calls.flatMap (fun call => call.payload.bytes)
    let results := readAll feed (newGunConn (calls.flatMap GunWrite.written)) sizes
    delivered results <+: written ∧
      (∀ result ∈ results, (∃ bytes, result = .ok bytes) ∨ ∃ err, result = .error err ∧ delivered results = written) ∧
      ((∀ size ∈ sizes, 0 < size) → written.length + calls.length ≤ sizes.length → delivered results = written) := by
  intro written results
  have start : Waiting (newGunConn (calls.flatMap GunWrite.written)) [] calls := ⟨⟨_, rfl, rfl⟩, rfl⟩
  obtain ⟨left, whole, each, all⟩ := read_all_waiting feed start sizes
  have same : left = [] → delivered results = written := by
    intro nothing
    rw [nothing, List.append_nil] at whole
    exact whole.symm
  exact ⟨⟨left, whole.symm⟩,
    fun result member => (each result member).imp_right (fun ⟨err, failed, nothing⟩ => ⟨err, failed, same nothing⟩),
    fun positive enough => same (all positive enough)⟩

def gunStep : System GunConn Nat := fun conn size =>
  match conn.read feed size with
  | (.panic, _) => none
  | (_, after) => some after

-- The stream goes on with a header whose length is no int.
def GunConn.Oversized (conn : GunConn) : Prop :=
  conn.readRemaining = 0 ∧ ∃ reader dataLen rest, conn.reader = .ok reader ∧
    readHeader.run 0 none reader.rest = .ok (dataLen, rest) ∧ 2 ^ 63 ≤ dataLen

def SafeRead (conn : GunConn) (size : Nat) : Prop :=
  (conn.read feed size).1 ≠ .panic ∧ 0 ≤ (conn.read feed size).2.readRemaining ∧ (bytesOf (conn.read feed size).1).length ≤ size

theorem read_body_safe (reader : Buffered) {readLen : Int} (nonnegative : 0 ≤ readLen) (size : Nat) :
    (readBody feed reader readLen size).1 ≠ .panic ∧ 0 ≤ (readBody feed reader readLen size).2.readRemaining ∧
      (bytesOf (readBody feed reader readLen size).1).length ≤ size := by
  obtain ⟨_, short, _⟩ := reader.read_into_spec feed (min size readLen.toNat)
  rw [readBody, if_neg (by omega)]
  refine ⟨?_, ?_, ?_⟩
  · grind
  · dsimp only
    omega
  dsimp only
  split
  · exact Nat.zero_le size
  · exact short.trans (Nat.min_le_left _ _)

theorem header_ensures (bytes : Bytes) : (readHeader.run 0 none bytes).Ensures (fun read => read.1 < 2 ^ 64) := by
  rw [readHeader, run]
  split
  · exact decode_uvarint_ensures _
  · trivial

theorem read_cases (nonnegative : 0 ≤ conn.readRemaining) (size : Nat) :
    conn.Oversized ∧ (conn.read feed size).1 = .panic ∨ ¬ conn.Oversized ∧ SafeRead feed conn size := by
  rw [SafeRead, GunConn.read]
  cases held : conn.reader with
  | error =>
    refine .inr ⟨?_, by simp, nonnegative, Nat.zero_le _⟩
    rintro ⟨_, _, _, _, same, _⟩
    simp [held] at same
  | ok reader =>
    dsimp only
    by_cases going : 0 < conn.readRemaining
    · rw [if_pos going]
      exact .inr ⟨fun oversized => by simp [oversized.1] at going, read_body_safe feed reader nonnegative size⟩
    rw [if_neg going]
    have idle : conn.readRemaining = 0 := by omega
    obtain ⟨outcome, _, _⟩ := Decoder.run_buffered_spec feed 0 readHeader reader
    generalize readHeader.runBuffered 0 feed reader = read at outcome ⊢
    obtain ⟨_, later⟩ := read
    subst outcome
    have oversized_iff : conn.Oversized ↔
        ∃ dataLen rest, readHeader.run 0 none reader.rest = .ok (dataLen, rest) ∧ 2 ^ 63 ≤ dataLen := by
      simp [GunConn.Oversized, idle, held]
    rw [oversized_iff]
    have bounded := header_ensures reader.rest
    cases header : readHeader.run 0 none reader.rest with
    | ok result =>
      rw [header] at bounded
      have sign := int_of_nonneg_iff bounded
      by_cases fits : 0 ≤ intOf result.1
      · refine .inr ⟨?_, read_body_safe feed later fits size⟩
        grind
      refine .inl ⟨⟨_, _, rfl, not_not.mp (mt sign.mpr fits)⟩, ?_⟩
      simp only [Outcome.ok_bind]
      rw [readBody, if_pos (by omega)]
    | error => exact .inr ⟨by simp, by simp, by simp [idle], Nat.zero_le _⟩
    | panic | running =>
      rw [header] at bounded
      cases bounded

theorem hostile_reads_safe_iff (reader : Except String Buffered) :
    (∀ conn size, Run (gunStep feed) anyStep { reader := reader } conn → SafeRead feed conn size) ↔
      ∀ conn, Run (gunStep feed) anyStep { reader := reader } conn → ¬ conn.Oversized := by
  have nonnegative {conn : GunConn} (reached : Run (gunStep feed) anyStep { reader := reader } conn) : 0 ≤ conn.readRemaining := by
    refine reached.invariant (fun conn => 0 ≤ conn.readRemaining) (Int.le_refl 0) ?_
    intro conn size result before _ taken
    rw [gunStep] at taken
    rcases read_cases feed before size with ⟨_, panics⟩ | ⟨_, _, kept, _⟩
    · split at taken <;> simp_all
    · split at taken <;> simp_all
  constructor
  · intro safe conn reached oversized
    rcases read_cases feed (nonnegative reached) 0 with ⟨_, panics⟩ | ⟨fits, _⟩
    · exact (safe conn 0 reached).1 panics
    · exact fits oversized
  intro fits conn size reached
  exact ((read_cases feed (nonnegative reached) size).resolve_left (fun ⟨oversized, _⟩ => fits conn reached oversized)).2

theorem negative_length_counterexample :
    ¬ SafeRead { capacity := 4096, room := by decide, pieces := fun _ => 0 }
      (newGunConn (0x00 :: (beBytes 4 0 ++ 0x0A :: putUvarint (2 ^ 63)))) 1 := by
  intro safe
  exact safe.1 (by decide)

end OtunKernel.GrpcLite
