import OtunKernel.Lib.Bytes
import OtunKernel.Lib.Segments

namespace OtunKernel.Dns

open Lib

-- What is used of the DNS package. pack flag is Pack with Compress set to
-- flag. The flag itself is not on the wire, so Unpack leaves it unset.
structure MessageCodec (M : Type) where
  compress : M → Bool
  setCompress : Bool → M → M
  id : M → UInt16
  setId : UInt16 → M → M
  pack : Bool → M → Bytes
  unpack : Bytes → Except String M
  unpack_pack : ∀ flag message, unpack (pack flag message) = .ok (setCompress false message)
  header : ∀ flag message, 12 ≤ (pack flag message).length
  pack_id : ∀ flag id message, (pack flag (setId id message)).length = (pack flag message).length
  id_set : ∀ flag id' message, id (setCompress flag (setId id' message)) = id'

section
variable {M : Type} (codec : MessageCodec M)

def MessageCodec.len (message : M) : Nat := (codec.pack (codec.compress message) message).length

-- Msg.PackBuffer with the buffer after it: the message stands there only if
-- there is room for it without compression and one byte more.
def MessageCodec.packBuffer (buffer : Bytes) (message : M) : Bytes × Bytes :=
  let rawMessage := codec.pack true message
  (rawMessage, if (codec.pack false message).length < buffer.length then rawMessage ++ buffer.drop rawMessage.length else buffer)

-- free is what the pool left in the buffer behind the two bytes of the length.
def writeMessage (free : Bytes) (messageId : UInt16) (message : M) : Bytes :=
  let requestLen := codec.len message
  let (rawMessage, buffer) := codec.packBuffer (free.take (1 + requestLen)) (codec.setId messageId message)
  beBytes 2 requestLen ++ buffer.take rawMessage.length

def readMessage : Reader UInt8 M :=
  .readFull 2 "EOF" (fun bytes =>
    if beNat bytes < 10 then .fail "dns: short read"
    else .readFull (beNat bytes) "EOF" (fun rawMessage =>
      match codec.unpack rawMessage with
      | .ok message => .done message
      | .error err => .fail err))

def readMessages : Nat → Reader UInt8 (List M)
  | 0 => .done []
  | count + 1 => (readMessage codec).bind (fun message => (readMessages count).bind (fun later => .done (message :: later)))

-- A call of WriteMessage; the pool gives a buffer of the size asked for.
structure Written (codec : MessageCodec M) where
  free : Bytes
  messageId : UInt16
  message : M
  room : codec.len message < free.length

variable {codec}

def Written.bytes (written : Written codec) : Bytes := writeMessage codec written.free written.messageId written.message

-- The message with the given id, as Unpack gives it.
def Written.sent (written : Written codec) : M := codec.setCompress false (codec.setId written.messageId written.message)

def Written.Framed (written : Written codec) : Prop :=
  beNat (written.bytes.take 2) = (written.bytes.drop 2).length ∧
    ∀ rest, (readMessage codec).parse (written.bytes ++ rest) = .ok (written.sent, rest)

variable (codec) in
-- Compression leaves the length as it is, or at least its lower sixteen bits
-- where the prefix is that of the message without compression.
def MessageCodec.Steady (message : M) : Prop :=
  if codec.compress message then (codec.pack false message).length ≤ (codec.pack true message).length
  else (codec.pack false message).length % 65536 = (codec.pack true message).length

section
variable {written : Written codec}

theorem written_length (written : Written codec) : beNat (written.bytes.take 2) = codec.len written.message % 65536 := by
  rw [Written.bytes, writeMessage, List.take_left' (length_be_bytes _ _)]
  exact be_nat_be_bytes_mod 2 _

theorem written_body (fits : (codec.pack false written.message).length ≤ codec.len written.message) :
    written.bytes.drop 2 = codec.pack true (codec.setId written.messageId written.message) := by
  have room := written.room
  have inside : (codec.pack false (codec.setId written.messageId written.message)).length <
      (written.free.take (1 + codec.len written.message)).length := by
    rw [codec.pack_id, List.length_take]
    omega
  simp only [Written.bytes, writeMessage, MessageCodec.packBuffer, if_pos inside, List.drop_left' (length_be_bytes _ _),
    List.take_left]

-- Without the room the buffer is written as the pool gave it.
theorem stale_body (misfit : codec.len written.message < (codec.pack false written.message).length) :
    written.bytes.drop 2 = (written.free.take (1 + codec.len written.message)).take (codec.pack true written.message).length := by
  have outside : ¬ (codec.pack false (codec.setId written.messageId written.message)).length <
      (written.free.take (1 + codec.len written.message)).length := by
    rw [codec.pack_id, List.length_take]
    omega
  simp only [Written.bytes, writeMessage, MessageCodec.packBuffer, if_neg outside, List.drop_left' (length_be_bytes _ _)]
  rw [codec.pack_id]

theorem read_body {other : M} (rightPrefix : beNat (written.bytes.take 2) = (codec.pack true other).length)
    (body : written.bytes.drop 2 = codec.pack true other) (rest : Bytes) :
    (readMessage codec).parse (written.bytes ++ rest) = .ok (codec.setCompress false other, rest) := by
  have long := codec.header true other
  have split : written.bytes = written.bytes.take 2 ++ codec.pack true other := by rw [← body, List.take_append_drop]
  have two : (written.bytes.take 2).length = 2 := by
    rw [Written.bytes, writeMessage, List.take_left' (length_be_bytes _ _), length_be_bytes]
  rw [split, List.append_assoc, readMessage, Reader.parse_read_full two, rightPrefix, if_neg (by omega),
    Reader.parse_read_full rfl, codec.unpack_pack]
  rfl

theorem framed_of_fits (same : codec.len written.message % 65536 = (codec.pack true written.message).length)
    (fits : (codec.pack false written.message).length ≤ codec.len written.message) : written.Framed := by
  have body := written_body fits
  have rightPrefix : beNat (written.bytes.take 2) = (codec.pack true (codec.setId written.messageId written.message)).length := by
    rw [written_length, same, codec.pack_id]
  exact ⟨rightPrefix.trans (congrArg List.length body.symm), read_body rightPrefix body⟩

theorem steady_framed (small : (codec.pack true written.message).length < 65536) (steady : codec.Steady written.message) :
    written.Framed := by
  unfold MessageCodec.Steady at steady
  cases flag : codec.compress written.message with
  | true =>
    have length : codec.len written.message = (codec.pack true written.message).length := by rw [MessageCodec.len, flag]
    rw [if_pos flag] at steady
    exact framed_of_fits (by omega) (by omega)
  | false =>
    have length : codec.len written.message = (codec.pack false written.message).length := by rw [MessageCodec.len, flag]
    rw [flag, if_neg Bool.false_ne_true] at steady
    exact framed_of_fits (by omega) (by omega)

end

-- With the flag the prefix is right, but what the pool left in the buffer can
-- be a message with another id.
theorem steady_of_framed {messageId : UInt16} {message : M} (small : (codec.pack true message).length < 65536)
    (framed : ∀ written : Written codec, written.messageId = messageId → written.message = message → written.Framed) :
    codec.Steady message := by
  unfold MessageCodec.Steady
  cases flag : codec.compress message with
  | false =>
    have length : codec.len message = (codec.pack false message).length := by rw [MessageCodec.len, flag]
    have first := (framed ⟨List.replicate (codec.len message + 1) 0, messageId, message, by simp⟩ rfl rfl).1
    rw [written_length, written_body length.ge, codec.pack_id] at first
    rw [if_neg Bool.false_ne_true, ← length]
    exact first
  | true =>
    have length : codec.len message = (codec.pack true message).length := by rw [MessageCodec.len, flag]
    rw [if_pos rfl]
    by_contra misfit
    generalize named : codec.setId (messageId + 1) message = other
    have otherLength : (codec.pack true other).length = codec.len message := by rw [← named, codec.pack_id, length]
    obtain ⟨written, ids, rfl, stale⟩ : ∃ written : Written codec, written.messageId = messageId ∧
        written.message = message ∧ written.free = codec.pack true other ++ [0] :=
      ⟨⟨codec.pack true other ++ [0], messageId, message, by simp [otherLength]⟩, rfl, rfl, rfl⟩
    have body : written.bytes.drop 2 = codec.pack true other := by
      rw [stale_body (by omega), ← length, ← otherLength, stale, List.take_take, Nat.min_eq_left (by omega), List.take_left]
    have rightPrefix : beNat (written.bytes.take 2) = (codec.pack true other).length := by
      rw [written_length, otherLength]
      omega
    have read := (read_body rightPrefix body []).symm.trans ((framed written ids rfl).2 [])
    have sameId := congrArg codec.id (congrArg Prod.fst (Except.ok.inj read))
    rw [← named, Written.sent, codec.id_set, codec.id_set, ids] at sameId
    simp at sameId

-- What one call writes, and what follows for a stream of calls.
theorem framed_stream_read (codec : MessageCodec M) :
    (∀ messageId message, (codec.pack true message).length < 65536 →
      ((∀ written : Written codec, written.messageId = messageId → written.message = message → written.Framed) ↔
        codec.Steady message)) ∧
    ∀ (stream : List (Written codec)) (rest : Bytes),
      (∀ written ∈ stream, (codec.pack true written.message).length < 65536 ∧ codec.Steady written.message) →
      (readMessages codec stream.length).parse (stream.flatMap Written.bytes ++ rest) = .ok (stream.map Written.sent, rest) := by
  constructor
  · intro messageId message small
    constructor
    · exact steady_of_framed small
    · rintro steady written rfl rfl
      exact steady_framed small steady
  · intro stream rest steady
    induction stream with
    | nil => rfl
    | cons written stream step =>
      have later := step (fun other listed => steady other (List.mem_cons_of_mem _ listed))
      obtain ⟨small, fits⟩ := steady written List.mem_cons_self
      rw [List.flatMap_cons, List.append_assoc, List.length_cons, readMessages, Reader.parse_bind,
        (steady_framed small fits).2]
      simp [Reader.parse_bind, later, Reader.parse]

end

-- A query for the addresses of a., or an answer to it with one address.
structure AddressMessage where
  id : UInt16
  compress : Bool
  address : Option (UInt8 × UInt8 × UInt8 × UInt8)
deriving DecidableEq

-- The name of the answer is a. again, or a pointer to the question.
def packAnswer (flag : Bool) : Option (UInt8 × UInt8 × UInt8 × UInt8) → Bytes
  | none => []
  | some (a, b, c, d) => (if flag then [0xC0, 0x0C] else [1, 97, 0]) ++ [0, 1, 0, 1, 0, 0, 0, 60, 0, 4] ++ [a, b, c, d]

def addressCodec : MessageCodec AddressMessage where
  compress := AddressMessage.compress
  setCompress flag message := { message with compress := flag }
  id := AddressMessage.id
  setId id message := { message with id := id }
  pack flag message := putUint16 message.id ++ (if message.address.isSome then [0x81, 0x80, 0, 1, 0, 1] else [1, 0, 0, 1, 0, 0]) ++
    [0, 0, 0, 0] ++ [1, 97, 0, 0, 1, 0, 1] ++ packAnswer flag message.address
  unpack
    | high :: low :: rest =>
      match rest.drop 17, (rest.drop (rest.length - 4)) with
      | [], _ => .ok ⟨beUint16 high low, false, none⟩
      | _, [a, b, c, d] => .ok ⟨beUint16 high low, false, some (a, b, c, d)⟩
      | _, _ => .error "dns: short read"
    | _ => .error "dns: short read"
  unpack_pack flag message := by
    obtain ⟨id, compress, address⟩ := message
    cases address with
    | none => simp [putUint16, packAnswer, be_uint16_put]
    | some octets => cases flag <;> simp [putUint16, packAnswer, be_uint16_put]
  header flag message := by
    simp only [putUint16, List.length_append, List.length_cons]
    omega
  pack_id _ _ _ := by simp [putUint16]
  id_set _ _ _ := rfl

def addressWritten (compress : Bool) (address : Option (UInt8 × UInt8 × UInt8 × UInt8)) : Written addressCodec where
  free := List.replicate 40 0
  messageId := 7
  message := ⟨0, compress, address⟩
  room := by
    cases compress <;> cases address <;> simp [MessageCodec.len, addressCodec, packAnswer, putUint16]

theorem repeated_name_counterexample :
    beNat ((addressWritten false (some (192, 0, 2, 1))).bytes.take 2) = 36 ∧
      ((addressWritten false (some (192, 0, 2, 1))).bytes.drop 2).length = 35 := by
  decide

theorem query_stream_read :
    (readMessages addressCodec 2).parse ([addressWritten false none, addressWritten true none].flatMap Written.bytes ++ []) =
      .ok ([⟨7, false, none⟩, ⟨7, false, none⟩], []) := by
  refine (framed_stream_read addressCodec).2 [addressWritten false none, addressWritten true none] [] ?_
  have unshortened : ∀ compress, addressCodec.Steady (addressWritten compress none).message := by
    unfold MessageCodec.Steady
    decide
  simp only [List.forall_mem_cons]
  exact ⟨⟨by decide, unshortened false⟩, ⟨by decide, unshortened true⟩, by simp⟩

end OtunKernel.Dns
