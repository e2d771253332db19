import OtunKernel.Trojan.Protocol

namespace OtunKernel.Trojan

open Lib

section
variable {A : Type} (serializer : Serializer A)

def readHeader : Reader UInt8 (A × Nat) :=
  (cause "read destination" serializer.readAddrPort).bind (fun destination =>
    (cause "read chunk length" readUint16).bind (fun length =>
      (cause "skip crlf" (skipN 2)).bind (fun _ => .done (destination, length))))

-- ReadPacket into a buffer with some room, and what it leaves of the stream.
def readPacketInto (room : Nat) (stream : Bytes) : Except String (A × Bytes) × Bytes :=
  match (readHeader serializer).parse stream with
  | .error err => (.error err, (readHeader serializer).left stream)
  | .ok ((destination, length), rest) =>
    if room < length then (.error "short buffer", rest)
    else if rest.length < length then (.error "unexpected EOF", [])
    else (.ok (destination, rest.take length), rest.drop length)

def readPackets : List Nat → Bytes → List (Except String (A × Bytes))
  | [], _ => []
  | room :: rooms, stream =>
    (readPacketInto serializer room stream).1 :: readPackets rooms (readPacketInto serializer room stream).2

variable {serializer}

theorem read_written_into {destination : A} {payload frame : Bytes} {room : Nat} (rest : Bytes)
    (written : writePacket serializer destination payload = .ok frame) (bounded : payload.length < 65536)
    (fits : payload.length ≤ room) : readPacketInto serializer room (frame ++ rest) = (.ok (destination, payload), rest) := by
  unfold writePacket at written
  split at written
  · contradiction
  rename_i addrPort accepted
  cases written
  have header : (readHeader serializer).parse (addrPort ++ uint16Bytes payload.length ++ crlf ++ payload ++ rest) =
      .ok ((destination, payload.length), payload ++ rest) := by
    simp only [List.append_assoc, readHeader, Reader.parse_bind]
    rw [parse_cause_ok (serializer.read_written destination addrPort _ accepted)]
    dsimp only
    rw [parse_cause_ok (parse_uint16 _ bounded)]
    rfl
  rw [readPacketInto, header]
  simp [Nat.not_lt.mpr fits]

theorem read_ended_stream {err : String} (ends : serializer.readAddrPort.parse [] = .error err) (rooms : List Nat)
    {result : Except String (A × Bytes)} (taken : result ∈ readPackets serializer rooms []) : ∃ err, result = .error err := by
  have header : (readHeader serializer).parse [] = .error ("read destination: " ++ err) := by
    simp [readHeader, Reader.parse_bind, cause, Reader.parse_map_error, ends, Except.mapError]
  induction rooms with
  | nil => simp [readPackets] at taken
  | cons room rooms step =>
    simp only [readPackets, readPacketInto, header, Reader.left_nil, List.mem_cons] at taken
    rcases taken with rfl | later
    · exact ⟨_, rfl⟩
    · exact step later

-- With room for every packet the stream stays in frame. A payload that does not
-- fit is left in the stream and read as the next packet.
theorem packets_stay_in_frame (serializer : Serializer A) (err : String)
    (ends : serializer.readAddrPort.parse [] = .error err) (packets : List (A × Bytes)) (frames : List Bytes)
    (written : List.Forall₂ (fun packet frame => writePacket serializer packet.1 packet.2 = .ok frame) packets frames)
    (bounded : ∀ packet ∈ packets, packet.2.length < 65536) (rooms : List Nat)
    (fits : ∀ call ∈ packets.zip rooms, call.1.2.length ≤ call.2) :
    ∃ failures, readPackets serializer rooms frames.flatten = (packets.take rooms.length).map .ok ++ failures ∧
      ∀ result ∈ failures, ∃ err, result = .error err := by
  induction written generalizing rooms with
  | nil => exact ⟨_, by simp, fun result taken => read_ended_stream ends rooms taken⟩
  | cons first later step =>
    cases rooms with
    | nil => exact ⟨[], rfl, by simp⟩
    | cons room rooms =>
      simp only [List.zip_cons_cons, List.mem_cons, forall_eq_or_imp] at bounded fits
      obtain ⟨failures, read, failed⟩ := step bounded.2 rooms fits.2
      refine ⟨failures, ?_, failed⟩
      rw [List.flatten_cons, readPackets, read_written_into _ first bounded.1 fits.1]
      simp [read]

end

-- The payload is what a packet to 192.0.2.9:53 with one byte looks like.
def nestedPayload : Bytes := [1, 192, 0, 2, 9, 0, 53, 0, 1, 13, 10, 42]

theorem small_buffer_counterexample :
    ∃ frame, writePacket ipv4Serializer exampleDestination nestedPayload = .ok frame ∧
      readPackets ipv4Serializer [4, 12] frame = [.error "short buffer", .ok (⟨[1, 192, 0, 2, 9, 0, 53], rfl⟩, [42])] :=
  ⟨_, rfl, rfl⟩

theorem large_buffers_in_frame :
    ∃ failures, readPackets ipv4Serializer [10, 10] [1, 192, 0, 2, 1, 1, 187, 0, 2, 13, 10, 7, 8] =
      [.ok (exampleDestination, [7, 8])] ++ failures ∧ ∀ result ∈ failures, ∃ err, result = .error err :=
  packets_stay_in_frame ipv4Serializer "EOF" rfl [(exampleDestination, [7, 8])]
    [[1, 192, 0, 2, 1, 1, 187, 0, 2, 13, 10, 7, 8]] (.cons rfl .nil) (by decide) [10, 10] (by decide)

end OtunKernel.Trojan
