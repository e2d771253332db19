import OtunKernel.Lib.Segments

namespace OtunKernel.Trojan

open Lib Reader

abbrev Bytes := List UInt8

def keyLength : Nat := 56
def commandTCP : UInt8 := 1
def commandUDP : UInt8 := 3
def commandMux : UInt8 := 0x7f

def crlf : Bytes := [13, 10]

abbrev Key := { bytes : Bytes // bytes.length = keyLength }

-- M.SocksaddrSerializer: what is written is read back, however the stream goes on.
structure Serializer (A : Type) where
  writeAddrPort : A → Except String Bytes
  readAddrPort : Reader UInt8 A
  read_written : ∀ (destination : A) (written rest : Bytes), writeAddrPort destination = .ok written →
    readAddrPort.parse (written ++ rest) = .ok (destination, rest)

variable {A : Type} (serializer : Serializer A)

def clientHandshake (key : Key) (destination : A) (payload : Bytes) : Except String Bytes :=
  match serializer.writeAddrPort destination with
  | .error err => .error err
  | .ok addrPort => .ok (key.val ++ crlf ++ [commandTCP] ++ addrPort ++ crlf ++ payload)

def clientHandshakeBuffer (key : Key) (destination : A) (payload : Bytes) : Except String Bytes :=
  match serializer.writeAddrPort destination with
  | .error err => .error err
  | .ok addrPort =>
    let header := key.val ++ crlf ++ [commandTCP] ++ addrPort ++ crlf
    .ok (header ++ payload)

def uint16Bytes (value : Nat) : Bytes := [UInt8.ofNat (value / 256), UInt8.ofNat value]

def clientHandshakePacket (key : Key) (destination : A) (payload : Bytes) : Except String Bytes :=
  match serializer.writeAddrPort destination with
  | .error err => .error err
  | .ok addrPort =>
    let header := key.val ++ crlf ++ [commandUDP] ++ addrPort ++ crlf ++ addrPort ++ uint16Bytes payload.length ++ crlf
    .ok (header ++ payload)

-- writePacket for a destination that the serializer accepts, and the frame
-- that follows the header of a packet handshake.
def writePacket (destination : A) (payload : Bytes) : Except String Bytes :=
  match serializer.writeAddrPort destination with
  | .error err => .error err
  | .ok addrPort => .ok (addrPort ++ uint16Bytes payload.length ++ crlf ++ payload)

def cause {β : Type} (message : String) (reader : Reader UInt8 β) : Reader UInt8 β :=
  reader.mapError (fun err => message ++ ": " ++ err)

def skipN (size : Nat) : Reader UInt8 Unit := .readFull size "EOF" (fun _ => .done ())

def readByte : Reader UInt8 UInt8 :=
  .readFull 1 "EOF" (fun bytes =>
    match bytes with
    | [byte] => .done byte
    | _ => .fail "EOF")

def readUint16 : Reader UInt8 Nat :=
  .readFull 2 "EOF" (fun bytes =>
    match bytes with
    | [high, low] => .done (high.toNat * 256 + low.toNat)
    | _ => .fail "EOF")

def readPacket : Reader UInt8 (A × Bytes) :=
  (cause "read destination" serializer.readAddrPort).bind (fun destination =>
    (cause "read chunk length" readUint16).bind (fun length =>
      (cause "skip crlf" (skipN 2)).bind (fun _ =>
        .readFull length "EOF" (fun payload => .done (destination, payload)))))

@[simp] theorem parse_cause_ok {β : Type} {message : String} {reader : Reader UInt8 β} {stream left : Bytes} {value : β}
    (parsed : reader.parse stream = .ok (value, left)) : (cause message reader).parse stream = .ok (value, left) := by
  rw [cause, parse_map_error, parsed]
  rfl

theorem parse_skip {size : Nat} {skipped : Bytes} (rest : Bytes) (length : skipped.length = size) :
    (skipN size).parse (skipped ++ rest) = .ok ((), rest) := by
  rw [skipN, parse_read_full length]
  rfl

theorem parse_byte (byte : UInt8) (rest : Bytes) : readByte.parse ([byte] ++ rest) = .ok (byte, rest) := by
  rfl

theorem parse_uint16 {value : Nat} (rest : Bytes) (bounded : value < 65536) :
    readUint16.parse (uint16Bytes value ++ rest) = .ok (value, rest) := by
  have number : (UInt8.ofNat (value / 256)).toNat * 256 + (UInt8.ofNat value).toNat = value := by
    grind [UInt8.toNat_ofNat']
  rw [readUint16, parse_read_full (by rfl)]
  simp only [uint16Bytes, parse, number]

theorem read_packet_written {destination : A} {payload frame : Bytes} (rest : Bytes)
    (written : writePacket serializer destination payload = .ok frame) (bounded : payload.length < 65536) :
    (readPacket serializer).parse (frame ++ rest) = .ok ((destination, payload), rest) := by
  unfold writePacket at written
  split at written
  · contradiction
  rename_i addrPort accepted
  cases written
  simp only [List.append_assoc, readPacket, parse_bind]
  rw [parse_cause_ok (serializer.read_written destination addrPort _ accepted)]
  dsimp only
  rw [parse_cause_ok (parse_uint16 _ bounded)]
  dsimp only
  rw [parse_cause_ok (parse_skip _ (by rfl))]
  dsimp only
  rw [parse_read_full rfl]
  rfl

abbrev IPv4AddrPort := { bytes : Bytes // bytes.length = 7 }

def ipv4Serializer : Serializer IPv4AddrPort where
  writeAddrPort destination := .ok destination.val
  readAddrPort := .readFull 7 "EOF" (fun bytes => if whole : bytes.length = 7 then .done ⟨bytes, whole⟩ else .fail "EOF")
  read_written := by
    intro destination written rest accepted
    cases accepted
    rw [parse_read_full destination.property, dif_pos destination.property]
    rfl

def exampleDestination : IPv4AddrPort := ⟨[1, 192, 0, 2, 1, 1, 187], rfl⟩

end OtunKernel.Trojan
