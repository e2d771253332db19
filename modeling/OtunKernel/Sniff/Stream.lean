import OtunKernel.Lib.Pieces
import OtunKernel.Sniff.Packet

namespace OtunKernel.Sniff

open Lib

structure StreamMetadata where
  protocol : String := ""
  client : Bytes := []
deriving DecidableEq

inductive ReadError where
  | eof
  | unexpectedEOF
deriving DecidableEq

inductive StreamError where
  | needMoreData (cause : Option ReadError)
  | invalid
  | read (err : ReadError)
  | unpack (err : UnpackError)
deriving DecidableEq

def StreamError.NeedsMore (err : StreamError) : Prop := ∃ cause, err = .needMoreData cause

instance (err : StreamError) : Decidable err.NeedsMore :=
  match err with
  | .needMoreData cause => .isTrue ⟨cause, rfl⟩
  | .invalid => .isFalse (fun ⟨_, same⟩ => by contradiction)
  | .read _ => .isFalse (fun ⟨_, same⟩ => by contradiction)
  | .unpack _ => .isFalse (fun ⟨_, same⟩ => by contradiction)

inductive StreamSniffer where
  | ssh
  | rdp
  | bitTorrent
  | streamDomainNameQuery
deriving DecidableEq

abbrev Sniffed := Outcome StreamError StreamMetadata

def onEnd (_ : Option StreamError) (nothing : Bool) : StreamError :=
  .needMoreData (some (if nothing then .eof else .unexpectedEOF))

def expect (size value : Nat) : Decoder StreamError Unit :=
  .take size onEnd (fun bytes => if beNat bytes = value then .done () else .fail .invalid)

def skipN (size : Nat) : Decoder StreamError Unit := .take size (fun _ _ => .needMoreData (some .eof)) (fun _ => .done ())

def readRdp : Decoder StreamError Unit := do
  expect 1 0x03
  expect 1 0x00
  expect 2 19
  expect 1 14
  expect 1 0xE0
  skipN 5
  expect 1 0x01
  let _ ← .take 1 onEnd .done
  expect 1 8

def rdp (metadata : StreamMetadata) (reader : List Bytes) : Sniffed := do
  let _ ← readRdp.runPieces 0 reader
  return { metadata with protocol := "rdp" }

def header : Bytes :=
  [0x42, 0x69, 0x74, 0x54, 0x6f, 0x72, 0x72, 0x65, 0x6e, 0x74, 0x20, 0x70, 0x72, 0x6f, 0x74, 0x6f, 0x63, 0x6f, 0x6c]

def handshakeSniffed (metadata : StreamMetadata) (protocol : Bytes) : Sniffed :=
  if protocol ≠ header.take protocol.length then .error .invalid
  else if protocol.length = 0 then .error (.needMoreData (some .eof))
  else if protocol.length < 19 then .error (.needMoreData none)
  else .ok { metadata with protocol := "bittorrent" }

-- The handshake is read only once: what is in the next buffer does not count.
def bitTorrent (metadata : StreamMetadata) (reader : List Bytes) : Sniffed :=
  match readPieces 1 reader with
  | ([], _) => .error (.needMoreData (some .eof))
  | (first :: _, reader) => if first ≠ 19 then .error .invalid else handshakeSniffed metadata (readOnce 19 reader).1

def querySniffed (metadata : StreamMetadata) : Except UnpackError (Option String) → Sniffed
  | .error err => .error (.unpack err)
  | .ok none => .ok metadata
  | .ok (some protocol) => .ok { metadata with protocol := protocol }

def sniffQuery (unpack : Bytes → Except UnpackError Msg) (metadata : StreamMetadata) (length : Nat) (packet : Bytes) : Sniffed :=
  if 2 < packet.length ∧ packet.getD 2 0 &&& 0x80 ≠ 0 then .error .invalid
  else if 5 < packet.length ∧ packet.getD 4 0 = 0 ∧ packet.getD 5 0 = 0 then .error .invalid
  else if ∃ i ∈ ([6, 7, 8, 9] : List Nat), i < packet.length ∧ packet.getD i 0 ≠ 0 then .error .invalid
  else if packet.length < length then .error (onEnd none (packet.length == 0))
  else querySniffed metadata (domainNameQuery packet unpack)

def streamDomainNameQuery (unpack : Bytes → Except UnpackError Msg) (metadata : StreamMetadata) (reader : List Bytes) : Sniffed := do
  let (bytes, reader) ← (Decoder.take 2 onEnd Decoder.done : Decoder StreamError Bytes).runPieces 0 reader
  let length := beNat bytes
  if length < 12 then .error .invalid
  else sniffQuery unpack metadata length (readPieces length reader).1

def sshPrefix : Bytes := [0x53, 0x53, 0x48, 0x2d, 0x32, 0x2e, 0x30, 0x2d]

def bufferSize : Nat := 4096

-- Reads into the buffer until it has what is looked for or is full; the flag
-- tells that the input has ended before.
def fillUntil (stop : Bytes → Bool) : Bytes → List Bytes → Bytes × Bool × List Bytes
  | held, [] => (held, !(stop held || decide (bufferSize ≤ held.length)), [])
  | held, piece :: rest =>
    if stop held || decide (bufferSize ≤ held.length) then (held, false, piece :: rest)
    else if piece.length ≤ bufferSize - held.length then fillUntil stop (held ++ piece) rest
    else (held ++ piece.take (bufferSize - held.length), false, piece.drop (bufferSize - held.length) :: rest)

def dropReturn (line : Bytes) : Bytes := if line.getLast? = some 13 then line.dropLast else line

def readLine (held : Bytes) (reader : List Bytes) : Outcome StreamError Bytes :=
  let (held, ended, _) := fillUntil (·.contains 10) held reader
  if held.contains 10 then .ok (dropReturn (held.takeWhile (· != 10)))
  else if ended then if held.isEmpty then .error (.read .eof) else .ok held
  else .ok (dropReturn held)

def ssh (metadata : StreamMetadata) (reader : List Bytes) : Sniffed :=
  let (held, ended, reader) := fillUntil (fun held => sshPrefix.length ≤ held.length) [] reader
  let peeked := held.take sshPrefix.length
  if peeked ≠ sshPrefix.take peeked.length then .error .invalid
  else if ended then .error (.needMoreData (some .eof))
  else do
    let firstLine ← readLine held reader
    let client ← sliceFrom firstLine 8
    return { metadata with protocol := "ssh", client := client }

def StreamSniffer.sniff (unpack : Bytes → Except UnpackError Msg) (metadata : StreamMetadata) (reader : List Bytes) :
    StreamSniffer → Sniffed
  | .ssh => Sniff.ssh metadata reader
  | .rdp => Sniff.rdp metadata reader
  | .bitTorrent => Sniff.bitTorrent metadata reader
  | .streamDomainNameQuery => Sniff.streamDomainNameQuery unpack metadata reader

inductive PeekError where
  | readPayload
  | sniff (errors : List StreamError)

section
variable (unpack : Bytes → Except UnpackError Msg) (metadata : StreamMetadata)

def trySniffers (reader : List Bytes) : List StreamError → List StreamSniffer → Outcome (List StreamError) StreamMetadata
  | errors, [] => .error errors
  | errors, sniffer :: later =>
    match sniffer.sniff unpack metadata reader with
    | .ok sniffed => .ok sniffed
    | .error err => trySniffers reader (errors ++ [err]) later
    | .panic => .panic
    | .running => .running

-- The loop of PeekStream, with what the buffer holds and the last turn's
-- errors. The connection delivers the segments, then its read fails. No errors
-- are nil.
def peekAfter (buffers : List Bytes) (sniffers : List StreamSniffer) :
    Bytes → List StreamError → List Bytes → Outcome Empty (StreamMetadata × Option PeekError)
  | _, errors, [] => .ok (metadata, if errors.isEmpty then none else some (.sniff errors))
  | held, _, segment :: later =>
    match trySniffers unpack metadata (buffers ++ [held ++ segment]) [] sniffers with
    | .ok sniffed => .ok (sniffed, none)
    | .error errors =>
      if errors.any (fun err => decide err.NeedsMore) then peekAfter buffers sniffers (held ++ segment) errors later
      else .ok (metadata, if errors.isEmpty then none else some (.sniff errors))
    | .panic => .panic
    | .running => .running

def peekStream (buffers : List Bytes) (sniffers : List StreamSniffer) (segments : List Bytes) :
    Outcome Empty (StreamMetadata × Option PeekError) :=
  if segments.isEmpty then .ok (metadata, some .readPayload) else peekAfter unpack metadata buffers sniffers [] [] segments

end
end OtunKernel.Sniff
