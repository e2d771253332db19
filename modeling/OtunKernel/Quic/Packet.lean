import OtunKernel.Quic.Ja3

namespace OtunKernel.Quic

open Lib Outcome

inductive SniffError where
  | eof
  | unexpectedEOF
  | invalid
  | openFailed
  | message (text : String)
  | needMoreData (cause : ParseError)
deriving DecidableEq

def readByte : Bytes → Outcome SniffError (UInt8 × Bytes)
  | [] => .error .eof
  | byte :: rest => .ok (byte, rest)

def readFull (rest : Bytes) (n : Nat) : Outcome SniffError (Bytes × Bytes) :=
  if n ≤ rest.length then .ok (rest.take n, rest.drop n)
  else if rest.length = 0 then .error .eof
  else .error .unexpectedEOF

def discard (rest : Bytes) (n : Nat) : Outcome SniffError Bytes :=
  if n ≤ rest.length then .ok (rest.drop n) else .error .eof

abbrev Uvarint := { value : Nat // value < 2 ^ 62 }

def toUvarint (value : Nat) : Uvarint := ⟨value % 2 ^ 62, Nat.mod_lt value (by decide)⟩

theorem uvarint_bound (firstByte : UInt8) (later : Bytes) :
    beNat ((firstByte &&& 0x3f) :: later.take (2 ^ (firstByte.toNat / 64) - 1)) < 2 ^ 62 := by
  have first : (firstByte &&& 0x3f).toNat < 64 := by
    simpa [UInt8.toNat_and] using Nat.and_lt_two_pow _ (show (0x3f : UInt8).toNat < 2 ^ 6 by decide)
  have len : 2 ^ (firstByte.toNat / 64) ≤ 2 ^ 3 :=
    Nat.pow_le_pow_right (by omega) (by have := firstByte.toNat_lt; omega)
  have count : (later.take (2 ^ (firstByte.toNat / 64) - 1)).length ≤ 7 := by simp_all
  calc
    _ < ((firstByte &&& 0x3f).toNat + 1) * 256 ^ (later.take (2 ^ (firstByte.toNat / 64) - 1)).length := be_nat_cons_lt _ _
    _ ≤ 64 * 256 ^ 7 := Nat.mul_le_mul (by omega) (Nat.pow_le_pow_right (by omega) count)

def readUvarint (rest : Bytes) : Outcome SniffError (Uvarint × Bytes) := do
  let (firstByte, rest) ← readByte rest
  let len := 2 ^ (firstByte.toNat / 64)
  if len - 1 ≤ rest.length then
    .ok (⟨beNat ((firstByte &&& 0x3f) :: rest.take (len - 1)), uvarint_bound firstByte rest⟩, rest.drop (len - 1))
  else .error .eof

theorem read_byte_ends (rest : Bytes) : (readByte rest).Ensures (fun read => read.2.length < rest.length) := by
  cases rest with
  | nil => trivial
  | cons _ rest => exact Nat.lt_succ_self rest.length

theorem read_full_ends (rest : Bytes) (n : Nat) : (readFull rest n).Ensures (fun read => n + read.2.length = rest.length) := by
  rw [readFull]
  split
  · change n + (rest.drop n).length = rest.length
    rw [List.length_drop]
    omega
  · split <;> trivial

theorem discard_ends (rest : Bytes) (n : Nat) : (discard rest n).Ensures (fun later => n + later.length = rest.length) := by
  rw [discard]
  split
  · change n + (rest.drop n).length = rest.length
    rw [List.length_drop]
    omega
  · trivial

theorem read_uvarint_ends (rest : Bytes) : (readUvarint rest).Ensures (fun read => read.2.length < rest.length) := by
  refine (read_byte_ends rest).bind (fun read shorter => ?_)
  change Outcome.Ensures _ (if 2 ^ (read.1.toNat / 64) - 1 ≤ read.2.length then _ else _)
  split
  · change (read.2.drop _).length < rest.length
    rw [List.length_drop]
    omega
  · trivial

def versionDraft29 : Nat := 0xff00001d
def version1 : Nat := 0x1
def version2 : Nat := 0x6b3343cf

-- The header mask and the AEAD, keyed by version and connection ID, the longest
-- slice that the runtime makes, and buf.NewSize and Buffer.Write.
structure Env where
  mask (version : Nat) (destConnID pnBytes : Bytes) : Vector UInt8 16
  openData (version : Nat) (destConnID : Bytes) (packetNumber : Nat) (data additionalData : Bytes) : Option Bytes
  overhead : ∀ version destConnID packetNumber data additionalData decrypted,
    openData version destConnID packetNumber data additionalData = some decrypted → decrypted.length + 16 = data.length
  maxAlloc : Nat
  newSize : Nat → Outcome Empty Unit
  allocates : ∀ size, newSize size = if size ≤ maxAlloc then .ok () else .panic
  write (capacity : Nat) (buffer data : Bytes) : Bytes
  appends : ∀ capacity buffer data, buffer.length + data.length ≤ capacity → write capacity buffer data = buffer ++ data

structure Header where
  version : Nat
  destConnID : Bytes
  hdrLen : Nat
  packetLen : Nat
  pnBytes : Bytes

def parseHeader (packet : Bytes) : Outcome SniffError Header := do
  let (typeByte, reader) ← readByte packet
  if typeByte &&& 0x40 = 0 then .error (.message "bad type byte")
  else do
    let (versionNumber, reader) ← readFull reader 4
    let version := beNat versionNumber
    if version ≠ versionDraft29 ∧ version ≠ version1 ∧ version ≠ version2 then .error (.message "bad version")
    else do
      let packetType := (typeByte &&& 0x30) >>> 4
      if packetType = 0 ∧ version = version2 ∨ packetType = 2 ∧ version ≠ version2 ∨ 2 < packetType then
        .error (.message "bad packet type")
      else do
        let (destConnIDLen, reader) ← readByte reader
        if destConnIDLen = 0 ∨ 20 < destConnIDLen then .error (.message "bad destination connection id length")
        else do
          let (destConnID, reader) ← readFull reader destConnIDLen.toNat
          let (srcConnIDLen, reader) ← readByte reader
          let reader ← discard reader srcConnIDLen.toNat
          let (tokenLen, reader) ← readUvarint reader
          let reader ← discard reader tokenLen.val
          let (packetLen, reader) ← readUvarint reader
          let hdrLen := packet.length - reader.length
          if packet.length < hdrLen + packetLen.val then .error .invalid
          else do
            let reader ← discard reader 4
            let (pnBytes, _) ← readFull reader 16
            .ok { version := version, destConnID := destConnID, hdrLen := hdrLen, packetLen := packetLen.val, pnBytes := pnBytes }

structure Plain where
  decrypted : Bytes
  spare : Bytes
deriving DecidableEq

def xorAt (bytes : Bytes) (i : Nat) (byte : UInt8) : Outcome SniffError Bytes := do
  let old ← indexAt bytes i
  .ok (bytes.set i (old ^^^ byte))

def copyRange (dst src : Bytes) (low high : Nat) : Outcome SniffError Bytes := do
  let room ← sliceOf dst low high
  let items ← sliceFrom src low
  .ok (dst.take low ++ items.take room.length ++ dst.drop (low + min room.length items.length))

def unmaskByte (mask : Bytes) (hdrLen : Nat) (newPacket : Bytes) (i : Nat) : Outcome SniffError Bytes := do
  xorAt newPacket (hdrLen + i) (← indexAt mask (i + 1))

def unmask (mask packet : Bytes) (hdrLen : Nat) : Outcome SniffError Bytes := do
  let newPacket ← xorAt packet 0 ((← indexAt mask 0) &&& 0xf)
  let covered ← sliceOf newPacket hdrLen (hdrLen + 4)
  (List.range covered.length).foldlM (unmaskByte mask hdrLen) newPacket

def openPacket (env : Env) (packet : Bytes) (header : Header) : Outcome SniffError Plain := do
  let { version, destConnID, hdrLen, packetLen, pnBytes } := header
  let newPacket ← unmask (env.mask version destConnID pnBytes).toList packet hdrLen
  let packetNumberLength := ((← indexAt newPacket 0) &&& 0x3).toNat + 1
  if packetLen + hdrLen < hdrLen + packetNumberLength then .error .invalid
  else if packetNumberLength ∉ [1, 2, 3, 4] then .error (.message "bad packet number length")
  else do
    let packetNumber := beNat (← sliceOf newPacket hdrLen (hdrLen + packetNumberLength))
    let extHdrLen := hdrLen + packetNumberLength
    let newPacket ← copyRange newPacket packet extHdrLen (hdrLen + 4)
    let data ← sliceOf newPacket extHdrLen (packetLen + hdrLen)
    let additionalData ← sliceOf newPacket 0 extHdrLen
    match env.openData version destConnID packetNumber data additionalData with
    | none => .error .openFailed
    -- The plaintext is written over the data, and its slice keeps the capacity of the packet.
    | some decrypted => .ok { decrypted := decrypted, spare := newPacket.drop (extHdrLen + decrypted.length) }

def unprotect (env : Env) (packet : Bytes) : Outcome SniffError Plain := do
  openPacket env packet (← parseHeader packet)

structure Header.Inside (header : Header) (packet : Bytes) : Prop where
  packet_len : header.hdrLen + header.packetLen ≤ packet.length
  sample : header.hdrLen + 20 ≤ packet.length

theorem parse_header_ends (packet : Bytes) : (parseHeader packet).Ensures (fun header => header.Inside packet) := by
  refine (read_byte_ends packet).bind (fun ⟨typeByte, reader⟩ afterType => ?_)
  dsimp only at afterType ⊢
  split
  · trivial
  refine (read_full_ends reader 4).bind (fun ⟨versionNumber, reader⟩ afterVersion => ?_)
  split
  · trivial
  split
  · trivial
  refine (read_byte_ends reader).bind (fun ⟨destConnIDLen, reader⟩ afterDestLen => ?_)
  split
  · trivial
  refine (read_full_ends reader destConnIDLen.toNat).bind (fun ⟨destConnID, reader⟩ afterDest => ?_)
  refine (read_byte_ends reader).bind (fun ⟨srcConnIDLen, reader⟩ afterSrcLen => ?_)
  refine (discard_ends reader srcConnIDLen.toNat).bind (fun reader afterSrc => ?_)
  refine (read_uvarint_ends reader).bind (fun ⟨tokenLen, reader⟩ afterTokenLen => ?_)
  refine (discard_ends reader tokenLen.val).bind (fun reader afterToken => ?_)
  refine (read_uvarint_ends reader).bind (fun ⟨packetLen, reader⟩ afterPacketLen => ?_)
  split
  · trivial
  rename_i whole
  refine (discard_ends reader 4).bind (fun later afterNumber => ?_)
  refine (read_full_ends later 16).bind (fun ⟨pnBytes, last⟩ afterSample => ?_)
  exact ⟨Nat.not_lt.mp whole, by dsimp only at *; omega⟩

theorem xor_at_ends {bytes : Bytes} {i : Nat} (inside : i < bytes.length) (byte : UInt8) :
    (xorAt bytes i byte).Ensures (fun changed => changed.length = bytes.length) := by
  rw [xorAt, index_byte inside]
  exact List.length_set

theorem unmask_loop_ends {mask newPacket : Bytes} {hdrLen : Nat} {positions : List Nat} (block : mask.length = 16)
    (sample : hdrLen + 4 ≤ newPacket.length) (small : ∀ i ∈ positions, i < 4) :
    (positions.foldlM (unmaskByte mask hdrLen) newPacket).Ensures (fun changed => changed.length = newPacket.length) := by
  induction positions generalizing newPacket with
  | nil => exact rfl
  | cons i _ ih =>
    have here := small i (by simp)
    rw [List.foldlM_cons, unmaskByte, index_byte (by omega)]
    refine (xor_at_ends (by omega) _).bind (fun changed kept => ?_)
    grind

theorem unmask_ends {mask packet : Bytes} {hdrLen : Nat} (block : mask.length = 16) (sample : hdrLen + 4 ≤ packet.length) :
    (unmask mask packet hdrLen).Ensures (fun newPacket => newPacket.length = packet.length) := by
  rw [unmask, index_byte (by omega)]
  refine (xor_at_ends (by omega) _).bind (fun newPacket same => ?_)
  rw [← same] at sample ⊢
  rw [slice_of_eq (by omega) sample]
  refine unmask_loop_ends block sample (fun i member => ?_)
  rw [List.mem_range, List.length_drop, List.length_take] at member
  omega

theorem copy_range_ends {dst src : Bytes} {low high : Nat} (ordered : low ≤ high) (inside : high ≤ dst.length)
    (same : dst.length = src.length) : (copyRange dst src low high).Ensures (fun changed => changed.length = dst.length) := by
  rw [copyRange, slice_of_eq ordered inside, slice_from_eq (by omega)]
  change (dst.take low ++ _ ++ _).length = dst.length
  simp only [List.length_append, List.length_take, List.length_drop]
  omega

theorem open_packet_ends (env : Env) {packet : Bytes} {header : Header} (inside : header.Inside packet) :
    (openPacket env packet header).Ensures (fun _ => True) := by
  obtain ⟨_, _, _, _, _⟩ := header
  obtain ⟨whole, sample⟩ := inside
  dsimp only at whole sample
  refine (unmask_ends (Vector.length_toList) (by omega)).bind (fun newPacket same => ?_)
  rw [index_byte (by omega), ok_bind]
  generalize (newPacket.getD 0 0 &&& 0x3).toNat + 1 = packetNumberLength
  dsimp only
  split
  · trivial
  split
  · trivial
  have small : packetNumberLength ≤ 4 := by grind
  rw [slice_of_eq (by omega) (by omega)]
  refine (copy_range_ends (by omega) (by omega) same).bind (fun restored kept => ?_)
  rw [slice_of_eq (by omega) (by omega), ok_bind, slice_of_eq (by omega) (by omega), ok_bind]
  split <;> trivial

theorem unprotect_ends (env : Env) (packet : Bytes) : (unprotect env packet).Ensures (fun _ => True) :=
  (parse_header_ends packet).bind (fun _ inside => open_packet_ends env inside)

def clearEnv : Env where
  mask _ _ _ := Vector.replicate 16 0
  openData _ _ _ data _ := if 16 ≤ data.length then some (data.take (data.length - 16)) else none
  overhead := by
    intro _ _ _ data _ decrypted opened
    split at opened
    · cases opened
      rw [List.length_take]
      omega
    · cases opened
  maxAlloc := 2 ^ 48
  newSize size := if size ≤ 2 ^ 48 then .ok () else .panic
  allocates _ := rfl
  write capacity buffer data := buffer ++ data.take (capacity - buffer.length)
  appends _ _ _ room := by rw [List.take_of_length_le (by omega)]

def clearPacket (frames : Bytes) : Bytes :=
  [0xc0, 0, 0, 0, 1, 1, 7, 0, 0, 0x40, UInt8.ofNat (17 + frames.length), 0] ++ frames ++ List.replicate 16 0

example : unprotect clearEnv (clearPacket [1, 2, 3]) = .ok { decrypted := [1, 2, 3], spare := List.replicate 16 0 } := by decide

end OtunKernel.Quic
