import OtunKernel.Lib.Bytes

namespace OtunKernel.Websocket

open Lib Outcome

-- The free space in front of the data, which nothing has cleared, and the data,
-- whose length is an int.
structure Buffer where
  front : Bytes
  data : Bytes
  addressable : data.length < 2 ^ 63

-- The last n bytes of the free space.
def Buffer.extendHeader (buffer : Buffer) (n : Nat) : Outcome String Bytes :=
  if n ≤ buffer.front.length then .ok (buffer.front.drop (buffer.front.length - n)) else .panic

def writeAt (header : Bytes) (offset : Nat) (bytes : Bytes) : Outcome String Bytes :=
  if offset + bytes.length ≤ header.length
  then .ok (header.take offset ++ bytes ++ header.drop (offset + bytes.length)) else .panic

-- ws.Cipher with offset 0
def cipher (payload mask : Bytes) : Bytes := payload.mapIdx (fun i byte => byte ^^^ mask.getD (i % 4) 0)

def payloadBitLength (dataLen : Nat) : Nat :=
  if dataLen < 126 then 1
  else if dataLen < 65536 then 3
  else 9

def headerLength (isServer : Bool) (dataLen : Nat) : Nat :=
  1 + payloadBitLength dataLen + if isServer then 0 else 4

def frontHeadroom : Nat := 14

def maskBit (isServer : Bool) : UInt8 := if isServer then 0 else 1 <<< (7 : UInt8)

-- header[1] and the length behind it
def putLength (isServer : Bool) (dataLen : Nat) (header : Bytes) : Outcome String Bytes :=
  if dataLen < 126 then writeAt header 1 [maskBit isServer ||| UInt8.ofNat dataLen]
  else if dataLen < 65536 then do
    let header ← writeAt header 1 [maskBit isServer ||| 126]
    writeAt header 2 (beBytes 2 dataLen)
  else do
    let header ← writeAt header 1 [maskBit isServer ||| 127]
    writeAt header 2 (beBytes 8 dataLen)

-- What WriteBuffer gives to the writer below; maskKey is the number that rand
-- gives.
def writeBuffer (isServer : Bool) (maskKey : UInt32) (buffer : Buffer) : Outcome String Bytes := do
  let dataLen := buffer.data.length
  let header ← buffer.extendHeader (headerLength isServer dataLen)
  let header ← writeAt header 0 [0x02 ||| 0x80]
  let header ← putLength isServer dataLen header
  if isServer then .ok (header ++ buffer.data)
  else do
    let header ← writeAt header (1 + payloadBitLength dataLen) (beBytes 4 maskKey.toNat)
    .ok (header ++ cipher buffer.data ((header.drop (1 + payloadBitLength dataLen)).take 4))

structure Frame where
  fin : Bool
  opcode : Nat
  masked : Bool
  payload : Bytes
deriving DecidableEq

def lengthSize (short : Nat) : Nat := if short = 126 then 2 else if short = 127 then 8 else 0

-- The length in the shortest of the three forms.
def frameLength (short : Nat) (extended : Bytes) : Option Nat :=
  if short < 126 then some short
  else if short = 126 then if 126 ≤ beNat extended then some (beNat extended) else none
  else if 65536 ≤ beNat extended ∧ beNat extended < 2 ^ 63 then some (beNat extended) else none

-- The frame at the beginning of a stream, as RFC 6455 has it, and what follows.
def parseFrame : Bytes → Option (Frame × Bytes)
  | first :: second :: rest =>
    let short := second.toNat % 128
    let masked := decide (128 ≤ second.toNat)
    let extended := rest.take (lengthSize short)
    let mask := (rest.drop (lengthSize short)).take (if masked then 4 else 0)
    let body := (rest.drop (lengthSize short)).drop (if masked then 4 else 0)
    if extended.length = lengthSize short ∧ mask.length = (if masked then 4 else 0) ∧ first.toNat / 16 % 8 = 0 then
      match frameLength short extended with
      | some length =>
        if length ≤ body.length then
          some (⟨decide (128 ≤ first.toNat), first.toNat % 16, masked,
            if masked then cipher (body.take length) mask else body.take length⟩, body.drop length)
        else none
      | none => none
    else none
  | _ => none

theorem cipher_cipher (payload mask : Bytes) : cipher (cipher payload mask) mask = payload := by
  refine List.ext_getElem (by simp [cipher]) (fun i _ _ => ?_)
  simp only [cipher, List.getElem_mapIdx]
  rw [UInt8.xor_assoc, UInt8.xor_self, UInt8.xor_zero]

theorem write_at_eq {front old bytes : Bytes} (rest : Bytes) (sized : old.length = bytes.length) :
    writeAt (front ++ (old ++ rest)) front.length bytes = .ok (front ++ (bytes ++ rest)) := by
  grind [writeAt]

-- The second byte of the frame and the rest of the length.
def lengthBytes (isServer : Bool) (dataLen : Nat) : UInt8 × Bytes :=
  if dataLen < 126 then (maskBit isServer ||| UInt8.ofNat dataLen, [])
  else if dataLen < 65536 then (maskBit isServer ||| 126, beBytes 2 dataLen)
  else (maskBit isServer ||| 127, beBytes 8 dataLen)

theorem header_parts (header : Bytes) (middle last : Nat) (sized : header.length = 2 + middle + last) :
    ∃ a b front key, header = a :: b :: (front ++ key) ∧ front.length = middle ∧ key.length = last := by
  match header, sized with
  | [], sized | [_], sized => grind
  | a :: b :: tail, sized =>
    simp only [List.length_cons] at sized
    exact ⟨a, b, tail.take middle, tail.drop middle, by rw [List.take_append_drop], by simp; omega, by simp; omega⟩

theorem put_length_eq {a b : UInt8} {front key : Bytes} (isServer : Bool) {dataLen : Nat}
    (sized : front.length + 1 = payloadBitLength dataLen) : putLength isServer dataLen (a :: b :: (front ++ key)) =
      .ok (a :: (lengthBytes isServer dataLen).1 :: ((lengthBytes isServer dataLen).2 ++ key)) := by
  have second (x : UInt8) : writeAt (a :: b :: (front ++ key)) 1 [x] = .ok (a :: x :: (front ++ key)) :=
    @write_at_eq [a] [b] [x] (front ++ key) rfl
  have third (x : UInt8) (bytes : Bytes) (same : front.length = bytes.length) :
      writeAt (a :: x :: (front ++ key)) 2 bytes = .ok (a :: x :: (bytes ++ key)) :=
    @write_at_eq [a, x] front bytes key same
  rw [payloadBitLength] at sized
  rw [putLength, lengthBytes]
  split_ifs at sized ⊢ with short medium
  · grind
  · simp only [second, ok_bind, third _ (beBytes 2 dataLen) (by simp; omega)]
  · simp only [second, ok_bind, third _ (beBytes 8 dataLen) (by simp; omega)]

theorem write_buffer_eq (isServer : Bool) (maskKey : UInt32) (buffer : Buffer)
    (room : headerLength isServer buffer.data.length ≤ buffer.front.length) :
    writeBuffer isServer maskKey buffer =
      .ok (0x82 :: (lengthBytes isServer buffer.data.length).1 :: ((lengthBytes isServer buffer.data.length).2 ++
        if isServer then buffer.data else beBytes 4 maskKey.toNat ++ cipher buffer.data (beBytes 4 maskKey.toNat))) := by
  have extended : (lengthBytes isServer buffer.data.length).2.length + 1 = payloadBitLength buffer.data.length := by
    rw [lengthBytes, payloadBitLength]
    split_ifs <;> simp
  obtain ⟨a, b, front, key, parts, front_length, key_length⟩ :=
    header_parts (buffer.front.drop (buffer.front.length - headerLength isServer buffer.data.length))
      (payloadBitLength buffer.data.length - 1) (if isServer then 0 else 4) (by
        rw [List.length_drop, Nat.sub_sub_self room, headerLength]
        omega)
  have first : writeAt (a :: b :: (front ++ key)) 0 [0x02 ||| 0x80] = .ok (0x82 :: b :: (front ++ key)) :=
    @write_at_eq [] [a] [0x82] (b :: (front ++ key)) rfl
  simp only [writeBuffer, Buffer.extendHeader, if_pos room, parts, ok_bind, first,
    put_length_eq isServer (show front.length + 1 = payloadBitLength buffer.data.length by omega)]
  generalize lengthBytes isServer buffer.data.length = length at extended ⊢
  cases isServer with
  | true => grind
  | false =>
    have masked : writeAt (0x82 :: length.1 :: (length.2 ++ key)) (1 + payloadBitLength buffer.data.length) (beBytes 4 maskKey.toNat) =
        .ok (0x82 :: length.1 :: (length.2 ++ beBytes 4 maskKey.toNat)) := by
      have written := @write_at_eq (0x82 :: length.1 :: length.2) key (beBytes 4 maskKey.toNat) [] (by simpa using key_length)
      rw [List.append_nil, List.length_cons, List.length_cons, extended, Nat.add_comm] at written
      exact written
    have dropped : (0x82 :: length.1 :: (length.2 ++ beBytes 4 maskKey.toNat)).drop (1 + payloadBitLength buffer.data.length) =
        beBytes 4 maskKey.toNat := by
      rw [← extended, Nat.add_comm 1]
      simp
    simp [masked, dropped, List.take_of_length_le]

theorem or_small (isServer : Bool) {value : Nat} (small : value < 128) :
    (maskBit isServer ||| UInt8.ofNat value).toNat = (maskBit isServer).toNat + value := by
  have all : ∀ value : Fin 128, (maskBit false ||| UInt8.ofNat value).toNat = 128 + value := by decide
  cases isServer with
  | true => simp [maskBit, Nat.mod_eq_of_lt (Nat.lt_trans small (by decide : 128 < 256))]
  | false => exact all ⟨value, small⟩

-- What the parser makes of the length in front of a mask and a payload.
theorem length_bytes_parsed (isServer : Bool) {dataLen : Nat} (addressable : dataLen < 2 ^ 63) :
    ∃ short, (lengthBytes isServer dataLen).1.toNat = (maskBit isServer).toNat + short ∧ short < 128 ∧
      (lengthBytes isServer dataLen).2.length = lengthSize short ∧
      frameLength short (lengthBytes isServer dataLen).2 = some dataLen := by
  rw [lengthBytes]
  split_ifs with short medium
  · refine ⟨dataLen, or_small isServer (by omega), by omega, ?_, by rw [frameLength, if_pos short]⟩
    rw [lengthSize, if_neg (by omega), if_neg (by omega)]
    rfl
  · refine ⟨126, @or_small isServer 126 (by decide), by omega, by simp [lengthSize], ?_⟩
    rw [frameLength, be_nat_be_bytes (by omega), if_neg (by omega), if_pos rfl, if_pos (by omega)]
  refine ⟨127, @or_small isServer 127 (by decide), by omega, by simp [lengthSize], ?_⟩
  rw [frameLength, be_nat_be_bytes (by omega), if_neg (by omega), if_neg (by omega), if_pos (by omega)]

theorem parse_frame_eq {second : UInt8} {extended mask body : Bytes} {short length : Nat} {masked : Bool}
    (value : second.toNat = (if masked then 128 else 0) + short) (small : short < 128) (sized : extended.length = lengthSize short)
    (mask_sized : mask.length = if masked then 4 else 0) (given : frameLength short extended = some length)
    (whole : body.length = length) :
    parseFrame (0x82 :: second :: (extended ++ (mask ++ body))) =
      some (⟨true, 2, masked, if masked then cipher body mask else body⟩, []) := by
  grind [parseFrame]

theorem written_frame_well_formed (isServer : Bool) (maskKey : UInt32) (buffer : Buffer) :
    headerLength isServer buffer.data.length ≤ frontHeadroom ∧
      (frontHeadroom ≤ buffer.front.length → ∃ frame, writeBuffer isServer maskKey buffer = .ok frame ∧
        parseFrame frame = some (⟨true, 2, !isServer, buffer.data⟩, [])) := by
  have fits : headerLength isServer buffer.data.length ≤ frontHeadroom := by
    rw [headerLength, payloadBitLength, frontHeadroom]
    split_ifs <;> omega
  refine ⟨fits, fun room => ⟨_, write_buffer_eq isServer maskKey buffer (fits.trans room), ?_⟩⟩
  obtain ⟨short, value, small, sized, given⟩ := length_bytes_parsed isServer buffer.addressable
  cases isServer with
  | true => exact @parse_frame_eq _ _ [] buffer.data short _ false value small sized rfl given rfl
  | false =>
    have parsed := @parse_frame_eq _ _ (beBytes 4 maskKey.toNat) (cipher buffer.data (beBytes 4 maskKey.toNat)) short _ true
      value small sized (by simp) given (by simp [cipher])
    rw [cipher_cipher] at parsed
    exact parsed

theorem masked_frame_parsed : ∃ frame,
    writeBuffer false 0x01020304 ⟨List.replicate 14 7, [72, 105], by decide⟩ = .ok frame ∧
      parseFrame frame = some (⟨true, 2, true, [72, 105]⟩, []) :=
  (written_frame_well_formed false 0x01020304 ⟨List.replicate 14 7, [72, 105], by decide⟩).2 (by decide)

end OtunKernel.Websocket
