import OtunKernel.Quic.Packet

namespace OtunKernel.Quic

open Lib Outcome

-- qCryptoFragment. Both numbers come from varints, so that their sum does not wrap.
structure CryptoFragment where
  offset : Uvarint
  length : Uvarint
  payload : Bytes
  whole : payload.length = length.val
deriving DecidableEq

def skipUvarints : Nat → Bytes → Outcome SniffError Bytes
  | 0, reader => .ok reader
  | n + 1, reader => do
    let (_, reader) ← readUvarint reader
    skipUvarints n reader

def readAck (frameType : UInt8) (reader : Bytes) : Outcome SniffError Bytes := do
  let reader ← skipUvarints 2 reader
  let (ackRangeCount, reader) ← readUvarint reader
  let reader ← skipUvarints 1 reader
  let reader ← skipUvarints (2 * ackRangeCount.val) reader
  if frameType = 0x03 then skipUvarints 3 reader else .ok reader

def cryptoFragment (plain : Plain) (index : Nat) (offset length : Uvarint) : Outcome SniffError CryptoFragment :=
  if fits : index + length.val ≤ (plain.decrypted ++ plain.spare).length then
    .ok { offset := offset, length := length,
          payload := ((plain.decrypted ++ plain.spare).take (index + length.val)).drop index,
          whole := by rw [List.length_drop, List.length_take]; omega }
  else .panic

def readCrypto (plain : Plain) (reader : Bytes) : Outcome SniffError (CryptoFragment × Bytes) := do
  let (offset, reader) ← readUvarint reader
  let (length, reader) ← readUvarint reader
  let fragment ← cryptoFragment plain (plain.decrypted.length - reader.length) offset length
  .ok (fragment, reader.drop length.val)

def readConnectionClose (reader : Bytes) : Outcome SniffError Bytes := do
  let reader ← skipUvarints 2 reader
  let (length, reader) ← readUvarint reader
  .ok (reader.drop length.val)

structure Frames where
  reader : Bytes
  frameTypeList : List UInt8 := []
  fragments : List CryptoFragment := []
deriving DecidableEq

def frameTurn (plain : Plain) (frames : Frames) : Outcome SniffError (Turn Frames (List UInt8 × List CryptoFragment)) :=
  match frames.reader with
  | [] => .ok (.leave (frames.frameTypeList, frames.fragments))
  | frameType :: reader =>
    let frames := { frames with reader := reader, frameTypeList := frames.frameTypeList ++ [frameType] }
    if frameType = 0x00 ∨ frameType = 0x01 then .ok (.next frames)
    else if frameType = 0x02 ∨ frameType = 0x03 then do
      let reader ← readAck frameType reader
      .ok (.next { frames with reader := reader })
    else if frameType = 0x06 then do
      let (fragment, reader) ← readCrypto plain reader
      .ok (.next { frames with reader := reader, fragments := frames.fragments ++ [fragment] })
    else if frameType = 0x1c then do
      let reader ← readConnectionClose reader
      .ok (.next { frames with reader := reader })
    else .error .invalid

def readFrames (plain : Plain) : Outcome SniffError (List UInt8 × List CryptoFragment) :=
  iterate (frameTurn plain) (plain.decrypted.length + 1) { reader := plain.decrypted }

def collect (env : Env) (packet : Bytes) : Outcome SniffError (List UInt8 × List CryptoFragment) := do
  readFrames (← unprotect env packet)

theorem skip_uvarints_ends (n : Nat) (reader : Bytes) :
    (skipUvarints n reader).Ensures (fun later => later.length ≤ reader.length) := by
  induction n generalizing reader with
  | zero => exact Nat.le_refl _
  | succ _ ih =>
    refine (read_uvarint_ends reader).bind (fun ⟨_, middle⟩ shorter => ?_)
    exact (ih middle).mono (fun later shorter' => Nat.le_trans shorter' (Nat.le_of_lt shorter))

theorem read_ack_ends (frameType : UInt8) (reader : Bytes) :
    (readAck frameType reader).Ensures (fun later => later.length ≤ reader.length) := by
  refine (skip_uvarints_ends 2 reader).bind (fun first _ => ?_)
  refine (read_uvarint_ends first).bind (fun ⟨ackRangeCount, second⟩ _ => ?_)
  refine (skip_uvarints_ends 1 second).bind (fun third _ => ?_)
  refine (skip_uvarints_ends (2 * ackRangeCount.val) third).bind (fun fourth _ => ?_)
  dsimp only at *
  split
  · exact (skip_uvarints_ends 3 fourth).mono (fun later _ => by omega)
  change fourth.length ≤ reader.length
  omega

theorem read_connection_close_ends (reader : Bytes) :
    (readConnectionClose reader).Ensures (fun later => later.length ≤ reader.length) := by
  refine (skip_uvarints_ends 2 reader).bind (fun first _ => ?_)
  refine (read_uvarint_ends first).bind (fun ⟨length, second⟩ _ => ?_)
  change (second.drop length.val).length ≤ reader.length
  rw [List.length_drop]
  dsimp only at *
  omega

def CryptoFits (plain : Plain) (reader : Bytes) : Prop :=
  ∀ offset length middle later, readUvarint reader = .ok (offset, middle) → readUvarint middle = .ok (length, later) →
    plain.decrypted.length - later.length + length.val ≤ (plain.decrypted ++ plain.spare).length

variable {plain : Plain} {frames : Frames} {reader : Bytes}

theorem read_crypto_ends (fits : CryptoFits plain reader) :
    (readCrypto plain reader).Ensures (fun read => read.2.length ≤ reader.length) := by
  have first := read_uvarint_ends reader
  rw [readCrypto]
  rcases read : readUvarint reader with ⟨offset, middle⟩ | err | _ | _
  · rw [ok_bind]
    have second := read_uvarint_ends middle
    dsimp only
    rcases readLength : readUvarint middle with ⟨length, later⟩ | err | _ | _
    · have shorter := first.of_ok read
      have shorter' := second.of_ok readLength
      rw [ok_bind, cryptoFragment, dif_pos (fits offset length middle later read readLength)]
      change (later.drop length.val).length ≤ reader.length
      rw [List.length_drop]
      dsimp only at *
      omega
    · trivial
    · exact absurd readLength second.not_panic
    · exact absurd readLength second.not_running
  · trivial
  · exact absurd read first.not_panic
  · exact absurd read first.not_running

theorem read_crypto_panics (cut : ¬ CryptoFits plain reader) : readCrypto plain reader = .panic := by
  simp only [CryptoFits, Classical.not_forall] at cut
  obtain ⟨_, _, _, _, read, readLength, outside⟩ := cut
  rw [readCrypto, read, ok_bind]
  dsimp only
  rw [readLength, ok_bind, cryptoFragment, dif_neg outside]
  rfl

def FrameFits (plain : Plain) (frames : Frames) : Prop := ∀ reader, frames.reader = 0x06 :: reader → CryptoFits plain reader

theorem frame_turn_ends (fits : FrameFits plain frames) :
    (frameTurn plain frames).Ensures (fun turn => ∀ later, turn = .next later → later.reader.length < frames.reader.length) := by
  rw [frameTurn]
  split
  · exact fun later taken => by cases taken
  rename_i frameType reader read
  rw [read]
  split
  · intro later taken
    cases taken
    exact Nat.lt_succ_self _
  split
  · refine (read_ack_ends frameType reader).bind (fun rest shorter later taken => ?_)
    grind
  split
  · rename_i crypto
    subst crypto
    refine (read_crypto_ends (fits reader read)).bind (fun ⟨fragment, rest⟩ shorter later taken => ?_)
    grind
  split
  · refine (read_connection_close_ends reader).bind (fun rest shorter later taken => ?_)
    grind
  · trivial

theorem frame_turn_panics_iff (plain : Plain) (frames : Frames) : frameTurn plain frames = .panic ↔ ¬ FrameFits plain frames := by
  by_cases fits : FrameFits plain frames
  · exact iff_of_false (frame_turn_ends fits).not_panic (not_not_intro fits)
  refine iff_of_true ?_ fits
  simp only [FrameFits, Classical.not_forall] at fits
  obtain ⟨_, read, cut⟩ := fits
  rw [frameTurn, read]
  exact congrArg (· >>= _) (read_crypto_panics cut)

theorem frame_turn_ended (plain : Plain) (frames : Frames) : frameTurn plain frames ≠ .running := by
  by_cases fits : FrameFits plain frames
  · exact (frame_turn_ends fits).not_running
  · simp [(frame_turn_panics_iff plain frames).mpr fits]

def FramesFit (plain : Plain) : Prop :=
  ∀ frames, Reaches (frameTurn plain) { reader := plain.decrypted } frames → FrameFits plain frames

theorem read_frames_end (plain : Plain) : readFrames plain ≠ .running := by
  refine iterate_terminates (fun _ => True) (fun frames => frames.reader.length) trivial
    (fun frames _ => frame_turn_ended plain frames) ?_ (Nat.lt_succ_self _)
  intro frames later _ taken
  have fits : FrameFits plain frames := by grind [frame_turn_panics_iff]
  exact ⟨trivial, (frame_turn_ends fits).of_ok taken later rfl⟩

theorem read_frames_panic_iff (plain : Plain) : readFrames plain = .panic ↔ ¬ FramesFit plain :=
  iterate_panics_iff (frame_turn_panics_iff plain) (read_frames_end plain)

theorem frame_turn_counts {turn : Turn Frames (List UInt8 × List CryptoFragment)} (taken : frameTurn plain frames = .ok turn) :
    turn = .leave (frames.frameTypeList, frames.fragments) ∨
      ∃ later, turn = .next later ∧ later.frameTypeList.length = frames.frameTypeList.length + 1 ∧
        later.fragments.length ≤ frames.fragments.length + 1 := by
  rw [frameTurn] at taken
  grind [Outcome.bind_eq_ok]

theorem read_frames_count {frameTypeList : List UInt8} {fragments : List CryptoFragment}
    (read : readFrames plain = .ok (frameTypeList, fragments)) : fragments.length ≤ frameTypeList.length := by
  obtain ⟨frames, reached, left⟩ := iterate_ok read
  have counted : frames.fragments.length ≤ frames.frameTypeList.length := by
    refine reached.invariant (fun frames => frames.fragments.length ≤ frames.frameTypeList.length) (Nat.le_refl _) ?_
    intro frames later counted taken
    rcases frame_turn_counts taken with done | ⟨_, moved, types, more⟩
    · cases done
    cases moved
    omega
  rcases frame_turn_counts left with done | ⟨_, moved, _⟩
  · grind
  · cases moved

end OtunKernel.Quic
