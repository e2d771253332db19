import OtunKernel.TlsFragment.Index

namespace OtunKernel.TlsFragment

open Lib

def extensionType (payload : Bytes) (offset : Nat) : UInt16 := uint16At payload offset

def extensionLength (payload : Bytes) (offset : Nat) : Nat := (uint16At payload (offset + 2)).toNat

def ExtensionAt (payload : Bytes) (offset : Nat) : Prop := offset + 4 + extensionLength payload offset ≤ payload.length

instance (payload : Bytes) (offset : Nat) : Decidable (ExtensionAt payload offset) := inferInstanceAs (Decidable (_ ≤ _))

inductive ExtensionWalk (payload : Bytes) (first : Nat) : Nat → Prop where
  | start : ExtensionWalk payload first first
  | skip {offset : Nat} (walked : ExtensionWalk payload first offset) (complete : ExtensionAt payload offset)
      (other : extensionType payload offset ≠ sniExtensionType) :
      ExtensionWalk payload first (offset + 4 + extensionLength payload offset)

structure FirstServerName (payload : Bytes) (listIndex offset : Nat) : Prop where
  walked : ExtensionWalk payload (listIndex + 2) offset
  named : extensionType payload offset = sniExtensionType
  listed : offset + 4 + extensionLength payload offset ≤ listIndex + 2 + (uint16At payload listIndex).toNat

-- The name is the host name of the first server_name extension of the list,
-- where the payload has it.
structure TruePosition (payload : Bytes) (name : MyServerName) : Prop where
  inside : name.index + name.serverName.length ≤ payload.length
  slice : (payload.drop name.index).take name.serverName.length = name.serverName
  first : ∃ offset, FirstServerName payload name.extensionsListLengthIndex offset ∧ name.index = offset + 9 ∧
    name.serverName.length = (uint16At payload (offset + 7)).toNat

structure LocatesServerName (payload : Bytes) : Prop where
  returns : ∃ fuel found, indexTLSServerName fuel payload = .ok found
  position : ∀ fuel name, indexTLSServerName fuel payload = .ok (some name) → TruePosition payload name

-- No extension before the server name is so long that 4 plus its length does
-- not fit 16 bits, and the name ends where its own length and the list's say.
def RegularExtensions (payload : Bytes) : Prop :=
  ∀ listIndex offset, HasExtensions payload listIndex → ExtensionWalk payload (listIndex + 2) offset →
    ExtensionAt payload offset →
    (extensionType payload offset ≠ sniExtensionType → extensionLength payload offset < 65532) ∧
    (extensionType payload offset = sniExtensionType → 5 ≤ extensionLength payload offset →
      payload.getD (offset + 6) 0 = sniNameDNSHostnameType →
      offset + 4 + extensionLength payload offset ≤ listIndex + 2 + (uint16At payload listIndex).toNat ∧
        (uint16At payload (offset + 7)).toNat + 5 = extensionLength payload offset)

theorem turn_at (payload : Bytes) (offset i : Nat) :
    extensionTurn (payload.drop offset, i) = .ok (
      if ¬ ExtensionAt payload offset then .leave none
      else if extensionType payload offset = sniExtensionType then
        if extensionLength payload offset < 5 ∨ payload.getD (offset + 6) 0 ≠ sniNameDNSHostnameType then .leave none
        else .leave (some ⟨i + 9, (uint16At payload (offset + 7)).toNat,
          (payload.drop (offset + 9)).take (extensionLength payload offset - 5), 0⟩)
      else .next (payload.drop (offset + (4 + uint16At payload (offset + 2)).toNat), i + (4 + extensionLength payload offset))) := by
  rw [extension_turn_eq, List.length_drop, uint16_at_drop, uint16_at_drop, uint16_at_drop, getD_drop]
  have rest : 4 + (uint16At payload (offset + 2)).toNat - 9 = extensionLength payload offset - 5 := by
    unfold extensionLength
    omega
  by_cases complete : ExtensionAt payload offset
  · rw [if_neg (not_not_intro complete), if_neg, List.drop_drop, List.drop_take, List.drop_drop, rest]
    · rfl
    · grind [ExtensionAt, extensionLength]
  rw [if_pos complete, if_pos]
  unfold ExtensionAt extensionLength at complete
  omega

theorem advance_eq_iff (length : UInt16) : (4 + length).toNat = 4 + length.toNat ↔ length.toNat < 65532 := by
  grind [UInt16.toNat_add]

section
variable {payload : Bytes} {listIndex offset : Nat} {i : Nat}

theorem turn_next {later : Bytes × Nat} (taken : extensionTurn (payload.drop offset, i) = .ok (.next later)) :
    ExtensionAt payload offset ∧ extensionType payload offset ≠ sniExtensionType ∧
      later = (payload.drop (offset + (4 + uint16At payload (offset + 2)).toNat), i + (4 + extensionLength payload offset)) := by
  grind [turn_at]

variable {name : MyServerName} {fuel : Nat}

theorem turn_leave (taken : extensionTurn (payload.drop offset, i) = .ok (.leave (some name))) :
    ExtensionAt payload offset ∧ extensionType payload offset = sniExtensionType ∧ 5 ≤ extensionLength payload offset ∧
      payload.getD (offset + 6) 0 = sniNameDNSHostnameType ∧ name = ⟨i + 9, (uint16At payload (offset + 7)).toNat,
        (payload.drop (offset + 9)).take (extensionLength payload offset - 5), 0⟩ := by grind [turn_at]

theorem turn_ok (state : Bytes × Nat) : ∃ turned, extensionTurn state = .ok turned :=
  ⟨_, extension_turn_eq state.1 state.2⟩

theorem ExtensionWalk.first_le {first : Nat} (walked : ExtensionWalk payload first offset) : first ≤ offset := by
  induction walked with
  | start => exact Nat.le_refl _
  | skip => omega

def ShortExtensions (payload : Bytes) (listIndex : Nat) : Prop :=
  ∀ offset, ExtensionWalk payload (listIndex + 2) offset → ExtensionAt payload offset →
    extensionType payload offset ≠ sniExtensionType → extensionLength payload offset < 65532

theorem reached_of_walk (short : ShortExtensions payload listIndex) (walked : ExtensionWalk payload (listIndex + 2) offset) :
    Reaches extensionTurn (payload.drop (listIndex + 2), 2) (payload.drop offset, offset - listIndex) := by
  induction walked with
  | start =>
    rw [Nat.add_sub_cancel_left]
    exact .refl
  | @skip offset walked complete other ih =>
    have after := walked.first_le
    have turned := turn_at payload offset (offset - listIndex)
    have fits := (advance_eq_iff (uint16At payload (offset + 2))).mpr (short offset walked complete other)
    rw [if_neg (not_not_intro complete), if_neg other, fits] at turned
    grind [Reaches.next, extensionLength]

def AtExtension (payload : Bytes) (listIndex : Nat) (state : Bytes × Nat) : Prop :=
  ∃ offset, ExtensionWalk payload (listIndex + 2) offset ∧ state = (payload.drop offset, offset - listIndex)

theorem at_first_extension : AtExtension payload listIndex (payload.drop (listIndex + 2), 2) :=
  ⟨_, .start, by rw [Nat.add_sub_cancel_left]⟩

theorem next_extension (short : ShortExtensions payload listIndex) {state later : Bytes × Nat}
    (at_ : AtExtension payload listIndex state) (taken : extensionTurn state = .ok (.next later)) :
    AtExtension payload listIndex later ∧ later.1.length < state.1.length := by
  obtain ⟨offset, walked, rfl⟩ := at_
  obtain ⟨complete, other, rfl⟩ := turn_next taken
  have after := walked.first_le
  have fits := (advance_eq_iff (uint16At payload (offset + 2))).mpr (short offset walked complete other)
  have room : offset + 4 + extensionLength payload offset ≤ payload.length := complete
  rw [fits]
  refine ⟨⟨_, walked.skip complete other, ?_⟩, ?_⟩
  · grind [extensionLength]
  · grind

theorem walk_ok_or_running (fuel : Nat) (state : Bytes × Nat) :
    iterate extensionTurn fuel state = .running ∨ ∃ found, iterate extensionTurn fuel state = .ok found := by
  by_cases stops : iterate extensionTurn fuel state = .running
  · exact .inl stops
  obtain ⟨last, _, ends⟩ := iterate_ends stops
  obtain ⟨turned, taken⟩ := turn_ok last
  rw [taken] at ends
  cases turned with
  | next => exact absurd ends stops
  | leave found => exact .inr ⟨found, ends⟩

theorem index_never_panics (fuel : Nat) (payload : Bytes) : indexTLSServerName fuel payload ≠ .panic := by
  by_cases has : ∃ listIndex, HasExtensions payload listIndex
  · obtain ⟨listIndex, has⟩ := has
    rw [index_eq_walk fuel has]
    rcases walk_ok_or_running fuel (payload.drop (listIndex + 2), 2) with running | ⟨found, ended⟩
    · simp [running]
    · simp [ended]
  · simp [index_eq_none fuel (fun listIndex list => has ⟨listIndex, list⟩)]

theorem walk_ends (short : ShortExtensions payload listIndex) :
    ∃ fuel found, iterate extensionTurn fuel (payload.drop (listIndex + 2), 2) = .ok found := by
  have stops : iterate extensionTurn (payload.length + 1) (payload.drop (listIndex + 2), 2) ≠ .running := by
    refine iterate_terminates (AtExtension payload listIndex) (fun state => state.1.length) at_first_extension ?_ ?_
      (by rw [List.length_drop]; omega)
    · intro state _ running
      obtain ⟨_, taken⟩ := turn_ok state
      simp [taken] at running
    intro state later at_ taken
    grind [next_extension]
  rcases walk_ok_or_running (payload.length + 1) (payload.drop (listIndex + 2), 2) with running | ⟨found, ended⟩
  · exact absurd running stops
  · exact ⟨_, found, ended⟩

theorem name_found (has : HasExtensions payload listIndex) (found : indexTLSServerName fuel payload = .ok (some name)) :
    ∃ exs i inner, Reaches extensionTurn (payload.drop (listIndex + 2), 2) (exs, i) ∧
      extensionTurn (exs, i) = .ok (.leave (some inner)) ∧ name = inner.at listIndex := by
  rw [index_eq_walk fuel has, Outcome.bind_eq_ok] at found
  obtain ⟨inner, walked, moved⟩ := found
  obtain ⟨⟨exs, i⟩, reached, ends⟩ := iterate_ends (by rw [walked]; simp)
  rw [walked] at ends
  obtain ⟨turned, taken⟩ := turn_ok (exs, i)
  rw [taken] at ends
  cases turned with
  | next => cases ends
  | leave =>
    cases ends
    cases inner with
    | none => cases moved
    | some inner => grind

theorem name_found_at (has : HasExtensions payload listIndex) (short : ShortExtensions payload listIndex)
    (found : indexTLSServerName fuel payload = .ok (some name)) :
    ∃ offset, ExtensionWalk payload (listIndex + 2) offset ∧ ExtensionAt payload offset ∧
      extensionType payload offset = sniExtensionType ∧ 5 ≤ extensionLength payload offset ∧
      payload.getD (offset + 6) 0 = sniNameDNSHostnameType ∧ name = ⟨offset + 9, (uint16At payload (offset + 7)).toNat,
        (payload.drop (offset + 9)).take (extensionLength payload offset - 5), listIndex⟩ := by
  obtain ⟨_, _, _, reached, taken, rfl⟩ := name_found has found
  obtain ⟨offset, walked, same⟩ := reached.invariant (AtExtension payload listIndex) at_first_extension
    (fun state later at_ went => (next_extension short at_ went).1)
  cases same
  have after := walked.first_le
  obtain ⟨complete, named, whole, host, rfl⟩ := turn_leave taken
  grind [MyServerName.at]

theorem name_length (complete : ExtensionAt payload offset) (whole : 5 ≤ extensionLength payload offset) :
    ((payload.drop (offset + 9)).take (extensionLength payload offset - 5)).length = extensionLength payload offset - 5 := by
  have room : offset + 4 + extensionLength payload offset ≤ payload.length := complete
  rw [List.length_take, List.length_drop]
  omega

theorem name_inside (complete : ExtensionAt payload offset) (whole : 5 ≤ extensionLength payload offset)
    (is : name = ⟨offset + 9, (uint16At payload (offset + 7)).toNat,
      (payload.drop (offset + 9)).take (extensionLength payload offset - 5), listIndex⟩) :
    name.serverName.length = extensionLength payload offset - 5 ∧ name.index + name.serverName.length ≤ payload.length ∧
      (payload.drop name.index).take name.serverName.length = name.serverName := by
  subst is
  have room : offset + 4 + extensionLength payload offset ≤ payload.length := complete
  have length := name_length complete whole
  refine ⟨length, ?_, ?_⟩
  · grind
  · simp

theorem locates_of_regular (regular : RegularExtensions payload) : LocatesServerName payload := by
  have short : ∀ listIndex, HasExtensions payload listIndex → ShortExtensions payload listIndex :=
    fun listIndex has offset walked complete => (regular listIndex offset has walked complete).1
  constructor
  · by_cases has : ∃ listIndex, HasExtensions payload listIndex
    · obtain ⟨listIndex, has⟩ := has
      obtain ⟨fuel, found, ended⟩ := walk_ends (short listIndex has)
      exact ⟨fuel, _, by rw [index_eq_walk fuel has, ended]; rfl⟩
    · exact ⟨0, none, index_eq_none 0 (fun listIndex list => has ⟨listIndex, list⟩)⟩
  intro fuel name found
  by_cases has : ∃ listIndex, HasExtensions payload listIndex
  · obtain ⟨listIndex, has⟩ := has
    obtain ⟨offset, walked, complete, named, whole, host, is⟩ := name_found_at has (short listIndex has) found
    obtain ⟨length, inside, slice⟩ := name_inside complete whole is
    obtain ⟨listed, _⟩ := (regular listIndex offset has walked complete).2 named whole host
    refine ⟨inside, slice, offset, ?_, by rw [is], by rw [length]; omega⟩
    rw [is]
    exact ⟨walked, named, listed⟩
  · simp [index_eq_none fuel (fun listIndex list => has ⟨listIndex, list⟩)] at found

theorem regular_of_locates (short : ∀ listIndex, HasExtensions payload listIndex → ShortExtensions payload listIndex)
    (locates : LocatesServerName payload) : RegularExtensions payload := by
  intro listIndex offset has walked complete
  refine ⟨short listIndex has offset walked complete, ?_⟩
  intro named whole host
  have turned := turn_at payload offset (offset - listIndex)
  have after := walked.first_le
  rw [if_neg (not_not_intro complete), if_pos named, if_neg (not_or.mpr ⟨Nat.not_lt.mpr whole, not_not_intro host⟩)] at turned
  obtain ⟨fuel, ended⟩ := iterate_of_reaches (reached_of_walk (short listIndex has) walked) (congrArg outcomeOf turned)
    (by simp [outcomeOf])
  have found := index_eq_walk fuel has
  rw [ended] at found
  have position := locates.position fuel _ found
  obtain ⟨first, server, index, length⟩ := position.first
  have same : first = offset := by grind [MyServerName.at]
  subst same
  have listed := server.listed
  refine ⟨listed, ?_⟩
  have measured := name_length complete whole
  simp only [MyServerName.at] at length
  omega

end

-- With regular extensions the locator ends and reports the host name of the
-- first server_name extension. While the 16-bit sum does not wrap it does so
-- only then; behind a wrapped sum the loop reads what is no extension.
theorem locates_server_name (payload : Bytes) : (RegularExtensions payload → LocatesServerName payload) ∧
    ((∀ listIndex, HasExtensions payload listIndex → ShortExtensions payload listIndex) →
      LocatesServerName payload → RegularExtensions payload) :=
  ⟨locates_of_regular, regular_of_locates⟩

def endlessHead : Bytes := [22, 3, 1, 0, 0, 1, 1, 0, 40, 3, 3] ++ List.replicate 38 0 ++ [18, 52, 255, 252]

section
variable {rest : Bytes} (long : rest.length = 65532)
include long

theorem endless_length : (endlessHead ++ rest).length = 65585 := by
  rw [List.length_append, long]
  rfl

theorem endless_located : extensionsIndex ((endlessHead ++ rest).drop 5) = .ok (some 42) := by
  simp [extensionsIndex, indexAt, sliceFrom, sliceOf, long, endlessHead, beUint16, handshakeHeaderLen, randomDataLen,
    sessionIDHeaderLen, tlsVersionBitmask, tls13, cipherSuiteHeaderLen, compressMethodHeaderLen]
  decide

theorem endless_has_extensions : HasExtensions (endlessHead ++ rest) 47 := by
  have segment : uint16At (endlessHead ++ rest) 3 = beUint16 0 0 := rfl
  have list : uint16At (endlessHead ++ rest) 47 = beUint16 0 0 := rfl
  refine ⟨rfl, ?_, endless_located long, ?_, ?_⟩
  · rw [segment, endless_length long]
    decide
  · simp_all
  rw [list, endless_length long]
  decide

theorem endless_walk (fuel : Nat) : indexTLSServerName fuel (endlessHead ++ rest) = .running := by
  have type : extensionType (endlessHead ++ rest) 49 = beUint16 18 52 := rfl
  have length : uint16At (endlessHead ++ rest) (49 + 2) = beUint16 255 252 := rfl
  have advance : (4 + beUint16 255 252).toNat = 0 := by decide
  have complete : ExtensionAt (endlessHead ++ rest) 49 := by
    rw [ExtensionAt, extensionLength, length, endless_length long]
    decide
  have forever : iterate extensionTurn fuel ((endlessHead ++ rest).drop 49, 2) = .running := by
    refine iterate_forever (fun state => ∃ i, state = ((endlessHead ++ rest).drop 49, i)) ⟨_, rfl⟩ ?_ fuel
    rintro _ ⟨i, rfl⟩
    refine ⟨((endlessHead ++ rest).drop 49, i + (4 + extensionLength (endlessHead ++ rest) 49)), ?_, _, rfl⟩
    rw [turn_at, if_neg (not_not_intro complete), if_neg (by rw [type]; decide), length, advance]
  simp [index_eq_walk fuel (endless_has_extensions long), forever]

end

theorem endless_hello_counterexample :
    (∀ fuel, indexTLSServerName fuel (endlessHead ++ List.replicate 65532 0) = .running) ∧
      ¬ LocatesServerName (endlessHead ++ List.replicate 65532 0) := by
  have forever := endless_walk (List.length_replicate (n := 65532) (a := (0 : UInt8)))
  refine ⟨forever, fun locates => ?_⟩
  grind [locates.returns]

end OtunKernel.TlsFragment
