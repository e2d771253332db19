import OtunKernel.Lib.Bytes

namespace OtunKernel.TlsFragment

open Lib Outcome

abbrev recordLayerHeaderLen : Nat := 5
abbrev handshakeHeaderLen : Nat := 6
abbrev randomDataLen : Nat := 32
abbrev sessionIDHeaderLen : Nat := 1
abbrev cipherSuiteHeaderLen : Nat := 2
abbrev compressMethodHeaderLen : Nat := 1
abbrev extensionsHeaderLen : Nat := 2
abbrev extensionHeaderLen : Nat := 4
abbrev sniExtensionHeaderLen : Nat := 5
abbrev contentType : UInt8 := 22
abbrev handshakeType : UInt8 := 1
abbrev sniExtensionType : UInt16 := 0
abbrev sniNameDNSHostnameType : UInt8 := 0
abbrev tlsVersionBitmask : UInt16 := 0xFFFC
abbrev tls13 : UInt16 := 0x0304

structure MyServerName where
  index : Nat
  length : Nat
  serverName : Bytes
  extensionsListLengthIndex : Nat := 0
deriving DecidableEq

-- One turn of the loop over the extensions; the state is exs and
-- currentIndex. The slice advances by 4+exLen as a uint16, the index by the
-- same sum as an int.
def extensionTurn (state : Bytes × Nat) : Outcome Empty (Turn (Bytes × Nat) (Option MyServerName)) :=
  let (exs, currentIndex) := state
  if exs.length = 0 then .ok (.leave none)
  else if exs.length < extensionHeaderLen then .ok (.leave none)
  else do
    let exType := beUint16 (← indexAt exs 0) (← indexAt exs 1)
    let exLen := beUint16 (← indexAt exs 2) (← indexAt exs 3)
    if exs.length < extensionHeaderLen + exLen.toNat then .ok (.leave none)
    else do
      let sex ← sliceOf exs extensionHeaderLen (extensionHeaderLen + exLen.toNat)
      if exType = sniExtensionType then
        if sex.length < sniExtensionHeaderLen then .ok (.leave none)
        else do
          let sniType ← indexAt sex 2
          if sniType ≠ sniNameDNSHostnameType then .ok (.leave none)
          else do
            let sniLen := beUint16 (← indexAt sex 3) (← indexAt sex 4)
            let sex ← sliceFrom sex sniExtensionHeaderLen
            .ok (.leave (some {
              index := currentIndex + extensionHeaderLen + sniExtensionHeaderLen
              length := sniLen.toNat
              serverName := sex }))
      else do
        let exs ← sliceFrom exs (4 + exLen).toNat
        .ok (.next (exs, currentIndex + (4 + exLen.toNat)))

def indexTLSServerNameFromExtensions (fuel : Nat) (exs : Bytes) : Outcome Empty (Option MyServerName) :=
  if exs.length = 0 then .ok none
  else if exs.length < extensionsHeaderLen then .ok none
  else do
    let exsLen := beUint16 (← indexAt exs 0) (← indexAt exs 1)
    let exs ← sliceFrom exs extensionsHeaderLen
    if exs.length < exsLen.toNat then .ok none
    else iterate extensionTurn fuel (exs, extensionsHeaderLen)

-- The part of indexTLSServerNameFromHandshake before the extensions.
def extensionsIndex (handshake : Bytes) : Outcome Empty (Option Nat) :=
  if handshake.length < handshakeHeaderLen + randomDataLen + sessionIDHeaderLen then .ok none
  else do
    if (← indexAt handshake 0) ≠ handshakeType then .ok none
    else do
      let handshakeLen := (← indexAt handshake 1).toNat * 65536 + (← indexAt handshake 2).toNat * 256 + (← indexAt handshake 3).toNat
      if (← sliceFrom handshake 4).length ≠ handshakeLen then .ok none
      else do
        let tlsVersion := beUint16 (← indexAt handshake 4) (← indexAt handshake 5)
        if tlsVersion &&& tlsVersionBitmask ≠ 0x0300 ∧ tlsVersion ≠ tls13 then .ok none
        else do
          let sessionIDLen ← indexAt handshake 38
          let currentIndex := handshakeHeaderLen + randomDataLen + sessionIDHeaderLen + sessionIDLen.toNat
          if handshake.length < currentIndex then .ok none
          else do
            let cipherSuites ← sliceFrom handshake currentIndex
            if cipherSuites.length < cipherSuiteHeaderLen then .ok none
            else do
              let csLen := beUint16 (← indexAt cipherSuites 0) (← indexAt cipherSuites 1)
              if cipherSuites.length < cipherSuiteHeaderLen + csLen.toNat + compressMethodHeaderLen then .ok none
              else do
                let compressMethodLen ← indexAt cipherSuites (cipherSuiteHeaderLen + csLen.toNat)
                let currentIndex := currentIndex +
                  (cipherSuiteHeaderLen + csLen.toNat + compressMethodHeaderLen + compressMethodLen.toNat)
                if handshake.length < currentIndex then .ok none else .ok (some currentIndex)

def indexTLSServerNameFromHandshake (fuel : Nat) (handshake : Bytes) : Outcome Empty (Option MyServerName) := do
  match ← extensionsIndex handshake with
  | none => .ok none
  | some currentIndex =>
    let exs ← sliceFrom handshake currentIndex
    match ← indexTLSServerNameFromExtensions fuel exs with
    | none => .ok none
    | some serverName =>
      .ok (some { serverName with
        index := serverName.index + currentIndex
        extensionsListLengthIndex := currentIndex })

def indexTLSServerName (fuel : Nat) (payload : Bytes) : Outcome Empty (Option MyServerName) :=
  if payload.length < recordLayerHeaderLen then .ok none
  else do
    if (← indexAt payload 0) ≠ contentType then .ok none
    else do
      let header ← sliceOf payload 3 5
      let segmentLen := beUint16 (← indexAt header 0) (← indexAt header 1)
      if payload.length < recordLayerHeaderLen + segmentLen.toNat then .ok none
      else do
        let handshake ← sliceFrom payload recordLayerHeaderLen
        match ← indexTLSServerNameFromHandshake fuel handshake with
        | none => .ok none
        | some serverName =>
          .ok (some { serverName with
            index := serverName.index + recordLayerHeaderLen
            extensionsListLengthIndex := serverName.extensionsListLengthIndex + recordLayerHeaderLen })

theorem extension_turn_eq (exs : Bytes) (i : Nat) :
    extensionTurn (exs, i) = .ok (
      if exs.length < 4 ∨ exs.length < 4 + (uint16At exs 2).toNat then .leave none
      else if uint16At exs 0 = 0 then
        if (uint16At exs 2).toNat < 5 ∨ exs.getD 6 0 ≠ 0 then .leave none
        else .leave (some ⟨i + 9, (uint16At exs 7).toNat, (exs.take (4 + (uint16At exs 2).toNat)).drop 9, 0⟩)
      else .next (exs.drop (4 + uint16At exs 2).toNat, i + (4 + (uint16At exs 2).toNat))) := by
  rw [extensionTurn]
  by_cases short : exs.length < 4
  · simp_all
  rw [if_neg (by omega), if_neg short]
  simp only [index_byte (show 0 < exs.length by omega), index_byte (show 1 < exs.length by omega),
    index_byte (show 2 < exs.length by omega), index_byte (show 3 < exs.length by omega), ok_bind]
  change (if exs.length < 4 + (uint16At exs 2).toNat then _ else _) = _
  by_cases cut : exs.length < 4 + (uint16At exs 2).toNat
  · rw [if_pos cut, if_pos (.inr cut)]
  rw [if_neg cut, if_neg (by omega)]
  have room : 4 + (uint16At exs 2).toNat ≤ exs.length := Nat.not_lt.mp cut
  have length_sex : ((exs.take (4 + (uint16At exs 2).toNat)).drop 4).length = (uint16At exs 2).toNat := by
    simp_all
  have slice : (sliceOf exs extensionHeaderLen (extensionHeaderLen + (uint16At exs 2).toNat) : Outcome Empty Bytes) =
      .ok ((exs.take (4 + (uint16At exs 2).toNat)).drop 4) := slice_of_eq (Nat.le_add_right _ _) room
  have byte (i : Nat) (inside : i < (uint16At exs 2).toNat) :
      (indexAt ((exs.take (4 + (uint16At exs 2).toNat)).drop 4) i : Outcome Empty UInt8) = .ok (exs.getD (4 + i) 0) := by
    rw [index_byte (by omega), getD_drop, getD_take _ (by omega)]
  change (sliceOf exs extensionHeaderLen (extensionHeaderLen + (uint16At exs 2).toNat) >>= _) = _
  rw [slice]
  change (if uint16At exs 0 = 0 then _ else _) = _
  by_cases named : uint16At exs 0 = 0
  · rw [if_pos named, if_pos named, length_sex]
    by_cases small : (uint16At exs 2).toNat < 5
    · simp_all
    rw [if_neg (show ¬ (uint16At exs 2).toNat < sniExtensionHeaderLen from small), byte 2 (by omega), ok_bind]
    by_cases other : exs.getD 6 0 ≠ 0
    · simp_all
    rw [if_neg (show ¬ exs.getD (4 + 2) 0 ≠ sniNameDNSHostnameType from other), if_neg (not_or.mpr ⟨small, other⟩)]
    rw [byte 3 (by omega), byte 4 (by omega), ok_bind, ok_bind,
      slice_from_eq (by rw [length_sex]; exact Nat.not_lt.mp small), List.drop_drop]
    rfl
  rw [if_neg named, if_neg named]
  have wrapped : (4 + uint16At exs 2).toNat ≤ 4 + (uint16At exs 2).toNat := by grind [UInt16.toNat_add]
  rw [show (4 + beUint16 (exs.getD 2 0) (exs.getD 3 0)) = 4 + uint16At exs 2 from rfl, slice_from_eq (by omega)]
  rfl

theorem extensions_index_spec (handshake : Bytes) :
    ∃ found, extensionsIndex handshake = .ok found ∧ ∀ i, found = some i → 42 ≤ i ∧ i ≤ handshake.length := by
  rw [extensionsIndex]
  by_cases short : handshake.length < 39
  · exact ⟨none, if_pos short, by simp⟩
  rw [if_neg (show ¬ handshake.length < handshakeHeaderLen + randomDataLen + sessionIDHeaderLen from short)]
  simp only [index_byte (show 0 < handshake.length by omega), index_byte (show 1 < handshake.length by omega),
    index_byte (show 2 < handshake.length by omega), index_byte (show 3 < handshake.length by omega),
    index_byte (show 4 < handshake.length by omega), index_byte (show 5 < handshake.length by omega),
    index_byte (show 38 < handshake.length by omega), slice_from_eq (show 4 ≤ handshake.length by omega), ok_bind]
  split
  · grind
  split
  · grind
  split
  · grind
  split
  · grind
  rename_i sessionID
  rw [slice_from_eq (Nat.not_lt.mp sessionID), ok_bind]
  split
  · grind
  rename_i header
  rw [index_byte (Nat.lt_of_lt_of_le Nat.zero_lt_two (Nat.not_lt.mp header)),
    index_byte (Nat.lt_of_lt_of_le Nat.one_lt_two (Nat.not_lt.mp header)), ok_bind, ok_bind]
  split
  · grind
  rename_i suites
  rw [index_byte (Nat.lt_of_succ_le (Nat.not_lt.mp suites)), ok_bind]
  split
  · grind
  rename_i inside
  refine ⟨_, rfl, ?_⟩
  rintro i found
  cases found
  simp only [handshakeHeaderLen, randomDataLen, sessionIDHeaderLen, cipherSuiteHeaderLen, compressMethodHeaderLen] at inside ⊢
  omega

-- The payload begins with a client hello whose list of extensions is complete
-- and begins, with its length, at the index.
structure HasExtensions (payload : Bytes) (listIndex : Nat) : Prop where
  handshake : payload.getD 0 0 = contentType
  record : 5 + (uint16At payload 3).toNat ≤ payload.length
  located : extensionsIndex (payload.drop 5) = .ok (some (listIndex - 5))
  header : listIndex + 2 ≤ payload.length
  list : listIndex + 2 + (uint16At payload listIndex).toNat ≤ payload.length

variable {payload : Bytes} {listIndex : Nat} {exs : Bytes}

theorem HasExtensions.after_hello (has : HasExtensions payload listIndex) : 47 ≤ listIndex := by
  obtain ⟨_, searched, bounds⟩ := extensions_index_spec (payload.drop 5)
  grind [has.located]

def MyServerName.at (listIndex : Nat) (name : MyServerName) : MyServerName :=
  { name with index := name.index + listIndex, extensionsListLengthIndex := listIndex }

section
variable (fuel : Nat)

theorem index_of_record (long : 5 ≤ payload.length) (handshake : payload.getD 0 0 = contentType) :
    indexTLSServerName fuel payload =
      if payload.length < 5 + (uint16At payload 3).toNat then .ok none
      else indexTLSServerNameFromHandshake fuel (payload.drop 5) >>= fun found =>
        .ok (found.map (fun name => { name with
          index := name.index + 5, extensionsListLengthIndex := name.extensionsListLengthIndex + 5 })) := by
  have third : ((payload.take 5).drop 3).getD 0 0 = payload.getD 3 0 := by rw [getD_drop, getD_take _ (by omega)]
  have fourth : ((payload.take 5).drop 3).getD 1 0 = payload.getD 4 0 := by rw [getD_drop, getD_take _ (by omega)]
  have length_header : ((payload.take 5).drop 3).length = 2 := by simp_all
  rw [indexTLSServerName, if_neg (Nat.not_lt.mpr long), index_byte (by omega), ok_bind, if_neg (not_not_intro handshake),
    slice_of_eq (by omega) long, ok_bind, index_byte (by omega), index_byte (by omega), ok_bind,
    ok_bind, third, fourth]
  change (if payload.length < 5 + (uint16At payload 3).toNat then _ else _) = _
  rw [slice_from_eq long, ok_bind]
  congr 2
  funext found
  cases found <;> rfl

theorem index_from_handshake {handshake : Bytes} {i : Nat} (located : extensionsIndex handshake = .ok (some i)) :
    indexTLSServerNameFromHandshake fuel handshake = (indexTLSServerNameFromExtensions fuel (handshake.drop i) >>= fun found =>
      .ok (found.map (MyServerName.at i))) := by
  obtain ⟨_, searched, bounds⟩ := extensions_index_spec handshake
  have inside := (bounds i (Outcome.ok.inj (searched.symm.trans located))).2
  rw [indexTLSServerNameFromHandshake, located]
  change (sliceFrom handshake i >>= _) = _
  rw [slice_from_eq inside, ok_bind]
  congr 1
  funext name
  cases name <;> rfl

theorem index_from_extensions (header : 2 ≤ exs.length) (list : 2 + (uint16At exs 0).toNat ≤ exs.length) :
    indexTLSServerNameFromExtensions fuel exs = iterate extensionTurn fuel (exs.drop 2, 2) := by
  rw [indexTLSServerNameFromExtensions, if_neg (by omega), if_neg (Nat.not_lt.mpr header), index_byte (by omega),
    index_byte (by omega), ok_bind, ok_bind, slice_from_eq header, ok_bind]
  apply if_neg
  rw [List.length_drop]
  change ¬ exs.length - 2 < (uint16At exs 0).toNat
  omega

theorem index_from_no_extensions (cut : exs.length < 2 ∨ exs.length < 2 + (uint16At exs 0).toNat) :
    indexTLSServerNameFromExtensions fuel exs = .ok none := by
  rw [indexTLSServerNameFromExtensions]
  by_cases short : exs.length < 2
  · rw [if_pos short, ite_self]
  rw [if_neg (by omega), if_neg short, index_byte (by omega), index_byte (by omega), ok_bind, ok_bind,
    slice_from_eq (Nat.not_lt.mp short), ok_bind]
  apply if_pos
  rw [List.length_drop]
  change exs.length - 2 < (uint16At exs 0).toNat
  omega

theorem index_eq_walk (has : HasExtensions payload listIndex) :
    indexTLSServerName fuel payload = (iterate extensionTurn fuel (payload.drop (listIndex + 2), 2) >>= fun found =>
      .ok (found.map (MyServerName.at listIndex))) := by
  have after := has.after_hello
  have list := has.list
  have start : 5 + (listIndex - 5) = listIndex := by omega
  have first : uint16At (payload.drop listIndex) 0 = uint16At payload listIndex := by rw [uint16_at_drop, Nat.add_zero]
  rw [index_of_record fuel (by omega) has.handshake, if_neg (Nat.not_lt.mpr has.record), index_from_handshake fuel has.located,
    List.drop_drop, start, index_from_extensions fuel (by rw [List.length_drop]; omega) (by rw [List.length_drop, first]; omega),
    List.drop_drop]
  cases iterate extensionTurn fuel (payload.drop (listIndex + 2), 2) with
  | ok =>
    simp only [ok_bind, Option.map_map]
    congr 2
    grind [MyServerName.at]
  | error | panic | running => rfl

theorem index_eq_none (hasnt : ∀ listIndex, ¬ HasExtensions payload listIndex) : indexTLSServerName fuel payload = .ok none := by
  by_cases long : 5 ≤ payload.length
  · by_cases handshake : payload.getD 0 0 = contentType
    · rw [index_of_record fuel long handshake]
      by_cases record : payload.length < 5 + (uint16At payload 3).toNat
      · exact if_pos record
      rw [if_neg record]
      obtain ⟨found, searched, bounds⟩ := extensions_index_spec (payload.drop 5)
      cases found with
      | none =>
        simp [indexTLSServerNameFromHandshake, searched]
      | some i =>
        have start : 5 + i - 5 = i := by omega
        have cut : payload.length - (5 + i) < 2 ∨ payload.length - (5 + i) < 2 + (uint16At payload (5 + i)).toNat := by
          refine Classical.byContradiction (fun complete => hasnt (5 + i) ?_)
          exact ⟨handshake, by omega, by rw [searched, start], by omega, by omega⟩
        rw [index_from_handshake fuel searched, List.drop_drop, index_from_no_extensions fuel]
        · rfl
        · rwa [List.length_drop, uint16_at_drop, Nat.add_zero]
    rw [indexTLSServerName, if_neg (Nat.not_lt.mpr long), index_byte (by omega)]
    exact if_pos handshake
  · exact if_pos (Nat.not_le.mp long)

end
end OtunKernel.TlsFragment
