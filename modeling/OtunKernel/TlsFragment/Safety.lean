import OtunKernel.TlsFragment.Stream

namespace OtunKernel.TlsFragment

open Lib Outcome Conn

theorem piece_at_cases (splitRecord : Bool) (b : Bytes) (splitIndexes : List Nat) (i : Nat) :
    pieceAt splitRecord b splitIndexes i = .panic ∨ ∃ piece, pieceAt splitRecord b splitIndexes i = .ok piece := by
  rw [pieceAt]
  by_cases first : i = 0
  · rw [if_pos first]
    rcases index_at_cases splitIndexes 0 with bad | ⟨cut, at_⟩
    · rw [bad]
      exact .inl rfl
    rw [at_, ok_bind]
    rcases slice_of_cases b 0 cut with bad | ⟨part, cutOff⟩
    · rw [bad]
      exact .inl rfl
    rw [cutOff]
    split
    · exact slice_of_cases part recordLayerHeaderLen part.length
    · exact .inr ⟨part, rfl⟩
  rw [if_neg first]
  rcases index_at_cases splitIndexes (i - 1) with bad | ⟨low, at_⟩
  · rw [bad]
    simp
  rw [at_]
  split
  · exact slice_of_cases b low b.length
  rcases index_at_cases splitIndexes i with bad | ⟨high, also⟩
  · rw [bad]
    exact .inl rfl
  · simpa [also] using slice_of_cases b low high

variable {b : Bytes} {name : MyServerName} {world : World}

theorem write_loop_panics (quiet : ∀ call, world.fault call = none) (conn : Conn) (splitIndexes : List Nat) {turns : List Nat}
    (buffer : Bytes) (link : Link) (bad : ∃ i ∈ turns, pieceAt conn.splitRecord b splitIndexes i = .panic) :
    writeLoop world conn b splitIndexes turns buffer link = .panic := by
  induction turns generalizing buffer link with
  | nil => simp_all
  | cons i rest ih =>
    rw [writeLoop]
    rcases piece_at_cases conn.splitRecord b splitIndexes i with here | ⟨piece, fine⟩
    · simp [here]
    have later : ∃ j ∈ rest, pieceAt conn.splitRecord b splitIndexes j = .panic := by simp_all
    rw [fine, ok_bind]
    have framed : frame conn b buffer piece = .panic ∨ ∃ after payload, frame conn b buffer piece = .ok (after, payload) := by
      rw [frame]
      split
      · rcases slice_of_cases b 0 3 with short | ⟨head, cutOff⟩
        · rw [short]
          exact .inl rfl
        · simp [cutOff]
      · exact .inr ⟨_, _, rfl⟩
    rcases framed with short | ⟨after, payload, framed⟩
    · simp [short]
    rw [framed, ok_bind]
    dsimp only
    split
    · split
      · grind [writeAndWaitAck, Link.send, Link.control]
      · exact ih _ _ later
    · exact ih _ _ later

-- The name can be split: the labels that are kept are not empty, and the
-- packet reaches to their end.
structure Splittable (publicSuffix : Bytes → Bytes) (b : Bytes) (name : MyServerName) : Prop where
  full : ∀ label ∈ keptLabels publicSuffix name.serverName, label ≠ []
  inside : name.index + labelSpan (keptLabels publicSuffix name.serverName) ≤ b.length + 1

theorem write_split_safe {fuel : Nat}
    (named : indexTLSServerName fuel b = .ok (some name)) (splittable : Splittable world.publicSuffix b name)
    (conn : Conn) (link : Link) : conn.writeSplit world link b name ≠ .panic := by
  have after := name_after_hello named
  have start : 5 ≤ name.index := by omega
  obtain ⟨splitIndexes, indexes, cuts, _⟩ := cuts_of_labels conn.splitRecord splittable.full
    (kept_labels_ne_nil world.publicSuffix name.serverName) start splittable.inside
  have parts : ∀ i ∈ List.range (splitIndexes.length + 1), pieceAt conn.splitRecord b splitIndexes i =
      .ok ((pieces conn.splitRecord b splitIndexes).getD i []) := by grind [piece_at_eq]
  obtain ⟨err, _, _, looped, _⟩ := write_loop_spec world conn splitIndexes (by omega) _ _ [] link parts
  rw [writeSplit, split_labels_eq, ok_bind]
  dsimp only
  rw [indexes, ok_bind, looped, ok_bind]
  cases err with
  | some => simp
  | none => grind

theorem write_split_panics {fault : Nat → Option (Nat × String)} (quiet : ∀ call, fault call = none)
    {publicSuffix : Bytes → Bytes} (broken : ¬ Splittable publicSuffix b name) (conn : Conn)
    (link : Link) : ∃ random, conn.writeSplit ⟨publicSuffix, random, fault⟩ link b name = .panic := by
  by_cases full : ∀ label ∈ keptLabels publicSuffix name.serverName, label ≠ []
  · have outside : b.length + 1 < name.index + labelSpan (keptLabels publicSuffix name.serverName) :=
      Nat.lt_of_not_le (fun inside => broken ⟨full, inside⟩)
    obtain ⟨last, ends⟩ : ∃ last, (keptLabels publicSuffix name.serverName).getLast? = some last :=
      ⟨_, List.getLast?_eq_some_getLast (kept_labels_ne_nil publicSuffix name.serverName)⟩
    obtain ⟨splitIndexes, indexes, final⟩ := split_indexes_last 0 name.index full ends
    refine ⟨fun _ => last.length - 1, ?_⟩
    rw [writeSplit, split_labels_eq, ok_bind]
    dsimp only
    rw [indexes]
    have count : splitIndexes.length ≠ 0 := by grind
    have bad : pieceAt conn.splitRecord b splitIndexes splitIndexes.length = .panic := by
      rw [List.getLast?_eq_getElem?] at final
      rw [pieceAt, if_neg count, if_pos rfl, indexAt, final]
      exact if_neg (fun within => by omega)
    have panics : writeLoop ⟨publicSuffix, fun _ => last.length - 1, fault⟩ conn b splitIndexes
        (List.range (splitIndexes.length + 1)) [] link = .panic := by grind [write_loop_panics]
    simp [panics]
  refine ⟨fun _ => 0, ?_⟩
  have gap : [] ∈ keptLabels publicSuffix name.serverName := by
    simpa using full
  rw [writeSplit, split_labels_eq]
  simp [split_indexes_panic _ _ _ gap]

-- The first write panics for no choice of the random numbers just when every
-- name that is found can be split.
theorem first_write_panics_iff (publicSuffix : Bytes → Bytes) (tcpConn splitPacket splitRecord : Bool) (b : Bytes) :
    (∀ random fault fuel link,
      (Conn.mk tcpConn false splitPacket splitRecord).write ⟨publicSuffix, random, fault⟩ fuel link b ≠ .panic) ↔
      ∀ fuel name, indexTLSServerName fuel b = .ok (some name) → Splittable publicSuffix b name := by
  constructor
  · intro safe fuel name named
    refine Classical.byContradiction (fun broken => ?_)
    have started := write_split_panics (fun _ => rfl) broken ⟨tcpConn, true, splitPacket, splitRecord⟩
      (if splitPacket && tcpConn then { calls := 1 } else {})
    obtain ⟨random, panics⟩ := started
    refine safe random (fun _ => none) fuel {} ?_
    rw [write, named, ok_bind]
    cases control : splitPacket && tcpConn with
    | true =>
      rw [control] at panics
      exact panics
    | false => simp_all
  intro splittable random _ fuel _
  rw [write, if_neg (by simp)]
  rcases located : indexTLSServerName fuel b with found | err | _ | _
  · cases found with
    | none => simp
    | some name =>
      dsimp only
      split
      · simp
      · exact write_split_safe located (splittable fuel name located) _ _
  · cases err
  · exact absurd located (index_never_panics fuel b)
  · simp

theorem empty_name_counterexample :
    indexTLSServerName 2 (helloFor []) = .ok (some ⟨58, 0, [], 47⟩) ∧
    ∀ publicSuffix random fault,
      (Conn.mk false false true false).write ⟨publicSuffix, random, fault⟩ 2 {} (helloFor []) = .panic := by
  have named : indexTLSServerName 2 (helloFor []) = .ok (some ⟨58, 0, [], 47⟩) := by decide
  refine ⟨named, fun publicSuffix random fault => ?_⟩
  have gap : [] ∈ keptLabels publicSuffix [] := by simp [keptLabels]
  rw [write, named]
  change Conn.writeSplit _ _ _ _ _ = _
  rw [writeSplit, split_labels_eq]
  simp [split_indexes_panic _ _ _ gap]

end OtunKernel.TlsFragment
