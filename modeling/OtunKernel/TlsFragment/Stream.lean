import OtunKernel.TlsFragment.Conn

namespace OtunKernel.TlsFragment

open Lib Outcome Conn Link

variable {splitIndexes : List Nat}

section
variable {b : Bytes}

structure Cuts (splitRecord : Bool) (b : Bytes) (splitIndexes : List Nat) : Prop where
  some_cut : splitIndexes ≠ []
  ordered : splitIndexes.Pairwise (· < ·)
  after : ∀ index ∈ splitIndexes, (if splitRecord then 5 else 0) ≤ index
  inside : ∀ index ∈ splitIndexes, index ≤ b.length

def pieces (splitRecord : Bool) (b : Bytes) (splitIndexes : List Nat) : List Bytes :=
  cutAt b (if splitRecord then 5 else 0) splitIndexes

variable {i : Nat}

section
variable (inside : i < splitIndexes.length)
include inside

theorem index_cut : (indexAt splitIndexes i : Outcome Empty Nat) = .ok (splitIndexes.getD i 0) := index_at_eq inside

theorem getD_mem (other : Nat) : splitIndexes.getD i other ∈ splitIndexes := by
  grind

theorem getD_other (other : Nat) : splitIndexes.getD i other = splitIndexes.getD i 0 := by
  rw [List.getD_eq_getElem _ _ inside, List.getD_eq_getElem _ _ inside]

end

theorem piece_at_eq {splitRecord : Bool} (cuts : Cuts splitRecord b splitIndexes) (inside : i ≤ splitIndexes.length) :
    pieceAt splitRecord b splitIndexes i = .ok ((pieces splitRecord b splitIndexes).getD i []) := by
  have count : 0 < splitIndexes.length := List.length_pos_iff.mpr cuts.some_cut
  rw [pieces, cut_at_getD b inside, pieceAt]
  by_cases first : i = 0
  · subst first
    have member := getD_mem count 0
    have bound := cuts.inside _ member
    have start := cuts.after _ member
    rw [if_pos rfl, if_pos rfl, index_cut count, ok_bind, slice_of_eq (Nat.zero_le _) bound, ok_bind,
      getD_other count b.length]
    cases splitRecord with
    | false => rfl
    | true =>
      apply slice_from_eq
      simpa [List.length_take] using Nat.le_min.mpr ⟨start, Nat.le_trans start bound⟩
  have before : i - 1 < splitIndexes.length := by omega
  rw [if_neg first, if_neg first, index_cut before, ok_bind]
  by_cases last : i = splitIndexes.length
  · grind [slice_from_eq, cuts.inside]
  have here : i < splitIndexes.length := by omega
  rw [if_neg last, ok_bind, index_cut here, ok_bind, slice_of_eq, getD_other here b.length]
  · grind [List.pairwise_iff_getElem, cuts.ordered]
  · exact cuts.inside _ (getD_mem here 0)

theorem map_pieces (splitRecord : Bool) (b : Bytes) (splitIndexes : List Nat) : (List.range (splitIndexes.length + 1)).map
    (fun i => (pieces splitRecord b splitIndexes).getD i []) = pieces splitRecord b splitIndexes := by
  apply List.ext_getElem
  · rw [List.length_map, List.length_range, pieces, length_cut_at]
  · simp_all

end

def Link.bytes (link : Link) : List Bytes := link.written.map Prod.snd

variable {world : World} {link : Link} {payload b : Bytes} {conn : Conn} {sent : Link} {fuel : Nat} {name : MyServerName}

theorem send_bytes {via : Via} (done : link.send world via payload = (none, sent)) :
    sent.bytes = link.bytes ++ [payload] := by grind [send, bytes]

theorem control_bytes {after : Link} {err : Option String} (done : link.control world = (err, after)) :
    after.bytes = link.bytes := by
  cases done
  rfl

theorem ack_bytes (done : writeAndWaitAck world link payload = (none, sent)) : sent.bytes = link.bytes ++ [payload] := by
  rw [writeAndWaitAck] at done
  split at done
  · cases done
  rename_i went
  rw [control_bytes done, send_bytes went]

def Conn.emitted (conn : Conn) (b payload : Bytes) : Bytes :=
  if conn.splitRecord then tlsRecord (b.take 3) payload else payload

theorem frame_eq (conn : Conn) (head : 3 ≤ b.length) (buffer payload : Bytes) :
    ∃ after, frame conn b buffer payload = .ok (after, if conn.splitPacket then conn.emitted b payload else payload) ∧
      (conn.splitPacket = false → conn.splitRecord = true → after = buffer ++ conn.emitted b payload) := by
  rw [frame, emitted]
  cases record : conn.splitRecord with
  | false => exact ⟨buffer, by simp, by simp⟩
  | true =>
    rw [slice_of_eq (Nat.zero_le 3) head, ok_bind]
    cases conn.splitPacket with
    | false => grind
    | true => exact ⟨_, rfl, by simp⟩

theorem write_loop_spec (world : World) (conn : Conn) (splitIndexes : List Nat) (head : 3 ≤ b.length)
    (part : Nat → Bytes) (turns : List Nat) (buffer : Bytes) (link : Link)
    (parts : ∀ i ∈ turns, pieceAt conn.splitRecord b splitIndexes i = .ok (part i)) :
    ∃ err after sent, writeLoop world conn b splitIndexes turns buffer link = .ok (err, after, sent) ∧ (err = none →
      (conn.splitPacket = true → sent.bytes = link.bytes ++ turns.map (fun i => conn.emitted b (part i))) ∧
      (conn.splitPacket = false → sent = link ∧
        (conn.splitRecord = true → after = buffer ++ (turns.map (fun i => conn.emitted b (part i))).flatten))) := by
  induction turns generalizing buffer link with
  | nil => exact ⟨none, buffer, link, rfl, fun _ => ⟨by simp, fun _ => ⟨rfl, by simp⟩⟩⟩
  | cons i rest ih =>
    obtain ⟨after, framed, collected⟩ := frame_eq conn head buffer (part i)
    have others := fun j (member : j ∈ rest) => parts j (List.mem_cons_of_mem i member)
    rw [writeLoop, parts i List.mem_cons_self, ok_bind, framed, ok_bind]
    cases packet : conn.splitPacket with
    | false =>
      obtain ⟨err, last, sent, done, spec⟩ := ih after link others
      refine ⟨err, last, sent, done, fun clean => ⟨by simp, fun _ => ?_⟩⟩
      obtain ⟨same, gathered⟩ := (spec clean).2 packet
      refine ⟨same, fun record => ?_⟩
      rw [gathered record, collected packet record, List.map_cons, List.flatten_cons, List.append_assoc]
    | true =>
      simp only [if_true]
      split
      · simp
      rename_i sent went
      obtain ⟨err, last, final, done, spec⟩ := ih after sent others
      refine ⟨err, last, final, done, fun clean => ⟨fun _ => ?_, by simp⟩⟩
      have here : sent.bytes = link.bytes ++ [conn.emitted b (part i)] := by grind [ack_bytes, send_bytes]
      simp [(spec clean).1 packet, here, List.append_assoc]

theorem kept_labels_ne_nil (publicSuffix : Bytes → Bytes) (name : Bytes) : keptLabels publicSuffix name ≠ [] := by
  have length := length_splitOn dot name
  rw [keptLabels, ← List.length_pos_iff]
  split
  · simp_all
  · omega

theorem kept_labels_span (publicSuffix : Bytes → Bytes) (name : Bytes) : labelSpan (keptLabels publicSuffix name) ≤ name.length := by
  have length := sum_length_splitOn dot name
  have count := length_splitOn dot name
  rw [keptLabels, labelSpan]
  split
  · cases labels : name.splitOn dot with
    | nil => simp
    | cons => grind
  · omega

theorem cuts_of_labels {random : Nat → Nat} {index : Nat} {labels : List Bytes} (splitRecord : Bool)
    (full : ∀ label ∈ labels, label ≠ []) (some_label : labels ≠ []) (after : 5 ≤ index)
    (inside : index + labelSpan labels ≤ b.length + 1) :
    ∃ splitIndexes, splitIndexesFrom random 0 index labels = .ok splitIndexes ∧ Cuts splitRecord b splitIndexes ∧
      ∀ cut ∈ splitIndexes, index ≤ cut ∧ cut + 1 ≤ index + labelSpan labels := by
  obtain ⟨indexes, done, count, ordered, bounds⟩ := split_indexes_ok random 0 index full
  refine ⟨indexes, done, ⟨?_, ordered, ?_, ?_⟩, bounds⟩
  · rwa [← List.length_pos_iff, count, List.length_pos_iff]
  · grind
  · grind

theorem name_after_hello (found : indexTLSServerName fuel payload = .ok (some name)) : 58 ≤ name.index ∧ 49 ≤ payload.length := by
  by_cases has : ∃ listIndex, HasExtensions payload listIndex
  · obtain ⟨listIndex, has⟩ := has
    obtain ⟨_, i, inner, reached, taken, rfl⟩ := name_found has found
    have start : 2 ≤ i := by
      refine reached.invariant (fun state => 2 ≤ state.2) (Nat.le_refl 2) ?_
      grind [extension_turn_eq]
    have index : inner.index = i + 9 := by grind [extension_turn_eq]
    have after := has.after_hello
    have header := has.header
    refine ⟨?_, by omega⟩
    change 58 ≤ inner.index + listIndex
    omega
  · simp [index_eq_none fuel (fun listIndex list => has ⟨listIndex, list⟩)] at found

theorem short_of_record {listIndex : Nat} (has : HasExtensions payload listIndex) (record : payload.length ≤ 65540) :
    ShortExtensions payload listIndex := by
  intro offset walked complete _
  have room : offset + 4 + extensionLength payload offset ≤ payload.length := complete
  have after := has.after_hello
  have first := walked.first_le
  omega

theorem name_inside_record (record : payload.length ≤ 65540)
    (found : indexTLSServerName fuel payload = .ok (some name)) : name.index + name.serverName.length ≤ payload.length := by
  by_cases has : ∃ listIndex, HasExtensions payload listIndex
  · obtain ⟨listIndex, has⟩ := has
    obtain ⟨_, _, complete, _, whole, _, is⟩ := name_found_at has (short_of_record has record) found
    exact (name_inside complete whole is).2.1
  · simp [index_eq_none fuel (fun listIndex list => has ⟨listIndex, list⟩)] at found

theorem write_split_sent {serverName : MyServerName} {result : WriteResult} (head : 3 ≤ b.length)
    (indexes : splitIndexesFrom world.random 0 serverName.index (keptLabels world.publicSuffix serverName.serverName) =
      .ok splitIndexes) (cuts : Cuts conn.splitRecord b splitIndexes)
    (wrote : conn.writeSplit world link b serverName = .ok result) (clean : result.err = none) :
    result.conn = conn ∧ ∃ sent, result.link.bytes = link.bytes ++ sent ∧
      (conn.splitPacket = true → sent = (pieces conn.splitRecord b splitIndexes).map (conn.emitted b)) ∧
      (conn.splitPacket = false → conn.splitRecord = true →
        sent = [((pieces conn.splitRecord b splitIndexes).map (conn.emitted b)).flatten]) := by
  have parts : ∀ i ∈ List.range (splitIndexes.length + 1), pieceAt conn.splitRecord b splitIndexes i =
      .ok ((pieces conn.splitRecord b splitIndexes).getD i []) := by grind [piece_at_eq]
  obtain ⟨err, _, _, looped, spec⟩ := write_loop_spec world conn splitIndexes head _ _ [] link parts
  have all : (List.range (splitIndexes.length + 1)).map
      (fun i => conn.emitted b ((pieces conn.splitRecord b splitIndexes).getD i [])) =
      (pieces conn.splitRecord b splitIndexes).map (conn.emitted b) := by
    have mapped := congrArg (List.map (conn.emitted b)) (map_pieces conn.splitRecord b splitIndexes)
    rwa [List.map_map] at mapped
  rw [writeSplit, split_labels_eq, ok_bind] at wrote
  dsimp only at wrote
  rw [indexes, ok_bind, looped, ok_bind] at wrote
  cases err with
  | some => grind
  | none =>
    dsimp only at wrote
    split at wrote
    · grind
    rename_i flushed flush
    split at wrote
    · grind
    rename_i final reset
    have kept : final.bytes = flushed.bytes := by grind [control_bytes]
    cases wrote
    cases packet : conn.splitPacket with
    | true => simp_all
    | false =>
      cases split : conn.splitRecord with
      | true => grind [send_bytes]
      | false => simp_all

structure IsRecord (b : Bytes) : Prop where
  header : 5 ≤ b.length
  whole : b.length = 5 + (uint16At b 3).toNat

-- Without record splitting the pieces make up the packet; with it they make up
-- records of its type and version, of the length they say, whose payloads make
-- up the packet's.
def PreservesStream (conn : Conn) (b : Bytes) (sent : List Bytes) : Prop :=
  if conn.splitRecord then
    ∃ records : List (UInt16 × Bytes), 2 ≤ records.length ∧
      (∀ record ∈ records, record.1.toNat = record.2.length ∧ record.2 ≠ []) ∧
      (records.map Prod.snd).flatten = b.drop 5 ∧
      sent.flatten = (records.map (fun record => b.take 3 ++ putUint16 record.1 ++ record.2)).flatten
  else sent.flatten = b

def PassesThrough (conn : Conn) : Prop :=
  ∀ world fuel link b, ∃ result, conn.write world fuel link b = .ok result ∧ result.link = (link.send world .conn b).2 ∧
    result.conn = conn

theorem passes_through (written : conn.firstPacketWritten = true) : PassesThrough conn := by
  intro world fuel link b
  refine ⟨conn.passThrough world link b, if_pos written, ?_⟩
  grind [passThrough]

theorem records_of_pieces (record : IsRecord b) (cuts : Cuts true b splitIndexes)
    (strict : ∀ cut ∈ splitIndexes, 5 < cut ∧ cut < b.length) (conn : Conn) (split : conn.splitRecord = true) :
    ∃ records : List (UInt16 × Bytes), 2 ≤ records.length ∧
      (∀ record ∈ records, record.1.toNat = record.2.length ∧ record.2 ≠ []) ∧ (records.map Prod.snd).flatten = b.drop 5 ∧
      ((pieces true b splitIndexes).map (conn.emitted b)).flatten =
        (records.map (fun record => b.take 3 ++ putUint16 record.1 ++ record.2)).flatten := by
  have flat : (pieces true b splitIndexes).flatten = b.drop 5 := cut_at_flatten b cuts.after cuts.ordered
  have count : 0 < splitIndexes.length := List.length_pos_iff.mpr cuts.some_cut
  have some_cut := strict _ (getD_mem count 0)
  refine ⟨(pieces true b splitIndexes).map (fun piece => (UInt16.ofNat piece.length, piece)), ?_, ?_, ?_, ?_⟩
  · rw [List.length_map, pieces, length_cut_at]
    omega
  · intro pair member
    obtain ⟨piece, among, rfl⟩ := List.mem_map.mp member
    have short : piece.length < 65536 := by
      have part := (List.sublist_flatten_of_mem among).length_le
      have bounded := (uint16At b 3).toNat_lt
      have whole := record.whole
      rw [flat, List.length_drop] at part
      omega
    refine ⟨UInt16.toNat_ofNat_of_lt' short, ?_⟩
    exact cut_at_full b (fun cut member => (strict cut member).1) cuts.ordered (fun cut member => (strict cut member).2)
      (by omega) piece among
  · rw [List.map_map, show Prod.snd ∘ (fun piece : Bytes => (UInt16.ofNat piece.length, piece)) = id from rfl, List.map_id, flat]
  rw [List.map_map]
  congr 1
  refine List.map_congr_left (fun piece _ => ?_)
  rw [emitted, if_pos split]
  rfl

theorem flatten_emitted (plain : conn.splitRecord = false) (b : Bytes) (parts : List Bytes) :
    parts.map (conn.emitted b) = parts := by
  have same : conn.emitted b = id := by
    funext payload
    simp [emitted, plain]
  rw [same, List.map_id]

theorem first_write_preserves_stream {world : World} {fuel : Nat} {conn : Conn} {link : Link} {b : Bytes} {name : MyServerName}
    {result : WriteResult} (fresh : conn.firstPacketWritten = false) (splits : conn.splitPacket = true ∨ conn.splitRecord = true)
    (record : IsRecord b) (named : indexTLSServerName fuel b = .ok (some name))
    (wrote : conn.write world fuel link b = .ok result) (success : result.n = b.length ∧ result.err = none) :
    (∃ sent, result.link.bytes = link.bytes ++ sent ∧ PreservesStream conn b sent) ∧ PassesThrough result.conn := by
  have small : b.length ≤ 65540 := by
    have bounded := (uint16At b 3).toNat_lt
    have whole := record.whole
    omega
  have after := (name_after_hello named).1
  have inside := name_inside_record small named
  have span := kept_labels_span world.publicSuffix name.serverName
  have head : 3 ≤ b.length := by grind
  rw [write, if_neg (by rw [fresh]; simp), named, Outcome.ok_bind] at wrote
  dsimp only at wrote
  split at wrote
  · grind
  rename_i begun noDelay
  have unsent : begun.bytes = link.bytes := by grind [control_bytes]
  have full : ∀ label ∈ keptLabels world.publicSuffix name.serverName, label ≠ [] := by
    rintro label member rfl
    rw [writeSplit, split_labels_eq] at wrote
    simp [split_indexes_panic _ _ _ member] at wrote
  have start : 5 ≤ name.index := by omega
  have room : name.index + labelSpan (keptLabels world.publicSuffix name.serverName) ≤ b.length + 1 := by omega
  obtain ⟨splitIndexes, indexes, cuts, bounds⟩ := cuts_of_labels conn.splitRecord full
    (kept_labels_ne_nil world.publicSuffix name.serverName) start room
  have wrote_pieces := fun ascending => write_split_sent head indexes ascending wrote success.2
  obtain ⟨same, sent, went, packets, recorded⟩ := wrote_pieces cuts
  change conn.splitPacket = true → sent = (pieces conn.splitRecord b splitIndexes).map (conn.emitted b) at packets
  change conn.splitPacket = false → conn.splitRecord = true →
    sent = [((pieces conn.splitRecord b splitIndexes).map (conn.emitted b)).flatten] at recorded
  refine ⟨⟨sent, by rw [went, unsent], ?_⟩, by rw [same]; exact passes_through rfl⟩
  rw [PreservesStream]
  cases split : conn.splitRecord with
  | true =>
    rw [split] at cuts
    obtain ⟨records, count, each, payloads, flat⟩ := records_of_pieces record cuts
      (fun cut member => by have here := bounds cut member; omega) conn split
    refine ⟨records, count, each, payloads, ?_⟩
    rw [← flat]
    cases packet : conn.splitPacket with
    | true =>
      rw [packets packet, split]
    | false =>
      rw [recorded packet split, split, List.flatten_singleton]
  | false =>
    have packet : conn.splitPacket = true := by grind
    rw [packets packet, flatten_emitted split, pieces, cut_at_flatten b cuts.after cuts.ordered, split]
    rfl

def helloFor (name : Bytes) : Bytes :=
  let extension := putUint16 0 ++ putUint16 (UInt16.ofNat (name.length + 5)) ++ putUint16 (UInt16.ofNat (name.length + 3)) ++ [0] ++
    putUint16 (UInt16.ofNat name.length) ++ name
  let body := [3, 3] ++ List.replicate 32 0 ++ [0, 0, 0, 0] ++ putUint16 (UInt16.ofNat extension.length) ++ extension
  [22, 3, 1] ++ putUint16 (UInt16.ofNat (body.length + 4)) ++ [1, 0] ++ putUint16 (UInt16.ofNat body.length) ++ body

def quietWorld : World := ⟨fun _ => [], fun _ => 0, fun _ => none⟩

theorem first_write_preserves_stream_example :
    ∃ result, (⟨true, false, true, true⟩ : Conn).write quietWorld 2 {} (helloFor [119, 119, 119, 46, 97]) = .ok result ∧
      (∃ sent, result.link.bytes = ([] : List Bytes) ++ sent ∧
        PreservesStream ⟨true, false, true, true⟩ (helloFor [119, 119, 119, 46, 97]) sent) ∧ PassesThrough result.conn := by
  obtain ⟨result, wrote, count, clean⟩ : ∃ result,
      (⟨true, false, true, true⟩ : Conn).write quietWorld 2 {} (helloFor [119, 119, 119, 46, 97]) = .ok result ∧
        result.n = (helloFor [119, 119, 119, 46, 97]).length ∧ result.err = none := ⟨_, rfl, rfl, rfl⟩
  have named : indexTLSServerName 2 (helloFor [119, 119, 119, 46, 97]) = .ok (some ⟨58, 5, [119, 119, 119, 46, 97], 47⟩) := by decide
  exact ⟨result, wrote, first_write_preserves_stream rfl (.inl rfl) ⟨by decide, by decide⟩ named wrote ⟨count, clean⟩⟩

theorem unsplit_write_counterexample :
    (⟨false, false, false, false⟩ : Conn).write quietWorld 2 {} (helloFor [119, 119, 119, 46, 97]) =
      .ok ⟨63, none, ⟨false, true, false, false⟩, {}⟩ ∧
    (helloFor [119, 119, 119, 46, 97]).length = 63 ∧
    ¬ PreservesStream ⟨false, false, false, false⟩ (helloFor [119, 119, 119, 46, 97]) [] := by
  refine ⟨by decide, by decide, fun preserved => ?_⟩
  have empty : ([] : List Bytes).flatten = helloFor [119, 119, 119, 46, 97] := preserved
  cases empty

end OtunKernel.TlsFragment
