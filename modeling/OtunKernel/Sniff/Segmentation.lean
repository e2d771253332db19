import Mathlib.Data.List.TakeWhile
import OtunKernel.Sniff.Stream

namespace OtunKernel.Sniff

open Lib StreamSniffer Decoder Outcome

structure Filled (stop : Bytes → Bool) (stream : Bytes) (result : Bytes × Bool × List Bytes) : Prop where
  stream : result.1 ++ result.2.2.flatten = stream
  small : result.1.length ≤ bufferSize
  ended : result.2.1 = true → result.2.2.flatten = [] ∧ stop result.1 = false ∧ result.1.length < bufferSize
  going : result.2.1 = false → stop result.1 = true ∨ result.1.length = bufferSize

theorem fill_until_filled (stop : Bytes → Bool) (held : Bytes) (reader : List Bytes) (small : held.length ≤ bufferSize) :
    Filled stop (held ++ reader.flatten) (fillUntil stop held reader) := by
  induction reader generalizing held with
  | nil =>
    rw [fillUntil]
    refine ⟨rfl, small, ?_, ?_⟩
    · simp
    · grind
  | cons piece rest ih =>
    rw [fillUntil, List.flatten_cons, ← List.append_assoc]
    by_cases enough : (stop held || decide (bufferSize ≤ held.length)) = true
    · rw [if_pos enough, List.append_assoc]
      refine ⟨rfl, small, fun ended => by contradiction, ?_⟩
      grind
    rw [if_neg enough]
    by_cases fits : piece.length ≤ bufferSize - held.length
    · grind
    have full : (held ++ piece.take (bufferSize - held.length)).length = bufferSize := by grind
    rw [if_neg fits]
    refine ⟨?_, Nat.le_of_eq full, fun ended => by contradiction, fun _ => .inr full⟩
    rw [List.flatten_cons, ← List.append_assoc, List.append_assoc held, List.take_append_drop]

def lineOf (stream : Bytes) : Bytes :=
  let buffered := stream.take bufferSize
  if buffered.contains 10 then dropReturn (buffered.takeWhile (· != 10))
  else if bufferSize ≤ stream.length then dropReturn buffered
  else stream

theorem first_line_append {line : Bytes} (newline : line.contains 10 = true) (more : Bytes) :
    (line ++ more).contains 10 = true ∧ (line ++ more).takeWhile (· != 10) = line.takeWhile (· != 10) := by
  have shorter : (line.takeWhile (· != 10)).length ≠ line.length := by
    intro same
    have front : line.takeWhile (· != 10) <+: line := List.takeWhile_prefix _
    have whole := front.eq_of_length same
    grind [List.takeWhile_eq_self_iff]
  exact ⟨by simp_all, by rw [List.takeWhile_append, if_neg shorter]⟩

theorem read_line_eq {held : Bytes} {reader : List Bytes} (small : held.length ≤ bufferSize) (some_byte : held ≠ []) :
    readLine held reader = .ok (lineOf (held ++ reader.flatten)) := by
  have filled := fill_until_filled (·.contains 10) held reader small
  rw [readLine]
  generalize fillUntil (·.contains 10) held reader = result at filled
  obtain ⟨line, ended, rest⟩ := result
  obtain ⟨stream, fits, atEnd, going⟩ := filled
  dsimp only at stream fits atEnd going ⊢
  rw [lineOf, ← stream, List.take_append, List.take_of_length_le fits]
  by_cases newline : line.contains 10 = true
  · obtain ⟨still, first⟩ := first_line_append newline (rest.flatten.take (bufferSize - line.length))
    rw [if_pos newline, if_pos still, first]
  rw [if_neg newline]
  cases ended with
  | true =>
    obtain ⟨empty, _, short⟩ := atEnd rfl
    have whole : line ≠ [] := by simp_all
    rw [empty, List.take_nil, List.append_nil, if_neg newline, if_neg (Nat.not_le.mpr short), if_pos rfl,
      if_neg (by simpa using whole)]
  | false =>
    have full : line.length = bufferSize := by grind
    have long : bufferSize ≤ (line ++ rest.flatten).length := by simp [List.length_append, full]
    rw [full, Nat.sub_self, List.take_zero, List.append_nil, if_neg newline, if_neg Bool.false_ne_true, if_pos long]

theorem drop_return_append {front line : Bytes} (kept : dropReturn front = front) :
    dropReturn (front ++ line) = front ++ dropReturn line := by
  grind [dropReturn]

theorem line_of_ssh (more : Bytes) : ∃ tail, lineOf (sshPrefix ++ more) = sshPrefix ++ tail := by
  have kept : dropReturn sshPrefix = sshPrefix := rfl
  have buffered : (sshPrefix ++ more).take bufferSize = sshPrefix ++ more.take (bufferSize - 8) := rfl
  rw [lineOf, buffered]
  split
  · have front : (sshPrefix ++ more.take (bufferSize - 8)).takeWhile (· != 10) =
        sshPrefix ++ (more.take (bufferSize - 8)).takeWhile (· != 10) := rfl
    rw [front, drop_return_append kept]
    exact ⟨_, rfl⟩
  split
  · rw [drop_return_append kept]
    exact ⟨_, rfl⟩
  · exact ⟨more, rfl⟩

def Waits (sniffed : Sniffed) : Prop := ∃ cause, sniffed = .error (.needMoreData cause)

def sshOf (stream : Bytes) : Sniffed :=
  if stream.take 8 ≠ sshPrefix.take stream.length then .error .invalid
  else if stream.length < 8 then .error (.needMoreData (some .eof))
  else .ok ⟨"ssh", (lineOf stream).drop 8⟩

theorem take_min_prefix (stream : Bytes) : sshPrefix.take (stream.take 8).length = sshPrefix.take stream.length := by
  rw [List.length_take, Nat.min_comm, ← List.take_take]
  rfl

theorem ssh_eq (metadata : StreamMetadata) (reader : List Bytes) : ssh metadata reader = sshOf reader.flatten := by
  have filled := fill_until_filled (fun held => sshPrefix.length ≤ held.length) [] reader (Nat.zero_le _)
  rw [List.nil_append] at filled
  rw [ssh]
  generalize fillUntil (fun held => sshPrefix.length ≤ held.length) [] reader = result at filled
  obtain ⟨held, ended, rest⟩ := result
  obtain ⟨stream, fits, atEnd, going⟩ := filled
  dsimp only at stream fits atEnd going ⊢
  rw [← stream, sshOf]
  cases ended with
  | true =>
    obtain ⟨empty, few, _⟩ := atEnd rfl
    have short : held.length < 8 := Nat.not_le.mp (of_decide_eq_false few)
    rw [empty, List.append_nil, if_pos short, ← take_min_prefix held]
    rfl
  | false =>
    have long : 8 ≤ held.length := by
      rcases going rfl with enough | full
      · exact of_decide_eq_true enough
      rw [full]
      decide
    have start : (held ++ rest.flatten).take 8 = held.take 8 := by grind
    have whole : sshPrefix.take (held ++ rest.flatten).length = sshPrefix :=
      List.take_of_length_le (by rw [List.length_append]; exact Nat.le_trans long (Nat.le_add_right _ _))
    have peeked : sshPrefix.take (held.take 8).length = sshPrefix :=
      List.take_of_length_le (by rw [List.length_take, Nat.min_eq_left long]; exact Nat.le_refl 8)
    rw [start, whole, if_neg Bool.false_ne_true]
    change (if held.take 8 ≠ sshPrefix.take (held.take 8).length then _ else _) = _
    rw [peeked]
    by_cases same : held.take 8 = sshPrefix
    · have some_byte : held ≠ [] := by
        rintro rfl
        contradiction
      obtain ⟨_, line⟩ := line_of_ssh (held.drop 8 ++ rest.flatten)
      rw [← same, ← List.append_assoc, List.take_append_drop] at line
      rw [if_neg (not_not.mpr same), if_neg (not_not.mpr same), if_neg (by rw [List.length_append]; omega),
        read_line_eq fits some_byte, Outcome.ok_bind, line,
        slice_from_eq (by rw [List.length_append, same]; exact Nat.le_add_right _ _)]
      rfl
    · rw [if_pos same, if_pos same]

def rdpOf (metadata : StreamMetadata) (stream : Bytes) : Sniffed := do
  let _ ← readRdp.run 0 none stream
  return { metadata with protocol := "rdp" }

theorem rdp_eq (metadata : StreamMetadata) (reader : List Bytes) : rdp metadata reader = rdpOf metadata reader.flatten := by
  rw [rdp, rdpOf, ← run_pieces]
  cases readRdp.runPieces 0 reader <;> rfl

theorem expect_asks (size value : Nat) : (expect size value).AsksFor StreamError.NeedsMore := by
  refine ⟨fun _ nothing => ⟨_, rfl⟩, fun bytes => ?_⟩
  dsimp only
  split
  · trivial
  · trivial

theorem read_rdp_asks : readRdp.AsksFor StreamError.NeedsMore := by
  have rest : ∀ bytes : Bytes, (Decoder.done bytes : Decoder StreamError Bytes).AsksFor StreamError.NeedsMore := fun _ => trivial
  iterate 5
    refine Decoder.asks_for_bind (expect_asks _ _) (fun _ => ?_)
  refine Decoder.asks_for_bind ⟨fun _ _ => ⟨_, rfl⟩, fun _ => trivial⟩ (fun _ => ?_)
  refine Decoder.asks_for_bind (expect_asks _ _) (fun _ => ?_)
  refine Decoder.asks_for_bind ⟨fun _ _ => ⟨_, rfl⟩, rest⟩ (fun _ => ?_)
  exact expect_asks _ _

theorem rdp_stable (metadata : StreamMetadata) (stream more : Bytes) :
    Waits (rdpOf metadata stream) ∨ rdpOf metadata (stream ++ more) = rdpOf metadata stream := by
  rcases @Decoder.run_append _ _ _ 0 none _ read_rdp_asks stream more with ⟨err, ⟨cause, rfl⟩, failed⟩ | same
  · exact .inl ⟨cause, by rw [rdpOf, failed]; rfl⟩
  right
  rw [rdpOf, rdpOf, same]
  cases readRdp.run 0 none stream <;> rfl

section
variable (unpack : Bytes → Except UnpackError Msg) (metadata : StreamMetadata)

def Refused (packet : Bytes) : Prop :=
  (2 < packet.length ∧ packet.getD 2 0 &&& 0x80 ≠ 0) ∨ (5 < packet.length ∧ packet.getD 4 0 = 0 ∧ packet.getD 5 0 = 0) ∨
    ∃ i ∈ ([6, 7, 8, 9] : List Nat), i < packet.length ∧ packet.getD i 0 ≠ 0

variable {packet : Bytes}

theorem refused_append (refused : Refused packet) (more : Bytes) : Refused (packet ++ more) := by
  have longer : packet.length ≤ (packet ++ more).length := by simp
  have same (i : Nat) (inside : i < packet.length) : (packet ++ more).getD i 0 = packet.getD i 0 := List.getD_append _ _ _ _ inside
  rcases refused with ⟨inside, response⟩ | ⟨inside, count⟩ | ⟨i, member, inside, count⟩
  · exact .inl ⟨Nat.lt_of_lt_of_le inside longer, by rwa [same 2 inside]⟩
  · refine .inr (.inl ⟨Nat.lt_of_lt_of_le inside longer, ?_⟩)
    rwa [same 4 (Nat.lt_of_succ_lt inside), same 5 inside]
  · exact .inr (.inr ⟨i, member, Nat.lt_of_lt_of_le inside longer, by rwa [same i inside]⟩)

theorem sniff_query_refused (refused : Refused packet) (length : Nat) :
    sniffQuery unpack metadata length packet = .error .invalid := by
  rw [sniffQuery]
  rcases refused with response | empty | counted
  · rw [if_pos response]
  · rw [if_pos empty, ite_self]
  · rw [if_pos counted, ite_self, ite_self]

theorem sniff_query_passes (passes : ¬ Refused packet) (length : Nat) :
    sniffQuery unpack metadata length packet = if packet.length < length then .error (onEnd none (packet.length == 0))
      else querySniffed metadata (domainNameQuery packet unpack) := by
  grind [Refused, sniffQuery]

def queryOf (length : Nat) (rest : Bytes) : Sniffed :=
  if length < 12 then .error .invalid else sniffQuery unpack metadata length (rest.take length)

def dnsOf (stream : Bytes) : Sniffed := do
  let read ← (Decoder.take 2 onEnd Decoder.done : Decoder StreamError Bytes).run 0 none stream
  queryOf unpack metadata (beNat read.1) read.2

theorem query_stable (length : Nat) (rest more : Bytes) :
    Waits (queryOf unpack metadata length rest) ∨
      queryOf unpack metadata length (rest ++ more) = queryOf unpack metadata length rest := by
  rw [queryOf, queryOf]
  by_cases short : length < 12
  · simp [short]
  rw [if_neg short, if_neg short]
  by_cases all : length ≤ rest.length
  · grind
  have partly : rest.take length = rest := List.take_of_length_le (Nat.le_of_lt (Nat.not_le.mp all))
  rw [List.take_append, partly]
  by_cases refused : Refused rest
  · rw [sniff_query_refused unpack metadata refused, sniff_query_refused unpack metadata (refused_append refused _)]
    exact .inr rfl
  rw [sniff_query_passes unpack metadata refused, if_pos (Nat.not_le.mp all)]
  exact .inl ⟨_, rfl⟩

theorem dns_stable (stream more : Bytes) :
    Waits (dnsOf unpack metadata stream) ∨ dnsOf unpack metadata (stream ++ more) = dnsOf unpack metadata stream := by
  have asks : (Decoder.take 2 onEnd Decoder.done : Decoder StreamError Bytes).AsksFor StreamError.NeedsMore :=
    ⟨fun _ _ => ⟨_, rfl⟩, fun _ => trivial⟩
  rcases @Decoder.run_append _ _ _ 0 none _ asks stream more with ⟨err, ⟨cause, rfl⟩, failed⟩ | same
  · exact .inl ⟨cause, by rw [dnsOf, failed]; rfl⟩
  rw [dnsOf, dnsOf, same]
  cases (Decoder.take 2 onEnd Decoder.done : Decoder StreamError Bytes).run 0 none stream with
  | ok => exact query_stable unpack metadata _ _ _
  | error | panic | running => exact .inr rfl

theorem dns_eq (reader : List Bytes) : streamDomainNameQuery unpack metadata reader = dnsOf unpack metadata reader.flatten := by
  rw [streamDomainNameQuery, dnsOf, ← run_pieces]
  cases (Decoder.take 2 onEnd Decoder.done : Decoder StreamError Bytes).runPieces 0 reader with
  | ok read => simp [ok_bind, queryOf, read_pieces_bytes]
  | error | panic | running => rfl

end

section
variable (metadata : StreamMetadata)

theorem handshake_stable {protocol longer : Bytes} (grows : protocol <+: longer) (bounded : longer.length ≤ 19) :
    Waits (handshakeSniffed metadata protocol) ∨ handshakeSniffed metadata longer = handshakeSniffed metadata protocol := by
  obtain ⟨more, rfl⟩ := grows
  rw [List.length_append] at bounded
  by_cases matching : protocol = header.take protocol.length
  · by_cases all : protocol.length < 19
    · left
      rw [handshakeSniffed, if_neg (not_not.mpr matching)]
      split
      · exact ⟨_, rfl⟩
      · exact ⟨_, rfl⟩
    have nothing : more = [] := List.eq_nil_of_length_eq_zero (by omega)
    rw [nothing, List.append_nil]
    exact .inr rfl
  have still : protocol ++ more ≠ header.take (protocol ++ more).length := by
    intro same
    have front := congrArg (List.take protocol.length) same
    grind
  grind [handshakeSniffed]

theorem torrent_cases (reader : List Bytes) :
    (reader.flatten = [] ∧ Waits (bitTorrent metadata reader)) ∨
      ∃ first stream protocol, reader.flatten = first :: stream ∧ protocol <+: stream ∧ protocol.length ≤ 19 ∧
        bitTorrent metadata reader = if first ≠ 19 then .error .invalid else handshakeSniffed metadata protocol := by
  have bytes := read_pieces_bytes 1 reader
  have rest := read_pieces_rest 1 reader
  cases whole : reader.flatten with
  | nil =>
    refine .inl ⟨rfl, some .eof, ?_⟩
    rw [whole] at bytes
    rw [bitTorrent]
    generalize readPieces 1 reader = read at bytes
    obtain ⟨_, left⟩ := read
    dsimp only at bytes
    simp [bytes]
  | cons first stream =>
    rw [bitTorrent]
    generalize readPieces 1 reader = read at bytes rest
    obtain ⟨_, left⟩ := read
    obtain ⟨beginning, bounded, _⟩ := read_once_spec 19 (by decide) left
    grind

variable {reader longer : List Bytes}

theorem torrent_grown (grown : Grown reader longer) :
    Waits (bitTorrent metadata reader) ∨ bitTorrent metadata longer = bitTorrent metadata reader := by
  rcases torrent_cases metadata reader with ⟨_, waits⟩ | ⟨first, stream, _, whole, _⟩
  · exact .inl waits
  have enough : 1 ≤ reader.flatten.length := by simp [whole]
  obtain ⟨same, left⟩ := read_pieces_grown 1 enough grown
  rw [bitTorrent, bitTorrent]
  generalize readPieces 1 reader = read at same left
  generalize readPieces 1 longer = again at same left
  obtain ⟨_, _⟩ := read
  obtain ⟨front', rest'⟩ := again
  subst same
  cases front' with
  | nil => exact .inr rfl
  | cons => grind [handshake_stable, read_once_grown, read_once_spec]

end

-- If the sniffer succeeds on the whole, then it says the same or waits on the
-- part; if it fails on the part, then it fails on the whole.
structure Consistent (whole part : Sniffed) : Prop where
  success : ∀ sniffed, whole = .ok sniffed → Waits part ∨ part = .ok sniffed
  failure : ∀ err, part = .error err → ¬ err.NeedsMore → ∃ other, whole = .error other

variable {whole part : Sniffed}

theorem consistent_of_stable (stable : Waits part ∨ whole = part) : Consistent whole part := by
  rcases stable with ⟨cause, rfl⟩ | rfl
  · refine ⟨fun _ _ => .inl ⟨cause, rfl⟩, ?_⟩
    rintro err same other
    cases same
    exact absurd ⟨cause, rfl⟩ other
  · exact ⟨fun _ same => .inr same, fun err same _ => ⟨err, same⟩⟩

theorem consistent_of_waits (waits : Waits whole) : Consistent whole part := by
  obtain ⟨_, rfl⟩ := waits
  exact ⟨fun _ same => by contradiction, fun _ _ _ => ⟨_, rfl⟩⟩

section
variable {stream more : Bytes}

theorem ssh_of_start (start : sshPrefix <+: stream) : sshOf stream = .ok ⟨"ssh", (lineOf stream).drop 8⟩ := by
  obtain ⟨tail, rfl⟩ := start
  have long : ¬ (sshPrefix ++ tail).length < 8 := by
    rw [List.length_append]
    exact Nat.not_lt.mpr (Nat.le_add_right 8 _)
  have whole : sshPrefix.take (sshPrefix ++ tail).length = sshPrefix := List.take_of_length_le (Nat.not_lt.mp long)
  have front : (sshPrefix ++ tail).take 8 = sshPrefix := rfl
  rw [sshOf, if_neg long, whole, if_neg (not_not.mpr front)]

theorem ssh_stable (line : sshPrefix <+: stream ++ more → 8 ≤ stream.length → lineOf stream = lineOf (stream ++ more)) :
    Waits (sshOf stream) ∨ sshOf (stream ++ more) = sshOf stream := by
  by_cases short : stream.length < 8
  · have part : stream.take 8 = stream := List.take_of_length_le (Nat.le_of_lt short)
    by_cases matching : stream = sshPrefix.take stream.length
    · refine .inl ⟨some .eof, ?_⟩
      rw [sshOf, part, if_neg (not_not.mpr matching), if_pos short]
    have still : (stream ++ more).take 8 ≠ sshPrefix.take (stream ++ more).length := by
      intro same
      have front := congrArg (List.take stream.length) same
      rw [List.take_take, List.take_take, Nat.min_eq_left (Nat.le_of_lt short), List.take_left, List.length_append,
        Nat.min_eq_left (Nat.le_add_right _ _)] at front
      exact matching front
    right
    rw [sshOf, sshOf, part, if_pos still, if_pos matching]
  have long : 8 ≤ stream.length := Nat.not_lt.mp short
  have front : (stream ++ more).take 8 = stream.take 8 := by grind
  right
  by_cases same : stream.take 8 = sshPrefix
  · have start : sshPrefix <+: stream := by grind
    have further : sshPrefix <+: stream ++ more := by grind
    rw [ssh_of_start start, ssh_of_start further, line further long]
  have whole : sshPrefix.take stream.length = sshPrefix := List.take_of_length_le long
  have whole' : sshPrefix.take (stream ++ more).length = sshPrefix := by grind
  rw [sshOf, sshOf, front, whole, whole', if_pos same, if_pos same]

theorem ssh_consistent_iff : Consistent (sshOf (stream ++ more)) (sshOf stream) ↔
      (sshPrefix <+: stream ++ more → 8 ≤ stream.length → lineOf stream = lineOf (stream ++ more)) := by
  constructor
  · intro consistent further long
    have start : sshPrefix <+: stream := List.prefix_of_prefix_length_le further (List.prefix_append stream more) long
    rw [ssh_of_start start, ssh_of_start further] at consistent
    rcases consistent.success _ rfl with ⟨_, waits⟩ | same
    · contradiction
    obtain ⟨tail, rfl⟩ := start
    obtain ⟨rest, line⟩ := line_of_ssh tail
    obtain ⟨rest', line'⟩ := line_of_ssh (tail ++ more)
    rw [List.append_assoc, line, line'] at same
    rw [List.append_assoc, line, line']
    have equal : rest = rest' := congrArg StreamMetadata.client (Outcome.ok.inj same)
    rw [equal]
  intro line
  exact consistent_of_stable (ssh_stable line)

end

variable {whole part : List Bytes}

theorem torrent_consistent (metadata : StreamMetadata) (cut : part.flatten <+: whole.flatten) :
    Consistent (bitTorrent metadata whole) (bitTorrent metadata part) := by
  rcases torrent_cases metadata part with ⟨_, waits⟩ | ⟨first, stream, protocol, front, grows, bounded, sniffed⟩
  · exact consistent_of_stable (.inl waits)
  rcases torrent_cases metadata whole with ⟨_, waits⟩ | ⟨first', stream', protocol', front', grows', bounded', sniffed'⟩
  · grind
  rw [front, front', List.cons_prefix_cons] at cut
  obtain ⟨rfl, cut⟩ := cut
  rw [sniffed, sniffed']
  split
  · exact consistent_of_stable (.inr rfl)
  rcases List.prefix_or_prefix_of_prefix (grows.trans cut) grows' with longer | shorter
  · grind [consistent_of_stable, handshake_stable]
  · grind [handshake_stable, consistent_of_waits, consistent_of_stable]

def Settled (sniffer : StreamSniffer) (whole part : Bytes) : Prop :=
  sniffer = .ssh → sshPrefix <+: whole → sshPrefix.length ≤ part.length → lineOf part = lineOf whole

-- A line that ends within the buffer does not change with what follows.
theorem settled_of_line_end {part : Bytes} (newline : (part.take bufferSize).contains 10 = true) (more : Bytes)
    (sniffer : StreamSniffer) : Settled sniffer (part ++ more) part := by
  intro _ _ _
  obtain ⟨still, first⟩ := first_line_append newline (more.take (bufferSize - part.length))
  rw [lineOf, lineOf, if_pos newline, List.take_append, if_pos still, first]

section
variable (unpack : Bytes → Except UnpackError Msg) (metadata : StreamMetadata) (sniffer : StreamSniffer)

theorem consistent_iff (cut : part.flatten <+: whole.flatten) :
    Consistent (sniffer.sniff unpack metadata whole) (sniffer.sniff unpack metadata part) ↔
      Settled sniffer whole.flatten part.flatten := by
  cases sniffer with
  | ssh =>
    obtain ⟨more, same⟩ := cut
    rw [sniff, sniff, ssh_eq, ssh_eq, ← same, ssh_consistent_iff]
    exact ⟨fun line _ => line, fun settled => settled rfl⟩
  | rdp =>
    obtain ⟨more, same⟩ := cut
    rw [sniff, sniff, rdp_eq, rdp_eq, ← same]
    exact iff_of_true (consistent_of_stable (rdp_stable metadata _ _)) (fun other => by contradiction)
  | bitTorrent => exact iff_of_true (torrent_consistent metadata cut) (fun other => by contradiction)
  | streamDomainNameQuery =>
    obtain ⟨_, same⟩ := cut
    rw [sniff, sniff, dns_eq, dns_eq, ← same]
    exact iff_of_true (consistent_of_stable (dns_stable unpack metadata _ _)) (fun other => by contradiction)

theorem sniff_stable (grown : Grown reader longer) (settled : Settled sniffer longer.flatten reader.flatten) :
    Waits (sniffer.sniff unpack metadata reader) ∨ sniffer.sniff unpack metadata longer = sniffer.sniff unpack metadata reader := by
  obtain ⟨_, same⟩ := grown.flatten
  cases sniffer with
  | ssh =>
    rw [sniff, sniff, ssh_eq, ssh_eq, ← same]
    rw [← same] at settled
    exact ssh_stable (settled rfl)
  | rdp =>
    simpa [sniff, sniff, rdp_eq, rdp_eq, ← same] using rdp_stable metadata _ _
  | bitTorrent => exact torrent_grown metadata grown
  | streamDomainNameQuery =>
    simpa [sniff, sniff, dns_eq, dns_eq, ← same] using dns_stable unpack metadata _ _

def reported (metadata : StreamMetadata) : Sniffed → Outcome Empty (StreamMetadata × Option PeekError)
  | .ok sniffed => .ok (sniffed, none)
  | .error err => .ok (metadata, some (.sniff [err]))
  | .panic => .panic
  | .running => .running

theorem peek_after_cons (buffers later : List Bytes) (held segment : Bytes) (errors : List StreamError) :
    peekAfter unpack metadata buffers [sniffer] held errors (segment :: later) =
      match sniffer.sniff unpack metadata (buffers ++ [held ++ segment]) with
      | .error err =>
        if err.NeedsMore then peekAfter unpack metadata buffers [sniffer] (held ++ segment) [err] later
        else .ok (metadata, some (.sniff [err]))
      | other => reported metadata other := by
  rw [peekAfter, trySniffers]
  cases sniffer.sniff unpack metadata (buffers ++ [held ++ segment]) with
  | ok | panic | running => rfl
  | error => simp [trySniffers]

theorem peek_after_report (buffers : List Bytes) (segments : List Bytes) (some_segment : segments ≠ []) (held : Bytes)
    (errors : List StreamError) (settled : ∀ count, Settled sniffer (buffers ++ [held ++ segments.flatten]).flatten
      (buffers ++ [held ++ (segments.take count).flatten]).flatten) :
    peekAfter unpack metadata buffers [sniffer] held errors segments =
      reported metadata (sniffer.sniff unpack metadata (buffers ++ [held ++ segments.flatten])) := by
  induction segments generalizing held errors with
  | nil => contradiction
  | cons segment later ih =>
    rw [peek_after_cons]
    by_cases last : later = []
    · subst last
      rw [List.flatten_cons, List.flatten_nil, List.append_nil]
      cases sniffer.sniff unpack metadata (buffers ++ [held ++ segment]) with
      | ok | panic | running => rfl
      | error => exact ite_self _
    have grown : Grown (buffers ++ [held ++ segment]) (buffers ++ [held ++ (segment :: later).flatten]) :=
      ⟨buffers, held ++ segment, later.flatten, rfl, by rw [List.flatten_cons, List.append_assoc]⟩
    have here : Settled sniffer (buffers ++ [held ++ (segment :: later).flatten]).flatten (buffers ++ [held ++ segment]).flatten := by
      have first := settled 1
      rwa [List.take_succ_cons, List.take_zero, List.flatten_singleton] at first
    have stable := sniff_stable unpack metadata sniffer grown here
    cases said : sniffer.sniff unpack metadata (buffers ++ [held ++ segment]) with
    | error err =>
      by_cases more : err.NeedsMore
      · have tail := ih last (held ++ segment) [err] (fun count => by
          have further := settled (count + 1)
          rwa [List.take_succ_cons, List.flatten_cons, List.flatten_cons, ← List.append_assoc, ← List.append_assoc] at further)
        simp [more, tail]
      rw [stable.resolve_left (fun ⟨cause, waits⟩ => more ⟨cause, error.inj (said.symm.trans waits)⟩), said]
      exact if_neg more
    | ok | panic | running =>
      rw [stable.resolve_left (fun ⟨cause, waits⟩ => by rw [said] at waits; contradiction), said]

theorem sniffers_under_segmentation :
    (∀ whole part : List Bytes, part.flatten <+: whole.flatten →
      (Consistent (sniffer.sniff unpack metadata whole) (sniffer.sniff unpack metadata part) ↔
        Settled sniffer whole.flatten part.flatten)) ∧
    ∀ buffers segments : List Bytes, segments ≠ [] →
      (∀ count, Settled sniffer (buffers ++ [segments.flatten]).flatten (buffers ++ [(segments.take count).flatten]).flatten) →
      peekStream unpack metadata buffers [sniffer] segments =
        reported metadata (sniffer.sniff unpack metadata (buffers ++ [segments.flatten])) := by
  constructor
  · grind [consistent_iff]
  intro buffers segments some_segment settled
  rw [peekStream, if_neg (by simpa using some_segment)]
  exact peek_after_report unpack metadata sniffer buffers segments some_segment [] [] settled

end

theorem sniffers_under_segmentation_example :
    Consistent (StreamSniffer.ssh.sniff unpackHeader {} [sshPrefix ++ [0x61, 10], [0x62]])
        (StreamSniffer.ssh.sniff unpackHeader {} [sshPrefix, [0x61, 10]]) ∧
      peekStream unpackHeader {} [] [.rdp] [[3], [0]] = reported {} (StreamSniffer.rdp.sniff unpackHeader {} [[3, 0]]) := by
  constructor
  · refine ((sniffers_under_segmentation unpackHeader {} .ssh).1 _ _ ⟨[0x62], rfl⟩).mpr ?_
    intro _ _ _
    decide
  · exact (sniffers_under_segmentation unpackHeader {} .rdp).2 [] [[3], [0]] (by decide) (fun _ other => by contradiction)

theorem partial_line_counterexample :
    ssh {} [sshPrefix ++ [0x4f, 0x70, 0x65, 0x6e]] = .ok ⟨"ssh", [0x4f, 0x70, 0x65, 0x6e]⟩ ∧
      ssh {} [sshPrefix ++ [0x4f, 0x70, 0x65, 0x6e, 0x53, 0x53, 0x48, 13, 10]] =
        .ok ⟨"ssh", [0x4f, 0x70, 0x65, 0x6e, 0x53, 0x53, 0x48]⟩ ∧
      ¬ Consistent (ssh {} [sshPrefix ++ [0x4f, 0x70, 0x65, 0x6e, 0x53, 0x53, 0x48, 13, 10]])
        (ssh {} [sshPrefix ++ [0x4f, 0x70, 0x65, 0x6e]]) := by
  have part : ssh {} [sshPrefix ++ [0x4f, 0x70, 0x65, 0x6e]] = .ok ⟨"ssh", [0x4f, 0x70, 0x65, 0x6e]⟩ := by decide
  have whole : ssh {} [sshPrefix ++ [0x4f, 0x70, 0x65, 0x6e, 0x53, 0x53, 0x48, 13, 10]] =
      .ok ⟨"ssh", [0x4f, 0x70, 0x65, 0x6e, 0x53, 0x53, 0x48]⟩ := by decide
  refine ⟨part, whole, fun consistent => ?_⟩
  rcases consistent.success _ whole with ⟨cause, waits⟩ | same
  · simp_all
  · simp_all

end OtunKernel.Sniff
