import OtunKernel.Rule.Item

namespace OtunKernel.Route

open Rule

abbrev Bytes := List UInt8

inductive Fault where
  | needMoreData
  | other (message : String)
deriving DecidableEq, Repr

-- An error is the list of the errors it joins; the empty list is no error.
abbrev SniffError := List Fault

def needsMoreData (err : SniffError) : Bool := err.contains .needMoreData

-- extra stands for the fields that only rules, other actions and the sniffers
-- themselves use.
structure RouteContext (α : Type) extends InboundContext where
  inboundType : String := ""
  inboundDetour : String := ""
  lastInbound : String := ""
  snifferNames : List String := []
  sniffError : SniffError := []
  extra : α

abbrev Sniffer (α : Type) := RouteContext α → Bytes → SniffError × RouteContext α

structure RuleActionSniff (α : Type) where
  snifferNames : List String := []
  streamSniffers : List (Sniffer α) := []
  packetSniffers : List (Sniffer α) := []
  overrideDestination : Bool := false

-- The sniffers of an action that names none, the sniffer for the rest of a
-- fragmented client hello, and the test for domain names.
structure Sniffers (α : Type) where
  stream : List (Sniffer α)
  packet : List (Sniffer α)
  quicClientHello : Sniffer α
  isDomainName : String → Bool

variable {α : Type}

def trySniffers : List (Sniffer α) → Bytes → RouteContext α → SniffError → SniffError × RouteContext α
  | [], _, metadata, sniffError => (sniffError, metadata)
  | sniffer :: sniffers, data, metadata, sniffError =>
    match sniffer metadata data with
    | ([], metadata) => ([], metadata)
    | (err, metadata) => trySniffers sniffers data metadata (sniffError ++ err)

def peekPacket (sniffers : List (Sniffer α)) (data : Bytes) (metadata : RouteContext α) : SniffError × RouteContext α :=
  trySniffers sniffers data metadata []

-- One round of PeekStream: the connection does not take the deadline, or the
-- read returns, where bytes may come with an error.
inductive Attempt where
  | noDeadline (err : String)
  | read (bytes : Bytes) (err : Option String)

def Attempt.bytes : Attempt → Bytes
  | .noDeadline _ => []
  | .read bytes _ => bytes

def streamBytes (attempts : List Attempt) : Bytes := attempts.flatMap Attempt.bytes

structure Peeked (α : Type) where
  err : SniffError
  metadata : RouteContext α
  buffer : Bytes
  rest : List Attempt

def readFailure (sniffError : Option SniffError) (err : String) : SniffError :=
  sniffError.getD [.other ("read payload: " ++ err)]

-- sniffError is none in the first round. When the client sends no more, the
-- read runs into the deadline.
def peekStream (sniffers : List (Sniffer α)) (buffers : List Bytes) :
    List Attempt → RouteContext α → Bytes → Option SniffError → Peeked α
  | [], metadata, buffer, sniffError => ⟨readFailure sniffError "i/o timeout", metadata, buffer, []⟩
  | .noDeadline err :: rest, metadata, buffer, _ => ⟨[.other ("set read deadline: " ++ err)], metadata, buffer, rest⟩
  | .read bytes (some err) :: rest, metadata, buffer, sniffError =>
    ⟨readFailure sniffError err, metadata, buffer ++ bytes, rest⟩
  | .read bytes none :: rest, metadata, buffer, _ =>
    match trySniffers sniffers (buffers.flatten ++ (buffer ++ bytes)) metadata [] with
    | (sniffError, metadata) =>
      if needsMoreData sniffError then peekStream sniffers buffers rest metadata (buffer ++ bytes) (some sniffError)
      else ⟨sniffError, metadata, buffer ++ bytes, rest⟩

def sniffSkip (metadata : RouteContext α) : Bool :=
  [25, 465, 587, 143, 993, 110, 995].contains metadata.destination.port

-- The tests before anything is read; own are the sniffers of the action for
-- this network and other those for the other one.
def sniffSkipped (action : RuleActionSniff α) (own other : List (Sniffer α)) (metadata : RouteContext α) : Bool :=
  sniffSkip metadata || metadata.protocol != "" || (own.isEmpty && !other.isEmpty) ||
    (metadata.snifferNames == action.snifferNames && !metadata.sniffError.isEmpty && !needsMoreData metadata.sniffError)

def overrideDestination (sniffers : Sniffers α) (action : RuleActionSniff α) (err : SniffError)
    (metadata : RouteContext α) : RouteContext α :=
  if err.isEmpty && action.overrideDestination && sniffers.isDomainName metadata.domain then
    { metadata with destination := { fqdn := metadata.domain, port := metadata.destination.port } }
  else metadata

structure StreamSniffed (α : Type) where
  buffer : Option Bytes := none
  metadata : RouteContext α
  rest : List Attempt

def actionSniffStream (sniffers : Sniffers α) (action : RuleActionSniff α) (metadata : RouteContext α)
    (inputBuffers : List Bytes) (inputConn : List Attempt) : StreamSniffed α :=
  if sniffSkipped action action.streamSniffers action.packetSniffers metadata then
    { metadata := metadata, rest := inputConn }
  else
    let streamSniffers := if action.streamSniffers.isEmpty then sniffers.stream else action.streamSniffers
    let peeked := peekStream streamSniffers inputBuffers inputConn metadata [] none
    let metadata := { peeked.metadata with snifferNames := action.snifferNames, sniffError := peeked.err }
    { buffer := if peeked.buffer.isEmpty then none else some peeked.buffer
      metadata := overrideDestination sniffers action peeked.err metadata
      rest := peeked.rest }

-- id is the identity of the struct: the same one may stand in a list twice.
structure PacketBuffer where
  id : Nat
  buffer : Bytes
  destination : Socksaddr
deriving DecidableEq

def PacketBuffer.packet (packet : PacketBuffer) : Bytes × Socksaddr := (packet.buffer, packet.destination)

inductive Arrival where
  | packet (buffer : Bytes) (destination : Socksaddr)
  | timeout
  | failed (err : String)
  | cancelled (err : String)

def Arrival.packet? : Arrival → Option (Bytes × Socksaddr)
  | .packet buffer destination => some (buffer, destination)
  | _ => none

def arrivedPackets (arrivals : List Arrival) : List (Bytes × Socksaddr) := arrivals.filterMap Arrival.packet?

def peekOne (sniffers : Sniffers α) (action : RuleActionSniff α) (metadata : RouteContext α) (data : Bytes) :
    SniffError × RouteContext α :=
  let quicMoreData := metadata.snifferNames == action.snifferNames && needsMoreData metadata.sniffError
  let packetSniffers := if action.packetSniffers.isEmpty then sniffers.packet else action.packetSniffers
  match peekPacket (if quicMoreData then [sniffers.quicClientHello] else packetSniffers) data metadata with
  | (err, metadata) => (err, { metadata with snifferNames := action.snifferNames, sniffError := err })

-- The loop over the packets read before. The error is the last packet's, none
-- without packets; the flag says that all of them need more data, so that the
-- next packet has to be read.
def peekHeld (sniffers : Sniffers α) (action : RuleActionSniff α) :
    List PacketBuffer → RouteContext α → SniffError → Bool × SniffError × RouteContext α
  | [], metadata, err => (true, err, metadata)
  | packet :: packets, metadata, _ =>
    match peekOne sniffers action metadata packet.buffer with
    | (err, metadata) =>
      if needsMoreData err then peekHeld sniffers action packets metadata err else (false, err, metadata)

structure PacketsRead (α : Type) where
  err : SniffError
  fatalErr : Option String := none
  metadata : RouteContext α
  packetBuffers : List PacketBuffer
  rest : List Arrival
  nextId : Nat

def readPackets (sniffers : Sniffers α) (action : RuleActionSniff α) :
    List Arrival → RouteContext α → List PacketBuffer → Nat → PacketsRead α
  | [], metadata, packetBuffers, nextId =>
    { err := [.other "i/o timeout"], metadata := metadata, packetBuffers := packetBuffers, rest := [], nextId := nextId }
  | .timeout :: rest, metadata, packetBuffers, nextId =>
    { err := [.other "i/o timeout"], metadata := metadata, packetBuffers := packetBuffers, rest := rest, nextId := nextId }
  | .failed err :: rest, metadata, packetBuffers, nextId =>
    { err := [.other err], fatalErr := some err, metadata := metadata, packetBuffers := packetBuffers, rest := rest,
      nextId := nextId }
  | .cancelled err :: rest, metadata, packetBuffers, nextId =>
    { err := [.other err], fatalErr := some err, metadata := metadata, packetBuffers := packetBuffers, rest := rest,
      nextId := nextId }
  | .packet buffer destination :: rest, metadata, packetBuffers, nextId =>
    match peekOne sniffers action metadata buffer with
    | (err, metadata) =>
      let read := packetBuffers ++ [⟨nextId, buffer, destination⟩]
      if needsMoreData err then readPackets sniffers action rest metadata read (nextId + 1)
      else { err := err, metadata := metadata, packetBuffers := read, rest := rest, nextId := nextId + 1 }

-- The returned list starts with the packets that were read before, unless one
-- of them settles the sniff.
def actionSniffPacket (sniffers : Sniffers α) (action : RuleActionSniff α) (metadata : RouteContext α)
    (inputPacketBuffers : List PacketBuffer) (inputPacketConn : List Arrival) (nextId : Nat) : PacketsRead α :=
  let unread : PacketsRead α :=
    { err := [], metadata := metadata, packetBuffers := [], rest := inputPacketConn, nextId := nextId }
  if sniffSkipped action action.packetSniffers action.streamSniffers metadata then unread
  else
    match peekHeld sniffers action inputPacketBuffers metadata [] with
    | (false, err, metadata) => { unread with err := err, metadata := overrideDestination sniffers action err metadata }
    | (true, _, metadata) =>
      let read := readPackets sniffers action inputPacketConn metadata inputPacketBuffers nextId
      { read with metadata := overrideDestination sniffers action read.err read.metadata }

section
variable {sniffers : List (Sniffer α)} {buffers : List Bytes}

theorem peek_stream_bytes (attempts : List Attempt) (metadata : RouteContext α) (buffer : Bytes) (sniffError : Option SniffError) :
    (peekStream sniffers buffers attempts metadata buffer sniffError).buffer ++
        streamBytes (peekStream sniffers buffers attempts metadata buffer sniffError).rest = buffer ++ streamBytes attempts := by
  fun_induction peekStream sniffers buffers attempts metadata buffer sniffError with
  | case1 | case2 => rfl
  | case3 bytes _ rest _ buffer | case5 bytes rest _ buffer => exact List.append_assoc buffer bytes (streamBytes rest)
  | case4 bytes rest _ buffer _ _ _ _ _ ih =>
    rw [ih]
    exact List.append_assoc buffer bytes (streamBytes rest)

theorem action_sniff_stream_bytes (sniffers : Sniffers α) (action : RuleActionSniff α) (metadata : RouteContext α)
    (buffers : List Bytes) (attempts : List Attempt) :
    ((actionSniffStream sniffers action metadata buffers attempts).buffer.getD []) ++
      streamBytes (actionSniffStream sniffers action metadata buffers attempts).rest = streamBytes attempts := by
  unfold actionSniffStream
  split
  · rfl
  · grind [peek_stream_bytes]

def readsNothing : List Attempt → Bool
  | [] => true
  | .noDeadline _ :: _ => true
  | .read bytes err :: _ => bytes.isEmpty && err.isSome

theorem action_sniff_stream_quiet (sniffers : Sniffers α) (action : RuleActionSniff α) (metadata : RouteContext α)
    (buffers : List Bytes) (attempts : List Attempt)
    (quiet : sniffSkipped action action.streamSniffers action.packetSniffers metadata = true ∨ readsNothing attempts = true) :
    (actionSniffStream sniffers action metadata buffers attempts).buffer = none := by
  unfold actionSniffStream
  split
  · rfl
  rename_i reading
  have nothing := quiet.resolve_left reading
  match attempts, nothing with
  | [], _ | .noDeadline _ :: _, _ | .read [] (some _) :: _, _ => rfl

end

section
variable {sniffers : Sniffers α} {action : RuleActionSniff α}

theorem read_packets_arrived (sniffers : Sniffers α) (action : RuleActionSniff α) (arrivals : List Arrival)
    (metadata : RouteContext α) (held : List PacketBuffer) (nextId : Nat) :
    ∃ read, (readPackets sniffers action arrivals metadata held nextId).packetBuffers = held ++ read ∧ arrivedPackets arrivals =
        read.map PacketBuffer.packet ++ arrivedPackets (readPackets sniffers action arrivals metadata held nextId).rest := by
  fun_induction readPackets sniffers action arrivals metadata held nextId with
  | case1 _ held | case2 _ _ held | case3 _ _ _ held | case4 _ _ _ held => exact ⟨[], (List.append_nil held).symm, rfl⟩
  | case5 buffer destination _ _ _ nextId _ _ _ _ _ ih =>
    obtain ⟨later, appended, arrived⟩ := ih
    refine ⟨⟨nextId, buffer, destination⟩ :: later, ?_, ?_⟩
    · rw [appended, List.append_assoc, List.singleton_append]
    · exact congrArg (List.cons (buffer, destination)) arrived
  | case6 buffer destination _ _ _ nextId =>
    exact ⟨[⟨nextId, buffer, destination⟩], rfl, rfl⟩

theorem read_packets_stop (arrivals : List Arrival) (metadata : RouteContext α) (held : List PacketBuffer) (nextId : Nat)
    (stop : arrivals.head?.bind Arrival.packet? = none) :
    (readPackets sniffers action arrivals metadata held nextId).packetBuffers = held := by
  cases arrivals with
  | nil => rfl
  | cons arrival =>
    cases arrival with
    | packet => contradiction
    | timeout | failed | cancelled => rfl

def NeedsOne (sniffers : Sniffers α) (action : RuleActionSniff α) (metadata : RouteContext α) :
    List PacketBuffer → List Arrival → Prop
  | [], .packet buffer _ :: next =>
    needsMoreData (peekOne sniffers action metadata buffer).1 = true → next.head?.bind Arrival.packet? = none
  | [], _ => True
  | packet :: _, _ => needsMoreData (peekOne sniffers action metadata packet.buffer).1 = false

theorem read_packets_one (arrivals : List Arrival) (metadata : RouteContext α) (nextId : Nat)
    (one : NeedsOne sniffers action metadata [] arrivals) :
    (readPackets sniffers action arrivals metadata [] nextId).packetBuffers.length ≤ 1 := by
  cases first : arrivals.head?.bind Arrival.packet? with
  | none =>
    rw [read_packets_stop arrivals metadata [] nextId first]
    exact Nat.zero_le 1
  | some =>
    match arrivals, first with
    | .packet buffer destination :: next, _ =>
      rw [readPackets]
      split
      rename_i sniffed peeked
      rw [NeedsOne, peeked] at one
      split
      · rename_i more
        rw [read_packets_stop next sniffed _ _ (one more)]
        exact Nat.le_refl 1
      · exact Nat.le_refl 1

theorem action_sniff_packet_one (metadata : RouteContext α) (held : List PacketBuffer) (arrivals : List Arrival) (nextId : Nat)
    (single : held.length ≤ 1) (one : sniffSkipped action action.packetSniffers action.streamSniffers metadata = true ∨
      NeedsOne sniffers action metadata held arrivals) :
    (held ++ (actionSniffPacket sniffers action metadata held arrivals nextId).packetBuffers).length ≤ 1 ∧
      (held ++ (actionSniffPacket sniffers action metadata held arrivals nextId).packetBuffers).map PacketBuffer.packet ++
        arrivedPackets (actionSniffPacket sniffers action metadata held arrivals nextId).rest =
      held.map PacketBuffer.packet ++ arrivedPackets arrivals := by
  unfold actionSniffPacket
  split
  · simp_all
  rename_i reading
  have enough := one.resolve_left reading
  match held, single with
  | [], _ =>
    obtain ⟨_, appended, arrived⟩ := read_packets_arrived sniffers action arrivals metadata [] nextId
    simp only [peekHeld, List.nil_append] at appended ⊢
    refine ⟨read_packets_one arrivals metadata nextId enough, ?_⟩
    simp [appended, arrived]
  | [packet], _ =>
    have settled : (peekHeld sniffers action [packet] metadata []).1 = false := by grind [peekHeld, NeedsOne]
    grind

end
end OtunKernel.Route
