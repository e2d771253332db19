import OtunKernel.Route.Sniff

namespace OtunKernel.Route

open Net Rule

inductive RejectMethod where
  | default
  | drop
  | reply

-- The options and the resolve action change the metadata only, in ways that
-- are left open here.
inductive RuleAction (α : Type) where
  | route (outbound : String) (options : RouteContext α → RouteContext α)
  | routeOptions (options : RouteContext α → RouteContext α)
  | bypass (outbound : String) (options : RouteContext α → RouteContext α)
  | direct
  | reject (method : RejectMethod)
  | hijackDNS
  | sniff (action : RuleActionSniff α)
  | resolve (resolve : RouteContext α → Except String (RouteContext α))

structure RouteRule (α : Type) where
  matching : RouteContext α → Bool × RouteContext α
  action : RuleAction α

inductive Selected where
  | outbound (tag : String)
  | reject (method : RejectMethod)
  | hijackDNS

-- conn is the connection with what was read from it.
structure MatchState (α σ : Type) where
  metadata : RouteContext α
  conn : σ

abbrev ConnSniffer (α σ : Type) := RuleActionSniff α → RouteContext α → σ → Option String × RouteContext α × σ

inductive Progress (α σ : Type) where
  | next (state : MatchState α σ)
  | selected (rule : Selected) (state : MatchState α σ)
  | fatal (err : String)

def Progress.reached {α σ : Type} : Progress α σ → Option (MatchState α σ)
  | .next state => some state
  | .selected _ state => some state
  | .fatal _ => none

section
variable {α σ : Type}

def matchMetadata (state : MatchState α σ) (rule : RouteRule α) : Bool × RouteContext α :=
  rule.matching { state.metadata with toInboundContext := state.metadata.resetRuleCache }

def ruleStep (sniff : ConnSniffer α σ) (state : MatchState α σ) (rule : RouteRule α) : Progress α σ :=
  match matchMetadata state rule with
  | (false, metadata) => .next { state with metadata := metadata }
  | (true, metadata) =>
    match rule.action with
    | .route outbound options => .selected (.outbound outbound) { state with metadata := options metadata }
    | .routeOptions options => .next { state with metadata := options metadata }
    | .bypass outbound options =>
      if outbound = "" then .next { state with metadata := metadata }
      else .selected (.outbound outbound) { state with metadata := options metadata }
    | .direct => .next { state with metadata := metadata }
    | .reject method => .selected (.reject method) { state with metadata := metadata }
    | .hijackDNS => .selected .hijackDNS { state with metadata := metadata }
    | .sniff action =>
      match sniff action metadata state.conn with
      | (some err, _, _) => .fatal err
      | (none, metadata, conn) => .next ⟨metadata, conn⟩
    | .resolve resolve =>
      match resolve metadata with
      | .error err => .fatal err
      | .ok metadata => .next { state with metadata := metadata }

def matchRules (sniff : ConnSniffer α σ) :
    List (RouteRule α) → MatchState α σ → Except String (Option Selected × MatchState α σ)
  | [], state => .ok (none, state)
  | rule :: rules, state =>
    match ruleStep sniff state rule with
    | .next state => matchRules sniff rules state
    | .selected selected state => .ok (some selected, state)
    | .fatal err => .error err

def Along (sniff : ConnSniffer α σ)
    (allowed : MatchState α σ → RouteRule α → Prop) : List (RouteRule α) → MatchState α σ → Prop
  | [], _ => True
  | rule :: rules, state =>
    allowed state rule ∧ ∀ next, ruleStep sniff state rule = .next next → Along sniff allowed rules next

variable {sniff : ConnSniffer α σ}

theorem rule_step_conn {state next : MatchState α σ} {rule : RouteRule α}
    (moved : (ruleStep sniff state rule).reached = some next) :
    next.conn = state.conn ∨ ∃ action metadata after, rule.action = .sniff action ∧
      matchMetadata state rule = (true, metadata) ∧ sniff action metadata state.conn = (none, after, next.conn) := by
  revert moved
  fun_cases ruleStep sniff state rule <;> rintro ⟨⟩
  case case10 =>
    rename_i matched _ kind _ _ sniffed
    exact .inr ⟨_, _, _, kind, matched, sniffed⟩
  all_goals exact .inl rfl

variable {allowed : MatchState α σ → RouteRule α → Prop}

-- What every sniff action that is allowed keeps of the connection.
def SniffKeeps (sniff : ConnSniffer α σ) (allowed : MatchState α σ → RouteRule α → Prop) (holds : σ → Prop) : Prop :=
  ∀ state rule action metadata after conn, holds state.conn → allowed state rule → rule.action = .sniff action →
    matchMetadata state rule = (true, metadata) → sniff action metadata state.conn = (none, after, conn) → holds conn

theorem match_rules_invariant {holds : σ → Prop} (kept : SniffKeeps sniff allowed holds)
    (rules : List (RouteRule α)) (state final : MatchState α σ) (selected : Option Selected) (initially : holds state.conn)
    (along : Along sniff allowed rules state) (matched : matchRules sniff rules state = .ok (selected, final)) : holds final.conn := by
  induction rules generalizing state with
  | nil =>
    cases matched
    exact initially
  | cons rule _ ih =>
    have moves : ∀ next, (ruleStep sniff state rule).reached = some next → holds next.conn := by
      intro next moved
      rcases rule_step_conn moved with same | ⟨action, metadata, after, sniffs, accepted, sniffed⟩
      · simp_all
      · exact kept state rule action metadata after next.conn initially along.1 sniffs accepted sniffed
    rw [matchRules] at matched
    split at matched
    · rename_i next stepped
      exact ih next (moves next (by rw [stepped]; rfl)) (along.2 next stepped) matched
    · rename_i chosen next stepped
      cases matched
      exact moves final (by rw [stepped]; rfl)
    · contradiction

theorem along_any (rules : List (RouteRule α)) (state : MatchState α σ) : Along sniff (fun _ _ => True) rules state := by
  induction rules generalizing state with
  | nil => trivial
  | cons _ _ ih => exact ⟨trivial, fun next _ => ih next⟩

end

structure Inbound where
  tcpInjectable : Bool
  udpInjectable : Bool

def Inbound.injectable (inbound : Inbound) : Network → Bool
  | .tcp => inbound.tcpInjectable
  | .udp => inbound.udpInjectable

structure Outbound where
  tag : String
  network : List String

-- prepare is matchRule before its loop: process, neighbour, fakeip and reverse
-- mapping look-ups. The last fields are reserved names of the multiplex and
-- UDP over TCP packages.
structure Router (α : Type) where
  inbound : String → Option Inbound
  outbound : String → Option Outbound
  defaultOutbound : Outbound
  rules : List (RouteRule α)
  sniffers : Sniffers α
  prepare : RouteContext α → Except String (RouteContext α)
  muxDestination : String
  vmessMuxDestination : String
  uotMagicAddress : String
  uotLegacyMagicAddress : String

inductive Routed (δ : Type) where
  | failed (err : String)
  | injected (inbound : String) (delivered : δ)
  | hijacked (delivered : δ)
  | handed (outbound : Outbound) (delivered : δ)

def Routed.delivered {δ : Type} : Routed δ → Option δ
  | .failed _ => none
  | .injected _ delivered => some delivered
  | .hijacked delivered => some delivered
  | .handed _ delivered => some delivered

section
variable {α σ : Type}

def Router.detour (router : Router α) (network : Network) (metadata : RouteContext α) : Except String String :=
  if metadata.lastInbound = metadata.inboundDetour then
    .error ("routing loop on detour: " ++ metadata.inboundDetour)
  else
    match router.inbound metadata.inboundDetour with
    | none => .error ("inbound detour not found: " ++ metadata.inboundDetour)
    | some inbound =>
      if inbound.injectable network then .ok metadata.inboundDetour
      else .error ("inbound detour is not " ++ network.label ++ " injectable: " ++ metadata.inboundDetour)

def Router.reservedDestination (router : Router α) (fqdn : String) : Option String :=
  if fqdn = router.muxDestination then
    some "global multiplex is deprecated since sing-box v1.7.0, enable multiplex in Inbound fields instead."
  else if fqdn = router.vmessMuxDestination then
    some "global multiplex (v2ray legacy) not supported since sing-box v1.7.0."
  else if fqdn = router.uotMagicAddress then some "global UoT not supported since sing-box v1.7.0."
  else if fqdn = router.uotLegacyMagicAddress then some "global UoT (legacy) not supported since sing-box v1.7.0."
  else none

def Router.matchRule (router : Router α) (sniff : ConnSniffer α σ)
    (metadata : RouteContext α) (conn : σ) : Except String (Option Selected × MatchState α σ) :=
  match router.prepare metadata with
  | .error err => .error err
  | .ok prepared => matchRules sniff router.rules ⟨prepared, conn⟩

variable {selected : Option Selected} {metadata : RouteContext α}

theorem match_rule_invariant {router : Router α} {conn : σ} {sniff : ConnSniffer α σ} {final : MatchState α σ} (holds : σ → Prop)
    (matched : router.matchRule sniff metadata conn = .ok (selected, final)) (initially : holds conn)
    (along : ∀ prepared, router.prepare metadata = .ok prepared → Along sniff allowed router.rules ⟨prepared, conn⟩)
    (kept : SniffKeeps sniff allowed holds) : holds final.conn := by
  unfold Router.matchRule at matched
  split at matched
  · contradiction
  rename_i prepared ready
  exact match_rules_invariant kept router.rules ⟨prepared, conn⟩ final selected initially (along prepared ready) matched

inductive Target where
  | outbound (outbound : Outbound)
  | hijackDNS

def Router.target (router : Router α) (network : Network) : Option Selected → Except String Target
  | none =>
    if router.defaultOutbound.network.contains network.name then .ok (.outbound router.defaultOutbound)
    else
      match network with
      | .tcp => .error ("TCP is not supported by default outbound: " ++ router.defaultOutbound.tag)
      | .udp => .error ("UDP is not supported by outbound: " ++ router.defaultOutbound.tag)
  | some (.outbound tag) =>
    match router.outbound tag with
    | none => .error ("outbound not found: " ++ tag)
    | some outbound =>
      if outbound.network.contains network.name then .ok (.outbound outbound)
      else .error (network.label ++ " is not supported by outbound: " ++ outbound.tag)
  | some (.reject .reply) => .error ("reject method `reply` is not supported for " ++ network.label ++ " connections")
  | some (.reject _) => .error "rejected"
  | some .hijackDNS => .ok .hijackDNS

structure StreamState where
  buffers : List Bytes := []
  attempts : List Attempt

def sniffStream (sniffers : Sniffers α) (action : RuleActionSniff α) (metadata : RouteContext α) (state : StreamState) :
    Option String × RouteContext α × StreamState :=
  let sniffed := actionSniffStream sniffers action metadata state.buffers state.attempts
  (none, sniffed.metadata, ⟨state.buffers ++ sniffed.buffer.toList, sniffed.rest⟩)

def newCachedConn (conn buffer : Bytes) : Bytes := buffer ++ conn

def StreamState.cached (state : StreamState) : Bytes := state.buffers.foldl newCachedConn (streamBytes state.attempts)

-- The wrappers for deadlines and trackers deliver what the connection delivers
-- and are left out.
def Router.routeConnection (router : Router α) (metadata : RouteContext α) (conn : List Attempt) : Routed Bytes :=
  if metadata.inboundDetour ≠ "" then
    match router.detour .tcp metadata with
    | .error err => .failed err
    | .ok detour => .injected detour (streamBytes conn)
  else
    match router.reservedDestination metadata.destination.fqdn with
    | some err => .failed err
    | none =>
      if metadata.inboundType = "tun" ∧ metadata.protocol = "dns" then .hijacked (streamBytes conn)
      else
        match router.matchRule (sniffStream router.sniffers) { metadata with network := "tcp" } ⟨[], conn⟩ with
        | .error err => .failed err
        | .ok (selected, state) =>
          match router.target .tcp selected with
          | .error err => .failed err
          | .ok .hijackDNS => .hijacked state.conn.cached
          | .ok (.outbound outbound) => .handed outbound state.conn.cached

structure PacketState where
  packetBuffers : List PacketBuffer := []
  arrivals : List Arrival
  nextId : Nat := 0

def sniffPackets (sniffers : Sniffers α) (action : RuleActionSniff α) (metadata : RouteContext α) (state : PacketState) :
    Option String × RouteContext α × PacketState :=
  let read := actionSniffPacket sniffers action metadata state.packetBuffers state.arrivals state.nextId
  (read.fatalErr, read.metadata, ⟨state.packetBuffers ++ read.packetBuffers, read.rest, read.nextId⟩)

-- The packets are put around the connection one by one, and each struct is
-- given back at once. If that empties it (clears), the same struct further
-- down the list holds no packet.
def stackPackets (clears : Bool) : List PacketBuffer → List Nat → List (Bytes × Socksaddr) → List (Bytes × Socksaddr)
  | [], _, conn => conn
  | packet :: packets, given, conn =>
    stackPackets clears packets (packet.id :: given)
      (if clears && given.contains packet.id then conn else packet.packet :: conn)

-- The address translation for fakeip destinations is left out as well.
def Router.routePacketConnection (router : Router α) (clears : Bool) (metadata : RouteContext α) (conn : List Arrival) :
    Routed (List (Bytes × Socksaddr)) :=
  if metadata.inboundDetour ≠ "" then
    match router.detour .udp metadata with
    | .error err => .failed err
    | .ok detour => .injected detour (arrivedPackets conn)
  else if metadata.inboundType = "tun" ∧ metadata.protocol = "dns" then .hijacked (arrivedPackets conn)
  else
    match router.matchRule (sniffPackets router.sniffers) { metadata with network := "udp" } { arrivals := conn } with
    | .error err => .failed err
    | .ok (selected, state) =>
      match router.target .udp selected with
      | .error err => .failed err
      | .ok .hijackDNS => .hijacked (state.conn.packetBuffers.map PacketBuffer.packet ++ arrivedPackets state.conn.arrivals)
      | .ok (.outbound outbound) =>
        .handed outbound (stackPackets clears state.conn.packetBuffers [] (arrivedPackets state.conn.arrivals))

end

section
variable {α : Type} {router : Router α}

def SniffsAlone (state : MatchState α StreamState) (rule : RouteRule α) : Prop :=
  ∀ action metadata, rule.action = .sniff action → matchMetadata state rule = (true, metadata) →
    state.conn.buffers = [] ∨ sniffSkipped action action.streamSniffers action.packetSniffers metadata = true ∨
      readsNothing state.conn.attempts = true

def Router.SniffsOnce (router : Router α) (metadata : RouteContext α) (attempts : List Attempt) : Prop :=
  ∀ prepared, router.prepare { metadata with network := "tcp" } = .ok prepared →
    Along (sniffStream router.sniffers) SniffsAlone router.rules ⟨prepared, ⟨[], attempts⟩⟩

theorem stack_buffers (buffers : List Bytes) (conn : Bytes) :
    buffers.foldl newCachedConn conn = buffers.reverse.flatten ++ conn := by
  induction buffers generalizing conn with
  | nil => rfl
  | cons _ _ ih =>
    simp [List.foldl_cons, ih, List.reverse_cons, List.flatten_append, List.append_assoc, newCachedConn]

theorem sniff_stream_bytes (sniffers : Sniffers α) (action : RuleActionSniff α) (metadata : RouteContext α) (state : StreamState) :
    (sniffStream sniffers action metadata state).2.2.buffers.flatten ++
        streamBytes (sniffStream sniffers action metadata state).2.2.attempts =
      state.buffers.flatten ++ streamBytes state.attempts := by
  have read := action_sniff_stream_bytes sniffers action metadata state.buffers state.attempts
  rw [← read]
  simp only [sniffStream, List.flatten_append, List.append_assoc]
  cases (actionSniffStream sniffers action metadata state.buffers state.attempts).buffer with
  | none => rfl
  | some => simp

variable {metadata : RouteContext α} {attempts : List Attempt} {state : MatchState α StreamState}

theorem match_rule_stream
    (matched : router.matchRule (sniffStream router.sniffers) metadata ⟨[], attempts⟩ = .ok (selected, state)) :
    state.conn.buffers.flatten ++ streamBytes state.conn.attempts = streamBytes attempts := by
  refine match_rule_invariant
    (fun conn => conn.buffers.flatten ++ streamBytes conn.attempts = streamBytes attempts) matched rfl
    (fun _ _ => along_any router.rules _) ?_
  intro before _ action metadata _ conn held _ _ _ sniffed
  have bytes := sniff_stream_bytes router.sniffers action metadata before.conn
  simpa [sniffed] using bytes.trans held

theorem match_rule_once (once : router.SniffsOnce metadata attempts)
    (matched : router.matchRule (sniffStream router.sniffers) { metadata with network := "tcp" } ⟨[], attempts⟩ =
      .ok (selected, state)) : state.conn.buffers.length ≤ 1 := by
  refine match_rule_invariant (fun conn => conn.buffers.length ≤ 1) matched (Nat.zero_le 1) once ?_
  intro before rule action metadata after conn single alone sniffs accepted sniffed
  have buffers : conn.buffers = before.conn.buffers ++
      (actionSniffStream router.sniffers action metadata before.conn.buffers before.conn.attempts).buffer.toList := by
    cases sniffed
    rfl
  rw [buffers, List.length_append]
  rcases alone action metadata sniffs accepted with none_yet | quiet
  · simp [none_yet, List.length_nil]
  · grind [action_sniff_stream_quiet]

theorem route_connection_delivered {delivered : Bytes}
    (routed : (router.routeConnection metadata attempts).delivered = some delivered) :
    delivered = streamBytes attempts ∨ ∃ selected state,
      router.matchRule (sniffStream router.sniffers) { metadata with network := "tcp" } ⟨[], attempts⟩ =
        .ok (selected, state) ∧ delivered = state.conn.cached := by
  revert routed
  fun_cases router.routeConnection metadata attempts <;> rintro ⟨⟩
  · exact .inl rfl
  · exact .inl rfl
  · rename_i matched _
    exact .inr ⟨_, _, matched, rfl⟩
  · rename_i matched _ _
    exact .inr ⟨_, _, matched, rfl⟩

theorem routed_stream_in_order (router : Router α) (metadata : RouteContext α) (attempts : List Attempt) (delivered : Bytes)
    (routed : (router.routeConnection metadata attempts).delivered = some delivered) :
    (∃ (buffers : List Bytes) (rest : Bytes),
        streamBytes attempts = buffers.flatten ++ rest ∧ delivered = buffers.reverse.flatten ++ rest) ∧
      (router.SniffsOnce metadata attempts → delivered = streamBytes attempts) := by
  rcases route_connection_delivered routed with same | ⟨selected, state, matched, cached⟩
  · exact ⟨⟨[], streamBytes attempts, rfl, same⟩, fun _ => same⟩
  have bytes := match_rule_stream matched
  rw [StreamState.cached, stack_buffers] at cached
  refine ⟨⟨state.conn.buffers, streamBytes state.conn.attempts, bytes.symm, cached⟩, ?_⟩
  intro once
  have single := match_rule_once once matched
  rw [cached, ← bytes]
  match buffers : state.conn.buffers, single with
  | [], _ | [buffer], _ => rfl

def directRouter (rules : List (RouteRule Unit)) (stream packet : SniffError) : Router Unit where
  inbound := fun _ => none
  outbound := fun _ => none
  defaultOutbound := ⟨"direct", ["tcp", "udp"]⟩
  rules := rules
  sniffers := {
    stream := [fun metadata _ => (stream, metadata)]
    packet := [fun metadata _ => (packet, metadata)]
    quicClientHello := fun metadata _ => (packet, metadata)
    isDomainName := fun _ => false }
  prepare := .ok
  muxDestination := "mux"
  vmessMuxDestination := "vmess"
  uotMagicAddress := "uot"
  uotLegacyMagicAddress := "legacy"

def sniffRule (snifferNames : List String) : RouteRule Unit :=
  ⟨fun metadata => (true, metadata), .sniff { snifferNames := snifferNames }⟩

theorem second_sniff_delivered_first :
    ((directRouter [sniffRule ["tls"], sniffRule ["http"]] [.other "unknown"] []).routeConnection { extra := () }
        [.read [1] none, .read [2] none, .read [3] none]).delivered = some [2, 1, 3] ∧
      streamBytes [.read [1] none, .read [2] none, .read [3] none] = [1, 2, 3] :=
  ⟨rfl, rfl⟩

theorem repeated_sniff_in_order :
    ((directRouter [sniffRule ["tls"], sniffRule ["tls"]] [.other "unknown"] []).routeConnection { extra := () }
        [.read [1] none, .read [2] none]).delivered =
      some (streamBytes [.read [1] none, .read [2] none]) := by
  have routed : ((directRouter [sniffRule ["tls"], sniffRule ["tls"]] [.other "unknown"] []).routeConnection { extra := () }
      [.read [1] none, .read [2] none]).delivered = some [1, 2] := rfl
  rw [routed]
  refine congrArg some ((routed_stream_in_order _ _ _ _ routed).2 ?_)
  intro prepared ready
  cases ready
  refine ⟨fun _ _ _ _ => .inl rfl, ?_⟩
  intro next stepped
  cases stepped
  refine ⟨?_, fun _ _ => trivial⟩
  intro _ _ sniffs accepted
  cases sniffs
  cases accepted
  exact .inr (.inl rfl)

end

section
variable {α : Type} {router : Router α}

def SniffsOneDatagram (sniffers : Sniffers α) (state : MatchState α PacketState) (rule : RouteRule α) : Prop :=
  ∀ action metadata, rule.action = .sniff action → matchMetadata state rule = (true, metadata) →
    sniffSkipped action action.packetSniffers action.streamSniffers metadata = true ∨
      NeedsOne sniffers action metadata state.conn.packetBuffers state.conn.arrivals

def Router.SniffsOnePacket (router : Router α) (metadata : RouteContext α) (arrivals : List Arrival) : Prop :=
  ∀ prepared, router.prepare { metadata with network := "udp" } = .ok prepared →
    Along (sniffPackets router.sniffers) (SniffsOneDatagram router.sniffers) router.rules ⟨prepared, { arrivals := arrivals }⟩

theorem match_rule_one_packet {arrivals : List Arrival}
    {state : MatchState α PacketState} (one : router.SniffsOnePacket metadata arrivals)
    (matched : router.matchRule (sniffPackets router.sniffers) { metadata with network := "udp" } { arrivals := arrivals } =
      .ok (selected, state)) : state.conn.packetBuffers.length ≤ 1 ∧
      state.conn.packetBuffers.map PacketBuffer.packet ++ arrivedPackets state.conn.arrivals = arrivedPackets arrivals := by
  refine match_rule_invariant (fun conn => conn.packetBuffers.length ≤ 1 ∧
    conn.packetBuffers.map PacketBuffer.packet ++ arrivedPackets conn.arrivals = arrivedPackets arrivals)
    matched ⟨Nat.zero_le 1, rfl⟩ one ?_
  intro before _ action metadata _ conn held allowed sniffs accepted sniffed
  obtain ⟨single, packets⟩ := action_sniff_packet_one metadata before.conn.packetBuffers before.conn.arrivals
    before.conn.nextId held.1 (allowed action metadata sniffs accepted)
  have same : (sniffPackets router.sniffers action metadata before.conn).2.2 = conn := by rw [sniffed]
  rw [← same]
  exact ⟨single, packets.trans held.2⟩

theorem routed_packets_in_order (router : Router α) (clears : Bool) (metadata : RouteContext α) (arrivals : List Arrival)
    (outbound : Outbound) (delivered : List (Bytes × Socksaddr)) (one : router.SniffsOnePacket metadata arrivals)
    (routed : router.routePacketConnection clears metadata arrivals = .handed outbound delivered) :
    delivered = arrivedPackets arrivals := by
  revert routed
  fun_cases router.routePacketConnection clears metadata arrivals <;> rintro ⟨⟩
  rename_i state matched _
  obtain ⟨single, packets⟩ := match_rule_one_packet one matched
  rw [← packets]
  match buffers : state.conn.packetBuffers, single with
  | [], _ => rfl
  | [packet], _ => cases clears <;> rfl

-- A client hello of two datagrams is delivered backwards. A second action that
-- asks for the rest in vain makes its datagram arrive twice, unless giving
-- back a struct empties it.
theorem datagrams_reversed_and_doubled :
    (∀ clears, ((directRouter [sniffRule ["quic"]] [] [.needMoreData]).routePacketConnection clears { extra := () }
        [.packet [1] {}, .packet [2] {}, .timeout]).delivered = some [([2], {}), ([1], {})]) ∧
    arrivedPackets [.packet [1] {}, .packet [2] {}, .timeout] = [([1], {}), ([2], {})] ∧
    ((directRouter [sniffRule ["quic"], sniffRule ["quic"]] [] [.needMoreData]).routePacketConnection false { extra := () }
        [.packet [1] {}, .timeout, .timeout]).delivered = some [([1], {}), ([1], {})] := by
  refine ⟨?_, rfl, rfl⟩
  intro clears
  cases clears with
  | false | true => rfl

theorem recognised_datagram_in_order :
    (directRouter [sniffRule [], sniffRule ["dns"]] [] []).routePacketConnection false { extra := () }
        [.packet [1] {}, .packet [2] {}] =
      .handed ⟨"direct", ["tcp", "udp"]⟩ (arrivedPackets [.packet [1] {}, .packet [2] {}]) := by
  have routed : (directRouter [sniffRule [], sniffRule ["dns"]] [] []).routePacketConnection false { extra := () }
      [.packet [1] {}, .packet [2] {}] = .handed ⟨"direct", ["tcp", "udp"]⟩ [([1], {}), ([2], {})] := rfl
  rw [routed]
  refine congrArg _ (routed_packets_in_order _ _ _ _ _ _ ?_ routed)
  intro prepared ready
  cases ready
  constructor
  · intro action metadata sniffs accepted
    cases sniffs
    cases accepted
    exact .inr nofun
  intro next stepped
  cases stepped
  refine ⟨?_, fun _ _ => trivial⟩
  intro action metadata sniffs accepted
  cases sniffs
  cases accepted
  exact .inr rfl

end
end OtunKernel.Route
