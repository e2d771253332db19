import OtunKernel.Lib.PartialMap
import OtunKernel.Lib.Threads

namespace OtunKernel.Transport

open Lib

structure Message (Q : Type) where
  id : UInt16
  question : Q
  truncated : Bool := false
  udpSize : Option Nat := none
deriving DecidableEq, Repr

structure UdpCallback (Q : Type) where
  response : Option (Message Q) := none
  done : Bool := false
deriving DecidableEq, Repr

-- Every call of exchange has a callback of its own, so a callback goes by the
-- number of its call.
structure UdpTransport (Q : Type) where
  udpSize : Nat := 2048
  queryId : UInt16 := 0
  callbacks : UInt16 → Option Nat := fun _ => none
  callback : Nat → UdpCallback Q := fun _ => {}

-- The loop of nextAvailableQueryId. It is back at start after 65536 rounds,
-- which bound the recursion.
def nextQueryIdFrom (callbacks : UInt16 → Option Nat) (start : UInt16) : Nat → UInt16 → UInt16 × Option UInt16
  | 0, queryId => (queryId, none)
  | rounds + 1, queryId =>
    let queryId := queryId + 1
    if callbacks queryId = none then (queryId, some queryId)
    else if queryId = start then (queryId, none)
    else nextQueryIdFrom callbacks start rounds queryId

section
variable {Q : Type} (transport : UdpTransport Q)

def UdpTransport.nextAvailableQueryId : UdpTransport Q × Option UInt16 :=
  let (queryId, available) := nextQueryIdFrom transport.callbacks transport.queryId 65536 transport.queryId
  ({ transport with queryId := queryId }, available)

def UdpTransport.register (call : Nat) : UdpTransport Q × Option UInt16 :=
  match transport.nextAvailableQueryId with
  | (transport, none) => (transport, none)
  | (transport, some queryId) => ({ transport with callbacks := put transport.callbacks queryId call }, some queryId)

def UdpTransport.unregister (queryId : UInt16) : UdpTransport Q :=
  { transport with callbacks := erase transport.callbacks queryId }

def UdpTransport.grow (udpSize : Option Nat) : UdpTransport Q :=
  match udpSize with
  | none => transport
  | some udpSize => if udpSize ≤ transport.udpSize then transport else { transport with udpSize := udpSize }

def UdpTransport.deliver (call : Nat) (message : Message Q) : UdpTransport Q :=
  if (transport.callback call).done then transport
  else { transport with callback := Function.update transport.callback call { response := some message, done := true } }

end

inductive UdpError where
  | acquire
  | noAvailableQueryId
  | pack
  | write
  | connection
  | context
  | tcp
deriving DecidableEq, Repr

inductive UdpPhase (C Q : Type) where
  | idle
  | growing (message : Message Q)
  | acquiring (message : Message Q)
  | registering (message : Message Q) (conn : C)
  | writing (message : Message Q) (conn : C) (queryId : UInt16)
  | waiting (message : Message Q) (conn : C) (queryId : UInt16)
  | leaving (message : Message Q) (queryId : UInt16) (outcome : Except UdpError (Message Q))
  | exchangingTCP (message : Message Q)
  | returned (message : Message Q) (outcome : Except UdpError (Message Q))
  | reading (conn : C)
  | received (conn : C) (message : Message Q) (sender : Nat)
  | found (conn : C) (call : Nat) (message : Message Q)
  | ended

inductive UdpThread where
  | call (call : Nat)
  | loop (loop : Nat)
deriving DecidableEq, Repr

-- The pool, the network and the contexts: acquired is what AcquireShared
-- returns, a datagram that Unpack refuses is malformed. The sender of a datagram
-- is history that the code does not see: the call whose query it answers.
inductive UdpInput (C Q : Type) where
  | exchange (message : Message Q)
  | grow
  | acquired (result : Option (C × Bool))
  | lock
  | packFailed
  | written (success : Bool)
  | done
  | connectionDone
  | contextDone
  | tcp (response : Option (Message Q))
  | begin
  | readFailed
  | malformed
  | datagram (message : Message Q) (sender : Nat)

-- The transport with its history: the message of each call, what was written
-- to which connection by which call, and the receive loops.
structure UdpWorld (C Q : Type) where
  transport : UdpTransport Q := {}
  asked : Nat → Option (Message Q) := fun _ => none
  sent : List (C × Nat × Message Q) := []
  loops : Nat → Option C := fun _ => none
  nextLoop : Nat := 0

section
variable {C Q : Type} (world : UdpWorld C Q)

def UdpWorld.withTransport (transport : UdpTransport Q) : UdpWorld C Q := { world with transport := transport }

def UdpWorld.ask (call : Nat) (message : Message Q) : UdpWorld C Q := { world with asked := put world.asked call message }

def UdpWorld.send (conn : C) (call : Nat) (query : Message Q) : UdpWorld C Q :=
  { world with sent := (conn, call, query) :: world.sent }

def UdpWorld.launch (conn : C) : UdpWorld C Q :=
  { world with loops := put world.loops world.nextLoop conn, nextLoop := world.nextLoop + 1 }

def afterExchange (message : Message Q) : Except UdpError (Message Q) → UdpPhase C Q
  | .error err => .returned message (.error err)
  | .ok response => if response.truncated then .exchangingTCP message else .returned message (.ok response)

def registerTurn (call : Nat) (message : Message Q) (conn : C) : UdpWorld C Q × UdpPhase C Q :=
  match world.transport.register call with
  | (transport, none) => (world.withTransport transport, .returned message (.error .noAvailableQueryId))
  | (transport, some queryId) => (world.withTransport transport, .writing message conn queryId)

def lookupTurn (conn : C) (message : Message Q) : UdpPhase C Q :=
  match world.transport.callbacks message.id with
  | none => .reading conn
  | some call => .found conn call message

def udpAdvance (thread : UdpThread) (world : UdpWorld C Q) (phase : UdpPhase C Q) (input : UdpInput C Q) :
    Option (UdpWorld C Q × UdpPhase C Q) :=
  match thread, phase, input with
  | .call call, .idle, .exchange message => some (world.ask call message, .growing message)
  | .call _, .growing message, .grow =>
    some (world.withTransport (world.transport.grow message.udpSize), .acquiring message)
  | .call _, .acquiring message, .acquired none => some (world, .returned message (.error .acquire))
  | .call _, .acquiring message, .acquired (some (conn, created)) =>
    some (if created then world.launch conn else world, .registering message conn)
  | .call call, .registering message conn, .lock => some (registerTurn world call message conn)
  | .call _, .writing message _ queryId, .packFailed => some (world, .leaving message queryId (.error .pack))
  | .call call, .writing message conn queryId, .written success =>
    if success then some (world.send conn call { message with id := queryId }, .waiting message conn queryId)
    else some (world, .leaving message queryId (.error .write))
  | .call call, .waiting message _ queryId, .done =>
    if (world.transport.callback call).done then
      (world.transport.callback call).response.map
        (fun response => (world, .leaving message queryId (.ok { response with id := message.id })))
    else none
  | .call _, .waiting message _ queryId, .connectionDone => some (world, .leaving message queryId (.error .connection))
  | .call _, .waiting message _ queryId, .contextDone => some (world, .leaving message queryId (.error .context))
  | .call _, .leaving message queryId outcome, .lock =>
    some (world.withTransport (world.transport.unregister queryId), afterExchange message outcome)
  | .call _, .exchangingTCP message, .tcp none => some (world, .returned message (.error .tcp))
  | .call _, .exchangingTCP message, .tcp (some response) => some (world, .returned message (.ok response))
  | .loop loop, .idle, .begin => (world.loops loop).map (fun conn => (world, .reading conn))
  | .loop _, .reading _, .readFailed => some (world, .ended)
  | .loop _, .reading conn, .malformed => some (world, .reading conn)
  | .loop _, .reading conn, .datagram message sender => some (world, .received conn message sender)
  | .loop _, .received conn message _, .lock => some (world, lookupTurn world conn message)
  | .loop _, .found conn call message, .lock =>
    some (world.withTransport (world.transport.deliver call message), .reading conn)
  | _, _, _ => none

abbrev UdpLabel (C Q : Type) := UdpThread × UdpInput C Q

abbrev UdpThreads (C Q : Type) := Threads UdpThread (UdpWorld C Q) (UdpPhase C Q)

def udpStep : System (UdpThreads C Q) (UdpLabel C Q) := interleave udpAdvance

def startUdp : UdpThreads C Q where
  shared := {}
  phase := fun _ => .idle

end

section
variable {callbacks : UInt16 → Option Nat} {start : UInt16}

theorem next_query_id_free (rounds : Nat) (current : UInt16) {last queryId : UInt16}
    (available : nextQueryIdFrom callbacks start rounds current = (last, some queryId)) :
    last = queryId ∧ callbacks queryId = none := by
  induction rounds generalizing current with
  | zero => simp_all [nextQueryIdFrom, Prod.mk.injEq]
  | succ _ ih =>
    rw [nextQueryIdFrom.eq_def] at available
    grind

-- The candidates that the loop looks up.
def triedFrom (callbacks : UInt16 → Option Nat) (start : UInt16) : Nat → UInt16 → List UInt16
  | 0, _ => []
  | rounds + 1, queryId =>
    let queryId := queryId + 1
    queryId :: if callbacks queryId = none then [] else if queryId = start then [] else triedFrom callbacks start rounds queryId

-- Going up from first to last takes count steps, and each id on the way was tried.
def Covers (first last : UInt16) (tried : List UInt16) (count : Nat) : Prop :=
  last = first + UInt16.ofNat count ∧ ∀ i < count, first + UInt16.ofNat (i + 1) ∈ tried

theorem covers_append {first middle last : UInt16} {tried more : List UInt16} {count further : Nat}
    (before : Covers first middle tried count) (after : Covers middle last more further) :
    Covers first last (tried ++ more) (count + further) := by
  obtain ⟨rfl, here⟩ := before
  obtain ⟨rfl, there⟩ := after
  refine ⟨by rw [UInt16.ofNat_add, UInt16.add_assoc], fun i bound => List.mem_append.mpr ?_⟩
  by_cases inside : i < count
  · exact .inl (here i inside)
  · have member := there (i - count) (by omega)
    rw [UInt16.add_assoc, ← UInt16.ofNat_add, show count + (i - count + 1) = i + 1 by omega] at member
    exact .inr member

theorem covers_tried (callbacks : UInt16 → Option Nat) (start : UInt16) (rounds : Nat) (current : UInt16) :
    ∃ count, Covers current (nextQueryIdFrom callbacks start (rounds + 1) current).1
      (triedFrom callbacks start (rounds + 1) current) (count + 1) := by
  have one : Covers current (current + 1) [current + 1] 1 := by
    refine ⟨rfl, fun i bound => ?_⟩
    rw [Nat.lt_one_iff.mp bound]
    exact List.mem_singleton_self _
  rw [nextQueryIdFrom, triedFrom]
  by_cases free : callbacks (current + 1) = none
  · simp only [if_pos free]
    exact ⟨0, one⟩
  by_cases back : current + 1 = start
  · simp only [if_neg free, if_pos back]
    exact ⟨0, one⟩
  simp only [if_neg free, if_neg back]
  cases rounds with
  | zero => exact ⟨0, one⟩
  | succ rounds =>
    obtain ⟨count, later⟩ := covers_tried callbacks start rounds (current + 1)
    exact ⟨count + 1, Nat.add_comm 1 (count + 1) ▸ covers_append one later⟩

theorem covers_all {tried : List UInt16} {count : Nat} (around : Covers start start tried (count + 1)) (queryId : UInt16) :
    queryId ∈ tried := by
  have wrapped : (count + 1) % 65536 = 0 := by
    have zero : UInt16.ofNat (count + 1) = 0 := by grind [around.1]
    simpa using congrArg UInt16.toNat zero
  have member := around.2 (queryId - start - 1).toNat (by have := (queryId - start - 1).toNat_lt; omega)
  rw [UInt16.ofNat_add, UInt16.ofNat_toNat, show start + (queryId - start - 1 + UInt16.ofNat 1) = queryId by grind] at member
  exact member

theorem tried_taken (rounds : Nat) (current : UInt16) (exhausted : (nextQueryIdFrom callbacks start rounds current).2 = none) :
    ∀ queryId ∈ triedFrom callbacks start rounds current, callbacks queryId ≠ none := by
  induction rounds generalizing current with
  | zero => simp [triedFrom]
  | succ rounds later =>
    rw [nextQueryIdFrom] at exhausted
    rw [triedFrom]
    grind

-- The loop needs no more than 65536 rounds.
theorem back_at_start (more rounds passed : Nat) (total : passed + (rounds + 1) = 65536) {current : UInt16}
    (reached : current = start + UInt16.ofNat passed) :
    nextQueryIdFrom callbacks start (rounds + 1 + more) current = nextQueryIdFrom callbacks start (rounds + 1) current ∧
      ((nextQueryIdFrom callbacks start (rounds + 1) current).2 = none →
        (nextQueryIdFrom callbacks start (rounds + 1) current).1 = start) := by
  have next : current + 1 = start + UInt16.ofNat (passed + 1) := by
    rw [reached, UInt16.ofNat_add, UInt16.add_assoc]
    rfl
  rw [Nat.add_right_comm, nextQueryIdFrom, nextQueryIdFrom]
  by_cases free : callbacks (current + 1) = none
  · simp [if_pos free]
  by_cases back : current + 1 = start
  · simp only [if_neg free, if_pos back]
    exact ⟨trivial, fun _ => back⟩
  simp only [if_neg free, if_neg back]
  cases rounds with
  | zero =>
    rw [show passed + 1 = 65536 from total] at next
    exact absurd (next.trans (UInt16.add_zero start)) back
  | succ rounds => exact back_at_start more rounds (passed + 1) (by omega) next

theorem next_query_id_exhausted (exhausted : (nextQueryIdFrom callbacks start 65536 start).2 = none) (queryId : UInt16) :
    callbacks queryId ≠ none := by
  obtain ⟨count, around⟩ := covers_tried callbacks start 65535 start
  rw [(back_at_start 0 65535 0 rfl (UInt16.add_zero start).symm).2 exhausted] at around
  exact tried_taken 65536 start exhausted queryId (covers_all around queryId)

variable {Q : Type} {transport after : UdpTransport Q} {call : Nat}

theorem register_some {queryId : UInt16} (registered : transport.register call = (after, some queryId)) :
    transport.callbacks queryId = none ∧
      after = { transport with queryId := queryId, callbacks := put transport.callbacks queryId call } := by
  rw [UdpTransport.register, UdpTransport.nextAvailableQueryId] at registered
  grind [next_query_id_free]

theorem register_none (registered : transport.register call = (after, none)) :
    (∀ queryId, transport.callbacks queryId ≠ none) ∧ ∃ queryId, after = { transport with queryId := queryId } := by
  rw [UdpTransport.register, UdpTransport.nextAvailableQueryId] at registered
  generalize found : nextQueryIdFrom transport.callbacks transport.queryId 65536 transport.queryId = result at registered
  obtain ⟨last, available⟩ := result
  cases available with
  | some => simp_all
  | none =>
    cases registered
    exact ⟨next_query_id_exhausted (congrArg Prod.snd found), last, rfl⟩

end

section
variable {C Q : Type}

inductive UdpTurn (world : UdpWorld C Q) (input : UdpInput C Q) :
    UdpThread → UdpPhase C Q → UdpWorld C Q → UdpPhase C Q → Prop where
  | asks (call : Nat) (message : Message Q) :
      UdpTurn world input (.call call) .idle (world.ask call message) (.growing message)
  | grows (call : Nat) (message : Message Q) :
      UdpTurn world input (.call call) (.growing message)
        (world.withTransport (world.transport.grow message.udpSize)) (.acquiring message)
  | acquires (call : Nat) (message : Message Q) (conn : C) (created : Bool) :
      UdpTurn world input (.call call) (.acquiring message) (if created then world.launch conn else world)
        (.registering message conn)
  | registers (call : Nat) (message : Message Q) (conn : C) (queryId : UInt16) (transport : UdpTransport Q)
      (registered : world.transport.register call = (transport, some queryId)) :
      UdpTurn world input (.call call) (.registering message conn) (world.withTransport transport)
        (.writing message conn queryId)
  | exhausted (call : Nat) (message : Message Q) (conn : C) (transport : UdpTransport Q)
      (registered : world.transport.register call = (transport, none)) :
      UdpTurn world input (.call call) (.registering message conn) (world.withTransport transport)
        (.returned message (.error .noAvailableQueryId))
  | writes (call : Nat) (message : Message Q) (conn : C) (queryId : UInt16) :
      UdpTurn world input (.call call) (.writing message conn queryId)
        (world.send conn call { message with id := queryId }) (.waiting message conn queryId)
  | writeFails (call : Nat) (message : Message Q) (conn : C) (queryId : UInt16) (err : UdpError) :
      UdpTurn world input (.call call) (.writing message conn queryId) world (.leaving message queryId (.error err))
  | givesUp (call : Nat) (message : Message Q) (conn : C) (queryId : UInt16) (err : UdpError) :
      UdpTurn world input (.call call) (.waiting message conn queryId) world (.leaving message queryId (.error err))
  | answers (call : Nat) (message : Message Q) (conn : C) (queryId : UInt16) (response : Message Q)
      (stored : (world.transport.callback call).response = some response) :
      UdpTurn world input (.call call) (.waiting message conn queryId) world
        (.leaving message queryId (.ok { response with id := message.id }))
  | leaves (call : Nat) (message : Message Q) (queryId : UInt16) (outcome : Except UdpError (Message Q)) :
      UdpTurn world input (.call call) (.leaving message queryId outcome)
        (world.withTransport (world.transport.unregister queryId)) (afterExchange message outcome)
  | refused (call : Nat) (message : Message Q) :
      UdpTurn world input (.call call) (.acquiring message) world (.returned message (.error .acquire))
  | failsTCP (call : Nat) (message : Message Q) :
      UdpTurn world input (.call call) (.exchangingTCP message) world (.returned message (.error .tcp))
  | answersTCP (call : Nat) (message response : Message Q) (given : input = .tcp (some response)) :
      UdpTurn world input (.call call) (.exchangingTCP message) world (.returned message (.ok response))
  | begins (loop : Nat) (conn : C) : UdpTurn world input (.loop loop) .idle world (.reading conn)
  | ends (loop : Nat) (conn : C) : UdpTurn world input (.loop loop) (.reading conn) world .ended
  | skips (loop : Nat) (conn : C) : UdpTurn world input (.loop loop) (.reading conn) world (.reading conn)
  | reads (loop : Nat) (conn : C) (reply : Message Q) (sender : Nat) (given : input = .datagram reply sender) :
      UdpTurn world input (.loop loop) (.reading conn) world (.received conn reply sender)
  | misses (loop : Nat) (conn : C) (reply : Message Q) (sender : Nat) :
      UdpTurn world input (.loop loop) (.received conn reply sender) world (.reading conn)
  | finds (loop : Nat) (conn : C) (reply : Message Q) (sender call : Nat) (given : input = .lock)
      (found : world.transport.callbacks reply.id = some call) :
      UdpTurn world input (.loop loop) (.received conn reply sender) world (.found conn call reply)
  | delivers (loop : Nat) (conn : C) (call : Nat) (reply : Message Q) :
      UdpTurn world input (.loop loop) (.found conn call reply)
        (world.withTransport (world.transport.deliver call reply)) (.reading conn)

theorem register_turn (world : UdpWorld C Q) (input : UdpInput C Q) (call : Nat) (message : Message Q) (conn : C) :
    UdpTurn world input (.call call) (.registering message conn) (registerTurn world call message conn).1
      (registerTurn world call message conn).2 := by
  rw [registerTurn]
  split
  · rename_i transport registered
    exact .exhausted call message conn transport registered
  rename_i transport queryId registered
  exact .registers call message conn queryId transport registered

theorem lookup_turn (world : UdpWorld C Q) (loop : Nat) (conn : C) (reply : Message Q) (sender : Nat) :
    UdpTurn world .lock (.loop loop) (.received conn reply sender) world (lookupTurn world conn reply) := by
  rw [lookupTurn]
  split
  · exact .misses loop conn reply sender
  rename_i call found
  exact .finds loop conn reply sender call rfl found

variable {world next : UdpWorld C Q} {input : UdpInput C Q} {thread : UdpThread} {phase after : UdpPhase C Q}

theorem udp_advance_turn (moved : udpAdvance thread world phase input = some (next, after)) :
    UdpTurn world input thread phase next after := by
  revert moved
  fun_cases udpAdvance thread world phase input <;> intro moved <;> try cases moved
  · exact .asks _ _
  · exact .grows _ _
  · exact .refused _ _
  · exact .acquires _ _ _ _
  · rename_i call message conn
    have turn := register_turn world .lock call message conn
    rw [Option.some.inj moved] at turn
    exact turn
  · exact .writeFails _ _ _ _ .pack
  · exact .writes _ _ _ _
  · exact .writeFails _ _ _ _ .write
  · obtain ⟨response, stored, same⟩ := Option.map_eq_some_iff.mp moved
    cases same
    exact .answers _ _ _ _ response stored
  · exact .givesUp _ _ _ _ .connection
  · exact .givesUp _ _ _ _ .context
  · exact .leaves _ _ _ _
  · exact .failsTCP _ _
  · exact .answersTCP _ _ _ rfl
  · obtain ⟨conn, _, same⟩ := Option.map_eq_some_iff.mp moved
    cases same
    exact .begins _ conn
  · exact .ends _ _
  · exact .skips _ _
  · exact .reads _ _ _ _ rfl
  · exact lookup_turn world _ _ _ _
  · exact .delivers _ _ _ _

end
end OtunKernel.Transport
