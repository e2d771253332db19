import OtunKernel.Transport.Udp

namespace OtunKernel.Transport

open Lib UdpTransport UdpWorld

variable {C Q : Type} {queryId : UInt16}

def UdpPhase.asks : UdpPhase C Q → Option (Message Q)
  | .growing message => some message
  | .acquiring message => some message
  | .registering message _ => some message
  | .writing message _ _ => some message
  | .waiting message _ _ => some message
  | .leaving message _ _ => some message
  | .exchangingTCP message => some message
  | .returned message _ => some message
  | _ => none

def UdpPhase.holds : UdpPhase C Q → Option UInt16
  | .writing _ _ queryId => some queryId
  | .waiting _ _ queryId => some queryId
  | .leaving _ queryId _ => some queryId
  | _ => none

-- A reply is of use to a call if it answers the question of the call, or if
-- it makes the call ask again over TCP.
def UdpWorld.Fits (world : UdpWorld C Q) (call : Nat) (reply : Message Q) : Prop :=
  reply.truncated = true ∨ ∀ message, world.asked call = some message → reply.question = message.question

-- A datagram answers a query written to the same connection at any time
-- before; over TCP the reply answers the one query of its connection.
def Honest (threads : UdpThreads C Q) : UdpLabel C Q → Prop
  | (.loop loop, .datagram reply sender) => ∃ conn query, threads.phase (.loop loop) = .reading conn ∧
      (conn, sender, query) ∈ threads.shared.sent ∧ reply.id = query.id ∧ reply.question = query.question
  | (.call call, .tcp (some reply)) => ∃ message, threads.phase (.call call) = .exchangingTCP message ∧
      reply.id = message.id ∧ reply.question = message.question
  | _ => True

-- The id of a reply that is looked up has not passed from the call whose query
-- it answers to another one that still waits. A truncated reply does no harm.
def IdNotRecycled (threads : UdpThreads C Q) : UdpLabel C Q → Prop
  | (.loop loop, .lock) => ∀ conn reply sender, threads.phase (.loop loop) = .received conn reply sender →
      ∀ call, threads.shared.transport.callbacks reply.id = some call →
        (threads.shared.transport.callback call).done = true ∨ reply.truncated = true ∨ call = sender
  | _ => True

def UdpWorld.Asks (world : UdpWorld C Q) (call : Nat) (question : Q) : Prop :=
  ∃ message, world.asked call = some message ∧ question = message.question

structure UdpSound (world : UdpWorld C Q) : Prop where
  sent : ∀ conn call query, (conn, call, query) ∈ world.sent → world.Asks call query.question
  registered : ∀ queryId call, world.transport.callbacks queryId = some call → world.asked call ≠ none
  answered : ∀ call response, (world.transport.callback call).response = some response →
    world.asked call ≠ none ∧ world.Fits call response

structure UdpPhaseSound (thread : UdpThread) (world : UdpWorld C Q) (phase : UdpPhase C Q) : Prop where
  resting : ∀ call, thread = .call call → phase = .idle → world.asked call = none
  asked : ∀ call message, thread = .call call → phase.asks = some message → world.asked call = some message
  holds : ∀ call queryId, thread = .call call → phase.holds = some queryId →
    world.transport.callbacks queryId = some call
  outcome : ∀ message queryId response, phase = .leaving message queryId (.ok response) →
    response.id = message.id ∧ (response.truncated = true ∨ response.question = message.question)
  answer : ∀ message response, phase = .returned message (.ok response) →
    response.id = message.id ∧ response.question = message.question
  received : ∀ conn reply sender, phase = .received conn reply sender → world.Asks sender reply.question
  found : ∀ conn call reply, phase = .found conn call reply →
    world.asked call ≠ none ∧ ((world.transport.callback call).done = true ∨ world.Fits call reply)

abbrev UdpCoherent (threads : UdpThreads C Q) : Prop :=
  Coherent UdpSound UdpPhaseSound (fun _ _ => True) threads

theorem after_exchange_cases (C : Type) (message : Message Q) (outcome : Except UdpError (Message Q)) :
    (afterExchange message outcome : UdpPhase C Q) = .exchangingTCP message ∨
      ((afterExchange message outcome : UdpPhase C Q) = .returned message outcome ∧
        ∀ response, outcome = .ok response → response.truncated = false) := by
  cases outcome with
  | error => exact .inr ⟨rfl, fun _ same => by cases same⟩
  | ok => simp [afterExchange]

variable {message reply : Message Q}

section
variable {world next : UdpWorld C Q} {input : UdpInput C Q} {thread : UdpThread} {phase after : UdpPhase C Q}

theorem grow_callbacks (transport : UdpTransport Q) (udpSize : Option Nat) :
    (transport.grow udpSize).callbacks = transport.callbacks ∧ (transport.grow udpSize).callback = transport.callback := by
  cases udpSize with
  | none => exact ⟨rfl, rfl⟩
  | some => grind [grow]

variable {call : Nat}

section
variable (turn : UdpTurn world input thread phase next after)
include turn

theorem turn_asked (own : ∀ call, thread = .call call → phase = .idle → world.asked call = none) (known : world.asked call ≠ none) :
    next.asked call = world.asked call := by
  cases turn with
  | asks =>
    apply put_other _ _ _ _
    grind
  | acquires _ _ _ created => cases created <;> rfl
  | _ => rfl

theorem turn_asked_other (other : thread ≠ .call call) : next.asked call = world.asked call := by
  cases turn with
  | asks => exact put_other _ _ _ _ (fun same => other (congrArg UdpThread.call same.symm))
  | acquires _ _ _ created => cases created <;> rfl
  | _ => rfl

theorem turn_callback (call : Nat) :
    next.transport.callback call = world.transport.callback call ∨
      ∃ conn reply, phase = .found conn call reply ∧ (world.transport.callback call).done = false ∧
        next.transport.callback call = { response := some reply, done := true } := by
  cases turn with
  | grows => exact .inl (congrFun (grow_callbacks _ _).2 call)
  | acquires _ _ _ created => cases created <;> exact .inl rfl
  | registers _ _ _ _ _ registered =>
    obtain ⟨_, rfl⟩ := register_some registered
    exact .inl rfl
  | exhausted _ _ _ _ registered =>
    obtain ⟨_, _, rfl⟩ := register_none registered
    exact .inl rfl
  | delivers _ conn target reply =>
    rw [withTransport, deliver]
    split
    · exact .inl rfl
    by_cases same : call = target
    · simp_all
    · grind
  | _ => exact .inl rfl

theorem turn_callbacks (queryId : UInt16) : next.transport.callbacks queryId = world.transport.callbacks queryId ∨
      (∃ call, thread = .call call ∧ after.holds = some queryId ∧ phase.asks ≠ none ∧
        world.transport.callbacks queryId = none ∧ next.transport.callbacks queryId = some call) ∨
      (∃ call, thread = .call call ∧ phase.holds = some queryId ∧ next.transport.callbacks queryId = none) := by
  cases turn with
  | grows => exact .inl (congrFun (grow_callbacks _ _).1 queryId)
  | acquires _ _ _ created => cases created <;> exact .inl rfl
  | registers mover _ _ chosen _ registered =>
    obtain ⟨free, rfl⟩ := register_some registered
    by_cases same : queryId = chosen
    · subst same
      exact .inr (.inl ⟨mover, rfl, rfl, by simp [UdpPhase.asks], free, put_same _ _ _⟩)
    · exact .inl (put_other _ _ _ _ same)
  | exhausted _ _ _ _ registered =>
    obtain ⟨_, _, rfl⟩ := register_none registered
    exact .inl rfl
  | leaves mover _ held =>
    by_cases same : queryId = held
    · subst same
      exact .inr (.inr ⟨mover, rfl, rfl, erase_same _ _⟩)
    · exact .inl (erase_other _ _ _ same)
  | delivers => grind [withTransport, deliver]
  | _ => exact .inl rfl

theorem turn_keeps_id (holds : phase.holds = some queryId) :
    after.holds = some queryId ∨ next.transport.callbacks queryId = none := by
  cases turn with
  | leaves =>
    cases holds
    exact .inr (erase_same _ _)
  | _ => first | exact .inl holds | contradiction

theorem turn_outcome (leaving : after = .leaving message queryId (.ok reply)) :
    ∃ call response, thread = .call call ∧ phase.asks = some message ∧
      (world.transport.callback call).response = some response ∧ reply = { response with id := message.id } := by
  cases turn with
  | answers call _ _ _ response stored =>
    cases leaving
    exact ⟨call, response, rfl, rfl, stored, rfl⟩
  | leaves _ asking _ outcome =>
    rcases after_exchange_cases C asking outcome with same | ⟨same, _⟩ <;> (rw [same] at leaving; contradiction)
  | _ => simp at leaving

theorem turn_answer (returned : after = .returned message (.ok reply)) :
    (∃ queryId, phase = .leaving message queryId (.ok reply) ∧ reply.truncated = false) ∨
      (∃ call, thread = .call call ∧ phase = .exchangingTCP message ∧ input = .tcp (some reply)) := by
  cases turn with
  | leaves _ asking held outcome =>
    rcases after_exchange_cases C asking outcome with same | ⟨same, complete⟩
    · simp_all
    · simp_all
  | answersTCP call _ _ given => simp_all
  | _ => simp at returned

theorem turn_found {conn : C} (found : after = .found conn call reply) :
    next = world ∧ (∃ loop, thread = .loop loop) ∧ (∃ sender, phase = .received conn reply sender) ∧ input = .lock ∧
      world.transport.callbacks reply.id = some call := by
  cases turn with
  | finds loop _ _ _ _ given registered => simp_all
  | leaves _ asking _ outcome =>
    rcases after_exchange_cases C asking outcome with same | ⟨same, _⟩ <;> (rw [same] at found; contradiction)
  | _ => contradiction

theorem turn_received {conn : C} {sender : Nat} (received : after = .received conn reply sender) :
    next = world ∧ (∃ loop, thread = .loop loop) ∧ phase = .reading conn ∧ input = .datagram reply sender := by
  cases turn with
  | reads => simp_all
  | leaves _ asking _ outcome =>
    rcases after_exchange_cases C asking outcome with same | ⟨same, _⟩ <;> (rw [same] at received; contradiction)
  | _ => contradiction

theorem turn_sent {conn : C} {sender : Nat} {query : Message Q} (sent : (conn, sender, query) ∈ next.sent) :
    (conn, sender, query) ∈ world.sent ∨
      ∃ message, thread = .call sender ∧ phase.asks = some message ∧ query.question = message.question := by
  cases turn with
  | writes call message =>
    rcases List.mem_cons.mp sent with same | before
    · cases same
      exact .inr ⟨message, rfl, rfl, rfl⟩
    · exact .inl before
  | acquires _ _ _ created => cases created <;> exact .inl sent
  | _ => exact .inl sent

end

section
variable (turn : UdpTurn world input (.call call) phase next after)
include turn

theorem turn_asks (asks : after.asks = some message) :
    phase.asks = some message ∨ (phase = .idle ∧ next.asked call = some message) := by
  cases turn with
  | asks =>
    cases asks
    exact .inr ⟨rfl, put_same _ _ _⟩
  | leaves _ message _ outcome =>
    left
    rcases after_exchange_cases C message outcome with same | ⟨same, _⟩ <;> (rw [same] at asks; exact asks)
  | _ => exact .inl asks

theorem turn_holds (holds : after.holds = some queryId) :
    (phase.holds = some queryId ∧ next.transport.callbacks = world.transport.callbacks) ∨
      next.transport.callbacks queryId = some call := by
  cases turn with
  | registers _ _ _ _ _ registered =>
    obtain ⟨_, rfl⟩ := register_some registered
    cases holds
    exact .inr (put_same _ _ _)
  | leaves _ message _ outcome =>
    rcases after_exchange_cases C message outcome with same | ⟨same, _⟩ <;> (rw [same] at holds; contradiction)
  | writes | writeFails | givesUp | answers => exact .inl ⟨holds, rfl⟩
  | _ => contradiction

theorem turn_leaves_idle : after ≠ .idle := by
  cases turn with
  | leaves _ message _ outcome =>
    rcases after_exchange_cases C message outcome with same | ⟨same, _⟩ <;> simp [same]
  | _ => simp

end
end

section
variable {threads result : UdpThreads C Q} {label : UdpLabel C Q}
  {thread : UdpThread} {input : UdpInput C Q} {next : UdpWorld C Q} {after : UdpPhase C Q}

section
variable (coherent : UdpCoherent threads)
include coherent

section
variable (turn : UdpTurn threads.shared input thread (threads.phase thread) next after)
include turn

theorem step_fits {call : Nat} {reply : Message Q}
    (known : threads.shared.asked call ≠ none) (fits : threads.shared.Fits call reply) : next.Fits call reply := by
  rw [UdpWorld.Fits, turn_asked turn (coherent.each thread).resting known]
  exact fits

theorem step_asks {call : Nat} {question : Q} (asks : threads.shared.Asks call question) : next.Asks call question := by
  obtain ⟨message, asked, same⟩ := asks
  exact ⟨message, by rw [turn_asked turn (coherent.each thread).resting (by simp [asked]), asked], same⟩

theorem step_udp_sound : UdpSound next := by
  have whole := coherent.whole
  have own := coherent.each thread
  have kept : ∀ call, threads.shared.asked call ≠ none → next.asked call ≠ none := by grind [turn_asked, own.resting]
  refine ⟨?_, ?_, ?_⟩
  · intro conn call query sent
    rcases turn_sent turn sent with before | ⟨message, moves, asks, same⟩
    · exact step_asks coherent turn (whole.sent conn call query before)
    · exact step_asks coherent turn ⟨message, own.asked call message moves asks, same⟩
  · intro queryId call registered
    rcases turn_callbacks turn queryId with same | ⟨mover, moves, _, asks, _, added⟩ | ⟨_, _, _, removed⟩
    · exact kept call (whole.registered queryId call (same ▸ registered))
    · rw [added] at registered
      cases registered
      obtain ⟨message, asking⟩ := Option.ne_none_iff_exists'.mp asks
      exact kept call (by rw [own.asked call message moves asking]; simp)
    · simp_all
  intro call response stored
  rcases turn_callback turn call with same | ⟨conn, reply, found, pending, delivered⟩
  · grind [whole.answered, step_fits]
  rw [delivered] at stored
  cases stored
  obtain ⟨known, done | fits⟩ := own.found conn call response found
  · simp_all
  · grind [step_fits]

theorem step_udp_other {other : UdpThread} (different : other ≠ thread) : UdpPhaseSound other next (threads.phase other) := by
  have own := coherent.each thread
  have beside := coherent.each other
  refine ⟨?_, ?_, ?_, beside.outcome, beside.answer,
    fun conn reply sender received => step_asks coherent turn (beside.received conn reply sender received), ?_⟩
  · rintro call rfl resting
    simpa [turn_asked_other turn (Ne.symm different)] using beside.resting call rfl resting
  · rintro call message rfl asks
    simpa [turn_asked_other turn (Ne.symm different)] using beside.asked call message rfl asks
  · rintro call queryId rfl holds
    have registered := beside.holds call queryId rfl holds
    rcases turn_callbacks turn queryId with same | ⟨mover, _, _, _, free, _⟩ | ⟨mover, moves, held, _⟩
    · simp_all
    · simp_all
    have mine := own.holds mover queryId moves held
    grind
  intro conn call reply found
  obtain ⟨known, settled⟩ := beside.found conn call reply found
  refine ⟨by rwa [turn_asked turn own.resting known], ?_⟩
  rcases settled with done | fits
  · left
    rcases turn_callback turn call with same | ⟨_, _, _, _, delivered⟩
    · simp [same, done]
    · rw [delivered]
  · grind [step_fits]

theorem step_udp_own (honest : Honest threads (thread, input))
    (unrecycled : IdNotRecycled threads (thread, input)) : UdpPhaseSound thread next after := by
  have whole := coherent.whole
  have own := coherent.each thread
  refine ⟨?_, ?_, ?_, ?_, ?_, ?_, ?_⟩
  · grind [turn_leaves_idle]
  · rintro call message rfl asks
    rcases turn_asks turn asks with before | ⟨_, asked⟩
    · have known := own.asked call message rfl before
      simp [turn_asked turn own.resting (by rw [known]; simp), known]
    · exact asked
  · rintro call queryId rfl holds
    rcases turn_holds turn holds with ⟨before, same⟩ | registered
    · simpa [same] using own.holds call queryId rfl before
    · exact registered
  · intro message queryId reply leaving
    obtain ⟨call, response, moves, asks, stored, rfl⟩ := turn_outcome turn leaving
    obtain ⟨_, truncated | fits⟩ := whole.answered call response stored
    · grind
    · grind [own.asked]
  · intro message reply returned
    rcases turn_answer turn returned with ⟨queryId, leaving, complete⟩ | ⟨call, rfl, exchanging, rfl⟩
    · grind [own.outcome]
    obtain ⟨_, here, sameId, sameQuestion⟩ := honest
    grind
  · intro conn reply sender received
    obtain ⟨rfl, ⟨_, rfl⟩, _, rfl⟩ := turn_received turn received
    obtain ⟨from_, query, _, sent, _, sameQuestion⟩ := honest
    rw [sameQuestion]
    exact whole.sent from_ sender query sent
  intro conn call reply found
  obtain ⟨rfl, ⟨_, rfl⟩, ⟨sender, received⟩, rfl, registered⟩ := turn_found turn found
  refine ⟨whole.registered reply.id call registered, ?_⟩
  rcases unrecycled conn reply sender received call registered with done | truncated | rfl
  · exact .inl done
  · exact .inr (.inl truncated)
  · -- the reply comes to the call whose query it answers
    obtain ⟨message, asked, same⟩ := own.received conn reply call received
    exact .inr (.inr (fun other known => by rw [asked] at known; cases known; exact same))

end

theorem step_udp (honest : Honest threads label) (unrecycled : IdNotRecycled threads label)
    (taken : udpStep threads label = some result) : UdpCoherent result := by
  refine coherent_step (fun _ _ _ => trivial) coherent taken ?_ ?_
  · intro next phase moved
    have turn := udp_advance_turn moved
    exact ⟨step_udp_sound coherent turn, step_udp_own coherent turn honest unrecycled⟩
  intro next phase moved other different _
  exact ⟨step_udp_other coherent (udp_advance_turn moved) different, trivial⟩

end
end

theorem start_udp : UdpCoherent (startUdp : UdpThreads C Q) := by
  refine ⟨⟨fun _ _ _ sent => (by cases sent), fun _ _ registered => by contradiction, fun _ _ stored => by contradiction⟩, ?_,
    fun _ _ _ => trivial⟩
  intro thread
  exact ⟨fun _ _ _ => rfl, fun _ _ _ asks => by contradiction, fun _ _ _ holds => by contradiction,
    fun _ _ _ leaving => by contradiction, fun _ _ returned => by contradiction, fun _ _ _ received => by contradiction,
    fun _ _ _ found => by contradiction⟩

theorem run_udp {threads : UdpThreads C Q}
    (run : Run udpStep (fun threads label => Honest threads label ∧ IdNotRecycled threads label) startUdp threads) :
    UdpCoherent threads :=
  run.invariant UdpCoherent start_udp
    (fun _ _ _ coherent permitted taken => step_udp coherent permitted.1 permitted.2 taken)

def UdpInput.replies : UdpInput C Q → Bool
  | .datagram _ _ => true
  | .tcp (some _) => true
  | _ => false

theorem silent_honest {inputs : List (UdpInput C Q)} (thread : UdpThread) (silent : inputs.any UdpInput.replies = false) :
    ∀ input ∈ inputs, ∀ state : UdpThreads C Q, Honest state (thread, input) := by
  intro input member state
  have quiet : input.replies = false := by simp_all
  rw [Honest.eq_def]
  split
  · rename_i same
    cases same
    contradiction
  · rename_i same
    cases same
    contradiction
  · trivial

variable {threads : UdpThreads C Q}

section

theorem register_next {transport : UdpTransport Q} (call : Nat)
    (free : transport.callbacks (transport.queryId + 1) = none) :
    transport.register call =
      ({ transport with
          queryId := transport.queryId + 1
          callbacks := put transport.callbacks (transport.queryId + 1) call }, some (transport.queryId + 1)) := by
  have first : ∀ rounds, nextQueryIdFrom transport.callbacks transport.queryId (rounds + 1) transport.queryId =
      (transport.queryId + 1, some (transport.queryId + 1)) := by
    intro rounds
    rw [nextQueryIdFrom]
    exact if_pos free
  rw [register, nextAvailableQueryId, first 65535]

theorem register_turn_next {world : UdpWorld C Q} (call : Nat) (message : Message Q) (conn : C)
    (free : world.transport.callbacks (world.transport.queryId + 1) = none) :
    registerTurn world call message conn =
      (world.withTransport { world.transport with
          queryId := world.transport.queryId + 1
          callbacks := put world.transport.callbacks (world.transport.queryId + 1) call },
        .writing message conn (world.transport.queryId + 1)) := by
  rw [registerTurn, register_next call free]

def UdpWorld.acquire (world : UdpWorld C Q) (call : Nat) (message : Message Q) (conn : C) (created : Bool) : UdpWorld C Q :=
  (if created then world.launch conn else world).ask call message

section
variable (world : UdpWorld C Q) (call : Nat) {message : Message Q} (conn : C) (created : Bool) (rest : List (UdpInput C Q))

theorem acquire_alone (plain : message.udpSize = none) : runAlone udpAdvance (.call call) (world, .idle)
        (.exchange message :: .grow :: .acquired (some (conn, created)) :: rest) =
      runAlone udpAdvance (.call call) (world.acquire call message conn created, .registering message conn) rest := by
  obtain ⟨_, _, _, _⟩ := message
  cases plain
  cases created <;> rfl

theorem write_alone (free : world.transport.callbacks (world.transport.queryId + 1) = none) :
    runAlone udpAdvance (.call call) (world, .registering message conn) (.lock :: .written true :: rest) =
      runAlone udpAdvance (.call call)
        ((world.withTransport { world.transport with
            queryId := world.transport.queryId + 1
            callbacks := put world.transport.callbacks (world.transport.queryId + 1) call }).send conn call
              { message with id := world.transport.queryId + 1 },
          .waiting message conn (world.transport.queryId + 1)) rest := by
  rw [run_alone_cons (congrArg some (register_turn_next call message conn free)), run_alone_cons rfl]

end

def timeoutInputs (message : Message Q) (conn : C) (created : Bool) : List (UdpInput C Q) :=
  [.exchange message, .grow, .acquired (some (conn, created)), .lock, .written true, .contextDone, .lock]

variable {call : Nat}

theorem timeout_alone (world : UdpWorld C Q) (call : Nat) (conn : C) (created : Bool)
    (plain : message.udpSize = none) (free : world.transport.callbacks (world.transport.queryId + 1) = none) :
    runAlone udpAdvance (.call call) (world, .idle) (timeoutInputs message conn created) =
      some (((world.acquire call message conn created).withTransport
            { world.transport with queryId := world.transport.queryId + 1 }).send conn call
              { message with id := world.transport.queryId + 1 },
        .returned message (.error .context)) := by
  have same : (world.acquire call message conn created).transport = world.transport := by cases created <;> rfl
  have available := free
  rw [← same] at available
  rw [timeoutInputs, acquire_alone world call conn created _ plain, write_alone _ call conn _ available, run_alone_cons rfl,
    run_alone_cons rfl, runAlone]
  simp only [withTransport, send, unregister, erase_put call free, afterExchange, same]

structure Between (query : Message Q) (conn : C) (calls : Nat) (threads : UdpThreads C Q) : Prop where
  queryId : threads.shared.transport.queryId = UInt16.ofNat calls
  free : ∀ queryId, threads.shared.transport.callbacks queryId = none
  unanswered : ∀ call, (threads.shared.transport.callback call).done = false
  unused : ∀ call, calls ≤ call → threads.phase (.call call) = .idle
  reading : threads.phase (.loop 0) = .reading conn
  sent : (conn, 0, query) ∈ threads.shared.sent

variable {query : Message Q} {conn : C} {calls : Nat}

section
variable (between : Between query conn calls threads)
variable (message : Message Q) (plain : message.udpSize = none)
include between plain

theorem between_next : ∃ result, Run udpStep Honest threads result ∧ Between query conn (calls + 1) result := by
  have alone := timeout_alone threads.shared calls conn false plain (between.free _)
  rw [← between.unused calls (Nat.le_refl _)] at alone
  refine ⟨_, run_of_alone alone (silent_honest _ rfl), ?_⟩
  refine ⟨?_, between.free, between.unanswered, ?_, ?_, List.mem_cons_of_mem _ between.sent⟩
  · rw [UInt16.ofNat_add, ← between.queryId]
    rfl
  · intro call later
    have different : UdpThread.call call ≠ .call calls := by grind
    simpa [Function.update_of_ne different] using between.unused call (by omega)
  grind [between.reading]

theorem between_later (more : Nat) : ∃ result, Run udpStep Honest threads result ∧ Between query conn (calls + more) result := by
  induction more with
  | zero => exact ⟨threads, Run.refl, between⟩
  | succ _ ih =>
    obtain ⟨_, first, there⟩ := ih
    obtain ⟨result, second, here⟩ := between_next there message plain
    exact ⟨result, Run.trans first second, here⟩

theorem between_waiting : ∃ result, Run udpStep Honest threads result ∧
      result.phase (.call calls) = .waiting message conn (UInt16.ofNat calls + 1) ∧
      result.shared.transport.callbacks (UInt16.ofNat calls + 1) = some calls ∧
      (result.shared.transport.callback calls).done = false ∧ result.phase (.loop 0) = .reading conn ∧
      (conn, 0, query) ∈ result.shared.sent := by
  have alone := (acquire_alone threads.shared calls conn false [.lock, .written true] plain).trans
    (write_alone (threads.shared.acquire calls message conn false) calls conn [] (between.free _))
  rw [← between.unused calls (Nat.le_refl _)] at alone
  have run : Run udpStep Honest threads _ := run_of_alone alone (silent_honest _ rfl)
  refine ⟨_, run, ?_, ?_, between.unanswered calls, ?_, List.mem_cons_of_mem _ between.sent⟩
  · dsimp only
    rw [Function.update_self, ← between.queryId]
    rfl
  · rw [← between.queryId]
    exact put_same _ _ _
  · grind [between.reading]

end

theorem reply_delivered {loop : Nat} (reading : threads.phase (.loop loop) = .reading conn)
    (sent : (conn, 0, query) ∈ threads.shared.sent) (sameId : reply.id = query.id)
    (sameQuestion : reply.question = query.question)
    (registered : threads.shared.transport.callbacks reply.id = some call)
    (pending : (threads.shared.transport.callback call).done = false) :
    ∃ result, Run udpStep Honest threads result ∧
      result.shared.transport.callback call = { response := some reply, done := true } ∧
      result.phase (.call call) = threads.phase (.call call) := by
  have received : Run udpStep Honest threads
      ⟨threads.shared, Function.update threads.phase (.loop loop) (.received conn reply 0)⟩ := by
    refine Run.next (.loop loop, .datagram reply 0) Run.refl ⟨conn, query, reading, sent, sameId, sameQuestion⟩ ?_
    exact interleave_eq_some.mpr ⟨_, _, by rw [reading]; rfl, rfl⟩
  have alone : runAlone udpAdvance (.loop loop) (threads.shared,
      Function.update threads.phase (.loop loop) (.received conn reply 0) (.loop loop)) [.lock, .lock] =
        some (threads.shared.withTransport (threads.shared.transport.deliver call reply), .reading conn) := by
    have looked : lookupTurn threads.shared conn reply = .found conn call reply := by rw [lookupTurn, registered]
    rw [Function.update_self, run_alone_cons (congrArg (fun phase => some (threads.shared, phase)) looked), run_alone_cons rfl,
      runAlone]
  have run := Run.trans received (run_of_alone alone (silent_honest _ rfl))
  have apart : UdpThread.call call ≠ .loop loop := by simp
  refine ⟨_, run, ?_, ?_⟩
  · simp [withTransport, deliver, pending]
  · simp

theorem reply_returned (waiting : threads.phase (.call call) = .waiting message conn queryId)
    (stored : threads.shared.transport.callback call = { response := some reply, done := true })
    (complete : reply.truncated = false) : ∃ result, Run udpStep Honest threads result ∧
      result.phase (.call call) = .returned message (.ok { reply with id := message.id }) := by
  have alone : runAlone udpAdvance (.call call) (threads.shared, threads.phase (.call call)) [.done, .lock] =
      some (threads.shared.withTransport (threads.shared.transport.unregister queryId),
        .returned message (.ok { reply with id := message.id })) := by
    rw [waiting]
    simp [runAlone, udpAdvance, stored, afterExchange, complete]
  exact ⟨_, run_of_alone alone (silent_honest _ rfl), Function.update_self _ _ _⟩

end

def oldQuery : Message String := { id := 7, question := "old.example." }

def newQuery : Message String := { id := 8, question := "new.example." }

theorem old_query_between :
    ∃ threads : UdpThreads Nat String,
      Run udpStep Honest startUdp threads ∧ Between { oldQuery with id := 1 } 0 1 threads := by
  have alone : runAlone udpAdvance (.call 0) (({} : UdpWorld Nat String), .idle) (timeoutInputs oldQuery 0 true) = _ :=
    timeout_alone {} 0 0 true rfl rfl
  have run : Run udpStep Honest (startUdp : UdpThreads Nat String) _ :=
    run_of_alone alone (silent_honest _ rfl)
  refine ⟨_, Run.next (.loop 0, .begin) run trivial rfl, ?_⟩
  refine ⟨rfl, fun _ => rfl, fun _ => rfl, ?_, rfl, List.mem_cons_self⟩
  intro call later
  cases call with
  | zero => omega
  | succ => rfl

theorem recycled_id_run :
    ∃ threads : UdpThreads Nat String,
      Run udpStep Honest startUdp threads ∧
        threads.phase (.call 65536) = .returned newQuery (.ok { oldQuery with id := newQuery.id }) := by
  obtain ⟨_, sent, between⟩ := old_query_between
  obtain ⟨_, wrapped, around⟩ := between_later between newQuery rfl 65535
  obtain ⟨_, asked, waiting, registered, pending, reading, written⟩ := between_waiting around newQuery rfl
  obtain ⟨_, delivered, stored, same⟩ := reply_delivered reading written rfl rfl registered pending
  rw [waiting] at same
  obtain ⟨last, answered, returned⟩ := reply_returned same stored rfl
  exact ⟨last, sent.trans (wrapped.trans (asked.trans (delivered.trans answered))), returned⟩

theorem udp_ids_held (threads : UdpThreads C Q) (run : Run udpStep anyStep startUdp threads)
    (queryId : UInt16) (call : Nat) :
    threads.shared.transport.callbacks queryId = some call ↔ (threads.phase (.call call)).holds = some queryId := by
  induction run generalizing call with
  | refl => exact iff_of_false (by simp [startUdp]) (by simp [startUdp, UdpPhase.holds])
  | next label _ _ taken held =>
    obtain ⟨thread, _⟩ := label
    obtain ⟨_, after, moved, rfl⟩ := interleave_eq_some.mp taken
    have turn := udp_advance_turn moved
    have table := turn_callbacks turn queryId
    by_cases own : thread = .call call
    · subst own
      grind [turn_keeps_id, turn_holds]
    · grind

theorem registered_call_holds_id : ∃ threads : UdpThreads Nat String,
    Run udpStep anyStep startUdp threads ∧ (threads.phase (.call 0)).holds = some 1 := by
  have run : Run udpStep anyStep (startUdp : UdpThreads Nat String) _ :=
    run_of_execute [(.call 0, .exchange oldQuery), (.call 0, .grow), (.call 0, .acquired (some (0, true))), (.call 0, .lock)] _ _
      (fun _ _ _ => trivial) rfl
  exact ⟨_, run, (udp_ids_held _ run 1 0).mp rfl⟩

end OtunKernel.Transport
