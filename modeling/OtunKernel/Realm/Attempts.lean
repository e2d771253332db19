import OtunKernel.Realm.Channels

namespace OtunKernel.Realm

open Lib Machine

def Server.Serves (server : Server) (attempt : Attempt) : Prop :=
  ∃ sess channel, server.heap attempt.session = some sess ∧ server.channels attempt.channel = some channel ∧
    (sess.closed = true ∨ channel.buffer ≠ [] ∨ sess.pending.lookup attempt.request.nonce = some attempt.channel)

-- A deferred cancelPending finds under its nonce its own channel or nothing.
def CancelsOwn (machine : Machine) (event : RealmStep) : Prop :=
  ∀ goroutine attempt response sess channel, event = .cancel goroutine →
    machine.goroutines goroutine = some (.returning attempt response) →
    machine.server.heap attempt.session = some sess →
    sess.pending.lookup attempt.request.nonce = some channel → channel = attempt.channel

section
variable {server result : Server} {address : Nat} {attempt : Attempt} {sess changed : RealmSession}

section
variable (serves : server.Serves attempt) (stored : server.heap address = some sess)
variable (written : result.heap = put server.heap address changed)
include serves stored written

theorem serves_write (closed : sess.closed = true → changed.closed = true)
    (kept : attempt.session = address → sess.closed = false → ∀ channel, server.channels attempt.channel = some channel →
      channel.buffer = [] → sess.pending.lookup attempt.request.nonce = some attempt.channel →
      (∃ next, result.channels attempt.channel = some next ∧ next.buffer ≠ []) ∨ changed.closed = true ∨
        changed.pending.lookup attempt.request.nonce = some attempt.channel)
    (buffers : ∀ channel, server.channels attempt.channel = some channel →
      ∃ next, result.channels attempt.channel = some next ∧ (channel.buffer ≠ [] → next.buffer ≠ [])) : result.Serves attempt := by
  obtain ⟨found, channel, storedFound, storedChannel, state⟩ := serves
  obtain ⟨next, storedNext, answered⟩ := buffers channel storedChannel
  by_cases here : attempt.session = address
  · refine ⟨changed, next, by rw [written, here, put_same], storedNext, ?_⟩
    grind
  refine ⟨found, next, by rw [written, put_other _ _ _ _ here, storedFound], storedNext, ?_⟩
  grind

theorem serves_update (channels : result.channels = server.channels)
    (closed : changed.closed = sess.closed) (pending : changed.pending = sess.pending) : result.Serves attempt := by
  refine serves_write serves stored written (fun ended => closed.trans ended) ?_ ?_
  · simp_all
  · simp_all

end

theorem remove_serves (sound : server.Sound) (serves : server.Serves attempt)
    (done : server.removeSessionLocked address = some result) : result.Serves attempt := by
  obtain ⟨_, stored, rest⟩ := Option.bind_eq_some_iff.mp done
  split at rest
  · cases rest
    exact serves
  obtain ⟨_, _, later⟩ := Option.bind_eq_some_iff.mp rest
  obtain ⟨_, _, last⟩ := Option.bind_eq_some_iff.mp later
  obtain ⟨_, closed, same⟩ := Option.map_eq_some_iff.mp last
  obtain ⟨_, closedAgain, _, buffers⟩ := close_pending_channels sound stored
  cases same
  refine serves_write serves stored rfl (fun _ => rfl) (fun _ _ _ _ _ _ => .inr (.inl rfl)) ?_
  grind

theorem close_all_serves {order : List Nat} (sound : server.Sound) (allocated : ∀ address ∈ order, (server.heap address).isSome)
    (serves : server.Serves attempt) (done : server.closeAll order = some result) : result.Serves attempt := by
  induction order generalizing server with
  | nil =>
    cases done
    exact serves
  | cons address _ ih =>
    obtain ⟨_, removed, later⟩ := Option.bind_eq_some_iff.mp done
    obtain ⟨other, removedOther, kept, grows⟩ := remove_session_sound sound (allocated address List.mem_cons_self)
    rw [removed] at removedOther
    cases removedOther
    refine ih kept ?_ (remove_serves sound serves removed) later
    grind [grows.heap]

variable {nonce : String} {payload : List String} {channel : Nat}

theorem deliver_cases (done : server.deliverPending address nonce payload = some (result, delivered)) :
    result = server ∨ ∃ sess channel waiting sent, server.heap address = some sess ∧ sess.closed = false ∧
      sess.pending.lookup nonce = some channel ∧ server.channels channel = some waiting ∧
      waiting.trySend payload = some sent ∧
      result = { server with
        channels := put server.channels channel sent.1
        heap := put server.heap address { sess with pending := sess.pending.erase nonce } } := by
  obtain ⟨sess, stored, rest⟩ := Option.bind_eq_some_iff.mp done
  split at rest
  · grind
  rename_i opened
  split at rest
  · grind
  rename_i channel found
  obtain ⟨waiting, storedChannel, sending⟩ := Option.bind_eq_some_iff.mp rest
  obtain ⟨sent, taken, same⟩ := Option.map_eq_some_iff.mp sending
  cases same
  grind

theorem deliver_serves (sound : server.Sound) (serves : server.Serves attempt)
    (done : server.deliverPending address nonce payload = some (result, delivered)) : result.Serves attempt := by
  rcases deliver_cases done with same | ⟨sess, channel, waiting, sent, stored, opened, found, storedChannel, taken, same⟩
  · simp [same, serves]
  have ready := sound.waiting address sess nonce channel stored found
  rw [storedChannel] at ready
  cases ready
  have payloads : sent.1.buffer = [payload] := by
    cases taken
    rfl
  rw [same]
  refine serves_write serves stored rfl id ?_ ?_
  · intro _ _ _ _ _ pending
    by_cases own : attempt.channel = channel
    · simp [own, payloads]
    refine .inr (.inr (lookup_erase_eq_some.mpr ⟨?_, pending⟩))
    grind
  · grind

theorem register_pending_cases
    (done : server.registerPending address nonce channel = some (result, ready)) :
    (ready = false ∧ result = server) ∨ (ready = true ∧ ∃ sess, server.heap address = some sess ∧
      sess.pending.lookup nonce = none ∧
      result = { server with
        channels := put server.channels channel (Chan.make 1)
        heap := put server.heap address { sess with pending := sess.pending.insert nonce channel } }) := by
  obtain ⟨sess, stored, rest⟩ := Option.bind_eq_some_iff.mp done
  split at rest
  · simp_all
  split at rest
  · simp_all
  · simp_all

section
variable (serves : server.Serves attempt)
include serves

theorem send_event_serves {event : RealmEvent} {sent : Bool}
    (done : server.sendEvent address event = some (result, sent)) : result.Serves attempt := by
  obtain ⟨_, stored, rest⟩ := Option.bind_eq_some_iff.mp done
  grind [Option.map_eq_some_iff, serves_update]

variable {lag : Nat}

theorem extend_serves {request : RegisterRequest}
    (done : server.extend address request lag = some result) : result.Serves attempt := by
  obtain ⟨_, stored, same⟩ := Option.map_eq_some_iff.mp done
  grind [serves_update]

theorem fire_serves (done : server.fire address = some result) : result.Serves attempt := by
  obtain ⟨_, _, stored, _, _, same⟩ := fire_some done
  grind [serves_update]

theorem register_pending_serves (unused : server.channels channel = none)
    (done : server.registerPending address nonce channel = some (result, ready)) : result.Serves attempt := by
  rcases register_pending_cases done with ⟨_, same⟩ | ⟨_, sess, stored, free, same⟩
  · simp [same, serves]
  rw [same]
  refine serves_write serves stored rfl id ?_ ?_
  · grind [lookup_insert_eq_some]
  · grind

theorem cancel_serves (own : ∀ sess channel, server.heap address = some sess → sess.pending.lookup nonce = some channel →
      channel ≠ attempt.channel) (done : server.cancelPending address nonce = some result) : result.Serves attempt := by
  obtain ⟨sess, stored, same⟩ := Option.map_eq_some_iff.mp done
  cases same
  refine serves_write serves stored rfl id ?_ (fun other storedOther => ⟨other, storedOther, fun full => full⟩)
  intro _ _ _ _ _ pending
  refine .inr (.inr (lookup_erase_eq_some.mpr ⟨?_, pending⟩))
  grind

theorem receive_serves {rest : Chan (List String)}
    (different : attempt.channel ≠ channel) :
    Server.Serves { server with channels := put server.channels channel rest } attempt := by
  obtain ⟨sess, found, stored, storedChannel, state⟩ := serves
  exact ⟨sess, found, stored, (put_other _ _ _ _ different).trans storedChannel, state⟩

theorem enroll_serves {user : RealmUser} {id sessionID : String} {addresses relay : List String}
    (unused : server.heap address = none) : (server.enroll user id addresses relay sessionID address lag).Serves attempt := by
  obtain ⟨sess, found, stored, storedChannel, state⟩ := serves
  have different : attempt.session ≠ address := by grind
  exact ⟨sess, found, (put_other _ _ _ _ different).trans stored, storedChannel, state⟩

end
end

section
variable {parseAddrPort : String → Bool} {machine result : Machine} {event : RealmStep} {attempt : Attempt}
  {goroutine : Nat} {server : Server}

theorem awaiting_phase (awaits : machine.awaiting goroutine = some attempt) :
    ∃ phase, machine.goroutines goroutine = some phase ∧ phase.awaiting = some attempt ∧ phase.attempt = some attempt := by
  obtain ⟨phase, found, having⟩ := Option.bind_eq_some_iff.mp awaits
  refine ⟨phase, found, having, ?_⟩
  cases phase <;> first | exact having | contradiction

theorem after_serves {α : Type} {outcome : Option α} {next : α → Machine} (serves : machine.server.Serves attempt)
    (done : ∀ value, outcome = some value → (next value).server.Serves attempt) :
    (machine.after outcome next).server.Serves attempt := by
  cases computed : outcome with
  | none => exact serves
  | some value => exact done value computed

theorem operation_serves {session : Nat} {operation : Operation} {outcome : Server × Bool} (sound : server.Sound)
    (serves : server.Serves attempt) (done : operation.run server session = some outcome) : outcome.1.Serves attempt := by
  cases operation with
  | remove =>
    obtain ⟨_, removed, rfl⟩ := Option.map_eq_some_iff.mp done
    exact remove_serves sound serves removed
  | expire =>
    obtain ⟨_, _, ⟨_, _, same⟩ | ⟨_, _, gone⟩⟩ := remove_expired_cases done
    · simp [same, serves]
    · exact remove_serves sound serves gone
  | extend =>
    obtain ⟨_, extended, rfl⟩ := Option.map_eq_some_iff.mp done
    exact extend_serves serves extended
  | deliver => exact deliver_serves sound serves done
  | send => exact send_event_serves serves done

theorem step_serves (sound : machine.Sound) (own : CancelsOwn machine event) {goroutine : Nat}
    (taken : realmStep parseAddrPort machine event = some result) (awaits : machine.awaiting goroutine = some attempt)
    (still : result.awaiting goroutine = some attempt) (serves : machine.server.Serves attempt) :
    result.server.Serves attempt := by
  obtain ⟨_, atPhase, _, having⟩ := awaiting_phase awaits
  cases step_effect taken with
  | enrolled _ _ _ _ _ _ _ _ _ _ _ unused => exact enroll_serves serves unused
  | performed _ _ _ next _ _ _ after =>
    refine after_serves serves (fun outcome done => ?_)
    have next := operation_serves sound.server serves done
    rcases after outcome with ⟨_, ended⟩ | ⟨_, _, moved⟩
    · rw [ended]
      exact next
    rw [moved]
    exact next
  | pended _ _ _ _ _ _ _ _ unused =>
    refine after_serves serves (fun outcome done => ?_)
    have next := register_pending_serves serves unused done
    split
    · exact next
    · exact next
  | cancelled actor other response acts returning =>
    refine after_serves serves (fun server done => cancel_serves serves ?_ done)
    intro sess channel stored pending sameChannel
    have ours := own actor other response sess channel acts returning stored pending
    have same := sound.apart goroutine actor _ _ attempt other atPhase returning having rfl (sameChannel.symm.trans ours)
    subst same
    rw [returning] at atPhase
    cases atPhase
    contradiction
  | streamed _ _ _ _ stored => exact serves_update serves stored rfl rfl rfl rfl
  | received actor other _ _ _ _ _ _ waiting =>
    apply receive_serves serves
    intro sameChannel
    have same := sound.apart goroutine actor _ _ attempt other atPhase waiting having rfl sameChannel
    subst same
    simp [awaiting, become, Goroutine.awaiting] at still
  | fired _ _ _ _ done => exact fire_serves serves done
  | cleared _ _ enumerated =>
    exact after_serves serves
      (fun server done => close_all_serves sound.server (enumerated_allocated sound.server enumerated) serves done)
  | _ => exact serves

theorem registered_serves {channel : Nat}
    (taken : realmStep parseAddrPort machine (.registerPending goroutine channel) = some result) (calm : result.panicked = false)
    (awaits : result.awaiting goroutine = some attempt) : result.server.Serves attempt := by
  rw [realmStep] at taken
  split at taken
  · rename_i session request addresses relay phase
    split at taken
    · contradiction
    cases taken
    unfold registerPending at calm awaits ⊢
    cases done : machine.server.registerPending session request.nonce channel with
    | none =>
      rw [done] at calm
      contradiction
    | some outcome =>
      obtain ⟨_, _⟩ := outcome
      rw [done] at awaits
      rcases register_pending_cases done with ⟨refused, _⟩ | ⟨accepted, sess, stored, _, same⟩
      · simp_all [after, awaiting, finish]
      subst accepted
      simp only [after, awaiting, become, withServer, if_true, put_same,
        Option.bind_some, Goroutine.awaiting, Option.some.injEq] at awaits
      subst awaits
      subst same
      exact ⟨_, _, put_same _ _ _, put_same _ _ _, .inr (.inr (AList.lookup_insert _))⟩
  · contradiction

def Machine.AttemptsServed (machine : Machine) : Prop :=
  ∀ goroutine attempt, machine.awaiting goroutine = some attempt → machine.server.Serves attempt

theorem step_attempts_served (sound : machine.Sound) (served : machine.AttemptsServed) (own : CancelsOwn machine event)
    (taken : realmStep parseAddrPort machine event = some result) : result.AttemptsServed := by
  intro goroutine attempt awaits
  rcases awaiting_origin taken awaits with before | ⟨channel, registering⟩
  · exact step_serves sound own taken before awaits (served goroutine attempt before)
  subst registering
  exact registered_serves taken (step_sound sound taken).calm awaits

theorem run_attempts_served {now : Nat} {tokenMap : String → Option RealmUser}
    (run : Run (realmStep parseAddrPort) CancelsOwn (startMachine now tokenMap) machine) :
    machine.Sound ∧ machine.AttemptsServed := by
  refine run.invariant (fun machine => machine.Sound ∧ machine.AttemptsServed) ⟨start_sound now tokenMap, ?_⟩ ?_
  · intro _ _ awaits
    cases awaits
  intro _ _ _ holds own taken
  exact ⟨step_sound holds.1 taken, step_attempts_served holds.1 holds.2 own taken⟩

theorem deliver_pending_reaches {sess : RealmSession} {address channel : Nat} {nonce : String} (sound : server.Sound)
    (stored : server.heap address = some sess) (opened : sess.closed = false) (pending : sess.pending.lookup nonce = some channel)
    (payload : List String) : ∃ result answered, server.deliverPending address nonce payload = some (result, true) ∧
      result.channels channel = some answered ∧ answered.buffer = [payload] := by
  have ready := sound.waiting address sess nonce channel stored pending
  have computed : server.deliverPending address nonce payload = some ({ server with
      channels := put server.channels channel ⟨1, [payload], false, Nat.le_refl 1⟩
      heap := put server.heap address { sess with pending := sess.pending.erase nonce } }, true) := by
    rw [Server.deliverPending, stored, Option.bind_some, if_neg (by simp [opened]), pending]
    simp only [ready, Option.bind_some]
    rfl
  exact ⟨_, _, computed, put_same _ _ _, rfl⟩

theorem pending_ends_by_own_events (parseAddrPort : String → Bool) (now : Nat) (tokenMap : String → Option RealmUser)
    (machine : Machine) :
    (Run (realmStep parseAddrPort) anyStep (startMachine now tokenMap) machine →
      machine.panicked = false ∧ ∀ address sess, machine.server.heap address = some sess →
        sess.pending.entries.length ≤ maxPendingAttempts) ∧
    (Run (realmStep parseAddrPort) CancelsOwn (startMachine now tokenMap) machine →
      ∀ goroutine attempt, machine.awaiting goroutine = some attempt →
        ∃ sess channel, machine.server.heap attempt.session = some sess ∧
          machine.server.channels attempt.channel = some channel ∧
          (sess.closed = true ∨ channel.buffer ≠ [] ∨
            sess.pending.lookup attempt.request.nonce = some attempt.channel ∧
            ∀ payload, ∃ result answered,
              machine.server.deliverPending attempt.session attempt.request.nonce payload = some (result, true) ∧
              result.channels attempt.channel = some answered ∧ answered.buffer = [payload])) := by
  constructor
  · intro run
    have sound := run_sound_channels run
    exact ⟨sound.calm, sound.server.bounded⟩
  intro run goroutine attempt awaits
  obtain ⟨sound, served⟩ := run_attempts_served run
  obtain ⟨sess, channel, stored, storedChannel, state⟩ := served goroutine attempt awaits
  refine ⟨sess, channel, stored, storedChannel, ?_⟩
  rcases state with ended | full | pending
  · exact .inl ended
  · exact .inr (.inl full)
  cases opened : sess.closed with
  | true => exact .inl rfl
  | false => exact .inr (.inr ⟨pending, deliver_pending_reaches sound.server stored opened pending⟩)

def someNonce : String := "00112233445566778899aabbccddeeff"

def connectRequest : ConnectRequest :=
  ⟨["192.0.2.1:443"], someNonce, "00112233445566778899aabbccddeeff00112233445566778899aabbccddeeff"⟩

def connectHome (goroutine channel : Nat) : List RealmStep :=
  [.lookupRealm goroutine "Bearer secret" "home" (.decoded connectRequest), .registerPending goroutine channel,
    .sendPunch goroutine]

def respondHome (goroutine : Nat) : List RealmStep :=
  [.authenticate goroutine "Bearer s1" "home" (.connectResponse someNonce (.decoded ["192.0.2.1:443"])),
    .handle goroutine 0]

def answeredHome : List RealmStep := registerHome 0 "s1" 7 :: connectHome 1 0 ++ respondHome 2 ++ [.wake 1 .answered]

theorem cancel_removes_later_attempt :
    ∃ machine sess channel,
      execute (realmStep oneAddress) (startMachine 0 oneUser)
        (registerHome 0 "s1" 7 :: connectHome 1 0 ++ respondHome 2 ++ connectHome 3 1 ++ [.wake 1 .answered, .cancel 1] ++
          respondHome 4) = some machine ∧
      machine.awaiting 3 = some ⟨7, connectRequest, 1, ["192.0.2.1:443"], []⟩ ∧
      machine.server.heap 7 = some sess ∧ sess.closed = false ∧
      machine.server.channels 1 = some channel ∧ channel.buffer = [] ∧
      sess.pending.lookup someNonce = none ∧
      machine.answers 4 = some (.error 404 "attempt_not_found" "no pending attempt for nonce") :=
  ⟨_, _, _, rfl, rfl, rfl, rfl, rfl, rfl, rfl, rfl⟩

theorem later_attempt_pending :
    ∃ machine sess,
      execute (realmStep oneAddress) (startMachine 0 oneUser) (answeredHome ++ .cancel 1 :: connectHome 3 1) = some machine ∧
      machine.panicked = false ∧ machine.server.heap 7 = some sess ∧ sess.pending.lookup someNonce = some 1 := by
  obtain ⟨before, cancelled, machine, first, taken, second, executed, ⟨_, returning⟩, answered, awaits, opened, unanswered⟩ :
      ∃ before cancelled machine, execute (realmStep oneAddress) (startMachine 0 oneUser) answeredHome = some before ∧
        realmStep oneAddress before (.cancel 1) = some cancelled ∧
        execute (realmStep oneAddress) cancelled (connectHome 3 1) = some machine ∧
        execute (realmStep oneAddress) (startMachine 0 oneUser) (answeredHome ++ .cancel 1 :: connectHome 3 1) = some machine ∧
        (∃ response, before.goroutines 1 = some (.returning ⟨7, connectRequest, 0, ["192.0.2.1:443"], []⟩ response)) ∧
        (before.server.heap 7).bind (fun sess => sess.pending.lookup someNonce) = none ∧
        machine.awaiting 3 = some ⟨7, connectRequest, 1, ["192.0.2.1:443"], []⟩ ∧
        (machine.server.heap 7).map RealmSession.closed = some false ∧
        (machine.server.channels 1).map Chan.buffer = some [] :=
    ⟨_, _, _, rfl, rfl, rfl, rfl, ⟨_, rfl⟩, rfl, rfl, rfl, rfl⟩
  have others (events : List RealmStep) (none_cancels : ∀ goroutine, .cancel goroutine ∉ events) :
      ∀ event ∈ events, ∀ state, CancelsOwn state event := by
    rintro event member state goroutine _ _ _ _ rfl
    exact absurd member (none_cancels goroutine)
  have own : CancelsOwn before (.cancel 1) := by
    rintro _ attempt _ sess channel ⟨⟩ at_ stored pending
    cases returning.symm.trans at_
    have found : sess.pending.lookup someNonce = some channel := pending
    simp [stored, found] at answered
  have run : Run (realmStep oneAddress) CancelsOwn (startMachine 0 oneUser) machine :=
    ((run_of_execute _ _ _ (others _ (by simp [answeredHome, registerHome, connectHome, respondHome])) first).next _ own taken).trans
      (run_of_execute _ _ _ (others _ (by simp [connectHome])) second)
  obtain ⟨calm, served⟩ := pending_ends_by_own_events oneAddress 0 oneUser machine
  obtain ⟨sess, _, stored, storedChannel, state⟩ := served run 3 _ awaits
  refine ⟨machine, sess, executed, (calm (run.mono (fun _ _ _ => trivial))).1, stored, ?_⟩
  rcases state with ended | full | pending
  · simp_all
  · grind
  · exact pending.1

end
end OtunKernel.Realm
