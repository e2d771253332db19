import OtunKernel.Realm.Machine

namespace OtunKernel.Realm

open Lib Machine Server

section
variable {β : Type} {view : RealmSession → β} {heap : Nat → Option RealmSession} {address : Nat}

def SameView (view : RealmSession → β) (before result : Nat → Option RealmSession) : Prop :=
  ∀ address, (result address).map view = (before address).map view

variable {sess : RealmSession} {before result : Nat → Option RealmSession}

theorem same_view_put {changed : RealmSession} (stored : heap address = some sess)
    (same : view changed = view sess) : SameView view heap (put heap address changed) := by
  intro other
  by_cases here : other = address
  · rw [here, put_same, stored, Option.map_some, Option.map_some, same]
  · rw [put_other _ _ _ _ here]

theorem same_view_some (same : SameView view before result) (stored : result address = some sess) :
    ∃ old, before address = some old ∧ view old = view sess := by
  have equal := same address
  rw [stored] at equal
  exact Option.map_eq_some_iff.mp equal.symm

theorem same_view_symm (same : SameView view before result) : SameView view result before :=
  fun address => (same address).symm

end

structure Lease where
  id : String
  realmID : String
  username : String
  closed : Bool
  expires : Nat
  timer : Option Nat

def RealmSession.lease (sess : RealmSession) : Lease :=
  ⟨sess.id, sess.realmID, sess.username, sess.closed, sess.expires, sess.timer⟩

structure Server.Quiet (server result : Server) : Prop where
  now : server.now ≤ result.now
  realms : result.realms = server.realms
  sessions : result.sessions = server.sessions
  userCounts : result.userCounts = server.userCounts
  leases : SameView RealmSession.lease server.heap result.heap

section
variable {server result : Server} {address : Nat} {nonce : String}

theorem quiet_refl (server : Server) : server.Quiet server := ⟨Nat.le_refl _, rfl, rfl, rfl, fun _ => rfl⟩

theorem quiet_put {sess changed : RealmSession} (channels : Nat → Option (Chan (List String)))
    (stored : server.heap address = some sess) (same : changed.lease = sess.lease) :
    server.Quiet { server with channels := channels, heap := put server.heap address changed } :=
  ⟨Nat.le_refl _, rfl, rfl, rfl, same_view_put stored same⟩

theorem register_pending_quiet {channel : Nat} {ready : Bool}
    (done : server.registerPending address nonce channel = some (result, ready)) : server.Quiet result := by
  obtain ⟨_, stored, rest⟩ := Option.bind_eq_some_iff.mp done
  split at rest
  · cases rest
    exact quiet_refl server
  split at rest
  · cases rest
    exact quiet_refl server
  cases rest
  exact quiet_put _ stored rfl

theorem deliver_pending_quiet {payload : List String} {delivered : Bool}
    (done : server.deliverPending address nonce payload = some (result, delivered)) : server.Quiet result := by
  obtain ⟨_, stored, rest⟩ := Option.bind_eq_some_iff.mp done
  split at rest
  · cases rest
    exact quiet_refl server
  split at rest
  · cases rest
    exact quiet_refl server
  obtain ⟨_, _, sending⟩ := Option.bind_eq_some_iff.mp rest
  obtain ⟨_, _, same⟩ := Option.map_eq_some_iff.mp sending
  cases same
  exact quiet_put _ stored rfl

theorem cancel_pending_quiet (done : server.cancelPending address nonce = some result) : server.Quiet result := by
  obtain ⟨_, stored, same⟩ := Option.map_eq_some_iff.mp done
  cases same
  exact quiet_put server.channels stored rfl

theorem send_event_quiet {event : RealmEvent} {sent : Bool}
    (done : server.sendEvent address event = some (result, sent)) : server.Quiet result := by
  obtain ⟨_, stored, rest⟩ := Option.bind_eq_some_iff.mp done
  split at rest
  · cases rest
    exact quiet_refl server
  obtain ⟨_, _, same⟩ := Option.map_eq_some_iff.mp rest
  cases same
  exact quiet_put server.channels stored rfl

end

def RealmStep.drawn : RealmStep → Option String
  | .register _ _ _ _ entropy _ _ => entropy
  | _ => none

def Machine.removals (machine : Machine) : RealmStep → List Nat
  | .handle goroutine _ =>
    match machine.goroutines goroutine with
    | some (.authenticated session .deregister) => [session]
    | _ => []
  | .expire goroutine =>
    match machine.goroutines goroutine with
    | some (.expiring session) =>
      if (machine.server.heap session).any (fun sess => sess.closed || !decide (sess.expires < machine.server.now))
      then [] else [session]
    | _ => []
  | .closeAll order => order
  | _ => []

def Server.enroll (server : Server) (user : RealmUser) (id : String) (addresses relay : List String)
    (sessionID : String) (address lag : Nat) : Server :=
  { server with
    now := server.now + lag
    heap := put server.heap address (server.newSession sessionID id user addresses relay lag)
    realms := server.realms.insert id address
    sessions := server.sessions.insert sessionID address
    userCounts := increment server.userCounts user.name }

inductive Change (parseAddrPort : String → Bool) (machine : Machine) (event : RealmStep) : Server → Prop where
  | quiet {server : Server} (same : machine.server.Quiet server) : Change parseAddrPort machine event server
  | registered (user : RealmUser) (id : String) (addresses relay : List String) (sessionID : String)
      (address lag : Nat) (drawn : event.drawn = some sessionID) (unused : machine.server.heap address = none)
      (free : machine.server.realms.lookup id = none)
      (quota : 0 < user.maxRealms → (machine.server.userCounts.lookup user.name).getD 0 < user.maxRealms) :
      Change parseAddrPort machine event (machine.server.enroll user id addresses relay sessionID address lag)
  | extended {server : Server} (goroutine address : Nat) (body : Body RegisterRequest) (request : RegisterRequest)
      (lag : Nat) (handled : event = .handle goroutine lag)
      (phase : machine.goroutines goroutine = some (.authenticated address (.heartbeat body)))
      (valid : decodeHeartbeat parseAddrPort body = .ok request)
      (done : machine.server.extend address request lag = some server) : Change parseAddrPort machine event server
  | fired {server : Server} (address goroutine : Nat) (firing : event = .fire address goroutine)
      (done : machine.server.fire address = some server) : Change parseAddrPort machine event server
  | removed {server : Server} (done : machine.server.closeAll (machine.removals event) = some server) :
      Change parseAddrPort machine event server

variable {parseAddrPort : String → Bool} {machine result : Machine} {event : RealmStep}

section
variable {address goroutine : Nat} {header id : String}

theorem fire_some {server result : Server} (done : server.fire address = some result) :
    ∃ sess deadline, server.heap address = some sess ∧ sess.timer = some deadline ∧ deadline ≤ server.now ∧
      result = { server with heap := put server.heap address { sess with timer := none } } := by
  obtain ⟨sess, stored, rest⟩ := Option.bind_eq_some_iff.mp done
  grind [Option.bind_eq_some_iff]

theorem after_server {α : Type} {outcome : Option α} {next : α → Machine} {holds : Server → Prop} (crashed : holds machine.server)
    (done : ∀ value, outcome = some value → holds (next value).server) : holds (machine.after outcome next).server := by
  cases computed : outcome with
  | none => exact crashed
  | some value => exact done value computed

theorem close_all_single (server : Server) (address : Nat) : server.closeAll [address] = server.removeSessionLocked address := by
  simp [closeAll]

theorem remove_expired_cases {server after : Server} {removed : Bool}
    (done : server.removeExpiredSession address = some (after, removed)) : ∃ sess, server.heap address = some sess ∧
      ((sess.closed || !decide (sess.expires < server.now)) = true ∧ removed = false ∧ after = server ∨
        (sess.closed || !decide (sess.expires < server.now)) = false ∧ removed = true ∧
          server.removeSessionLocked address = some after) := by
  obtain ⟨sess, stored, rest⟩ := Option.bind_eq_some_iff.mp done
  split at rest
  · simp_all
  obtain ⟨_, taken, same⟩ := Option.map_eq_some_iff.mp rest
  grind

inductive Registration (machine : Machine) (goroutine : Nat) (header id : String) (entropy : Option String)
    (address lag : Nat) : Machine → Prop where
  | rejected (status : Nat) (error message : String) (early : status = 400 ∨ status = 401) :
      Registration machine goroutine header id entropy address lag
        (machine.finish goroutine (.error status error message))
  | taken (held : Nat) (present : machine.server.realms.lookup id = some held) :
      Registration machine goroutine header id entropy address lag
        (machine.finish goroutine (.error 409 "realm_taken" "realm already registered"))
  | full : Registration machine goroutine header id entropy address lag
      (machine.finish goroutine (.error 429 "realm_limit_reached" "per-user realm limit reached"))
  | failed : Registration machine goroutine header id entropy address lag
      (machine.finish goroutine (.error 500 "internal" "entropy failure"))
  | admitted (user : RealmUser) (addresses relay : List String) (sessionID : String)
      (known : machine.server.authUser header = some user) (drawn : entropy = some sessionID)
      (free : machine.server.realms.lookup id = none)
      (quota : 0 < user.maxRealms → (machine.server.userCounts.lookup user.name).getD 0 < user.maxRealms) :
      Registration machine goroutine header id entropy address lag
        ((machine.withServer (machine.server.enroll user id addresses relay sessionID address lag)).finish goroutine
          (.registered sessionID (sessionTTL / second)))

variable {body : Body RegisterRequest}

theorem decode_register_error {response : Response} (invalid : decodeRegister parseAddrPort body = .error response) :
    ∃ message, response = .error 400 "bad_request" message := by
  revert invalid
  fun_cases decodeRegister parseAddrPort body <;> rintro ⟨⟩ <;> exact ⟨_, rfl⟩

theorem handle_register_outcome (parseAddrPort : String → Bool) (machine : Machine) (goroutine : Nat) (header id : String)
    (body : Body RegisterRequest) (entropy : Option String) (address lag : Nat) :
    Registration machine goroutine header id entropy address lag
      (machine.handleRegister parseAddrPort goroutine header id body entropy address lag) := by
  fun_cases handleRegister
  · exact .rejected 400 _ _ (.inl rfl)
  · exact .rejected 401 _ _ (.inr rfl)
  · rename_i invalid
    obtain ⟨_, same⟩ := decode_register_error invalid
    rw [same]
    exact .rejected 400 _ _ (.inl rfl)
  rename_i user known addresses relay _ outcome
  dsimp only [outcome]
  fun_cases register
  · rename_i held
    exact .taken _ (Option.some_get held).symm
  · exact .full
  · exact .failed
  · rename_i held quota sessionID
    exact .admitted user addresses relay sessionID known rfl (by simpa using held) (by grind)

theorem authenticate_server {request : SessionRequest} :
    (machine.authenticate goroutine header id request).server = machine.server := by
  fun_cases authenticate <;> rfl

inductive Woken (machine : Machine) (goroutine : Nat) (attempt : Attempt) : Machine → Prop where
  | crashed (absent : machine.server.channels attempt.channel = none) : Woken machine goroutine attempt machine.crash
  | returned (response : Response) : Woken machine goroutine attempt (machine.become goroutine (.returning attempt response))
  | received (channel rest : Chan (List String)) (value : Option (List String)) (response : Response)
      (found : machine.server.channels attempt.channel = some channel) (read : channel.receive = some (value, rest)) :
      Woken machine goroutine attempt ((machine.withServer { machine.server with
        channels := put machine.server.channels attempt.channel rest }).become goroutine (.returning attempt response))

variable {attempt : Attempt}

theorem wake_outcome {deadline : Nat} {cause : Wake}
    (taken : machine.wake goroutine attempt deadline cause = some result) : Woken machine goroutine attempt result := by
  revert taken
  fun_cases wake <;> intro taken <;> try cases taken
  case case1 =>
    revert taken
    fun_cases receive <;> rintro ⟨⟩
    · rename_i absent
      exact .crashed absent
    · exact .returned _
    · rename_i found _ _ received _ _
      exact .received _ _ _ _ found received
  all_goals exact .returned _

end

def RealmStep.actor : RealmStep → Option Nat
  | .tick _ => none
  | .register goroutine _ _ _ _ _ _ => some goroutine
  | .authenticate goroutine _ _ _ => some goroutine
  | .handle goroutine _ => some goroutine
  | .acknowledge goroutine => some goroutine
  | .stream goroutine => some goroutine
  | .hangUp goroutine => some goroutine
  | .lookupRealm goroutine _ _ _ => some goroutine
  | .registerPending goroutine _ => some goroutine
  | .sendPunch goroutine => some goroutine
  | .wake goroutine _ => some goroutine
  | .cancel goroutine => some goroutine
  | .fire _ goroutine => some goroutine
  | .expire goroutine => some goroutine
  | .closeAll _ => none

def Goroutine.awaiting : Goroutine → Option Attempt
  | .registered attempt => some attempt
  | .waiting attempt _ => some attempt
  | _ => none

def Machine.awaiting (machine : Machine) (goroutine : Nat) : Option Attempt :=
  (machine.goroutines goroutine).bind Goroutine.awaiting

def Goroutine.session : Goroutine → Nat
  | .authenticated session _ => session
  | .extended session => session
  | .streaming session => session
  | .found session _ _ _ => session
  | .registered attempt => attempt.session
  | .waiting attempt _ => attempt.session
  | .returning attempt _ => attempt.session
  | .expiring session => session

def Goroutine.attempt : Goroutine → Option Attempt
  | .registered attempt => some attempt
  | .waiting attempt _ => some attempt
  | .returning attempt _ => some attempt
  | _ => none

structure Goroutine.Follows (phase next : Goroutine) : Prop where
  session : next.session = phase.session
  attempt : next.attempt = none ∨ phase.attempt = next.attempt
  awaiting : next.awaiting = none ∨ phase.awaiting = next.awaiting
  later : ∀ session request, next ≠ .authenticated session request

inductive Operation where
  | remove
  | expire
  | extend (request : RegisterRequest) (lag : Nat)
  | deliver (nonce : String) (payload : List String)
  | send (event : RealmEvent)

def Operation.run (server : Server) (session : Nat) : Operation → Option (Server × Bool)
  | .remove => (server.removeSessionLocked session).map (fun server => (server, true))
  | .expire => server.removeExpiredSession session
  | .extend request lag => (server.extend session request lag).map (fun server => (server, true))
  | .deliver nonce payload => server.deliverPending session nonce payload
  | .send event => server.sendEvent session event

inductive Effect (parseAddrPort : String → Bool) (machine : Machine) (event : RealmStep) : Machine → Prop where
  | ticked (elapsed : Nat) : Effect parseAddrPort machine event
      (machine.withServer { machine.server with now := machine.server.now + elapsed })
  | answered (goroutine : Nat) (response : Response) (acts : event.actor = some goroutine) :
      Effect parseAddrPort machine event (machine.finish goroutine response)
  | enrolled (goroutine : Nat) (response : Response) (user : RealmUser) (id : String) (addresses relay : List String)
      (sessionID : String) (address lag : Nat) (acts : event.actor = some goroutine) (drawn : event.drawn = some sessionID)
      (unused : machine.server.heap address = none) (free : machine.server.realms.lookup id = none)
      (quota : 0 < user.maxRealms → (machine.server.userCounts.lookup user.name).getD 0 < user.maxRealms) :
      Effect parseAddrPort machine event
        ((machine.withServer (machine.server.enroll user id addresses relay sessionID address lag)).finish goroutine response)
  | authenticated (goroutine : Nat) (header id : String) (request : SessionRequest) (session : Nat)
      (acts : event = .authenticate goroutine header id request) (known : machine.server.authSession header id = some session) :
      Effect parseAddrPort machine event (machine.become goroutine (.authenticated session request))
  | found (goroutine session : Nat) (request : ConnectRequest) (addresses relay : List String)
      (acts : event.actor = some goroutine) (allocated : (machine.server.heap session).isSome) :
      Effect parseAddrPort machine event (machine.become goroutine (.found session request addresses relay))
  | became (goroutine : Nat) (phase next : Goroutine) (acts : event.actor = some goroutine)
      (stands : machine.goroutines goroutine = some phase) (follows : phase.Follows next) :
      Effect parseAddrPort machine event (machine.become goroutine next)
  | performed (goroutine : Nat) (phase : Goroutine) (operation : Operation) (next : Server × Bool → Machine)
      (acts : event.actor = some goroutine) (stands : machine.goroutines goroutine = some phase)
      (change : ∀ outcome, operation.run machine.server phase.session = some outcome →
        Change parseAddrPort machine event outcome.1)
      (after : ∀ outcome, (∃ response, next outcome = (machine.withServer outcome.1).finish goroutine response) ∨
        ∃ later, phase.Follows later ∧ next outcome = (machine.withServer outcome.1).become goroutine later) :
      Effect parseAddrPort machine event (machine.after (operation.run machine.server phase.session) next)
  | pended (goroutine session : Nat) (request : ConnectRequest) (addresses relay : List String) (channel : Nat)
      (acts : event = .registerPending goroutine channel)
      (stands : machine.goroutines goroutine = some (.found session request addresses relay))
      (unused : machine.server.channels channel = none) :
      Effect parseAddrPort machine event (machine.registerPending goroutine session request addresses relay channel)
  | cancelled (goroutine : Nat) (attempt : Attempt) (response : Response) (acts : event = .cancel goroutine)
      (stands : machine.goroutines goroutine = some (.returning attempt response)) :
      Effect parseAddrPort machine event (machine.after (machine.server.cancelPending attempt.session attempt.request.nonce)
        (fun server => (machine.withServer server).finish goroutine response))
  | streamed (session : Nat) (sess : RealmSession) (value : Option RealmEvent) (events : Chan RealmEvent)
      (stored : machine.server.heap session = some sess) (received : sess.events.receive = some (value, events)) :
      Effect parseAddrPort machine event (machine.withServer { machine.server with
        heap := put machine.server.heap session { sess with events := events } })
  | received (goroutine : Nat) (attempt : Attempt) (deadline : Nat) (channel rest : Chan (List String))
      (value : Option (List String)) (response : Response) (acts : event.actor = some goroutine)
      (stands : machine.goroutines goroutine = some (.waiting attempt deadline))
      (found : machine.server.channels attempt.channel = some channel) (read : channel.receive = some (value, rest)) :
      Effect parseAddrPort machine event ((machine.withServer { machine.server with
        channels := put machine.server.channels attempt.channel rest }).become goroutine (.returning attempt response))
  | lost (goroutine : Nat) (phase : Goroutine) (stands : machine.goroutines goroutine = some phase)
      (absent : machine.server.heap phase.session = none ∨
        ∃ attempt, phase.attempt = some attempt ∧ machine.server.channels attempt.channel = none) :
      Effect parseAddrPort machine event machine.crash
  | fired (address goroutine : Nat) (server : Server) (acts : event = .fire address goroutine)
      (done : machine.server.fire address = some server) :
      Effect parseAddrPort machine event ((machine.withServer server).become goroutine (.expiring address))
  | cleared (order : List Nat) (acts : event = .closeAll order)
      (enumerated : order.Perm (machine.server.sessions.entries.map Sigma.snd)) :
      Effect parseAddrPort machine event (machine.after (machine.server.closeAll order) machine.withServer)

variable {goroutine session : Nat} {request : SessionRequest}

section
variable {header id : String}

theorem after_map {α β : Type} (outcome : Option α) (f : α → β) (next : β → Machine) :
    machine.after (outcome.map f) next = machine.after outcome (fun value => next (f value)) := by
  cases outcome <;> rfl

theorem register_effect {address lag : Nat} {entropy : Option String} (unused : machine.server.heap address = none) :
    Effect parseAddrPort machine (.register goroutine header id body entropy address lag)
      (machine.handleRegister parseAddrPort goroutine header id body entropy address lag) := by
  have outcome := handle_register_outcome parseAddrPort machine goroutine header id body entropy address lag
  generalize machine.handleRegister parseAddrPort goroutine header id body entropy address lag = result at outcome
  cases outcome with
  | admitted user addresses relay sessionID _ drawn free quota =>
    exact .enrolled goroutine _ user id addresses relay sessionID address lag rfl drawn unused free quota
  | _ => exact .answered goroutine _ rfl

theorem handle_effect {lag : Nat} (stands : machine.goroutines goroutine = some (.authenticated session request)) :
    Effect parseAddrPort machine (.handle goroutine lag) (machine.handle parseAddrPort goroutine session lag request) := by
  cases request with
  | deregister =>
    have performed : Effect parseAddrPort machine (.handle goroutine lag) (machine.after
        (Operation.remove.run machine.server session)
        (fun outcome => (machine.withServer outcome.1).finish goroutine .noContent)) := by
      refine .performed goroutine _ .remove _ rfl stands ?_ (fun _ => .inl ⟨_, rfl⟩)
      intro outcome done
      obtain ⟨_, removed, rfl⟩ := Option.map_eq_some_iff.mp done
      refine .removed ?_
      rw [removals, stands, close_all_single]
      exact removed
    rwa [Operation.run, after_map] at performed
  | heartbeat body =>
    rw [handle, handleHeartbeat]
    split
    · exact .answered goroutine _ rfl
    rename_i request valid
    have performed : Effect parseAddrPort machine (.handle goroutine lag) (machine.after
        ((Operation.extend request lag).run machine.server session)
        (fun outcome => (machine.withServer outcome.1).become goroutine (.extended session))) := by
      refine .performed goroutine _ (.extend request lag) _ rfl stands ?_
        (fun _ => .inr ⟨.extended session, ⟨rfl, .inl rfl, .inl rfl, by simp⟩, rfl⟩)
      intro outcome done
      obtain ⟨_, extended, rfl⟩ := Option.map_eq_some_iff.mp done
      exact .extended goroutine session body request lag rfl stands valid extended
    rwa [Operation.run, after_map] at performed
  | events => exact .became goroutine _ (.streaming session) rfl stands ⟨rfl, .inl rfl, .inl rfl, by simp⟩
  | connectResponse nonce =>
    rw [handle, handleConnectResponse]
    split
    · exact .answered goroutine _ rfl
    rename_i addresses valid
    exact .performed goroutine _ (.deliver nonce addresses) _ rfl stands
      (fun outcome done => .quiet (deliver_pending_quiet done)) (fun _ => .inl ⟨_, rfl⟩)

theorem stream_effect (stands : machine.goroutines goroutine = some (.streaming session))
    (taken : machine.stream goroutine session = some result) : Effect parseAddrPort machine (.stream goroutine) result := by
  revert taken
  fun_cases stream <;> rintro ⟨⟩
  · rename_i absent
    exact .lost goroutine _ stands (.inl absent)
  · exact .answered goroutine _ rfl
  · rename_i stored _ _ received
    exact .streamed session _ _ _ stored received

theorem find_realm_allocated {server : Server} {address : Nat} {sess : RealmSession}
    (found : server.findRealm id = some (address, sess)) : server.heap address = some sess := by
  grind [findRealm]

theorem lookup_realm_effect {body : Body ConnectRequest} : Effect parseAddrPort machine (.lookupRealm goroutine header id body)
      (machine.lookupRealm parseAddrPort goroutine header id body) := by
  fun_cases lookupRealm <;> try exact .answered goroutine _ rfl
  rename_i found
  exact .found goroutine _ _ _ _ rfl (Option.isSome_of_eq_some (find_realm_allocated found))

theorem authenticate_effect :
    Effect parseAddrPort machine (.authenticate goroutine header id request) (machine.authenticate goroutine header id request) := by
  fun_cases authenticate <;> try exact .answered goroutine _ rfl
  rename_i known
  exact .authenticated goroutine header id request _ rfl known

theorem wake_effect {deadline : Nat} {cause : Wake} (stands : machine.goroutines goroutine = some (.waiting attempt deadline))
    (taken : machine.wake goroutine attempt deadline cause = some result) :
    Effect parseAddrPort machine (.wake goroutine cause) result := by
  cases wake_outcome taken with
  | crashed absent => exact .lost goroutine _ stands (.inr ⟨attempt, rfl, absent⟩)
  | returned => exact .became goroutine _ _ rfl stands ⟨rfl, .inr rfl, .inl rfl, by simp⟩
  | received channel rest value response found read =>
    exact .received goroutine attempt deadline channel rest value response rfl stands found read

theorem expire_effect (stands : machine.goroutines goroutine = some (.expiring session)) :
    Effect parseAddrPort machine (.expire goroutine) (machine.after (machine.server.removeExpiredSession session)
      (fun outcome => (machine.withServer outcome.1).finish goroutine .nothing)) := by
  refine .performed goroutine _ .expire _ rfl stands ?_ (fun _ => .inl ⟨_, rfl⟩)
  intro _ done
  obtain ⟨sess, stored, ⟨_, _, same⟩ | ⟨expired, _, gone⟩⟩ := remove_expired_cases done
  · rw [same]
    exact .quiet (quiet_refl _)
  refine .removed ?_
  rw [removals, stands]
  simp only [show machine.server.heap session = some sess from stored, Option.any_some, expired, Bool.false_eq_true, if_false]
  rw [close_all_single]
  exact gone

theorem step_effect (taken : realmStep parseAddrPort machine event = some result) : Effect parseAddrPort machine event result := by
  revert taken
  fun_cases realmStep parseAddrPort machine event <;> intro taken <;> try cases taken
  · exact .ticked _
  · rename_i idle
    simp only [Bool.or_eq_true, not_or, Bool.not_eq_true, Option.isSome_eq_false_iff, Option.isNone_iff_eq_none] at idle
    exact register_effect idle.2
  · exact authenticate_effect
  · rename_i stands
    exact handle_effect stands
  · rename_i stands
    exact .performed _ _ (.send _) _ rfl stands (fun _ done => .quiet (send_event_quiet done)) (fun _ => .inl ⟨_, rfl⟩)
  · rename_i stands
    exact stream_effect stands taken
  · exact .answered _ _ rfl
  · exact lookup_realm_effect
  · rename_i stands free
    exact .pended _ _ _ _ _ _ rfl stands (by simpa using free)
  · rename_i attempt stands
    refine .performed _ _ (.send _) _ rfl stands (fun _ done => .quiet (send_event_quiet done)) ?_
    intro _
    split
    · exact .inr ⟨.waiting attempt _, ⟨rfl, .inr rfl, .inr rfl, by simp⟩, rfl⟩
    · exact .inr ⟨.returning attempt _, ⟨rfl, .inr rfl, .inl rfl, by simp⟩, rfl⟩
  · rename_i stands
    exact wake_effect stands taken
  · rename_i stands
    exact .cancelled _ _ _ rfl stands
  · obtain ⟨server, done, rfl⟩ := Option.map_eq_some_iff.mp taken
    exact .fired _ _ server rfl done
  · rename_i stands
    exact expire_effect stands
  · rename_i enumerated
    exact .cleared _ rfl enumerated

theorem step_change (taken : realmStep parseAddrPort machine event = some result) :
    Change parseAddrPort machine event result.server := by
  have same : Change parseAddrPort machine event machine.server := .quiet (quiet_refl _)
  cases step_effect taken with
  | ticked => exact .quiet ⟨Nat.le_add_right _ _, rfl, rfl, rfl, fun _ => rfl⟩
  | enrolled _ _ user id addresses relay sessionID address lag _ drawn unused free quota =>
    exact .registered user id addresses relay sessionID address lag drawn unused free quota
  | performed _ _ _ _ _ _ change after =>
    refine after_server same (fun outcome done => ?_)
    rcases after outcome with ⟨_, ended⟩ | ⟨_, _, moved⟩
    · rw [ended]
      exact change outcome done
    rw [moved]
    exact change outcome done
  | pended =>
    refine after_server same (fun outcome done => ?_)
    have quiet := register_pending_quiet done
    split
    · exact .quiet quiet
    · exact .quiet quiet
  | cancelled =>
    exact after_server same (fun server done => .quiet (cancel_pending_quiet done))
  | streamed _ _ _ _ stored => exact .quiet (quiet_put machine.server.channels stored rfl)
  | received => exact .quiet ⟨Nat.le_refl _, rfl, rfl, rfl, fun _ => rfl⟩
  | fired address goroutine _ acts done => exact .fired address goroutine acts done
  | cleared _ acts =>
    subst acts
    exact after_server same (fun server done => .removed done)
  | _ => exact same

end

inductive Moved (machine : Machine) (event : RealmStep) : (Nat → Option Goroutine) → Prop where
  | stayed : Moved machine event machine.goroutines
  | ended (goroutine : Nat) (acts : event.actor = some goroutine) : Moved machine event (erase machine.goroutines goroutine)
  | authenticated (goroutine : Nat) (header id : String) (request : SessionRequest) (session : Nat)
      (acts : event = .authenticate goroutine header id request) (known : machine.server.authSession header id = some session) :
      Moved machine event (put machine.goroutines goroutine (.authenticated session request))
  | moved (goroutine : Nat) (phase : Goroutine) (acts : event.actor = some goroutine)
      (later : ∀ session request, phase ≠ .authenticated session request)
      (origin : phase.awaiting = none ∨ machine.awaiting goroutine = phase.awaiting ∨
        ∃ channel, event = .registerPending goroutine channel) :
      Moved machine event (put machine.goroutines goroutine phase)

theorem after_moved {α : Type} {outcome : Option α} {next : α → Machine}
    (done : ∀ value, Moved machine event (next value).goroutines) : Moved machine event (machine.after outcome next).goroutines := by
  cases outcome with
  | none => exact .stayed
  | some value => exact done value

theorem follows_moved {phase next : Goroutine} (acts : event.actor = some goroutine)
    (stands : machine.goroutines goroutine = some phase) (follows : phase.Follows next) :
    Moved machine event (put machine.goroutines goroutine next) := by
  refine .moved goroutine next acts follows.later (follows.awaiting.imp_right (fun same => .inl ?_))
  simp [awaiting, stands, same]

section
variable (taken : realmStep parseAddrPort machine event = some result)
include taken

theorem step_moved : Moved machine event result.goroutines := by
  cases step_effect taken with
  | ticked | streamed | lost => exact .stayed
  | answered goroutine _ acts | enrolled goroutine _ _ _ _ _ _ _ _ acts => exact .ended goroutine acts
  | authenticated goroutine header id request session acts known => exact .authenticated goroutine header id request session acts known
  | found goroutine _ _ _ _ acts | received goroutine _ _ _ _ _ _ acts => exact .moved goroutine _ acts (by simp) (.inl rfl)
  | became _ _ _ acts stands follows => exact follows_moved acts stands follows
  | performed goroutine _ _ _ acts stands _ after =>
    refine after_moved (fun outcome => ?_)
    rcases after outcome with ⟨_, ended⟩ | ⟨later, follows, moved⟩
    · rw [ended]
      exact .ended goroutine acts
    rw [moved]
    exact follows_moved acts stands follows
  | pended goroutine _ _ _ _ channel acts =>
    subst acts
    refine after_moved (fun outcome => ?_)
    split
    · exact .moved goroutine _ rfl (by simp) (.inr (.inr ⟨channel, rfl⟩))
    · exact .ended goroutine rfl
  | cancelled goroutine _ _ acts =>
    subst acts
    exact after_moved (fun _ => .ended goroutine rfl)
  | fired _ goroutine _ acts =>
    subst acts
    exact .moved goroutine _ rfl (by simp) (.inl rfl)
  | cleared => exact after_moved (fun _ => .stayed)

theorem step_others (other : event.actor ≠ some goroutine) : result.goroutines goroutine = machine.goroutines goroutine := by
  have moved := step_moved taken
  generalize result.goroutines = goroutines at moved
  cases moved with
  | stayed => rfl
  | ended _ acts => grind
  | authenticated _ _ _ _ _ acts =>
    apply put_other _ _ _ _
    intro same
    rw [acts, same] at other
    exact other rfl
  | moved _ _ acts => grind

theorem authenticated_origin (phase : result.goroutines goroutine = some (.authenticated session request)) :
    machine.goroutines goroutine = some (.authenticated session request) ∨
      ∃ header id, machine.server.authSession header id = some session ∧ result.server = machine.server := by
  have moved := step_moved taken
  generalize result.goroutines = goroutines at moved phase
  cases moved with
  | stayed => exact .inl phase
  | ended => grind
  | authenticated _ header id _ _ acts known => grind [put_eq_some, realmStep, authenticate_server]
  | moved _ _ _ later => grind

theorem awaiting_origin (awaits : result.awaiting goroutine = some attempt) :
    machine.awaiting goroutine = some attempt ∨ ∃ channel, event = .registerPending goroutine channel := by
  obtain ⟨phase, found, having⟩ := Option.bind_eq_some_iff.mp awaits
  have kept : machine.goroutines goroutine = some phase → machine.awaiting goroutine = some attempt := by
    grind [awaiting]
  have moved := step_moved taken
  generalize result.goroutines = goroutines at moved found
  cases moved with
  | stayed => exact .inl (kept found)
  | ended => grind
  | authenticated =>
    rcases put_eq_some.mp found with ⟨_, same⟩ | ⟨_, older⟩
    · rw [← same] at having
      contradiction
    · exact .inl (kept older)
  | moved _ _ _ _ origin => grind

end
end OtunKernel.Realm
