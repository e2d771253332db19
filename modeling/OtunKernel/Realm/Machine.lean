import OtunKernel.Lib.Runs
import OtunKernel.Realm.Server

namespace OtunKernel.Realm

open Lib

inductive SessionRequest where
  | deregister
  | heartbeat (body : Body RegisterRequest)
  | events
  | connectResponse (nonce : String) (body : Body (List String))

-- A connect handler that has registered its channel, with the addresses it
-- copied from the session.
structure Attempt where
  session : Nat
  request : ConnectRequest
  channel : Nat
  addresses : List String
  relay : List String

def Attempt.respond (attempt : Attempt) (addresses : List String) : Response :=
  .connected addresses attempt.request.nonce attempt.request.obfs attempt.relay

-- Where a goroutine stands between two critical sections. One that is returning
-- still has its deferred cancelPending ahead.
inductive Goroutine where
  | authenticated (session : Nat) (request : SessionRequest)
  | extended (session : Nat)
  | streaming (session : Nat)
  | found (session : Nat) (request : ConnectRequest) (addresses relay : List String)
  | registered (attempt : Attempt)
  | waiting (attempt : Attempt) (deadline : Nat)
  | returning (attempt : Attempt) (response : Response)
  | expiring (session : Nat)

inductive Wake where
  | answered
  | timedOut
  | removed
  | cancelled

structure Machine where
  server : Server
  goroutines : Nat → Option Goroutine
  answers : Nat → Option Response
  panicked : Bool

def startMachine (now : Nat) (tokenMap : String → Option RealmUser) : Machine :=
  ⟨newServer now tokenMap, fun _ => none, fun _ => none, false⟩

inductive RealmStep where
  | tick (elapsed : Nat)
  | register (goroutine : Nat) (header id : String) (body : Body RegisterRequest) (entropy : Option String)
      (address lag : Nat)
  | authenticate (goroutine : Nat) (header id : String) (request : SessionRequest)
  | handle (goroutine lag : Nat)
  | acknowledge (goroutine : Nat)
  | stream (goroutine : Nat)
  | hangUp (goroutine : Nat)
  | lookupRealm (goroutine : Nat) (header id : String) (body : Body ConnectRequest)
  | registerPending (goroutine channel : Nat)
  | sendPunch (goroutine : Nat)
  | wake (goroutine : Nat) (cause : Wake)
  | cancel (goroutine : Nat)
  | fire (address goroutine : Nat)
  | expire (goroutine : Nat)
  | closeAll (order : List Nat)

namespace Machine

def withServer (machine : Machine) (server : Server) : Machine := { machine with server := server }

def become (machine : Machine) (goroutine : Nat) (phase : Goroutine) : Machine :=
  { machine with goroutines := put machine.goroutines goroutine phase }

def finish (machine : Machine) (goroutine : Nat) (response : Response) : Machine :=
  { machine with
    goroutines := erase machine.goroutines goroutine
    answers := put machine.answers goroutine response }

def crash (machine : Machine) : Machine := { machine with panicked := true }

def after {α : Type} (machine : Machine) (outcome : Option α) (next : α → Machine) : Machine :=
  match outcome with
  | none => machine.crash
  | some value => next value

section
variable (parseAddrPort : String → Bool)

def handleRegister (machine : Machine) (goroutine : Nat) (header id : String) (body : Body RegisterRequest)
    (entropy : Option String) (address lag : Nat) : Machine :=
  if !validRealmID id then machine.finish goroutine (badRequest "invalid realm name")
  else
    match machine.server.authUser header with
    | none => machine.finish goroutine (invalidToken "realm")
    | some user =>
      match decodeRegister parseAddrPort body with
      | .error response => machine.finish goroutine response
      | .ok (addresses, relay) =>
        let outcome := machine.server.register user id addresses relay entropy address lag
        (machine.withServer outcome.1).finish goroutine outcome.2

def authenticate (machine : Machine) (goroutine : Nat) (header id : String) (request : SessionRequest) : Machine :=
  if !validRealmID id then machine.finish goroutine (badRequest "invalid realm name")
  else
    match machine.server.authSession header id with
    | none => machine.finish goroutine (invalidToken "session")
    | some address => machine.become goroutine (.authenticated address request)

def handleHeartbeat (machine : Machine) (goroutine session : Nat) (body : Body RegisterRequest) (lag : Nat) : Machine :=
  match decodeHeartbeat parseAddrPort body with
  | .error response => machine.finish goroutine response
  | .ok request =>
    machine.after (machine.server.extend session request lag)
      (fun server => (machine.withServer server).become goroutine (.extended session))

def handleConnectResponse (machine : Machine) (goroutine session : Nat) (nonce : String) (body : Body (List String)) :
    Machine :=
  match decodeConnectResponse parseAddrPort nonce body with
  | .error response => machine.finish goroutine response
  | .ok addresses =>
    machine.after (machine.server.deliverPending session nonce addresses) (fun outcome =>
      (machine.withServer outcome.1).finish goroutine
        (if outcome.2 then .noContent else .error 404 "attempt_not_found" "no pending attempt for nonce"))

def handle (machine : Machine) (goroutine session : Nat) (lag : Nat) : SessionRequest → Machine
  | .deregister =>
    machine.after (machine.server.removeSessionLocked session)
      (fun server => (machine.withServer server).finish goroutine .noContent)
  | .heartbeat body => machine.handleHeartbeat parseAddrPort goroutine session body lag
  | .events => machine.become goroutine (.streaming session)
  | .connectResponse nonce body => machine.handleConnectResponse parseAddrPort goroutine session nonce body

def stream (machine : Machine) (goroutine session : Nat) : Option Machine :=
  match machine.server.heap session with
  | none => some machine.crash
  | some sess =>
    match sess.events.receive with
    | none => none
    | some (none, _) => some (machine.finish goroutine .nothing)
    | some (some _, events) =>
      some (machine.withServer { machine.server with
        heap := put machine.server.heap session { sess with events := events } })

def lookupRealm (machine : Machine) (goroutine : Nat) (header id : String) (body : Body ConnectRequest) : Machine :=
  if !validRealmID id then machine.finish goroutine (badRequest "invalid realm name")
  else
    match machine.server.authUser header with
    | none => machine.finish goroutine (invalidToken "realm")
    | some _ =>
      match decodeConnect parseAddrPort body with
      | .error response => machine.finish goroutine response
      | .ok request =>
        match machine.server.findRealm id with
        | none => machine.finish goroutine realmNotFound
        | some (address, sess) => machine.become goroutine (.found address request sess.addresses sess.relay)

def registerPending (machine : Machine) (goroutine session : Nat) (request : ConnectRequest)
    (addresses relay : List String) (channel : Nat) : Machine :=
  machine.after (machine.server.registerPending session request.nonce channel) (fun outcome =>
    if outcome.2 then
      (machine.withServer outcome.1).become goroutine (.registered ⟨session, request, channel, addresses, relay⟩)
    else
      (machine.withServer outcome.1).finish goroutine
        (.error 503 "rate_limited" "too many in-flight connect attempts"))

def sendPunch (machine : Machine) (goroutine : Nat) (attempt : Attempt) : Machine :=
  machine.after (machine.server.sendEvent attempt.session (.punch attempt.request)) (fun outcome =>
    if outcome.2 then
      (machine.withServer outcome.1).become goroutine (.waiting attempt (machine.server.now + connectResponseTimeout))
    else
      (machine.withServer outcome.1).become goroutine
        (.returning attempt (.error 503 "rate_limited" "server event buffer full")))

def receive (machine : Machine) (goroutine : Nat) (attempt : Attempt) : Option Machine :=
  match machine.server.channels attempt.channel with
  | none => some machine.crash
  | some channel =>
    match channel.receive with
    | none => none
    | some (none, _) => some (machine.become goroutine (.returning attempt realmNotFound))
    | some (some addresses, channel) =>
      let received := machine.withServer { machine.server with
        channels := put machine.server.channels attempt.channel channel }
      let chosen := if addresses.isEmpty then attempt.addresses else addresses
      some (received.become goroutine (.returning attempt (attempt.respond chosen)))

def wake (machine : Machine) (goroutine : Nat) (attempt : Attempt) (deadline : Nat) : Wake → Option Machine
  | .answered => machine.receive goroutine attempt
  | .timedOut =>
    if deadline ≤ machine.server.now then
      some (machine.become goroutine (.returning attempt (attempt.respond attempt.addresses)))
    else none
  | .removed =>
    if (machine.server.heap attempt.session).any (fun sess => sess.done.closed) then
      some (machine.become goroutine (.returning attempt realmNotFound))
    else none
  | .cancelled => some (machine.become goroutine (.returning attempt .nothing))

end
end Machine

def realmStep (parseAddrPort : String → Bool) : System Machine RealmStep
  | machine, .tick elapsed =>
    some (machine.withServer { machine.server with now := machine.server.now + elapsed })
  | machine, .register goroutine header id body entropy address lag =>
    if (machine.goroutines goroutine).isSome || (machine.server.heap address).isSome then none
    else some (machine.handleRegister parseAddrPort goroutine header id body entropy address lag)
  | machine, .authenticate goroutine header id request =>
    if (machine.goroutines goroutine).isSome then none
    else some (machine.authenticate goroutine header id request)
  | machine, .handle goroutine lag =>
    match machine.goroutines goroutine with
    | some (.authenticated session request) => some (machine.handle parseAddrPort goroutine session lag request)
    | _ => none
  | machine, .acknowledge goroutine =>
    match machine.goroutines goroutine with
    | some (.extended session) =>
      some (machine.after (machine.server.sendEvent session (.heartbeatAck (sessionTTL / second))) (fun outcome =>
        (machine.withServer outcome.1).finish goroutine (.ttl (sessionTTL / second))))
    | _ => none
  | machine, .stream goroutine =>
    match machine.goroutines goroutine with
    | some (.streaming session) => machine.stream goroutine session
    | _ => none
  | machine, .hangUp goroutine =>
    match machine.goroutines goroutine with
    | some (.streaming _) => some (machine.finish goroutine .nothing)
    | _ => none
  | machine, .lookupRealm goroutine header id body =>
    if (machine.goroutines goroutine).isSome then none
    else some (machine.lookupRealm parseAddrPort goroutine header id body)
  | machine, .registerPending goroutine channel =>
    match machine.goroutines goroutine with
    | some (.found session request addresses relay) =>
      if (machine.server.channels channel).isSome then none
      else some (machine.registerPending goroutine session request addresses relay channel)
    | _ => none
  | machine, .sendPunch goroutine =>
    match machine.goroutines goroutine with
    | some (.registered attempt) => some (machine.sendPunch goroutine attempt)
    | _ => none
  | machine, .wake goroutine cause =>
    match machine.goroutines goroutine with
    | some (.waiting attempt deadline) => machine.wake goroutine attempt deadline cause
    | _ => none
  | machine, .cancel goroutine =>
    match machine.goroutines goroutine with
    | some (.returning attempt response) =>
      some (machine.after (machine.server.cancelPending attempt.session attempt.request.nonce)
        (fun server => (machine.withServer server).finish goroutine response))
    | _ => none
  | machine, .fire address goroutine =>
    if (machine.goroutines goroutine).isSome then none
    else (machine.server.fire address).map
      (fun server => (machine.withServer server).become goroutine (.expiring address))
  | machine, .expire goroutine =>
    match machine.goroutines goroutine with
    | some (.expiring session) =>
      some (machine.after (machine.server.removeExpiredSession session)
        (fun outcome => (machine.withServer outcome.1).finish goroutine .nothing))
    | _ => none
  | machine, .closeAll order =>
    if order.Perm (machine.server.sessions.entries.map Sigma.snd) then
      some (machine.after (machine.server.closeAll order) machine.withServer)
    else none

end OtunKernel.Realm
