import OtunKernel.Lib.Channel
import OtunKernel.Lib.PartialMap
import OtunKernel.Lib.Tally
import OtunKernel.Realm.Request

namespace OtunKernel.Realm

open Lib

def second : Nat := 1000000000

def sessionTTL : Nat := 60 * second

def connectResponseTimeout : Nat := 10 * second

def eventChannelSize : Nat := 16

def maxPendingAttempts : Nat := 16

inductive RealmEvent where
  | heartbeatAck (ttl : Nat)
  | punch (request : ConnectRequest)

-- timer is the instant for which the timer is armed. pending holds channels by
-- their address.
structure RealmSession where
  id : String
  realmID : String
  username : String
  addresses : List String
  relay : List String
  expires : Nat
  events : Chan RealmEvent
  timer : Option Nat
  done : Chan Unit
  closed : Bool
  pending : AList (fun _ : String => Nat)

-- Sessions and response channels are kept by address, so that a goroutine can
-- hold one that has left the tables.
structure Server where
  now : Nat
  heap : Nat → Option RealmSession
  channels : Nat → Option (Chan (List String))
  realms : AList (fun _ : String => Nat)
  sessions : AList (fun _ : String => Nat)
  userCounts : AList (fun _ : String => Int)
  tokenMap : String → Option RealmUser

def newServer (now : Nat) (tokenMap : String → Option RealmUser) : Server where
  now := now
  heap := fun _ => none
  channels := fun _ => none
  realms := ∅
  sessions := ∅
  userCounts := ∅
  tokenMap := tokenMap

namespace Server

def authUser (server : Server) (header : String) : Option RealmUser := (bearerToken header).bind server.tokenMap

def getSessionByToken (server : Server) (token : String) : Option Nat :=
  match server.sessions.lookup token with
  | none => none
  | some address =>
    match server.heap address with
    | none => none
    | some sess => if sess.closed || decide (sess.expires < server.now) then none else some address

def authSession (server : Server) (header id : String) : Option Nat :=
  match (bearerToken header).bind server.getSessionByToken with
  | none => none
  | some address => if (server.heap address).any (fun sess => sess.realmID = id) then some address else none

-- In the operations below none is a panic: a nil session, or a channel that is
-- closed twice or sent on after it was closed.

def closeChannels (channels : Nat → Option (Chan (List String))) : List Nat → Option (Nat → Option (Chan (List String)))
  | [] => some channels
  | address :: rest =>
    (channels address).bind fun channel =>
      channel.close.bind fun closed => closeChannels (put channels address closed) rest

def removeSessionLocked (server : Server) (address : Nat) : Option Server :=
  (server.heap address).bind fun sess =>
    if sess.closed then some server
    else
      let realms :=
        if server.realms.lookup sess.realmID = some address then server.realms.erase sess.realmID else server.realms
      let userCounts :=
        if (server.sessions.lookup sess.id).isSome then decrement server.userCounts sess.username
        else server.userCounts
      sess.done.close.bind fun done =>
        sess.events.close.bind fun events =>
          (closeChannels server.channels (sess.pending.entries.map Sigma.snd)).map fun channels =>
            { server with
              heap := put server.heap address { sess with
                closed := true, done := done, timer := none, events := events, pending := ∅ }
              realms := realms
              userCounts := userCounts
              sessions := server.sessions.erase sess.id
              channels := channels }

def removeExpiredSession (server : Server) (address : Nat) : Option (Server × Bool) :=
  (server.heap address).bind fun sess =>
    if sess.closed || !decide (sess.expires < server.now) then some (server, false)
    else (server.removeSessionLocked address).map (fun server => (server, true))

def closeAll (server : Server) (order : List Nat) : Option Server := order.foldlM removeSessionLocked server

def registerPending (server : Server) (address : Nat) (nonce : String) (channel : Nat) : Option (Server × Bool) :=
  (server.heap address).bind fun sess =>
    if sess.closed || decide (maxPendingAttempts ≤ sess.pending.entries.length) then some (server, false)
    else if (sess.pending.lookup nonce).isSome then some (server, false)
    else some ({ server with
      channels := put server.channels channel (Chan.make 1)
      heap := put server.heap address { sess with pending := sess.pending.insert nonce channel } }, true)

def deliverPending (server : Server) (address : Nat) (nonce : String) (payload : List String) :
    Option (Server × Bool) :=
  (server.heap address).bind fun sess =>
    if sess.closed then some (server, false)
    else
      match sess.pending.lookup nonce with
      | none => some (server, false)
      | some channel =>
        (server.channels channel).bind fun waiting =>
          (waiting.trySend payload).map fun sent =>
            ({ server with
              channels := put server.channels channel sent.1
              heap := put server.heap address { sess with pending := sess.pending.erase nonce } }, true)

def cancelPending (server : Server) (address : Nat) (nonce : String) : Option Server :=
  (server.heap address).map fun sess =>
    { server with heap := put server.heap address { sess with pending := sess.pending.erase nonce } }

def sendEvent (server : Server) (address : Nat) (event : RealmEvent) : Option (Server × Bool) :=
  (server.heap address).bind fun sess =>
    if sess.closed then some (server, false)
    else (sess.events.trySend event).map fun sent =>
      ({ server with heap := put server.heap address { sess with events := sent.1 } }, sent.2)

def newSession (server : Server) (sessionID id : String) (user : RealmUser) (addresses relay : List String)
    (lag : Nat) : RealmSession where
  id := sessionID
  realmID := id
  username := user.name
  addresses := addresses
  relay := relay
  expires := server.now + sessionTTL
  events := Chan.make eventChannelSize
  timer := some (server.now + lag + sessionTTL)
  done := Chan.make 0
  closed := false
  pending := ∅

-- The critical section of handleRegister. entropy is the session id that was
-- drawn, lag the time between the two readings of the clock.
def register (server : Server) (user : RealmUser) (id : String) (addresses relay : List String)
    (entropy : Option String) (address lag : Nat) : Server × Response :=
  if (server.realms.lookup id).isSome then (server, .error 409 "realm_taken" "realm already registered")
  else if 0 < user.maxRealms ∧ user.maxRealms ≤ (server.userCounts.lookup user.name).getD 0 then
    (server, .error 429 "realm_limit_reached" "per-user realm limit reached")
  else
    match entropy with
    | none => (server, .error 500 "internal" "entropy failure")
    | some sessionID =>
      ({ server with
        now := server.now + lag
        heap := put server.heap address (server.newSession sessionID id user addresses relay lag)
        realms := server.realms.insert id address
        sessions := server.sessions.insert sessionID address
        userCounts := increment server.userCounts user.name }, .registered sessionID (sessionTTL / second))

def extend (server : Server) (address : Nat) (request : RegisterRequest) (lag : Nat) : Option Server :=
  (server.heap address).map fun sess =>
    { server with
      now := server.now + lag
      heap := put server.heap address { sess with
        expires := server.now + sessionTTL
        addresses := request.addresses.getD sess.addresses
        relay := request.relay.getD sess.relay
        timer := some (server.now + lag + sessionTTL) } }

def findRealm (server : Server) (id : String) : Option (Nat × RealmSession) :=
  match server.realms.lookup id with
  | none => none
  | some address =>
    match server.heap address with
    | none => none
    | some sess => if sess.closed || decide (sess.expires < server.now) then none else some (address, sess)

def fire (server : Server) (address : Nat) : Option Server :=
  (server.heap address).bind fun sess =>
    sess.timer.bind fun deadline =>
      if deadline ≤ server.now then
        some { server with heap := put server.heap address { sess with timer := none } }
      else none

end Server

end OtunKernel.Realm
