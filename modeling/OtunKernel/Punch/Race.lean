import Mathlib.Data.List.Basic
import Mathlib.Logic.Function.Basic
import OtunKernel.Lib.Runs

namespace OtunKernel.Punch

open Lib

inductive PunchMode where
  | normal
  | punchOnly
  | relayOnly
deriving DecidableEq

inductive Family where
  | v4
  | v6
deriving DecidableEq

inductive Socket where
  | family (family : Family)
  | placeholder
  | relay (index : Nat)
deriving DecidableEq

-- A goroutine of openFamilies, discoverFamilies or racePunch; ok is what it
-- has left for the goroutine that waits for it.
inductive Task where
  | idle
  | running
  | done (ok : Bool)
deriving DecidableEq

inductive RelayTask where
  | idle
  | listening
  | joining
  | closing
  | sent (ok : Bool)
deriving DecidableEq

inductive Race where
  | idle
  | selecting (families : List Family)
  | returned (winner : Option Family)

inductive Dial where
  | idle
  | collecting (pending : List Nat) (winner : Option Nat)
  | returned (winner : Option Nat)

-- relays is the number of addresses in response.Relay. The flags of racing are
-- punchDone and relayDone; awaitRelay and awaitPunch have a winner.
inductive MainPhase where
  | start
  | listenPlaceholder
  | closePlaceholder
  | connectRelayOnly
  | openFamilies
  | resolve (families : List Family)
  | discover (families pending : List Family) (grace : Bool)
  | connect (surviving : List Family)
  | racePunch (relays : Nat)
  | dialRelay
  | racing (punchDone relayDone : Bool)
  | awaitRelay (winner : Family)
  | awaitPunch (winner : Nat)
  -- none if an error is returned
  | returned (conn : Option Socket)

structure PunchState where
  familyOpen : Family → Bool := fun _ => false
  placeholderOpen : Bool := false
  relayOpen : Nat → Bool := fun _ => false
  listens : Family → Task := fun _ => .idle
  discovers : Family → Task := fun _ => .idle
  punches : Family → Task := fun _ => .idle
  relays : Nat → RelayTask := fun _ => .idle
  race : Race := .idle
  dial : Dial := .idle
  main : MainPhase := .start

def PunchState.isOpen (state : PunchState) : Socket → Bool
  | .family family => state.familyOpen family
  | .placeholder => state.placeholderOpen
  | .relay index => state.relayOpen index

def startTasks (families : List Family) (tasks : Family → Task) : Family → Task :=
  fun family => if family ∈ families then .running else tasks family

def startRelays (relays : Nat) (tasks : Nat → RelayTask) : Nat → RelayTask :=
  fun index => if index < relays then .listening else tasks index

namespace PunchState

def closeFamilies (state : PunchState) (closes : Family → Bool) : PunchState :=
  { state with familyOpen := fun family => state.familyOpen family && !closes family }

def closeRelay (state : PunchState) (index : Nat) : PunchState :=
  { state with relayOpen := Function.update state.relayOpen index false }

def callRacePunch (state : PunchState) (families : List Family) : PunchState :=
  { state with punches := startTasks families state.punches, race := .selecting families }

def callDialRelay (state : PunchState) (relays : Nat) : PunchState :=
  { state with relays := startRelays relays state.relays, dial := .collecting (List.range relays) none }

def goTo (state : PunchState) (main : MainPhase) : PunchState := { state with main := main }

-- listenPacket, squic.Discover and squic.Punch return ok or an error; a
-- deadline or a done context is one reason for an error.
def listenStep (state : PunchState) (family : Family) (ok : Bool) : Option PunchState :=
  match state.listens family with
  | .running => some { state with
      listens := Function.update state.listens family (.done ok)
      familyOpen := Function.update state.familyOpen family ok }
  | _ => none

def discoverStep (state : PunchState) (family : Family) (ok : Bool) : Option PunchState :=
  match state.discovers family with
  | .running => some { state with discovers := Function.update state.discovers family (.done ok) }
  | _ => none

def punchStep (state : PunchState) (family : Family) (ok : Bool) : Option PunchState :=
  match state.punches family with
  | .running => some { state with punches := Function.update state.punches family (.done ok) }
  | _ => none

def relayAt (state : PunchState) (index : Nat) (task : RelayTask) : PunchState :=
  { state with relays := Function.update state.relays index task }

def relayStep (state : PunchState) (index : Nat) (ok : Bool) : Option PunchState :=
  match state.relays index with
  | .listening => some { state.relayAt index (if ok then .joining else .sent false) with
      relayOpen := Function.update state.relayOpen index ok }
  | .joining => some (state.relayAt index (if ok then .sent true else .closing))
  | .closing => some ((state.closeRelay index).relayAt index (.sent false))
  | _ => none

def raceStep (state : PunchState) (winner : Option Family) : Option PunchState :=
  match state.race with
  | .selecting families =>
    match winner with
    | some family =>
      if family ∈ families ∧ state.punches family = .done true then
        some { state.closeFamilies (fun other => other ∈ families ∧ other ≠ family) with race := .returned winner }
      else none
    | none =>
      if ∀ family ∈ families, state.punches family = .done false then
        some { state.closeFamilies (· ∈ families) with race := .returned none }
      else none
  | _ => none

def dialStep (state : PunchState) (received : Option Nat) : Option PunchState :=
  match state.dial with
  | .collecting pending winner =>
    match received with
    | none => if pending = [] then some { state with dial := .returned winner } else none
    | some index =>
      if index ∈ pending then
        match state.relays index, winner with
        | .sent false, _ => some { state with dial := .collecting (pending.filter (· ≠ index)) winner }
        | .sent true, none => some { state with dial := .collecting (pending.filter (· ≠ index)) (some index) }
        | .sent true, some _ =>
          some { state.closeRelay index with dial := .collecting (pending.filter (· ≠ index)) winner }
        | _, _ => none
      else none
  | _ => none

end PunchState

structure ConnectResponse where
  relays : Nat
  symmetric : Bool

inductive MainEvent where
  | call (ok : Bool)
  | receiveDiscover (family : Family)
  | grace
  | connected (response : ConnectResponse)
  | receivePunch
  | receiveRelay

namespace PunchState

def checked (mode : PunchMode) (state : PunchState) (ok : Bool) : PunchState :=
  if !ok then state.goTo (.returned none)
  else if mode = .relayOnly then state.goTo .listenPlaceholder
  else { state.goTo .openFamilies with listens := fun _ => .running }

def placeholderListened (state : PunchState) (ok : Bool) : PunchState :=
  if ok then { state.goTo .closePlaceholder with placeholderOpen := true } else state.goTo (.returned none)

def familiesOpened (state : PunchState) : List Family :=
  [Family.v4, Family.v6].filter (fun family => state.listens family = .done true)

def waitFamilies (state : PunchState) : Option PunchState :=
  if state.listens .v4 = .running ∨ state.listens .v6 = .running then none
  else if state.familiesOpened = [] then some (state.goTo (.returned none))
  else some (state.goTo (.resolve state.familiesOpened))

-- discoverFamilies: ResolveSTUNServers, its loop, and what follows it.
def resolved (state : PunchState) (families : List Family) (ok : Bool) : PunchState :=
  if ok then { state.goTo (.discover families families false) with discovers := startTasks families state.discovers }
  else (state.closeFamilies (· ∈ families)).goTo (.returned none)

def receiveDiscover (state : PunchState) (families pending : List Family) (grace : Bool) (family : Family) : Option PunchState :=
  match state.discovers family with
  | .done ok =>
    if family ∈ pending then
      let left := pending.filter (· ≠ family)
      some (state.goTo (.discover families left (grace || (ok && left ≠ []))))
    else none
  | _ => none

def discovered (state : PunchState) (families : List Family) : PunchState :=
  let surviving := families.filter (fun family => state.discovers family = .done true)
  let closed := state.closeFamilies (fun family => family ∈ families ∧ family ∉ surviving)
  closed.goTo (if surviving = [] then .returned none else .connect surviving)

def afterConnectRelayOnly (state : PunchState) (response : ConnectResponse) : PunchState :=
  if response.relays = 0 then state.goTo (.returned none) else (state.callDialRelay response.relays).goTo .dialRelay

def afterConnect (mode : PunchMode) (state : PunchState) (surviving : List Family) (response : ConnectResponse) : PunchState :=
  if mode = .normal ∧ 0 < response.relays ∧ response.symmetric = true then
    ((state.callRacePunch surviving).callDialRelay response.relays).goTo (.racing false false)
  else (state.callRacePunch surviving).goTo (.racePunch response.relays)

def afterRacePunch (mode : PunchMode) (state : PunchState) (relays : Nat) : Option Family → PunchState
  | some family => state.goTo (.returned (some (.family family)))
  | none =>
    if mode = .punchOnly then state.goTo (.returned none)
    else if relays = 0 then state.goTo (.returned none)
    else (state.callDialRelay relays).goTo .dialRelay

def closeFamilyWinner (state : PunchState) : Option Family → PunchState
  | some family => state.closeFamilies (· = family)
  | none => state

def closeRelayWinner (state : PunchState) : Option Nat → PunchState
  | some index => state.closeRelay index
  | none => state

-- The select of racePunchAndRelay: an outcome of racePunch, or one of DialRelay.
def racingPunch (state : PunchState) (relayDone : Bool) : Option Family → PunchState
  | some family => state.goTo (if relayDone then .returned (some (.family family)) else .awaitRelay family)
  | none => state.goTo (if relayDone then .returned none else .racing true false)

def racingRelay (state : PunchState) (punchDone : Bool) : Option Nat → PunchState
  | some index => state.goTo (if punchDone then .returned (some (.relay index)) else .awaitPunch index)
  | none => state.goTo (if punchDone then .returned none else .racing false true)

def mainStep (mode : PunchMode) (state : PunchState) (event : MainEvent) : Option PunchState :=
  match state.main, event with
  | .start, .call ok => some (state.checked mode ok)
  | .listenPlaceholder, .call ok => some (state.placeholderListened ok)
  | .closePlaceholder, .call _ => some { state.goTo .connectRelayOnly with placeholderOpen := false }
  | .connectRelayOnly, .call _ => some (state.goTo (.returned none))
  | .connectRelayOnly, .connected response => some (state.afterConnectRelayOnly response)
  | .openFamilies, .call _ => state.waitFamilies
  | .resolve families, .call ok => some (state.resolved families ok)
  | .discover families pending grace, .receiveDiscover family => state.receiveDiscover families pending grace family
  -- cancels the families that are still pending and sets their deadline
  | .discover families pending true, .grace => some (state.goTo (.discover families pending false))
  | .discover families [] _, .call _ => some (state.discovered families)
  | .connect surviving, .call _ => some ((state.closeFamilies (· ∈ surviving)).goTo (.returned none))
  | .connect surviving, .connected response => some (state.afterConnect mode surviving response)
  | .racePunch relays, .receivePunch =>
    match state.race with
    | .returned winner => some (state.afterRacePunch mode relays winner)
    | _ => none
  | .dialRelay, .receiveRelay =>
    match state.dial with
    | .returned winner => some (state.goTo (.returned (winner.map .relay)))
    | _ => none
  | .racing false relayDone, .receivePunch =>
    match state.race with
    | .returned winner => some (state.racingPunch relayDone winner)
    | _ => none
  | .racing punchDone false, .receiveRelay =>
    match state.dial with
    | .returned winner => some (state.racingRelay punchDone winner)
    | _ => none
  | .awaitRelay family, .receiveRelay =>
    match state.dial with
    | .returned winner => some ((state.closeRelayWinner winner).goTo (.returned (some (.family family))))
    | _ => none
  | .awaitPunch index, .receivePunch =>
    match state.race with
    | .returned winner => some ((state.closeFamilyWinner winner).goTo (.returned (some (.relay index))))
    | _ => none
  | _, _ => none

end PunchState

inductive PunchEvent where
  | listen (family : Family) (ok : Bool)
  | discover (family : Family) (ok : Bool)
  | punch (family : Family) (ok : Bool)
  | relay (index : Nat) (ok : Bool)
  | race (winner : Option Family)
  | dial (received : Option Nat)
  | main (event : MainEvent)

def punchStep (mode : PunchMode) : System PunchState PunchEvent
  | state, .listen family ok => state.listenStep family ok
  | state, .discover family ok => state.discoverStep family ok
  | state, .punch family ok => state.punchStep family ok
  | state, .relay index ok => state.relayStep index ok
  | state, .race winner => state.raceStep winner
  | state, .dial received => state.dialStep received
  | state, .main event => state.mainStep mode event

end OtunKernel.Punch
