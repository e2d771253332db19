import OtunKernel.Lib.PartialMap
import OtunKernel.Lib.Runs
import OtunKernel.Resolved.Link

namespace OtunKernel.Resolved

open Lib

inductive ServerName where
  | address
  | name (name : String)
deriving DecidableEq, Repr

structure Server where
  bindInterface : String
  address : List UInt8
  port : UInt16
  tls : Option ServerName
deriving DecidableEq, Repr

def addrFromSlice (bytes : List UInt8) : Bool := bytes.length == 4 || bytes.length == 16

def LinkDNS.server (bindInterface : String) (dnsOverTLS : Bool) (address : LinkDNS) : Option Server :=
  if addrFromSlice address.address then
    some ⟨bindInterface, address.address, 53, if dnsOverTLS then some .address else none⟩
  else none

def LinkDNSEx.server (bindInterface : String) (dnsOverTLS : Bool) (address : LinkDNSEx) : Option Server :=
  if addrFromSlice address.address then
    let serverName := if address.name != "" then ServerName.name address.name else .address
    some ⟨bindInterface, address.address, address.port, if dnsOverTLS then some serverName else none⟩
  else none

def TransportLink.transports (link : TransportLink) (bindInterface : String) : Option (List Server) := do
  let servers ← link.address.mapM (LinkDNS.server bindInterface link.dnsOverTLS)
  let extended ← link.addressEx.mapM (LinkDNSEx.server bindInterface link.dnsOverTLS)
  return servers ++ extended

-- Links are pointers into heap; next is the first one not yet allocated. locked
-- is Service.linkAccess after a call has returned.
structure Tables where
  links : Int32 → Option Nat := fun _ => none
  heap : Nat → TransportLink := fun _ => {}
  next : Nat := 0
  defaultRouteSequence : List Int32 := []
  linkServers : Nat → Option (List Server) := fun _ => none
  locked : Bool := false
  panicked : Bool := false

inductive Ending where
  | returned (err : Option String)
  | panicked
deriving DecidableEq, Repr

abbrev Finder := Int32 → Except String Interface

namespace Tables

def alloc (tables : Tables) (ifIndex : Int32) (link : TransportLink) : Tables :=
  { tables with
    links := put tables.links ifIndex tables.next
    heap := Function.update tables.heap tables.next link
    next := tables.next + 1 }

def getLink (tables : Tables) (byIndex : Finder) (ifIndex : Int32) : Tables × Except String Nat :=
  match tables.links ifIndex with
  | some link => (tables, .ok link)
  | none =>
    match byIndex ifIndex with
    | .error err => (tables.alloc ifIndex {}, .error err)
    | .ok iif => (tables.alloc ifIndex { iif := some iif }, .ok tables.next)

def updateTransports (tables : Tables) (link : Nat) : Tables × Ending :=
  match (tables.heap link).iif with
  | none => (tables, .panicked)
  | some iif =>
    match (tables.heap link).transports iif.name with
    | none => (tables, .returned (some "invalid argument"))
    | some servers => ({ tables with linkServers := put tables.linkServers link servers }, .returned none)

def logAndUpdate (tables : Tables) (link : Nat) : Tables × Ending :=
  match (tables.heap link).iif with
  | none => (tables, .panicked)
  | some _ => tables.updateTransports link

-- What the SetLink calls have in common; the deferred unlock is reached on
-- every path.
def setLink (tables : Tables) (byIndex : Finder) (ifIndex : Int32) (sequence : List Int32 → List Int32)
    (change : TransportLink → TransportLink) : Tables × Ending :=
  match tables.getLink byIndex ifIndex with
  | (tables, .error err) => (tables, .returned (some err))
  | (tables, .ok link) =>
    let changed := { tables with
      heap := Function.update tables.heap link (change (tables.heap link))
      defaultRouteSequence := sequence tables.defaultRouteSequence }
    changed.logAndUpdate link

def setLinkDNS (tables : Tables) (byIndex : Finder) (ifIndex : Int32) (addresses : List LinkDNS) : Tables × Ending :=
  tables.setLink byIndex ifIndex id (fun link => { link with address := addresses })

def setLinkDNSEx (tables : Tables) (byIndex : Finder) (ifIndex : Int32) (addresses : List LinkDNSEx) : Tables × Ending :=
  tables.setLink byIndex ifIndex id (fun link => { link with addressEx := addresses })

def setLinkDomains (tables : Tables) (byIndex : Finder) (ifIndex : Int32) (domains : List LinkDomain) : Tables × Ending :=
  tables.setLink byIndex ifIndex id (fun link => { link with domain := domains })

def routeSequence (ifIndex : Int32) (defaultRoute : Bool) (sequence : List Int32) : List Int32 :=
  if defaultRoute then sequence.filter (· != ifIndex) ++ [ifIndex] else sequence.filter (· != ifIndex)

def setLinkDefaultRoute (tables : Tables) (byIndex : Finder) (ifIndex : Int32) (defaultRoute : Bool) : Tables × Ending :=
  tables.setLink byIndex ifIndex (routeSequence ifIndex defaultRoute) (fun link => { link with defaultRoute := defaultRoute })

def overTLS (dotMode : String) (dnsOverTLS : Bool) : Bool :=
  if dotMode == "yes" then true
  else if dotMode == "" || dotMode == "opportunistic" || dotMode == "no" then false
  else dnsOverTLS

def setLinkDNSOverTLS (tables : Tables) (byIndex : Finder) (ifIndex : Int32) (dotMode : String) : Tables × Ending :=
  tables.setLink byIndex ifIndex id (fun link => { link with dnsOverTLS := overTLS dotMode link.dnsOverTLS })

-- defaultRouteSequence is left as it is.
def revertLink (tables : Tables) (byIndex : Finder) (ifIndex : Int32) : Tables × Ending :=
  match tables.getLink byIndex ifIndex with
  | (tables, .error err) => (tables, .returned (some err))
  | (tables, .ok link) => { tables with links := erase tables.links ifIndex }.logAndUpdate link

-- The unlock is not deferred and the error of getLink returns before it. A
-- failed lookup wraps the nil error of getLink; whether its text can be read
-- is up to the bus library.
def resolveHostname (nilErrorPanics : Bool) (tables : Tables) (byIndex : Finder) (ifIndex : Int32)
    (lookupErr : Option String) : Tables × Ending :=
  match tables.getLink byIndex ifIndex with
  | (tables, .error err) => ({ tables with locked := true }, .returned (some err))
  | (tables, .ok link) =>
    match (tables.heap link).iif with
    | none => (tables, .panicked)
    | some _ =>
      if lookupErr.isSome && nilErrorPanics then (tables, .panicked)
      else (tables, .returned lookupErr)

def stale (tables : Tables) (byIndex : Finder) (entry : Int32 × Nat) : Bool :=
  match byIndex entry.1 with
  | .error _ => true
  | .ok iif => some iif != (tables.heap entry.2).iif

-- The loop runs over the whole table: the sequence and the servers lose every
-- link, the table only the stale ones.
def onNetworkUpdate (tables : Tables) (byIndex : Finder) (order : List (Int32 × Nat)) : Tables :=
  { tables with
    defaultRouteSequence :=
      order.foldl (fun sequence entry => sequence.filter (· != entry.1)) tables.defaultRouteSequence
    linkServers := order.foldl (fun servers entry => erase servers entry.2) tables.linkServers
    links := (order.filter (tables.stale byIndex)).foldl (fun links entry => erase links entry.1) tables.links }

-- The second loop of Exchange, over the sequence from its end; none is the
-- dereference of a link that is not in the table.
def defaultLink (tables : Tables) : List Int32 → Option Nat → Option (Option Nat)
  | [], selectedLink => some selectedLink
  | ifIndex :: rest, _ =>
    match tables.links ifIndex with
    | none => none
    | some link =>
      if !(tables.heap link).address.isEmpty || !(tables.heap link).addressEx.isEmpty then some (some link)
      else tables.defaultLink rest (some link)

def selectLink (acceptDefaultResolvers : Bool) (tables : Tables) (name : String) (order : List (Int32 × Nat)) :
    Option (Option Nat) :=
  match selectByDomain acceptDefaultResolvers name (fun link => (tables.heap link).domain) (order.map Prod.snd) with
  | some link => some (some link)
  | none =>
    if acceptDefaultResolvers then tables.defaultLink tables.defaultRouteSequence.reverse none
    else some none

inductive Answer where
  | panicked
  | nameError
  | forwarded (servers : List Server)
deriving DecidableEq, Repr

def exchange (acceptDefaultResolvers : Bool) (tables : Tables) (name : String) (order : List (Int32 × Nat)) : Answer :=
  match tables.selectLink acceptDefaultResolvers name order with
  | none => .panicked
  | some none => .nameError
  | some (some link) =>
    match tables.linkServers link with
    | none => .panicked
    | some servers => if servers.isEmpty then .nameError else .forwarded servers

structure Ranges (tables : Tables) (order : List (Int32 × Nat)) : Prop where
  once : (order.map Prod.fst).Nodup
  all : ∀ ifIndex link, (ifIndex, link) ∈ order ↔ tables.links ifIndex = some link

end Tables

inductive Call where
  | setLinkDNS (ifIndex : Int32) (addresses : List LinkDNS)
  | setLinkDNSEx (ifIndex : Int32) (addresses : List LinkDNSEx)
  | setLinkDomains (ifIndex : Int32) (domains : List LinkDomain)
  | setLinkDefaultRoute (ifIndex : Int32) (defaultRoute : Bool)
  | setLinkDNSOverTLS (ifIndex : Int32) (dotMode : String)
  | revertLink (ifIndex : Int32)
  | resolveHostname (ifIndex : Int32) (lookupErr : Option String)
  | networkUpdate (order : List (Int32 × Nat))
  | exchange (name : String) (order : List (Int32 × Nat))

section
variable (acceptDefaultResolvers nilErrorPanics : Bool)

def Tables.call (tables : Tables) (byIndex : Finder) : Call → Tables × Ending
  | .setLinkDNS ifIndex addresses => tables.setLinkDNS byIndex ifIndex addresses
  | .setLinkDNSEx ifIndex addresses => tables.setLinkDNSEx byIndex ifIndex addresses
  | .setLinkDomains ifIndex domains => tables.setLinkDomains byIndex ifIndex domains
  | .setLinkDefaultRoute ifIndex defaultRoute => tables.setLinkDefaultRoute byIndex ifIndex defaultRoute
  | .setLinkDNSOverTLS ifIndex dotMode => tables.setLinkDNSOverTLS byIndex ifIndex dotMode
  | .revertLink ifIndex => tables.revertLink byIndex ifIndex
  | .resolveHostname ifIndex lookupErr => tables.resolveHostname nilErrorPanics byIndex ifIndex lookupErr
  | .networkUpdate order => (tables.onNetworkUpdate byIndex order, .returned none)
  | .exchange name order =>
    (tables, if tables.exchange acceptDefaultResolvers name order = .panicked then .panicked else .returned none)

def tablesStep : System Tables (Finder × Call) := fun tables event =>
  if tables.locked || tables.panicked then none
  else
    let done := tables.call acceptDefaultResolvers nilErrorPanics event.1 event.2
    some { done.1 with panicked := done.2 == .panicked }

end

def Call.Ranges (tables : Tables) : Call → Prop
  | .networkUpdate order => tables.Ranges order
  | .exchange _ order => tables.Ranges order
  | _ => True

end OtunKernel.Resolved
