import OtunKernel.Lib.Basic

namespace OtunKernel.Resolved

open Lib

-- What the interface finder returns. Interfaces are compared as pointers; the
-- address stands for the pointer.
structure Interface where
  address : Nat
  name : String
deriving DecidableEq, Repr

structure LinkDNS where
  family : Int32
  address : List UInt8
deriving DecidableEq, Repr

structure LinkDNSEx where
  family : Int32
  address : List UInt8
  port : UInt16
  name : String
deriving DecidableEq, Repr

structure LinkDomain where
  domain : String
  routingOnly : Bool
deriving DecidableEq, Repr

structure TransportLink where
  iif : Option Interface := none
  address : List LinkDNS := []
  addressEx : List LinkDNSEx := []
  domain : List LinkDomain := []
  defaultRoute : Bool := false
  dnsOverTLS : Bool := false
deriving DecidableEq, Repr

def hasSuffix (name suffix : String) : Bool := suffix.toList.isSuffixOf name.toList

section

-- A link is a pointer of the source; domains is where its domains are found.
variable {L : Type} (acceptDefaultResolvers : Bool) (name : String) (domains : L → List LinkDomain)

def LinkDomain.eligible (domain : LinkDomain) : Bool :=
  !(domain.domain == "." && domain.routingOnly && !acceptDefaultResolvers)

-- The loops of Exchange over the links, in the order of the range over the map,
-- and over the domains of each.
def selectByDomain (links : List L) : Option L :=
  links.foldl (fun selectedLink link =>
    (domains link).foldl (fun selectedLink domain =>
      if !domain.eligible acceptDefaultResolvers then selectedLink
      else if hasSuffix name domain.domain then some link
      else selectedLink) selectedLink) none

def preferredDomain (links : List L) : Bool :=
  links.any (fun link => (domains link).any (fun domain => domain.domain != "." && hasSuffix name domain.domain))

def hits (link : L) : Bool :=
  (domains link).any (fun domain => domain.eligible acceptDefaultResolvers && hasSuffix name domain.domain)

end

section
variable {L : Type} {acceptDefaultResolvers : Bool} {name : String} {domains : L → List LinkDomain}

theorem scan_domains (link : L) (all : List LinkDomain) (selectedLink : Option L) :
    all.foldl (fun selectedLink domain =>
      if !domain.eligible acceptDefaultResolvers then selectedLink
      else if hasSuffix name domain.domain then some link
      else selectedLink) selectedLink =
    if all.any (fun domain => domain.eligible acceptDefaultResolvers && hasSuffix name domain.domain) then some link
    else selectedLink := by
  induction all generalizing selectedLink with
  | nil => rfl
  | cons domain _ ih => grind

theorem select_by_domain_eq (links : List L) : selectByDomain acceptDefaultResolvers name domains links =
      links.reverse.find? (hits acceptDefaultResolvers name domains) := by
  simp only [selectByDomain, scan_domains]
  rw [← Option.or_none (o := links.reverse.find? _)]
  exact last_hit_eq (hits acceptDefaultResolvers name domains) links none

end
end OtunKernel.Resolved
