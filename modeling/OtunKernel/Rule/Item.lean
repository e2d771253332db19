import OtunKernel.Dns.Message

namespace OtunKernel.Rule

open Net Dns

-- isIP and isIPv6 are the answers of the socket address package's methods of
-- these names; no modelled function looks behind them.
structure Socksaddr where
  addr : Addr := .zero
  port : UInt16 := 0
  fqdn : String := ""
  isIP : Bool := false
  isIPv6 : Bool := false
deriving DecidableEq, Repr

structure ConnectionOwner where
  userId : Int
  userName : String
  processPath : String
  androidPackageNames : List String
deriving DecidableEq, Repr

structure InboundContext where
  inbound : String := ""
  ipVersion : UInt8 := 0
  network : String := ""
  source : Socksaddr := {}
  destination : Socksaddr := {}
  user : String := ""
  outbound : String := ""
  protocol : String := ""
  domain : String := ""
  client : String := ""
  destinationAddresses : List Addr := []
  dnsResponse : Option Msg := none
  destinationAddressMatchFromResponse : Bool := false
  processInfo : Option ConnectionOwner := none
  sourceMACAddress : Option String := none
  sourceHostname : String := ""
  queryType : UInt16 := 0
  ipcidrMatchSource : Bool := false
  ipcidrAcceptEmpty : Bool := false
  didMatch : Bool := false
  ignoreDestinationIPCIDRMatch : Bool := false
deriving DecidableEq, Repr

def InboundContext.resetRuleMatchCache (metadata : InboundContext) : InboundContext :=
  { metadata with didMatch := false }

def InboundContext.resetRuleCache (metadata : InboundContext) : InboundContext :=
  { metadata with ipcidrMatchSource := false, ipcidrAcceptEmpty := false }.resetRuleMatchCache

def InboundContext.dnsResponseAddressesForMatch (metadata : InboundContext) : List Addr :=
  dnsResponseAddresses metadata.dnsResponse

inductive Section where
  | answer
  | ns
  | extra
deriving DecidableEq, Repr

def Section.select : Section → Msg → List RR
  | .answer, message => message.answer
  | .ns, message => message.ns
  | .extra, message => message.extra

-- One constructor for each kind of data an item reads. Compiled matchers
-- (domain sets, regular expressions, IP sets) are from other packages and
-- carried as the test they perform. Items that ask the network manager or the
-- Clash server read no metadata and carry the answer.
inductive RuleItem where
  | inbound (inbounds : List String)
  | ipVersion (isIPv6 : Bool)
  | queryType (types : List UInt16)
  | network (networks : List String)
  | authUser (users : List String)
  | protocol (protocols : List String)
  | client (clients : List String)
  | outbound (outbounds : List String)
  | host (test : String → Bool)
  | ipCIDR (contains : Addr → Bool) (isSource : Bool)
  | ipIsPrivate (isPublicAddr : Addr → Bool) (isSource : Bool)
  | ipAcceptAny
  | responseRCode (rcode : Nat)
  | responseRecord (selector : Section) (records : List (RR → Bool))
  | port (ports : List UInt16) (isSource : Bool)
  | portRange (ranges : List (UInt16 × UInt16)) (isSource : Bool)
  | process (test : ConnectionOwner → Bool)
  | environment (holds : Bool)
  | sourceMACAddress (addresses : List String)
  | sourceHostname (hostnames : List String)
  | preferredBy (preferredDomain : String → Bool) (preferredAddress : Addr → Bool)

def domainHost (metadata : InboundContext) : String :=
  if metadata.domain ≠ "" then metadata.domain else metadata.destination.fqdn

def portRangeMatch (port : UInt16) (range : UInt16 × UInt16) : Bool := range.1 ≤ port && port ≤ range.2

def RuleItem.matches (metadata : InboundContext) : RuleItem → Bool
  | .inbound inbounds => inbounds.contains metadata.inbound
  | .ipVersion isIPv6 =>
    (metadata.ipVersion != 0 && ((metadata.ipVersion == 6) == isIPv6)) ||
      (metadata.destination.isIP && (metadata.destination.isIPv6 == isIPv6))
  | .queryType types => metadata.queryType != 0 && types.contains metadata.queryType
  | .network networks => networks.contains metadata.network
  | .authUser users => users.contains metadata.user
  | .protocol protocols => protocols.contains metadata.protocol
  | .client clients => clients.contains metadata.client
  | .outbound outbounds =>
    if outbounds.contains "any" then metadata.outbound != "" else outbounds.contains metadata.outbound
  | .host test => domainHost metadata != "" && test (domainHost metadata)
  | .ipCIDR contains isSource =>
    if isSource || metadata.ipcidrMatchSource then contains metadata.source.addr
    else if metadata.destinationAddressMatchFromResponse then
      match metadata.dnsResponseAddressesForMatch with
      | [] => metadata.ipcidrAcceptEmpty
      | addresses => addresses.any contains
    else if metadata.destination.isIP then contains metadata.destination.addr
    else
      match metadata.destinationAddresses with
      | [] => metadata.ipcidrAcceptEmpty
      | addresses => addresses.any contains
  | .ipIsPrivate isPublicAddr isSource =>
    if isSource then !isPublicAddr metadata.source.addr
    else if metadata.destinationAddressMatchFromResponse then
      metadata.dnsResponseAddressesForMatch.any (fun address => !isPublicAddr address)
    else if metadata.destination.addr.isValid then !isPublicAddr metadata.destination.addr
    else metadata.destinationAddresses.any (fun address => !isPublicAddr address)
  | .ipAcceptAny =>
    if metadata.destinationAddressMatchFromResponse then !metadata.dnsResponseAddressesForMatch.isEmpty
    else !metadata.destinationAddresses.isEmpty
  | .responseRCode rcode =>
    match metadata.dnsResponse with
    | none => false
    | some response => response.rcode == rcode
  | .responseRecord selector records =>
    match metadata.dnsResponse with
    | none => false
    | some response => records.any (fun expected => (selector.select response).any expected)
  | .port ports isSource =>
    ports.contains (if isSource then metadata.source.port else metadata.destination.port)
  | .portRange ranges isSource =>
    ranges.any (portRangeMatch (if isSource then metadata.source.port else metadata.destination.port))
  | .process test => metadata.processInfo.any test
  | .environment holds => holds
  | .sourceMACAddress addresses => metadata.sourceMACAddress.any addresses.contains
  | .sourceHostname hostnames => metadata.sourceHostname != "" && hostnames.contains metadata.sourceHostname
  | .preferredBy preferredDomain preferredAddress =>
    (domainHost metadata != "" && preferredDomain (domainHost metadata)) ||
      (metadata.destination.isIP && preferredAddress metadata.destination.addr) ||
      metadata.destinationAddresses.any preferredAddress

def matchAnyItem (items : List RuleItem) (metadata : InboundContext) : Bool :=
  items.any (RuleItem.matches metadata)

@[simp] theorem item_ignores_did_match (item : RuleItem) (metadata : InboundContext) (b : Bool) :
    item.matches { metadata with didMatch := b } = item.matches metadata := by
  cases item <;> rfl

@[simp] theorem item_ignores_ignore_flag (item : RuleItem) (metadata : InboundContext) (b : Bool) :
    item.matches { metadata with ignoreDestinationIPCIDRMatch := b } = item.matches metadata := by
  cases item <;> rfl

end OtunKernel.Rule
