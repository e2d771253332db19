import OtunKernel.Lib.Override
import OtunKernel.Dns.Query
import OtunKernel.Rule.Dns

namespace OtunKernel.Dns

open Lib Rule

structure RouteOptions where
  strategy : DomainStrategy := .asIS
  timeout : Int := 0
  disableCache : Bool := false
  disableOptimisticCache : Bool := false
  rewriteTTL : Option UInt32 := none
  clientSubnet : ClientSubnet := none
deriving DecidableEq, Repr

inductive RejectMethod where
  | default
  | drop
deriving DecidableEq, Repr

structure Predefined where
  rcode : Nat := 0
  answer : List RR := []
  ns : List RR := []
  extra : List RR := []
deriving DecidableEq, Repr

inductive RuleAction where
  | route (server : String) (options : RouteOptions)
  | routeOptions (options : RouteOptions)
  | evaluate (server : String) (options : RouteOptions)
  | respond
  | reject (method : RejectMethod)
  | predefined (response : Predefined)
deriving DecidableEq, Repr

structure RouterRule where
  rule : DNSRule
  action : RuleAction

structure Router where
  transport : String → Option DNSTransport
  default : DNSTransport
  defaultDomainStrategy : DomainStrategy := .asIS

def applyRouteOptions (isFakeIP : Bool) (action : RouteOptions) (options : DNSQueryOptions) : DNSQueryOptions :=
  let options := if action.strategy ≠ .asIS then { options with strategy := action.strategy } else options
  let options := if isFakeIP || action.disableCache then { options with disableCache := true } else options
  let options := if action.rewriteTTL.isSome then { options with rewriteTTL := action.rewriteTTL } else options
  let options := if action.timeout > 0 then { options with timeout := action.timeout } else options
  if action.clientSubnet.isSome then { options with clientSubnet := action.clientSubnet } else options

-- What matchDNS returns: transport and options with the rule that chose them
-- (none for the default transport), or the rule that ends the query without a
-- transport. rest is the list after that rule, where a retry resumes.
inductive Found where
  | transport (rule : Option (Nat × RouterRule)) (transport : DNSTransport) (options : DNSQueryOptions)
      (rest : List RouterRule)
  | reject (method : RejectMethod)
  | predefined (response : Predefined)

def prepare (metadata : InboundContext) : InboundContext :=
  { metadata.resetRuleCache with destinationAddressMatchFromResponse := false }

section
variable (router : Router) (metadata : InboundContext) (allowFakeIP addressQuery : Bool)

def RouterRule.isSelected (rule : RouterRule) : Bool :=
  !(rule.rule.withAddressLimit && !addressQuery) && rule.rule.legacyPreMatch (prepare metadata)

def matchDNS (index : Nat) : List RouterRule → DNSQueryOptions → Found
  | [], options => .transport none router.default options []
  | currentRule :: rest, options =>
    if !currentRule.isSelected metadata addressQuery then matchDNS (index + 1) rest options
    else
      match currentRule.action with
      | .route server action =>
        match router.transport server with
        | none => matchDNS (index + 1) rest options
        | some transport =>
          if transport.isFakeIP && !allowFakeIP then matchDNS (index + 1) rest options
          else .transport (some (index, currentRule)) transport
            (applyRouteOptions transport.isFakeIP action options) rest
      | .routeOptions action => matchDNS (index + 1) rest (applyRouteOptions false action options)
      | .reject method => .reject method
      | .predefined response => .predefined response
      | .evaluate _ _ => matchDNS (index + 1) rest options
      | .respond => matchDNS (index + 1) rest options

theorem match_dns_rest_shorter (index : Nat) (rules : List RouterRule) (options : DNSQueryOptions)
    (used : Nat × RouterRule) (transport : DNSTransport) (found : DNSQueryOptions) (rest : List RouterRule)
    (result : matchDNS router metadata allowFakeIP addressQuery index rules options =
      .transport (some used) transport found rest) : rest.length < rules.length := by
  induction rules generalizing index options with
  | nil => simp [matchDNS] at result
  | cons currentRule later ih =>
    have shorter (more : Nat) (opts : DNSQueryOptions)
        (continued : matchDNS router metadata allowFakeIP addressQuery more later opts =
          .transport (some used) transport found rest) : rest.length < (currentRule :: later).length := by
      have below := ih more opts continued
      rw [List.length_cons]
      omega
    rw [matchDNS] at result
    split at result
    · exact shorter _ _ result
    cases action : currentRule.action with
    | route server action | routeOptions action | evaluate _ action | respond => grind
    | reject | predefined => simp [action] at result

end

def addressLimitResponseCheck (rule : Option (Nat × RouterRule)) (metadata : InboundContext) : Option (Msg → Bool) :=
  match rule with
  | none => none
  | some (_, used) => if used.rule.withAddressLimit then some (used.rule.matchAddressLimit metadata) else none

-- The last call of a query to the client. resumedAt is where matching resumed
-- after the last rejected rule, zero when none was rejected.
structure ClientCall where
  resumedAt : Nat
  rule : Option (Nat × RouterRule)
  transport : DNSTransport
  options : DNSQueryOptions

inductive Outcome (α : Type) where
  | rejected (method : RejectMethod)
  | predefined (response : Predefined)
  | called (call : ClientCall) (result : Except ClientError α)

inductive Round (α : Type) where
  | done (outcome : Outcome α)
  | again (index : Nat) (rest : List RouterRule)

def Router.withDefaultStrategy (router : Router) (options : DNSQueryOptions) : DNSQueryOptions :=
  if options.strategy = .asIS then { options with strategy := router.defaultDomainStrategy } else options

-- The client's answer in each round.
abbrev RoundClient (α : Type) := Nat → DNSTransport → DNSQueryOptions → Option (Msg → Bool) → Except ClientError α

section
variable {α : Type} (router : Router) (metadata : InboundContext) (allowFakeIP addressQuery : Bool)
variable (retries : ClientError → Bool) (client : RoundClient α) (options : DNSQueryOptions)

-- One round of the legacy loop of Exchange and Lookup, from the caller's
-- options. The client is asked once, and its answer may differ from round to
-- round. If it is rejected under a rule with an address limit, the rules
-- behind that rule are next.
def legacyRound (round index : Nat) (rules : List RouterRule) : Round α :=
  match matchDNS router metadata allowFakeIP addressQuery index rules options with
  | .reject method => .done (.rejected method)
  | .predefined response => .done (.predefined response)
  | .transport rule transport dnsOptions rest =>
    let responseCheck := addressLimitResponseCheck rule (prepare metadata)
    let dnsOptions := router.withDefaultStrategy dnsOptions
    let call : ClientCall := ⟨index, rule, transport, dnsOptions⟩
    match rule, client round transport dnsOptions responseCheck with
    | some used, .error err =>
      if responseCheck.isSome && retries err then .again (used.1 + 1) rest else .done (.called call (.error err))
    | _, result => .done (.called call result)

theorem legacy_round_again (round index : Nat) (rules : List RouterRule) (next : Nat) (rest : List RouterRule)
    (again : legacyRound router metadata allowFakeIP addressQuery retries client options round index rules = .again next rest) :
    ∃ used transport found, next = used.1 + 1 ∧ matchDNS router metadata allowFakeIP addressQuery index rules options =
        .transport (some used) transport found rest := by
  cases result : matchDNS router metadata allowFakeIP addressQuery index rules options with
  | reject | predefined => simp [legacyRound, result] at again
  | transport _ transport found =>
    simp only [legacyRound, result] at again
    split at again
    · grind
    · contradiction

def legacyLoop (round index : Nat) (rules : List RouterRule) : Outcome α :=
  match _round : legacyRound router metadata allowFakeIP addressQuery retries client options round index rules with
  | .done outcome => outcome
  | .again next rest => legacyLoop (round + 1) next rest
termination_by rules.length
decreasing_by
  obtain ⟨used, transport, found, _, result⟩ := legacy_round_again _ _ _ _ _ _ _ _ _ _ _ _ _round
  exact match_dns_rest_shorter _ _ _ _ _ _ _ used transport found _ result

variable {round index next : Nat} {rules rest : List RouterRule} {outcome : Outcome α}

theorem legacy_loop_done
    (done : legacyRound router metadata allowFakeIP addressQuery retries client options round index rules = .done outcome) :
    legacyLoop router metadata allowFakeIP addressQuery retries client options round index rules = outcome := by
  rw [legacyLoop]
  split
  · simp_all
  · simp_all

theorem legacy_loop_again (again : legacyRound router metadata allowFakeIP addressQuery retries client options round index rules =
      .again next rest) : legacyLoop router metadata allowFakeIP addressQuery retries client options round index rules =
      legacyLoop router metadata allowFakeIP addressQuery retries client options (round + 1) next rest := by
  rw [legacyLoop]
  split
  · simp_all
  · simp_all

end

def exchangeLegacy (router : Router) (metadata : InboundContext) (message : Msg) (client : RoundClient Msg)
    (options : DNSQueryOptions) (rules : List RouterRule) : Outcome Msg :=
  legacyLoop router metadata true (isAddressQuery message) ClientError.isRejection client options 0 0 rules

def lookupLegacy (router : Router) (metadata : InboundContext) (client : RoundClient (List Net.Addr))
    (options : DNSQueryOptions) (rules : List RouterRule) : Outcome (List Net.Addr) :=
  legacyLoop router metadata false true (fun _ => true) client options 0 0 rules

-- A rule's assignments as overrides, one for each field they may touch.
structure OptionsUpdate where
  strategy : Option DomainStrategy := none
  disableCache : Option Bool := none
  rewriteTTL : Option (Option UInt32) := none
  timeout : Option Int := none
  clientSubnet : Option ClientSubnet := none
deriving DecidableEq, Repr

def OptionsUpdate.apply (update : OptionsUpdate) (options : DNSQueryOptions) : DNSQueryOptions :=
  { options with
    strategy := override options.strategy update.strategy
    disableCache := override options.disableCache update.disableCache
    rewriteTTL := override options.rewriteTTL update.rewriteTTL
    timeout := override options.timeout update.timeout
    clientSubnet := override options.clientSubnet update.clientSubnet }

def OptionsUpdate.after (later earlier : OptionsUpdate) : OptionsUpdate where
  strategy := later.strategy.or earlier.strategy
  disableCache := later.disableCache.or earlier.disableCache
  rewriteTTL := later.rewriteTTL.or earlier.rewriteTTL
  timeout := later.timeout.or earlier.timeout
  clientSubnet := later.clientSubnet.or earlier.clientSubnet

def RouteOptions.update (isFakeIP : Bool) (action : RouteOptions) : OptionsUpdate where
  strategy := if action.strategy ≠ .asIS then some action.strategy else none
  disableCache := if isFakeIP || action.disableCache then some true else none
  rewriteTTL := if action.rewriteTTL.isSome then some action.rewriteTTL else none
  timeout := if action.timeout > 0 then some action.timeout else none
  clientSubnet := if action.clientSubnet.isSome then some action.clientSubnet else none

theorem apply_after (later earlier : OptionsUpdate) (options : DNSQueryOptions) :
    (later.after earlier).apply options = later.apply (earlier.apply options) := by
  simp only [OptionsUpdate.apply, OptionsUpdate.after, override_override]

theorem apply_nothing (options : DNSQueryOptions) : OptionsUpdate.apply {} options = options := rfl

theorem apply_route_options_eq (isFakeIP : Bool) (action : RouteOptions) (options : DNSQueryOptions) :
    applyRouteOptions isFakeIP action options = (action.update isFakeIP).apply options := by
  simp only [applyRouteOptions, RouteOptions.update, OptionsUpdate.apply]
  split_ifs <;> rfl

end OtunKernel.Dns
