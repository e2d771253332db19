import OtunKernel.Dns.LegacyOptions
import OtunKernel.Rule.Strip

namespace OtunKernel.Dns

open Rule RuleAction InboundContext DNSRule

-- The strategy of an action is skipped here; a rule that sets one forces the
-- legacy mode.
def applyDNSRouteOptions (action : RouteOptions) (options : DNSQueryOptions) : DNSQueryOptions :=
  let options := if action.disableCache then { options with disableCache := true } else options
  let options := if action.disableOptimisticCache then { options with disableOptimisticCache := true } else options
  let options := if action.rewriteTTL.isSome then { options with rewriteTTL := action.rewriteTTL } else options
  let options := if action.timeout > 0 then { options with timeout := action.timeout } else options
  if action.clientSubnet.isSome then { options with clientSubnet := action.clientSubnet } else options

inductive DNSRouteStatus where
  | missing
  | skipped
  | resolved (transport : DNSTransport) (options : DNSQueryOptions)
deriving DecidableEq, Repr

def Router.resolveDNSRoute (router : Router) (server : String) (action : RouteOptions) (allowFakeIP : Bool)
    (options : DNSQueryOptions) : DNSRouteStatus :=
  match router.transport server with
  | none => .missing
  | some transport =>
    if transport.isFakeIP && !allowFakeIP then .skipped
    else
      let options := applyDNSRouteOptions action options
      .resolved transport (if transport.isFakeIP then { options with disableCache := true } else options)

-- exchangeWithRules ends with a rejection, a predefined response or a call to
-- the client as the legacy loop does, or through a respond action.
inductive RulesOutcome where
  | final (outcome : Outcome Msg)
  | responded (response : Msg) (transport : DNSTransport)
  | respondMissingResponse

structure RulesResult where
  evaluations : List ClientCall
  outcome : RulesOutcome

structure RulesState where
  effectiveOptions : DNSQueryOptions
  evaluated : Option (Msg × DNSTransport) := none
  evaluations : List ClientCall := []

section
variable (router : Router) (metadata : InboundContext) (allowFakeIP : Bool) (client : RoundClient Msg)

def RulesState.ruleMetadata (state : RulesState) : InboundContext :=
  { prepare metadata with dnsResponse := state.evaluated.map Prod.fst }

def RulesState.evaluate (state : RulesState) (rule : Nat × RouterRule) (action : RouteOptions)
    (transport : DNSTransport) : RulesState :=
  let options := router.withDefaultStrategy (applyDNSRouteOptions action state.effectiveOptions)
  let evaluations := state.evaluations ++ [⟨0, some rule, transport, options⟩]
  match client state.evaluations.length transport options none with
  | .error _ => { state with evaluated := none, evaluations := evaluations }
  | .ok response => { state with evaluated := some (response, transport), evaluations := evaluations }

def RulesState.exchange (state : RulesState) (rule : Option (Nat × RouterRule)) (transport : DNSTransport)
    (options : DNSQueryOptions) : RulesResult :=
  let options := router.withDefaultStrategy options
  ⟨state.evaluations, .final (.called ⟨0, rule, transport, options⟩
    (client state.evaluations.length transport options none))⟩

def exchangeWithRules (index : Nat) : List RouterRule → RulesState → RulesResult
  | [], state => state.exchange router client none router.default state.effectiveOptions
  | currentRule :: rest, state =>
    if !currentRule.rule.matches (state.ruleMetadata metadata) then exchangeWithRules (index + 1) rest state
    else
      match currentRule.action with
      | .routeOptions action =>
        exchangeWithRules (index + 1) rest
          { state with effectiveOptions := applyDNSRouteOptions action state.effectiveOptions }
      | .evaluate server action =>
        match router.transport server with
        | none => exchangeWithRules (index + 1) rest { state with evaluated := none }
        | some transport =>
          exchangeWithRules (index + 1) rest (state.evaluate router client (index, currentRule) action transport)
      | .respond =>
        match state.evaluated with
        | none => ⟨state.evaluations, .respondMissingResponse⟩
        | some (response, transport) => ⟨state.evaluations, .responded response transport⟩
      | .route server action =>
        match router.resolveDNSRoute server action allowFakeIP state.effectiveOptions with
        | .missing => exchangeWithRules (index + 1) rest state
        | .skipped => exchangeWithRules (index + 1) rest state
        | .resolved transport options => state.exchange router client (some (index, currentRule)) transport options
      | .reject method => ⟨state.evaluations, .final (.rejected method)⟩
      | .predefined response => ⟨state.evaluations, .final (.predefined response)⟩

end

-- What Exchange writes into the metadata of a query before either loop;
-- domain is the name of the question without its final dot.
def questionMetadata (caller : InboundContext) (domain : String) (question : Question) : InboundContext :=
  { caller with
    destination := {}
    queryType := question.qtype
    dnsResponse := none
    destinationAddressMatchFromResponse := false
    ipVersion := if question.qtype = typeA then 4 else if question.qtype = typeAAAA then 6 else caller.ipVersion
    domain := domain }

def RouteOptions.isShared (options : RouteOptions) : Bool :=
  options.strategy == .asIS && !options.disableOptimisticCache

def RuleAction.isShared : RuleAction → Bool
  | .route _ options => options.isShared
  | .routeOptions options => options.isShared
  | .reject _ => true
  | .predefined _ => true
  | .evaluate _ _ => false
  | .respond => false

theorem apply_shared_options (isFakeIP : Bool) (action : RouteOptions) (shared : action.isShared = true)
    (options : DNSQueryOptions) :
    (if isFakeIP then { applyDNSRouteOptions action options with disableCache := true }
      else applyDNSRouteOptions action options) = applyRouteOptions isFakeIP action options := by
  simp only [RouteOptions.isShared, Bool.and_eq_true, beq_iff_eq, Bool.not_eq_true'] at shared
  grind [applyDNSRouteOptions, applyRouteOptions, Bool.false_eq_true]

def RouterRule.ends (router : Router) (allowFakeIP : Bool) (rule : RouterRule) : Bool :=
  match rule.action with
  | .route server _ => (router.transport server).any (fun transport => !transport.isFakeIP || allowFakeIP)
  | .reject _ | .predefined _ | .respond => true
  | .routeOptions _ | .evaluate _ _ => false

-- Up to the first matching rule that ends the walk, no rule reads otherwise
-- without the address items of its rule-sets.
def ReadAlike (router : Router) (metadata : InboundContext) (allowFakeIP : Bool) : List RouterRule → Prop
  | [] => True
  | rule :: rest => rule.rule.strip.matches (prepare metadata) = rule.rule.matches (prepare metadata) ∧
      ((rule.rule.matches (prepare metadata) && rule.ends router allowFakeIP) = false → ReadAlike router metadata allowFakeIP rest)

def Found.outcome (router : Router) (client : RoundClient Msg) : Found → Outcome Msg
  | .transport rule chosen options _ =>
    .called ⟨0, rule, chosen, router.withDefaultStrategy options⟩
      (client 0 chosen (router.withDefaultStrategy options) none)
  | .reject method => .rejected method
  | .predefined response => .predefined response

section
variable (router : Router) (metadata : InboundContext) (allowFakeIP addressQuery : Bool)
  (client : RoundClient Msg)

theorem exchange_with_rules_eq_found (asked : metadata.dnsResponse = none) (rules : List RouterRule)
    (shared : ∀ rule ∈ rules, rule.action.isShared = true)
    (read : ∀ rule ∈ rules, rule.isSelected metadata addressQuery = rule.rule.strip.matches (prepare metadata))
    (alike : ReadAlike router metadata allowFakeIP rules)
    (index : Nat) (options : DNSQueryOptions) :
    exchangeWithRules router metadata allowFakeIP client index rules { effectiveOptions := options } =
      ⟨[], .final ((matchDNS router metadata allowFakeIP addressQuery index rules options).outcome router client)⟩ := by
  induction rules generalizing index options with
  | nil => rfl
  | cons currentRule _ ih =>
    have later := fun goes => ih (fun rule member => shared rule (List.mem_cons_of_mem _ member))
      (fun rule member => read rule (List.mem_cons_of_mem _ member)) (alike.2 goes)
    have known := shared currentRule List.mem_cons_self
    have same : currentRule.rule.matches (RulesState.ruleMetadata metadata { effectiveOptions := options }) =
        currentRule.isSelected metadata addressQuery := by
      rw [read currentRule List.mem_cons_self, alike.1]
      simp [RulesState.ruleMetadata, prepare, resetRuleCache, resetRuleMatchCache, asked]
    rw [read currentRule List.mem_cons_self, alike.1] at same
    rw [exchangeWithRules, matchDNS, read currentRule List.mem_cons_self, alike.1, same]
    by_cases selected : currentRule.rule.matches (prepare metadata) = true
    · simp only [selected, Bool.not_true, Bool.false_eq_true, if_false, Bool.true_and, RouterRule.ends] at later ⊢
      cases chosen : currentRule.action with
      | route server action =>
        have free : action.isShared = true := by simpa [chosen, isShared] using known
        simp only [Router.resolveDNSRoute, chosen] at later ⊢
        cases lookup : router.transport server with
        | none => exact later (by rw [lookup]; rfl) _ _
        | some transport =>
          simp only [apply_shared_options transport.isFakeIP action free]
          by_cases skipped : (transport.isFakeIP && !allowFakeIP) = true
          · simp_all
          simp only [skipped, Bool.false_eq_true, if_false]
          rfl
      | routeOptions action =>
        have free : action.isShared = true := by simpa [chosen, isShared] using known
        have applied := apply_shared_options false action free options
        simp only [Bool.false_eq_true, if_false] at applied
        simp only [applied]
        exact later (by rw [chosen]) _ _
      | evaluate | respond => simp [chosen, isShared] at known
      | reject | predefined => rfl
    · simp_all

theorem exchange_legacy_eq_found (message : Msg) (rules : List RouterRule)
    (unlimited : ∀ rule ∈ rules, rule.rule.withAddressLimit = false) (options : DNSQueryOptions) :
    exchangeLegacy router metadata message client options rules =
      (matchDNS router metadata true (isAddressQuery message) 0 rules options).outcome router client := by
  apply legacy_loop_done
  cases result : matchDNS router metadata true (isAddressQuery message) 0 rules options with
  | reject | predefined => simp [legacyRound, result, Found.outcome]
  | transport rule transport found =>
    obtain ⟨_, split, _⟩ := match_dns_spec _ _ _ _ _ _ _ _ _ _ _ result
    have unchecked : addressLimitResponseCheck rule (prepare metadata) = none := by
      cases rule with
      | none => rfl
      | some used => simp_all [split.1, addressLimitResponseCheck]
    simp only [legacyRound, result, unchecked, Found.outcome]
    cases answer : client 0 transport (router.withDefaultStrategy found) none with
    | ok | error => cases rule <;> rfl

end

section
variable (caller : InboundContext) (active : caller.ignoreDestinationIPCIDRMatch = false) (domain : String)
variable (question : Question)

include active

theorem question_selected (rule : RouterRule) (plain : ∀ entry ∈ rule.rule.defaults, entry.2 = false)
    (unlimited : rule.rule.withAddressLimit = false) (addressQuery : Bool) :
    rule.isSelected (questionMetadata caller domain question) addressQuery =
      rule.rule.strip.matches (prepare (questionMetadata caller domain question)) := by
  have prepared : PreparedByMatchDNS (prepare (questionMetadata caller domain question)) := ⟨rfl, rfl, active⟩
  simp [← legacy_pre_match_eq_strip rule.rule plain _ prepared, RouterRule.isSelected, unlimited]

end

def siteQuestion : Question := { name := "example.com.", qtype := typeA, qclass := 1 }

-- The last rule would be misread, but the walk ends before it.
def optionRules : List RouterRule :=
  [ { rule := siteRule, action := .routeOptions { rewriteTTL := some 60 } },
    { rule := siteRule, action := .route "local" { disableCache := true } },
    { rule := sourceModeRule lanSet, action := .reject .default } ]

def outsideCaller : InboundContext := { source := { addr := .v4 0xc0a80101#32 } }

def sourceModeRules : List RouterRule := [{ rule := sourceModeRule lanSet, action := .reject .default }]

end OtunKernel.Dns
