import OtunKernel.Dns.LegacyRoute

namespace OtunKernel.Dns

open Lib Rule RouterRule ClientCall Router

section
variable (metadata : InboundContext) (addressQuery : Bool)

def RouterRule.update (rule : RouterRule) : OptionsUpdate :=
  if rule.isSelected metadata addressQuery then
    match rule.action with
    | .routeOptions action => action.update false
    | _ => {}
  else {}

def updates (rules : List RouterRule) : OptionsUpdate :=
  rules.foldl (fun earlier rule => (rule.update metadata addressQuery).after earlier) {}

def accumulate (rules : List RouterRule) (options : DNSQueryOptions) : DNSQueryOptions :=
  rules.foldl (fun options rule => (rule.update metadata addressQuery).apply options) options

theorem accumulate_append (left right : List RouterRule) (options : DNSQueryOptions) :
    accumulate metadata addressQuery (left ++ right) options =
      accumulate metadata addressQuery right (accumulate metadata addressQuery left options) :=
  List.foldl_append

theorem accumulate_eq_updates (rules : List RouterRule) (options : DNSQueryOptions) :
    accumulate metadata addressQuery rules options = (updates metadata addressQuery rules).apply options := by
  have general (earlier : OptionsUpdate) :
      accumulate metadata addressQuery rules (earlier.apply options) =
        (rules.foldl (fun earlier rule => (rule.update metadata addressQuery).after earlier) earlier).apply options := by
    induction rules generalizing earlier with
    | nil => rfl
    | cons _ _ ih =>
      rw [List.foldl_cons, ← ih, apply_after]
      rfl
  exact general {}

end

def ownUpdate (transport : DNSTransport) : Option (Nat × RouterRule) → OptionsUpdate
  | none => {}
  | some (_, used) =>
    match used.action with
    | .route _ action => action.update transport.isFakeIP
    | _ => {}

def SplitsAt (rules : List RouterRule) (index : Nat) (passed : List RouterRule) (rule : Option (Nat × RouterRule))
    (rest : List RouterRule) : Prop :=
  match rule with
  | none => rules = passed ∧ rest = []
  | some (position, used) => rules = passed ++ used :: rest ∧ position = index + passed.length

theorem splits_cons {rules : List RouterRule} {index : Nat} {passed : List RouterRule} {rule : Option (Nat × RouterRule)}
    {rest : List RouterRule} (first : RouterRule) (split : SplitsAt rules (index + 1) passed rule rest) :
    SplitsAt (first :: rules) index (first :: passed) rule rest := by
  cases rule with
  | none => exact ⟨by rw [split.1], split.2⟩
  | some used =>
    obtain ⟨same, place⟩ := split
    refine ⟨by rw [same, List.cons_append], ?_⟩
    rw [List.length_cons]
    omega

theorem match_dns_spec (router : Router) (metadata : InboundContext) (allowFakeIP addressQuery : Bool) (index : Nat)
    (rules : List RouterRule) (options : DNSQueryOptions) (rule : Option (Nat × RouterRule)) (transport : DNSTransport)
    (found : DNSQueryOptions) (rest : List RouterRule)
    (result : matchDNS router metadata allowFakeIP addressQuery index rules options = .transport rule transport found rest) :
    ∃ passed, SplitsAt rules index passed rule rest ∧
      found = (ownUpdate transport rule).apply (accumulate metadata addressQuery passed options) := by
  induction rules generalizing index options with
  | nil =>
    cases result
    exact ⟨[], ⟨rfl, rfl⟩, rfl⟩
  | cons currentRule later ih =>
    -- A rule that is passed over contributes its update and the search goes on.
    have passOver (next : DNSQueryOptions)
        (contributed : next = (currentRule.update metadata addressQuery).apply options)
        (continued : matchDNS router metadata allowFakeIP addressQuery (index + 1) later next =
          .transport rule transport found rest) :
        ∃ passed, SplitsAt (currentRule :: later) index passed rule rest ∧
          found = (ownUpdate transport rule).apply (accumulate metadata addressQuery passed options) := by
      obtain ⟨passed, split, same⟩ := ih (index + 1) next continued
      refine ⟨currentRule :: passed, splits_cons currentRule split, ?_⟩
      rw [same, contributed]
      rfl
    rw [matchDNS] at result
    cases selected : currentRule.isSelected metadata addressQuery with
    | false => simp_all [Bool.not_false, update, apply_nothing]
    | true =>
      simp only [selected, Bool.not_true, Bool.false_eq_true, if_false] at result
      cases action : currentRule.action with
      | route server action =>
        simp only [action] at result
        have nothing : options = (currentRule.update metadata addressQuery).apply options := by
          simp [update, selected, action, apply_nothing]
        cases lookup : router.transport server with
        | none => grind
        | some =>
          simp only [lookup] at result
          split at result
          · grind
          cases result
          refine ⟨[], ⟨rfl, rfl⟩, ?_⟩
          simp only [ownUpdate, action, accumulate, List.foldl_nil, apply_route_options_eq]
      | routeOptions action => simp_all [update, apply_route_options_eq]
      | evaluate _ action | respond => simp_all [update, apply_nothing]
      | reject | predefined => simp [action] at result

def ClientCall.position (call : ClientCall) (rules : List RouterRule) : Nat :=
  match call.rule with
  | none => rules.length
  | some (position, _) => position

-- What the client gets: the caller's options, updated by the rules from where
-- matching resumed to the one that was used.
def Resumed (router : Router) (metadata : InboundContext) (addressQuery : Bool) (options : DNSQueryOptions)
    (rules : List RouterRule) (call : ClientCall) : Prop :=
  call.resumedAt ≤ call.position rules ∧
    call.options = router.withDefaultStrategy ((ownUpdate call.transport call.rule).apply
      (accumulate metadata addressQuery ((rules.take (call.position rules)).drop call.resumedAt) options))

theorem resumed_of_split (router : Router) (metadata : InboundContext) (addressQuery : Bool) (options : DNSQueryOptions)
    (before suffix passed : List RouterRule) (rule : Option (Nat × RouterRule)) (rest : List RouterRule)
    (transport : DNSTransport) (split : SplitsAt suffix before.length passed rule rest) :
    Resumed router metadata addressQuery options (before ++ suffix)
      ⟨before.length, rule, transport, router.withDefaultStrategy ((ownUpdate transport rule).apply
        (accumulate metadata addressQuery passed options))⟩ := by
  cases rule with
  | none =>
    obtain ⟨rfl, _⟩ := split
    refine ⟨by simp [position], ?_⟩
    simp only [position]
    rw [List.take_of_length_le (by simp), List.drop_left]
  | some used =>
    obtain ⟨_, used⟩ := used
    obtain ⟨rfl, rfl⟩ := split
    refine ⟨by simp [position], ?_⟩
    grind [position]

section
variable {α : Type} (router : Router) (metadata : InboundContext) (allowFakeIP addressQuery : Bool)
variable (retries : ClientError → Bool) (client : RoundClient α) (options : DNSQueryOptions)

theorem legacy_round_called (before suffix : List RouterRule) (round : Nat) (call : ClientCall) (result : Except ClientError α)
    (called : legacyRound router metadata allowFakeIP addressQuery retries client options round before.length suffix =
      .done (.called call result)) : Resumed router metadata addressQuery options (before ++ suffix) call := by
  cases found : matchDNS router metadata allowFakeIP addressQuery before.length suffix options with
  | reject | predefined => simp [legacyRound, found] at called
  | transport rule transport dnsOptions rest =>
    obtain ⟨passed, split, rfl⟩ := match_dns_spec router metadata allowFakeIP addressQuery before.length suffix options
      rule transport dnsOptions rest found
    grind [resumed_of_split, legacyRound]

theorem legacy_loop_resumed (before suffix : List RouterRule) (round : Nat) (call : ClientCall) (result : Except ClientError α)
    (run : legacyLoop router metadata allowFakeIP addressQuery retries client options round before.length suffix =
      .called call result) : Resumed router metadata addressQuery options (before ++ suffix) call := by
  -- By induction on the rules that are left; a retry resumes behind the rule
  -- that was rejected.
  induction measured : suffix.length using Nat.strong_induction_on generalizing before suffix round with
  | _ size ih =>
    cases step : legacyRound router metadata allowFakeIP addressQuery retries client options round before.length suffix with
    | done =>
      rw [legacy_loop_done _ _ _ _ _ _ _ step] at run
      exact legacy_round_called router metadata allowFakeIP addressQuery retries client options before suffix round
        call result (run ▸ step)
    | again next rest =>
      rw [legacy_loop_again _ _ _ _ _ _ _ step] at run
      obtain ⟨⟨_, used⟩, transport, found, rfl, matched⟩ := legacy_round_again router metadata allowFakeIP
        addressQuery retries client options round before.length suffix next rest step
      obtain ⟨passed, ⟨rfl, rfl⟩, _⟩ := match_dns_spec router metadata allowFakeIP addressQuery before.length suffix
        options _ transport found rest matched
      have place : before.length + passed.length + 1 = (before ++ passed ++ [used]).length := by
        simp [Nat.add_assoc]
      rw [place] at run
      have shorter : rest.length < size := by grind
      have later := ih rest.length shorter (before ++ passed ++ [used]) rest _ run rfl
      simpa using later

end

-- The options a query should be sent with: those of every matching rule before
-- the used one, and then of the used rule's own action.
def expectedOptions (router : Router) (metadata : InboundContext) (addressQuery : Bool) (options : DNSQueryOptions)
    (rules : List RouterRule) (call : ClientCall) : DNSQueryOptions :=
  router.withDefaultStrategy ((ownUpdate call.transport call.rule).apply
    (accumulate metadata addressQuery (rules.take (call.position rules)) options))

def Router.effectiveStrategy (router : Router) (strategy : DomainStrategy) : DomainStrategy :=
  if strategy = .asIS then router.defaultDomainStrategy else strategy

theorem with_default_strategy_eq (router : Router) (options : DNSQueryOptions) :
    router.withDefaultStrategy options = { options with strategy := router.effectiveStrategy options.strategy } := by
  rw [withDefaultStrategy, effectiveStrategy]
  split <;> rfl

-- A field is undisturbed when a later rule writes it anyway or the rules in
-- question leave it as the caller has it.
structure Undisturbed (router : Router) (later : OptionsUpdate) (caller forgotten : DNSQueryOptions) : Prop where
  strategy : later.strategy.isSome = true ∨
    router.effectiveStrategy caller.strategy = router.effectiveStrategy forgotten.strategy
  disableCache : later.disableCache.isSome = true ∨ caller.disableCache = forgotten.disableCache
  rewriteTTL : later.rewriteTTL.isSome = true ∨ caller.rewriteTTL = forgotten.rewriteTTL
  timeout : later.timeout.isSome = true ∨ caller.timeout = forgotten.timeout
  clientSubnet : later.clientSubnet.isSome = true ∨ caller.clientSubnet = forgotten.clientSubnet

theorem undisturbed_iff (router : Router) (later earlier : OptionsUpdate) (caller : DNSQueryOptions) :
    router.withDefaultStrategy (later.apply caller) = router.withDefaultStrategy (later.apply (earlier.apply caller)) ↔
      Undisturbed router later caller (earlier.apply caller) := by
  have plain {α : Type} (value earlier : α) (later : Option α) := observed_override_eq_iff id value earlier later
  simp only [id] at plain
  rw [with_default_strategy_eq, with_default_strategy_eq, DNSQueryOptions.mk.injEq]
  simp only [OptionsUpdate.apply, observed_override_eq_iff router.effectiveStrategy, plain, true_and]
  constructor
  · rintro ⟨strategy, disableCache, rewriteTTL, timeout, clientSubnet⟩
    exact ⟨strategy, disableCache, rewriteTTL, timeout, clientSubnet⟩
  rintro ⟨strategy, disableCache, rewriteTTL, timeout, clientSubnet⟩
  grind

def laterUpdate (metadata : InboundContext) (addressQuery : Bool) (rules : List RouterRule) (call : ClientCall) :
    OptionsUpdate :=
  (ownUpdate call.transport call.rule).after
    (updates metadata addressQuery ((rules.take (call.position rules)).drop call.resumedAt))

theorem resumed_options_iff (router : Router) (metadata : InboundContext) (addressQuery : Bool) (options : DNSQueryOptions)
    (rules : List RouterRule) (call : ClientCall) (resumed : Resumed router metadata addressQuery options rules call) :
    call.options = expectedOptions router metadata addressQuery options rules call ↔
      Undisturbed router (laterUpdate metadata addressQuery rules call) options
        (accumulate metadata addressQuery (rules.take call.resumedAt) options) := by
  obtain ⟨order, same⟩ := resumed
  have parts : rules.take (call.position rules) =
      rules.take call.resumedAt ++ (rules.take (call.position rules)).drop call.resumedAt := by
    conv_lhs => rw [← List.take_append_drop call.resumedAt (rules.take (call.position rules))]
    rw [List.take_take, Nat.min_eq_left order]
  rw [same, expectedOptions, parts, accumulate_append]
  simp only [accumulate_eq_updates]
  rw [← apply_after, ← apply_after, ← parts]
  exact undisturbed_iff router _ _ options

theorem legacy_route_options_kept (router : Router) (metadata : InboundContext) (options : DNSQueryOptions)
    (rules : List RouterRule) (call : ClientCall) :
    (∀ (message : Msg) (client : RoundClient Msg) (result : Except ClientError Msg),
      exchangeLegacy router metadata message client options rules = .called call result →
        (call.options = expectedOptions router metadata (isAddressQuery message) options rules call ↔
          Undisturbed router (laterUpdate metadata (isAddressQuery message) rules call) options
            (accumulate metadata (isAddressQuery message) (rules.take call.resumedAt) options))) ∧
    (∀ (client : RoundClient (List Net.Addr)) (result : Except ClientError (List Net.Addr)),
      lookupLegacy router metadata client options rules = .called call result →
        (call.options = expectedOptions router metadata true options rules call ↔
          Undisturbed router (laterUpdate metadata true rules call) options
            (accumulate metadata true (rules.take call.resumedAt) options))) := by
  constructor
  · intro _ client result run
    exact resumed_options_iff router metadata _ options rules call
      (legacy_loop_resumed router metadata true _ _ client options [] rules 0 call result run)
  intro client result run
  exact resumed_options_iff router metadata _ options rules call
    (legacy_loop_resumed router metadata false _ _ client options [] rules 0 call result run)

def siteRule : DNSRule := .default { destinationAddressItems := [.host (fun host => host == "example.com")] } false

def ttlRules (server : String) : List RouterRule :=
  [ { rule := siteRule, action := .routeOptions { rewriteTTL := some 60 } },
    { rule := .default { destinationIPCIDRItems := [.ipAcceptAny] } false, action := .route server {} },
    { rule := siteRule, action := .route server {} } ]

def siteQuery : InboundContext := { queryType := 1, domain := "example.com" }

def plainRouter : Router where
  transport := fun server => some { tag := server }
  default := { tag := "default" }

def addressQuestion : Msg where
  id := 7
  response := false
  rcode := rcodeSuccess
  question := [{ name := "example.com.", qtype := typeA, qclass := 1 }]
  answer := []
  ns := []
  extra := []

def rejectingClient (rejections : Nat) (round : Nat) (_ : DNSTransport) (_ : DNSQueryOptions) (_ : Option (Msg → Bool)) :
    Except ClientError Msg :=
  if round < rejections then .error .responseRejected else .ok { addressQuestion with response := true }

theorem ttl_rules_rejected (server : String) :
    exchangeLegacy plainRouter siteQuery addressQuestion (rejectingClient 1) {} (ttlRules server) =
      .called ⟨2, (ttlRules server)[2]?.map (fun rule => (2, rule)), { tag := server }, {}⟩
        (.ok { addressQuestion with response := true }) := by
  have first : legacyRound plainRouter siteQuery true (isAddressQuery addressQuestion) ClientError.isRejection
      (rejectingClient 1) {} 0 0 (ttlRules server) = .again 2 ((ttlRules server).drop 2) := rfl
  rw [exchangeLegacy, legacy_loop_again _ _ _ _ _ _ _ first]
  exact legacy_loop_done _ _ _ _ _ _ _ rfl

theorem rejected_rule_drops_options :
    ¬ ∀ (router : Router) (metadata : InboundContext) (message : Msg) (client : RoundClient Msg)
        (options : DNSQueryOptions) (rules : List RouterRule) (call : ClientCall) (result : Except ClientError Msg),
      exchangeLegacy router metadata message client options rules = .called call result →
        call.options = expectedOptions router metadata (isAddressQuery message) options rules call := by
  intro claim
  have same := claim plainRouter siteQuery addressQuestion (rejectingClient 1) {} (ttlRules "dns") _ _
    (ttl_rules_rejected "dns")
  have ttl := congrArg DNSQueryOptions.rewriteTTL same
  revert ttl
  decide

theorem accepted_rule_keeps_options (server : String) :
    exchangeLegacy plainRouter siteQuery addressQuestion (rejectingClient 0) {} (ttlRules server) =
      .called ⟨0, (ttlRules server)[1]?.map (fun rule => (1, rule)), { tag := server }, { rewriteTTL := some 60 }⟩
        (.ok { addressQuestion with response := true }) := by
  rw [exchangeLegacy]
  exact legacy_loop_done _ _ _ _ _ _ _ rfl

theorem accepted_rule_options_expected :
    ({ rewriteTTL := some 60 } : DNSQueryOptions) =
      expectedOptions plainRouter siteQuery (isAddressQuery addressQuestion) {} (ttlRules "dns")
        ⟨0, (ttlRules "dns")[1]?.map (fun rule => (1, rule)), { tag := "dns" }, { rewriteTTL := some 60 }⟩ :=
  ((legacy_route_options_kept plainRouter siteQuery {} (ttlRules "dns") _).1 addressQuestion
    (rejectingClient 0) _ (accepted_rule_keeps_options "dns")).mpr ⟨.inr rfl, .inr rfl, .inr rfl, .inr rfl, .inr rfl⟩

end OtunKernel.Dns
