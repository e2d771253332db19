import OtunKernel.Rule.HeadlessOptions

namespace OtunKernel.Rule

open Dns

inductive DNSRule where
  | default (rule : DefaultRule) (matchResponse : Bool)
  | logical (rules : List DNSRule) (mode : LogicalMode) (invert : Bool)

mutual
def DNSRule.matchStatesWithBase : DNSRule → Matcher
  | .default rule _ => rule.matchStatesWithBase RuleSetItem.matchStatesWithBase
  | .logical rules mode invert => abstractLogicalMatchStates mode invert (DNSRule.matchers rules)
def DNSRule.matchers : List DNSRule → List Matcher
  | [] => []
  | rule :: rest => rule.matchStatesWithBase :: DNSRule.matchers rest
end

def DNSRule.matchStates (rule : DNSRule) (metadata : InboundContext) : RuleMatchStateSet :=
  rule.matchStatesWithBase metadata 0#4

def fromResponse (metadata : InboundContext) : InboundContext :=
  { metadata with destinationAddressMatchFromResponse := true }

def defaultStatesForMatch (rule : DefaultRule) (matchResponse : Bool) (metadata : InboundContext) : RuleMatchStateSet :=
  if matchResponse then
    match metadata.dnsResponse with
    | none => rule.invertedFailure 0#4
    | some _ => rule.matchStates RuleSetItem.matchStatesWithBase (fromResponse metadata)
  else rule.matchStates RuleSetItem.matchStatesWithBase metadata

def logicalStatesForMatch (mode : LogicalMode) (invert : Bool) (rules : List Matcher) (metadata : InboundContext) :
    RuleMatchStateSet :=
  let failure := if invert then emptyRuleMatchState else 0#16
  match mode with
  | .and =>
    match combineNested metadata 0#4 rules emptyRuleMatchState with
    | none => failure
    | some stateSet => if invert then 0#16 else stateSet
  | .or =>
    let stateSet := mergeNested metadata 0#4 rules
    if stateSet.isEmpty then failure else if invert then 0#16 else stateSet

mutual
def DNSRule.matchStatesForMatch : DNSRule → InboundContext → RuleMatchStateSet
  | .default rule matchResponse => defaultStatesForMatch rule matchResponse
  | .logical rules mode invert => logicalStatesForMatch mode invert (DNSRule.matchersForMatch rules)
def DNSRule.matchersForMatch : List DNSRule → List Matcher
  | [] => []
  | rule :: rest => (fun metadata _ => rule.matchStatesForMatch metadata) :: DNSRule.matchersForMatch rest
end

def DNSRule.matches (rule : DNSRule) (metadata : InboundContext) : Bool :=
  !(rule.matchStatesForMatch metadata).isEmpty

def ignoringCIDR (metadata : InboundContext) : InboundContext :=
  { metadata with ignoreDestinationIPCIDRMatch := true }

def DNSRule.legacyPreMatch (rule : DNSRule) (metadata : InboundContext) : Bool :=
  match rule with
  | .default _ true => false
  | _ => !(rule.matchStates (ignoringCIDR metadata)).isEmpty

def withResponse (metadata : InboundContext) (response : Msg) : InboundContext :=
  fromResponse { metadata with dnsResponse := some response }

def DNSRule.matchAddressLimit (rule : DNSRule) (metadata : InboundContext) (response : Msg) : Bool :=
  !(rule.matchStates (withResponse metadata response)).isEmpty

def DefaultRule.withAddressLimit (rule : DefaultRule) : Bool :=
  !rule.destinationIPCIDRItems.isEmpty || rule.ruleSetItem.any RuleSetItem.containsDestinationIPCIDRRule

mutual
def DNSRule.withAddressLimit : DNSRule → Bool
  | .default rule _ => rule.withAddressLimit
  | .logical rules _ _ => DNSRule.anyWithAddressLimit rules
def DNSRule.anyWithAddressLimit : List DNSRule → Bool
  | [] => false
  | rule :: rest => rule.withAddressLimit || DNSRule.anyWithAddressLimit rest
end

-- The default rules of a tree with their match_response flags.
mutual
def DNSRule.defaults : DNSRule → List (DefaultRule × Bool)
  | .default rule matchResponse => [(rule, matchResponse)]
  | .logical rules _ _ => DNSRule.defaultsIn rules
def DNSRule.defaultsIn : List DNSRule → List (DefaultRule × Bool)
  | [] => []
  | rule :: rest => rule.defaults ++ DNSRule.defaultsIn rest
end

structure PreparedByMatchDNS (metadata : InboundContext) : Prop where
  fresh : metadata.resetRuleCache = metadata
  ownAddresses : metadata.destinationAddressMatchFromResponse = false
  active : metadata.ignoreDestinationIPCIDRMatch = false

theorem mem_defaults_in (rules : List DNSRule) (entry : DefaultRule × Bool) :
    entry ∈ DNSRule.defaultsIn rules ↔ ∃ rule ∈ rules, entry ∈ rule.defaults := by
  induction rules with
  | nil => simp [DNSRule.defaultsIn]
  | cons _ _ ih => simp [DNSRule.defaultsIn, ih]

theorem DNSRule.induction_on {P : DNSRule → Prop} (default : ∀ rule matchResponse, P (.default rule matchResponse))
    (logical : ∀ rules mode invert, (∀ rule ∈ rules, P rule) → P (.logical rules mode invert)) (rule : DNSRule) : P rule := by
  cases rule with
  | default rule matchResponse => grind
  | logical rules mode invert => exact logical rules mode invert (fun rule _ => rule.induction_on default logical)
termination_by rule
decreasing_by
  have smaller := List.sizeOf_lt_of_mem ‹rule ∈ rules›
  rw [DNSRule.logical.sizeOf_spec]
  omega

theorem dns_matchers_eq_map (rules : List DNSRule) : DNSRule.matchers rules = rules.map DNSRule.matchStatesWithBase := by
  induction rules with
  | nil => rfl
  | cons _ _ ih => rw [DNSRule.matchers, ih, List.map_cons]

theorem dns_matchers_for_match_eq_map (rules : List DNSRule) :
    DNSRule.matchersForMatch rules = rules.map (fun rule metadata _ => rule.matchStatesForMatch metadata) := by
  induction rules with
  | nil => rfl
  | cons _ _ ih => rw [DNSRule.matchersForMatch, ih, List.map_cons]

theorem logical_states_for_match_eq (mode : LogicalMode) (invert : Bool) (rules : List Matcher) (metadata : InboundContext) :
    logicalStatesForMatch mode invert rules metadata = abstractLogicalMatchStates mode invert rules metadata 0#4 := by
  have start : emptyRuleMatchState.withBase 0#4 = emptyRuleMatchState := empty_state_with_base 0#4
  cases mode with
  | and =>
    cases combined : combineNested metadata 0#4 rules emptyRuleMatchState <;>
      simp [logicalStatesForMatch, abstractLogicalMatchStates, start, combined]
  | or => simp [logicalStatesForMatch, abstractLogicalMatchStates, start]

variable {α : Type}

section
variable (metadata other : InboundContext) (base : RuleMatchState) (rules : List α) (f g : α → Matcher)
    (same : ∀ rule ∈ rules, f rule metadata.resetRuleCache base = g rule other.resetRuleCache base)
include same

theorem combine_nested_congr (stateSet : RuleMatchStateSet) :
    combineNested metadata base (rules.map f) stateSet = combineNested other base (rules.map g) stateSet := by
  induction rules generalizing stateSet with
  | nil => rfl
  | cons rule _ ih =>
    have first := same rule List.mem_cons_self
    have later := ih (fun rule member => same rule (List.mem_cons_of_mem _ member))
    simp only [List.map_cons, combineNested, first, later]

theorem merge_nested_congr : mergeNested metadata base (rules.map f) = mergeNested other base (rules.map g) := by
  apply set_eq_of_contains
  intro target
  rw [Bool.eq_iff_iff, contains_merge_nested, contains_merge_nested]
  simp only [List.mem_map, exists_exists_and_eq_and]
  grind

end

theorem logical_states_congr (metadata other : InboundContext) (mode : LogicalMode) (invert : Bool) (base : RuleMatchState)
    (rules : List α) (f g : α → Matcher) (same : ∀ rule ∈ rules, ∀ start, (start = 0#4 ∨ start = base) →
      f rule metadata.resetRuleCache start = g rule other.resetRuleCache start) :
    abstractLogicalMatchStates mode invert (rules.map f) metadata base =
      abstractLogicalMatchStates mode invert (rules.map g) other base := by
  have body (start : RuleMatchState) (known : start = 0#4 ∨ start = base) :
      logicalBody mode (rules.map f) metadata start = logicalBody mode (rules.map g) other start := by
    have each := fun rule member => same rule member start known
    cases mode with
    | and => simp only [logicalBody, combine_nested_congr metadata other start rules f g each]
    | or => simp only [logicalBody, merge_nested_congr metadata other start rules f g each]
  rw [logical_states_eq, logical_states_eq, body 0#4 (.inl rfl), body base (.inr rfl)]

theorem states_for_match_eq (rule : DNSRule) (plain : ∀ entry ∈ rule.defaults, entry.2 = false)
    (metadata : InboundContext) : rule.matchStatesForMatch metadata = rule.matchStates metadata := by
  induction rule using DNSRule.induction_on generalizing metadata with
  | default rule matchResponse =>
    have off : matchResponse = false := plain (rule, matchResponse) (by simp [DNSRule.defaults])
    simp only [DNSRule.matchStatesForMatch, defaultStatesForMatch, off, Bool.false_eq_true, if_false,
      DNSRule.matchStates, DNSRule.matchStatesWithBase, AbstractDefaultRule.matchStates]
  | logical rules mode invert each =>
    rw [DNSRule.matchStatesForMatch, logical_states_for_match_eq, dns_matchers_for_match_eq_map, DNSRule.matchStates,
      DNSRule.matchStatesWithBase, dns_matchers_eq_map]
    apply logical_states_congr metadata metadata mode invert 0#4 rules _ _
    intro rule member start known
    have zero : start = 0#4 := by simpa using known
    rw [zero]
    exact each rule member (fun entry present => plain entry ((mem_defaults_in rules entry).mpr ⟨rule, member, present⟩)) _

end OtunKernel.Rule
