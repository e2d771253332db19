import OtunKernel.Lib.Formula
import OtunKernel.Rule.Dns

namespace OtunKernel.Rule

open Lib Formula

inductive AdapterRule where
  | default (rule : DefaultRule)
  | logical (rules : List AdapterRule) (mode : LogicalMode) (invert : Bool)

mutual
def AdapterRule.matchStatesWithBase : AdapterRule → Matcher
  | .default rule => rule.matchStatesWithBase RuleSetItem.matchStatesWithBase
  | .logical rules mode invert => abstractLogicalMatchStates mode invert (AdapterRule.matchers rules)
def AdapterRule.matchers : List AdapterRule → List Matcher
  | [] => []
  | rule :: rest => rule.matchStatesWithBase :: AdapterRule.matchers rest
end

def AdapterRule.matches (rule : AdapterRule) (metadata : InboundContext) : Bool :=
  !(rule.matchStatesWithBase metadata 0#4).isEmpty

theorem AdapterRule.induction_on {P : AdapterRule → Prop} (default : ∀ rule, P (.default rule))
    (logical : ∀ rules mode invert, (∀ rule ∈ rules, P rule) → P (.logical rules mode invert)) (rule : AdapterRule) : P rule := by
  cases rule with
  | default rule => exact default rule
  | logical rules mode invert => exact logical rules mode invert (fun rule _ => rule.induction_on default logical)
termination_by rule
decreasing_by
  have smaller := List.sizeOf_lt_of_mem ‹rule ∈ rules›
  rw [AdapterRule.logical.sizeOf_spec]
  omega

theorem adapter_matchers_eq_map (rules : List AdapterRule) :
    AdapterRule.matchers rules = rules.map AdapterRule.matchStatesWithBase := by
  induction rules with
  | nil => rfl
  | cons _ _ ih => rw [AdapterRule.matchers, ih, List.map_cons]

def LogicalMode.isAnd : LogicalMode → Bool
  | .and => true
  | .or => false

mutual
def AdapterRule.formula : AdapterRule → Formula DefaultRule
  | .default rule => .leaf rule
  | .logical rules mode invert => .node mode.isAnd invert (AdapterRule.formulas rules)
def AdapterRule.formulas : List AdapterRule → List (Formula DefaultRule)
  | [] => []
  | rule :: rest => rule.formula :: AdapterRule.formulas rest
end

mutual
def DNSRule.formula : DNSRule → Formula (DefaultRule × Bool)
  | .default rule matchResponse => .leaf (rule, matchResponse)
  | .logical rules mode invert => .node mode.isAnd invert (DNSRule.formulas rules)
def DNSRule.formulas : List DNSRule → List (Formula (DefaultRule × Bool))
  | [] => []
  | rule :: rest => rule.formula :: DNSRule.formulas rest
end

theorem adapter_formulas_eq_map (rules : List AdapterRule) : AdapterRule.formulas rules = rules.map AdapterRule.formula := by
  induction rules with
  | nil => rfl
  | cons _ _ ih => rw [AdapterRule.formulas, ih, List.map_cons]

theorem dns_formulas_eq_map (rules : List DNSRule) : DNSRule.formulas rules = rules.map DNSRule.formula := by
  induction rules with
  | nil => rfl
  | cons _ _ ih => rw [DNSRule.formulas, ih, List.map_cons]

theorem logical_nonempty {α : Type} (mode : LogicalMode) (invert : Bool) (rules : List α) (f : α → Matcher)
    (metadata : InboundContext) :
    (!(abstractLogicalMatchStates mode invert (rules.map f) metadata 0#4).isEmpty) =
      (invert != (if mode.isAnd then rules.all (fun rule => !(f rule metadata.resetRuleCache 0#4).isEmpty)
        else rules.any (fun rule => !(f rule metadata.resetRuleCache 0#4).isEmpty))) := by
  have body := logical_body_nonempty mode (rules.map f) metadata 0#4
  simp only [List.all_map, List.any_map, Function.comp_def] at body
  rw [logical_states_eq]
  cases mode <;> grind [single_not_empty, is_empty_zero, LogicalMode.isAnd]

theorem logical_formula {α β : Type} (mode : LogicalMode) (invert : Bool) (rules : List α) (f : α → Matcher)
    (formula : α → Formula β) (metadata : InboundContext) (value : β → Bool)
    (each : ∀ rule ∈ rules, (!(f rule metadata.resetRuleCache 0#4).isEmpty) = (formula rule).eval value) :
    (!(abstractLogicalMatchStates mode invert (rules.map f) metadata 0#4).isEmpty) =
      (Formula.node mode.isAnd invert (rules.map formula)).eval value := by
  rw [logical_nonempty, eval_node, List.all_map, List.any_map, all_congr_of_mem each, any_congr_of_mem each]
  rfl

section
variable (metadata : InboundContext)

theorem adapter_matches_reset (rule : AdapterRule) :
    rule.matches metadata.resetRuleCache = rule.formula.eval (fun leaf => DefaultRule.matches leaf metadata.resetRuleCache) := by
  induction rule using AdapterRule.induction_on with
  | default => rw [AdapterRule.formula, eval, AdapterRule.matches, AdapterRule.matchStatesWithBase]; rfl
  | logical rules mode invert each =>
    rw [AdapterRule.matches, AdapterRule.matchStatesWithBase, AdapterRule.formula, adapter_matchers_eq_map, adapter_formulas_eq_map]
    exact logical_formula mode invert rules _ _ metadata.resetRuleCache _ each

theorem adapter_logical_matches (rules : List AdapterRule) (mode : LogicalMode) (invert : Bool) :
    (AdapterRule.logical rules mode invert).matches metadata =
      (AdapterRule.logical rules mode invert).formula.eval (fun leaf => DefaultRule.matches leaf metadata.resetRuleCache) := by
  rw [AdapterRule.matches, AdapterRule.matchStatesWithBase, AdapterRule.formula, adapter_matchers_eq_map, adapter_formulas_eq_map]
  exact logical_formula mode invert rules _ _ metadata _ (fun rule _ => adapter_matches_reset metadata rule)

def DNSRule.leafMatches (leaf : DefaultRule × Bool) (metadata : InboundContext) : Bool :=
  (DNSRule.default leaf.1 leaf.2).matches metadata

theorem dns_matches_reset (rule : DNSRule) :
    rule.matches metadata.resetRuleCache = rule.formula.eval (fun leaf => DNSRule.leafMatches leaf metadata.resetRuleCache) := by
  induction rule using DNSRule.induction_on with
  | default => rw [DNSRule.formula, eval]; rfl
  | logical rules mode invert each =>
    rw [DNSRule.matches, DNSRule.matchStatesForMatch, DNSRule.formula, logical_states_for_match_eq, dns_matchers_for_match_eq_map,
      dns_formulas_eq_map]
    exact logical_formula mode invert rules _ _ metadata.resetRuleCache _ each

theorem dns_logical_matches (rules : List DNSRule) (mode : LogicalMode) (invert : Bool) :
    (DNSRule.logical rules mode invert).matches metadata =
      (DNSRule.logical rules mode invert).formula.eval (fun leaf => DNSRule.leafMatches leaf metadata.resetRuleCache) := by
  rw [DNSRule.matches, DNSRule.matchStatesForMatch, DNSRule.formula, logical_states_for_match_eq, dns_matchers_for_match_eq_map,
    dns_formulas_eq_map]
  exact logical_formula mode invert rules _ _ metadata _ (fun rule _ => dns_matches_reset metadata rule)

end

theorem dns_leaf_without_response (rule : DefaultRule) {metadata : InboundContext} (missing : metadata.dnsResponse = none) :
    DNSRule.leafMatches (rule, true) metadata = rule.invert := by
  rw [DNSRule.leafMatches, DNSRule.matches, DNSRule.matchStatesForMatch, defaultStatesForMatch, if_pos rfl, missing]
  rw [AbstractDefaultRule.invertedFailure, empty_state_with_base]
  cases rule.invert with
  | true => rw [if_pos rfl, single_not_empty]; rfl
  | false => rfl

end OtunKernel.Rule
