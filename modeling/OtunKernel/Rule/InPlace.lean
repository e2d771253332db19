import Mathlib.Data.List.GetD
import OtunKernel.Rule.Formula

namespace OtunKernel.Rule

open Lib AdapterRule

-- The same evaluation on metadata in memory. A rule gets a pointer and writes
-- DidMatch through it; a copy is a new cell.
abbrev Evaluator := Nat → List InboundContext → RuleMatchState → RuleMatchStateSet × List InboundContext

def cellAt (cells : List InboundContext) (pointer : Nat) : InboundContext := cells.getD pointer {}

def AbstractDefaultRule.metadataAfter {ρ : Type} (r : AbstractDefaultRule ρ) (metadata : InboundContext)
    (inheritedBase : RuleMatchState) : InboundContext :=
  if r.allItemsEmpty then metadata
  else
    let grouped := r.matchGroups (metadata, if r.invert then 0#4 else inheritedBase)
    let checked := matchOtherItems grouped.1 r.items
    if !checked.2 then checked.1 else if r.ruleSetItem.isSome then markDidMatch checked.1 else checked.1

def evaluateDefault (rule : DefaultRule) : Evaluator := fun pointer cells base =>
  (rule.matchStatesWithBase RuleSetItem.matchStatesWithBase (cellAt cells pointer) base,
    cells.set pointer (rule.metadataAfter (cellAt cells pointer) base))

def evaluateNested (rule : Evaluator) (pointer : Nat) (cells : List InboundContext) (base : RuleMatchState) :
    RuleMatchStateSet × List InboundContext :=
  rule cells.length (cells ++ [(cellAt cells pointer).resetRuleCache]) base

def combineChildren (pointer : Nat) (base : RuleMatchState) :
    List Evaluator → List InboundContext → RuleMatchStateSet → Option RuleMatchStateSet × List InboundContext
  | [], cells, stateSet => (some stateSet, cells)
  | rule :: rest, cells, stateSet =>
    let nested := evaluateNested rule pointer cells base
    if nested.1.isEmpty then (none, nested.2) else combineChildren pointer base rest nested.2 (stateSet.combine nested.1)

def mergeChildren (pointer : Nat) (base : RuleMatchState) :
    List Evaluator → List InboundContext → RuleMatchStateSet → RuleMatchStateSet × List InboundContext
  | [], cells, stateSet => (stateSet, cells)
  | rule :: rest, cells, stateSet =>
    let nested := evaluateNested rule pointer cells base
    mergeChildren pointer base rest nested.2 (stateSet.merge nested.1)

def evaluateLogical (mode : LogicalMode) (invert : Bool) (rules : List Evaluator) : Evaluator := fun pointer cells base =>
  let evaluationBase := if invert then 0#4 else base
  let failure := if invert then emptyRuleMatchState.withBase base else 0#16
  match mode with
  | .and =>
    let combined := combineChildren pointer evaluationBase rules cells (emptyRuleMatchState.withBase evaluationBase)
    match combined.1 with
    | none => (failure, combined.2)
    | some stateSet => (if invert then 0#16 else stateSet, combined.2)
  | .or =>
    let merged := mergeChildren pointer evaluationBase rules cells 0#16
    (if merged.1.isEmpty then failure else if invert then 0#16 else merged.1, merged.2)

mutual
def AdapterRule.evaluate : AdapterRule → Evaluator
  | .default rule => evaluateDefault rule
  | .logical rules mode invert => evaluateLogical mode invert (AdapterRule.evaluators rules)
def AdapterRule.evaluators : List AdapterRule → List Evaluator
  | [] => []
  | rule :: rest => rule.evaluate :: AdapterRule.evaluators rest
end

def evaluateDefaultForMatch (rule : DefaultRule) (matchResponse : Bool) : Evaluator := fun pointer cells _ =>
  if matchResponse then
    match (cellAt cells pointer).dnsResponse with
    | none => (rule.invertedFailure 0#4, cells)
    | some _ => evaluateDefault rule cells.length (cells ++ [fromResponse (cellAt cells pointer)]) 0#4
  else evaluateDefault rule pointer cells 0#4

mutual
def DNSRule.evaluate : DNSRule → Evaluator
  | .default rule matchResponse => evaluateDefaultForMatch rule matchResponse
  | .logical rules mode invert => fun pointer cells _ => evaluateLogical mode invert (DNSRule.evaluators rules) pointer cells 0#4
def DNSRule.evaluators : List DNSRule → List Evaluator
  | [] => []
  | rule :: rest => rule.evaluate :: DNSRule.evaluators rest
end

variable {cells : List InboundContext} {pointer : Nat} {α : Type} {rules : List α}

theorem cell_at_longer {later : List InboundContext} (kept : cells <+: later) (there : pointer < cells.length) :
    cellAt later pointer = cellAt cells pointer := by
  obtain ⟨_, rfl⟩ := kept
  rw [cellAt, cellAt, List.getD_append _ _ _ _ there]

theorem cell_at_new (cells : List InboundContext) (value : InboundContext) : cellAt (cells ++ [value]) cells.length = value := by
  grind [cellAt]

-- The states are those of the matcher, and only the rule's own cell is written to.
def Implements (rule : Evaluator) (matcher : Matcher) : Prop :=
  ∀ pointer cells base, pointer < cells.length →
    (rule pointer cells base).1 = matcher (cellAt cells pointer) base ∧
      ∃ value, cells.set pointer value <+: (rule pointer cells base).2

theorem evaluate_nested_eq {rule : Evaluator} {matcher : Matcher} (implements : Implements rule matcher) (pointer : Nat)
    (cells : List InboundContext) (base : RuleMatchState) :
    (evaluateNested rule pointer cells base).1 = matcher (cellAt cells pointer).resetRuleCache base ∧
      cells <+: (evaluateNested rule pointer cells base).2 := by
  obtain ⟨states, _, kept⟩ := implements cells.length (cells ++ [(cellAt cells pointer).resetRuleCache]) base (by simp)
  rw [cell_at_new] at states
  refine ⟨states, List.IsPrefix.trans ?_ kept⟩
  grind

theorem children_eq (evaluate : α → Evaluator) (matcher : α → Matcher) {base : RuleMatchState}
    (each : ∀ rule ∈ rules, Implements (evaluate rule) (matcher rule)) (there : pointer < cells.length)
    (stateSet : RuleMatchStateSet) : ((combineChildren pointer base (rules.map evaluate) cells stateSet).1 =
        combineNested (cellAt cells pointer) base (rules.map matcher) stateSet ∧
      cells <+: (combineChildren pointer base (rules.map evaluate) cells stateSet).2) ∧
    (mergeChildren pointer base (rules.map evaluate) cells stateSet).1 =
        (rules.map matcher).foldl (fun stateSet rule => stateSet.merge (rule (cellAt cells pointer).resetRuleCache base)) stateSet ∧
      cells <+: (mergeChildren pointer base (rules.map evaluate) cells stateSet).2 := by
  induction rules generalizing cells stateSet with
  | nil => exact ⟨⟨rfl, List.prefix_rfl⟩, rfl, List.prefix_rfl⟩
  | cons rule _ ih =>
    obtain ⟨states, kept⟩ := evaluate_nested_eq (each rule List.mem_cons_self) pointer cells base
    have later := ih (fun rule member => each rule (List.mem_cons_of_mem _ member)) (Nat.lt_of_lt_of_le there kept.length_le)
    simp only [List.map_cons, combineChildren, combineNested, mergeChildren, List.foldl_cons, states]
    constructor
    · by_cases empty : (matcher rule (cellAt cells pointer).resetRuleCache base).isEmpty = true
      · simp_all
      obtain ⟨result, further⟩ := (later (stateSet.combine (matcher rule (cellAt cells pointer).resetRuleCache base))).1
      rw [cell_at_longer kept there] at result
      grind
    · obtain ⟨result, further⟩ := (later (stateSet.merge (matcher rule (cellAt cells pointer).resetRuleCache base))).2
      rw [cell_at_longer kept there] at result
      grind

theorem set_cell_at (there : pointer < cells.length) : cells.set pointer (cellAt cells pointer) = cells := by
  rw [cellAt, List.getD_eq_getElem _ _ there, List.set_getElem_self]

theorem evaluate_logical_eq (evaluate : α → Evaluator) (matcher : α → Matcher) (mode : LogicalMode) (invert : Bool)
    (each : ∀ rule ∈ rules, Implements (evaluate rule) (matcher rule)) (there : pointer < cells.length)
    (base : RuleMatchState) : (evaluateLogical mode invert (rules.map evaluate) pointer cells base).1 =
        abstractLogicalMatchStates mode invert (rules.map matcher) (cellAt cells pointer) base ∧
      cells <+: (evaluateLogical mode invert (rules.map evaluate) pointer cells base).2 := by
  cases mode with
  | and =>
    obtain ⟨result, kept⟩ := (children_eq evaluate matcher each there (emptyRuleMatchState.withBase (if invert then 0#4 else base))).1
    rw [evaluateLogical, abstractLogicalMatchStates, ← result]
    generalize combineChildren _ _ _ _ _ = combined at kept ⊢
    cases combined.1 with
    | none | some => exact ⟨rfl, kept⟩
  | or =>
    obtain ⟨result, kept⟩ := (children_eq evaluate matcher each there 0#16).2
    refine ⟨?_, kept⟩
    rw [evaluateLogical, abstractLogicalMatchStates, mergeNested]
    rw [result]

theorem adapter_evaluators_eq_map (rules : List AdapterRule) : AdapterRule.evaluators rules = rules.map AdapterRule.evaluate := by
  induction rules with
  | nil => rfl
  | cons _ _ ih => rw [evaluators, ih, List.map_cons]

theorem dns_evaluators_eq_map (rules : List DNSRule) : DNSRule.evaluators rules = rules.map DNSRule.evaluate := by
  induction rules with
  | nil => rfl
  | cons _ _ ih => rw [DNSRule.evaluators, ih, List.map_cons]

theorem adapter_implements (rule : AdapterRule) : Implements rule.evaluate rule.matchStatesWithBase := by
  induction rule using AdapterRule.induction_on with
  | default =>
    intro pointer cells base there
    exact ⟨rfl, _, List.prefix_rfl⟩
  | logical _ mode invert each =>
    intro pointer cells base there
    rw [evaluate, matchStatesWithBase, adapter_evaluators_eq_map, adapter_matchers_eq_map]
    obtain ⟨states, kept⟩ := evaluate_logical_eq _ _ mode invert each there base
    exact ⟨states, cellAt cells pointer, (set_cell_at there).symm ▸ kept⟩

theorem dns_implements (rule : DNSRule) : Implements rule.evaluate (fun metadata _ => rule.matchStatesForMatch metadata) := by
  induction rule using DNSRule.induction_on with
  | default _ matchResponse =>
    intro pointer cells base there
    dsimp only
    rw [DNSRule.evaluate, DNSRule.matchStatesForMatch, evaluateDefaultForMatch, defaultStatesForMatch]
    by_cases onResponse : matchResponse = true
    · rw [if_pos onResponse, if_pos onResponse]
      cases (cellAt cells pointer).dnsResponse with
      | none => exact ⟨rfl, cellAt cells pointer, (set_cell_at there).symm ▸ List.prefix_rfl⟩
      | some =>
        rw [evaluateDefault, cell_at_new]
        refine ⟨rfl, cellAt cells pointer, ?_⟩
        grind [set_cell_at]
    rw [if_neg onResponse, if_neg onResponse]
    exact ⟨rfl, _, List.prefix_rfl⟩
  | logical _ mode invert each =>
    intro pointer cells base there
    dsimp only
    rw [DNSRule.evaluate, DNSRule.matchStatesForMatch, dns_evaluators_eq_map, logical_states_for_match_eq,
      dns_matchers_for_match_eq_map]
    obtain ⟨states, kept⟩ := evaluate_logical_eq _ _ mode invert each there 0#4
    exact ⟨states, cellAt cells pointer, (set_cell_at there).symm ▸ kept⟩

def SiblingsUndisturbed (siblings : List Evaluator) : Prop :=
  ∀ pointer cells base stateSet, pointer < cells.length →
    cellAt (combineChildren pointer base siblings cells stateSet).2 pointer = cellAt cells pointer ∧
      cellAt (mergeChildren pointer base siblings cells stateSet).2 pointer = cellAt cells pointer

theorem siblings_undisturbed {evaluate : α → Evaluator} {matcher : α → Matcher} (rules : List α)
    (each : ∀ rule, Implements (evaluate rule) (matcher rule)) : SiblingsUndisturbed (rules.map evaluate) := by
  intro _ _ _ stateSet there
  constructor
  · exact cell_at_longer (children_eq evaluate matcher (fun rule _ => each rule) there stateSet).1.2 there
  · exact cell_at_longer (children_eq evaluate matcher (fun rule _ => each rule) there stateSet).2.2 there

theorem dns_leaf_answered (metadata : InboundContext) (leaf : DefaultRule × Bool) :
    (if leaf.2 && metadata.dnsResponse.isNone then leaf.1.invert else DNSRule.leafMatches leaf metadata.resetRuleCache) =
      DNSRule.leafMatches leaf metadata.resetRuleCache := by
  obtain ⟨rule, matchResponse⟩ := leaf
  by_cases unanswered : (matchResponse && metadata.dnsResponse.isNone) = true
  · rw [if_pos unanswered]
    rw [Bool.and_eq_true, Option.isNone_iff_eq_none] at unanswered
    obtain ⟨rfl, missing⟩ := unanswered
    have still : metadata.resetRuleCache.dnsResponse = none := missing
    exact (dns_leaf_without_response rule still).symm
  · rw [if_neg unanswered]

theorem logical_rules_are_formulas (metadata : InboundContext) (mode : LogicalMode) (invert : Bool) :
    (∀ rules : List AdapterRule,
      (AdapterRule.logical rules mode invert).matches metadata =
          (AdapterRule.logical rules mode invert).formula.eval (fun leaf => DefaultRule.matches leaf metadata.resetRuleCache) ∧
        (∀ others, Formula.Reordered (AdapterRule.logical rules mode invert).formula (AdapterRule.logical others mode invert).formula →
          (AdapterRule.logical rules mode invert).matches metadata = (AdapterRule.logical others mode invert).matches metadata) ∧
        Implements (AdapterRule.logical rules mode invert).evaluate (AdapterRule.logical rules mode invert).matchStatesWithBase ∧
        SiblingsUndisturbed (rules.map AdapterRule.evaluate)) ∧
    ∀ rules : List DNSRule,
      (DNSRule.logical rules mode invert).matches metadata =
          (DNSRule.logical rules mode invert).formula.eval (fun leaf =>
            if leaf.2 && metadata.dnsResponse.isNone then leaf.1.invert else DNSRule.leafMatches leaf metadata.resetRuleCache) ∧
        (∀ others, Formula.Reordered (DNSRule.logical rules mode invert).formula (DNSRule.logical others mode invert).formula →
          (DNSRule.logical rules mode invert).matches metadata = (DNSRule.logical others mode invert).matches metadata) ∧
        Implements (DNSRule.logical rules mode invert).evaluate
          (fun metadata _ => (DNSRule.logical rules mode invert).matchStatesForMatch metadata) ∧
        SiblingsUndisturbed (rules.map DNSRule.evaluate) := by
  constructor
  · intro rules
    refine ⟨adapter_logical_matches metadata rules mode invert, ?_, adapter_implements _,
      siblings_undisturbed rules adapter_implements⟩
    intro others same
    rw [adapter_logical_matches, adapter_logical_matches, same.eval_eq]
  intro rules
  refine ⟨?_, ?_, dns_implements _, siblings_undisturbed rules dns_implements⟩
  · simp only [dns_leaf_answered]
    exact dns_logical_matches metadata rules mode invert
  intro others same
  rw [dns_logical_matches, dns_logical_matches, same.eval_eq]

end OtunKernel.Rule
