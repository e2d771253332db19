import OtunKernel.Rule.DefaultSpec

namespace OtunKernel.Rule

section
variable (metadata : InboundContext) (base : RuleMatchState)

def Picks (rules : List Matcher) (picked : List RuleMatchState) : Prop :=
  List.Forall₂ (fun (rule : Matcher) state => (rule metadata.resetRuleCache base).contains state = true) rules picked

theorem combine_nested_continues {rule : Matcher} {rest : List Matcher} {stateSet : RuleMatchStateSet}
    (some : (rule metadata.resetRuleCache base).isEmpty = false) : combineNested metadata base (rule :: rest) stateSet =
      combineNested metadata base rest (stateSet.combine (rule metadata.resetRuleCache base)) := by
  simp [combineNested, some]

theorem contains_combine_nested (rules : List Matcher) (stateSet : RuleMatchStateSet) (target : RuleMatchState) :
    RuleMatchStateSet.contains ((combineNested metadata base rules stateSet).getD 0#16) target = true ↔
      ∃ state picked, stateSet.contains state = true ∧ Picks metadata base rules picked ∧
        picked.foldl (fun union next => union ||| next) state = target := by
  induction rules generalizing stateSet with
  | nil =>
    constructor
    · intro present
      exact ⟨target, [], present, List.Forall₂.nil, rfl⟩
    rintro ⟨state, picked, present, picks, union⟩
    cases picks
    exact union ▸ present
  | cons rule rest ih =>
    by_cases empty : (rule metadata.resetRuleCache base).isEmpty = true
    · have stopped : combineNested metadata base (rule :: rest) stateSet = none := by simp [combineNested, empty]
      rw [stopped]
      constructor
      · simp
      rintro ⟨state, picked, _, picks, _⟩
      cases picks with
      | cons head => rw [(is_empty_iff _).mp empty] at head; contradiction
    rw [combine_nested_continues _ _ (Bool.eq_false_iff.mpr empty), ih]
    constructor
    · rintro ⟨state, picked, present, picks, union⟩
      obtain ⟨left, right, inLeft, inRight, rfl⟩ := (contains_combine _ _ _).mp present
      exact ⟨left, right :: picked, inLeft, List.Forall₂.cons inRight picks, union⟩
    rintro ⟨state, picked, present, picks, union⟩
    cases picks with
    | cons head tail =>
      exact ⟨_, _, (contains_combine _ _ _).mpr ⟨state, _, present, head, rfl⟩, tail, union⟩

theorem combine_not_empty (s other : RuleMatchStateSet) (left : s.isEmpty = false) (right : other.isEmpty = false) :
    (s.combine other).isEmpty = false := by
  obtain ⟨a, inLeft⟩ := (not_is_empty_iff s).mp (by simp [left])
  obtain ⟨b, inRight⟩ := (not_is_empty_iff other).mp (by simp [right])
  have present := (not_is_empty_iff (s.combine other)).mpr
    ⟨a ||| b, (contains_combine s other (a ||| b)).mpr ⟨a, b, inLeft, inRight, rfl⟩⟩
  simpa using present

theorem combine_nested_result (rules : List Matcher) (stateSet : RuleMatchStateSet) (start : stateSet.isEmpty = false) :
    (combineNested metadata base rules stateSet = none ∧
      RuleMatchStateSet.isEmpty ((combineNested metadata base rules stateSet).getD 0#16) = true) ∨
    ∃ result, combineNested metadata base rules stateSet = some result ∧ result.isEmpty = false := by
  induction rules generalizing stateSet with
  | nil => exact .inr ⟨stateSet, rfl, start⟩
  | cons rule rest ih =>
    cases empty : (rule metadata.resetRuleCache base).isEmpty with
    | true =>
      have stopped : combineNested metadata base (rule :: rest) stateSet = none := by simp [combineNested, empty]
      grind [is_empty_zero]
    | false =>
      simpa [combine_nested_continues _ _ empty] using ih _ (combine_not_empty _ _ start empty)

theorem combine_nested_nonempty (rules : List Matcher) (stateSet : RuleMatchStateSet) (start : stateSet.isEmpty = false) :
    (!RuleMatchStateSet.isEmpty ((combineNested metadata base rules stateSet).getD 0#16)) =
      rules.all (fun rule => !(rule metadata.resetRuleCache base).isEmpty) := by
  induction rules generalizing stateSet with
  | nil => simp [combineNested, start]
  | cons rule rest ih =>
    cases empty : (rule metadata.resetRuleCache base).isEmpty with
    | true => simp [combineNested, empty, is_empty_zero]
    | false =>
      rw [combine_nested_continues _ _ empty, ih _ (combine_not_empty _ _ start empty), List.all_cons, empty, Bool.not_false,
        Bool.true_and]

theorem contains_merge_nested (rules : List Matcher) (target : RuleMatchState) : (mergeNested metadata base rules).contains
    target = true ↔ ∃ rule ∈ rules, (rule metadata.resetRuleCache base).contains target = true := by
  rw [mergeNested, contains_merge_all, contains_zero, Bool.false_or, List.any_eq_true]

end

def logicalBody (mode : LogicalMode) (rules : List Matcher) (metadata : InboundContext) (base : RuleMatchState) :
    RuleMatchStateSet :=
  match mode with
  | .and => (combineNested metadata base rules (singleRuleMatchState base)).getD 0#16
  | .or => mergeNested metadata base rules

theorem logical_body_nonempty (mode : LogicalMode) (rules : List Matcher) (metadata : InboundContext)
    (base : RuleMatchState) :
    (!(logicalBody mode rules metadata base).isEmpty) =
      match mode with
      | .and => rules.all (fun rule => !(rule metadata.resetRuleCache base).isEmpty)
      | .or => rules.any (fun rule => !(rule metadata.resetRuleCache base).isEmpty) := by
  cases mode with
  | and => exact combine_nested_nonempty metadata base rules _ (single_not_empty base)
  | or =>
    rw [Bool.eq_iff_iff]
    simp only [logicalBody, contains_merge_nested, List.any_eq_true, not_is_empty_iff]
    grind

theorem logical_states_eq (mode : LogicalMode) (invert : Bool) (rules : List Matcher) (metadata : InboundContext)
    (base : RuleMatchState) :
    abstractLogicalMatchStates mode invert rules metadata base =
      if invert then
        if (logicalBody mode rules metadata 0#4).isEmpty then singleRuleMatchState base else 0#16
      else logicalBody mode rules metadata base := by
  cases mode with
  | and =>
    grind [abstractLogicalMatchStates, logicalBody, empty_state_with_base, combine_nested_result, single_not_empty]
  | or =>
    simp only [abstractLogicalMatchStates, logicalBody, empty_state_with_base]
    cases invert with
    | false =>
      simp only [Bool.false_eq_true, if_false]
      by_cases empty : (mergeNested metadata base rules).isEmpty = true
      · rw [if_pos empty, (is_empty_eq_zero _).mp empty]
      · rw [if_neg empty]
    | true => by_cases empty : (mergeNested metadata 0#4 rules).isEmpty = true <;> simp [empty]

-- Sub-rules sit in a list inside the tree, so the induction principle is
-- stated once with the hypothesis for every member of that list.
theorem HeadlessRule.induction_on {P : HeadlessRule → Prop} (default : ∀ rule, P (.default rule))
    (logical : ∀ rules mode invert, (∀ rule ∈ rules, P rule) → P (.logical rules mode invert)) (rule : HeadlessRule) : P rule := by
  cases rule with
  | default rule => exact default rule
  | logical rules mode invert => exact logical rules mode invert (fun rule _ => rule.induction_on default logical)
termination_by rule
decreasing_by
  have smaller := List.sizeOf_lt_of_mem ‹rule ∈ rules›
  rw [HeadlessRule.logical.sizeOf_spec]
  omega

-- The default rules of a tree, to say what every one of them looks like.
mutual
def HeadlessRule.everyDefault (holds : AbstractDefaultRule Empty → Bool) : HeadlessRule → Bool
  | .default rule => holds rule
  | .logical rules _ _ => HeadlessRule.everyDefaultIn holds rules
def HeadlessRule.everyDefaultIn (holds : AbstractDefaultRule Empty → Bool) : List HeadlessRule → Bool
  | [] => true
  | rule :: rest => rule.everyDefault holds && HeadlessRule.everyDefaultIn holds rest
end

theorem every_default_in_iff (holds : AbstractDefaultRule Empty → Bool) (rules : List HeadlessRule) :
    HeadlessRule.everyDefaultIn holds rules = true ↔ ∀ rule ∈ rules, rule.everyDefault holds = true := by
  induction rules with
  | nil => simp [HeadlessRule.everyDefaultIn]
  | cons _ _ ih => simp [HeadlessRule.everyDefaultIn, ih]

theorem matchers_eq_map (rules : List HeadlessRule) :
    HeadlessRule.matchers rules = rules.map HeadlessRule.matchStatesWithBase := by
  induction rules with
  | nil => rfl
  | cons _ _ ih => rw [HeadlessRule.matchers, ih, List.map_cons]

theorem headless_default_states (rule : AbstractDefaultRule Empty) (metadata : InboundContext) (base : RuleMatchState) :
    (HeadlessRule.default rule).matchStatesWithBase metadata base =
      if rule.allItemsEmpty then singleRuleMatchState base
      else if rule.invert then
        if (rule.bodyStates (fun absent => nomatch absent) metadata 0#4).isEmpty || rule.deferred metadata then
          singleRuleMatchState base
        else 0#16
      else rule.bodyStates (fun absent => nomatch absent) metadata base := by
  exact match_states_with_base_eq _ rule (fun absent => absent.elim) metadata base

theorem headless_logical_states (rules : List HeadlessRule) (mode : LogicalMode) (invert : Bool)
    (metadata : InboundContext) (base : RuleMatchState) :
    (HeadlessRule.logical rules mode invert).matchStatesWithBase metadata base =
      if invert then
        if (logicalBody mode (rules.map HeadlessRule.matchStatesWithBase) metadata 0#4).isEmpty then
          singleRuleMatchState base
        else 0#16
      else logicalBody mode (rules.map HeadlessRule.matchStatesWithBase) metadata base := by
  rw [HeadlessRule.matchStatesWithBase, matchers_eq_map, logical_states_eq]

theorem contains_rule_set (ruleSet : RuleSet) (metadata : InboundContext) (base target : RuleMatchState) :
    (ruleSet.matchStatesWithBase metadata base).contains target = true ↔
      ∃ rule ∈ ruleSet.rules, (rule.matchStatesWithBase metadata.resetRuleMatchCache base).contains target = true := by
  rw [RuleSet.matchStatesWithBase, contains_merge_all, contains_zero, Bool.false_or, List.any_eq_true]

theorem contains_rule_set_item (item : RuleSetItem) (metadata : InboundContext) (base target : RuleMatchState) :
    (item.matchStatesWithBase metadata base).contains target = true ↔ ∃ ruleSet ∈ item.setList, ∃ rule ∈ ruleSet.rules,
        (rule.matchStatesWithBase (item.nestedMetadata metadata) base).contains target = true := by
  rw [RuleSetItem.matchStatesWithBase, contains_merge_all, contains_zero, Bool.false_or, List.any_eq_true]
  simp only [contains_rule_set]
  rfl

theorem rule_set_item_blind : BlindToDidMatch RuleSetItem.matchStatesWithBase := by
  intro _ _ _ _
  rfl

end OtunKernel.Rule
