import OtunKernel.Rule.Match

namespace OtunKernel.Rule

def groupState (groups : Group → Bool) : RuleMatchState :=
  (if groups .sourceAddress then Group.sourceAddress.flag else 0#4) |||
    (if groups .sourcePort then Group.sourcePort.flag else 0#4) |||
    (if groups .destinationAddress then Group.destinationAddress.flag else 0#4) |||
    (if groups .destinationPort then Group.destinationPort.flag else 0#4)

theorem has_optional_flag (present : Bool) (g h : Group) :
    RuleMatchState.has (if present then g.flag else 0#4) h.flag = (present && decide (g = h)) := by
  cases present <;> simp

@[simp] theorem has_group_state (groups : Group → Bool) (g : Group) : (groupState groups).has g.flag = groups g := by
  cases g <;> simp [groupState, has_optional_flag]

theorem or_flag_of_has (s : RuleMatchState) (g : Group) (present : s.has g.flag = true) : s ||| g.flag = s := by
  apply state_ext
  grind [has_or, flag_has_flag]

section
variable {ρ : Type} (matchRuleSet : ρ → Matcher) (r : AbstractDefaultRule ρ)

theorem bare_eq (bare : r.allItemsEmpty = true) : r = { invert := r.invert } := by
  cases r
  simp_all [AbstractDefaultRule.allItemsEmpty]

def AbstractDefaultRule.required (metadata : InboundContext) : Group → Bool
  | .sourceAddress => r.requiresSourceAddressMatch metadata
  | .sourcePort => !r.sourcePortItems.isEmpty
  | .destinationAddress => r.requiresDestinationAddressMatch metadata
  | .destinationPort => !r.destinationPortItems.isEmpty

def AbstractDefaultRule.provided (metadata : InboundContext) : Group → Bool
  | .sourceAddress => matchAnyItem r.sourceAddressItems metadata ||
      (r.destinationIPCIDRMatchesSource metadata && matchAnyItem r.destinationIPCIDRItems metadata)
  | .sourcePort => matchAnyItem r.sourcePortItems metadata
  | .destinationAddress => matchAnyItem r.destinationAddressItems metadata ||
      (r.destinationIPCIDRMatchesDestination metadata && matchAnyItem r.destinationIPCIDRItems metadata)
  | .destinationPort => matchAnyItem r.destinationPortItems metadata

def touch (metadata : InboundContext) (looked : Bool) : InboundContext :=
  { metadata with didMatch := metadata.didMatch || looked }

@[simp] theorem item_touch (item : RuleItem) (metadata : InboundContext) (looked : Bool) :
    item.matches (touch metadata looked) = item.matches metadata :=
  item_ignores_did_match item metadata _

@[simp] theorem match_any_touch (items : List RuleItem) (metadata : InboundContext) (looked : Bool) :
    matchAnyItem items (touch metadata looked) = matchAnyItem items metadata := by
  simp [matchAnyItem, funext (fun item => item_touch item metadata looked)]

def AbstractDefaultRule.looksAtGroups (metadata : InboundContext) : Bool :=
  !r.sourceAddressItems.isEmpty || r.destinationIPCIDRMatchesSource metadata || !r.sourcePortItems.isEmpty ||
    !r.destinationAddressItems.isEmpty || r.destinationIPCIDRMatchesDestination metadata ||
    !r.destinationPortItems.isEmpty

-- The states a rule hands to its rule-set item, and its states before
-- inversion is taken into account.
def AbstractDefaultRule.mergedStates (metadata : InboundContext) (state : RuleMatchState) : RuleMatchStateSet :=
  match r.ruleSetItem with
  | some item => matchRuleSet item metadata state
  | none => singleRuleMatchState state

def AbstractDefaultRule.bodyStates (metadata : InboundContext) (base : RuleMatchState) : RuleMatchStateSet :=
  if r.items.all (RuleItem.matches metadata) then
    (r.mergedStates matchRuleSet metadata (base ||| groupState (r.provided metadata))).filter (r.allowed metadata)
  else 0#16

def AbstractDefaultRule.addressOnly : Bool :=
  r.items.isEmpty && r.sourceAddressItems.isEmpty && r.sourcePortItems.isEmpty &&
    r.destinationAddressItems.isEmpty && r.destinationPortItems.isEmpty && r.ruleSetItem.isNone &&
    !r.destinationIPCIDRItems.isEmpty

def AbstractDefaultRule.deferred (metadata : InboundContext) : Bool :=
  metadata.ignoreDestinationIPCIDRMatch && !metadata.didMatch && r.addressOnly

section
variable (metadata : InboundContext)

theorem allowed_iff (state : RuleMatchState) :
    r.allowed metadata state = true ↔ ∀ g, r.required metadata g = true → state.has g.flag = true := by
  constructor
  · intro allowed g
    unfold AbstractDefaultRule.allowed at allowed
    cases g <;> simp only [AbstractDefaultRule.required, Group.flag] <;> grind
  grind [AbstractDefaultRule.required, Group.flag, AbstractDefaultRule.allowed]

theorem mark_eq_touch : markDidMatch metadata = touch metadata true := by
  simp [markDidMatch, touch]

theorem touch_touch (a b : Bool) : touch (touch metadata a) b = touch metadata (a || b) := by
  simp [touch, Bool.or_assoc]

theorem match_other_items_result (items : List RuleItem) :
    (matchOtherItems metadata items).2 = items.all (RuleItem.matches metadata) := by
  induction items generalizing metadata with
  | nil => rfl
  | cons item _ ih =>
    simp only [matchOtherItems, mark_eq_touch, item_touch, List.all_cons]
    cases hit : item.matches metadata with
    | false => simp
    | true =>
      have same : RuleItem.matches (touch metadata true) = RuleItem.matches metadata :=
        funext (fun item => item_touch item metadata true)
      simp [ih, same]

theorem match_other_items_metadata (items : List RuleItem) (passed : (matchOtherItems metadata items).2 = true) :
    (matchOtherItems metadata items).1 = touch metadata (!items.isEmpty) := by
  induction items generalizing metadata with
  | nil => simp [matchOtherItems, touch]
  | cons item _ ih => grind [matchOtherItems, mark_eq_touch, Bool.false_eq_true, touch_touch]

theorem deferred_body (deferred : r.deferred metadata = true) : r.bodyStates matchRuleSet metadata 0#4 = emptyRuleMatchState := by
  simp only [AbstractDefaultRule.deferred, AbstractDefaultRule.addressOnly, Bool.and_eq_true,
    List.isEmpty_iff, Option.isNone_iff_eq_none] at deferred
  obtain ⟨⟨ignored, _⟩, ⟨⟨⟨⟨⟨items, source⟩, sourcePort⟩, destination⟩, destinationPort⟩, ruleSet⟩, _⟩ := deferred
  have nothing : groupState (r.provided metadata) = 0#4 := by
    apply state_ext
    intro g
    cases g <;> simp [AbstractDefaultRule.provided, matchAnyItem, source, sourcePort, destination, destinationPort,
      AbstractDefaultRule.destinationIPCIDRMatchesSource, AbstractDefaultRule.destinationIPCIDRMatchesDestination,
      ignored]
  have free : ∀ state, r.allowed metadata state = true := by
    intro state
    rw [allowed_iff]
    intro g
    cases g <;> simp [AbstractDefaultRule.required, AbstractDefaultRule.requiresSourceAddressMatch,
      AbstractDefaultRule.requiresDestinationAddressMatch, AbstractDefaultRule.destinationIPCIDRMatchesSource,
      AbstractDefaultRule.destinationIPCIDRMatchesDestination, source, sourcePort, destination, destinationPort, ignored]
  apply set_eq_of_contains
  simp [AbstractDefaultRule.bodyStates, AbstractDefaultRule.mergedStates, items, ruleSet, nothing, free,
    emptyRuleMatchState]

theorem deferral_test (stateSet : RuleMatchStateSet) (body : r.deferred metadata = true → stateSet = emptyRuleMatchState) :
    (metadata.ignoreDestinationIPCIDRMatch && stateSet == emptyRuleMatchState &&
      !(touch metadata (r.looksAtGroups metadata || !r.items.isEmpty || r.ruleSetItem.isSome)).didMatch &&
      !r.destinationIPCIDRItems.isEmpty) = r.deferred metadata := by
  cases deferred : r.deferred metadata with
  | true =>
    rw [body deferred]
    simp only [AbstractDefaultRule.deferred, AbstractDefaultRule.addressOnly, Bool.and_eq_true,
      List.isEmpty_iff, Option.isNone_iff_eq_none] at deferred
    simp_all [touch, AbstractDefaultRule.looksAtGroups, AbstractDefaultRule.destinationIPCIDRMatchesSource,
      AbstractDefaultRule.destinationIPCIDRMatchesDestination]
  | false =>
    rw [← Bool.not_eq_true] at deferred ⊢
    intro taken
    apply deferred
    simp only [touch, AbstractDefaultRule.looksAtGroups, Bool.and_eq_true, Bool.not_eq_true', Bool.or_eq_false_iff,
      Bool.not_eq_false'] at taken
    simp only [AbstractDefaultRule.deferred, AbstractDefaultRule.addressOnly, Bool.and_eq_true]
    grind

end

theorem match_group_eq (items : List RuleItem) (flag : RuleMatchState) (metadata : InboundContext)
    (state : RuleMatchState) :
    matchGroup items flag (metadata, state) =
      (touch metadata (!items.isEmpty), state ||| (if matchAnyItem items metadata then flag else 0#4)) := by
  cases items with
  | nil => simp [matchGroup, matchAnyItem, touch]
  | cons item rest =>
    simp only [matchGroup, List.isEmpty_cons, Bool.false_eq_true, if_false, mark_eq_touch, match_any_touch,
      Bool.not_false]
    by_cases hit : matchAnyItem (item :: rest) metadata = true <;> simp [hit]

theorem match_ipcidr_group_eq (applies : InboundContext → Bool) (items : List RuleItem) (g : Group)
    (metadata : InboundContext) (state : RuleMatchState) :
    matchIPCIDRGroup applies items g.flag (metadata, state) =
      (touch metadata (applies metadata),
        state ||| (if applies metadata && matchAnyItem items metadata then g.flag else 0#4)) := by
  cases active : applies metadata with
  | false => simp [matchIPCIDRGroup, active, touch]
  | true =>
    by_cases present : state.has g.flag = true
    · grind [or_flag_of_has, matchIPCIDRGroup, mark_eq_touch]
    by_cases hit : matchAnyItem items metadata = true <;>
      simp [matchIPCIDRGroup, active, present, hit, mark_eq_touch]

theorem match_groups_eq (metadata : InboundContext) (state : RuleMatchState) : r.matchGroups (metadata, state) =
      (touch metadata (r.looksAtGroups metadata), state ||| groupState (r.provided metadata)) := by
  have source : ∀ looked, r.destinationIPCIDRMatchesSource (touch metadata looked) =
      r.destinationIPCIDRMatchesSource metadata := fun _ => rfl
  have destination : ∀ looked, r.destinationIPCIDRMatchesDestination (touch metadata looked) =
      r.destinationIPCIDRMatchesDestination metadata := fun _ => rfl
  have flags : ruleMatchSourceAddress = Group.sourceAddress.flag ∧ ruleMatchSourcePort = Group.sourcePort.flag ∧
      ruleMatchDestinationAddress = Group.destinationAddress.flag ∧
      ruleMatchDestinationPort = Group.destinationPort.flag := ⟨rfl, rfl, rfl, rfl⟩
  simp only [AbstractDefaultRule.matchGroups, flags, match_group_eq, match_ipcidr_group_eq, touch_touch, source,
    destination, match_any_touch]
  refine Prod.ext rfl ?_
  apply state_ext
  intro g
  simp only [has_or, has_group_state, has_optional_flag]
  cases g <;> simp [AbstractDefaultRule.provided, Bool.or_assoc]

def BlindToDidMatch (matcher : ρ → Matcher) : Prop :=
  ∀ item metadata looked base, matcher item (touch metadata looked) base = matcher item metadata base

theorem match_rule_set_item_eq (blind : BlindToDidMatch matchRuleSet) (metadata : InboundContext) (looked : Bool)
    (state : RuleMatchState) : r.matchRuleSetItem matchRuleSet (touch metadata looked, state) =
      (touch metadata (looked || r.ruleSetItem.isSome), r.mergedStates matchRuleSet metadata state) := by
  cases present : r.ruleSetItem with
  | none => simp [AbstractDefaultRule.matchRuleSetItem, AbstractDefaultRule.mergedStates, present]
  | some item =>
    have seen := blind item metadata true state
    simp [AbstractDefaultRule.matchRuleSetItem, AbstractDefaultRule.mergedStates, present, mark_eq_touch,
      touch_touch, seen]

theorem match_states_with_base_eq (blind : BlindToDidMatch matchRuleSet) (metadata : InboundContext)
    (base : RuleMatchState) :
    r.matchStatesWithBase matchRuleSet metadata base =
      if r.allItemsEmpty then singleRuleMatchState base
      else if r.invert then
        if (r.bodyStates matchRuleSet metadata 0#4).isEmpty || r.deferred metadata then singleRuleMatchState base
        else 0#16
      else r.bodyStates matchRuleSet metadata base := by
  unfold AbstractDefaultRule.matchStatesWithBase
  rw [empty_state_with_base]
  by_cases bare : r.allItemsEmpty = true
  · rw [if_pos bare, if_pos bare]
  simp only [match_groups_eq, match_other_items_result]
  have same : RuleItem.matches (touch metadata (r.looksAtGroups metadata)) = RuleItem.matches metadata :=
    funext (fun item => item_touch item metadata _)
  rw [same]
  by_cases passed : r.items.all (RuleItem.matches metadata) = true
  · have moved := match_other_items_metadata (touch metadata (r.looksAtGroups metadata)) r.items
      (by rw [match_other_items_result, same, passed])
    rw [touch_touch] at moved
    simp only [passed, Bool.not_true, Bool.false_eq_true, if_false]
    rw [moved, match_rule_set_item_eq matchRuleSet r blind]
    have pass : ∀ looked, r.allowed (touch metadata looked) = r.allowed metadata := fun _ => rfl
    simp only [pass]
    have body : ∀ start, r.bodyStates matchRuleSet metadata start =
        (r.mergedStates matchRuleSet metadata (start ||| groupState (r.provided metadata))).filter
          (r.allowed metadata) := by
      intro start
      rw [AbstractDefaultRule.bodyStates, if_pos passed]
    cases inverted : r.invert with
    | false =>
      simp only [Bool.false_eq_true, if_false, AbstractDefaultRule.invertedFailure, inverted]
      rw [← body base]
      by_cases empty : (r.bodyStates matchRuleSet metadata base).isEmpty = true
      · rw [if_pos empty, (is_empty_eq_zero _).mp empty]
      · rw [if_neg empty]
    | true =>
      simp only [if_true, AbstractDefaultRule.invertedFailure, inverted, empty_state_with_base]
      rw [← body 0#4]
      have test := deferral_test r metadata (r.bodyStates matchRuleSet metadata 0#4)
        (deferred_body matchRuleSet r metadata)
      by_cases empty : (r.bodyStates matchRuleSet metadata 0#4).isEmpty = true
      · simp [empty]
      simp only [empty, Bool.false_eq_true, if_false, Bool.false_or]
      rw [← test]
      rfl
  have failed : r.items.all (RuleItem.matches metadata) = false := by simpa using passed
  simp only [failed, Bool.not_false, if_true, AbstractDefaultRule.invertedFailure, empty_state_with_base,
    AbstractDefaultRule.bodyStates, Bool.false_eq_true, if_false, is_empty_zero, Bool.true_or]

end
end OtunKernel.Rule
