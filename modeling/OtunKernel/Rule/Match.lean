import OtunKernel.Rule.Item
import OtunKernel.Rule.MatchState

namespace OtunKernel.Rule

abbrev Matcher := InboundContext → RuleMatchState → RuleMatchStateSet

-- The constructors put every item into one slot and into allItems, so that
-- allItems is empty just when the slots and the rule-set item are. Rules
-- inside a rule-set refer to no rule-sets: their ρ is Empty.
structure AbstractDefaultRule (ρ : Type) where
  items : List RuleItem := []
  sourceAddressItems : List RuleItem := []
  sourcePortItems : List RuleItem := []
  destinationAddressItems : List RuleItem := []
  destinationIPCIDRItems : List RuleItem := []
  destinationPortItems : List RuleItem := []
  ruleSetItem : Option ρ := none
  invert : Bool := false

section
variable {ρ : Type} (matchRuleSet : ρ → Matcher) (r : AbstractDefaultRule ρ)

def AbstractDefaultRule.allItemsEmpty : Bool :=
  r.items.isEmpty && r.sourceAddressItems.isEmpty && r.sourcePortItems.isEmpty &&
    r.destinationAddressItems.isEmpty && r.destinationIPCIDRItems.isEmpty &&
    r.destinationPortItems.isEmpty && r.ruleSetItem.isNone

def AbstractDefaultRule.destinationIPCIDRMatchesSource (metadata : InboundContext) : Bool :=
  !metadata.ignoreDestinationIPCIDRMatch && metadata.ipcidrMatchSource && !r.destinationIPCIDRItems.isEmpty

def AbstractDefaultRule.destinationIPCIDRMatchesDestination (metadata : InboundContext) : Bool :=
  !metadata.ignoreDestinationIPCIDRMatch && !metadata.ipcidrMatchSource && !r.destinationIPCIDRItems.isEmpty

def AbstractDefaultRule.requiresSourceAddressMatch (metadata : InboundContext) : Bool :=
  !r.sourceAddressItems.isEmpty || r.destinationIPCIDRMatchesSource metadata

def AbstractDefaultRule.requiresDestinationAddressMatch (metadata : InboundContext) : Bool :=
  !r.destinationAddressItems.isEmpty || r.destinationIPCIDRMatchesDestination metadata

def AbstractDefaultRule.invertedFailure (base : RuleMatchState) : RuleMatchStateSet :=
  if r.invert then emptyRuleMatchState.withBase base else 0#16

-- The metadata is passed along because every step that looks at an item sets
-- DidMatch in it before the last step reads that flag.
abbrev Progress := InboundContext × RuleMatchState

def markDidMatch (metadata : InboundContext) : InboundContext := { metadata with didMatch := true }

def matchGroup (items : List RuleItem) (flag : RuleMatchState) (progress : Progress) : Progress :=
  if items.isEmpty then progress
  else
    let metadata := markDidMatch progress.1
    if matchAnyItem items metadata then (metadata, progress.2 ||| flag) else (metadata, progress.2)

def matchIPCIDRGroup (applies : InboundContext → Bool) (items : List RuleItem) (flag : RuleMatchState)
    (progress : Progress) : Progress :=
  if applies progress.1 && !progress.2.has flag then
    let metadata := markDidMatch progress.1
    if matchAnyItem items metadata then (metadata, progress.2 ||| flag) else (metadata, progress.2)
  else if applies progress.1 then (markDidMatch progress.1, progress.2)
  else progress

def AbstractDefaultRule.matchGroups (progress : Progress) : Progress :=
  let progress := matchGroup r.sourceAddressItems ruleMatchSourceAddress progress
  let progress := matchIPCIDRGroup r.destinationIPCIDRMatchesSource r.destinationIPCIDRItems
    ruleMatchSourceAddress progress
  let progress := matchGroup r.sourcePortItems ruleMatchSourcePort progress
  let progress := matchGroup r.destinationAddressItems ruleMatchDestinationAddress progress
  let progress := matchIPCIDRGroup r.destinationIPCIDRMatchesDestination r.destinationIPCIDRItems
    ruleMatchDestinationAddress progress
  matchGroup r.destinationPortItems ruleMatchDestinationPort progress

def matchOtherItems (metadata : InboundContext) : List RuleItem → InboundContext × Bool
  | [] => (metadata, true)
  | item :: rest =>
    if !item.matches (markDidMatch metadata) then (markDidMatch metadata, false)
    else matchOtherItems (markDidMatch metadata) rest

def AbstractDefaultRule.matchRuleSetItem (progress : Progress) : InboundContext × RuleMatchStateSet :=
  match r.ruleSetItem with
  | some item => (markDidMatch progress.1, matchRuleSet item (markDidMatch progress.1) progress.2)
  | none => (progress.1, singleRuleMatchState progress.2)

def AbstractDefaultRule.allowed (metadata : InboundContext) (state : RuleMatchState) : Bool :=
  if r.requiresSourceAddressMatch metadata && !state.has ruleMatchSourceAddress then false
  else if !r.sourcePortItems.isEmpty && !state.has ruleMatchSourcePort then false
  else if r.requiresDestinationAddressMatch metadata && !state.has ruleMatchDestinationAddress then false
  else if !r.destinationPortItems.isEmpty && !state.has ruleMatchDestinationPort then false
  else true

def AbstractDefaultRule.matchStatesWithBase (metadata : InboundContext) (inheritedBase : RuleMatchState) :
    RuleMatchStateSet :=
  if r.allItemsEmpty then emptyRuleMatchState.withBase inheritedBase
  else
    let evaluationBase := if r.invert then 0#4 else inheritedBase
    let grouped := r.matchGroups (metadata, evaluationBase)
    let checked := matchOtherItems grouped.1 r.items
    if !checked.2 then r.invertedFailure inheritedBase
    else
      let merged := r.matchRuleSetItem matchRuleSet (checked.1, grouped.2)
      let stateSet := merged.2.filter (r.allowed merged.1)
      if stateSet.isEmpty then r.invertedFailure inheritedBase
      else if r.invert then
        if merged.1.ignoreDestinationIPCIDRMatch && stateSet == emptyRuleMatchState && !merged.1.didMatch &&
            !r.destinationIPCIDRItems.isEmpty then
          emptyRuleMatchState.withBase inheritedBase
        else 0#16
      else stateSet

def AbstractDefaultRule.matchStates (metadata : InboundContext) : RuleMatchStateSet :=
  r.matchStatesWithBase matchRuleSet metadata 0#4

end

inductive LogicalMode where
  | and
  | or
deriving DecidableEq, Repr

def combineNested (metadata : InboundContext) (base : RuleMatchState) :
    List Matcher → RuleMatchStateSet → Option RuleMatchStateSet
  | [], stateSet => some stateSet
  | rule :: rest, stateSet =>
    let nestedStateSet := rule metadata.resetRuleCache base
    if nestedStateSet.isEmpty then none else combineNested metadata base rest (stateSet.combine nestedStateSet)

def mergeNested (metadata : InboundContext) (base : RuleMatchState) (rules : List Matcher) : RuleMatchStateSet :=
  rules.foldl (fun stateSet rule => stateSet.merge (rule metadata.resetRuleCache base)) 0#16

def abstractLogicalMatchStates (mode : LogicalMode) (invert : Bool) (rules : List Matcher) : Matcher :=
  fun metadata base =>
    let evaluationBase := if invert then 0#4 else base
    let failure := if invert then emptyRuleMatchState.withBase base else 0#16
    match mode with
    | .and =>
      match combineNested metadata evaluationBase rules (emptyRuleMatchState.withBase evaluationBase) with
      | none => failure
      | some stateSet => if invert then 0#16 else stateSet
    | .or =>
      let stateSet := mergeNested metadata evaluationBase rules
      if stateSet.isEmpty then failure else if invert then 0#16 else stateSet

inductive HeadlessRule where
  | default (rule : AbstractDefaultRule Empty)
  | logical (rules : List HeadlessRule) (mode : LogicalMode) (invert : Bool)

mutual
def HeadlessRule.matchStatesWithBase : HeadlessRule → Matcher
  | .default rule => rule.matchStatesWithBase (fun absent => nomatch absent)
  | .logical rules mode invert => abstractLogicalMatchStates mode invert (HeadlessRule.matchers rules)
def HeadlessRule.matchers : List HeadlessRule → List Matcher
  | [] => []
  | rule :: rest => rule.matchStatesWithBase :: HeadlessRule.matchers rest
end

structure RuleSetMetadata where
  containsProcessRule : Bool := false
  containsWIFIRule : Bool := false
  containsIPCIDRRule : Bool := false
  containsDNSQueryTypeRule : Bool := false
  containsNonIPCIDRRule : Bool := false
deriving DecidableEq, Repr

structure RuleSet where
  rules : List HeadlessRule
  metadata : RuleSetMetadata := {}

def RuleSet.matchStatesWithBase (ruleSet : RuleSet) : Matcher :=
  fun metadata base =>
    ruleSet.rules.foldl (fun stateSet rule =>
      stateSet.merge (rule.matchStatesWithBase metadata.resetRuleMatchCache base)) 0#16

structure RuleSetItem where
  setList : List RuleSet
  ipCidrMatchSource : Bool := false
  ipCidrAcceptEmpty : Bool := false

def RuleSetItem.nestedMetadata (item : RuleSetItem) (metadata : InboundContext) : InboundContext :=
  { metadata.resetRuleMatchCache with
    ipcidrMatchSource := item.ipCidrMatchSource, ipcidrAcceptEmpty := item.ipCidrAcceptEmpty }

def RuleSetItem.matchStatesWithBase (item : RuleSetItem) : Matcher :=
  fun metadata base =>
    item.setList.foldl (fun stateSet ruleSet =>
      stateSet.merge (ruleSet.matchStatesWithBase (item.nestedMetadata metadata) base)) 0#16

def RuleSetItem.containsDestinationIPCIDRRule (item : RuleSetItem) : Bool :=
  if item.ipCidrMatchSource then false
  else item.setList.any (fun ruleSet => ruleSet.metadata.containsIPCIDRRule)

abbrev DefaultRule := AbstractDefaultRule RuleSetItem

def DefaultRule.matches (rule : DefaultRule) (metadata : InboundContext) : Bool :=
  !(rule.matchStates RuleSetItem.matchStatesWithBase metadata).isEmpty

end OtunKernel.Rule
