import OtunKernel.Rule.Branch
import OtunKernel.Rule.Formula

namespace OtunKernel.Rule

open Lib AbstractDefaultRule DefaultRule

def AbstractDefaultRule.strip {ρ : Type} (stripItem : ρ → ρ) (r : AbstractDefaultRule ρ) : AbstractDefaultRule ρ :=
  { r with destinationIPCIDRItems := [], ruleSetItem := r.ruleSetItem.map stripItem }

mutual
def HeadlessRule.strip : HeadlessRule → HeadlessRule
  | .default rule => .default (rule.strip id)
  | .logical rules mode invert => .logical (HeadlessRule.stripAll rules) mode invert
def HeadlessRule.stripAll : List HeadlessRule → List HeadlessRule
  | [] => []
  | rule :: rest => rule.strip :: HeadlessRule.stripAll rest
end

def RuleSet.strip (ruleSet : RuleSet) : RuleSet := { ruleSet with rules := ruleSet.rules.map HeadlessRule.strip }

def RuleSetItem.strip (item : RuleSetItem) : RuleSetItem := { item with setList := item.setList.map RuleSet.strip }

mutual
def DNSRule.strip : DNSRule → DNSRule
  | .default rule matchResponse => .default (rule.strip RuleSetItem.strip) matchResponse
  | .logical rules mode invert => .logical (DNSRule.stripAll rules) mode invert
def DNSRule.stripAll : List DNSRule → List DNSRule
  | [] => []
  | rule :: rest => rule.strip :: DNSRule.stripAll rest
end

theorem headless_strip_all_eq_map (rules : List HeadlessRule) : HeadlessRule.stripAll rules = rules.map HeadlessRule.strip := by
  induction rules with
  | nil => rfl
  | cons _ _ ih => rw [HeadlessRule.stripAll, ih, List.map_cons]

theorem dns_strip_all_eq_map (rules : List DNSRule) : DNSRule.stripAll rules = rules.map DNSRule.strip := by
  induction rules with
  | nil => rfl
  | cons _ _ ih => rw [DNSRule.stripAll, ih, List.map_cons]

@[simp] theorem ignoring_flag (metadata : InboundContext) : (ignoringCIDR metadata).ignoreDestinationIPCIDRMatch = true := rfl

section
variable {ρ : Type} (matchRuleSet : ρ → Matcher) (stripItem : ρ → ρ) (r : AbstractDefaultRule ρ)
variable (metadata : InboundContext) (active : metadata.ignoreDestinationIPCIDRMatch = false)

theorem strip_bare_iff : (r.strip stripItem).allItemsEmpty = (r.allItemsEmpty || r.addressOnly) := by
  grind [strip, allItemsEmpty, addressOnly]

theorem bare_body (bare : r.allItemsEmpty = true) (base : RuleMatchState) :
    r.bodyStates matchRuleSet metadata base = singleRuleMatchState base := by
  rw [bare_eq r bare]
  have nothing : groupState (({ invert := r.invert } : AbstractDefaultRule ρ).provided metadata) = 0#4 := by
    apply state_ext
    intro g
    cases g <;> simp [provided, matchAnyItem]
  have free : ∀ state, ({ invert := r.invert } : AbstractDefaultRule ρ).allowed metadata state = true := by
    intro state
    rw [allowed_iff]
    intro g
    cases g <;> simp [required, requiresSourceAddressMatch,
      requiresDestinationAddressMatch, destinationIPCIDRMatchesSource,
      destinationIPCIDRMatchesDestination]
  apply set_eq_of_contains
  simp [bodyStates, mergedStates, nothing, free]

theorem provided_ignoring_cidr (g : Group) : r.provided (ignoringCIDR metadata) g = (r.strip stripItem).provided metadata g := by
  have same (items : List RuleItem) : matchAnyItem items (ignoringCIDR metadata) = matchAnyItem items metadata :=
    any_congr_of_mem (fun item _ => item_ignores_ignore_flag item metadata true)
  cases g <;> simp [provided, destinationIPCIDRMatchesSource,
    destinationIPCIDRMatchesDestination, same, strip]

theorem allowed_ignoring_cidr (state : RuleMatchState) :
    r.allowed (ignoringCIDR metadata) state = (r.strip stripItem).allowed metadata state := by
  rw [Bool.eq_iff_iff, allowed_iff, allowed_iff]
  refine forall_congr' (fun g => ?_)
  cases g <;> simp [required, requiresSourceAddressMatch,
    requiresDestinationAddressMatch, destinationIPCIDRMatchesSource,
    destinationIPCIDRMatchesDestination, strip]

variable (agree : ∀ item base, matchRuleSet item (ignoringCIDR metadata) base = matchRuleSet (stripItem item) metadata base)
include agree

theorem body_ignoring_cidr (base : RuleMatchState) : r.bodyStates matchRuleSet (ignoringCIDR metadata) base =
      (r.strip stripItem).bodyStates matchRuleSet metadata base := by
  have items : r.items.all (RuleItem.matches (ignoringCIDR metadata)) = r.items.all (RuleItem.matches metadata) :=
    all_congr_of_mem (fun item _ => item_ignores_ignore_flag item metadata true)
  have provided : groupState (r.provided (ignoringCIDR metadata)) =
      groupState ((r.strip stripItem).provided metadata) :=
    congrArg groupState (funext (provided_ignoring_cidr stripItem r metadata))
  have merged (state : RuleMatchState) : r.mergedStates matchRuleSet (ignoringCIDR metadata) state =
      (r.strip stripItem).mergedStates matchRuleSet metadata state := by
    cases present : r.ruleSetItem with
    | none => simp [mergedStates, strip, present]
    | some => simp [mergedStates, strip, present, agree]
  have allowed : r.allowed (ignoringCIDR metadata) = (r.strip stripItem).allowed metadata :=
    funext (allowed_ignoring_cidr stripItem r metadata)
  simp only [bodyStates, items, provided, merged, allowed]
  rfl

include active

theorem default_states_ignoring_cidr (blind : BlindToDidMatch matchRuleSet) (fresh : metadata.didMatch = false)
    (base : RuleMatchState) : r.matchStatesWithBase matchRuleSet (ignoringCIDR metadata) base =
      (r.strip stripItem).matchStatesWithBase matchRuleSet metadata base := by
  rw [match_states_with_base_eq matchRuleSet r blind, match_states_with_base_eq matchRuleSet _ blind,
    strip_bare_iff stripItem r]
  simp only [body_ignoring_cidr matchRuleSet stripItem r metadata agree]
  have live : (r.strip stripItem).deferred metadata = false := by simp [deferred, active]
  have deferral : r.deferred (ignoringCIDR metadata) = r.addressOnly := by
    simp [deferred, ignoringCIDR, fresh]
  have inverted : (r.strip stripItem).invert = r.invert := rfl
  rw [live, deferral, inverted]
  cases bare : r.allItemsEmpty with
  | true => simp
  | false =>
    cases only : r.addressOnly with
    | false => simp
    | true =>
      -- The stripped rule has no item left, so its body succeeds on every base.
      have empty : (r.strip stripItem).allItemsEmpty = true := by rw [strip_bare_iff, only, Bool.or_true]
      cases r.invert with
      | true => simp
      | false => simp [bare_body matchRuleSet (r.strip stripItem) metadata empty]

end

section
variable (metadata : InboundContext) (active : metadata.ignoreDestinationIPCIDRMatch = false)
include active

theorem headless_states_ignoring_cidr (rule : HeadlessRule) (scope : Scope) (base : RuleMatchState) :
    rule.matchStatesWithBase (ignoringCIDR (underScope metadata scope)) base =
      rule.strip.matchStatesWithBase (underScope metadata scope) base := by
  induction rule using HeadlessRule.induction_on generalizing scope base with
  | default r =>
    exact default_states_ignoring_cidr _ id r (underScope metadata scope) active (fun absent => absent.elim)
      (fun absent => absent.elim) rfl base
  | logical rules mode invert each =>
    rw [HeadlessRule.strip, HeadlessRule.matchStatesWithBase, HeadlessRule.matchStatesWithBase, matchers_eq_map,
      matchers_eq_map, headless_strip_all_eq_map, List.map_map]
    exact logical_states_congr (ignoringCIDR (underScope metadata scope)) (underScope metadata scope) mode invert base
      rules _ _ (fun rule member start _ => each rule member {} start)

theorem rule_set_item_ignoring_cidr (item : RuleSetItem) (base : RuleMatchState) :
    item.matchStatesWithBase (ignoringCIDR metadata) base = item.strip.matchStatesWithBase metadata base := by
  apply set_eq_of_contains
  intro _
  rw [Bool.eq_iff_iff, contains_rule_set_item, contains_rule_set_item]
  have same (rule : HeadlessRule) :
      rule.matchStatesWithBase (item.nestedMetadata (ignoringCIDR metadata)) base =
        rule.strip.matchStatesWithBase (item.strip.nestedMetadata metadata) base :=
    headless_states_ignoring_cidr metadata active rule item.scope base
  simp only [RuleSetItem.strip, RuleSet.strip, List.mem_map, exists_exists_and_eq_and]
  exact exists_congr (fun ruleSet => and_congr_right (fun _ =>
    exists_congr (fun rule => and_congr_right (fun _ => by rw [same rule]; rfl))))

theorem dns_states_ignoring_cidr (rule : DNSRule) (fresh : metadata.resetRuleCache = metadata) (base : RuleMatchState) :
    rule.matchStatesWithBase (ignoringCIDR metadata) base = rule.strip.matchStatesWithBase metadata base := by
  induction rule using DNSRule.induction_on generalizing base with
  | default r =>
    exact default_states_ignoring_cidr _ RuleSetItem.strip r metadata active (rule_set_item_ignoring_cidr metadata active)
      rule_set_item_blind (by rw [← fresh]; rfl) base
  | logical rules mode invert each =>
    rw [DNSRule.strip, DNSRule.matchStatesWithBase, DNSRule.matchStatesWithBase, dns_matchers_eq_map,
      dns_matchers_eq_map, dns_strip_all_eq_map, List.map_map]
    apply logical_states_congr (ignoringCIDR metadata) metadata mode invert base rules _ _
    intro rule member start _
    have reset : (ignoringCIDR metadata).resetRuleCache = ignoringCIDR metadata := by
      conv_rhs => rw [← fresh]
      rfl
    simpa [reset, fresh] using each rule member start

end

theorem strip_defaults (rule : DNSRule) (plain : ∀ entry ∈ rule.defaults, entry.2 = false) :
    ∀ entry ∈ rule.strip.defaults, entry.2 = false := by
  induction rule using DNSRule.induction_on with
  | default r matchResponse => simp_all [DNSRule.strip, DNSRule.defaults]
  | logical rules _ _ each => simp_all [DNSRule.strip, DNSRule.defaults, dns_strip_all_eq_map, mem_defaults_in]

theorem legacy_pre_match_eq_strip (rule : DNSRule) (plain : ∀ entry ∈ rule.defaults, entry.2 = false) (metadata : InboundContext)
    (prepared : PreparedByMatchDNS metadata) : rule.legacyPreMatch metadata = rule.strip.matches metadata := by
  have pre : rule.legacyPreMatch metadata = !(rule.matchStates (ignoringCIDR metadata)).isEmpty := by
    cases rule with
    | default r matchResponse =>
      have off : matchResponse = false := plain (r, matchResponse) (by simp [DNSRule.defaults])
      simp [off, DNSRule.legacyPreMatch]
    | logical => rfl
  rw [pre, DNSRule.matchStates, dns_states_ignoring_cidr metadata prepared.active rule prepared.fresh,
    DNSRule.matches, states_for_match_eq rule.strip (strip_defaults rule plain), DNSRule.matchStates]

theorem default_strip_of_free {ρ : Type} (stripItem : ρ → ρ) (r : AbstractDefaultRule ρ) (free : r.destinationIPCIDRItems = [])
    (same : ∀ item, r.ruleSetItem = some item → stripItem item = item) : r.strip stripItem = r := by
  cases r with
  | mk _ _ _ _ _ _ ruleSetItem =>
    cases free
    cases ruleSetItem with
    | none => rfl
    | some item =>
      have known : stripItem item = item := same item rfl
      simp [strip, known]

def HeadlessRule.cidrFree (rule : HeadlessRule) : Bool :=
  rule.everyDefault (fun inner => inner.destinationIPCIDRItems.isEmpty)

theorem headless_strip_of_free (rule : HeadlessRule) (free : rule.cidrFree = true) : rule.strip = rule := by
  induction rule using HeadlessRule.induction_on with
  | default r =>
    have none : r.destinationIPCIDRItems = [] := List.isEmpty_iff.mp free
    rw [HeadlessRule.strip, default_strip_of_free id r none (fun absent => absent.elim)]
  | logical rules _ _ each =>
    have below := (every_default_in_iff _ rules).mp free
    have same : rules.map HeadlessRule.strip = rules.map id :=
      List.map_congr_left (fun rule member => each rule member (below rule member))
    rw [HeadlessRule.strip, headless_strip_all_eq_map, same, List.map_id]

theorem branches_by_strip (read : AbstractDefaultRule Empty → List Branch) (rule : HeadlessRule) :
    rule.strip.branchesBy read = rule.branchesBy (fun inner => read (inner.strip id)) := by
  induction rule using HeadlessRule.induction_on with
  | default => rfl
  | logical rules mode invert each =>
    rw [HeadlessRule.strip, HeadlessRule.branchesBy, HeadlessRule.branchesBy, sub_branches_eq_map, sub_branches_eq_map,
      headless_strip_all_eq_map, List.map_map]
    exact congrArg _ (List.map_congr_left each)

theorem strip_scope_inside (scope : Scope) (rule : HeadlessRule) : rule.strip.scopeInside scope = rule.scopeInside scope := by
  cases rule <;> rfl

-- The default rules that are come to in rule-sets matched against the source
-- have the same branches without their ip_cidr items.
def DefaultRule.CIDRNeutral (rule : DefaultRule) (metadata : InboundContext) : Prop :=
  rule.items.all (RuleItem.matches (underScope metadata {})) = true → ∀ item, rule.ruleSetItem = some item →
    item.ipCidrMatchSource = true → ∀ ruleSet ∈ item.setList, ∀ headless ∈ ruleSet.rules,
      headless.ReadAlike (fun inner => (inner.strip id).branches metadata (headless.scopeInside item.scope))
        (fun inner => inner.branches metadata (headless.scopeInside item.scope)) (rule.part metadata {}).matched

mutual
def DNSRule.CIDRNeutral (metadata : InboundContext) : DNSRule → Prop
  | .default rule _ => DefaultRule.CIDRNeutral rule metadata
  | .logical rules mode _ => DNSRule.AllCIDRNeutral metadata mode rules
def DNSRule.AllCIDRNeutral (metadata : InboundContext) (mode : LogicalMode) : List DNSRule → Prop
  | [] => True
  | rule :: rest => rule.CIDRNeutral metadata ∧
      ((mode = .or ∨ rule.matches metadata = true) → DNSRule.AllCIDRNeutral metadata mode rest)
end

-- Address items stand nowhere but in rule-sets that are matched against the source.
structure DefaultRule.SourceOnly (rule : DefaultRule) : Prop where
  own : rule.destinationIPCIDRItems = []
  sets : ∀ item, rule.ruleSetItem = some item → item.ipCidrMatchSource = false →
    ∀ ruleSet ∈ item.setList, ∀ headless ∈ ruleSet.rules, headless.strip = headless

theorem default_strip_matches (rule : DefaultRule) (known : rule.SourceOnly) (metadata : InboundContext)
    (prepared : PreparedByMatchDNS metadata) (neutral : rule.CIDRNeutral metadata) :
    DefaultRule.matches (rule.strip RuleSetItem.strip) metadata = rule.matches metadata := by
  have shape : rule.strip RuleSetItem.strip = { rule with ruleSetItem := rule.ruleSetItem.map RuleSetItem.strip } := by
    simp [strip, known.own]
  have bare : (rule.strip RuleSetItem.strip).allItemsEmpty = rule.allItemsEmpty := by
    rw [strip_bare_iff, addressOnly, known.own, List.isEmpty_nil, Bool.not_true, Bool.and_false, Bool.or_false]
  have holds : DefaultRule.holds HeadlessRule.scopeInside (rule.strip RuleSetItem.strip) metadata =
      rule.holds HeadlessRule.scopeInside metadata := by
    rw [shape, DefaultRule.holds, DefaultRule.holds]
    cases passed : rule.items.all (RuleItem.matches (underScope metadata {})) with
    | false => rfl
    | true =>
      cases present : rule.ruleSetItem with
      | none => rfl
      | some item =>
        simp only [Option.map_some, RuleSetItem.strip, RuleSet.strip, List.any_map, Function.comp_def]
        refine congrArg (true && ·) (any_congr_of_mem (fun ruleSet inSets => any_congr_of_mem (fun headless inRules => ?_)))
        have same : ∀ matched, Yields (rule.part metadata {}).matched
            (headless.strip.branches metadata (headless.strip.scopeInside item.scope)) matched ↔
            Yields (rule.part metadata {}).matched (headless.branches metadata (headless.scopeInside item.scope)) matched := by
          by_cases source : item.ipCidrMatchSource = true
          · rw [HeadlessRule.branches, branches_by_strip, strip_scope_inside]
            exact same_yields headless _ (neutral passed item present source ruleSet inSets headless inRules)
          · rw [known.sets item present (Bool.eq_false_iff.mpr source) ruleSet inSets headless inRules]
            exact fun _ => Iff.rfl
        exact any_same_yields same _
  rw [← prepared.fresh, reset_eq_under_scope, matches_eq _ metadata prepared.active, matches_eq _ metadata prepared.active,
    bare, holds]
  rfl

theorem dns_logical_matches_eq (rules : List DNSRule) (mode : LogicalMode) (invert : Bool) {metadata : InboundContext}
    (prepared : PreparedByMatchDNS metadata) : (DNSRule.logical rules mode invert).matches metadata =
      (invert != if mode.isAnd then rules.all (fun rule => rule.matches metadata)
        else rules.any (fun rule => rule.matches metadata)) := by
  rw [DNSRule.matches, DNSRule.matchStatesForMatch, logical_states_for_match_eq, dns_matchers_for_match_eq_map, logical_nonempty,
    prepared.fresh]
  rfl

theorem strip_matches (rule : DNSRule) (known : ∀ entry ∈ rule.defaults, entry.2 = false ∧ DefaultRule.SourceOnly entry.1)
    (metadata : InboundContext) (prepared : PreparedByMatchDNS metadata) (neutral : rule.CIDRNeutral metadata) :
    rule.strip.matches metadata = rule.matches metadata := by
  induction rule using DNSRule.induction_on with
  | default r matchResponse =>
    obtain ⟨off, sourceOnly⟩ := known (r, matchResponse) (by simp [DNSRule.defaults])
    cases (off : matchResponse = false)
    exact default_strip_matches r sourceOnly metadata prepared neutral
  | logical rules mode invert each =>
    rw [DNSRule.strip, dns_strip_all_eq_map, dns_logical_matches_eq _ _ _ prepared, dns_logical_matches_eq _ _ _ prepared]
    congr 1
    simp only [List.all_map, List.any_map, Function.comp_def]
    have below : ∀ rule ∈ rules, rule.CIDRNeutral metadata → rule.strip.matches metadata = rule.matches metadata :=
      fun rule member => each rule member (fun entry present =>
        known entry ((mem_defaults_in rules entry).mpr ⟨rule, member, present⟩))
    have walk : DNSRule.AllCIDRNeutral metadata mode rules := neutral
    clear each known neutral
    induction rules with
    | nil => rfl
    | cons rule rest ih =>
      have first := below rule List.mem_cons_self walk.1
      have later := fun goes => ih (fun other member => below other (List.mem_cons_of_mem _ member)) (walk.2 goes)
      cases mode with
      | or =>
        have same := later (.inl rfl)
        simp_all [LogicalMode.isAnd]
      | and => cases matched : rule.matches metadata <;> simp_all [LogicalMode.isAnd]

theorem default_without_address_limit (rule : DNSRule) (unlimited : rule.withAddressLimit = false) :
    ∀ entry ∈ rule.defaults, entry.1.withAddressLimit = false := by
  induction rule using DNSRule.induction_on with
  | default =>
    intro entry member
    rw [DNSRule.defaults, List.mem_singleton] at member
    rw [member]
    exact unlimited
  | logical rules _ _ each =>
    have below : ∀ rule ∈ rules, rule.withAddressLimit = false := by
      rw [DNSRule.withAddressLimit] at unlimited
      clear each
      induction rules with
      | nil => simp
      | cons _ _ ih => simp_all [DNSRule.anyWithAddressLimit, Bool.or_eq_false_iff]
    intro entry member
    obtain ⟨rule, inRules, present⟩ := (mem_defaults_in rules entry).mp member
    grind

def DNSRule.usesRuleSet (rule : DNSRule) (item : RuleSetItem) (ruleSet : RuleSet) : Prop :=
  (∃ entry ∈ rule.defaults, entry.1.ruleSetItem = some item) ∧ ruleSet ∈ item.setList

theorem source_only_of_unlimited (rule : DNSRule) (unlimited : rule.withAddressLimit = false)
    (built : ∀ item ruleSet, rule.usesRuleSet item ruleSet → ∃ compilers options, newRuleSet compilers options = .ok ruleSet) :
    ∀ entry ∈ rule.defaults, DefaultRule.SourceOnly entry.1 := by
  intro entry member
  have limit := default_without_address_limit rule unlimited entry member
  rw [withAddressLimit, Bool.or_eq_false_iff, Bool.not_eq_false', List.isEmpty_iff] at limit
  refine ⟨limit.1, fun item present source ruleSet inSets headless inRules => ?_⟩
  have flags : ∀ ruleSet ∈ item.setList, ruleSet.metadata.containsIPCIDRRule = false := by
    simpa [present, RuleSetItem.containsDestinationIPCIDRRule, source] using limit.2
  obtain ⟨_, _, known⟩ := built item ruleSet ⟨⟨entry, member, present⟩, inSets⟩
  exact headless_strip_of_free headless (rule_set_without_ipcidr known (flags ruleSet inSets) headless inRules)

theorem pre_match_of_unlimited_rule (rule : DNSRule) (plain : ∀ entry ∈ rule.defaults, entry.2 = false)
    (unlimited : rule.withAddressLimit = false)
    (built : ∀ item ruleSet, rule.usesRuleSet item ruleSet → ∃ compilers options, newRuleSet compilers options = .ok ruleSet)
    (metadata : InboundContext) (prepared : PreparedByMatchDNS metadata) :
    rule.legacyPreMatch metadata = rule.strip.matches metadata ∧
      (rule.CIDRNeutral metadata → rule.legacyPreMatch metadata = rule.matches metadata) := by
  have stripped := legacy_pre_match_eq_strip rule plain metadata prepared
  have known := source_only_of_unlimited rule unlimited built
  exact ⟨stripped, fun neutral =>
    stripped.trans (strip_matches rule (fun entry member => ⟨plain entry member, known entry member⟩) metadata prepared neutral)⟩

def binaryCompilers : ItemCompilers where
  domainMatcher := fun domains _ host => domains.contains host
  domainKeyword := fun keywords host => keywords.contains host
  adGuardMatcher := fun _ _ => false
  regex := fun _ => .error "regular expressions are not compiled"
  ipSet := fun _ => .error "prefixes are not compiled"
  portRange := fun _ => .error "port ranges are not compiled"
  processName := fun _ _ => false
  processPath := fun _ _ => false
  processPathRegex := fun _ => .error "regular expressions are not compiled"
  packageName := fun _ _ => false
  packageNameRegex := fun _ => .error "regular expressions are not compiled"
  networkManager := none

def sourceModeRule (ruleSet : RuleSet) : DNSRule :=
  .default { ruleSetItem := some { setList := [ruleSet], ipCidrMatchSource := true } } false

theorem source_mode_rule_uses (ruleSet : RuleSet) (item : RuleSetItem) (used : RuleSet)
    (uses : (sourceModeRule ruleSet).usesRuleSet item used) : used = ruleSet := by
  obtain ⟨⟨_, member, present⟩, inSets⟩ := uses
  grind [sourceModeRule, DNSRule.defaults]

def lanSet : RuleSet where
  rules := [.default { destinationIPCIDRItems := [.ipCIDR (fun a => a == .v4 0x0a000001#32) false] },
    .default { destinationAddressItems := [.host (["lan.example"].contains ·)] }]
  metadata := { containsIPCIDRRule := true, containsNonIPCIDRRule := true }

theorem lan_set_built : ∃ compilers options, newRuleSet compilers options = .ok lanSet :=
  ⟨binaryCompilers, [.default { ipSet := some (fun a => a == .v4 0x0a000001#32) }, .default { domain := ["lan.example"] }], rfl⟩

theorem source_mode_pre_match_differs :
    ¬ ∀ (rule : DNSRule), (∀ entry ∈ rule.defaults, entry.2 = false) → rule.withAddressLimit = false →
      (∀ item ruleSet, rule.usesRuleSet item ruleSet → ∃ compilers options, newRuleSet compilers options = .ok ruleSet) →
        ∀ metadata, PreparedByMatchDNS metadata → rule.legacyPreMatch metadata = rule.matches metadata := by
  intro claim
  have same := claim (sourceModeRule lanSet) (by simp [sourceModeRule, DNSRule.defaults]) (by decide)
    (fun item ruleSet uses => (source_mode_rule_uses lanSet item ruleSet uses) ▸ lan_set_built)
    { source := { addr := .v4 0xc0a80101#32 } } ⟨rfl, rfl, rfl⟩
  have pre : (sourceModeRule lanSet).legacyPreMatch { source := { addr := .v4 0xc0a80101#32 } } = true := by decide
  have full : (sourceModeRule lanSet).matches { source := { addr := .v4 0xc0a80101#32 } } = false := by decide
  simp [pre, full] at same

def addressQuerySet : RuleSet where
  rules := [.default { items := [.queryType [1, 28]] }]
  metadata := { containsDNSQueryTypeRule := true, containsNonIPCIDRRule := true }

theorem query_type_set_pre_match :
    (sourceModeRule addressQuerySet).legacyPreMatch { queryType := 28 } = true ∧
      (sourceModeRule addressQuerySet).legacyPreMatch { queryType := 28 } =
        (sourceModeRule addressQuerySet).matches { queryType := 28 } := by
  have built : newRuleSet binaryCompilers [.default { queryType := [1, 28] }] = .ok addressQuerySet := rfl
  refine ⟨by decide, (pre_match_of_unlimited_rule (sourceModeRule addressQuerySet)
    (by simp [sourceModeRule, DNSRule.defaults]) (by decide)
    (fun item ruleSet uses => ⟨_, _, (source_mode_rule_uses addressQuerySet item ruleSet uses) ▸ built⟩)
    { queryType := 28 } ⟨rfl, rfl, rfl⟩).2 ?_⟩
  intro _ item present _ ruleSet inSets headless inRules
  cases present
  cases List.mem_singleton.mp inSets
  cases List.mem_singleton.mp inRules
  rfl

end OtunKernel.Rule
