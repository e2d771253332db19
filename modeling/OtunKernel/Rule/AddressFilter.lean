import OtunKernel.Rule.Dns

namespace OtunKernel.Rule

open Net Dns AbstractDefaultRule InboundContext

def RuleItem.isAddressFilter : RuleItem → Bool
  | .ipCIDR _ isSource => !isSource
  | .ipIsPrivate _ isSource => !isSource
  | .ipAcceptAny => true
  | _ => false

def RuleItem.acceptsAddresses (addresses : List Addr) : RuleItem → Bool
  | .ipCIDR contains _ => addresses.any contains
  | .ipIsPrivate isPublicAddr _ => addresses.any (fun address => !isPublicAddr address)
  | .ipAcceptAny => !addresses.isEmpty
  | _ => false

def DefaultRule.acceptsResponse (rule : DefaultRule) (response : Msg) : Bool :=
  rule.destinationIPCIDRItems.any (RuleItem.acceptsAddresses (dnsResponseAddresses (some response)))

def groupMet (items : List RuleItem) (metadata : InboundContext) : Bool :=
  items.isEmpty || matchAnyItem items metadata

def DefaultRule.otherConditions (rule : DefaultRule) (metadata : InboundContext) : Bool :=
  groupMet rule.sourceAddressItems metadata && groupMet rule.sourcePortItems metadata &&
    groupMet rule.destinationPortItems metadata && rule.items.all (RuleItem.matches metadata)

theorem group_met_iff (items : List RuleItem) (metadata : InboundContext) :
    groupMet items metadata = true ↔ ((!items.isEmpty) = true → matchAnyItem items metadata = true) := by
  cases items <;> simp [groupMet]

theorem plain_rule_matches_iff (rule : DefaultRule) (plain : rule.invert = false) (own : rule.ruleSetItem = none)
    (occupied : rule.allItemsEmpty = false) (metadata : InboundContext) :
    (!((DNSRule.default rule false).matchStates metadata).isEmpty) = true ↔ rule.items.all (RuleItem.matches metadata) = true ∧
        ∀ g, rule.required metadata g = true → rule.provided metadata g = true := by
  have body : (DNSRule.default rule false).matchStates metadata =
      rule.bodyStates RuleSetItem.matchStatesWithBase metadata 0#4 := by
    simp [DNSRule.matchStates, DNSRule.matchStatesWithBase, match_states_with_base_eq _ _ rule_set_item_blind, occupied, plain]
  have state : rule.mergedStates RuleSetItem.matchStatesWithBase metadata (0#4 ||| groupState (rule.provided metadata)) =
      singleRuleMatchState (groupState (rule.provided metadata)) := by
    simp [mergedStates, own]
  rw [body, not_is_empty_iff, bodyStates, state]
  by_cases all : rule.items.all (RuleItem.matches metadata) = true
  · rw [if_pos all]
    simp only [contains_filter, contains_single, Bool.and_eq_true, decide_eq_true_eq, exists_eq_left', allowed_iff,
      has_group_state, all, true_and]
  · simp [all]

section
variable (metadata : InboundContext) (response : Msg) (prepared : PreparedByMatchDNS metadata)
include prepared

theorem prepared_cache_off : metadata.ipcidrMatchSource = false ∧ metadata.ipcidrAcceptEmpty = false := by
  have fresh := prepared.fresh
  constructor
  · rw [← fresh]
    rfl
  rw [← fresh]
  rfl

theorem address_filter_item_matches (item : RuleItem) (filter : item.isAddressFilter = true) :
    item.matches (withResponse metadata response) = item.acceptsAddresses (dnsResponseAddresses (some response)) := by
  obtain ⟨source, acceptEmpty⟩ := prepared_cache_off metadata prepared
  cases item with
  | ipCIDR _ isSource | ipIsPrivate _ isSource =>
    have destination : isSource = false := by simpa [RuleItem.isAddressFilter] using filter
    cases addresses : dnsResponseAddresses (some response) <;>
      simp [RuleItem.matches, RuleItem.acceptsAddresses, withResponse, fromResponse,
        dnsResponseAddressesForMatch, destination, source, acceptEmpty, addresses]
  | ipAcceptAny => rfl
  | _ => contradiction

theorem match_any_filter_item (items : List RuleItem) (filters : ∀ item ∈ items, item.isAddressFilter = true) :
    matchAnyItem items (withResponse metadata response) =
      items.any (RuleItem.acceptsAddresses (dnsResponseAddresses (some response))) := by
  induction items with
  | nil => rfl
  | cons item _ ih =>
    have first := address_filter_item_matches metadata response prepared item (filters item List.mem_cons_self)
    have later := ih (fun item member => filters item (List.mem_cons_of_mem _ member))
    rw [matchAnyItem] at later ⊢
    rw [List.any_cons, List.any_cons, first, later]

theorem match_address_limit_iff (rule : DefaultRule) (plain : rule.invert = false) (own : rule.ruleSetItem = none)
    (present : rule.destinationIPCIDRItems ≠ []) (filters : ∀ item ∈ rule.destinationIPCIDRItems, item.isAddressFilter = true) :
    (DNSRule.default rule false).matchAddressLimit metadata response = true ↔
      rule.otherConditions (withResponse metadata response) = true ∧
        (matchAnyItem rule.destinationAddressItems (withResponse metadata response) = true ∨
          rule.acceptsResponse response = true) := by
  obtain ⟨source, _⟩ := prepared_cache_off metadata prepared
  have occupied : rule.allItemsEmpty = false := by simp [allItemsEmpty, present]
  have bySource : rule.destinationIPCIDRMatchesSource (withResponse metadata response) = false := by
    simp [destinationIPCIDRMatchesSource, withResponse, fromResponse, source]
  have byDestination : rule.destinationIPCIDRMatchesDestination (withResponse metadata response) = true := by
    simp [destinationIPCIDRMatchesDestination, withResponse, fromResponse, source, present,
      prepared.active]
  have accepted := match_any_filter_item metadata response prepared rule.destinationIPCIDRItems filters
  have shared : rule.provided (withResponse metadata response) .destinationAddress = true ↔
      matchAnyItem rule.destinationAddressItems (withResponse metadata response) = true ∨
        rule.acceptsResponse response = true := by
    rw [provided, byDestination, accepted, Bool.or_eq_true]
    rfl
  rw [DNSRule.matchAddressLimit, plain_rule_matches_iff rule plain own occupied, ← shared]
  simp only [DefaultRule.otherConditions, Bool.and_eq_true, group_met_iff]
  constructor
  · intro met
    have sourceAddress := met.2 .sourceAddress
    simp only [required, provided,
      requiresSourceAddressMatch, bySource, Bool.false_and, Bool.or_false] at sourceAddress
    have needed : rule.required (withResponse metadata response) .destinationAddress = true := by
      simp [required, requiresDestinationAddressMatch, byDestination]
    exact ⟨⟨⟨⟨sourceAddress, met.2 .sourcePort⟩, met.2 .destinationPort⟩, met.1⟩, met.2 .destinationAddress needed⟩
  intro met
  obtain ⟨⟨⟨⟨sourceAddress, sourcePort⟩, destinationPort⟩, items⟩, destinationAddress⟩ := met
  constructor
  · exact items
  intro g needed
  cases g with
  | sourceAddress =>
    grind [required, requiresSourceAddressMatch, provided]
  | sourcePort => exact sourcePort needed
  | destinationAddress => exact destinationAddress
  | destinationPort => exact destinationPort needed

end

theorem address_filter_honoured_iff (rule : DefaultRule) (plain : rule.invert = false) (own : rule.ruleSetItem = none)
    (present : rule.destinationIPCIDRItems ≠ [])
    (filters : ∀ item ∈ rule.destinationIPCIDRItems, item.isAddressFilter = true)
    (metadata : InboundContext) (prepared : PreparedByMatchDNS metadata) (response : Msg) :
    ((DNSRule.default rule false).matchAddressLimit metadata response = true → rule.acceptsResponse response = true) ↔
      (matchAnyItem rule.destinationAddressItems (withResponse metadata response) = true →
        rule.otherConditions (withResponse metadata response) = true → rule.acceptsResponse response = true) := by
  rw [match_address_limit_iff metadata response prepared rule plain own present filters]
  constructor
  · simp_all
  intro whenDomain met
  obtain ⟨others, domain | accepted⟩ := met
  · grind
  · exact accepted

def privateNetwork (addr : Addr) : Bool :=
  match addr with
  | .v4 bits => bits >>> 24 == 10#32
  | _ => false

def answerWith (addr : Addr) : Msg where
  id := 0
  response := true
  rcode := rcodeSuccess
  question := []
  answer := [{ name := "lookup.example.", rrtype := typeA, rrclass := 1, ttl := 60, data := .a addr }]
  ns := []
  extra := []

def privateOnlyRule : DefaultRule where
  destinationIPCIDRItems := [.ipCIDR privateNetwork false]

theorem private_only_rule_honoured :
    (DNSRule.default privateOnlyRule false).matchAddressLimit { domain := "example.com" }
        (answerWith (.v4 0x0a000001#32)) = true ∧
      privateOnlyRule.acceptsResponse (answerWith (.v4 0x0a000001#32)) = true :=
  ⟨by decide, (address_filter_honoured_iff privateOnlyRule rfl rfl (by simp [privateOnlyRule])
    (by simp [privateOnlyRule, RuleItem.isAddressFilter]) { domain := "example.com" } ⟨rfl, rfl, rfl⟩
    (answerWith (.v4 0x0a000001#32))).mpr (by decide) (by decide)⟩

def privateDomainRule : DefaultRule where
  destinationAddressItems := [.host (fun host => host == "example.com")]
  destinationIPCIDRItems := [.ipCIDR privateNetwork false]

theorem public_answer_passes_private_filter :
    ¬ ∀ rule : DefaultRule, rule.invert = false → rule.ruleSetItem = none → rule.destinationIPCIDRItems ≠ [] →
      (∀ item ∈ rule.destinationIPCIDRItems, item.isAddressFilter = true) →
        ∀ metadata, PreparedByMatchDNS metadata → ∀ response,
          (DNSRule.default rule false).matchAddressLimit metadata response = true →
            rule.acceptsResponse response = true := by
  intro claim
  have honoured := claim privateDomainRule rfl rfl (by simp [privateDomainRule])
    (by simp [privateDomainRule, RuleItem.isAddressFilter]) { domain := "example.com" } ⟨rfl, rfl, rfl⟩
    (answerWith (.v4 0x01010101#32)) (by decide)
  have outside : privateDomainRule.acceptsResponse (answerWith (.v4 0x01010101#32)) = false := by decide
  simp [outside] at honoured

end OtunKernel.Rule
