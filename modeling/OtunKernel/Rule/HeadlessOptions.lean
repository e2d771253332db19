import OtunKernel.Lib.Basic
import OtunKernel.Rule.LogicalSpec

namespace OtunKernel.Rule

open Lib Net

-- A list stands for its elements: one that is present but empty, which
-- reflect.DeepEqual tells from an absent one, is not represented. Matchers of
-- a binary rule-set are carried as the test they perform.
structure DefaultHeadlessOptions where
  queryType : List UInt16 := []
  network : List String := []
  domain : List String := []
  domainSuffix : List String := []
  domainKeyword : List String := []
  domainRegex : List String := []
  sourceIPCIDR : List String := []
  ipcidr : List String := []
  sourcePort : List UInt16 := []
  sourcePortRange : List String := []
  port : List UInt16 := []
  portRange : List String := []
  processName : List String := []
  processPath : List String := []
  processPathRegex : List String := []
  packageName : List String := []
  packageNameRegex : List String := []
  networkType : List String := []
  networkIsExpensive : Bool := false
  networkIsConstrained : Bool := false
  wifiSSID : List String := []
  wifiBSSID : List String := []
  networkInterfaceAddress : List (String × List String) := []
  defaultInterfaceAddress : List String := []
  invert : Bool := false
  domainMatcher : Option (String → Bool) := none
  sourceIPSet : Option (Addr → Bool) := none
  ipSet : Option (Addr → Bool) := none
  adGuardDomain : List String := []
  adGuardDomainMatcher : Option (String → Bool) := none

-- Both readers of rule-sets leave the type of every rule as default or
-- logical.
inductive HeadlessOptions where
  | default (options : DefaultHeadlessOptions)
  | logical (mode : String) (rules : List HeadlessOptions) (invert : Bool)

def isProcessHeadlessRule (rule : DefaultHeadlessOptions) : Bool :=
  !rule.processName.isEmpty || !rule.processPath.isEmpty || !rule.processPathRegex.isEmpty ||
    !rule.packageName.isEmpty || !rule.packageNameRegex.isEmpty

def isWIFIHeadlessRule (rule : DefaultHeadlessOptions) : Bool := !rule.wifiSSID.isEmpty || !rule.wifiBSSID.isEmpty

def isIPCIDRHeadlessRule (rule : DefaultHeadlessOptions) : Bool := !rule.ipcidr.isEmpty || rule.ipSet.isSome

def isDNSQueryTypeHeadlessRule (rule : DefaultHeadlessOptions) : Bool := !rule.queryType.isEmpty

def isNonIPCIDRHeadlessRule (rule : DefaultHeadlessOptions) : Bool :=
  isDNSQueryTypeHeadlessRule rule || !rule.network.isEmpty || !rule.domain.isEmpty || !rule.domainSuffix.isEmpty ||
    !rule.domainKeyword.isEmpty || !rule.domainRegex.isEmpty || !rule.sourceIPCIDR.isEmpty ||
    !rule.sourcePort.isEmpty || !rule.sourcePortRange.isEmpty || !rule.port.isEmpty || !rule.portRange.isEmpty ||
    isProcessHeadlessRule rule || !rule.networkType.isEmpty || rule.networkIsExpensive ||
    rule.networkIsConstrained || isWIFIHeadlessRule rule || !rule.networkInterfaceAddress.isEmpty ||
    !rule.defaultInterfaceAddress.isEmpty || rule.domainMatcher.isSome || rule.sourceIPSet.isSome ||
    !rule.adGuardDomain.isEmpty || rule.adGuardDomainMatcher.isSome

def DefaultHeadlessOptions.isValid (rule : DefaultHeadlessOptions) : Bool :=
  isNonIPCIDRHeadlessRule rule || isIPCIDRHeadlessRule rule

mutual
def HeadlessOptions.isValid : HeadlessOptions → Bool
  | .default options => options.isValid
  | .logical _ rules _ => !rules.isEmpty && HeadlessOptions.allValid rules
def HeadlessOptions.allValid : List HeadlessOptions → Bool
  | [] => true
  | rule :: rest => rule.isValid && HeadlessOptions.allValid rest
end

mutual
def hasHeadlessRule (cond : DefaultHeadlessOptions → Bool) : List HeadlessOptions → Bool
  | [] => false
  | rule :: rest => rule.satisfies cond || hasHeadlessRule cond rest
def HeadlessOptions.satisfies (cond : DefaultHeadlessOptions → Bool) : HeadlessOptions → Bool
  | .default options => cond options
  | .logical _ rules _ => hasHeadlessRule cond rules
end

def buildRuleSetMetadata (headlessRules : List HeadlessOptions) : RuleSetMetadata where
  containsProcessRule := hasHeadlessRule isProcessHeadlessRule headlessRules
  containsWIFIRule := hasHeadlessRule isWIFIHeadlessRule headlessRules
  containsIPCIDRRule := hasHeadlessRule isIPCIDRHeadlessRule headlessRules
  containsDNSQueryTypeRule := hasHeadlessRule isDNSQueryTypeHeadlessRule headlessRules
  containsNonIPCIDRRule := hasHeadlessRule isNonIPCIDRHeadlessRule headlessRules

structure NetworkManager where
  networkType : List String → Bool
  isExpensive : Bool
  isConstrained : Bool
  wifiSSID : List String → Bool
  wifiBSSID : List String → Bool
  interfaceAddress : List (String × List String) → Bool
  defaultInterfaceAddress : List String → Bool

-- The compilers of domain lists, regular expressions, prefixes and port
-- ranges, and the tests on process information.
structure ItemCompilers where
  domainMatcher : List String → List String → String → Bool
  domainKeyword : List String → String → Bool
  adGuardMatcher : List String → String → Bool
  regex : List String → Except String (String → Bool)
  ipSet : List String → Except String (Addr → Bool)
  portRange : List String → Except String (List (UInt16 × UInt16))
  processName : List String → ConnectionOwner → Bool
  processPath : List String → ConnectionOwner → Bool
  processPathRegex : List String → Except String (ConnectionOwner → Bool)
  packageName : List String → ConnectionOwner → Bool
  packageNameRegex : List String → Except String (ConnectionOwner → Bool)
  networkManager : Option NetworkManager

def cause {α : Type} (message : String) (result : Except String α) : Except String α :=
  result.mapError (fun err => message ++ ": " ++ err)

def newDomainItem (compilers : ItemCompilers) (domains domainSuffixes : List String) : Except String RuleItem :=
  if domains.contains "" then .error "domain: empty item is not allowed"
  else if domainSuffixes.contains "" then .error "domain_suffix: empty item is not allowed"
  else .ok (.host (compilers.domainMatcher domains domainSuffixes))

def optionalItem {α : Type} (values : List α) (item : RuleItem) : List RuleItem := if values.isEmpty then [] else [item]

def compiledItem {α β : Type} (values : List α) (message : String) (compile : List α → Except String β)
    (item : β → RuleItem) : Except String (List RuleItem) :=
  if values.isEmpty then .ok [] else cause message ((compile values).map (fun compiled => [item compiled]))

def compiledOrRawItem {α β : Type} (values : List α) (raw : Option β) (message : String)
    (compile : List α → Except String β) (item : β → RuleItem) : Except String (List RuleItem) :=
  if values.isEmpty then .ok (raw.toList.map item) else compiledItem values message compile item

def domainItems (compilers : ItemCompilers) (options : DefaultHeadlessOptions) : Except String (List RuleItem) :=
  if !options.domain.isEmpty || !options.domainSuffix.isEmpty then
    (newDomainItem compilers options.domain options.domainSuffix).map (fun item => [item])
  else .ok (options.domainMatcher.toList.map RuleItem.host)

def networkManagerItems (options : DefaultHeadlessOptions) (manager : NetworkManager) : List RuleItem :=
  optionalItem options.networkType (.environment (manager.networkType options.networkType)) ++
    (if options.networkIsExpensive then [.environment manager.isExpensive] else []) ++
    (if options.networkIsConstrained then [.environment manager.isConstrained] else []) ++
    optionalItem options.wifiSSID (.environment (manager.wifiSSID options.wifiSSID)) ++
    optionalItem options.wifiBSSID (.environment (manager.wifiBSSID options.wifiBSSID)) ++
    optionalItem options.networkInterfaceAddress
      (.environment (manager.interfaceAddress options.networkInterfaceAddress)) ++
    optionalItem options.defaultInterfaceAddress
      (.environment (manager.defaultInterfaceAddress options.defaultInterfaceAddress))

def adGuardItems (compilers : ItemCompilers) (options : DefaultHeadlessOptions) : List RuleItem :=
  if options.adGuardDomain.isEmpty then options.adGuardDomainMatcher.toList.map RuleItem.host
  else [.host (compilers.adGuardMatcher options.adGuardDomain)]

def newDefaultHeadlessRule (compilers : ItemCompilers) (options : DefaultHeadlessOptions) :
    Except String (AbstractDefaultRule Empty) := do
  let domain ← domainItems compilers options
  let domainRegex ← compiledItem options.domainRegex "domain_regex" compilers.regex RuleItem.host
  let sourceIPCIDR ← compiledOrRawItem options.sourceIPCIDR options.sourceIPSet "source_ip_cidr" compilers.ipSet
    (fun contains => .ipCIDR contains true)
  let ipcidr ← compiledOrRawItem options.ipcidr options.ipSet "ipcidr" compilers.ipSet
    (fun contains => .ipCIDR contains false)
  let sourcePortRange ← compiledItem options.sourcePortRange "source_port_range" compilers.portRange
    (fun ranges => .portRange ranges true)
  let portRange ← compiledItem options.portRange "port_range" compilers.portRange
    (fun ranges => .portRange ranges false)
  let processPathRegex ← compiledItem options.processPathRegex "process_path_regex" compilers.processPathRegex
    RuleItem.process
  let packageNameRegex ← compiledItem options.packageNameRegex "package_name_regex" compilers.packageNameRegex
    RuleItem.process
  return {
    items :=
      optionalItem options.queryType (.queryType options.queryType) ++
        optionalItem options.network (.network options.network) ++
        optionalItem options.processName (.process (compilers.processName options.processName)) ++
        optionalItem options.processPath (.process (compilers.processPath options.processPath)) ++
        processPathRegex ++
        optionalItem options.packageName (.process (compilers.packageName options.packageName)) ++
        packageNameRegex ++
        compilers.networkManager.toList.flatMap (networkManagerItems options)
    sourceAddressItems := sourceIPCIDR
    sourcePortItems := optionalItem options.sourcePort (.port options.sourcePort true) ++ sourcePortRange
    destinationAddressItems :=
      domain ++ optionalItem options.domainKeyword (.host (compilers.domainKeyword options.domainKeyword)) ++
        domainRegex ++ adGuardItems compilers options
    destinationIPCIDRItems := ipcidr
    destinationPortItems := optionalItem options.port (.port options.port false) ++ portRange
    invert := options.invert }

def logicalMode (mode : String) : Except String LogicalMode :=
  if mode = "and" then .ok .and
  else if mode = "or" then .ok .or
  else .error ("unknown logical mode: " ++ mode)

mutual
def newHeadlessRule (compilers : ItemCompilers) : HeadlessOptions → Except String HeadlessRule
  | .default options =>
    if !options.isValid then .error "missing conditions"
    else (newDefaultHeadlessRule compilers options).map HeadlessRule.default
  | .logical mode rules invert =>
    if !HeadlessOptions.isValid (.logical mode rules invert) then .error "missing conditions"
    else do
      let mode ← logicalMode mode
      let subRules ← newHeadlessRules compilers "sub rule[" 0 rules
      return .logical subRules mode invert
def newHeadlessRules (compilers : ItemCompilers) (label : String) (index : Nat) :
    List HeadlessOptions → Except String (List HeadlessRule)
  | [] => .ok []
  | rule :: rest => do
    let first ← cause (label ++ toString index ++ "]") (newHeadlessRule compilers rule)
    let later ← newHeadlessRules compilers label (index + 1) rest
    return first :: later
end

def newRuleSet (compilers : ItemCompilers) (headlessRules : List HeadlessOptions) : Except String RuleSet := do
  let rules ← newHeadlessRules compilers "parse rule_set.rules.[" 0 headlessRules
  return { rules := rules, metadata := buildRuleSetMetadata headlessRules }

theorem cause_eq_ok {α : Type} {message : String} {result : Except String α} {value : α} :
    cause message result = .ok value ↔ result = .ok value := by
  cases result <;> simp [cause, Except.mapError]

section
variable (compilers : ItemCompilers) (cond : DefaultHeadlessOptions → Bool)
variable (holds : AbstractDefaultRule Empty → Bool)

def Establishes : Prop :=
  ∀ options rule, newDefaultHeadlessRule compilers options = .ok rule → cond options = false → holds rule = true

mutual
theorem built_every_default (step : Establishes compilers cond holds) (options : HeadlessOptions) (rule : HeadlessRule)
    (built : newHeadlessRule compilers options = .ok rule) (meets : options.satisfies cond = false) :
    rule.everyDefault holds = true := by
  cases options with
  | default options =>
    rw [newHeadlessRule] at built
    split at built
    · contradiction
    obtain ⟨inner, inner_built, rfl⟩ := map_eq_ok.mp built
    simpa [HeadlessRule.everyDefault] using step options inner inner_built (by simpa [HeadlessOptions.satisfies] using meets)
  | logical mode rules =>
    rw [newHeadlessRule] at built
    split at built
    · contradiction
    obtain ⟨_, _, rest⟩ := bind_eq_ok.mp built
    obtain ⟨subRules, subBuilt, result⟩ := bind_eq_ok.mp rest
    cases result
    exact built_every_default_in step rules _ _ subRules subBuilt (by simpa [HeadlessOptions.satisfies] using meets)
theorem built_every_default_in (step : Establishes compilers cond holds) (options : List HeadlessOptions) (label : String)
    (index : Nat) (rules : List HeadlessRule) (built : newHeadlessRules compilers label index options = .ok rules)
    (meets : hasHeadlessRule cond options = false) : HeadlessRule.everyDefaultIn holds rules = true := by
  cases options with
  | nil => simp_all [newHeadlessRules, HeadlessRule.everyDefaultIn]
  | cons first rest =>
    rw [newHeadlessRules] at built
    obtain ⟨rule, ruleBuilt, more⟩ := bind_eq_ok.mp built
    obtain ⟨later, laterBuilt, result⟩ := bind_eq_ok.mp more
    cases result
    rw [hasHeadlessRule, Bool.or_eq_false_iff] at meets
    rw [HeadlessRule.everyDefaultIn, Bool.and_eq_true]
    exact ⟨built_every_default step first rule (cause_eq_ok.mp ruleBuilt) meets.1,
      built_every_default_in step rest label (index + 1) later laterBuilt meets.2⟩
end
end

theorem built_without_ipcidr (compilers : ItemCompilers) :
    Establishes compilers isIPCIDRHeadlessRule (fun rule => rule.destinationIPCIDRItems.isEmpty) := by
  intro options rule built absent
  rw [isIPCIDRHeadlessRule] at absent
  simp only [newDefaultHeadlessRule, bind_eq_ok] at built
  obtain ⟨_, _, _, _, _, _, _, ipcidrBuilt, _, _, _, _, _, _, _, _, result⟩ := built
  cases result
  exact List.isEmpty_iff.mpr (by simp_all [compiledOrRawItem])

theorem rule_set_without_ipcidr {compilers : ItemCompilers} {headlessRules : List HeadlessOptions} {ruleSet : RuleSet}
    (built : newRuleSet compilers headlessRules = .ok ruleSet) (absent : ruleSet.metadata.containsIPCIDRRule = false) :
    ∀ rule ∈ ruleSet.rules, rule.everyDefault (fun inner => inner.destinationIPCIDRItems.isEmpty) = true := by
  obtain ⟨rules, rulesBuilt, result⟩ := bind_eq_ok.mp built
  cases result
  exact (every_default_in_iff _ rules).mp
    (built_every_default_in compilers _ _ (built_without_ipcidr compilers) headlessRules _ _ rules rulesBuilt absent)

end OtunKernel.Rule
