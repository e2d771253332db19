import OtunKernel.Lib.Basic
import OtunKernel.Lib.Runs
import OtunKernel.Dns.Query
import OtunKernel.Rule.Match

namespace OtunKernel.Dns

open Lib Rule

inductive ActionOptions where
  | route (server : String) (strategy : DomainStrategy) (disableOptimisticCache : Bool)
  | evaluate (server : String) (strategy : DomainStrategy) (disableOptimisticCache : Bool)
  | routeOptions (strategy : DomainStrategy) (disableOptimisticCache : Bool)
  | respond
  | reject
  | predefined
deriving DecidableEq, Repr

structure DefaultDNSOptions where
  matchResponse : Bool := false
  responseRcode : Option Nat := none
  responseAnswer : List String := []
  responseNs : List String := []
  responseExtra : List String := []
  ipVersion : Nat := 0
  queryType : List UInt16 := []
  ipcidr : List String := []
  ipIsPrivate : Bool := false
  ipAcceptAny : Bool := false
  ruleSet : List String := []
  ruleSetIPCIDRMatchSource : Bool := false
  ruleSetIPCIDRAcceptEmpty : Bool := false
  action : ActionOptions := .route "" .asIS false
deriving DecidableEq, Repr

inductive DNSOptions where
  | default (options : DefaultDNSOptions)
  | logical (rules : List DNSOptions) (action : ActionOptions)

inductive ModeError where
  | ruleSetNotFound (tag : String)
  | legacyRuleStrategy
  | legacyAddressFilter
  | ruleSetIPCIDRAcceptEmpty
  | responseMatchFields
  | missingEvaluate (index : Nat)
  | dnsRule (index : Nat) (cause : ModeError)
  | subRule (index : Nat) (cause : ModeError)
  | validateRule (index : Nat) (cause : ModeError)
deriving DecidableEq, Repr

abbrev RuleSets := String → Option RuleSetMetadata

def RuleSets.override (sets : RuleSets) (tag : String) (metadata : RuleSetMetadata) : RuleSets :=
  fun other => if other = tag then some metadata else sets other

def lookupDNSRuleSetMetadata (sets : RuleSets) (tag : String) : Except ModeError RuleSetMetadata :=
  match sets tag with
  | some metadata => .ok metadata
  | none => .error (.ruleSetNotFound tag)

def ActionOptions.disablesLegacyDNSMode : ActionOptions → Bool
  | .route _ _ disableOptimisticCache => disableOptimisticCache
  | .evaluate _ _ disableOptimisticCache => disableOptimisticCache
  | .routeOptions _ disableOptimisticCache => disableOptimisticCache
  | _ => false

def ActionOptions.hasStrategy : ActionOptions → Bool
  | .route _ strategy _ => strategy != .asIS
  | .evaluate _ strategy _ => strategy != .asIS
  | .routeOptions strategy _ => strategy != .asIS
  | _ => false

def ActionOptions.isEvaluate : ActionOptions → Bool
  | .evaluate _ _ _ => true
  | _ => false

def ActionOptions.isRespond : ActionOptions → Bool
  | .respond => true
  | _ => false

def hasResponseMatchFields (rule : DefaultDNSOptions) : Bool :=
  rule.responseRcode.isSome || !rule.responseAnswer.isEmpty || !rule.responseNs.isEmpty || !rule.responseExtra.isEmpty

def needsLegacyDNSModeFromAddressFilter (rule : DefaultDNSOptions) : Bool :=
  if rule.ruleSetIPCIDRAcceptEmpty then true
  else !rule.matchResponse && (rule.ipAcceptAny || !rule.ipcidr.isEmpty || rule.ipIsPrivate)

def defaultRuleDisablesLegacyDNSMode (rule : DefaultDNSOptions) : Bool :=
  rule.matchResponse || hasResponseMatchFields rule || rule.action.isEvaluate || rule.action.isRespond ||
    decide (rule.ipVersion > 0) || !rule.queryType.isEmpty

structure ModeFlags where
  disabled : Bool := false
  needed : Bool := false
  neededFromStrategy : Bool := false
deriving DecidableEq, Repr

def ModeFlags.merge (flags other : ModeFlags) : ModeFlags where
  disabled := flags.disabled || other.disabled
  needed := flags.needed || other.needed
  neededFromStrategy := flags.neededFromStrategy || other.neededFromStrategy

section
variable (sets : RuleSets)

def ruleSetRequirements (matchSource : Bool) : List String → ModeFlags → Except ModeError ModeFlags
  | [], flags => .ok flags
  | tag :: rest, flags => do
    let metadata ← lookupDNSRuleSetMetadata sets tag
    ruleSetRequirements matchSource rest
      { flags with disabled := flags.disabled || metadata.containsDNSQueryTypeRule
                   needed := if !matchSource && metadata.containsIPCIDRRule then true else flags.needed }

def defaultRequirements (rule : DefaultDNSOptions) : Except ModeError ModeFlags :=
  ruleSetRequirements sets rule.ruleSetIPCIDRMatchSource rule.ruleSet
    { disabled := defaultRuleDisablesLegacyDNSMode rule || rule.action.disablesLegacyDNSMode
      needed := needsLegacyDNSModeFromAddressFilter rule || rule.action.hasStrategy
      neededFromStrategy := rule.action.hasStrategy }

mutual
def requirementsInRule : DNSOptions → Except ModeError ModeFlags
  | .default rule => defaultRequirements sets rule
  | .logical rules action =>
    requirementsInRules ModeError.subRule 0 rules
      { disabled := action.isEvaluate || action.isRespond || action.disablesLegacyDNSMode
        needed := action.hasStrategy
        neededFromStrategy := action.hasStrategy }
def requirementsInRules (cause : Nat → ModeError → ModeError) (index : Nat) :
    List DNSOptions → ModeFlags → Except ModeError ModeFlags
  | [], flags => .ok flags
  | rule :: rest, flags =>
    match requirementsInRule rule with
    | .error err => .error (cause index err)
    | .ok ruleFlags => requirementsInRules cause (index + 1) rest (flags.merge ruleFlags)
end

def dnsRuleModeRequirements (rules : List DNSOptions) : Except ModeError ModeFlags :=
  requirementsInRules sets ModeError.dnsRule 0 rules {}

def resolveLegacyDNSMode (rules : List DNSOptions) : Except ModeError (Bool × ModeFlags) := do
  let flags ← dnsRuleModeRequirements sets rules
  if flags.disabled && flags.neededFromStrategy then .error .legacyRuleStrategy
  else if flags.disabled then .ok (false, flags)
  else .ok (flags.needed, flags)

def rejectPureIPSets : List String → Except ModeError Unit
  | [] => .ok ()
  | tag :: rest => do
    let metadata ← lookupDNSRuleSetMetadata sets tag
    if metadata.containsIPCIDRRule && !metadata.containsNonIPCIDRRule then .error .legacyAddressFilter
    else rejectPureIPSets rest

def validateDisabledDefaultRule (rule : DefaultDNSOptions) : Except ModeError Bool := do
  if (hasResponseMatchFields rule || !rule.ipcidr.isEmpty || rule.ipIsPrivate || rule.ipAcceptAny) &&
      !rule.matchResponse then
    .error .responseMatchFields
  else
    if rule.matchResponse then .ok () else rejectPureIPSets sets rule.ruleSet
    if rule.ruleSetIPCIDRAcceptEmpty then .error .ruleSetIPCIDRAcceptEmpty
    else .ok (rule.matchResponse || rule.action.isRespond)

mutual
def validateDisabledRuleTree : DNSOptions → Except ModeError Bool
  | .default rule => validateDisabledDefaultRule sets rule
  | .logical rules action => validateDisabledSubRules 0 rules action.isRespond
def validateDisabledSubRules (index : Nat) : List DNSOptions → Bool → Except ModeError Bool
  | [], requiresPriorEvaluate => .ok requiresPriorEvaluate
  | rule :: rest, requiresPriorEvaluate =>
    match validateDisabledRuleTree rule with
    | .error err => .error (.subRule index err)
    | .ok subRequires => validateDisabledSubRules (index + 1) rest (requiresPriorEvaluate || subRequires)
end

def DNSOptions.action : DNSOptions → ActionOptions
  | .default rule => rule.action
  | .logical _ action => action

def validateDisabledFrom (index : Nat) (seenEvaluate : Bool) : List DNSOptions → Except ModeError Unit
  | [] => .ok ()
  | rule :: rest =>
    match validateDisabledRuleTree sets rule with
    | .error err => .error (.validateRule index err)
    | .ok requiresPriorEvaluate =>
      if requiresPriorEvaluate && !seenEvaluate then .error (.missingEvaluate index)
      else validateDisabledFrom (index + 1) (seenEvaluate || rule.action.isEvaluate) rest

def validateLegacyDNSModeDisabledRules (rules : List DNSOptions) : Except ModeError Unit :=
  validateDisabledFrom sets 0 false rules

end

structure RouterMode where
  started : Bool
  legacyDNSMode : Bool
  closing : Bool := false
deriving DecidableEq, Repr

def validateRuleSetMetadataUpdate (rules : List DNSOptions) (mode : RouterMode) (current : RuleSets) (tag : String)
    (metadata : RuleSetMetadata) : Except ModeError Unit :=
  if rules.isEmpty then .ok ()
  else if mode.closing then .ok ()
  else do
    let sets := current.override tag metadata
    let (candidateLegacyDNSMode, flags) ← resolveLegacyDNSMode sets rules
    if !mode.started then
      if !candidateLegacyDNSMode then validateLegacyDNSModeDisabledRules sets rules else .ok ()
    else if mode.legacyDNSMode then
      if !candidateLegacyDNSMode && flags.disabled then
        validateLegacyDNSModeDisabledRules sets rules
        .error .legacyAddressFilter
      else .ok ()
    else if candidateLegacyDNSMode then .error .legacyAddressFilter
    else validateLegacyDNSModeDisabledRules sets rules

end OtunKernel.Dns
