import OtunKernel.Lib.Basic
import OtunKernel.Srs.Safety

namespace OtunKernel.Srs

open Lib

variable {env : Env}

mutual
def hasHeadlessRuleIn (cond : DefaultHeadlessRule env → Bool) : HeadlessRule env → Bool
  | .default options => cond options
  | .logical _ rules _ => hasHeadlessRule cond rules
def hasHeadlessRule (cond : DefaultHeadlessRule env → Bool) : List (HeadlessRule env) → Bool
  | [] => false
  | rule :: later => hasHeadlessRuleIn cond rule || hasHeadlessRule cond later
end

def hasPackageNameRegex (rule : DefaultHeadlessRule env) : Bool := !rule.packageNameRegex.isEmpty

def hasInterfaceAddress (rule : DefaultHeadlessRule env) : Bool :=
  !rule.networkInterfaceAddress.entries.isEmpty || !rule.defaultInterfaceAddress.isEmpty

def hasNetworkState (rule : DefaultHeadlessRule env) : Bool :=
  !rule.networkType.isEmpty || rule.networkIsExpensive || rule.networkIsConstrained

def downgradeUnless (used : Bool) (higher lower version : UInt8) : UInt8 :=
  if version == higher && !used then lower else version

def downgradeRuleSetVersion (version : UInt8) (rules : List (HeadlessRule env)) : UInt8 :=
  let version := downgradeUnless (hasHeadlessRule hasPackageNameRegex rules) 5 4 version
  let version := downgradeUnless (hasHeadlessRule hasInterfaceAddress rules) 4 3 version
  downgradeUnless (hasHeadlessRule hasNetworkState rules) 3 2 version

mutual
def defaultsIn : HeadlessRule env → List (DefaultHeadlessRule env)
  | .default options => [options]
  | .logical _ rules _ => defaultsOf rules
def defaultsOf : List (HeadlessRule env) → List (DefaultHeadlessRule env)
  | [] => []
  | rule :: later => defaultsIn rule ++ defaultsOf later
end

mutual
theorem has_headless_rule_in_eq (cond : DefaultHeadlessRule env → Bool) (rule : HeadlessRule env) :
    hasHeadlessRuleIn cond rule = (defaultsIn rule).any cond := by
  cases rule with
  | default => simp [hasHeadlessRuleIn, defaultsIn]
  | logical _ rules =>
    simpa [hasHeadlessRuleIn, defaultsIn] using has_headless_rule_eq cond rules
theorem has_headless_rule_eq (cond : DefaultHeadlessRule env → Bool) (rules : List (HeadlessRule env)) :
    hasHeadlessRule cond rules = (defaultsOf rules).any cond := by
  cases rules with
  | nil => simp [hasHeadlessRule, defaultsOf]
  | cons rule later =>
    rw [hasHeadlessRule, defaultsOf, List.any_append, has_headless_rule_in_eq cond rule, has_headless_rule_eq cond later]
end

mutual
theorem write_rule_leaves {version : UInt8} {rule : HeadlessRule env} {bytes : Bytes}
    (written : writeRule env version rule = .ok bytes) :
    ∀ options ∈ defaultsIn rule, ∃ part, writeDefaultRule env options version = .ok part := by
  cases rule with
  | default =>
    intro other member
    rw [defaultsIn, List.mem_singleton] at member
    subst member
    exact ⟨bytes, written⟩
  | logical =>
    obtain ⟨_, all, _⟩ := bind_eq_ok.mp written
    exact write_rules_leaves all
theorem write_rules_leaves {version : UInt8} {rules : List (HeadlessRule env)} {body : Bytes}
    (written : writeRules env version rules = .ok body) :
    ∀ options ∈ defaultsOf rules, ∃ part, writeDefaultRule env options version = .ok part := by
  cases rules with
  | nil => simp [defaultsOf]
  | cons =>
    obtain ⟨_, head, written⟩ := bind_eq_ok.mp written
    obtain ⟨_, tail, _⟩ := bind_eq_ok.mp written
    intro options member
    rw [defaultsOf, List.mem_append] at member
    cases member with
    | inl here => exact write_rule_leaves head options here
    | inr there => exact write_rules_leaves tail options there
end

mutual
theorem write_rule_congr {version other : UInt8} {rule : HeadlessRule env}
    (same : ∀ options ∈ defaultsIn rule, writeDefaultRule env options version = writeDefaultRule env options other) :
    writeRule env version rule = writeRule env other rule := by
  cases rule with
  | default options => simp_all [writeRule, defaultsIn]
  | logical => rw [writeRule, writeRule, write_rules_congr same]
theorem write_rules_congr {version other : UInt8} {rules : List (HeadlessRule env)}
    (same : ∀ options ∈ defaultsOf rules, writeDefaultRule env options version = writeDefaultRule env options other) :
    writeRules env version rules = writeRules env other rules := by
  cases rules with
  | nil => rw [writeRules, writeRules]
  | cons rule later =>
    have head : writeRule env version rule = writeRule env other rule := by
      apply write_rule_congr
      intro options member
      exact same options (by simp [defaultsOf, member])
    have tail : writeRules env version later = writeRules env other later := by
      apply write_rules_congr
      intro options member
      exact same options (by simp [defaultsOf, member])
    rw [writeRules, writeRules, head, tail]
end

variable {version : UInt8} {bytes : Bytes} {rules : List (HeadlessRule env)} {rule : DefaultHeadlessRule env}

theorem when_present_since_ok {present : Bool} {minimum : UInt8} {text : String} {part : Bytes}
    (written : whenPresent present (since minimum version text bytes) = .ok part) (there : present = true) :
    minimum ≤ version := by
  rw [whenPresent, since] at written
  grind

theorem when_present_since_eq (present : Bool) {minimum other : UInt8} (text : String) (bytes : Bytes)
    (first : present = true → minimum ≤ version) (second : present = true → minimum ≤ other) :
    whenPresent present (since minimum version text bytes) = whenPresent present (since minimum other text bytes) := by
  cases present with
  | false => rfl
  | true => rw [since, since, if_neg (UInt8.not_lt.mpr (first rfl)), if_neg (UInt8.not_lt.mpr (second rfl))]

structure Supports (version : UInt8) (rule : DefaultHeadlessRule env) : Prop where
  packageNameRegex : hasPackageNameRegex rule = true → 5 ≤ version
  interfaceAddress : hasInterfaceAddress rule = true → 4 ≤ version
  networkState : hasNetworkState rule = true → 3 ≤ version

theorem write_default_rule_supports (written : writeDefaultRule env rule version = .ok bytes) : Supports version rule := by
  obtain ⟨_, all, _⟩ := bind_eq_ok.mp written
  have each := mapM_members_ok all
  simp only [writeItems, List.forall_mem_cons] at each
  obtain ⟨_, _, _, _, _, _, _, _, _, _, _, _, _, _, _, ⟨_, regex⟩, ⟨_, ofType⟩, ⟨_, expensive⟩, ⟨_, constrained⟩, ⟨_, interface⟩,
    ⟨_, ofDefault⟩, _⟩ := each
  refine ⟨when_present_since_ok regex, ?_, ?_⟩
  · intro used
    rw [hasInterfaceAddress] at used
    grind [when_present_since_ok]
  intro used
  rw [hasNetworkState] at used
  grind [when_present_since_ok]

theorem write_default_rule_eq {other : UInt8} (modern : 2 ≤ version) (also : 2 ≤ other) (first : Supports version rule)
    (second : Supports other rule) : writeDefaultRule env rule version = writeDefaultRule env rule other := by
  have matcher : (version == 1) = (other == 1) := by grind
  have interface : ∀ present : Bool, (present = true → hasInterfaceAddress rule = true) →
      (present = true → 4 ≤ version) ∧ (present = true → 4 ≤ other) := by
    grind [first.interfaceAddress, second.interfaceAddress]
  have state : ∀ present : Bool, (present = true → hasNetworkState rule = true) →
      (present = true → 3 ≤ version) ∧ (present = true → 3 ≤ other) := by grind [first.networkState, second.networkState]
  have ofType := state (!rule.networkType.isEmpty) (fun there => by simp [hasNetworkState, there])
  have expensive := state rule.networkIsExpensive (fun there => by simp [hasNetworkState, there])
  have constrained := state rule.networkIsConstrained (fun there => by simp [hasNetworkState, there])
  have ofInterface := interface (!rule.networkInterfaceAddress.entries.isEmpty) (fun there => by simp [hasInterfaceAddress, there])
  have ofDefault := interface (!rule.defaultInterfaceAddress.isEmpty) (fun there => by simp [hasInterfaceAddress, there])
  have items : writeItems env rule version = writeItems env rule other := by
    rw [writeItems, writeItems, matcher,
      when_present_since_eq (!rule.packageNameRegex.isEmpty) _ _ first.packageNameRegex second.packageNameRegex,
      when_present_since_eq _ _ _ ofType.1 ofType.2, when_present_since_eq _ _ _ expensive.1 expensive.2,
      when_present_since_eq _ _ _ constrained.1 constrained.2, when_present_since_eq _ _ _ ofInterface.1 ofInterface.2,
      when_present_since_eq _ _ _ ofDefault.1 ofDefault.2,
      when_present_since_eq (!rule.adGuardDomain.isEmpty) _ _ (fun _ => modern) (fun _ => also)]
  rw [writeDefaultRule, writeDefaultRule, items]

theorem supports_leaves_iff : (∀ options ∈ defaultsOf rules, Supports version options) ↔
      (hasHeadlessRule hasPackageNameRegex rules = true → 5 ≤ version) ∧
        (hasHeadlessRule hasInterfaceAddress rules = true → 4 ≤ version) ∧
          (hasHeadlessRule hasNetworkState rules = true → 3 ≤ version) := by
  simp only [has_headless_rule_eq, List.any_eq_true]
  constructor
  · intro all
    refine ⟨?_, ?_, ?_⟩
    · rintro ⟨options, member, used⟩
      exact (all options member).packageNameRegex used
    · rintro ⟨options, member, used⟩
      exact (all options member).interfaceAddress used
    rintro ⟨options, member, used⟩
    exact (all options member).networkState used
  intro all options member
  exact ⟨fun used => all.1 ⟨options, member, used⟩, fun used => all.2.1 ⟨options, member, used⟩,
    fun used => all.2.2 ⟨options, member, used⟩⟩

theorem write_supports (written : write env rules version = .ok bytes) :
    ∀ options ∈ defaultsOf rules, Supports version options := by
  obtain ⟨_, all, _⟩ := bind_eq_ok.mp written
  grind [write_rules_leaves, write_default_rule_supports]

theorem downgrade_old (old : version < 3) (rules : List (HeadlessRule env)) : downgradeRuleSetVersion version rules = version := by
  grind [downgradeUnless, downgradeRuleSetVersion]

section
variable (modern : 3 ≤ version) (known : version ≤ 5) (supported : ∀ options ∈ defaultsOf rules, Supports version options)
include modern known supported

theorem downgrade_eq : downgradeRuleSetVersion version rules = if hasHeadlessRule hasPackageNameRegex rules then 5
      else if hasHeadlessRule hasInterfaceAddress rules then 4 else if hasHeadlessRule hasNetworkState rules then 3 else 2 := by
  rw [supports_leaves_iff] at supported
  rw [downgradeRuleSetVersion]
  generalize hasHeadlessRule hasPackageNameRegex rules = regex at supported ⊢
  generalize hasHeadlessRule hasInterfaceAddress rules = interface at supported ⊢
  generalize hasHeadlessRule hasNetworkState rules = state at supported ⊢
  have range : version = 3 ∨ version = 4 ∨ version = 5 := by grind
  rcases range with rfl | rfl | rfl <;> revert regex interface state <;> decide

theorem downgrade_least : 2 ≤ downgradeRuleSetVersion version rules ∧
      (∀ options ∈ defaultsOf rules, Supports (downgradeRuleSetVersion version rules) options) ∧
        ∀ other, 2 ≤ other → (∀ options ∈ defaultsOf rules, Supports other options) →
          downgradeRuleSetVersion version rules ≤ other := by
  simp only [downgrade_eq modern known supported, supports_leaves_iff]
  grind

end

theorem downgrade_safe_tight {rules : List (HeadlessRule env)} {version : UInt8} {bytes : Bytes} (known : version ≤ 5)
    (written : write env rules version = .ok bytes) :
    (∃ rest, bytes = magicBytes ++ version :: rest ∧ write env rules (downgradeRuleSetVersion version rules) =
        .ok (magicBytes ++ downgradeRuleSetVersion version rules :: rest)) ∧
      (3 ≤ version → 2 ≤ downgradeRuleSetVersion version rules ∧
        ∀ other, 2 ≤ other → (∃ bytes, write env rules other = .ok bytes) → downgradeRuleSetVersion version rules ≤ other) := by
  have supported := write_supports written
  obtain ⟨body, all, same⟩ := bind_eq_ok.mp written
  cases same
  by_cases modern : 3 ≤ version
  · obtain ⟨enough, leaves, least⟩ := downgrade_least modern known supported
    have unchanged : writeRules env (downgradeRuleSetVersion version rules) rules = .ok body := by
      grind [write_rules_congr, write_default_rule_eq]
    refine ⟨⟨_, rfl, ?_⟩, fun _ => ⟨enough, ?_⟩⟩
    · rw [write, unchanged]
      rfl
    · grind [write_supports]
  · grind [downgrade_old]

def expensiveRules : List (HeadlessRule plainEnv) := [.logical .and [.default { networkIsExpensive := true }] false]

theorem downgrade_safe_tight_example :
    downgradeRuleSetVersion 5 expensiveRules = 3 ∧ ∃ rest, write plainEnv expensiveRules 5 = .ok (magicBytes ++ 5 :: rest) ∧
      write plainEnv expensiveRules 3 = .ok (magicBytes ++ 3 :: rest) := by
  obtain ⟨bytes, written⟩ : ∃ bytes, write plainEnv expensiveRules 5 = .ok bytes := ⟨_, rfl⟩
  obtain ⟨rest, rfl, lower⟩ := (downgrade_safe_tight (by decide) written).1
  exact ⟨rfl, rest, written, lower⟩

end OtunKernel.Srs
