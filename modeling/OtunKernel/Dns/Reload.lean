import OtunKernel.Dns.Mode

namespace OtunKernel.Dns

open Lib Rule RuleSets DNSOptions

-- A reload between its two steps: validated against the metadata that the
-- other rule-sets had then, and still to be committed.
structure Reload where
  tag : String
  candidate : RuleSetMetadata
  read : RuleSets

structure ReloadState where
  current : RuleSets
  pending : List Reload

inductive ReloadStep where
  | validate (tag : String) (candidate : RuleSetMetadata)
  | commit (index : Nat)
deriving DecidableEq, Repr

def reloadStep (rules : List DNSOptions) (legacyDNSMode : Bool) : System ReloadState ReloadStep
  | state, .validate tag candidate =>
    match state.current tag,
      validateRuleSetMetadataUpdate rules ⟨true, legacyDNSMode, false⟩ state.current tag candidate with
    | none, _ => none
    | some _, .ok _ => some { state with pending := state.pending ++ [⟨tag, candidate, state.current⟩] }
    | some _, .error _ => some state
  | state, .commit index =>
    match state.pending[index]? with
    | none => none
    | some reload =>
      some { current := state.current.override reload.tag reload.candidate
             pending := state.pending.eraseIdx index }

def AcceptedAtStart (rules : List DNSOptions) (sets : RuleSets) (legacyDNSMode : Bool) : Prop :=
  (∃ flags, resolveLegacyDNSMode sets rules = .ok (legacyDNSMode, flags)) ∧
    (legacyDNSMode = false → validateLegacyDNSModeDisabledRules sets rules = .ok ())

def NonLegacyValid (rules : List DNSOptions) (sets : RuleSets) : Prop :=
  (∃ flags, resolveLegacyDNSMode sets rules = .ok (false, flags)) ∧
    validateLegacyDNSModeDisabledRules sets rules = .ok ()

def LegacyValid (rules : List DNSOptions) (sets : RuleSets) : Prop :=
  ∃ flags, dnsRuleModeRequirements sets rules = .ok flags ∧ flags.disabled = false

def undisturbedCommit (state : ReloadState) : ReloadStep → Prop
  | .validate _ _ => True
  | .commit index => ∀ reload, state.pending[index]? = some reload →
      ∀ tag, tag ≠ reload.tag → state.current tag = reload.read tag

section
variable (sets : RuleSets)

-- What sets the disabled flag: a rule of the list by itself, or a rule-set it
-- refers to.
mutual
def DNSOptions.disables : DNSOptions → Bool
  | .default rule => defaultRuleDisablesLegacyDNSMode rule || rule.action.disablesLegacyDNSMode
  | .logical rules action =>
    action.isEvaluate || action.isRespond || action.disablesLegacyDNSMode || DNSOptions.anyDisables rules
def DNSOptions.anyDisables : List DNSOptions → Bool
  | [] => false
  | rule :: rest => rule.disables || DNSOptions.anyDisables rest
end

mutual
def DNSOptions.tags : DNSOptions → List String
  | .default rule => rule.ruleSet
  | .logical rules _ => DNSOptions.allTags rules
def DNSOptions.allTags : List DNSOptions → List String
  | [] => []
  | rule :: rest => rule.tags ++ DNSOptions.allTags rest
end

def RuleSets.known (tags : List String) : Prop := ∀ tag ∈ tags, (sets tag).isSome = true

def RuleSets.hasQueryType (tags : List String) : Bool :=
  tags.any (fun tag => (sets tag).any (fun metadata => metadata.containsDNSQueryTypeRule))

-- The requirements of a rule fail exactly when a rule-set it refers to is
-- unknown, and otherwise have this disabled flag.
def Requires (tags : List String) (disabled : Bool) (computed : Except ModeError ModeFlags) : Prop :=
  (sets.known tags ∧ ∃ flags, computed = .ok flags ∧ flags.disabled = disabled) ∨
    (¬ sets.known tags ∧ ∃ err, computed = .error err)

theorem known_append (left right : List String) : sets.known (left ++ right) ↔ sets.known left ∧ sets.known right :=
  List.forall_mem_append

theorem has_query_type_append (left right : List String) :
    sets.hasQueryType (left ++ right) = (sets.hasQueryType left || sets.hasQueryType right) :=
  List.any_append

theorem rule_set_requirements_spec (matchSource : Bool) (tags : List String) (flags : ModeFlags) :
    Requires sets tags (flags.disabled || sets.hasQueryType tags) (ruleSetRequirements sets matchSource tags flags) := by
  induction tags generalizing flags with
  | nil => exact .inl ⟨by simp [known], flags, rfl, by simp [hasQueryType]⟩
  | cons tag rest ih =>
    cases present : sets tag with
    | none =>
      refine .inr ⟨?_, .ruleSetNotFound tag, ?_⟩
      · intro known
        have found := known tag List.mem_cons_self
        simp [present] at found
      · simp [ruleSetRequirements, lookupDNSRuleSetMetadata, present, bind, Except.bind]
    | some metadata =>
      have first : sets.known (tag :: rest) ↔ sets.known rest := by simp [known, present]
      have flag : sets.hasQueryType (tag :: rest) = (metadata.containsDNSQueryTypeRule || sets.hasQueryType rest) := by
        simp [hasQueryType, present]
      simp only [ruleSetRequirements, lookupDNSRuleSetMetadata, present, bind, Except.bind]
      simpa [Requires, first, flag, ← Bool.or_assoc] using ih _

mutual
theorem requirements_in_rule_spec (rule : DNSOptions) :
    Requires sets rule.tags (rule.disables || sets.hasQueryType rule.tags) (requirementsInRule sets rule) := by
  cases rule with
  | default rule => exact rule_set_requirements_spec sets _ rule.ruleSet _
  | logical rules =>
    rw [disables, Bool.or_assoc]
    exact requirements_in_rules_spec rules _ 0 _
theorem requirements_in_rules_spec (rules : List DNSOptions) (cause : Nat → ModeError → ModeError) (index : Nat)
    (flags : ModeFlags) : Requires sets (DNSOptions.allTags rules)
      (flags.disabled || (DNSOptions.anyDisables rules || sets.hasQueryType (DNSOptions.allTags rules)))
      (requirementsInRules sets cause index rules flags) := by
  cases rules with
  | nil =>
    refine .inl ⟨by simp [known, allTags], flags, by rw [requirementsInRules], ?_⟩
    simp [allTags, anyDisables, hasQueryType]
  | cons rule rest =>
    rw [Requires, allTags, anyDisables, known_append, has_query_type_append, requirementsInRules]
    obtain ⟨known, ruleFlags, computed, disabled⟩ | ⟨unknown, err, failed⟩ := requirements_in_rule_spec rule
    · have later := requirements_in_rules_spec rest cause (index + 1) (flags.merge ruleFlags)
      obtain ⟨restKnown, result, restComputed, restDisabled⟩ | ⟨restUnknown, err, failed⟩ := later
      · grind [ModeFlags.merge]
      · grind
    · simp_all
end
end

theorem legacy_valid_iff (rules : List DNSOptions) (sets : RuleSets) :
    LegacyValid rules sets ↔ sets.known (DNSOptions.allTags rules) ∧ DNSOptions.anyDisables rules = false ∧
      sets.hasQueryType (DNSOptions.allTags rules) = false := by
  have spec := requirements_in_rules_spec sets rules ModeError.dnsRule 0 {}
  simp only [Bool.false_or] at spec
  constructor
  · rintro ⟨flags, computed, off⟩
    obtain ⟨known, result, same, disabled⟩ | ⟨_, err, failed⟩ := spec
    · simp_all [dnsRuleModeRequirements]
    · simp [dnsRuleModeRequirements, failed] at computed
  rintro ⟨known, off, noQueryType⟩
  obtain ⟨_, result, same, disabled⟩ | ⟨unknown, _⟩ := spec
  · exact ⟨result, same, by rw [disabled, off, noQueryType, Bool.or_self]⟩
  · exact absurd known unknown

variable {sets : RuleSets} {rules : List DNSOptions}

theorem resolve_ok {legacyDNSMode : Bool} {flags : ModeFlags}
    (resolved : resolveLegacyDNSMode sets rules = .ok (legacyDNSMode, flags)) :
    dnsRuleModeRequirements sets rules = .ok flags ∧ (flags.disabled = true → legacyDNSMode = false) := by
  obtain ⟨_, requirements, result⟩ := bind_eq_ok.mp resolved
  grind

variable {tag : String} {candidate : RuleSetMetadata}

theorem legacy_update_ok (ok : validateRuleSetMetadataUpdate rules ⟨true, true, false⟩ sets tag candidate = .ok ()) :
    LegacyValid rules (sets.override tag candidate) := by
  rw [validateRuleSetMetadataUpdate] at ok
  split at ok
  · rename_i bare
    rw [List.isEmpty_iff] at bare
    subst bare
    exact ⟨{}, rfl, rfl⟩
  obtain ⟨⟨_, flags⟩, resolved, checked⟩ := bind_eq_ok.mp ok
  obtain ⟨requirements, forced⟩ := resolve_ok resolved
  refine ⟨flags, requirements, ?_⟩
  cases disabled : flags.disabled with
  | false => rfl
  | true => grind [Bool.false_eq_true, bind_eq_ok]

theorem non_legacy_update_ok (ok : validateRuleSetMetadataUpdate rules ⟨true, false, false⟩ sets tag candidate = .ok ()) :
    NonLegacyValid rules (sets.override tag candidate) := by
  rw [validateRuleSetMetadataUpdate] at ok
  split at ok
  · rename_i bare
    rw [List.isEmpty_iff] at bare
    subst bare
    exact ⟨⟨{}, rfl⟩, rfl⟩
  obtain ⟨⟨candidateMode, flags⟩, resolved, checked⟩ := bind_eq_ok.mp ok
  cases candidateMode with
  | true => simp at checked
  | false => exact ⟨⟨flags, resolved⟩, by simpa using checked⟩

-- The disabled flag is a disjunction over the rule-sets, so every reload can
-- be judged by itself: its own candidate must not set it.
structure LegacyInvariant (rules : List DNSOptions) (state : ReloadState) : Prop where
  valid : LegacyValid rules state.current
  pending : ∀ reload ∈ state.pending, reload.tag ∈ DNSOptions.allTags rules →
    reload.candidate.containsDNSQueryTypeRule = false

theorem legacy_step (rules : List DNSOptions) (state : ReloadState) (label : ReloadStep) (result : ReloadState)
    (before : LegacyInvariant rules state) (taken : reloadStep rules true state label = some result) :
    LegacyInvariant rules result := by
  revert taken
  fun_cases reloadStep rules true state label <;> rintro ⟨⟩
  · rename_i tag _ _ _ passed _
    refine ⟨before.valid, ?_⟩
    intro reload member used
    obtain old | new := List.mem_append.mp member
    · exact before.pending reload old used
    rw [List.mem_singleton.mp new] at used ⊢
    obtain ⟨_, _, quiet⟩ := (legacy_valid_iff rules _).mp (legacy_update_ok passed)
    rw [hasQueryType, List.any_eq_false] at quiet
    simpa [RuleSets.override] using quiet tag used
  · exact before
  rename_i reload found
  refine ⟨?_, fun other later => before.pending other (List.mem_of_mem_eraseIdx later)⟩
  obtain ⟨known, off, quiet⟩ := (legacy_valid_iff rules _).mp before.valid
  rw [hasQueryType, List.any_eq_false] at quiet
  refine (legacy_valid_iff rules _).mpr ⟨?_, off, ?_⟩
  · intro tag used
    by_cases same : tag = reload.tag
    · simp [RuleSets.override, same]
    · simpa [RuleSets.override, same] using known tag used
  rw [hasQueryType, List.any_eq_false]
  intro tag used
  by_cases same : tag = reload.tag
  · grind [RuleSets.override, before.pending]
  · simpa [RuleSets.override, same] using quiet tag used

structure NonLegacyInvariant (rules : List DNSOptions) (state : ReloadState) : Prop where
  valid : NonLegacyValid rules state.current
  pending : ∀ reload ∈ state.pending, NonLegacyValid rules (reload.read.override reload.tag reload.candidate)

theorem non_legacy_step (rules : List DNSOptions) (state : ReloadState) (label : ReloadStep) (result : ReloadState)
    (before : NonLegacyInvariant rules state) (undisturbed : undisturbedCommit state label)
    (taken : reloadStep rules false state label = some result) : NonLegacyInvariant rules result := by
  revert taken
  fun_cases reloadStep rules false state label <;> rintro ⟨⟩
  · refine ⟨before.valid, ?_⟩
    grind [before.pending, non_legacy_update_ok]
  · exact before
  rename_i reload found
  refine ⟨?_, fun other later => before.pending other (List.mem_of_mem_eraseIdx later)⟩
  have same : state.current.override reload.tag reload.candidate =
      reload.read.override reload.tag reload.candidate := by
    funext tag
    by_cases own : tag = reload.tag
    · simp [RuleSets.override, own]
    · simp [RuleSets.override, own, undisturbed reload found tag own]
  simpa [same] using before.pending reload (List.mem_of_getElem? found)

theorem reloads_keep_mode (rules : List DNSOptions) (sets : RuleSets) (legacyDNSMode : Bool)
    (accepted : AcceptedAtStart rules sets legacyDNSMode) :
    (legacyDNSMode = true → ∀ state, Run (reloadStep rules true) anyStep ⟨sets, []⟩ state →
      LegacyValid rules state.current) ∧
    (legacyDNSMode = false → ∀ state, Run (reloadStep rules false) undisturbedCommit ⟨sets, []⟩ state →
      NonLegacyValid rules state.current) := by
  obtain ⟨⟨flags, resolved⟩, checked⟩ := accepted
  constructor
  · rintro rfl state run
    obtain ⟨requirements, forced⟩ := resolve_ok resolved
    have enabled : flags.disabled = false := by simp_all
    have start : LegacyInvariant rules ⟨sets, []⟩ := ⟨⟨flags, requirements, enabled⟩, by simp⟩
    exact (run.invariant _ start (fun state label result before _ taken =>
      legacy_step rules state label result before taken)).valid
  rintro rfl state run
  have start : NonLegacyInvariant rules ⟨sets, []⟩ := ⟨⟨⟨flags, resolved⟩, checked rfl⟩, by simp⟩
  exact (run.invariant _ start (non_legacy_step rules)).valid

def twoSetRules : List DNSOptions := [.default { ruleSet := ["a"] }, .default { ruleSet := ["b"] }]

def twoSets : RuleSets := fun tag =>
  if tag = "a" then some { containsDNSQueryTypeRule := true, containsNonIPCIDRRule := true }
  else if tag = "b" then some { containsNonIPCIDRRule := true }
  else none

theorem two_sets_accepted : AcceptedAtStart twoSetRules twoSets false :=
  ⟨⟨{ disabled := true }, rfl⟩, fun _ => rfl⟩

-- Set a loses its query type rule while set b gains an address rule; each is
-- validated against the other's old metadata.
theorem crossing_reloads_break_mode :
    ¬ ∀ (rules : List DNSOptions) (sets : RuleSets) (legacyDNSMode : Bool), AcceptedAtStart rules sets legacyDNSMode →
      legacyDNSMode = false → ∀ state, Run (reloadStep rules false) anyStep ⟨sets, []⟩ state →
        NonLegacyValid rules state.current := by
  intro claim
  have executed : ∃ state, execute (reloadStep twoSetRules false) ⟨twoSets, []⟩
      [.validate "a" { containsNonIPCIDRRule := true },
       .validate "b" { containsIPCIDRRule := true, containsNonIPCIDRRule := true }, .commit 0, .commit 0] = some state ∧
      resolveLegacyDNSMode state.current twoSetRules = .ok (true, { needed := true }) := ⟨_, rfl, rfl⟩
  obtain ⟨state, steps, legacy⟩ := executed
  obtain ⟨⟨_, nonLegacy⟩, _⟩ := claim twoSetRules twoSets false two_sets_accepted rfl state
    (run_of_execute _ _ _ (fun _ _ _ => trivial) steps)
  simp [legacy] at nonLegacy

theorem single_reload_keeps_mode :
    ∃ state, Run (reloadStep twoSetRules false) undisturbedCommit ⟨twoSets, []⟩ state ∧
      state.current "a" = some { containsNonIPCIDRRule := true } ∧ NonLegacyValid twoSetRules state.current := by
  have run : Run (reloadStep twoSetRules false) undisturbedCommit ⟨twoSets, []⟩
      ⟨twoSets.override "a" { containsNonIPCIDRRule := true }, []⟩ := by
    refine Run.next (.commit 0) (Run.next (.validate "a" { containsNonIPCIDRRule := true }) Run.refl trivial rfl) ?_ rfl
    intro _ found _ _
    cases found
    rfl
  exact ⟨_, run, rfl, (reloads_keep_mode twoSetRules twoSets false two_sets_accepted).2 rfl _ run⟩

end OtunKernel.Dns
