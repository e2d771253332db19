import Mathlib.Data.List.Sections
import OtunKernel.Lib.Basic
import OtunKernel.Rule.LogicalSpec

namespace OtunKernel.Rule

open Lib AbstractDefaultRule RuleSetItem Rule.Group

-- The two flags of a rule-set item that change how ip_cidr items below it
-- are read.
structure Scope where
  matchSource : Bool := false
  acceptEmpty : Bool := false
deriving DecidableEq, Repr

def RuleSetItem.scope (item : RuleSetItem) : Scope := ⟨item.ipCidrMatchSource, item.ipCidrAcceptEmpty⟩

def underScope (metadata : InboundContext) (scope : Scope) : InboundContext :=
  { metadata with ipcidrMatchSource := scope.matchSource, ipcidrAcceptEmpty := scope.acceptEmpty, didMatch := false }

theorem nested_metadata_under_scope (item : RuleSetItem) (metadata : InboundContext) (scope : Scope) :
    item.nestedMetadata (underScope metadata scope) = underScope metadata item.scope := rfl

theorem reset_eq_under_scope (metadata : InboundContext) : metadata.resetRuleCache = underScope metadata {} := rfl

def AbstractDefaultRule.groupItems {ρ : Type} (r : AbstractDefaultRule ρ) (scope : Scope) : Group → List RuleItem
  | .sourceAddress => r.sourceAddressItems ++ (if scope.matchSource then r.destinationIPCIDRItems else [])
  | .sourcePort => r.sourcePortItems
  | .destinationAddress => r.destinationAddressItems ++ (if scope.matchSource then [] else r.destinationIPCIDRItems)
  | .destinationPort => r.destinationPortItems

-- A part is what one default rule contributes: the groups it has items in and
-- those one of its items matches. A branch is one way for a headless rule to
-- succeed: the parts of the default rules it relies on.
structure Part where
  required : Group → Bool
  matched : Group → Bool

abbrev Branch := List Part

def Group.all : List Group := [.sourceAddress, .sourcePort, .destinationAddress, .destinationPort]

@[simp] theorem Group.mem_all (g : Group) : g ∈ Group.all := by
  cases g <;> simp [all]

def AbstractDefaultRule.part {ρ : Type} (r : AbstractDefaultRule ρ) (metadata : InboundContext) (scope : Scope) : Part where
  required := fun g => !(r.groupItems scope g).isEmpty
  matched := fun g => matchAnyItem (r.groupItems scope g) (underScope metadata scope)

def Part.admittedBy (part : Part) (outer : Group → Bool) : Bool :=
  Group.all.all (fun g => !part.required g || (outer g || part.matched g))

def Branch.admittedBy (branch : Branch) (outer : Group → Bool) : Bool :=
  branch.all (fun part => part.admittedBy outer)

def Branch.matched (branch : Branch) (g : Group) : Bool := branch.any (fun part => part.matched g)

def negateBranches (branches : List Branch) : List Branch :=
  if branches.any (fun branch => branch.admittedBy (fun _ => false)) then [] else [[]]

def AbstractDefaultRule.branches (r : AbstractDefaultRule Empty) (metadata : InboundContext) (scope : Scope) :
    List Branch :=
  if r.allItemsEmpty then [[]]
  else
    let body := if r.items.all (RuleItem.matches (underScope metadata scope)) then [[r.part metadata scope]] else []
    if r.invert then negateBranches body else body

def logicalBranches (mode : LogicalMode) (invert : Bool) (subBranches : List (List Branch)) : List Branch :=
  let body :=
    match mode with
    | .and => (List.sections subBranches).map List.flatten
    | .or => subBranches.flatten
  if invert then negateBranches body else body

-- read gives the branches of the default rules.
mutual
def HeadlessRule.branchesBy (read : AbstractDefaultRule Empty → List Branch) : HeadlessRule → List Branch
  | .default rule => read rule
  | .logical rules mode invert => logicalBranches mode invert (HeadlessRule.subBranches read rules)
def HeadlessRule.subBranches (read : AbstractDefaultRule Empty → List Branch) : List HeadlessRule → List (List Branch)
  | [] => []
  | rule :: rest => rule.branchesBy read :: HeadlessRule.subBranches read rest
end

def HeadlessRule.branches (rule : HeadlessRule) (metadata : InboundContext) (scope : Scope) : List Branch :=
  rule.branchesBy (fun inner => inner.branches metadata scope)

-- What the code computes: a logical rule resets the rule cache, and with it
-- both flags, for its sub-rules.
def HeadlessRule.scopeInside (scope : Scope) : HeadlessRule → Scope
  | .default _ => scope
  | .logical _ _ _ => {}

theorem sub_branches_eq_map (read : AbstractDefaultRule Empty → List Branch) (rules : List HeadlessRule) :
    HeadlessRule.subBranches read rules = rules.map (HeadlessRule.branchesBy read) := by
  induction rules with
  | nil => rfl
  | cons _ _ ih => rw [HeadlessRule.subBranches, ih, List.map_cons]

def AbstractDefaultRule.completedBy {ρ : Type} (r : AbstractDefaultRule ρ) (metadata : InboundContext)
    (matched : Group → Bool) : Bool :=
  Group.all.all (fun g => !(r.part metadata {}).required g || ((r.part metadata {}).matched g || matched g))

-- The merge semantics of a default rule: it relies on one branch of one of its
-- rule-sets, and every group with items on either side is matched by one.
-- inside says which scope the default rules of a headless rule are read under.
def DefaultRule.holds (inside : Scope → HeadlessRule → Scope) (rule : DefaultRule) (metadata : InboundContext) : Bool :=
  rule.items.all (RuleItem.matches (underScope metadata {})) &&
    match rule.ruleSetItem with
    | none => rule.completedBy metadata (fun _ => false)
    | some item =>
      item.setList.any (fun ruleSet => ruleSet.rules.any (fun headless =>
        (headless.branches metadata (inside item.scope headless)).any (fun branch =>
          branch.admittedBy (rule.part metadata {}).matched && rule.completedBy metadata branch.matched)))

-- The documented meaning: the flags of the rule-set item hold for everything
-- inside the rule-set.
def DefaultRule.documentedHolds (rule : DefaultRule) (metadata : InboundContext) : Bool :=
  rule.holds (fun scope _ => scope) metadata

theorem Part.admitted_iff (part : Part) (outer : Group → Bool) :
    part.admittedBy outer = true ↔ ∀ g, part.required g = true → (outer g || part.matched g) = true := by
  simp only [Part.admittedBy, List.all_eq_true, mem_all, forall_const]
  refine forall_congr' (fun g => ?_)
  cases part.required g <;> simp

@[simp] theorem admitted_nil (outer : Group → Bool) : Branch.admittedBy [] outer = true := rfl

@[simp] theorem matched_nil : Branch.matched [] = fun _ => false := rfl

@[simp] theorem admitted_single (part : Part) (outer : Group → Bool) : Branch.admittedBy [part] outer = part.admittedBy outer := by
  simp [Branch.admittedBy]

@[simp] theorem matched_single (part : Part) : Branch.matched [part] = part.matched := by
  funext g
  simp [Branch.matched]

theorem admitted_flatten (branches : List Branch) (outer : Group → Bool) :
    Branch.admittedBy branches.flatten outer = true ↔ ∀ branch ∈ branches, branch.admittedBy outer = true := by
  simp only [Branch.admittedBy, List.all_flatten, List.all_eq_true]

@[simp] theorem group_state_nothing : groupState (fun _ => false) = 0#4 := rfl

theorem fold_based_states (branches : List Branch) (base : RuleMatchState) (start : Group → Bool) :
    (branches.map (fun branch => base ||| groupState branch.matched)).foldl (fun union next => union ||| next)
        (base ||| groupState start) = base ||| groupState (fun g => start g || Branch.matched branches.flatten g) := by
  induction branches generalizing start with
  | nil => simp
  | cons branch _ ih =>
    have union : (base ||| groupState start) ||| (base ||| groupState branch.matched) =
        base ||| groupState (fun g => start g || branch.matched g) := by
      apply state_ext
      simp only [has_or, has_group_state]
      grind
    simp [List.map_cons, List.foldl_cons, union, ih, Branch.matched, List.any_append, Bool.or_assoc]

def Realises (stateSet : RuleMatchStateSet) (base : RuleMatchState) (branches : List Branch) : Prop :=
  ∀ target, stateSet.contains target = true ↔
    ∃ branch ∈ branches, branch.admittedBy (fun g => base.has g.flag) = true ∧ target = base ||| groupState branch.matched

theorem realises_base (base : RuleMatchState) : Realises (singleRuleMatchState base) base [[]] := by
  intro target
  constructor
  · simp_all
  · simp_all

theorem realises_nothing (base : RuleMatchState) : Realises 0#16 base [] := by
  intro _
  simp

variable {stateSet : RuleMatchStateSet} {branches : List Branch}

theorem realises_empty_iff {base : RuleMatchState} (body : Realises stateSet base branches) :
    stateSet.isEmpty = true ↔ branches.any (fun branch => branch.admittedBy (fun g => base.has g.flag)) = false := by
  rw [is_empty_iff, List.any_eq_false]
  constructor
  · intro empty branch member admitted
    have present := (body (base ||| groupState branch.matched)).mpr ⟨branch, member, admitted, rfl⟩
    simp [empty] at present
  intro refused target
  rw [← Bool.not_eq_true]
  intro present
  obtain ⟨branch, member, admitted, _⟩ := (body target).mp present
  grind

theorem realises_negate (base : RuleMatchState)
    (body : Realises stateSet 0#4 branches) :
    Realises (if stateSet.isEmpty then singleRuleMatchState base else 0#16) base (negateBranches branches) := by
  have alone := realises_empty_iff body
  simp only [has_zero] at alone
  by_cases empty : stateSet.isEmpty = true
  · simpa [empty, negateBranches, alone.mp empty] using realises_base base
  have some : branches.any (fun branch => branch.admittedBy (fun _ => false)) = true := by simp_all
  simpa [empty, negateBranches, some] using realises_nothing base

section
variable {ρ : Type} (r : AbstractDefaultRule ρ) (metadata : InboundContext) (scope : Scope)
variable (active : metadata.ignoreDestinationIPCIDRMatch = false)
include active

theorem required_eq_part (g : Group) : r.required (underScope metadata scope) g = (r.part metadata scope).required g := by
  cases source : scope.matchSource <;> cases g <;>
    simp [required, part, groupItems, underScope, source,
      requiresSourceAddressMatch, requiresDestinationAddressMatch,
      destinationIPCIDRMatchesSource, destinationIPCIDRMatchesDestination, active,
      isEmpty_append]

theorem provided_eq_part (g : Group) : r.provided (underScope metadata scope) g = (r.part metadata scope).matched g := by
  cases items : r.destinationIPCIDRItems <;> cases source : scope.matchSource <;> cases g <;>
    simp [provided, part, groupItems, underScope, source,
      destinationIPCIDRMatchesSource, destinationIPCIDRMatchesDestination, active,
      matchAnyItem, items]

theorem group_state_provided : groupState (r.provided (underScope metadata scope)) = groupState (r.part metadata scope).matched :=
  congrArg groupState (funext (provided_eq_part r metadata scope active))

theorem allowed_iff_part (state : RuleMatchState) : r.allowed (underScope metadata scope) state = true ↔
      ∀ g, (r.part metadata scope).required g = true → state.has g.flag = true := by
  rw [allowed_iff]
  exact forall_congr' (fun g => by rw [required_eq_part r metadata scope active g])

end

section
variable (metadata : InboundContext) (active : metadata.ignoreDestinationIPCIDRMatch = false)
include active

theorem realises_default_body (r : AbstractDefaultRule Empty) (scope : Scope) (base : RuleMatchState) :
    Realises (r.bodyStates (fun absent => nomatch absent) (underScope metadata scope) base) base
      (if r.items.all (RuleItem.matches (underScope metadata scope)) then [[r.part metadata scope]] else []) := by
  by_cases passed : r.items.all (RuleItem.matches (underScope metadata scope)) = true
  · rw [bodyStates, if_pos passed, if_pos passed, mergedStates,
      group_state_provided r metadata scope active]
    have bare : r.ruleSetItem = none := by
      cases item : r.ruleSetItem with
      | none => rfl
      | some absent => exact absent.elim
    rw [bare]
    intro target
    simp only [contains_filter, contains_single, Bool.and_eq_true, decide_eq_true_eq, List.mem_singleton,
      exists_eq_left, admitted_single, matched_single, allowed_iff_part r metadata scope active, Part.admitted_iff]
    constructor
    · rintro ⟨rfl, allowed⟩
      exact ⟨fun g needed => by simpa using allowed g needed, rfl⟩
    · simp_all
  · simpa [bodyStates, passed, passed] using realises_nothing base

theorem realises_default (r : AbstractDefaultRule Empty) (scope : Scope) (base : RuleMatchState) :
    Realises ((HeadlessRule.default r).matchStatesWithBase (underScope metadata scope) base) base (r.branches metadata scope) := by
  have live : r.deferred (underScope metadata scope) = false := by
    simp [deferred, underScope, active]
  rw [headless_default_states, branches, live, Bool.or_false]
  by_cases bare : r.allItemsEmpty = true
  · simpa [bare, bare] using realises_base base
  rw [if_neg bare, if_neg bare]
  cases r.invert with
  | true => exact realises_negate base (realises_default_body metadata active r scope 0#4)
  | false => exact realises_default_body metadata active r scope base

section
variable {rules : List HeadlessRule} {branches : HeadlessRule → List Branch} {base : RuleMatchState}
  (each : ∀ rule ∈ rules, Realises (rule.matchStatesWithBase metadata.resetRuleCache base) base (branches rule))
include each
omit active

theorem realises_or :
    Realises (mergeNested metadata base (rules.map HeadlessRule.matchStatesWithBase)) base (rules.map branches).flatten := by
  intro target
  rw [contains_merge_nested]
  constructor
  · rintro ⟨matcher, inMatchers, present⟩
    obtain ⟨rule, member, rfl⟩ := List.mem_map.mp inMatchers
    obtain ⟨branch, inBranches, admitted, result⟩ := (each rule member target).mp present
    grind
  rintro ⟨branch, inBranches, admitted, result⟩
  obtain ⟨_, inChoices, chosen⟩ := List.mem_flatten.mp inBranches
  obtain ⟨rule, member, rfl⟩ := List.mem_map.mp inChoices
  exact ⟨_, List.mem_map_of_mem member, (each rule member target).mpr ⟨branch, chosen, admitted, result⟩⟩

theorem picks_iff (picked : List RuleMatchState) :
    Picks metadata base (rules.map HeadlessRule.matchStatesWithBase) picked ↔
      ∃ chosen ∈ List.sections (rules.map branches), (∀ branch ∈ chosen, branch.admittedBy (fun g => base.has g.flag) = true) ∧
        picked = chosen.map (fun branch => base ||| groupState branch.matched) := by
  simp only [List.mem_sections, Picks]
  induction rules generalizing picked with
  | nil => simp
  | cons rule _ ih =>
    have first := each rule List.mem_cons_self
    have later := ih (fun rule member => each rule (List.mem_cons_of_mem _ member))
    rw [List.map_cons, List.forall₂_cons_left_iff]
    constructor
    · rintro ⟨state, states, present, picks, rfl⟩
      obtain ⟨branch, inBranches, admitted, rfl⟩ := (first state).mp present
      obtain ⟨chosen, fits, allAdmitted, rfl⟩ := (later states).mp picks
      exact ⟨branch :: chosen, List.Forall₂.cons inBranches fits, List.forall_mem_cons.mpr ⟨admitted, allAdmitted⟩, rfl⟩
    rintro ⟨chosen, fits, allAdmitted, rfl⟩
    cases fits with
    | cons inBranches fits =>
      obtain ⟨admitted, restAdmitted⟩ := List.forall_mem_cons.mp allAdmitted
      exact ⟨_, _, (first _).mpr ⟨_, inBranches, admitted, rfl⟩, (later _).mpr ⟨_, fits, restAdmitted, rfl⟩, rfl⟩

theorem realises_and :
    Realises ((combineNested metadata base (rules.map HeadlessRule.matchStatesWithBase)
        (singleRuleMatchState base)).getD 0#16) base ((List.sections (rules.map branches)).map List.flatten) := by
  have union (chosen : List Branch) := fold_based_states chosen base (fun _ => false)
  simp only [group_state_nothing, BitVec.or_zero, Bool.false_or] at union
  intro target
  rw [contains_combine_nested]
  constructor
  · rintro ⟨state, picked, start, picks, rfl⟩
    obtain ⟨chosen, fits, admitted, rfl⟩ := (picks_iff metadata each picked).mp picks
    rw [contains_single] at start
    grind [admitted_flatten]
  rintro ⟨_, inBranches, admitted, rfl⟩
  obtain ⟨chosen, fits, rfl⟩ := List.mem_map.mp inBranches
  exact ⟨base, _, by simp, (picks_iff metadata each _).mpr
    ⟨chosen, fits, (admitted_flatten chosen _).mp admitted, rfl⟩, union chosen⟩

end

omit active in
theorem realises_logical (scope : Scope) (rules : List HeadlessRule) (mode : LogicalMode) (invert : Bool) (base : RuleMatchState)
    (each : ∀ rule ∈ rules, ∀ start,
      Realises (rule.matchStatesWithBase (underScope metadata {}) start) start (rule.branches metadata {})) :
    Realises ((HeadlessRule.logical rules mode invert).matchStatesWithBase (underScope metadata scope) base) base
      ((HeadlessRule.logical rules mode invert).branches metadata {}) := by
  have body (start : RuleMatchState) : Realises
      (logicalBody mode (rules.map HeadlessRule.matchStatesWithBase) (underScope metadata scope) start) start
      (logicalBranches mode false (rules.map (fun rule => rule.branches metadata {}))) := by
    have parts (rule : HeadlessRule) (member : rule ∈ rules) := each rule member start
    cases mode with
    | and => exact realises_and (underScope metadata scope) parts
    | or => exact realises_or (underScope metadata scope) parts
  rw [headless_logical_states, HeadlessRule.branches, HeadlessRule.branchesBy, sub_branches_eq_map]
  cases invert with
  | true => exact realises_negate base (body 0#4)
  | false => exact body base

theorem realises_headless (rule : HeadlessRule) (scope : Scope) (base : RuleMatchState) :
    Realises (rule.matchStatesWithBase (underScope metadata scope) base) base (rule.branches metadata (rule.scopeInside scope)) := by
  have plain (rule : HeadlessRule) : ∀ start,
      Realises (rule.matchStatesWithBase (underScope metadata {}) start) start (rule.branches metadata {}) := by
    induction rule using HeadlessRule.induction_on with
    | default r => exact realises_default metadata active r {}
    | logical rules mode invert each => exact fun start => realises_logical metadata {} rules mode invert start each
  cases rule with
  | default r => exact realises_default metadata active r scope base
  | logical rules mode invert =>
    exact realises_logical metadata scope rules mode invert base (fun rule _ start => plain rule start)

theorem rule_set_item_states (item : RuleSetItem) (scope : Scope) (base target : RuleMatchState) :
    (item.matchStatesWithBase (underScope metadata scope) base).contains target = true ↔
      ∃ ruleSet ∈ item.setList, ∃ headless ∈ ruleSet.rules,
        ∃ branch ∈ headless.branches metadata (headless.scopeInside item.scope),
        branch.admittedBy (fun g => base.has g.flag) = true ∧ target = base ||| groupState branch.matched := by
  rw [contains_rule_set_item]
  simp only [nested_metadata_under_scope, realises_headless metadata active _ item.scope base target]

end

theorem completed_iff {ρ : Type} (r : AbstractDefaultRule ρ) (metadata : InboundContext) (matched : Group → Bool) :
    r.completedBy metadata matched = true ↔
      ∀ g, (r.part metadata {}).required g = true → ((r.part metadata {}).matched g || matched g) = true := by
  simp only [completedBy, List.all_eq_true, mem_all, forall_const]
  refine forall_congr' (fun g => ?_)
  cases (r.part metadata {}).required g <;> simp

section
variable (rule : DefaultRule) (metadata : InboundContext) (active : metadata.ignoreDestinationIPCIDRMatch = false)
include active

theorem merged_states_iff (target : RuleMatchState) :
    (rule.mergedStates RuleSetItem.matchStatesWithBase (underScope metadata {})
        (groupState (rule.part metadata {}).matched)).contains target = true ↔
      match rule.ruleSetItem with
      | none => target = groupState (rule.part metadata {}).matched
      | some item =>
        ∃ ruleSet ∈ item.setList, ∃ headless ∈ ruleSet.rules,
          ∃ branch ∈ headless.branches metadata (headless.scopeInside item.scope),
            branch.admittedBy (rule.part metadata {}).matched = true ∧
              target = groupState (rule.part metadata {}).matched ||| groupState branch.matched := by
  cases present : rule.ruleSetItem with
  | none => simp [mergedStates, present, eq_comm]
  | some =>
    simp only [mergedStates, present]
    rw [rule_set_item_states metadata active]
    simp only [has_group_state]

theorem body_states_iff : (!(rule.bodyStates RuleSetItem.matchStatesWithBase (underScope metadata {}) 0#4).isEmpty) = true ↔
      rule.holds HeadlessRule.scopeInside metadata = true := by
  by_cases passed : rule.items.all (RuleItem.matches (underScope metadata {})) = true
  · rw [bodyStates, if_pos passed, DefaultRule.holds, passed, Bool.true_and, BitVec.zero_or,
      group_state_provided rule metadata {} active, not_is_empty_iff]
    simp only [contains_filter, Bool.and_eq_true, merged_states_iff rule metadata active,
      allowed_iff_part rule metadata {} active]
    cases rule.ruleSetItem with
    | none => simp [completed_iff]
    | some =>
      simp only [List.any_eq_true, Bool.and_eq_true, completed_iff]
      constructor
      · rintro ⟨_, ⟨ruleSet, inSets, headless, inRules, branch, inBranches, admitted, rfl⟩, allowed⟩
        exact ⟨ruleSet, inSets, headless, inRules, branch, inBranches, admitted, by simpa using allowed⟩
      rintro ⟨ruleSet, inSets, headless, inRules, branch, inBranches, admitted, completed⟩
      exact ⟨_, ⟨ruleSet, inSets, headless, inRules, branch, inBranches, admitted, rfl⟩, by simpa using completed⟩
  have failed : rule.items.all (RuleItem.matches (underScope metadata {})) = false := by simpa using passed
  simp [bodyStates, DefaultRule.holds, failed, is_empty_zero]

omit active in
theorem bare_holds (bare : rule.allItemsEmpty = true) : rule.holds HeadlessRule.scopeInside metadata = true := by
  rw [bare_eq rule bare]
  simp only [DefaultRule.holds, List.all_nil, Bool.true_and, completed_iff]
  intro g
  cases g <;> simp [part, groupItems]

theorem matches_eq : rule.matches (underScope metadata {}) =
    (rule.allItemsEmpty || (rule.invert != rule.holds HeadlessRule.scopeInside metadata)) := by
  have live : rule.deferred (underScope metadata {}) = false := by
    simp [deferred, underScope, active]
  have body := body_states_iff rule metadata active
  rw [← Bool.eq_iff_iff] at body
  rw [DefaultRule.matches, matchStates, match_states_with_base_eq matchStatesWithBase rule rule_set_item_blind, live, ← body]
  cases rule.allItemsEmpty <;> cases rule.invert <;> grind [single_not_empty, is_empty_zero]

theorem matches_eq_holds (plain : rule.invert = false) :
    rule.matches (underScope metadata {}) = rule.holds HeadlessRule.scopeInside metadata := by
  rw [matches_eq rule metadata active, plain, Bool.false_bne]
  cases bare : rule.allItemsEmpty with
  | true => rw [bare_holds rule metadata bare, Bool.or_self]
  | false => rfl

end

-- The default rules that the evaluation comes to have the same branches in both
-- readings. An and rule stops at the first sub-rule without an admitted branch.
mutual
def HeadlessRule.ReadAlike (left right : AbstractDefaultRule Empty → List Branch) : HeadlessRule → (Group → Bool) → Prop
  | .default rule, _ => left rule = right rule
  | .logical rules mode invert, outer => HeadlessRule.AllReadAlike left right mode (fun g => !invert && outer g) rules
def HeadlessRule.AllReadAlike (left right : AbstractDefaultRule Empty → List Branch) (mode : LogicalMode) (outer : Group → Bool) :
    List HeadlessRule → Prop
  | [] => True
  | rule :: rest => rule.ReadAlike left right outer ∧
      ((mode = .or ∨ (rule.branchesBy right).any (fun branch => branch.admittedBy outer) = true) →
        HeadlessRule.AllReadAlike left right mode outer rest)
end

-- What an admitted branch matches, which is all that a rule above it sees.
def Yields (outer : Group → Bool) (branches : List Branch) (matched : Group → Bool) : Prop :=
  ∃ branch ∈ branches, branch.admittedBy outer = true ∧ branch.matched = matched

section
variable {outer : Group → Bool} {left right : List Branch}

theorem any_yields (outer : Group → Bool) (branches : List Branch) (ends : (Group → Bool) → Bool) :
    branches.any (fun branch => branch.admittedBy outer && ends branch.matched) = true ↔
      ∃ matched, Yields outer branches matched ∧ ends matched = true := by
  simp only [List.any_eq_true, Bool.and_eq_true, Yields]
  constructor
  · rintro ⟨branch, member, admitted, ended⟩
    exact ⟨_, ⟨branch, member, admitted, rfl⟩, ended⟩
  · rintro ⟨_, ⟨branch, member, admitted, rfl⟩, ended⟩
    exact ⟨branch, member, admitted, ended⟩

theorem any_same_yields (same : ∀ matched, Yields outer left matched ↔ Yields outer right matched) (ends : (Group → Bool) → Bool) :
    left.any (fun branch => branch.admittedBy outer && ends branch.matched) =
      right.any (fun branch => branch.admittedBy outer && ends branch.matched) := by
  rw [Bool.eq_iff_iff, any_yields, any_yields]
  simp only [same]

theorem admitted_yields : left.any (fun branch => branch.admittedBy outer) = true ↔ ∃ matched, Yields outer left matched := by
  simpa using any_yields outer left (fun _ => true)

theorem negate_same_yields (same : ∀ matched, Yields (fun _ => false) left matched ↔ Yields (fun _ => false) right matched) :
    negateBranches left = negateBranches right := by
  have any := any_same_yields same (fun _ => true)
  simp only [Bool.and_true] at any
  rw [negateBranches, negateBranches, any]

theorem yields_sections (first : List Branch) (rest : List (List Branch)) (matched : Group → Bool) :
    Yields outer ((List.sections (first :: rest)).map List.flatten) matched ↔ ∃ here later, Yields outer first here ∧
      Yields outer ((List.sections rest).map List.flatten) later ∧ matched = fun g => here g || later g := by
  have append (branch later : Branch) :
      Branch.admittedBy (branch ++ later) outer = (branch.admittedBy outer && later.admittedBy outer) ∧
      Branch.matched (branch ++ later) = fun g => branch.matched g || later.matched g := by
    simp [Branch.admittedBy, Branch.matched, funext_iff]
  simp only [Yields, List.mem_map, List.mem_sections, List.forall₂_cons_right_iff]
  constructor
  · rintro ⟨_, ⟨_, ⟨branch, chosen, member, fits, rfl⟩, rfl⟩, admitted, rfl⟩
    rw [List.flatten_cons, (append _ _).1, Bool.and_eq_true] at admitted
    exact ⟨_, _, ⟨branch, member, admitted.1, rfl⟩, ⟨_, ⟨chosen, fits, rfl⟩, admitted.2, rfl⟩, (append _ _).2⟩
  · rintro ⟨_, _, ⟨branch, member, admitted, rfl⟩, ⟨_, ⟨chosen, fits, rfl⟩, later, rfl⟩, rfl⟩
    refine ⟨_, ⟨_, ⟨branch, chosen, member, fits, rfl⟩, rfl⟩, ?_, (append _ _).2⟩
    rw [List.flatten_cons, (append _ _).1, admitted, later, Bool.and_true]

end

section
variable {left right : AbstractDefaultRule Empty → List Branch} {outer : Group → Bool} {rules : List HeadlessRule}

theorem same_yields_body (mode : LogicalMode)
    (each : ∀ rule ∈ rules, rule.ReadAlike left right outer → ∀ matched,
      Yields outer (rule.branchesBy left) matched ↔ Yields outer (rule.branchesBy right) matched)
    (alike : HeadlessRule.AllReadAlike left right mode outer rules) :
    ∀ matched, Yields outer (logicalBranches mode false (rules.map (HeadlessRule.branchesBy left))) matched ↔
      Yields outer (logicalBranches mode false (rules.map (HeadlessRule.branchesBy right))) matched := by
  induction rules with
  | nil => exact fun _ => Iff.rfl
  | cons rule rest ih =>
    have first := each rule List.mem_cons_self alike.1
    have later := fun goes => ih (fun other member => each other (List.mem_cons_of_mem _ member)) (alike.2 goes)
    intro matched
    cases mode with
    | or =>
      have rest := later (.inl rfl) matched
      simp only [Yields, logicalBranches, Bool.false_eq_true, if_false, List.map_cons, List.flatten_cons, List.mem_append,
        or_and_right, exists_or] at rest ⊢
      exact or_congr (first matched) rest
    | and =>
      simp only [logicalBranches, Bool.false_eq_true, if_false, List.map_cons, yields_sections, first] at later ⊢
      -- what stands behind a sub-rule without an admitted branch counts in neither reading
      refine exists_congr (fun here => exists_congr (fun behind => and_congr_right (fun taken => ?_)))
      rw [later (.inr (admitted_yields.mpr ⟨here, taken⟩))]

theorem same_yields (rule : HeadlessRule) : ∀ outer, rule.ReadAlike left right outer →
    ∀ matched,
      Yields outer (rule.branchesBy left) matched ↔ Yields outer (rule.branchesBy right) matched := by
  induction rule using HeadlessRule.induction_on with
  | default r =>
    intro outer alike
    rw [HeadlessRule.branchesBy, HeadlessRule.branchesBy, show left r = right r from alike]
    exact fun _ => Iff.rfl
  | logical rules mode invert each =>
    intro outer alike
    have body := same_yields_body mode (fun rule member => each rule member _) alike
    rw [HeadlessRule.branchesBy, HeadlessRule.branchesBy, sub_branches_eq_map, sub_branches_eq_map]
    cases invert with
    | true =>
      have same := negate_same_yields body
      simp only [logicalBranches, if_true, Bool.false_eq_true, if_false] at same ⊢
      rw [same]
      exact fun _ => Iff.rfl
    | false => exact body

end

def DefaultRule.FlagsReachItems (rule : DefaultRule) (metadata : InboundContext) : Prop :=
  rule.items.all (RuleItem.matches (underScope metadata {})) = true → ∀ item, rule.ruleSetItem = some item →
    ∀ ruleSet ∈ item.setList, ∀ headless ∈ ruleSet.rules,
      headless.ReadAlike (fun inner => inner.branches metadata (headless.scopeInside item.scope))
        (fun inner => inner.branches metadata item.scope) (rule.part metadata {}).matched

theorem documented_eq (rule : DefaultRule) (metadata : InboundContext) (reach : rule.FlagsReachItems metadata) :
    rule.holds HeadlessRule.scopeInside metadata = rule.documentedHolds metadata := by
  rw [DefaultRule.documentedHolds, DefaultRule.holds, DefaultRule.holds]
  cases passed : rule.items.all (RuleItem.matches (underScope metadata {})) with
  | false => rfl
  | true =>
    cases present : rule.ruleSetItem with
    | none => rfl
    | some item =>
      refine congrArg (true && ·) (any_congr_of_mem (fun ruleSet inSets => any_congr_of_mem (fun headless inRules => ?_)))
      exact any_same_yields (same_yields headless _ (reach passed item present ruleSet inSets headless inRules)) _

theorem default_rule_merge_semantics (rule : DefaultRule) (metadata : InboundContext) (plain : rule.invert = false)
    (active : metadata.ignoreDestinationIPCIDRMatch = false) (fresh : metadata.resetRuleCache = metadata) :
    rule.matches metadata = rule.holds HeadlessRule.scopeInside metadata ∧
      (rule.FlagsReachItems metadata → rule.matches metadata = rule.documentedHolds metadata) := by
  have exact_meaning : rule.matches metadata = rule.holds HeadlessRule.scopeInside metadata := by
    grind [matches_eq_holds, reset_eq_under_scope]
  refine ⟨exact_meaning, ?_⟩
  intro reach
  rw [exact_meaning, documented_eq rule metadata reach]

-- A rule-set used with rule_set_ip_cidr_match_source whose only rule is a
-- logical rule over one ip_cidr item, asked about a source address inside it.
def nestedCIDRRule : DefaultRule where
  ruleSetItem := some
    { setList := [{ rules := [.logical [.default { destinationIPCIDRItems := [.ipCIDR (fun a => a == .v4 0x0a000001#32) false] }]
        .or false] }]
      ipCidrMatchSource := true }

def connectionFromInside : InboundContext where
  source := { addr := .v4 0x0a000001#32 }
  destination := { fqdn := "example.com" }

theorem logical_rule_loses_match_source :
    ¬ ∀ (rule : DefaultRule) (metadata : InboundContext), rule.invert = false →
      metadata.ignoreDestinationIPCIDRMatch = false → metadata.resetRuleCache = metadata →
        rule.matches metadata = rule.documentedHolds metadata := by
  intro claim
  have same := claim nestedCIDRRule connectionFromInside rfl rfl rfl
  have code : nestedCIDRRule.matches connectionFromInside = false := by decide
  have documented : nestedCIDRRule.documentedHolds connectionFromInside = true := by decide
  simp [code, documented] at same

def flatCIDRRule : DefaultRule where
  ruleSetItem := some
    { setList := [{ rules := [.default { destinationIPCIDRItems := [.ipCIDR (fun a => a == .v4 0x0a000001#32) false] }] }]
      ipCidrMatchSource := true }

theorem flat_rule_set_matches_source :
    flatCIDRRule.documentedHolds connectionFromInside = true ∧
      flatCIDRRule.matches connectionFromInside = flatCIDRRule.documentedHolds connectionFromInside :=
  ⟨by decide, (default_rule_merge_semantics flatCIDRRule connectionFromInside rfl rfl rfl).2 (by
    intro _ item present ruleSet inSets headless inRules
    cases present
    cases List.mem_singleton.mp inSets
    cases List.mem_singleton.mp inRules
    rfl)⟩

end OtunKernel.Rule
