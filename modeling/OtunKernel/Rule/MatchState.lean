import OtunKernel.Lib.BitSet

namespace OtunKernel.Rule

open Lib

-- A state is the set of address and port groups matched so far. The source
-- keeps it in a byte, of which four flag bits are used, and a set of states in
-- a 16-bit word indexed by the state.
abbrev RuleMatchState := BitVec 4
abbrev RuleMatchStateSet := BitVec 16

def ruleMatchSourceAddress : RuleMatchState := 1#4 <<< 0
def ruleMatchSourcePort : RuleMatchState := 1#4 <<< 1
def ruleMatchDestinationAddress : RuleMatchState := 1#4 <<< 2
def ruleMatchDestinationPort : RuleMatchState := 1#4 <<< 3

def RuleMatchState.has (s target : RuleMatchState) : Bool := s &&& target != 0#4

def ruleMatchStates : List RuleMatchState := (List.range 16).map (BitVec.ofNat 4)

def singleRuleMatchState (state : RuleMatchState) : RuleMatchStateSet := single 16 state.toNat

def emptyRuleMatchState : RuleMatchStateSet := singleRuleMatchState 0#4

def RuleMatchStateSet.isEmpty (s : RuleMatchStateSet) : Bool := s == 0#16

def RuleMatchStateSet.contains (s : RuleMatchStateSet) (state : RuleMatchState) : Bool := member s state.toNat

def RuleMatchStateSet.add (s : RuleMatchStateSet) (state : RuleMatchState) : RuleMatchStateSet :=
  s ||| singleRuleMatchState state

def RuleMatchStateSet.merge (s other : RuleMatchStateSet) : RuleMatchStateSet := s ||| other

def RuleMatchStateSet.combine (s other : RuleMatchStateSet) : RuleMatchStateSet :=
  if s.isEmpty || other.isEmpty then 0#16
  else
    ruleMatchStates.foldl (fun combined left =>
      if !s.contains left then combined
      else ruleMatchStates.foldl (fun combined right =>
        if !other.contains right then combined else combined.add (left ||| right)) combined) 0#16

def RuleMatchStateSet.withBase (s : RuleMatchStateSet) (base : RuleMatchState) : RuleMatchStateSet :=
  if s.isEmpty then 0#16
  else
    ruleMatchStates.foldl (fun withBase state =>
      if !s.contains state then withBase else withBase.add (state ||| base)) 0#16

def RuleMatchStateSet.filter (s : RuleMatchStateSet) (allowed : RuleMatchState → Bool) : RuleMatchStateSet :=
  ruleMatchStates.foldl (fun filtered state =>
    if !s.contains state then filtered
    else if allowed state then filtered.add state else filtered) 0#16

theorem mem_rule_match_states (state : RuleMatchState) : state ∈ ruleMatchStates := by
  revert state
  decide

@[simp] theorem contains_zero (state : RuleMatchState) : RuleMatchStateSet.contains 0#16 state = false :=
  member_zero _

@[simp] theorem contains_single (state target : RuleMatchState) :
    (singleRuleMatchState state).contains target = decide (state = target) := by
  simp [RuleMatchStateSet.contains, singleRuleMatchState, member_single _ _ state.isLt, BitVec.toNat_inj]

@[simp] theorem contains_empty_state (target : RuleMatchState) : emptyRuleMatchState.contains target = decide (0#4 = target) :=
  contains_single 0#4 target

@[simp] theorem contains_merge (s other : RuleMatchStateSet) (target : RuleMatchState) :
    (s.merge other).contains target = (s.contains target || other.contains target) :=
  member_or s other _

theorem set_eq_of_contains (s other : RuleMatchStateSet)
    (same : ∀ state, s.contains state = other.contains state) : s = other := by
  apply set_ext
  intro i bound
  simpa [RuleMatchStateSet.contains, Nat.mod_eq_of_lt bound] using same (BitVec.ofNat 4 i)

theorem is_empty_zero : RuleMatchStateSet.isEmpty 0#16 = true := by
  decide

theorem contains_merge_all {α : Type} (items : List α) (states : α → RuleMatchStateSet) (s : RuleMatchStateSet)
    (target : RuleMatchState) : (items.foldl (fun stateSet item => stateSet.merge (states item)) s).contains target =
      (s.contains target || items.any (fun item => (states item).contains target)) := by
  induction items generalizing s with
  | nil => simp
  | cons _ _ ih => rw [List.foldl_cons, ih, contains_merge, List.any_cons, Bool.or_assoc]

inductive Group where
  | sourceAddress
  | sourcePort
  | destinationAddress
  | destinationPort
deriving DecidableEq, Repr

def Group.flag : Group → RuleMatchState
  | .sourceAddress => ruleMatchSourceAddress
  | .sourcePort => ruleMatchSourcePort
  | .destinationAddress => ruleMatchDestinationAddress
  | .destinationPort => ruleMatchDestinationPort

section
variable (s : RuleMatchStateSet)

@[simp] theorem contains_add (state target : RuleMatchState) :
    (s.add state).contains target = (s.contains target || decide (state = target)) := by
  have added := contains_merge s (singleRuleMatchState state) target
  rwa [contains_single] at added

theorem is_empty_eq_zero : s.isEmpty = true ↔ s = 0#16 := by
  simp [RuleMatchStateSet.isEmpty]

theorem is_empty_iff : s.isEmpty = true ↔ ∀ state, s.contains state = false := by
  constructor
  · intro empty state
    rw [(is_empty_eq_zero s).mp empty, contains_zero]
  intro none
  simpa [is_empty_eq_zero] using set_eq_of_contains s 0#16 (fun state => by rw [none, contains_zero])

theorem not_is_empty_iff : (!s.isEmpty) = true ↔ ∃ state, s.contains state = true := by
  rw [Bool.not_eq_true', ← Bool.not_eq_true, is_empty_iff]
  simp

theorem contains_with_base (base target : RuleMatchState) :
    (s.withBase base).contains target = true ↔ ∃ state, s.contains state = true ∧ state ||| base = target := by
  by_cases empty : s.isEmpty = true
  · simp [RuleMatchStateSet.withBase, empty, contains_zero, (is_empty_iff s).mp empty]
  rw [RuleMatchStateSet.withBase, if_neg empty]
  have scan := member_scan ruleMatchStates s.contains (fun (acc : RuleMatchStateSet) state => acc.add (state ||| base))
    (fun state _ => decide (state ||| base = target)) target.toNat
    (fun acc state _ => contains_add acc (state ||| base) target) 0#16
  rw [member_zero] at scan
  rw [RuleMatchStateSet.contains, scan]
  simp [mem_rule_match_states]

@[simp] theorem contains_filter (allowed : RuleMatchState → Bool) (target : RuleMatchState) :
    (s.filter allowed).contains target = (s.contains target && allowed target) := by
  have scan := member_scan ruleMatchStates s.contains
    (fun (acc : RuleMatchStateSet) state => if allowed state then acc.add state else acc)
    (fun state _ => allowed state && decide (state = target)) target.toNat
    (fun acc state _ => by
      cases pass : allowed state with
      | false => simp
      | true =>
        exact contains_add acc state target) 0#16
  rw [member_zero, Bool.false_or] at scan
  rw [RuleMatchStateSet.filter, RuleMatchStateSet.contains, scan, Bool.eq_iff_iff]
  simp only [List.any_eq_true, Bool.and_eq_true, decide_eq_true_eq, mem_rule_match_states, true_and]
  simp

end

theorem contains_combine (s other : RuleMatchStateSet) (target : RuleMatchState) : (s.combine other).contains target = true ↔
      ∃ left right, s.contains left = true ∧ other.contains right = true ∧ left ||| right = target := by
  by_cases empty : (s.isEmpty || other.isEmpty) = true
  · rw [RuleMatchStateSet.combine, if_pos empty]
    rw [Bool.or_eq_true] at empty
    constructor
    · simp
    rintro ⟨left, right, inLeft, inRight, _⟩
    cases empty with
    | inl none => rw [(is_empty_iff s).mp none left] at inLeft; contradiction
    | inr none => rw [(is_empty_iff other).mp none right] at inRight; contradiction
  rw [RuleMatchStateSet.combine, if_neg empty]
  -- The inner loop adds left ||| right for every member right; the outer
  -- loop does so for every member left.
  have inner : ∀ left (combined : RuleMatchStateSet),
      (ruleMatchStates.foldl (fun combined right =>
        if !other.contains right then combined else combined.add (left ||| right)) combined).contains target =
      (combined.contains target ||
        ruleMatchStates.any (fun right => other.contains right && decide (left ||| right = target))) := by
    intro left combined
    exact member_scan ruleMatchStates other.contains (fun (acc : RuleMatchStateSet) right => acc.add (left ||| right))
      (fun right _ => decide (left ||| right = target)) target.toNat
      (fun acc right _ => contains_add acc (left ||| right) target) combined
  have outer := member_scan ruleMatchStates s.contains
    (fun (combined : RuleMatchStateSet) left => ruleMatchStates.foldl (fun (combined : RuleMatchStateSet) right =>
      if !other.contains right then combined else combined.add (left ||| right)) combined)
    (fun left _ => ruleMatchStates.any (fun right => other.contains right && decide (left ||| right = target)))
    target.toNat (fun acc left _ => inner left acc) 0#16
  rw [member_zero, Bool.false_or] at outer
  rw [RuleMatchStateSet.contains, outer]
  simp only [List.any_eq_true, Bool.and_eq_true, decide_eq_true_eq, mem_rule_match_states, true_and]
  simp

theorem empty_state_with_base (base : RuleMatchState) : emptyRuleMatchState.withBase base = singleRuleMatchState base := by
  apply set_eq_of_contains
  intro target
  rw [Bool.eq_iff_iff, contains_with_base]
  simp

theorem single_not_empty (state : RuleMatchState) : (singleRuleMatchState state).isEmpty = false := by
  have present : (!(singleRuleMatchState state).isEmpty) = true := (not_is_empty_iff _).mpr ⟨state, by simp⟩
  simpa using present

@[simp] theorem has_or (a b target : RuleMatchState) : RuleMatchState.has (a ||| b) target = (a.has target || b.has target) := by
  have split : (a ||| b) &&& target = (a &&& target) ||| (b &&& target) := by grind
  rw [Bool.eq_iff_iff]
  simpa [RuleMatchState.has, split, bne_iff_ne, ne_eq, BitVec.or_eq_zero_iff] using not_and_or

@[simp] theorem has_zero (target : RuleMatchState) : RuleMatchState.has 0#4 target = false := by
  revert target
  decide

@[simp] theorem flag_has_flag (g h : Group) : (g.flag).has h.flag = decide (g = h) := by
  cases g <;> cases h <;> decide

theorem state_ext (a b : RuleMatchState) (same : ∀ g : Group, a.has g.flag = b.has g.flag) : a = b := by
  have source := same .sourceAddress
  have sourcePort := same .sourcePort
  have destination := same .destinationAddress
  have destinationPort := same .destinationPort
  clear same
  revert a b
  decide

end OtunKernel.Rule
