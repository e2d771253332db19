import OtunKernel.Rule.LogicalSpec

namespace OtunKernel.Rule

open AbstractDefaultRule

def RuleMatchState.within (base state : RuleMatchState) : Prop := state ||| base = state

instance (base state : RuleMatchState) : Decidable (base.within state) := inferInstanceAs (Decidable (_ = _))

theorem within_refl (base : RuleMatchState) : base.within base := BitVec.or_self

variable {base state wider : RuleMatchState}

theorem within_or (inside : base.within state) (more : RuleMatchState) : base.within (state ||| more) := by
  rw [RuleMatchState.within, BitVec.or_assoc, BitVec.or_comm more, ← BitVec.or_assoc, inside]

theorem or_wider (inside : base.within wider) (more : RuleMatchState) : base ||| more ||| wider = wider ||| more := by
  rw [BitVec.or_comm, ← BitVec.or_assoc, inside]

def Grows (matcher : Matcher) : Prop :=
  ∀ metadata base wider, RuleMatchState.within base wider → ∀ state, (matcher metadata base).contains state = true →
    base.within state ∧ (matcher metadata wider).contains (state ||| wider) = true

theorem single_grows (inside : base.within wider) (present : (singleRuleMatchState base).contains state = true) :
    base.within state ∧ (singleRuleMatchState wider).contains (state ||| wider) = true := by
  simp only [contains_single, decide_eq_true_eq] at present ⊢
  subst present
  refine ⟨within_refl base, ?_⟩
  rw [BitVec.or_comm]
  exact inside.symm

theorem inverted_grows {succeeds : Bool} (inside : base.within wider)
    (present : RuleMatchStateSet.contains (if succeeds then singleRuleMatchState base else 0#16) state = true) :
    base.within state ∧
      RuleMatchStateSet.contains (if succeeds then singleRuleMatchState wider else 0#16) (state ||| wider) = true := by
  by_cases here : succeeds = true
  · grind [single_grows]
  · simp_all

variable {metadata : InboundContext} {rules : List Matcher}

theorem allowed_or {ρ : Type} {r : AbstractDefaultRule ρ}
    (allowed : r.allowed metadata state = true) (more : RuleMatchState) : r.allowed metadata (state ||| more) = true := by
  simp_all [allowed_iff]

theorem grows_body (matchRuleSet : Empty → Matcher) (rule : AbstractDefaultRule Empty) : Grows (rule.bodyStates matchRuleSet) := by
  intro metadata base wider inside state present
  have alone : ∀ start, rule.mergedStates matchRuleSet metadata start = singleRuleMatchState start := by
    grind [mergedStates]
  by_cases passed : rule.items.all (RuleItem.matches metadata) = true
  · simp only [bodyStates, if_pos passed, alone, contains_filter, contains_single, Bool.and_eq_true,
      decide_eq_true_eq] at present ⊢
    obtain ⟨rfl, allowed⟩ := present
    refine ⟨within_or (within_refl base) _, ?_, allowed_or allowed wider⟩
    exact (or_wider inside _).symm
  · simp_all [bodyStates, contains_zero]

theorem grows_default (rule : AbstractDefaultRule Empty) : Grows (HeadlessRule.default rule).matchStatesWithBase := by
  intro metadata base wider inside state present
  rw [headless_default_states] at present ⊢
  by_cases bare : rule.allItemsEmpty = true
  · grind [single_grows]
  rw [if_neg bare] at present ⊢
  by_cases inverted : rule.invert = true
  · rw [if_pos inverted] at present ⊢
    exact inverted_grows inside present
  rw [if_neg inverted] at present ⊢
  exact grows_body _ rule metadata base wider inside state present

theorem fold_or_wider (picked : List RuleMatchState) (start wider : RuleMatchState) :
    (picked.map (· ||| wider)).foldl (· ||| ·) (start ||| wider) = picked.foldl (· ||| ·) start ||| wider := by
  induction picked generalizing start with
  | nil => rfl
  | cons state _ ih => grind

theorem within_fold {start : RuleMatchState} (inside : base.within start) (picked : List RuleMatchState) :
    base.within (picked.foldl (· ||| ·) start) := by
  induction picked generalizing start with
  | nil => exact inside
  | cons state _ ih => exact ih (within_or inside state)

theorem picks_wider (each : ∀ rule ∈ rules, Grows rule) (inside : base.within wider) {picked : List RuleMatchState}
    (picks : Picks metadata base rules picked) : Picks metadata wider rules (picked.map (· ||| wider)) := by
  induction picks with
  | nil => exact List.Forall₂.nil
  | @cons rule state _ _ head _ ih =>
    refine List.Forall₂.cons ?_ (ih (fun rule member => each rule (List.mem_cons_of_mem _ member)))
    exact (each rule List.mem_cons_self _ base wider inside state head).2

theorem grows_logical_body (mode : LogicalMode) (each : ∀ rule ∈ rules, Grows rule) : Grows (logicalBody mode rules) := by
  intro metadata base wider inside state present
  cases mode with
  | and =>
    rw [logicalBody, contains_combine_nested] at present ⊢
    obtain ⟨start, picked, single, picks, rfl⟩ := present
    have same : base = start := by simpa using single
    subst same
    refine ⟨within_fold (within_refl base) picked, wider, picked.map (· ||| wider), by simp, picks_wider each inside picks, ?_⟩
    have whole : base ||| wider = wider := (BitVec.or_comm base wider).trans inside
    grind [fold_or_wider]
  | or =>
    rw [logicalBody, contains_merge_nested] at present ⊢
    obtain ⟨rule, member, present⟩ := present
    obtain ⟨kept, widened⟩ := each rule member _ base wider inside state present
    grind

theorem grows_headless (rule : HeadlessRule) : Grows rule.matchStatesWithBase := by
  induction rule using HeadlessRule.induction_on with
  | default rule => exact grows_default rule
  | logical _ mode invert each =>
    intro metadata base wider inside state present
    rw [headless_logical_states] at present ⊢
    by_cases inverted : invert = true
    · rw [if_pos inverted] at present ⊢
      exact inverted_grows inside present
    rw [if_neg inverted] at present ⊢
    refine grows_logical_body mode ?_ metadata base wider inside state present
    grind

theorem grows_rule_set (ruleSet : RuleSet) : Grows ruleSet.matchStatesWithBase := by
  intro metadata base wider inside state present
  rw [contains_rule_set] at present ⊢
  obtain ⟨rule, member, present⟩ := present
  obtain ⟨kept, widened⟩ := grows_headless rule _ base wider inside state present
  grind

theorem outer_matches_never_fail (rule : HeadlessRule) (ruleSet : RuleSet) (metadata : InboundContext) {base wider : RuleMatchState}
    (inside : base.within wider) :
    (∀ state, (rule.matchStatesWithBase metadata base).contains state = true →
      base.within state ∧ (rule.matchStatesWithBase metadata wider).contains (state ||| wider) = true) ∧
    ((ruleSet.matchStatesWithBase metadata base).isEmpty = false → (ruleSet.matchStatesWithBase metadata wider).isEmpty = false) := by
  refine ⟨grows_headless rule metadata base wider inside, ?_⟩
  intro some_state
  rw [← Bool.not_eq_true', not_is_empty_iff] at some_state ⊢
  obtain ⟨state, present⟩ := some_state
  exact ⟨_, (grows_rule_set ruleSet metadata base wider inside state present).2⟩

def invertedPort : HeadlessRule := .default { destinationPortItems := [.port [53] false], invert := true }

theorem outer_matches_never_fail_example :
    (invertedPort.matchStatesWithBase {} 0#4).contains 0#4 = true ∧
      (invertedPort.matchStatesWithBase {} ruleMatchDestinationPort).contains ruleMatchDestinationPort = true := by
  have present : (invertedPort.matchStatesWithBase {} 0#4).contains 0#4 = true := by decide
  exact ⟨present, ((outer_matches_never_fail invertedPort ⟨[], {}⟩ {} (by decide)).1 0#4 present).2⟩

end OtunKernel.Rule
