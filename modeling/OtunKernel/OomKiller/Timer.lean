import Mathlib.Algebra.Order.Ring.Nat

namespace OtunKernel.OomKiller

inductive PressureState where
  | normal
  | armed
  | triggered
deriving DecidableEq

structure PressureThresholds where
  trigger : Nat
  armed : Nat
  resume : Nat

def computeLimitThresholds (memoryLimit safetyMargin : Nat) : PressureThresholds :=
  let triggerMargin := min safetyMargin memoryLimit
  let armedMargin := min (triggerMargin * 2 % 2 ^ 64) memoryLimit
  let resumeMargin := min (triggerMargin * 4 % 2 ^ 64) memoryLimit
  { trigger := memoryLimit - triggerMargin, armed := memoryLimit - armedMargin, resume := memoryLimit - resumeMargin }

def nextPressureState (current : PressureState) (shouldTrigger shouldArm shouldStayTriggered : Bool) : PressureState :=
  if current = .triggered then if shouldStayTriggered then .triggered else .normal
  else if shouldTrigger then .triggered
  else if shouldArm then .armed
  else .normal

def nextState (thresholds : PressureThresholds) (state : PressureState) (usage : Nat) : PressureState :=
  nextPressureState state (thresholds.trigger ≤ usage) (thresholds.armed ≤ usage) (thresholds.resume ≤ usage)

-- The samples stand with the latest one first.
def stateAfter (thresholds : PressureThresholds) : List Nat → PressureState
  | [] => .normal
  | usage :: before => nextState thresholds (stateAfter thresholds before) usage

-- What poll decides at a sample, apart from the growth rate.
def Fires (thresholds : PressureThresholds) (usage : Nat) (before : List Nat) : Prop :=
  stateAfter thresholds before ≠ .triggered ∧ stateAfter thresholds (usage :: before) = .triggered

def FiredSinceResume (thresholds : PressureThresholds) : List Nat → Prop
  | [] => False
  | usage :: before => thresholds.resume ≤ usage ∧ (Fires thresholds usage before ∨ FiredSinceResume thresholds before)

variable {thresholds : PressureThresholds}

theorem triggered_cons (usage : Nat) (before : List Nat) : stateAfter thresholds (usage :: before) = .triggered ↔
    if stateAfter thresholds before = .triggered then thresholds.resume ≤ usage else thresholds.trigger ≤ usage := by
  rw [stateAfter, nextState, nextPressureState]
  split_ifs <;> simp_all

theorem fires_iff (usage : Nat) (before : List Nat) :
    Fires thresholds usage before ↔ thresholds.trigger ≤ usage ∧ stateAfter thresholds before ≠ .triggered := by
  rw [Fires, triggered_cons]
  by_cases triggered : stateAfter thresholds before = .triggered <;> simp [triggered]

theorem triggered_iff (order : thresholds.resume ≤ thresholds.trigger) (samples : List Nat) :
    stateAfter thresholds samples = .triggered ↔ FiredSinceResume thresholds samples := by
  induction samples with
  | nil => simp [stateAfter, FiredSinceResume]
  | cons usage before earlier =>
    rw [FiredSinceResume, ← earlier, fires_iff, triggered_cons]
    by_cases triggered : stateAfter thresholds before = .triggered
    · simp [triggered]
    · simp only [triggered, if_false, ne_eq, not_false_eq_true, and_true, or_false]
      exact ⟨fun high => ⟨order.trans high, high⟩, And.right⟩

theorem quiet_below {before : List Nat} (below : List Nat) (quiet : stateAfter thresholds before ≠ .triggered)
    (low : ∀ usage ∈ below, usage < thresholds.trigger) : stateAfter thresholds (below ++ before) ≠ .triggered := by
  induction below with
  | nil => exact quiet
  | cons usage below earlier =>
    rw [List.cons_append, Ne, triggered_cons, if_neg (earlier (fun usage there => low usage (.tail _ there))), not_le]
    exact low usage (.head _)

-- With four margins at or above the limit the resume threshold is zero, or the
-- products have wrapped.
theorem killer_rearms_iff {limit margin : Nat} (word : limit < 2 ^ 64) (positive : 0 < margin) (small : margin < limit)
    (computed : thresholds = computeLimitThresholds limit margin) :
    ((thresholds.resume ≤ thresholds.armed ∧ thresholds.armed ≤ thresholds.trigger ∧ thresholds.trigger < limit) ∧
      (∀ before usage, Fires thresholds usage before ↔ thresholds.trigger ≤ usage ∧ ¬ FiredSinceResume thresholds before) ∧
      ∀ before below usage, (∀ later ∈ below, later < thresholds.trigger) → thresholds.trigger ≤ usage →
        Fires thresholds usage (below ++ 0 :: before)) ↔ 4 * margin < limit := by
  constructor
  · rintro ⟨⟨armed, trigger, -⟩, -, rearms⟩
    by_contra tight
    have zero : thresholds.resume = 0 := by
      simp only [computed, computeLimitThresholds] at armed trigger ⊢
      omega
    have again := rearms [thresholds.trigger] [] thresholds.trigger (by simp) le_rfl
    simp [Fires, stateAfter, nextState, nextPressureState, zero] at again
  · intro room
    have order : thresholds.resume ≤ thresholds.armed ∧ thresholds.armed ≤ thresholds.trigger ∧
        thresholds.trigger < limit ∧ 0 < thresholds.resume := by
      simp only [computed, computeLimitThresholds]
      omega
    obtain ⟨armed, trigger, less, above⟩ := order
    refine ⟨⟨armed, trigger, less⟩, fun before usage => ?_, fun before below usage low high => ?_⟩
    · rw [fires_iff, Ne, triggered_iff (armed.trans trigger)]
    · rw [fires_iff]
      refine ⟨high, quiet_below below ?_ low⟩
      rw [Ne, triggered_cons]
      split_ifs <;> omega

theorem default_margin_counterexample :
    Fires (computeLimitThresholds (16 * 2 ^ 20) (5 * 2 ^ 20)) (11 * 2 ^ 20) [] ∧
      ¬ Fires (computeLimitThresholds (16 * 2 ^ 20) (5 * 2 ^ 20)) (11 * 2 ^ 20) [0, 11 * 2 ^ 20] := by
  simp [Fires, stateAfter, nextState, nextPressureState, computeLimitThresholds]

theorem small_margin_rearms : 4 * 2 ^ 20 < 16 * 2 ^ 20 ∧
    Fires (computeLimitThresholds (16 * 2 ^ 20) (2 ^ 20)) (15 * 2 ^ 20) [0] :=
  ⟨by decide, ((killer_rearms_iff (by decide) (by decide) (by decide) rfl).mpr (by decide)).2.2 [] [] _ (by simp) (by decide)⟩

end OtunKernel.OomKiller
