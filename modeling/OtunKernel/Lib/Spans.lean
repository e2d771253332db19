import Mathlib.Algebra.Order.BigOperators.Group.List
import Mathlib.Algebra.Order.Ring.Nat

namespace OtunKernel.Lib

-- Items that each cover a span of positions.
structure Spans (α : Type) where
  start : α → Nat
  len : α → Nat

namespace Spans

variable {α : Type} (spans : Spans α) (items : List α)

def finish (item : α) : Nat := spans.start item + spans.len item

def total : Nat := (items.map spans.len).sum

def nextAt (position : Nat) : Option α := items.find? (fun item => spans.start item = position)

inductive Chained : Nat → Prop where
  | zero : Chained 0
  | next {position : Nat} {item : α} (before : Chained position) (found : spans.nextAt items position = some item) :
      Chained (spans.finish item)

def Advances : Prop := ∀ position item, spans.Chained items position → spans.nextAt items position = some item → 0 < spans.len item

def Covered (position : Nat) : Prop := ∃ item ∈ items, spans.start item ≤ position ∧ position < spans.finish item

def LongestPrefix (length : Nat) : Prop := (∀ position < length, spans.Covered items position) ∧ ¬ spans.Covered items length

def Separate : Prop :=
  ∀ item ∈ items, ∀ other ∈ items, item = other ∨ spans.finish item ≤ spans.start other ∨ spans.finish other ≤ spans.start item

variable {spans} {items} {position : Nat} {item : α}

theorem next_at_some (found : spans.nextAt items position = some item) : item ∈ items ∧ spans.start item = position :=
  ⟨List.mem_of_find?_eq_some found, by simpa using List.find?_some found⟩

theorem chained_boundary (separate : spans.Separate items) (chained : spans.Chained items position) (member : item ∈ items) :
    spans.finish item ≤ position ∨ position ≤ spans.start item := by
  cases chained with
  | zero => exact .inr (Nat.zero_le _)
  | @next _ last _ found =>
    obtain ⟨there, _⟩ := next_at_some found
    rcases separate last there item member with rfl | after | earlier
    · exact .inl (Nat.le_refl _)
    · exact .inr after
    · exact .inl (Nat.le_trans earlier (Nat.le_add_right _ _))

theorem chained_covered (chained : spans.Chained items position) : ∀ before < position, spans.Covered items before := by
  induction chained with
  | zero => grind
  | @next position item _ found ih =>
    intro before early
    obtain ⟨member, _⟩ := next_at_some found
    by_cases earlier : before < position
    · exact ih before earlier
    · exact ⟨item, member, by omega, early⟩

theorem chained_longest (separate : spans.Separate items) (chained : spans.Chained items position)
    (ended : spans.nextAt items position = none) : spans.LongestPrefix items position := by
  refine ⟨chained_covered chained, ?_⟩
  rintro ⟨item, member, starts, ends⟩
  have elsewhere : spans.start item ≠ position := by simpa using List.find?_eq_none.mp ended item member
  rcases chained_boundary separate chained member with before | after
  · grind
  · grind

theorem longest_prefix_unique {length other : Nat} (longest : spans.LongestPrefix items length)
    (also : spans.LongestPrefix items other) : length = other := by
  rcases Nat.lt_trichotomy length other with shorter | same | longer
  · exact absurd (also.1 length shorter) longest.2
  · exact same
  · exact absurd (longest.1 other longer) also.2

theorem sum_filter_grows (value : α → Nat) (small large : α → Bool) (grows : ∀ item, small item = true → large item = true)
    (member : item ∈ items) (fresh : small item = false) (counted : large item = true) :
    ((items.filter small).map value).sum + value item ≤ ((items.filter large).map value).sum := by
  have weaker : ∀ items : List α, ((items.filter small).map value).sum ≤ ((items.filter large).map value).sum := by
    intro items
    exact List.Sublist.sum_le_sum ((List.monotone_filter_right items grows).map value) (fun _ _ => Nat.zero_le _)
  induction items with
  | nil => cases member
  | cons head tail ih => grind

theorem chained_room (chained : spans.Chained items position) :
    position ≤ ((items.filter (fun item => spans.finish item ≤ position)).map spans.len).sum := by
  induction chained with
  | zero => exact Nat.zero_le _
  | @next position item _ found ih =>
    obtain ⟨member, starts⟩ := next_at_some found
    by_cases empty : spans.len item = 0
    · have same : spans.finish item = position := by rw [finish, starts, empty, Nat.add_zero]
      simp [same, ih]
    have split : spans.finish item = position + spans.len item := by rw [finish, starts]
    have grows := sum_filter_grows spans.len
      (fun other => spans.finish other ≤ position) (fun other => spans.finish other ≤ spans.finish item)
      (fun other ends => decide_eq_true (by have := of_decide_eq_true ends; omega))
      member (decide_eq_false (by omega)) (decide_eq_true (Nat.le_refl _))
    omega

theorem chained_le_total (chained : spans.Chained items position) : position ≤ spans.total items := by
  apply Nat.le_trans (chained_room chained)
  exact List.Sublist.sum_le_sum (List.filter_sublist.map spans.len) (fun _ _ => Nat.zero_le _)

end Spans

end OtunKernel.Lib
