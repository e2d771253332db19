import Mathlib.Data.List.Basic

namespace OtunKernel.Lib

variable {α : Type}

inductive Formula (α : Type) where
  | leaf (name : α)
  | node (conjunction negated : Bool) (parts : List (Formula α))

namespace Formula

mutual
def eval (value : α → Bool) : Formula α → Bool
  | .leaf name => value name
  | .node conjunction negated parts => negated != (if conjunction then evalAll value parts else evalAny value parts)
def evalAll (value : α → Bool) : List (Formula α) → Bool
  | [] => true
  | part :: later => part.eval value && evalAll value later
def evalAny (value : α → Bool) : List (Formula α) → Bool
  | [] => false
  | part :: later => part.eval value || evalAny value later
end

theorem eval_all_eq (value : α → Bool) (parts : List (Formula α)) : evalAll value parts = parts.all (eval value) := by
  induction parts with
  | nil => rfl
  | cons _ _ ih => rw [evalAll, ih, List.all_cons]

theorem eval_any_eq (value : α → Bool) (parts : List (Formula α)) : evalAny value parts = parts.any (eval value) := by
  induction parts with
  | nil => rfl
  | cons _ _ ih => rw [evalAny, ih, List.any_cons]

theorem eval_node (value : α → Bool) (conjunction negated : Bool) (parts : List (Formula α)) :
    (node conjunction negated parts).eval value =
      (negated != (if conjunction then parts.all (eval value) else parts.any (eval value))) := by
  rw [eval, eval_all_eq, eval_any_eq]

inductive Reordered : Formula α → Formula α → Prop where
  | refl (formula : Formula α) : Reordered formula formula
  | perm {conjunction negated : Bool} {parts other : List (Formula α)} (same : parts.Perm other) :
      Reordered (.node conjunction negated parts) (.node conjunction negated other)
  | inside {conjunction negated : Bool} {before after : List (Formula α)} {part other : Formula α} (deeper : Reordered part other) :
      Reordered (.node conjunction negated (before ++ part :: after)) (.node conjunction negated (before ++ other :: after))
  | trans {first second third : Formula α} (left : Reordered first second) (right : Reordered second third) : Reordered first third

theorem Reordered.eval_eq {formula other : Formula α} (same : Reordered formula other) (value : α → Bool) :
    formula.eval value = other.eval value := by
  induction same with
  | refl => rfl
  | perm same => rw [eval_node, eval_node, same.all_eq, same.any_eq]
  | inside _ ih => simp only [eval_node, List.all_append, List.all_cons, List.any_append, List.any_cons, ih]
  | trans _ _ left right => exact left.trans right

end Formula

end OtunKernel.Lib
