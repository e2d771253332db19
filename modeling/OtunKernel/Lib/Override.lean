import Mathlib.Data.Option.Basic

namespace OtunKernel.Lib

variable {α : Type}

def override (value : α) (update : Option α) : α := update.getD value

@[simp] theorem override_none (value : α) : override value none = value := rfl

@[simp] theorem override_some (value update : α) : override value (some update) = update := rfl

theorem override_override (value : α) (earlier later : Option α) :
    override (override value earlier) later = override value (later.or earlier) := by
  cases later <;> rfl

-- Forgetting an earlier value goes unnoticed just when a later writer
-- overwrites it or an observer cannot tell it from the original.
theorem observed_override_eq_iff {β : Type} (observe : α → β) (value earlier : α) (later : Option α) :
    observe (override value later) = observe (override earlier later) ↔ later.isSome = true ∨ observe value = observe earlier := by
  cases later <;> simp

end OtunKernel.Lib
