import Mathlib.Logic.Basic

namespace OtunKernel.Lib

variable {σ ℓ : Type}

-- A system that takes one labelled step after another; none means that the
-- step is not possible in that state.
abbrev System (σ ℓ : Type) := σ → ℓ → Option σ

-- Runs whose every step is allowed by a condition on the state before it.
inductive Run (step : System σ ℓ) (allowed : σ → ℓ → Prop) (start : σ) : σ → Prop where
  | refl : Run step allowed start start
  | next {state result : σ} (label : ℓ) (run : Run step allowed start state) (permitted : allowed state label)
      (taken : step state label = some result) : Run step allowed start result

def anyStep (_ : σ) (_ : ℓ) : Prop := True

variable {step : System σ ℓ} {allowed : σ → ℓ → Prop} {start state : σ}

theorem Run.invariant (run : Run step allowed start state) (holds : σ → Prop) (initially : holds start)
    (kept : ∀ state label result, holds state → allowed state label → step state label = some result → holds result) :
    holds state := by
  induction run with
  | refl => exact initially
  | next label _ permitted taken ih => grind

theorem Run.trans {middle : σ} (first : Run step allowed start middle) (second : Run step allowed middle state) :
    Run step allowed start state := by
  induction second with
  | refl => exact first
  | next label _ ok taken ih => exact Run.next label ih ok taken

theorem Run.mono {wider : σ → ℓ → Prop} (run : Run step allowed start state)
    (implies : ∀ state label, allowed state label → wider state label) : Run step wider start state := by
  induction run with
  | refl => exact Run.refl
  | next label _ permitted taken ih => exact Run.next label ih (implies _ _ permitted) taken

def execute (step : System σ ℓ) (start : σ) : List ℓ → Option σ
  | [] => some start
  | label :: rest => (step start label).bind (fun state => execute step state rest)

theorem run_of_execute (labels : List ℓ) (start state : σ) (permitted : ∀ label ∈ labels, ∀ state, allowed state label)
    (executed : execute step start labels = some state) : Run step allowed start state := by
  induction labels generalizing start with
  | nil =>
    cases executed
    exact Run.refl
  | cons label _ ih =>
    rw [execute, Option.bind_eq_some_iff] at executed
    obtain ⟨middle, taken, later⟩ := executed
    have first := permitted label List.mem_cons_self start
    have others := fun other member => permitted other (List.mem_cons_of_mem label member)
    exact Run.trans (Run.next label Run.refl first taken) (ih middle others later)

def guarded (step : System σ ℓ) (allowed : σ → ℓ → Prop) [∀ state label, Decidable (allowed state label)] : System σ ℓ :=
  fun state label => if allowed state label then step state label else none

theorem run_of_guarded [∀ state label, Decidable (allowed state label)] (labels : List ℓ) (start state : σ)
    (executed : execute (guarded step allowed) start labels = some state) : Run step allowed start state := by
  induction labels generalizing start with
  | nil =>
    cases executed
    exact Run.refl
  | cons label _ ih =>
    rw [execute, Option.bind_eq_some_iff] at executed
    obtain ⟨middle, taken, later⟩ := executed
    rw [guarded] at taken
    split at taken
    · rename_i permitted
      exact Run.trans (Run.next label Run.refl permitted taken) (ih middle later)
    · contradiction

end OtunKernel.Lib
