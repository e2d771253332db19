import Mathlib.Logic.Basic

namespace OtunKernel.Lib

variable {σ ε : Type}

def transact (body : σ → Except ε σ) (state : σ) : σ :=
  match body state with
  | .ok result => result
  | .error _ => state

variable {body : σ → Except ε σ} {state : σ}

theorem transact_ok {result : σ} (done : body state = .ok result) : transact body state = result := by
  rw [transact, done]

theorem transact_error {error : ε} (failed : body state = .error error) : transact body state = state := by
  rw [transact, failed]

theorem transact_invariant (holds : σ → Prop) (before : holds state)
    (kept : ∀ result, body state = .ok result → holds result) : holds (transact body state) := by
  cases outcome : body state with
  | ok result =>
    simpa [transact_ok outcome] using kept result outcome
  | error =>
    simp [transact_error outcome, before]

end OtunKernel.Lib
