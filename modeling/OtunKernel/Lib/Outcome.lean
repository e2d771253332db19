import Mathlib.Data.List.GetD

namespace OtunKernel.Lib

variable {ε α β σ : Type}

-- What running code comes to: a value, an error that it reports, a panic, or
-- no end within the turns given to its loops.
inductive Outcome (ε α : Type) where
  | ok (value : α)
  | error (err : ε)
  | panic
  | running
deriving DecidableEq

namespace Outcome

def bind (first : Outcome ε α) (next : α → Outcome ε β) : Outcome ε β :=
  match first with
  | .ok value => next value
  | .error err => .error err
  | .panic => .panic
  | .running => .running

instance : Monad (Outcome ε) where
  pure := .ok
  bind := bind

@[simp] theorem pure_eq (value : α) : (pure value : Outcome ε α) = .ok value := rfl
@[simp] theorem ok_bind (value : α) (next : α → Outcome ε β) : (.ok value >>= next) = next value := rfl
@[simp] theorem error_bind (err : ε) (next : α → Outcome ε β) : (.error err >>= next) = .error err := rfl
@[simp] theorem panic_bind (next : α → Outcome ε β) : ((.panic : Outcome ε α) >>= next) = .panic := rfl
@[simp] theorem running_bind (next : α → Outcome ε β) : ((.running : Outcome ε α) >>= next) = .running := rfl

variable {first outcome : Outcome ε α} {next : α → Outcome ε β} {post : α → Prop}

theorem bind_eq_ok {value : β} : (first >>= next) = .ok value ↔ ∃ middle, first = .ok middle ∧ next middle = .ok value := by
  cases first <;> simp

theorem bind_eq_panic : (first >>= next) = .panic ↔ first = .panic ∨ ∃ middle, first = .ok middle ∧ next middle = .panic := by
  cases first <;> simp

theorem bind_eq_running :
    (first >>= next) = .running ↔ first = .running ∨ ∃ middle, first = .ok middle ∧ next middle = .running := by
  cases first <;> simp

def Ensures (post : α → Prop) : Outcome ε α → Prop
  | .ok value => post value
  | .error _ => True
  | _ => False

theorem Ensures.bind {middle : α → Prop} {post : β → Prop} (before : first.Ensures middle)
    (after : ∀ value, middle value → (next value).Ensures post) : (first >>= next).Ensures post := by
  cases first with
  | ok value => exact after value before
  | error => trivial
  | panic | running => exact before

section
variable (ensures : outcome.Ensures post)
include ensures

theorem Ensures.mono {weaker : α → Prop} (implies : ∀ value, post value → weaker value) : outcome.Ensures weaker := by
  cases outcome with
  | ok value => exact implies value ensures
  | error => trivial
  | panic | running => exact ensures

theorem Ensures.not_panic : outcome ≠ .panic := by
  rintro rfl
  exact ensures

theorem Ensures.not_running : outcome ≠ .running := by
  rintro rfl
  exact ensures

theorem Ensures.of_ok {value : α} (returned : outcome = .ok value) : post value := by
  subst returned
  exact ensures

end

def Returns : Outcome ε α → Prop
  | .ok _ => True
  | .error _ => True
  | _ => False

instance (outcome : Outcome ε α) : Decidable outcome.Returns :=
  match outcome with
  | .ok _ => .isTrue trivial
  | .error _ => .isTrue trivial
  | .panic => .isFalse id
  | .running => .isFalse id

theorem returns_iff : outcome.Returns ↔ outcome ≠ .panic ∧ outcome ≠ .running := by
  cases outcome <;> simp [Returns]

theorem returns_bind_ok (outcome : Outcome ε α) (f : α → β) : (outcome >>= fun value => .ok (f value)).Returns ↔ outcome.Returns := by
  cases outcome with
  | ok | error | panic | running => exact Iff.rfl

def attempt : Outcome ε α → Outcome Empty (Except ε α)
  | .ok value => .ok (.ok value)
  | .error err => .ok (.error err)
  | .panic => .panic
  | .running => .running

@[simp] theorem attempt_ok (value : α) : (.ok value : Outcome ε α).attempt = .ok (.ok value) := rfl
@[simp] theorem attempt_error (err : ε) : (.error err : Outcome ε α).attempt = .ok (.error err) := rfl
@[simp] theorem attempt_panic : (.panic : Outcome ε α).attempt = .panic := rfl
@[simp] theorem attempt_running : (.running : Outcome ε α).attempt = .running := rfl

end Outcome

-- xs[i] and xs[low:high], which panic out of range.
def indexAt (items : List α) (i : Nat) : Outcome ε α :=
  match items[i]? with
  | some item => .ok item
  | none => .panic

def sliceOf (items : List α) (low high : Nat) : Outcome ε (List α) :=
  if low ≤ high ∧ high ≤ items.length then .ok ((items.take high).drop low) else .panic

def sliceFrom (items : List α) (low : Nat) : Outcome ε (List α) := sliceOf items low items.length

theorem index_at_cases (items : List α) (i : Nat) :
    (indexAt items i : Outcome ε α) = .panic ∨ ∃ item, (indexAt items i : Outcome ε α) = .ok item := by
  grind [indexAt]

theorem slice_of_cases (items : List α) (low high : Nat) :
    (sliceOf items low high : Outcome ε (List α)) = .panic ∨ ∃ part, (sliceOf items low high : Outcome ε (List α)) = .ok part := by
  grind [sliceOf]

variable {items : List α}

theorem index_at_eq [Inhabited α] {i : Nat} (inside : i < items.length) :
    (indexAt items i : Outcome ε α) = .ok (items.getD i default) := by
  rw [indexAt, List.getElem?_eq_getElem inside, List.getD_eq_getElem _ _ inside]

theorem slice_of_eq {low high : Nat} (ordered : low ≤ high) (inside : high ≤ items.length) :
    (sliceOf items low high : Outcome ε (List α)) = .ok ((items.take high).drop low) := if_pos ⟨ordered, inside⟩

theorem slice_from_eq {low : Nat} (inside : low ≤ items.length) :
    (sliceFrom items low : Outcome ε (List α)) = .ok (items.drop low) := by
  rw [sliceFrom, slice_of_eq inside (Nat.le_refl _), List.take_length]

inductive Turn (σ β : Type) where
  | next (state : σ)
  | leave (result : β)
deriving DecidableEq

def iterate (turn : σ → Outcome ε (Turn σ β)) : Nat → σ → Outcome ε β
  | 0, _ => .running
  | fuel + 1, state =>
    match turn state with
    | .ok (.next state) => iterate turn fuel state
    | .ok (.leave result) => .ok result
    | .error err => .error err
    | .panic => .panic
    | .running => .running

inductive Reaches (turn : σ → Outcome ε (Turn σ β)) (start : σ) : σ → Prop where
  | refl : Reaches turn start start
  | next {state later : σ} (reached : Reaches turn start state) (taken : turn state = .ok (.next later)) : Reaches turn start later

def outcomeOf : Outcome ε (Turn σ β) → Outcome ε β
  | .ok (.next _) => .running
  | .ok (.leave result) => .ok result
  | .error err => .error err
  | .panic => .panic
  | .running => .running

section
variable {turn : σ → Outcome ε (Turn σ β)} {start state : σ}

theorem Reaches.head {first : σ} (taken : turn start = .ok (.next first)) (reached : Reaches turn first state) :
    Reaches turn start state := by
  induction reached with
  | refl => exact .next .refl taken
  | next _ later ih => exact .next ih later

theorem Reaches.invariant (reached : Reaches turn start state) (holds : σ → Prop) (initially : holds start)
    (kept : ∀ state later, holds state → turn state = .ok (.next later) → holds later) : holds state := by
  induction reached with
  | refl => exact initially
  | next _ taken ih => exact kept _ _ ih taken

variable {fuel : Nat} {result : Outcome ε β}

section
variable (ended : iterate turn fuel start ≠ .running)
include ended

theorem iterate_more (more : Nat) : iterate turn (fuel + more) start = iterate turn fuel start := by
  induction fuel generalizing start with
  | zero => exact absurd rfl ended
  | succ _ ih => grind [Nat.add_right_comm, iterate]

theorem iterate_agrees {other : Nat}
    (also : iterate turn other start ≠ .running) : iterate turn fuel start = iterate turn other start := by
  rw [← iterate_more ended other, ← iterate_more also fuel, Nat.add_comm]

theorem iterate_ends : ∃ state, Reaches turn start state ∧ iterate turn fuel start = outcomeOf (turn state) := by
  induction fuel generalizing start with
  | zero => exact absurd rfl ended
  | succ _ ih =>
    rw [iterate] at ended ⊢
    split
    · grind [Reaches.head]
    · rename_i result taken
      exact ⟨start, .refl, by rw [taken]; rfl⟩
    · rename_i err taken
      exact ⟨start, .refl, by rw [taken]; rfl⟩
    · rename_i taken
      exact ⟨start, .refl, by rw [taken]; rfl⟩
    · simp_all

end

theorem iterate_ok {result : β} (done : iterate turn fuel start = .ok result) :
    ∃ state, Reaches turn start state ∧ turn state = .ok (.leave result) := by
  obtain ⟨state, reached, ends⟩ := iterate_ends (show iterate turn fuel start ≠ .running by rw [done]; simp)
  refine ⟨state, reached, ?_⟩
  rw [done] at ends
  cases turned : turn state with
  | ok taken =>
    rw [turned] at ends
    cases taken <;> cases ends
    rfl
  | error | panic | running =>
    rw [turned] at ends
    cases ends

theorem iterate_before (reached : Reaches turn start state) (done : ∃ fuel, iterate turn fuel state = result) :
    ∃ fuel, iterate turn fuel start = result := by
  induction reached with
  | refl => exact done
  | next _ taken ih =>
    obtain ⟨fuel, later⟩ := done
    exact ih ⟨fuel + 1, by rw [iterate, taken]; exact later⟩

theorem iterate_of_reaches (reached : Reaches turn start state) (ends : outcomeOf (turn state) = result)
    (ended : result ≠ .running) : ∃ fuel, iterate turn fuel start = result := by
  refine iterate_before reached ⟨1, ?_⟩
  rw [iterate]
  cases taken : turn state with
  | ok turned =>
    rw [taken] at ends
    cases turned with
    | next => exact absurd ends.symm ended
    | leave => exact ends
  | error | panic => rwa [taken] at ends
  | running =>
    rw [taken] at ends
    exact absurd ends.symm ended

theorem iterate_terminates (holds : σ → Prop) (measure : σ → Nat) (initially : holds start)
    (ends : ∀ state, holds state → turn state ≠ .running)
    (kept : ∀ state later, holds state → turn state = .ok (.next later) → holds later ∧ measure later < measure state)
    (enough : measure start < fuel) : iterate turn fuel start ≠ .running := by
  induction fuel generalizing start with
  | zero => omega
  | succ _ ih => grind [iterate]

theorem iterate_panics_iff {safe : σ → Prop} (each : ∀ state, turn state = .panic ↔ ¬ safe state)
    (ended : iterate turn fuel start ≠ .running) :
    iterate turn fuel start = .panic ↔ ¬ ∀ state, Reaches turn start state → safe state := by
  constructor
  · intro panics all
    obtain ⟨state, reached, left⟩ := iterate_ends ended
    rw [panics] at left
    cases turned : turn state with
    | ok taken =>
      rw [turned] at left
      cases taken <;> cases left
    | error | running =>
      rw [turned] at left
      cases left
    | panic => grind
  intro unsafe_state
  simp only [Classical.not_forall] at unsafe_state
  obtain ⟨state, reached, cut⟩ := unsafe_state
  have here : outcomeOf (turn state) = .panic := by rw [(each state).mpr cut]; rfl
  obtain ⟨_, panics⟩ := iterate_of_reaches reached here (by simp)
  rw [iterate_agrees ended (by rw [panics]; simp), panics]

theorem iterate_forever (holds : σ → Prop) (initially : holds start)
    (kept : ∀ state, holds state → ∃ later, turn state = .ok (.next later) ∧ holds later) (fuel : Nat) :
    iterate turn fuel start = .running := by
  induction fuel generalizing start with
  | zero => rfl
  | succ _ ih =>
    obtain ⟨_, taken, stays⟩ := kept start initially
    simpa [iterate, taken] using ih stays

theorem iterate_running_of_reaches (reached : Reaches turn start state)
    (stuck : ∀ fuel, iterate turn fuel state = .running) (fuel : Nat) : iterate turn fuel start = .running := by
  induction reached generalizing fuel with
  | refl => exact stuck fuel
  | next _ taken ih =>
    refine ih (fun fuel => ?_) fuel
    cases fuel with
    | zero => rfl
    | succ fuel => simp_all [iterate]

end
end OtunKernel.Lib
