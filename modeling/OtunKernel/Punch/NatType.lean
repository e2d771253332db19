import OtunKernel.Net.Addr

namespace OtunKernel.Punch

open Net

abbrev AddrPort := Addr × UInt16

inductive NATTypeGuess where
  | unknown
  | cone
  | symmetric
deriving DecidableEq

def guessNATType : List AddrPort → NATTypeGuess
  | [] => .unknown
  | [_] => .unknown
  | first :: rest => if rest.any (fun addr => addr.1 ≠ first.1 || addr.2 ≠ first.2) then .symmetric else .cone

-- The union that discoverFamilies returns, from the results of the families;
-- a family that the grace period cuts off has an error.
def union (results : List (Except String (List AddrPort))) : List AddrPort :=
  results.flatMap (fun result => result.toOption.getD [])

theorem guess_symmetric_iff (srflx : List AddrPort) :
    guessNATType srflx = .symmetric ↔ ∃ addr ∈ srflx, ∃ other ∈ srflx, addr ≠ other := by
  cases srflx with
  | nil => simp [guessNATType]
  | cons first rest =>
    cases rest with
    | nil => simp [guessNATType]
    | cons second rest =>
      have found : guessNATType (first :: second :: rest) = .symmetric ↔ ∃ addr ∈ second :: rest, addr ≠ first := by
        simp only [guessNATType, ite_eq_left_iff]
        simp [-List.any_cons, -List.mem_cons, Prod.ext_iff, imp_iff_not_or]
      rw [found]
      constructor
      · rintro ⟨addr, listed, different⟩
        exact ⟨addr, List.mem_cons_of_mem _ listed, first, List.mem_cons_self, different⟩
      · rintro ⟨addr, listed, other, there, different⟩
        by_cases same : addr = first
        · subst same
          exact ⟨other, (List.mem_cons.mp there).resolve_left (Ne.symm different), Ne.symm different⟩
        · exact ⟨addr, (List.mem_cons.mp listed).resolve_left same, same⟩

def Agree (srflx : List AddrPort) : Prop :=
  ∀ addr ∈ srflx, ∀ other ∈ srflx, addr.1.is4 = other.1.is4 → addr = other

-- Two families always differ, so a client that has both counts as symmetric.
theorem cone_kept_iff (results : List (Except String (List AddrPort))) :
    (Agree (union results) → (guessNATType (union results) ≠ .symmetric ↔
      ∀ addr ∈ union results, ∀ other ∈ union results, addr.1.is4 = other.1.is4)) ∧
    (¬ Agree (union results) → guessNATType (union results) = .symmetric) := by
  rw [Ne, guess_symmetric_iff]
  push Not
  constructor
  · intro agree
    constructor
    · intro same addr listed other there
      rw [same addr listed other there]
    · intro family addr listed other there
      exact agree addr listed other there (family addr listed other there)
  · intro differ
    simp only [Agree, not_forall] at differ
    obtain ⟨addr, listed, other, there, _, different⟩ := differ
    exact ⟨addr, listed, other, there, different⟩

theorem both_families_counterexample :
    Agree (union [.ok [(.v4 1#32, 5)], .ok [(.v6 1#128, 5)]]) ∧
      guessNATType (union [.ok [(.v4 1#32, 5)], .ok [(.v6 1#128, 5)]]) = .symmetric := by
  constructor
  · unfold Agree
    decide
  · decide

end OtunKernel.Punch
