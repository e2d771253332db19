import OtunKernel.Lib.Bytes

namespace OtunKernel.TlsSpoof

open Lib Outcome

-- The loop of rewriteTCPOptionTimestamp, with the options as it leaves them.
def rewriteFrom (tcpOptions : Bytes) (timestamp : UInt32) (i : Nat) : Outcome Empty (Bool × Bytes) :=
  if _ : i < tcpOptions.length then do
    let kind ← indexAt tcpOptions i
    if kind = 0 then .ok (false, tcpOptions)
    else if kind = 1 then rewriteFrom tcpOptions timestamp (i + 1)
    else if i + 1 ≥ tcpOptions.length then .ok (false, tcpOptions)
    else do
      let optionLen ← indexAt tcpOptions (i + 1)
      if _ : optionLen.toNat < 2 ∨ i + optionLen.toNat > tcpOptions.length then .ok (false, tcpOptions)
      else if kind = 8 ∧ optionLen = 10 then do
        let value ← sliceFrom tcpOptions (i + 2)
        if value.length < 4 then .panic
        else .ok (true, tcpOptions.take (i + 2) ++ beBytes 4 timestamp.toNat ++ value.drop 4)
      else rewriteFrom tcpOptions timestamp (i + optionLen.toNat)
  else .ok (false, tcpOptions)
termination_by tcpOptions.length - i
decreasing_by all_goals omega

def rewriteTCPOptionTimestamp (tcpOptions : Bytes) (timestamp : UInt32) : Outcome Empty (Bool × Bytes) :=
  rewriteFrom tcpOptions timestamp 0

-- The walk from i comes to a timestamp option, the first one at n.
inductive Timestamp (options : Bytes) : Nat → Nat → Prop where
  | here {i : Nat} (inside : i + 10 ≤ options.length) (kind : options.getD i 0 = 8)
      (length : options.getD (i + 1) 0 = 10) : Timestamp options i i
  | nop {i n : Nat} (inside : i < options.length) (kind : options.getD i 0 = 1)
      (rest : Timestamp options (i + 1) n) : Timestamp options i n
  | other {i n : Nat} (inside : i + (options.getD (i + 1) 0).toNat ≤ options.length)
      (long : 2 ≤ (options.getD (i + 1) 0).toNat) (kind : options.getD i 0 ≠ 0 ∧ options.getD i 0 ≠ 1)
      (different : ¬ (options.getD i 0 = 8 ∧ options.getD (i + 1) 0 = 10))
      (rest : Timestamp options (i + (options.getD (i + 1) 0).toNat) n) : Timestamp options i n

variable {options : Bytes} (timestamp : UInt32)

theorem timestamp_rewritten {i n : Nat} (found : Timestamp options i n) :
    n + 10 ≤ options.length ∧ rewriteFrom options timestamp i =
      .ok (true, options.take (n + 2) ++ beBytes 4 timestamp.toNat ++ options.drop (n + 6)) := by
  induction found with
  | here inside kind length =>
    refine ⟨inside, ?_⟩
    rw [rewriteFrom, dif_pos (by omega), index_byte (by omega), ok_bind, kind, if_neg (by decide), if_neg (by decide),
      if_neg (by omega), index_byte (by omega), ok_bind, length, dif_neg (by simpa using inside), if_pos ⟨rfl, rfl⟩,
      slice_from_eq (by omega), ok_bind, if_neg (by rw [List.length_drop]; omega), List.drop_drop]
  | nop inside kind _ later =>
    rw [rewriteFrom, dif_pos inside, index_byte inside, ok_bind, kind, if_neg (by decide), if_pos rfl]
    exact later
  | other inside long kind different _ later =>
    rw [rewriteFrom, dif_pos (by omega), index_byte (by omega), ok_bind, if_neg kind.1, if_neg kind.2, if_neg (by omega),
      index_byte (by omega), ok_bind, dif_neg (by omega), if_neg different]
    exact later

theorem rewrite_returns (i : Nat) : (∃ n, Timestamp options i n) ∨ rewriteFrom options timestamp i = .ok (false, options) := by
  rw [rewriteFrom]
  by_cases inside : i < options.length
  · rw [dif_pos inside, index_byte inside, ok_bind]
    by_cases last : options.getD i 0 = 0
    · exact .inr (if_pos last)
    rw [if_neg last]
    by_cases nop : options.getD i 0 = 1
    · rw [if_pos nop]
      exact (rewrite_returns (i + 1)).imp_left (fun ⟨n, rest⟩ => ⟨n, .nop inside nop rest⟩)
    rw [if_neg nop]
    by_cases cut : i + 1 ≥ options.length
    · exact .inr (if_pos cut)
    rw [if_neg cut, index_byte (Nat.not_le.mp cut), ok_bind]
    by_cases bad : (options.getD (i + 1) 0).toNat < 2 ∨ i + (options.getD (i + 1) 0).toNat > options.length
    · exact .inr (dif_pos bad)
    rw [dif_neg bad]
    by_cases wanted : options.getD i 0 = 8 ∧ options.getD (i + 1) 0 = 10
    · refine .inl ⟨i, .here ?_ wanted.1 wanted.2⟩
      rw [wanted.2] at bad
      exact Nat.not_lt.mp (not_or.mp bad).2
    rw [if_neg wanted]
    have next := rewrite_returns (i + (options.getD (i + 1) 0).toNat)
    exact next.imp_left (fun ⟨n, rest⟩ => ⟨n, .other (by omega) (by omega) ⟨last, nop⟩ wanted rest⟩)
  · exact .inr (dif_neg inside)
termination_by options.length - i
decreasing_by all_goals omega

theorem rewrites_only_timestamp (options : Bytes) (timestamp : UInt32) :
    ∃ found result, rewriteTCPOptionTimestamp options timestamp = .ok (found, result) ∧
      (found = true ↔ ∃ n, Timestamp options 0 n) ∧ (found = false → result = options) ∧
      ∀ n, Timestamp options 0 n → n + 10 ≤ options.length ∧
        result = options.take (n + 2) ++ beBytes 4 timestamp.toNat ++ options.drop (n + 6) := by
  have rewritten {n : Nat} (first : Timestamp options 0 n) := timestamp_rewritten timestamp first
  rcases rewrite_returns timestamp 0 with ⟨n, reached⟩ | kept
  · refine ⟨_, _, (rewritten reached).2, iff_of_true rfl ⟨n, reached⟩, by simp, ?_⟩
    intro m first
    have same := (rewritten reached).2.symm.trans (rewritten first).2
    exact ⟨(rewritten first).1, (Prod.mk.inj (Outcome.ok.inj same)).2⟩
  · have absent {n : Nat} (first : Timestamp options 0 n) : False := by
      have same := kept.symm.trans (rewritten first).2
      simp at same
    exact ⟨false, options, kept, iff_of_false Bool.false_ne_true (fun ⟨_, first⟩ => absent first), fun _ => rfl,
      fun _ first => (absent first).elim⟩

end OtunKernel.TlsSpoof
