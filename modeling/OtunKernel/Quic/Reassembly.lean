import OtunKernel.Lib.Spans
import OtunKernel.Quic.Frames

namespace OtunKernel.Quic

open Lib Spans

-- The payloads lie in memory, apart from each other, so that this sum does not wrap.
def frameLen (fragments : List CryptoFragment) : Nat := (fragments.map (fun fragment => fragment.length.val)).sum

def recordHeader (frameLen : Nat) : Bytes := 0x16 :: putUint16 0x0303 ++ putUint16 (UInt16.ofNat frameLen)

def findTurn (env : Env) (fragments : List CryptoFragment) (capacity : Nat) (state : Nat × Bytes) :
    Outcome Empty (Turn (Nat × Bytes) Bytes) :=
  let (index, buffer) := state
  match fragments.find? (fun fragment => fragment.offset.val = index) with
  | some fragment =>
    .ok (.next ((fragment.offset.val + fragment.length.val) % 2 ^ 64, env.write capacity buffer fragment.payload))
  | none => .ok (.leave buffer)

def findLoop (env : Env) (fragments : List CryptoFragment) (fuel : Nat) : Outcome Empty Bytes :=
  iterate (findTurn env fragments (5 + frameLen fragments)) fuel (0, recordHeader (frameLen fragments))

def reassemble (env : Env) (fuel : Nat) (fragments : List CryptoFragment) : Outcome Empty Bytes := do
  env.newSize (5 + frameLen fragments)
  findLoop env fragments fuel

def fragmentSpans : Spans CryptoFragment where
  start fragment := fragment.offset.val
  len fragment := fragment.length.val

theorem frame_len_eq (fragments : List CryptoFragment) : frameLen fragments = fragmentSpans.total fragments := rfl

variable {env : Env} {fragments : List CryptoFragment}

section
variable {capacity index : Nat} {header buffer : Bytes} {fragment : CryptoFragment}

theorem find_turn_some (found : fragmentSpans.nextAt fragments index = some fragment) (buffer : Bytes) :
    findTurn env fragments capacity (index, buffer) =
      .ok (.next (fragmentSpans.finish fragment, env.write capacity buffer fragment.payload)) := by
  have unwrapped : (fragment.offset.val + fragment.length.val) % 2 ^ 64 = fragmentSpans.finish fragment := by
    have offset := fragment.offset.property
    have length := fragment.length.property
    exact Nat.mod_eq_of_lt (by omega)
  rw [findTurn, show fragments.find? (fun fragment => fragment.offset.val = index) = some fragment from found]
  dsimp only
  rw [unwrapped]

theorem find_turn_none (ended : fragmentSpans.nextAt fragments index = none) (buffer : Bytes) :
    findTurn env fragments capacity (index, buffer) = .ok (.leave buffer) := by
  rw [findTurn, show fragments.find? (fun fragment => fragment.offset.val = index) = none from ended]

variable {state : Nat × Bytes} {fuel : Nat}

theorem find_turn_next {later : Nat × Bytes} (taken : findTurn env fragments capacity state = .ok (.next later)) :
    ∃ fragment, fragmentSpans.nextAt fragments state.1 = some fragment ∧
      later = (fragmentSpans.finish fragment, env.write capacity state.2 fragment.payload) := by
  cases found : fragmentSpans.nextAt fragments state.1 with
  | none =>
    simp [find_turn_none found state.2] at taken
  | some fragment => grind [find_turn_some]

theorem find_turn_leave {result : Bytes} (taken : findTurn env fragments capacity state = .ok (.leave result)) :
    fragmentSpans.nextAt fragments state.1 = none ∧ result = state.2 := by
  cases found : fragmentSpans.nextAt fragments state.1 with
  | none => grind [find_turn_none]
  | some =>
    simp [find_turn_some found state.2] at taken

theorem chained_of_reaches (reached : Reaches (findTurn env fragments capacity) (0, header) state) :
    fragmentSpans.Chained fragments state.1 := by
  refine reached.invariant (fun state => fragmentSpans.Chained fragments state.1) .zero ?_
  intro state _ chained taken
  obtain ⟨_, found, rfl⟩ := find_turn_next taken
  exact .next chained found

theorem reaches_of_chained (capacity : Nat) (header : Bytes) (chained : fragmentSpans.Chained fragments index) :
    ∃ buffer, Reaches (findTurn env fragments capacity) (0, header) (index, buffer) := by
  induction chained with
  | zero => exact ⟨header, .refl⟩
  | next _ found ih =>
    obtain ⟨buffer, reached⟩ := ih
    exact ⟨_, .next reached (find_turn_some found buffer)⟩

theorem find_loop_ends (advances : fragmentSpans.Advances fragments) (enough : frameLen fragments < fuel) :
    ∃ buffer, findLoop env fragments fuel = .ok buffer := by
  have ends : findLoop env fragments fuel ≠ .running := by
    refine iterate_terminates (fun state => fragmentSpans.Chained fragments state.1)
      (fun state => frameLen fragments - state.1) .zero ?_ ?_ enough
    · intro state _
      cases found : fragmentSpans.nextAt fragments state.1 with
      | none => rw [find_turn_none found state.2]; simp
      | some => rw [find_turn_some found state.2]; simp
    intro state later chained taken
    obtain ⟨fragment, found, rfl⟩ := find_turn_next taken
    have onward : fragmentSpans.Chained fragments (fragmentSpans.finish fragment) := .next chained found
    have bounded := Spans.chained_le_total onward
    have starts := (Spans.next_at_some found).2
    have grows := advances state.1 fragment chained found
    rw [← frame_len_eq] at bounded
    refine ⟨onward, ?_⟩
    rw [finish] at bounded ⊢
    omega
  obtain ⟨state, _, result⟩ := iterate_ends ends
  cases found : fragmentSpans.nextAt fragments state.1 with
  | none =>
    rw [find_turn_none found state.2] at result
    exact ⟨state.2, result⟩
  | some =>
    rw [find_turn_some found state.2] at result
    exact absurd result ends

theorem find_loop_stuck (chained : fragmentSpans.Chained fragments index)
    (found : fragmentSpans.nextAt fragments index = some fragment) (empty : fragment.length.val = 0) (fuel : Nat) :
    findLoop env fragments fuel = .running := by
  obtain ⟨_, reached⟩ := reaches_of_chained (5 + frameLen fragments) (recordHeader (frameLen fragments)) chained
  refine iterate_running_of_reaches reached (iterate_forever (fun state => state.1 = index) rfl ?_) fuel
  intro state here
  have starts : fragmentSpans.start fragment = index := (Spans.next_at_some found).2
  refine ⟨_, find_turn_some (by rw [here]; exact found) state.2, ?_⟩
  change fragment.offset.val + fragment.length.val = index
  rw [empty]
  exact starts

theorem find_loop_advances (done : findLoop env fragments fuel = .ok buffer) : fragmentSpans.Advances fragments := by
  intro _ _ chained found
  refine Nat.pos_of_ne_zero (fun empty => ?_)
  simp [find_loop_stuck chained found empty fuel] at done

theorem find_loop_agrees {more : Nat} {other : Bytes} (done : findLoop env fragments fuel = .ok buffer)
    (also : findLoop env fragments more = .ok other) : buffer = other := by
  have agree := iterate_agrees (show findLoop env fragments fuel ≠ .running by rw [done]; simp)
    (show findLoop env fragments more ≠ .running by rw [also]; simp)
  exact Outcome.ok.inj (done.symm.trans (agree.trans also))

end

theorem reassemble_ok_iff {env : Env} {fuel : Nat} {fragments : List CryptoFragment} {buffer : Bytes} :
    reassemble env fuel fragments = .ok buffer ↔ 5 + frameLen fragments ≤ env.maxAlloc ∧ findLoop env fragments fuel = .ok buffer := by
  rw [reassemble, env.allocates]
  by_cases sized : 5 + frameLen fragments ≤ env.maxAlloc
  · simp [sized]
  · simp [sized]

theorem find_terminates_iff (env : Env) (fragments : List CryptoFragment) :
    (∃ fuel buffer, findLoop env fragments fuel = .ok buffer) ↔ fragmentSpans.Advances fragments := by
  constructor
  · rintro ⟨_, _, done⟩
    exact find_loop_advances done
  intro advances
  exact ⟨frameLen fragments + 1, find_loop_ends advances (Nat.lt_succ_self _)⟩

def emptyFragment : CryptoFragment where
  offset := toUvarint 0
  length := toUvarint 0
  payload := []
  whole := rfl

theorem empty_fragment_counterexample :
    collect clearEnv (clearPacket [6, 0, 0]) = .ok ([6], [emptyFragment]) ∧ ∀ fuel, findLoop clearEnv [emptyFragment] fuel = .running :=
  ⟨by decide, find_loop_stuck .zero rfl rfl⟩

structure Cut (stream : Bytes) (fragments : List CryptoFragment) : Prop where
  nonempty : ∀ fragment ∈ fragments, 0 < fragment.length.val
  pieces : ∀ fragment ∈ fragments, fragment.payload = (stream.drop fragment.offset.val).take fragment.length.val
  separate : fragmentSpans.Separate fragments

section
variable {stream : Bytes} {header : Bytes}

section
variable (cut : Cut stream fragments)
include cut

theorem Cut.advances : fragmentSpans.Advances fragments :=
  fun _ _ _ found => cut.nonempty _ (Spans.next_at_some found).1

theorem write_piece {index : Nat} {fragment : CryptoFragment} (chained : fragmentSpans.Chained fragments index)
    (found : fragmentSpans.nextAt fragments index = some fragment) (five : header.length = 5) :
    env.write (5 + frameLen fragments) (header ++ stream.take index) fragment.payload =
      header ++ stream.take (fragmentSpans.finish fragment) := by
  obtain ⟨member, starts⟩ := Spans.next_at_some found
  have room : fragmentSpans.finish fragment ≤ frameLen fragments := Spans.chained_le_total (.next chained found)
  have split : fragmentSpans.finish fragment = index + fragment.length.val := by rw [finish, starts]; rfl
  have piece := cut.pieces fragment member
  rw [show fragment.offset.val = index from starts] at piece
  have fits : (header ++ stream.take index).length + fragment.payload.length ≤ 5 + frameLen fragments := by grind
  rw [env.appends _ _ _ fits, piece, split, List.take_add, List.append_assoc]

theorem buffer_of_reaches {state : Nat × Bytes} (five : header.length = 5)
    (reached : Reaches (findTurn env fragments (5 + frameLen fragments)) (0, header) state) : state.2 = header ++ stream.take state.1 := by
  have both : fragmentSpans.Chained fragments state.1 ∧ state.2 = header ++ stream.take state.1 := by
    refine reached.invariant (fun state => fragmentSpans.Chained fragments state.1 ∧ state.2 = header ++ stream.take state.1)
      ⟨.zero, by simp⟩ ?_
    rintro state _ ⟨chained, written⟩ taken
    obtain ⟨_, found, rfl⟩ := find_turn_next taken
    refine ⟨.next chained found, ?_⟩
    rw [written, write_piece cut chained found five]
  exact both.2

theorem find_loop_longest : ∃ length, fragmentSpans.LongestPrefix fragments length ∧
      ∀ fuel, frameLen fragments < fuel → findLoop env fragments fuel = .ok (recordHeader (frameLen fragments) ++ stream.take length) := by
  obtain ⟨_, done⟩ := find_loop_ends cut.advances (Nat.lt_succ_self (frameLen fragments))
  obtain ⟨state, reached, left⟩ := iterate_ok done
  obtain ⟨ended, rfl⟩ := find_turn_leave left
  have written := buffer_of_reaches cut rfl reached
  refine ⟨state.1, Spans.chained_longest cut.separate (chained_of_reaches reached) ended, ?_⟩
  intro _ enough
  obtain ⟨_, also⟩ := find_loop_ends cut.advances enough
  rw [also, ← written, find_loop_agrees also done]

end
end
end OtunKernel.Quic
