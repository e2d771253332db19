import Mathlib.Data.BitVec

namespace OtunKernel.Lib

-- A machine word as a set of small numbers. A loop that adds the images of
-- selected elements is described once here by the members of its result.
def single (w i : Nat) : BitVec w := 1#w <<< i

def member {w : Nat} (s : BitVec w) (i : Nat) : Bool := s &&& single w i != 0#w

variable {w : Nat}

theorem member_eq_bit (s : BitVec w) (i : Nat) : member s i = s.getLsbD i := by
  have bits : ∀ j, (s &&& single w i).getLsbD j = (s.getLsbD j && decide (j < w ∧ j = i)) := by grind [single]
  by_cases set : s.getLsbD i = true
  · grind [member]
  have clear : s.getLsbD i = false := by simpa using set
  have zero : s &&& single w i = 0#w := by grind
  simp [member, clear, zero]

theorem member_zero (i : Nat) : member (0#w) i = false := by
  simp [member_eq_bit]

theorem member_or (a b : BitVec w) (i : Nat) : member (a ||| b) i = (member a i || member b i) := by
  simp [member_eq_bit]

theorem member_single (i j : Nat) (bound : i < w) : member (single w i) j = decide (i = j) := by
  grind [member_eq_bit, single]

theorem set_ext (a b : BitVec w) (same : ∀ i, i < w → member a i = member b i) : a = b := by grind [member_eq_bit]

theorem member_scan {α : Type} (items : List α) (keep : α → Bool) (step : BitVec w → α → BitVec w)
    (adds : α → Nat → Bool) (i : Nat)
    (grows : ∀ acc item, keep item = true → member (step acc item) i = (member acc i || adds item i)) (acc : BitVec w) :
    member (items.foldl (fun result item => if !keep item then result else step result item) acc) i =
      (member acc i || items.any (fun item => keep item && adds item i)) := by
  induction items generalizing acc with
  | nil => simp
  | cons item _ ih => grind

end OtunKernel.Lib
