import Mathlib.Data.List.Basic

namespace OtunKernel.Lib

variable {α : Type}

structure Chan (α : Type) where
  capacity : Nat
  buffer : List α
  closed : Bool
  bounded : buffer.length ≤ capacity

def Chan.make (capacity : Nat) : Chan α := ⟨capacity, [], false, Nat.zero_le capacity⟩

-- A send that does not wait; the flag tells whether the value was taken. none is
-- the panic of a send on a closed channel.
def Chan.trySend (channel : Chan α) (value : α) : Option (Chan α × Bool) :=
  if channel.closed then none
  else if room : channel.buffer.length < channel.capacity then
    some (⟨channel.capacity, channel.buffer ++ [value], false, by rw [List.length_append]; exact room⟩, true)
  else some (channel, false)

def Chan.close (channel : Chan α) : Option (Chan α) :=
  if channel.closed then none else some { channel with closed := true }

-- A value, or nothing from a channel that is empty and closed; none if the
-- receiver has to wait.
def Chan.receive (channel : Chan α) : Option (Option α × Chan α) :=
  match stored : channel.buffer with
  | value :: rest =>
    have bounded : rest.length ≤ channel.capacity := by
      have all := channel.bounded
      rw [stored, List.length_cons] at all
      omega
    some (some value, ⟨channel.capacity, rest, channel.closed, bounded⟩)
  | [] => if channel.closed then some (none, channel) else none

variable {channel : Chan α}

theorem close_open (opened : channel.closed = false) : channel.close = some { channel with closed := true } := by
  simp [Chan.close, opened]

theorem try_send_open (opened : channel.closed = false) (value : α) :
    ∃ result sent, channel.trySend value = some (result, sent) ∧ result.closed = false ∧ (sent = false → result = channel) := by
  by_cases room : channel.buffer.length < channel.capacity
  · exact ⟨_, true, by simp [Chan.trySend, opened, room]; rfl, rfl, by simp⟩
  · exact ⟨channel, false, by simp [Chan.trySend, opened, room], opened, fun _ => rfl⟩

end OtunKernel.Lib
