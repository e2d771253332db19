import OtunKernel.Lib.Bytes

namespace OtunKernel.V2rayHttp

open Lib

structure HTTPConn where
  conn : Bytes
  responseRead : Bool := false
  responseCache : Option Bytes := none

-- What a call of Read meets: how many bytes behind the header are left in the
-- buffered reader, how many have arrived for a read of Conn, and the length of
-- the buffer.
structure ReadInput where
  ahead : Nat
  arrived : Nat
  size : Nat
  ready : arrived ≠ 0 ∧ size ≠ 0 := by decide

def HTTPConn.readResponse (c : HTTPConn) (headerLen ahead : Nat) : HTTPConn :=
  if c.responseRead then c
  else
    let cache := (c.conn.drop headerLen).take ahead
    { conn := (c.conn.drop headerLen).drop ahead
      responseRead := true
      responseCache := if 0 < cache.length then some cache else none }

def HTTPConn.connRead (c : HTTPConn) (input : ReadInput) : Bytes × HTTPConn :=
  (c.conn.take (min input.arrived input.size), { c with conn := c.conn.drop (min input.arrived input.size) })

def HTTPConn.read (headerLen : Nat) (c : HTTPConn) (input : ReadInput) : Bytes × HTTPConn :=
  let c := c.readResponse headerLen input.ahead
  match c.responseCache with
  | none => c.connRead input
  -- io.EOF, with no bytes
  | some [] => { c with responseCache := none }.connRead input
  | some cache => (cache.take input.size, { c with responseCache := some (cache.drop input.size) })

def HTTPConn.readerReplaceable (c : HTTPConn) : Bool := c.responseRead

def HTTPConn.reads (headerLen : Nat) (c : HTTPConn) : List ReadInput → Bytes × HTTPConn
  | [] => ([], c)
  | input :: rest =>
    let read := c.read headerLen input
    let later := read.2.reads headerLen rest
    (read.1 ++ later.1, later.2)

-- What Read has still to deliver.
def HTTPConn.rest (headerLen : Nat) (c : HTTPConn) : Bytes :=
  if c.responseRead then c.responseCache.getD [] ++ c.conn else c.conn.drop headerLen

theorem read_response_rest (headerLen ahead : Nat) (c : HTTPConn) : (c.readResponse headerLen ahead).responseRead = true ∧
      (c.readResponse headerLen ahead).rest headerLen = c.rest headerLen := by
  by_cases responded : c.responseRead = true
  · simp [HTTPConn.readResponse, responded]
  · have whole := List.take_append_drop ahead (c.conn.drop headerLen)
    simp only [HTTPConn.readResponse, HTTPConn.rest, responded]
    cases cache : (c.conn.drop headerLen).take ahead <;> rw [cache] at whole <;> simpa using whole

theorem read_rest (headerLen : Nat) (c : HTTPConn) (input : ReadInput) :
    (c.read headerLen input).1 ++ (c.read headerLen input).2.rest headerLen = c.rest headerLen ∧
      (c.rest headerLen ≠ [] → (c.read headerLen input).1 ≠ []) := by
  obtain ⟨responded, same⟩ := read_response_rest headerLen input.ahead c
  rw [HTTPConn.read]
  split
  · simp_all [HTTPConn.connRead, HTTPConn.rest, input.ready]
  · simp_all [HTTPConn.connRead, HTTPConn.rest, input.ready]
  · simp_all [HTTPConn.rest, input.ready, ← List.append_assoc]

theorem reads_rest (headerLen : Nat) (c : HTTPConn) (inputs : List ReadInput) :
    (c.reads headerLen inputs).1 ++ (c.reads headerLen inputs).2.rest headerLen = c.rest headerLen := by
  induction inputs generalizing c with
  | nil => rfl
  | cons input inputs later =>
    rw [← (read_rest headerLen c input).1, ← later (c.read headerLen input).2, ← List.append_assoc]
    rfl

-- The flag says nothing about the cache, which the copy loop then skips.
theorem replaceable_iff {headerLen : Nat} {stream delivered : Bytes} {inputs : List ReadInput} {c : HTTPConn}
    (run : HTTPConn.reads headerLen { conn := stream } inputs = (delivered, c)) :
    delivered ++ c.rest headerLen = stream.drop headerLen ∧
      (c.rest headerLen ≠ [] → ∀ input, (c.read headerLen input).1 ≠ []) ∧
      (c.readerReplaceable = true → (c.conn = c.rest headerLen ↔ c.responseCache.getD [] = [])) := by
  refine ⟨?_, fun left input => (read_rest headerLen c input).2 left, fun replaceable => ?_⟩
  · have whole := reads_rest headerLen { conn := stream } inputs
    rw [run] at whole
    exact whole
  · rw [HTTPConn.readerReplaceable] at replaceable
    rw [HTTPConn.rest, if_pos replaceable, List.self_eq_append_left]

theorem cache_skipped_counterexample :
    HTTPConn.reads 1 { conn := [0, 1, 2] } [⟨2, 1, 1, by decide⟩] = ([1], ⟨[], true, some [2]⟩) ∧
      HTTPConn.readerReplaceable ⟨[], true, some [2]⟩ = true ∧ HTTPConn.rest 1 ⟨[], true, some [2]⟩ = [2] := ⟨rfl, rfl, rfl⟩

theorem cache_read_replaceable : [1] ++ HTTPConn.rest 1 ⟨[2], true, some []⟩ = [1, 2] :=
  (replaceable_iff (show HTTPConn.reads 1 { conn := [0, 1, 2] } [⟨1, 1, 1, by decide⟩] = _ from rfl)).1

end OtunKernel.V2rayHttp
