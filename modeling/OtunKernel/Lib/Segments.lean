import Mathlib.Data.List.TakeDrop

namespace OtunKernel.Lib

variable {α β γ : Type}

-- A stream as a connection delivers it: in segments, with its end reported
-- together with the last one or by a read of its own.
structure Segmented (α : Type) where
  segments : List (List α)
  endsWithLast : Bool

def Segmented.stream (conn : Segmented α) : List α := conn.segments.flatten

def Segmented.read (conn : Segmented α) (size : Nat) : List α × Bool × Segmented α :=
  match conn.segments with
  | [] => ([], true, conn)
  | segment :: rest =>
    if size < segment.length then (segment.take size, false, { conn with segments := segment.drop size :: rest })
    else (segment, rest.isEmpty && conn.endsWithLast, { conn with segments := rest })

def readFullFrom : Nat → List (List α) → Option (List α × List (List α))
  | 0, segments => some ([], segments)
  | _ + 1, [] => none
  | size + 1, segment :: rest =>
    if size + 1 < segment.length then some (segment.take (size + 1), segment.drop (size + 1) :: rest)
    else (readFullFrom (size + 1 - segment.length) rest).map (fun later => (segment ++ later.1, later.2))

def Segmented.readFull (conn : Segmented α) (size : Nat) : Option (List α × Segmented α) :=
  (readFullFrom size conn.segments).map (fun read => (read.1, { conn with segments := read.2 }))

theorem read_stream (conn : Segmented α) (size : Nat) : (conn.read size).1 ++ (conn.read size).2.2.stream = conn.stream := by
  unfold Segmented.read Segmented.stream
  split
  · simp
  rename_i segment rest front
  rw [front]
  split
  · simp [← List.append_assoc]
  · simp

variable {conn : Segmented α} {size : Nat}

theorem read_ended (ended : (conn.read size).2.1 = true) : (conn.read size).2.2.stream = [] := by
  unfold Segmented.read at ended ⊢
  cases front : conn.segments with
  | nil =>
    simp [Segmented.stream, front]
  | cons =>
    simp only [front] at ended ⊢
    split at ended
    · contradiction
    rename_i large
    rw [Bool.and_eq_true, List.isEmpty_iff] at ended
    rw [if_neg large, ended.1]
    rfl

theorem read_full_from_spec (size : Nat) (segments : List (List α)) :
    if size ≤ segments.flatten.length then
      ∃ left, readFullFrom size segments = some (segments.flatten.take size, left) ∧ left.flatten = segments.flatten.drop size
    else readFullFrom size segments = none := by
  induction segments generalizing size with
  | nil =>
    cases size with
    | zero => exact ⟨[], rfl, rfl⟩
    | succ => rfl
  | cons segment rest ih =>
    cases size with
    | zero => exact ⟨segment :: rest, rfl, rfl⟩
    | succ size =>
      rw [List.flatten_cons, List.length_append, readFullFrom]
      by_cases short : size + 1 < segment.length
      · grind
      have later := ih (size + 1 - segment.length)
      by_cases enough : size + 1 ≤ segment.length + rest.flatten.length
      · rw [if_pos (by omega)] at later
        obtain ⟨left, done, stays⟩ := later
        rw [if_pos enough, if_neg short, done]
        have whole : segment.length ≤ size + 1 := Nat.not_lt.mp short
        refine ⟨left, ?_, ?_⟩
        · rw [Option.map_some, List.take_append, List.take_of_length_le whole]
        · rw [stays, List.drop_append, List.drop_eq_nil_of_le whole, List.nil_append]
      · grind

theorem read_full_enough (enough : size ≤ conn.stream.length) :
    ∃ left, conn.readFull size = some (conn.stream.take size, left) ∧ left.stream = conn.stream.drop size := by
  have spec := read_full_from_spec size conn.segments
  rw [Segmented.stream] at enough
  rw [if_pos enough] at spec
  obtain ⟨left, done, stays⟩ := spec
  exact ⟨{ conn with segments := left }, by rw [Segmented.readFull, done]; rfl, stays⟩

-- A parser that only ever reads a number of items in full; onEnd is its error
-- if the stream ends before.
inductive Reader (α : Type) (β : Type) where
  | done (value : β)
  | fail (error : String)
  | readFull (size : Nat) (onEnd : String) (next : List α → Reader α β)

namespace Reader

def bind : Reader α β → (β → Reader α γ) → Reader α γ
  | .done value, next => next value
  | .fail error, _ => .fail error
  | .readFull size onEnd first, next => .readFull size onEnd (fun items => (first items).bind next)

def mapError (f : String → String) : Reader α β → Reader α β
  | .done value => .done value
  | .fail error => .fail (f error)
  | .readFull size onEnd next => .readFull size (f onEnd) (fun items => (next items).mapError f)

def run : Reader α β → Segmented α → Except String (β × Segmented α)
  | .done value, conn => .ok (value, conn)
  | .fail error, _ => .error error
  | .readFull size onEnd next, conn =>
    match conn.readFull size with
    | none => .error onEnd
    | some (items, left) => (next items).run left

def parse : Reader α β → List α → Except String (β × List α)
  | .done value, stream => .ok (value, stream)
  | .fail error, _ => .error error
  | .readFull size onEnd next, stream =>
    if size ≤ stream.length then (next (stream.take size)).parse (stream.drop size) else .error onEnd

-- What a parser leaves of the stream, also where it fails.
def left : Reader α β → List α → List α
  | .done _, stream | .fail _, stream => stream
  | .readFull size _ next, stream => if size ≤ stream.length then (next (stream.take size)).left (stream.drop size) else []

theorem left_nil (reader : Reader α β) : reader.left [] = [] := by
  induction reader with
  | done | fail => rfl
  | readFull _ _ _ ih =>
    rw [left]
    split
    · simpa using ih _
    · rfl

@[simp] theorem parse_bind (reader : Reader α β) (next : β → Reader α γ) (stream : List α) :
    (reader.bind next).parse stream =
      match reader.parse stream with
      | .ok (value, left) => (next value).parse left
      | .error error => .error error := by
  induction reader generalizing stream with
  | done | fail => rfl
  | readFull _ _ _ ih => grind [bind, parse]

@[simp] theorem parse_map_error (f : String → String) (reader : Reader α β) (stream : List α) :
    (reader.mapError f).parse stream = (reader.parse stream).mapError f := by
  induction reader generalizing stream with
  | done | fail => rfl
  | readFull _ _ _ ih =>
    rw [mapError, parse, parse]
    split
    · exact ih _ _
    · rfl

theorem parse_read_full {onEnd : String} {next : List α → Reader α β} {items rest : List α}
    (length : items.length = size) : (readFull size onEnd next).parse (items ++ rest) = (next items).parse rest := by
  grind [parse]

theorem run_of_parse_ok {reader : Reader α β} {value : β} {left : List α}
    (parsed : reader.parse conn.stream = .ok (value, left)) : ∃ rest, reader.run conn = .ok (value, rest) ∧ rest.stream = left := by
  induction reader generalizing conn with
  | done =>
    cases parsed
    exact ⟨conn, rfl, rfl⟩
  | fail => contradiction
  | readFull _ _ _ ih =>
    rw [parse] at parsed
    split at parsed
    · rename_i enough
      obtain ⟨_, read, stays⟩ := read_full_enough enough
      rw [← stays] at parsed
      obtain ⟨rest, done, same⟩ := ih _ parsed
      exact ⟨rest, by rw [run, read]; exact done, same⟩
    · contradiction

end Reader

end OtunKernel.Lib
