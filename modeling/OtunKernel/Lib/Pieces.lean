import OtunKernel.Lib.Decoder

namespace OtunKernel.Lib

variable {ε α : Type} {piece : Bytes} {size : Nat}

-- One read from buffers that stand one after another. It does not go beyond
-- the first buffer with something in it.
def readOnce (size : Nat) : List Bytes → Bytes × List Bytes
  | [] => ([], [])
  | [] :: rest => readOnce size rest
  | (byte :: piece) :: rest => ((byte :: piece).take size, (byte :: piece).drop size :: rest)

def readPieces : Nat → List Bytes → Bytes × List Bytes
  | _, [] => ([], [])
  | size, piece :: rest =>
    if size ≤ piece.length then (piece.take size, piece.drop size :: rest)
    else (piece ++ (readPieces (size - piece.length) rest).1, (readPieces (size - piece.length) rest).2)

theorem read_pieces_fits (fits : size ≤ piece.length) (rest : List Bytes) :
    readPieces size (piece :: rest) = (piece.take size, piece.drop size :: rest) := by
  rw [readPieces, if_pos fits]

theorem read_pieces_short (short : ¬ size ≤ piece.length) (rest : List Bytes) : readPieces size (piece :: rest) =
      (piece ++ (readPieces (size - piece.length) rest).1, (readPieces (size - piece.length) rest).2) := by
  rw [readPieces, if_neg short]

theorem read_pieces_bytes (size : Nat) (pieces : List Bytes) : (readPieces size pieces).1 = pieces.flatten.take size := by
  induction pieces generalizing size with
  | nil => simp [readPieces]
  | cons piece _ ih =>
    rw [List.flatten_cons]
    by_cases fits : size ≤ piece.length
    · rw [read_pieces_fits fits, List.take_append_of_le_length fits]
    · rw [read_pieces_short fits, ih, List.take_append, List.take_of_length_le (Nat.le_of_lt (Nat.not_le.mp fits))]

theorem read_pieces_rest (size : Nat) (pieces : List Bytes) : (readPieces size pieces).2.flatten = pieces.flatten.drop size := by
  induction pieces generalizing size with
  | nil => simp [readPieces]
  | cons piece _ ih =>
    rw [List.flatten_cons]
    by_cases fits : size ≤ piece.length
    · rw [read_pieces_fits fits, List.flatten_cons, List.drop_append_of_le_length fits]
    · rw [read_pieces_short fits, ih, List.drop_append, List.drop_eq_nil_of_le (Nat.le_of_lt (Nat.not_le.mp fits)), List.nil_append]

theorem read_once_spec (size : Nat) (positive : 0 < size) (pieces : List Bytes) :
    (readOnce size pieces).1 = pieces.flatten.take (readOnce size pieces).1.length ∧ (readOnce size pieces).1.length ≤ size ∧
      ((readOnce size pieces).1 = [] → pieces.flatten = []) := by
  induction pieces with
  | nil => simp [readOnce]
  | cons piece _ ih =>
    cases piece with
    | nil => exact ih
    | cons =>
      rw [readOnce]
      refine ⟨?_, List.length_take_le _ _, ?_⟩
      · grind
      intro empty
      rw [List.take_eq_nil_iff] at empty
      grind

def Grown (pieces longer : List Bytes) : Prop := ∃ front last more, pieces = front ++ [last] ∧ longer = front ++ [last ++ more]

variable {pieces longer : List Bytes} {more : ε → Prop}

theorem Grown.flatten (grown : Grown pieces longer) : pieces.flatten <+: longer.flatten := by
  obtain ⟨_, _, more, rfl, rfl⟩ := grown
  exact ⟨more, by simp⟩

theorem read_once_grown (size : Nat) (grown : Grown pieces longer) : (readOnce size pieces).1 <+: (readOnce size longer).1 := by
  obtain ⟨front, last, more, rfl, rfl⟩ := grown
  induction front with
  | nil =>
    cases last with
    | nil => exact List.nil_prefix
    | cons byte last =>
      change (byte :: last).take size <+: (byte :: last ++ more).take size
      grind
  | cons piece _ ih =>
    cases piece with
    | nil => exact ih
    | cons => exact List.prefix_refl _

theorem read_pieces_grown (size : Nat) (enough : size ≤ pieces.flatten.length) (grown : Grown pieces longer) :
    (readPieces size longer).1 = (readPieces size pieces).1 ∧ Grown (readPieces size pieces).2 (readPieces size longer).2 := by
  obtain ⟨front, last, more, rfl, rfl⟩ := grown
  induction front generalizing size with
  | nil =>
    have fits : size ≤ last.length := by simpa using enough
    have longer : size ≤ (last ++ more).length := by rw [List.length_append]; omega
    rw [List.nil_append, List.nil_append, read_pieces_fits fits, read_pieces_fits longer, List.take_append_of_le_length fits,
      List.drop_append_of_le_length fits]
    exact ⟨rfl, [], last.drop size, more, rfl, rfl⟩
  | cons piece rest ih =>
    rw [List.cons_append, List.cons_append]
    by_cases fits : size ≤ piece.length
    · rw [read_pieces_fits fits, read_pieces_fits fits]
      exact ⟨rfl, piece.drop size :: rest, last, more, rfl, rfl⟩
    rw [read_pieces_short fits, read_pieces_short fits]
    grind

namespace Decoder

def runPieces (limit : Nat) : Decoder ε α → List Bytes → Outcome ε (α × List Bytes)
  | .done value, pieces => .ok (value, pieces)
  | .fail err, _ => .error err
  | .running, _ => .running
  | .take size onEnd next, pieces =>
    let read := readPieces size pieces
    if read.1.length = size then (next read.1).runPieces limit read.2 else .error (onEnd none (read.1.length == 0))
  | .make size next, pieces => if size ≤ limit then next.runPieces limit pieces else .panic

theorem run_pieces (limit : Nat) (decoder : Decoder ε α) (pieces : List Bytes) :
    (decoder.runPieces limit pieces >>= fun read => .ok (read.1, read.2.flatten)) = decoder.run limit none pieces.flatten := by
  induction decoder generalizing pieces with
  | done | fail | running => rfl
  | take size _ _ ih =>
    rw [runPieces, run]
    by_cases enough : size ≤ pieces.flatten.length
    · grind [read_pieces_bytes, read_pieces_rest]
    have whole : (readPieces size pieces).1 = pieces.flatten := by
      rw [read_pieces_bytes, List.take_of_length_le (Nat.le_of_lt (Nat.not_le.mp enough))]
    rw [if_neg enough, whole, if_neg (fun same => enough (Nat.le_of_eq same.symm))]
    rfl
  | make _ _ ih =>
    rw [runPieces, run]
    split
    · exact ih pieces
    · rfl

def AsksFor (more : ε → Prop) : Decoder ε α → Prop
  | .done _ => True
  | .fail _ => True
  | .running => True
  | .take _ onEnd next => (∀ broken nothing, more (onEnd broken nothing)) ∧ ∀ bytes, (next bytes).AsksFor more
  | .make _ next => next.AsksFor more

theorem asks_for_bind {β : Type} {first : Decoder ε α} {next : α → Decoder ε β} (before : first.AsksFor more)
    (after : ∀ value, (next value).AsksFor more) : (first >>= next).AsksFor more := by
  induction first with
  | done value => exact after value
  | fail | running => trivial
  | take _ _ _ ih => exact ⟨before.1, fun bytes => ih bytes (before.2 bytes)⟩
  | make _ _ ih => exact ih before

variable {limit : Nat} {broken : Option ε}

theorem run_append {decoder : Decoder ε α} (asks : decoder.AsksFor more) (bytes later : Bytes) :
    (∃ err, more err ∧ decoder.run limit broken bytes = .error err) ∨
      decoder.run limit broken (bytes ++ later) = (decoder.run limit broken bytes >>= fun read => .ok (read.1, read.2 ++ later)) := by
  induction decoder generalizing bytes with
  | done | fail | running => exact .inr rfl
  | take size _ _ ih =>
    rw [run, run]
    by_cases enough : size ≤ bytes.length
    · rw [if_pos enough, if_pos (by rw [List.length_append]; omega), List.take_append_of_le_length enough,
        List.drop_append_of_le_length enough]
      exact ih _ (asks.2 _) _
    rw [if_neg enough]
    exact .inl ⟨_, asks.1 _ _, rfl⟩
  | make _ _ ih =>
    rw [run, run]
    split
    · exact ih asks bytes
    · exact .inr rfl

end Decoder

end OtunKernel.Lib
