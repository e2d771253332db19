import OtunKernel.TlsFragment.Walk

namespace OtunKernel.TlsFragment

open Lib Outcome

-- tcpConn tells whether a TCP connection was found below the wrapped one.
structure Conn where
  tcpConn : Bool
  firstPacketWritten : Bool := false
  splitPacket : Bool
  splitRecord : Bool
deriving DecidableEq

inductive Via where
  | tcpConn
  | conn
deriving DecidableEq

structure Link where
  written : List (Via × Bytes) := []
  calls : Nat := 0
deriving DecidableEq

-- The public suffix list, the random numbers, and which calls fail: with an
-- error, after a number of bytes.
structure World where
  publicSuffix : Bytes → Bytes
  random : Nat → Nat
  fault : Nat → Option (Nat × String)

def Link.send (world : World) (link : Link) (via : Via) (payload : Bytes) : Option String × Link :=
  match world.fault link.calls with
  | none => (none, { written := link.written ++ [(via, payload)], calls := link.calls + 1 })
  | some (accepted, err) => (some err, { written := link.written ++ [(via, payload.take accepted)], calls := link.calls + 1 })

def Link.control (world : World) (link : Link) : Option String × Link :=
  ((world.fault link.calls).map Prod.snd, { link with calls := link.calls + 1 })

def writeAndWaitAck (world : World) (link : Link) (payload : Bytes) : Option String × Link :=
  match link.send world .tcpConn payload with
  | (some err, link) => (some err, link)
  | (none, link) => link.control world

def dot : UInt8 := 46

def intn (random n : Nat) : Outcome Empty Nat := if n = 0 then .panic else .ok (random % n)

def splitLabels (publicSuffix : Bytes → Bytes) (serverName : MyServerName) : Outcome Empty (List Bytes × Nat) :=
  let splits := serverName.serverName.splitOn dot
  let currentIndex := serverName.index
  let count := serverName.serverName.count dot
  let kept : Outcome Empty (List Bytes) :=
    if publicSuffix serverName.serverName ≠ [] then
      if count ≤ splits.length then sliceOf splits 0 (splits.length - count) else .panic
    else .ok splits
  kept >>= fun splits =>
    if 1 < splits.length ∧ splits.head? = some [dot, dot, dot] then
      sliceFrom splits 1 >>= fun rest => .ok (rest, currentIndex + (3 + 1))
    else .ok (splits, currentIndex)

def splitIndexesFrom (random : Nat → Nat) : Nat → Nat → List Bytes → Outcome Empty (List Nat)
  | _, _, [] => .ok []
  | i, currentIndex, split :: rest => do
    let splitAt ← intn (random i) split.length
    let later ← splitIndexesFrom random (i + 1) (currentIndex + split.length + if rest.isEmpty then 0 else 1) rest
    .ok ((currentIndex + splitAt) :: later)

def pieceAt (splitRecord : Bool) (b : Bytes) (splitIndexes : List Nat) (i : Nat) : Outcome Empty Bytes :=
  if i = 0 then do
    let payload ← sliceOf b 0 (← indexAt splitIndexes 0)
    if splitRecord then sliceFrom payload recordLayerHeaderLen else .ok payload
  else if i = splitIndexes.length then do
    sliceFrom b (← indexAt splitIndexes (i - 1))
  else do
    sliceOf b (← indexAt splitIndexes (i - 1)) (← indexAt splitIndexes i)

def tlsRecord (head payload : Bytes) : Bytes := head ++ putUint16 (UInt16.ofNat payload.length) ++ payload

def frame (conn : Conn) (b buffer payload : Bytes) : Outcome Empty (Bytes × Bytes) :=
  if conn.splitRecord then do
    let head ← sliceOf b 0 3
    let buffer := (if conn.splitPacket then [] else buffer) ++ tlsRecord head payload
    .ok (buffer, if conn.splitPacket then buffer else payload)
  else .ok (buffer, payload)

def writeLoop (world : World) (conn : Conn) (b : Bytes) (splitIndexes : List Nat) :
    List Nat → Bytes → Link → Outcome Empty (Option String × Bytes × Link)
  | [], buffer, link => .ok (none, buffer, link)
  | i :: rest, buffer, link => do
    let payload ← pieceAt conn.splitRecord b splitIndexes i
    let (buffer, payload) ← frame conn b buffer payload
    if conn.splitPacket then
      let sent := if conn.tcpConn && i != splitIndexes.length then writeAndWaitAck world link payload
        else link.send world .conn payload
      match sent with
      | (some err, link) => .ok (some err, buffer, link)
      | (none, link) => writeLoop world conn b splitIndexes rest buffer link
    else writeLoop world conn b splitIndexes rest buffer link

structure WriteResult where
  n : Nat
  err : Option String
  conn : Conn
  link : Link
deriving DecidableEq

def Conn.passThrough (world : World) (conn : Conn) (link : Link) (b : Bytes) : WriteResult :=
  match world.fault link.calls with
  | none => ⟨b.length, none, conn, (link.send world .conn b).2⟩
  | some (accepted, err) => ⟨accepted, some err, conn, (link.send world .conn b).2⟩

def Conn.writeSplit (world : World) (conn : Conn) (link : Link) (b : Bytes) (serverName : MyServerName) :
    Outcome Empty WriteResult := do
  let (splits, currentIndex) ← splitLabels world.publicSuffix serverName
  let splitIndexes ← splitIndexesFrom world.random 0 currentIndex splits
  match ← writeLoop world conn b splitIndexes (List.range (splitIndexes.length + 1)) [] link with
  | (some err, _, link) => .ok ⟨0, some err, conn, link⟩
  | (none, buffer, link) =>
    let sent := if conn.splitRecord && !conn.splitPacket then link.send world .conn buffer else (none, link)
    match sent with
    | (some err, link) => .ok ⟨0, some err, conn, link⟩
    | (none, link) =>
      let reset := if conn.tcpConn then link.control world else (none, link)
      match reset with
      | (some err, link) => .ok ⟨0, some err, conn, link⟩
      | (none, link) => .ok ⟨b.length, none, conn, link⟩

def Conn.write (world : World) (fuel : Nat) (conn : Conn) (link : Link) (b : Bytes) : Outcome Empty WriteResult :=
  if conn.firstPacketWritten then .ok (conn.passThrough world link b)
  else do
    let conn := { conn with firstPacketWritten := true }
    match ← indexTLSServerName fuel b with
    | none => .ok (conn.passThrough world link b)
    | some serverName =>
      let noDelay := if conn.splitPacket && conn.tcpConn then link.control world else (none, link)
      match noDelay with
      | (some err, link) => .ok ⟨0, some err, conn, link⟩
      | (none, link) => conn.writeSplit world link b serverName

def keptLabels (publicSuffix : Bytes → Bytes) (name : Bytes) : List Bytes :=
  if publicSuffix name ≠ [] then (name.splitOn dot).take 1 else name.splitOn dot

theorem split_labels_eq (publicSuffix : Bytes → Bytes) (serverName : MyServerName) :
    splitLabels publicSuffix serverName = .ok (keptLabels publicSuffix serverName.serverName, serverName.index) := by
  have length := length_splitOn dot serverName.serverName
  have kept : (if publicSuffix serverName.serverName ≠ [] then
      if serverName.serverName.count dot ≤ (serverName.serverName.splitOn dot).length then
        sliceOf (serverName.serverName.splitOn dot) 0
          ((serverName.serverName.splitOn dot).length - serverName.serverName.count dot)
      else .panic
    else .ok (serverName.serverName.splitOn dot) : Outcome Empty (List Bytes)) =
      .ok (keptLabels publicSuffix serverName.serverName) := by
    rw [keptLabels]
    by_cases suffix : publicSuffix serverName.serverName ≠ []
    · grind [slice_of_eq]
    · rw [if_neg suffix, if_neg suffix]
  have dotless : (keptLabels publicSuffix serverName.serverName).head? ≠ some [dot, dot, dot] := by
    intro head
    have member : [dot, dot, dot] ∈ serverName.serverName.splitOn dot := by
      rw [keptLabels] at head
      split at head
      · exact List.mem_of_mem_take (List.mem_of_mem_head? head)
      · exact List.mem_of_mem_head? head
    exact not_mem_of_mem_splitOn member List.mem_cons_self
  rw [splitLabels, kept, ok_bind, if_neg (fun both => dotless both.2)]

def labelSpan (labels : List Bytes) : Nat := (labels.map List.length).sum + (labels.length - 1)

variable {labels : List Bytes}

theorem split_indexes_ok (random : Nat → Nat) (i currentIndex : Nat) (full : ∀ label ∈ labels, label ≠ []) :
    ∃ indexes, splitIndexesFrom random i currentIndex labels = .ok indexes ∧ indexes.length = labels.length ∧
      indexes.Pairwise (· < ·) ∧ ∀ index ∈ indexes, currentIndex ≤ index ∧ index + 1 ≤ currentIndex + labelSpan labels := by
  induction labels generalizing i currentIndex with
  | nil => exact ⟨[], rfl, rfl, List.Pairwise.nil, by simp⟩
  | cons label rest ih =>
    have some_bytes : 0 < label.length := by grind
    obtain ⟨later, done, count, ordered, inside⟩ := ih (i + 1) (currentIndex + label.length + if rest.isEmpty then 0 else 1)
      (fun other member => full other (List.mem_cons_of_mem label member))
    have drawn : random i % label.length < label.length := Nat.mod_lt _ some_bytes
    have span : labelSpan (label :: rest) = label.length + (if rest.isEmpty then 0 else 1) + labelSpan rest := by
      grind [labelSpan]
    refine ⟨(currentIndex + random i % label.length) :: later, ?_, ?_, ?_, ?_⟩
    · rw [splitIndexesFrom, intn, if_neg (by omega), ok_bind, done, ok_bind]
    · rw [List.length_cons, List.length_cons, count]
    · refine List.Pairwise.cons (fun index member => ?_) ordered
      have bounds := inside index member
      omega
    · grind

theorem split_indexes_panic (random : Nat → Nat) (i currentIndex : Nat) (gap : [] ∈ labels) :
    splitIndexesFrom random i currentIndex labels = .panic := by
  induction labels generalizing i currentIndex with
  | nil => cases gap
  | cons label rest ih =>
    rw [splitIndexesFrom, intn]
    by_cases empty : label.length = 0
    · simp [empty]
    have other : [] ∈ rest := by simp_all
    simp [empty, ok_bind, ih _ _ other]

theorem split_indexes_last (i currentIndex : Nat) {last : Bytes} (full : ∀ label ∈ labels, label ≠ [])
    (ends : labels.getLast? = some last) :
    ∃ indexes, splitIndexesFrom (fun _ => last.length - 1) i currentIndex labels = .ok indexes ∧
      indexes.getLast? = some (currentIndex + labelSpan labels - 1) := by
  induction labels generalizing i currentIndex with
  | nil => cases ends
  | cons label rest ih =>
    have some_bytes : 0 < label.length := by grind
    cases rest with
    | nil =>
      refine ⟨[currentIndex + (label.length - 1)], ?_, ?_⟩
      · simp_all [splitIndexesFrom, intn]
      · grind [labelSpan]
    | cons next others =>
      obtain ⟨later, done, final⟩ := ih (i + 1) (currentIndex + label.length + 1)
        (fun other member => full other (List.mem_cons_of_mem label member)) (by rwa [List.getLast?_cons_cons] at ends)
      refine ⟨(currentIndex + (last.length - 1) % label.length) :: later, ?_, ?_⟩
      · simp_all [splitIndexesFrom, intn]
      · grind [labelSpan]

end OtunKernel.TlsFragment
