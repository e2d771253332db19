import OtunKernel.Lib.Runs

namespace OtunKernel.Punch

open Lib

def relayMagic : List UInt8 := [79, 84, 82, 76]
def relayNonceLen : Nat := 16
def relayJoinLen : Nat := 4 + relayNonceLen

abbrev Nonce := { bytes : List UInt8 // bytes.length = relayNonceLen }

def encodeRelayJoin (nonce : Nonce) : List UInt8 := relayMagic ++ nonce.val

def isRelayJoinAck (payload : List UInt8) (nonce : Nonce) : Bool :=
  if payload.length ≠ relayJoinLen then false
  else if payload.take 4 ≠ relayMagic then false
  else payload.drop 4 == nonce.val

inductive ReadResult (A : Type) where
  | failed (err : String)
  | datagram (source : Option A) (payload : List UInt8)

-- The goroutine of relayJoin itself; from closeRead on it has its result, with
-- nil for success, and runs the deferred calls.
inductive ReaderPhase where
  | calling
  | reading
  | readFailed (err : String)
  | acked
  | closeRead (err : Option String)
  | closeSend (err : Option String)
  | cancel (err : Option String)
  | returned (err : Option String)
deriving DecidableEq

inductive ResendPhase where
  | sending
  | selecting
  | finished

inductive WatcherPhase where
  | starting
  | parked
  | expired
  | finished
deriving DecidableEq

structure RelayJoin where
  reader : ReaderPhase := .calling
  resend : ResendPhase := .sending
  watcher : WatcherPhase := .starting
  ctxDone : Bool := false
  readDone : Bool := false
  sendDone : Bool := false
  -- the read deadline of the socket is one that relayJoin has set
  deadline : Bool := false

-- The channel that wakes a parked select decides its branch.
def RelayJoin.cancelCtx (join : RelayJoin) : RelayJoin :=
  { join with ctxDone := true, watcher := if join.watcher = .parked then .expired else join.watcher }

def RelayJoin.closeReadDone (join : RelayJoin) : RelayJoin :=
  { join with readDone := true, watcher := if join.watcher = .parked then .finished else join.watcher }

section
variable {A : Type} [DecidableEq A]

def readerStep (relayAddr : A) (nonce : Nonce) (result : ReadResult A) (join : RelayJoin) : Option RelayJoin :=
  match join.reader with
  | .calling => some { join with reader := if join.deadline then .readFailed "i/o timeout" else .reading }
  | .reading =>
    match result with
    | .failed err => some { join with reader := .readFailed err }
    | .datagram source payload =>
      if source ≠ some relayAddr then some { join with reader := .calling }
      else if !isRelayJoinAck payload nonce then some { join with reader := .calling }
      else some { join with reader := .acked }
  | .readFailed err =>
    some { join with reader := .closeRead (some (if join.ctxDone then "relay pairing timeout" else "read relay ack: " ++ err)) }
  | .acked => some { join with reader := .closeRead none, deadline := false }
  | .closeRead err => some { join.closeReadDone with reader := .closeSend err }
  | .closeSend err => some { join with reader := .cancel err, sendDone := true }
  | .cancel err => some { join.cancelCtx with reader := .returned err }
  | .returned _ => none

inductive Ready where
  | tick
  | sendDone
  | readDone
  | ctxDone

def resendStep (ready : Ready) (join : RelayJoin) : Option RelayJoin :=
  match join.resend, ready with
  | .sending, _ => some { join with resend := .selecting }
  | .selecting, .tick => some { join with resend := .sending }
  | .selecting, .sendDone => if join.sendDone then some { join with resend := .finished } else none
  | .selecting, .ctxDone => if join.ctxDone then some { join with resend := .finished } else none
  | .selecting, .readDone => none
  | .finished, _ => none

def watcherStep (ready : Ready) (join : RelayJoin) : Option RelayJoin :=
  match join.watcher with
  | .starting =>
    if join.ctxDone = false ∧ join.readDone = false then some { join with watcher := .parked }
    else
      match ready with
      | .ctxDone => if join.ctxDone then some { join with watcher := .expired } else none
      | .readDone => if join.readDone then some { join with watcher := .finished } else none
      | _ => none
  | .parked => none
  | .expired => some { join with watcher := .finished, deadline := true }
  | .finished => none

-- expire is the end of the context from outside: its timeout or the
-- cancellation of its parent.
inductive JoinEvent (A : Type) where
  | expire
  | reader (result : ReadResult A)
  | resend (ready : Ready)
  | watcher (ready : Ready)

def relayJoinStep (relayAddr : A) (nonce : Nonce) : System RelayJoin (JoinEvent A)
  | join, .expire => if join.ctxDone then none else some join.cancelCtx
  | join, .reader result => readerStep relayAddr nonce result join
  | join, .resend ready => resendStep ready join
  | join, .watcher ready => watcherStep ready join

end

def ReaderPhase.result : ReaderPhase → Option (Option String)
  | .closeRead err => some err
  | .closeSend err => some err
  | .cancel err => some err
  | .returned err => some err
  | _ => none

def ReaderPhase.cleared (phase : ReaderPhase) : Bool :=
  match phase.result with
  | some none => true
  | _ => false

def RelayJoin.Clean (join : RelayJoin) : Prop := join.reader = .returned none → join.deadline = false

def WatcherInTime {A : Type} (join : RelayJoin) : JoinEvent A → Prop
  | .expire => join.watcher = .parked → join.reader.cleared = false
  | .watcher .ctxDone => join.watcher = .starting → join.reader.cleared = false
  | .reader _ => join.reader = .acked → join.watcher ≠ .expired
  | _ => True

instance {A : Type} (join : RelayJoin) : (event : JoinEvent A) → Decidable (WatcherInTime join event)
  | .expire => inferInstanceAs (Decidable (join.watcher = .parked → join.reader.cleared = false))
  | .watcher .ctxDone => inferInstanceAs (Decidable (join.watcher = .starting → join.reader.cleared = false))
  | .reader _ => inferInstanceAs (Decidable (join.reader = .acked → join.watcher ≠ .expired))
  | .resend _ => isTrue trivial
  | .watcher .tick => isTrue trivial
  | .watcher .sendDone => isTrue trivial
  | .watcher .readDone => isTrue trivial

structure RelayJoin.Safe (join : RelayJoin) : Prop where
  cleared : join.reader.cleared = true → join.deadline = false ∧ join.watcher ≠ .expired
  parked : join.readDone = true → join.watcher ≠ .parked
  late : ∀ err, join.reader = .closeSend err ∨ join.reader = .cancel err → join.readDone = true

section
variable {A : Type} [DecidableEq A] {relayAddr : A} {nonce : Nonce} {join next : RelayJoin} {ready : Ready}

theorem safe_reader {result : ReadResult A} (safe : join.Safe) (inTime : join.reader = .acked → join.watcher ≠ .expired)
    (taken : readerStep relayAddr nonce result join = some next) : next.Safe := by
  obtain ⟨cleared, parked, late⟩ := safe
  revert taken
  fun_cases readerStep relayAddr nonce result join <;> rintro ⟨⟩
  case case1 =>
    refine ⟨fun clear => ?_, parked, ?_⟩
    · split at clear <;> contradiction
    · grind
  case case7 acked => exact ⟨fun _ => ⟨rfl, inTime acked⟩, parked, by simp⟩
  case case8 result closing =>
    refine ⟨fun clear => ?_, fun _ => ?_, fun _ _ => rfl⟩
    · have before : join.reader.cleared = true := by rw [closing]; exact clear
      grind [RelayJoin.closeReadDone]
    · grind [RelayJoin.closeReadDone]
  case case9 result closing =>
    exact ⟨fun clear => cleared (by rw [closing]; exact clear), parked, fun _ _ => late result (.inl closing)⟩
  case case10 result cancelling =>
    have unparked := parked (late result (.inr cancelling))
    have same : join.cancelCtx.watcher = join.watcher := if_neg unparked
    refine ⟨fun clear => ?_, fun closed => ?_, by simp⟩
    · exact ⟨(cleared (by rw [cancelling]; exact clear)).1, same ▸ (cleared (by rw [cancelling]; exact clear)).2⟩
    · exact same ▸ parked closed
  all_goals exact ⟨fun clear => by contradiction, parked, by simp⟩

theorem safe_resend (safe : join.Safe) (taken : resendStep ready join = some next) : next.Safe := by
  revert taken
  fun_cases resendStep ready join <;> rintro ⟨⟩ <;> exact ⟨safe.cleared, safe.parked, safe.late⟩

theorem safe_watcher (safe : join.Safe) (inTime : ready = .ctxDone → join.watcher = .starting → join.reader.cleared = false)
    (taken : watcherStep ready join = some next) : next.Safe := by
  obtain ⟨cleared, _, late⟩ := safe
  revert inTime taken
  fun_cases watcherStep ready join <;> rintro inTime ⟨⟩
  · rename_i nothing
    exact ⟨fun clear => ⟨(cleared clear).1, by simp⟩, fun closed => by rw [nothing.2] at closed; contradiction, late⟩
  · rename_i starting _ _
    refine ⟨fun clear => ?_, fun _ => by simp, late⟩
    have early := inTime rfl starting
    simp [show join.reader.cleared = true from clear] at early
  · exact ⟨fun clear => ⟨(cleared clear).1, by simp⟩, fun _ => by simp, late⟩
  · rename_i expired
    exact ⟨fun clear => absurd expired (cleared clear).2, fun _ => by simp, late⟩

theorem safe_step {event : JoinEvent A} (safe : join.Safe) (inTime : WatcherInTime join event)
    (taken : relayJoinStep relayAddr nonce join event = some next) : next.Safe := by
  cases event with
  | expire =>
    dsimp only [relayJoinStep] at taken
    split at taken
    · contradiction
    cases taken
    refine ⟨fun clear => ⟨(safe.cleared clear).1, ?_⟩, fun closed => ?_, safe.late⟩
    · dsimp only [RelayJoin.cancelCtx]
      split
      · rename_i parked
        have early := inTime parked
        simp [show join.reader.cleared = true from clear] at early
      · exact (safe.cleared clear).2
    · grind [RelayJoin.cancelCtx]
  | reader => exact safe_reader safe inTime taken
  | resend => exact safe_resend safe taken
  | watcher =>
    refine safe_watcher safe ?_ taken
    rintro rfl
    exact inTime

theorem returned_socket_clean (run : Run (relayJoinStep relayAddr nonce) WatcherInTime {} join) : join.Clean := by
  have safe : join.Safe := by
    refine run.invariant RelayJoin.Safe ⟨fun clear => by contradiction, fun closed => by contradiction, by simp⟩ ?_
    grind [safe_step]
  intro returned
  exact (safe.cleared (by rw [returned]; rfl)).1

end

def exampleNonce : Nonce := ⟨List.replicate 16 7, rfl⟩

def exampleAck : ReadResult Nat := .datagram (some 0) (encodeRelayJoin exampleNonce)

theorem returned_socket_clean_parked : ∃ join : RelayJoin,
    Run (relayJoinStep 0 exampleNonce) WatcherInTime {} join ∧ join.reader = .returned none ∧ join.Clean := by
  obtain ⟨join, executed⟩ : ∃ join, execute (guarded (relayJoinStep 0 exampleNonce) WatcherInTime) {}
      [.watcher .tick, .resend .tick, .reader exampleAck, .reader exampleAck, .reader exampleAck, .reader exampleAck,
        .reader exampleAck, .reader exampleAck, .resend .sendDone] = some join := ⟨_, rfl⟩
  have run := run_of_guarded _ _ _ executed
  refine ⟨join, run, ?_, returned_socket_clean run⟩
  cases executed
  rfl

-- A watcher that comes to its select only after the return: the deferred
-- cancel has made both channels ready.
theorem late_watcher_sets_deadline : ∃ join : RelayJoin,
    Run (relayJoinStep 0 exampleNonce) anyStep {} join ∧ ¬ join.Clean := by
  refine ⟨_, run_of_execute [.reader exampleAck, .reader exampleAck, .reader exampleAck, .reader exampleAck, .reader exampleAck,
    .reader exampleAck, .watcher .ctxDone, .watcher .ctxDone] _ _ (fun _ _ _ => trivial) rfl, ?_⟩
  intro clean
  exact absurd (clean rfl) (by decide)

end OtunKernel.Punch
