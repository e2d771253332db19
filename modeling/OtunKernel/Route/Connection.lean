import Mathlib.Logic.Function.Basic
import OtunKernel.Lib.Runs

namespace OtunKernel.Route

open Lib

inductive Direction where
  | upload
  | download
deriving DecidableEq

def Direction.other : Direction → Direction
  | .upload => .download
  | .download => .upload

-- One goroutine of the two copies; absent if it is never started.
inductive CopyPhase where
  | absent
  | copying
  | copied (err : Option String)
  | calling (err : Option String)
  | closing
  | finished

-- reports are the errors that onClose was called with; remoteOpen tells that
-- there is a remote connection that is not closed.
structure ConnRun where
  -- onClose is not nil
  onClose : Bool
  inboundClosed : Bool := false
  remoteOpen : Bool := false
  done : Bool := false
  reports : List (Option String) := []
  copies : Direction → CopyPhase := fun _ => .absent

def ConnRun.callOnClose (run : ConnRun) (err : Option String) : ConnRun :=
  { run with reports := if run.onClose then run.reports ++ [err] else run.reports }

def ConnRun.closeBoth (run : ConnRun) : ConnRun := { run with inboundClosed := true, remoteOpen := false }

def ConnRun.closeRemote (run : ConnRun) : ConnRun := { run with remoteOpen := false }

def ConnRun.closeOnHandshakeFailure (run : ConnRun) (err : String) : ConnRun :=
  { run with inboundClosed := true }.callOnClose (some err)

def ConnRun.copyAt (run : ConnRun) (direction : Direction) (phase : CopyPhase) : ConnRun :=
  { run with copies := Function.update run.copies direction phase }

-- What the error of a failed dial is made of: DestinationAddresses,
-- Destination, and type and tag of the dialer if it is an outbound.
structure Dial where
  destinationAddresses : List String
  destination : String
  outbound : Option (String × String)
  err : Option String

def Dial.remoteString (dial : Dial) : String :=
  if dial.destinationAddresses.isEmpty then dial.destination
  else "[" ++ String.intercalate "," dial.destinationAddresses ++ "]"

def Dial.dialerString (dial : Dial) : String :=
  match dial.outbound with
  | some (type, tag) => " using outbound/" ++ type ++ "[" ++ tag ++ "]"
  | none => ""

-- The write of a handshake. temporary are the errors that kickWriteHandshake
-- lets pass unless a payload was written.
structure WriteError where
  message : String
  temporary : Bool

structure Kick where
  needHandshakeForWrite : Bool
  cachedBuffer : Bool
  err : Option WriteError

structure ConnSetup where
  dial : Dial
  reportErr : Option String
  -- none if TLSSpoof is empty
  tlsSpoof : Option (Option String)
  serverFirst : Bool
  kick : Direction → Kick

def ConnRun.kickWriteHandshake (run : ConnRun) (serverFirst : Bool) (kick : Kick) : Option ConnRun :=
  if kick.needHandshakeForWrite then
    match kick.err with
    | none => none
    | some err =>
      let wrotePayload := !serverFirst && kick.cachedBuffer
      if !wrotePayload && err.temporary then none
      else
        let reported := if run.done then run else { run with done := true }.callOnClose (some err.message)
        some reported.closeBoth
  else none

def newConnection (setup : ConnSetup) (onClose : Bool) : ConnRun :=
  let run : ConnRun := { onClose := onClose }
  match setup.dial.err with
  | some err =>
    run.closeOnHandshakeFailure ("open connection to " ++ setup.dial.remoteString ++ setup.dial.dialerString ++ ": " ++ err)
  | none =>
    let connected := { run with remoteOpen := true }
    match setup.reportErr with
    | some err => connected.closeRemote.closeOnHandshakeFailure ("report handshake success: " ++ err)
    | none =>
      match setup.tlsSpoof with
      | some (some err) => connected.closeRemote.closeOnHandshakeFailure ("tls_spoof setup: " ++ err)
      | _ =>
        match connected.kickWriteHandshake setup.serverFirst (setup.kick .upload) with
        | some ended => ended
        | none =>
          match connected.kickWriteHandshake setup.serverFirst (setup.kick .download) with
          | some ended => ended
          | none => { connected with copies := fun _ => .copying }

structure PacketConnSetup where
  udpConnect : Bool
  dial : Dial
  reportErr : Option String

def PacketConnSetup.dialMessage (setup : PacketConnSetup) : String :=
  if setup.udpConnect then "open packet connection to " ++ setup.dial.remoteString ++ setup.dial.dialerString
  else "listen packet connection using " ++ setup.dial.dialerString

def newPacketConnection (setup : PacketConnSetup) (onClose : Bool) : ConnRun :=
  let run : ConnRun := { onClose := onClose }
  match setup.dial.err with
  | some err => run.closeOnHandshakeFailure (setup.dialMessage ++ ": " ++ err)
  | none =>
    let connected := { run with remoteOpen := true }
    match setup.reportErr with
    | some _ => connected.closeBoth
    | none => { connected with copies := fun _ => .copying }

-- How a copy ends; duplex tells that the destination is an N.WriteCloser, and
-- closeWriteErr is what its CloseWrite returns.
structure CopyOutcome where
  err : Option String
  duplex : Bool
  closeWriteErr : Option String

def ConnRun.closeDestination (run : ConnRun) : Direction → ConnRun
  | .upload => run.closeRemote
  | .download => { run with inboundClosed := true }

def ConnRun.copied (run : ConnRun) (direction : Direction) (outcome : CopyOutcome) : ConnRun :=
  match outcome.err with
  | some err => run.closeBoth.copyAt direction (.copied (some err))
  | none =>
    if outcome.duplex then
      match outcome.closeWriteErr with
      | some err => run.closeBoth.copyAt direction (.copied (some err))
      | none => run.copyAt direction (.copied none)
    else (run.closeDestination direction).copyAt direction (.copied none)

def connectionCopy : System ConnRun (Direction × CopyOutcome)
  | run, (direction, outcome) =>
    match run.copies direction with
    | .absent => none
    | .copying => some (run.copied direction outcome)
    | .copied err => some ({ run with done := true }.copyAt direction (if run.done then .calling err else .finished))
    | .calling err => some ((run.callOnClose err).copyAt direction .closing)
    | .closing => some (run.closeBoth.copyAt direction .finished)
    | .finished => none

def packetConnectionCopy : System ConnRun (Direction × CopyOutcome)
  | run, (direction, outcome) =>
    match run.copies direction with
    | .absent => none
    | .copying => some (run.copyAt direction (.copied outcome.err))
    | .copied err => some ({ run with done := true }.copyAt direction (if run.done then .closing else .calling err))
    | .calling err => some ((run.callOnClose err).copyAt direction .closing)
    | .closing => some (run.closeBoth.copyAt direction .finished)
    | .finished => none

def ConnRun.Complete (run : ConnRun) : Prop := ∀ direction, run.copies direction = .absent ∨ run.copies direction = .finished

def ConnRun.ReportedOnce (run : ConnRun) : Prop := run.onClose = true → run.reports.length = 1

def ConnRun.Closed (run : ConnRun) : Prop := run.inboundClosed = true ∧ run.remoteOpen = false

def EndsOnce (step : System ConnRun (Direction × CopyOutcome)) (start : ConnRun) : Prop :=
  ∀ run, Run step anyStep start run → run.Complete → run.ReportedOnce ∧ run.Closed

def ConnRun.Open (run : ConnRun) (direction : Direction) : Prop :=
  run.copies direction = .copying ∨ ∃ err, run.copies direction = .copied err

inductive ConnRun.Reporter (run : ConnRun) (direction : Direction) : Prop where
  | calling (err : Option String) (phase : run.copies direction = .calling err) (unreported : run.reports = [])
  | closing (phase : run.copies direction = .closing) (reported : run.ReportedOnce)
  | finished (phase : run.copies direction = .finished) (reported : run.ReportedOnce) (closed : run.Closed)

inductive CopyState (late : ConnRun → Direction → Direction → Prop) (run : ConnRun) : Prop where
  | ended (absent : ∀ direction, run.copies direction = .absent) (reported : run.ReportedOnce) (closed : run.Closed)
  | both (unset : run.done = false) (unreported : run.reports = []) (both : ∀ direction, run.Open direction)
  | swapped (direction : Direction) (set : run.done = true) (rest : late run direction direction.other)

def LastReports (run : ConnRun) (first second : Direction) : Prop :=
  run.copies first = .finished ∧ (run.Open second ∧ run.reports = [] ∨ run.Reporter second)

def FirstReports (run : ConnRun) (first second : Direction) : Prop :=
  run.Reporter first ∧ (run.Open second ∨ run.copies second = .closing ∨ run.copies second = .finished)

theorem eq_or_other (direction first : Direction) : direction = first ∨ direction = first.other := by
  cases direction <;> cases first <;> decide

theorem other_ne (direction : Direction) : direction.other ≠ direction := by
  cases direction <;> decide

theorem copied_run (run : ConnRun) (direction : Direction) (outcome : CopyOutcome) :
    ∃ err inboundClosed remoteOpen, run.copied direction outcome =
      { run.copyAt direction (.copied err) with inboundClosed := inboundClosed, remoteOpen := remoteOpen } := by
  fun_cases ConnRun.copied <;> try exact ⟨_, _, _, rfl⟩
  cases direction <;> exact ⟨_, _, _, rfl⟩

@[simp] theorem copy_at_same (run : ConnRun) (direction : Direction) (phase : CopyPhase) :
    (run.copyAt direction phase).copies direction = phase := by
  simp [ConnRun.copyAt]

@[simp] theorem copy_at_other (run : ConnRun) {direction other : Direction} (phase : CopyPhase) (different : other ≠ direction) :
    (run.copyAt direction phase).copies other = run.copies other := by
  simp [ConnRun.copyAt, different]

section
variable {run next : ConnRun} {direction other : Direction} {outcome : CopyOutcome}

theorem open_congr (phase : next.copies direction = run.copies direction) : next.Open direction ↔ run.Open direction := by
  rw [ConnRun.Open, ConnRun.Open, phase]

theorem reporter_beside (reporter : run.Reporter direction) (phase : next.copies direction = run.copies direction)
    (reports : next.reports = run.reports) (onClose : next.onClose = run.onClose) (closed : run.Closed → next.Closed) :
    next.Reporter direction := by
  have once : run.ReportedOnce → next.ReportedOnce := by simp [ConnRun.ReportedOnce, reports, onClose]
  cases reporter with
  | calling err calls unreported => exact .calling err (phase.trans calls) (reports.trans unreported)
  | closing closes reported => exact .closing (phase.trans closes) (once reported)
  | finished ends reported both => exact .finished (phase.trans ends) (once reported) (closed both)

theorem reporter_calls (err : Option String) (unreported : run.reports = []) :
    ((run.callOnClose err).copyAt direction .closing).Reporter direction := by
  refine .closing (copy_at_same _ _ _) (fun given => ?_)
  have present : run.onClose = true := given
  simp [ConnRun.copyAt, ConnRun.callOnClose, present, unreported]

theorem reporter_closes (reported : run.ReportedOnce) : (run.closeBoth.copyAt direction .finished).Reporter direction :=
  .finished (copy_at_same _ _ _) reported ⟨rfl, rfl⟩

theorem connection_copy_step (state : CopyState LastReports run) (taken : connectionCopy run (direction, outcome) = some next) :
    CopyState LastReports next := by
  cases state with
  | ended absent => simp [connectionCopy, absent] at taken
  | both unset unreported both =>
    have beside := both direction.other
    rcases both direction with phase | ⟨err, phase⟩ <;> simp only [connectionCopy, phase, Option.some.injEq] at taken
    · obtain ⟨err, inboundClosed, remoteOpen, same⟩ := copied_run run direction outcome
      rw [same] at taken
      subst taken
      refine .both unset unreported (fun other => ?_)
      rcases eq_or_other other direction with rfl | rfl
      · exact .inr ⟨err, copy_at_same _ _ _⟩
      · exact (open_congr (copy_at_other run _ (other_ne direction))).mpr beside
    subst taken
    rw [unset]
    exact .swapped direction rfl ⟨copy_at_same _ _ _,
      .inl ⟨(open_congr (copy_at_other _ _ (other_ne direction))).mpr beside, unreported⟩⟩
  | swapped first set rest =>
    obtain ⟨finished, rest⟩ := rest
    rcases eq_or_other direction first with rfl | rfl
    · simp [connectionCopy, finished] at taken
    have stays (run : ConnRun) (phase : CopyPhase) := copy_at_other run phase (other_ne first).symm
    rcases rest with ⟨phase | ⟨err, phase⟩, unreported⟩ | ⟨err, phase, unreported⟩ | ⟨phase, reported⟩ | ⟨phase, -, -⟩ <;>
      simp only [connectionCopy, phase, Option.some.injEq, reduceCtorEq] at taken
    · obtain ⟨err, _, _, same⟩ := copied_run run first.other outcome
      rw [same] at taken
      subst taken
      exact .swapped first set ⟨(stays run _).trans finished, .inl ⟨.inr ⟨err, copy_at_same _ _ _⟩, unreported⟩⟩
    · subst taken
      rw [set]
      exact .swapped first rfl ⟨(stays _ _).trans finished, .inr (.calling err (copy_at_same _ _ _) unreported)⟩
    · subst taken
      exact .swapped first set ⟨(stays _ _).trans finished, .inr (reporter_calls err unreported)⟩
    subst taken
    exact .swapped first set ⟨(stays _ _).trans finished, .inr (reporter_closes reported)⟩

theorem packet_connection_copy_step (state : CopyState FirstReports run)
    (taken : packetConnectionCopy run (direction, outcome) = some next) : CopyState FirstReports next := by
  cases state with
  | ended absent => simp [packetConnectionCopy, absent] at taken
  | both unset unreported both =>
    have beside := both direction.other
    rcases both direction with phase | ⟨err, phase⟩ <;> simp only [packetConnectionCopy, phase, Option.some.injEq] at taken <;>
      subst taken
    · refine .both unset unreported (fun other => ?_)
      rcases eq_or_other other direction with rfl | rfl
      · exact .inr ⟨_, copy_at_same _ _ _⟩
      · exact (open_congr (copy_at_other run _ (other_ne direction))).mpr beside
    rw [unset]
    exact .swapped direction rfl ⟨.calling err (copy_at_same _ _ _) unreported,
      .inl ((open_congr (copy_at_other _ _ (other_ne direction))).mpr beside)⟩
  | swapped first set rest =>
    obtain ⟨reporter, second⟩ := rest
    rcases eq_or_other direction first with rfl | rfl
    · have later (run : ConnRun) (phase : CopyPhase) := copy_at_other run phase (other_ne direction)
      have stays {after : ConnRun} (same : after.copies direction.other = run.copies direction.other) :
          after.Open direction.other ∨ after.copies direction.other = .closing ∨ after.copies direction.other = .finished := by
        simp [open_congr same, same, second]
      rcases reporter with ⟨err, phase, unreported⟩ | ⟨phase, reported⟩ | ⟨phase, -, -⟩ <;>
        simp only [packetConnectionCopy, phase, Option.some.injEq, reduceCtorEq] at taken <;> subst taken
      · exact .swapped direction set ⟨reporter_calls err unreported, stays (later _ _)⟩
      · exact .swapped direction set ⟨reporter_closes reported, stays (later _ _)⟩
    have stays (run : ConnRun) (phase : CopyPhase) := copy_at_other run phase (other_ne first).symm
    rcases second with (phase | ⟨err, phase⟩) | phase | phase <;>
      simp only [packetConnectionCopy, phase, Option.some.injEq, reduceCtorEq] at taken <;> subst taken
    · exact .swapped first set ⟨reporter_beside reporter (stays _ _) rfl rfl id, .inl (.inr ⟨_, copy_at_same _ _ _⟩)⟩
    · rw [set]
      exact .swapped first rfl ⟨reporter_beside reporter (stays _ _) rfl rfl id, .inr (.inl (copy_at_same _ _ _))⟩
    exact .swapped first set ⟨reporter_beside reporter (stays _ _) rfl rfl (fun _ => ⟨rfl, rfl⟩),
      .inr (.inr (copy_at_same _ _ _))⟩

theorem open_incomplete (going : run.Open direction) : ¬ run.Complete := by
  intro complete
  rcases complete direction with phase | phase <;> rcases going with other | ⟨_, other⟩ <;> rw [phase] at other <;> contradiction

theorem reporter_complete (reporter : run.Reporter direction) (complete : run.Complete) : run.ReportedOnce ∧ run.Closed := by
  have last := complete direction
  cases reporter with
  | calling _ phase | closing phase => simp [phase] at last
  | finished _ reported closed => exact ⟨reported, closed⟩

end

variable {late : ConnRun → Direction → Direction → Prop}

theorem ends_once_of_state {step : System ConnRun (Direction × CopyOutcome)} {start : ConnRun} (initially : CopyState late start)
    (kept : ∀ {run next direction outcome}, CopyState late run → step run (direction, outcome) = some next → CopyState late next)
    (final : ∀ {run direction}, late run direction direction.other → run.Complete → run.ReportedOnce ∧ run.Closed) :
    EndsOnce step start := by
  intro _ reached complete
  have state := reached.invariant (CopyState late) initially (fun _ _ _ state _ taken => kept state taken)
  cases state with
  | ended _ reported closed => exact ⟨reported, closed⟩
  | both _ _ both => exact absurd complete (open_incomplete (both .upload))
  | swapped _ _ rest => exact final rest complete

theorem ended_failure {run : ConnRun} (err : String) (absent : ∀ direction, run.copies direction = .absent)
    (unreported : run.reports = []) (remote : run.remoteOpen = false) : CopyState late (run.closeOnHandshakeFailure err) := by
  refine .ended absent (fun given => ?_) ⟨rfl, remote⟩
  have present : run.onClose = true := given
  simp [ConnRun.closeOnHandshakeFailure, ConnRun.callOnClose, present, unreported]

theorem ended_kick {run ended : ConnRun} {serverFirst : Bool} {kick : Kick}
    (absent : ∀ direction, run.copies direction = .absent) (unset : run.done = false) (unreported : run.reports = [])
    (kicked : run.kickWriteHandshake serverFirst kick = some ended) : CopyState late ended := by
  unfold ConnRun.kickWriteHandshake at kicked
  split at kicked
  · split at kicked
    · contradiction
    dsimp only at kicked
    split at kicked
    · contradiction
    rw [unset] at kicked
    cases kicked
    refine .ended absent (fun given => ?_) ⟨rfl, rfl⟩
    have present : run.onClose = true := given
    simp [ConnRun.closeBoth, ConnRun.callOnClose, present, unreported]
  · contradiction

theorem new_connection_state (setup : ConnSetup) (onClose : Bool) : CopyState LastReports (newConnection setup onClose) := by
  have absent (direction : Direction) : ({ onClose := onClose } : ConnRun).copies direction = .absent := rfl
  fun_cases newConnection <;> try exact ended_failure _ absent rfl rfl
  · rename_i kicked _
    exact ended_kick absent rfl rfl kicked
  · rename_i kicked _
    exact ended_kick absent rfl rfl kicked
  · exact .both rfl rfl (fun _ => .inl rfl)

theorem new_connection_ends_once (setup : ConnSetup) (onClose : Bool) : EndsOnce connectionCopy (newConnection setup onClose) := by
  apply ends_once_of_state (new_connection_state setup onClose) connection_copy_step
  rintro _ _ ⟨_, ⟨going, _⟩ | reporter⟩ complete
  · exact absurd complete (open_incomplete going)
  · exact reporter_complete reporter complete

theorem new_packet_connection_state {setup : PacketConnSetup} {onClose : Bool}
    (reported : setup.dial.err = none → setup.reportErr ≠ none → onClose = false) :
    CopyState FirstReports (newPacketConnection setup onClose) := by
  unfold newPacketConnection
  cases dialled : setup.dial.err with
  | some => exact ended_failure _ (fun _ => rfl) rfl rfl
  | none =>
    cases failed : setup.reportErr with
    | some =>
      have nil := reported dialled (by simp [failed])
      exact .ended (fun _ => rfl) (fun given => by simp [ConnRun.closeBoth, nil] at given) ⟨rfl, rfl⟩
    | none => exact .both rfl rfl (fun _ => .inl rfl)

theorem end_reported_once_iff (connection : ConnSetup) (packet : PacketConnSetup) (onClose : Bool) :
    EndsOnce connectionCopy (newConnection connection onClose) ∧
        EndsOnce packetConnectionCopy (newPacketConnection packet onClose) ↔
      (packet.dial.err = none → packet.reportErr ≠ none → onClose = false) := by
  constructor
  · rintro ⟨-, once⟩ dialled failed
    by_contra present
    obtain ⟨_, reported⟩ := Option.ne_none_iff_exists'.mp failed
    have start : newPacketConnection packet onClose = ConnRun.closeBoth { onClose := onClose, remoteOpen := true } := by
      simp only [newPacketConnection, dialled, reported]
    have ended := (once _ Run.refl (by rw [start]; exact fun _ => .inl rfl)).1
    rw [start] at ended
    have count := ended (eq_true_of_ne_false present)
    contradiction
  intro reported
  refine ⟨new_connection_ends_once connection onClose, ?_⟩
  apply ends_once_of_state (new_packet_connection_state reported) packet_connection_copy_step
  rintro _ _ ⟨reporter, _⟩ complete
  exact reporter_complete reporter complete

def refusedReport : PacketConnSetup where
  udpConnect := false
  dial := { destinationAddresses := [], destination := "192.0.2.1:53", outbound := some ("direct", "direct"), err := none }
  reportErr := some "connection refused"

theorem failed_packet_report_is_silent : ¬ EndsOnce packetConnectionCopy (newPacketConnection refusedReport true) := by
  intro once
  have reported := (once _ Run.refl (fun _ => .inl rfl)).1 rfl
  contradiction

end OtunKernel.Route
