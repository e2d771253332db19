import Mathlib.Data.List.Basic
import Mathlib.Logic.Function.Basic
import OtunKernel.Lib.Runs

namespace OtunKernel.Tun

open Lib

-- An element of conns is named by the call of track that pushed it.
structure TunConnTracker (ι : Type) where
  conns : List ι := []
  closing : Bool := false

inductive TrackPhase where
  | idle
  | called
  | refused
  | connClosed
  | accepted
  | returned (ok : Bool)
deriving DecidableEq

inductive OnClosePhase where
  | idle
  | called
  | removed
  | returned
deriving DecidableEq

-- One call of track with its connection, and the calls of the onClose it has
-- returned. connClosed and innerCalls are what the tracker did to the
-- connection and its inner onClose; begun and ran tell whether some call of
-- onClose was made and has removed the element.
structure TrackedConn (κ : Type) where
  track : TrackPhase := .idle
  onClose : κ → OnClosePhase := fun _ => .idle
  connClosed : Bool := false
  innerCalls : Nat := 0
  begun : Bool := false
  ran : Bool := false

inductive CloseAllPhase (ι : Type) where
  | idle
  | called
  | closing (pending : List ι) (total : Nat) (begun : ι → Bool)
  | returned (total : Nat) (begun : ι → Bool)

structure TrackerMachine (ι κ : Type) where
  tracker : TunConnTracker ι := {}
  calls : ι → TrackedConn κ := fun _ => {}
  closeAll : κ → CloseAllPhase ι := fun _ => .idle

def TrackedConn.callInner {κ : Type} (inner : Bool) (conn : TrackedConn κ) : TrackedConn κ :=
  { conn with innerCalls := if inner then conn.innerCalls + 1 else conn.innerCalls }

variable {ι κ : Type} {nowListed : Prop} {calls : Nat}

section
variable [DecidableEq ι] [DecidableEq κ]

-- A call of track; what is done under the lock is one step.
def TrackedConn.trackStep (inner : Bool) (call : ι) (tracker : TunConnTracker ι) (conn : TrackedConn κ) :
    Option (TunConnTracker ι × TrackedConn κ) :=
  match conn.track with
  | .idle => some (tracker, { conn with track := .called })
  | .called =>
    if tracker.closing then some (tracker, { conn with track := .refused })
    else some ({ tracker with conns := tracker.conns ++ [call] }, { conn with track := .accepted })
  | .refused => some (tracker, { conn with track := .connClosed, connClosed := true })
  | .connClosed => some (tracker, { conn.callInner inner with track := .returned false })
  | .accepted => some (tracker, { conn with track := .returned true })
  | .returned _ => none

def TrackedConn.onCloseStep (inner : Bool) (call : ι) (invocation : κ) (tracker : TunConnTracker ι) (conn : TrackedConn κ) :
    Option (TunConnTracker ι × TrackedConn κ) :=
  match conn.onClose invocation with
  | .idle =>
    if conn.track = .returned true then
      some (tracker, { conn with onClose := Function.update conn.onClose invocation .called, begun := true })
    else none
  | .called => some ({ tracker with conns := tracker.conns.filter (· ≠ call) },
      { conn with onClose := Function.update conn.onClose invocation .removed, ran := true })
  | .removed => some (tracker,
      { conn.callInner inner with onClose := Function.update conn.onClose invocation .returned })
  | .returned => none

def TrackerMachine.put (machine : TrackerMachine ι κ) (call : ι) (step : TunConnTracker ι × TrackedConn κ) : TrackerMachine ι κ :=
  { machine with tracker := step.1, calls := Function.update machine.calls call step.2 }

def TrackerMachine.closeAllAt (machine : TrackerMachine ι κ) (invocation : κ) (phase : CloseAllPhase ι) : TrackerMachine ι κ :=
  { machine with closeAll := Function.update machine.closeAll invocation phase }

def TrackerMachine.takeSnapshot (machine : TrackerMachine ι κ) (invocation : κ) : TrackerMachine ι κ where
  tracker := { machine.tracker with closing := true }
  calls := machine.calls
  closeAll := Function.update machine.closeAll invocation
    (.closing machine.tracker.conns machine.tracker.conns.length (fun call => (machine.calls call).begun))

def TrackerMachine.close (machine : TrackerMachine ι κ) (call : ι) : TrackerMachine ι κ :=
  machine.put call (machine.tracker, { machine.calls call with connClosed := true })

def TrackerMachine.closeAllStep (machine : TrackerMachine ι κ) (invocation : κ) : Option (TrackerMachine ι κ) :=
  match machine.closeAll invocation with
  | .idle => some (machine.closeAllAt invocation .called)
  | .called => some (machine.takeSnapshot invocation)
  | .closing (call :: rest) total begun => some ((machine.close call).closeAllAt invocation (.closing rest total begun))
  | .closing [] total begun => some (machine.closeAllAt invocation (.returned total begun))
  | .returned _ _ => none

inductive TrackerEvent (ι κ : Type) where
  | track (call : ι)
  | onClose (call : ι) (invocation : κ)
  | closeAll (invocation : κ)

def trackerStep (inner : ι → Bool) : System (TrackerMachine ι κ) (TrackerEvent ι κ)
  | machine, .track call => ((machine.calls call).trackStep (inner call) call machine.tracker).map (machine.put call)
  | machine, .onClose call invocation =>
    ((machine.calls call).onCloseStep (inner call) call invocation machine.tracker).map (machine.put call)
  | machine, .closeAll invocation => machine.closeAllStep invocation

def CloseAllPhase.snapshot : CloseAllPhase ι → Option (List ι × (ι → Bool))
  | .closing pending _ begun => some (pending, begun)
  | .returned _ begun => some ([], begun)
  | _ => none

def TrackPhase.registered : TrackPhase → Bool
  | .accepted => true
  | .returned ok => ok
  | _ => false

end

structure Consistent (inner : Bool) (listed : Prop) (conn : TrackedConn κ) : Prop where
  begun_returned : conn.begun = true → conn.track = .returned true
  called_begun : ∀ invocation, conn.onClose invocation ≠ .idle → conn.begun = true
  ran_begun : conn.ran = true → conn.begun = true
  listed_iff : listed ↔ conn.track.registered = true ∧ conn.ran = false
  refused_closed : conn.track = .connClosed ∨ conn.track = .returned false → conn.connClosed = true
  refused_inner : conn.track ≠ .returned true →
    conn.innerCalls = if conn.track = .returned false ∧ inner = true then 1 else 0

structure Tracked (inner : ι → Bool) (machine : TrackerMachine ι κ) : Prop where
  calls : ∀ call, Consistent (inner call) (call ∈ machine.tracker.conns) (machine.calls call)
  snapshots : ∀ invocation pending begun, (machine.closeAll invocation).snapshot = some (pending, begun) →
    machine.tracker.closing = true ∧ ∀ call, (machine.calls call).track.registered = true →
      call ∈ pending ∨ (machine.calls call).connClosed = true ∨ begun call = true

-- What a step on one connection may do to it and to the tracker: no
-- connection is registered once closing is set.
structure StepKeeps (call : ι) (tracker : TunConnTracker ι) (conn : TrackedConn κ)
    (step : TunConnTracker ι × TrackedConn κ) : Prop where
  others : ∀ other, other ≠ call → (other ∈ step.1.conns ↔ other ∈ tracker.conns)
  closing : step.1.closing = tracker.closing
  registered : tracker.closing = true → step.2.track.registered = true → conn.track.registered = true
  closed : conn.connClosed = true → step.2.connClosed = true

section
variable {inner : Bool} {call : ι} {invocation : κ} {tracker : TunConnTracker ι} {conn : TrackedConn κ}
  {step : TunConnTracker ι × TrackedConn κ}

theorem track_step_keeps (taken : conn.trackStep inner call tracker = some step) : StepKeeps call tracker conn step := by
  revert taken
  fun_cases conn.trackStep inner call tracker <;> rintro ⟨⟩
  case case3 =>
    rename_i unset
    refine ⟨fun other different => ?_, rfl, fun set => absurd set unset, id⟩
    simp [different]
  case case4 => exact ⟨fun _ _ => Iff.rfl, rfl, fun _ now => by contradiction, fun _ => rfl⟩
  case case6 =>
    rename_i accepted
    exact ⟨fun _ _ => Iff.rfl, rfl, fun _ _ => by rw [accepted]; rfl, id⟩
  all_goals exact ⟨fun _ _ => Iff.rfl, rfl, fun _ now => by contradiction, id⟩

theorem consistent_track {listed : Prop} (consistent : Consistent inner listed conn) (going : conn.track ≠ .returned true)
    {phase : TrackPhase} {closed : Bool} (nowListedIff : nowListed ↔ phase.registered = true)
    (refusedClosed : phase = .connClosed ∨ phase = .returned false → closed = true)
    (refusedInner : phase ≠ .returned true → calls = if phase = .returned false ∧ inner = true then 1 else 0) :
    Consistent inner nowListed { conn with track := phase, connClosed := closed, innerCalls := calls } := by
  have unbegun : conn.begun = false := by grind [consistent.begun_returned]
  have unran : conn.ran = false := by grind [consistent.ran_begun]
  refine ⟨fun begun => ?_, consistent.called_begun, consistent.ran_begun, ?_, refusedClosed, refusedInner⟩
  · simp_all
  · simp [nowListedIff, unran]

theorem track_step_consistent (consistent : Consistent inner (call ∈ tracker.conns) conn)
    (taken : conn.trackStep inner call tracker = some step) : Consistent inner (call ∈ step.1.conns) step.2 := by
  have listed := consistent.listed_iff
  have uncalled := consistent.refused_inner
  unfold TrackedConn.trackStep at taken
  split at taken
  · rename_i idle
    cases taken
    rw [idle] at listed uncalled
    refine consistent_track consistent (by simp [idle]) ?_ (by simp) ?_
    · simp [listed, TrackPhase.registered]
    · simpa using uncalled
  · grind [consistent_track, TrackPhase.registered]
  · grind [consistent_track, TrackPhase.registered]
  · grind [consistent_track, consistent.refused_closed, TrackPhase.registered, TrackedConn.callInner]
  · rename_i accepted
    cases taken
    rw [accepted] at listed
    refine ⟨fun _ => rfl, consistent.called_begun, consistent.ran_begun, ?_, by simp, by simp⟩
    simpa [TrackPhase.registered] using listed
  · contradiction

variable [DecidableEq ι] [DecidableEq κ]

theorem on_close_step_keeps (taken : conn.onCloseStep inner call invocation tracker = some step) :
    StepKeeps call tracker conn step := by
  revert taken
  fun_cases conn.onCloseStep inner call invocation tracker <;> rintro ⟨⟩
  · exact ⟨fun _ _ => Iff.rfl, rfl, fun _ now => now, id⟩
  · refine ⟨fun other different => ?_, rfl, fun _ now => now, id⟩
    simp [different]
  · exact ⟨fun _ _ => Iff.rfl, rfl, fun _ now => now, id⟩

theorem consistent_on_close (returned : conn.track = .returned true) {phase : OnClosePhase} {begun ran : Bool}
    (begins : begun = true) (nowListedIff : nowListed ↔ ran = false) : Consistent inner nowListed
      { conn with onClose := Function.update conn.onClose invocation phase, begun := begun, ran := ran, innerCalls := calls } := by
  refine ⟨fun _ => returned, fun _ _ => begins, fun _ => begins, ?_, ?_, ?_⟩
  · simp [nowListedIff, returned, TrackPhase.registered]
  · simp [returned]
  · simp_all

theorem on_close_step_consistent (consistent : Consistent inner (call ∈ tracker.conns) conn)
    (taken : conn.onCloseStep inner call invocation tracker = some step) : Consistent inner (call ∈ step.1.conns) step.2 := by
  have listed := consistent.listed_iff
  have begun := consistent.called_begun invocation
  unfold TrackedConn.onCloseStep at taken
  grind [consistent_on_close, TrackPhase.registered, consistent.begun_returned, TrackedConn.callInner]

end

variable {inner : ι → Bool} {machine result : TrackerMachine ι κ} {invocation : κ}

section
variable [DecidableEq ι]

theorem tracked_put (tracked : Tracked inner machine) {call : ι} {step : TunConnTracker ι × TrackedConn κ}
    (keeps : StepKeeps call machine.tracker (machine.calls call) step)
    (consistent : Consistent (inner call) (call ∈ step.1.conns) step.2) : Tracked inner (machine.put call step) := by
  constructor
  · intro other
    by_cases same : other = call
    · simp_all [TrackerMachine.put]
    · simpa [TrackerMachine.put, same, keeps.others other same] using tracked.calls other
  intro invocation pending begun taken
  obtain ⟨set, covered⟩ := tracked.snapshots invocation pending begun taken
  refine ⟨keeps.closing.trans set, fun other => ?_⟩
  by_cases same : other = call
  · subst same
    intro now
    simp only [TrackerMachine.put, Function.update_self] at now ⊢
    grind [keeps.registered, keeps.closed]
  · simpa [TrackerMachine.put, same] using covered other

theorem tracked_close (tracked : Tracked inner machine) (call : ι) : Tracked inner (machine.close call) := by
  obtain ⟨begunReturned, calledBegun, ranBegun, listed, _, refusedInner⟩ := tracked.calls call
  exact tracked_put tracked ⟨fun _ _ => Iff.rfl, rfl, fun _ now => now, fun _ => rfl⟩
    ⟨begunReturned, calledBegun, ranBegun, listed, fun _ => rfl, refusedInner⟩

end

section
variable [DecidableEq κ]

theorem tracked_close_all_at (tracked : Tracked inner machine) {phase : CloseAllPhase ι}
    (covered : ∀ pending begun, phase.snapshot = some (pending, begun) → machine.tracker.closing = true ∧
      ∀ call, (machine.calls call).track.registered = true →
        call ∈ pending ∨ (machine.calls call).connClosed = true ∨ begun call = true) :
    Tracked inner (machine.closeAllAt invocation phase) := by
  refine ⟨tracked.calls, fun other pending begun taken => ?_⟩
  by_cases same : other = invocation
  · simp_all [TrackerMachine.closeAllAt, Function.update_self]
  simp only [TrackerMachine.closeAllAt, Function.update_of_ne same] at taken
  exact tracked.snapshots other pending begun taken

theorem tracked_snapshot (tracked : Tracked inner machine) (invocation : κ) : Tracked inner (machine.takeSnapshot invocation) := by
  refine ⟨tracked.calls, fun other pending begun taken => ⟨rfl, fun call registered => ?_⟩⟩
  by_cases same : other = invocation
  · subst same
    simp only [TrackerMachine.takeSnapshot, Function.update_self, CloseAllPhase.snapshot, Option.some.injEq, Prod.mk.injEq] at taken
    obtain ⟨rfl, rfl⟩ := taken
    have consistent := tracked.calls call
    cases ran : (machine.calls call).ran with
    | false => exact .inl (consistent.listed_iff.mpr ⟨registered, ran⟩)
    | true => exact .inr (.inr (consistent.ran_begun ran))
  simp only [TrackerMachine.takeSnapshot, Function.update_of_ne same] at taken
  exact (tracked.snapshots other pending begun taken).2 call registered

end

theorem tracked_start (inner : ι → Bool) : Tracked inner ({} : TrackerMachine ι κ) := by
  refine ⟨fun call => ?_, fun _ _ _ none => by contradiction⟩
  constructor <;> simp [TrackPhase.registered]

variable [DecidableEq ι] [DecidableEq κ]

theorem tracked_close_all (tracked : Tracked inner machine)
    (taken : machine.closeAllStep invocation = some result) : Tracked inner result := by
  unfold TrackerMachine.closeAllStep at taken
  split at taken
  · cases taken
    exact tracked_close_all_at tracked (fun _ _ none => by contradiction)
  · grind [tracked_snapshot]
  · rename_i call rest total begun phase
    cases taken
    refine tracked_close_all_at (tracked_close tracked call) (fun pending before snapshot => ?_)
    cases snapshot
    obtain ⟨set, covered⟩ := tracked.snapshots invocation (call :: rest) begun (by rw [phase]; rfl)
    refine ⟨set, fun other registered => ?_⟩
    by_cases same : other = call
    · simp_all [TrackerMachine.close, TrackerMachine.put]
    simp only [TrackerMachine.close, TrackerMachine.put, Function.update_of_ne same] at registered ⊢
    grind
  · rename_i total begun phase
    cases taken
    refine tracked_close_all_at tracked (fun pending before snapshot => ?_)
    cases snapshot
    exact tracked.snapshots invocation [] begun (by rw [phase]; rfl)
  · contradiction

theorem tracked_step {event : TrackerEvent ι κ} (tracked : Tracked inner machine)
    (taken : trackerStep inner machine event = some result) : Tracked inner result := by
  cases event with
  | track call =>
    obtain ⟨_, moved, rfl⟩ := Option.map_eq_some_iff.mp taken
    exact tracked_put tracked (track_step_keeps moved) (track_step_consistent (tracked.calls call) moved)
  | onClose call =>
    obtain ⟨_, moved, rfl⟩ := Option.map_eq_some_iff.mp taken
    exact tracked_put tracked (on_close_step_keeps moved) (on_close_step_consistent (tracked.calls call) moved)
  | closeAll => exact tracked_close_all tracked taken

theorem tracked_run (run : Run (trackerStep inner) anyStep ({} : TrackerMachine ι κ) machine) : Tracked inner machine := by
  apply run.invariant (Tracked inner) (tracked_start inner)
  grind [tracked_step]

def Passed (conn : TrackedConn κ) : Prop := conn.track ≠ .idle

instance (conn : TrackedConn κ) : Decidable (Passed conn) := inferInstanceAs (Decidable (conn.track ≠ .idle))

def Settled (conn : TrackedConn κ) : Prop := conn.track.registered = true ∨ conn.track = .returned false

def Refused (conn : TrackedConn κ) : Prop := conn.track = .refused ∨ conn.track = .connClosed ∨ conn.track = .returned false

-- Of the connections that count: none has escaped a closeAll that has
-- returned, the refused ones were told once, and none in the list has its
-- onClose behind it.
def NoEscape (counts : TrackedConn κ → Prop) (inner : ι → Bool) (machine : TrackerMachine ι κ) : Prop :=
  ∀ invocation total begun, machine.closeAll invocation = .returned total begun →
    (∀ call, counts (machine.calls call) → (machine.calls call).connClosed = true ∨ begun call = true) ∧
    (∀ call, counts (machine.calls call) → Refused (machine.calls call) → inner call = true → (machine.calls call).innerCalls = 1) ∧
    ∀ call ∈ machine.tracker.conns, (machine.calls call).ran = false

theorem no_settled_escape (run : Run (trackerStep inner) anyStep ({} : TrackerMachine ι κ) machine) :
    NoEscape Settled inner machine := by
  have tracked := tracked_run run
  intro invocation total begun returned
  obtain ⟨_, covered⟩ := tracked.snapshots invocation [] begun (by rw [returned]; rfl)
  refine ⟨?_, ?_, ?_⟩
  · rintro call (registered | refused)
    · grind
    · exact .inl ((tracked.calls call).refused_closed (.inr refused))
  · intro call settled refused given
    have final : (machine.calls call).track = .returned false := by
      rcases settled with registered | final
      · rcases refused with phase | phase | phase <;> rw [phase] at registered <;> contradiction
      · exact final
    have count := (tracked.calls call).refused_inner (by rw [final]; decide)
    rwa [if_pos ⟨final, given⟩] at count
  intro call listed
  exact ((tracked.calls call).listed_iff.mp listed).2

theorem no_settled_escape_late_conn : ∃ machine : TrackerMachine Nat Nat,
    Run (trackerStep (fun _ => true)) anyStep {} machine ∧ (machine.calls 1).track = .returned false ∧
      NoEscape Settled (fun _ => true) machine := by
  obtain ⟨machine, executed⟩ : ∃ machine : TrackerMachine Nat Nat, execute (trackerStep (fun _ => true)) {}
      [.track 0, .track 0, .track 0, .closeAll 0, .closeAll 0, .track 1, .track 1, .closeAll 0, .closeAll 0, .track 1, .track 1] =
        some machine := ⟨_, rfl⟩
  have run : Run (trackerStep (fun _ => true)) anyStep {} machine := run_of_execute _ _ _ (fun _ _ _ => trivial) executed
  refine ⟨machine, run, ?_, no_settled_escape run⟩
  cases executed
  rfl

theorem refused_conn_open_after_close_all : ∃ machine : TrackerMachine Nat Nat,
    Run (trackerStep (fun _ => true)) anyStep {} machine ∧ ¬ NoEscape Passed (fun _ => true) machine := by
  obtain ⟨machine, executed⟩ : ∃ machine : TrackerMachine Nat Nat, execute (trackerStep (fun _ => true)) {}
      [.track 0, .closeAll 0, .closeAll 0, .closeAll 0, .track 0] = some machine := ⟨_, rfl⟩
  refine ⟨machine, run_of_execute _ _ _ (fun _ _ _ => trivial) executed, fun none => ?_⟩
  cases executed
  obtain ⟨closed, -, -⟩ := none 0 _ _ rfl
  exact absurd (closed 0 (by decide)) (by decide)

end OtunKernel.Tun
