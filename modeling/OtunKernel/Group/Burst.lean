import OtunKernel.Group.Failover
import OtunKernel.Lib.Threads

namespace OtunKernel.Group

open Lib Net

def failoverRecheckDelay : Nat := 15000
def postponement : Nat := 1000

-- What a scheduled check goes back to: a burst of dial failures, a failed
-- check that goes back to one, or a round that has no dial failure.
inductive Cause where
  | burst (id : Nat)
  | recheck (id : Nat)
  | other
deriving DecidableEq

def Cause.followUp : Cause → Cause
  | .burst id => .recheck id
  | .recheck id => .recheck id
  | .other => .other

-- Where a goroutine is in onDialFailure, scheduleCheck, the function of its
-- timer, or urlTest. A timer that is running has no goroutine.
inductive CheckPhase where
  | idle
  | arming (delay : Nat) (cause : Cause)
  | fired (cause : Cause)
  | passed (cause : Cause)
  | postponing (cause : Cause)
  | clearing (cause : Cause)
  | rearming (cause : Cause)
  | entering (cause : Cause)
  | entered (cause : Cause)
  | testing (pending : List String) (needRecheck : Bool) (cause : Cause)
  | settled (needRecheck : Bool) (cause : Cause)
  | rescheduling (cause : Cause)
  | leaving (cause : Cause)

structure Strike where
  burst : Nat
  realTag : String
  time : Nat

-- What only records: how many checks each burst has begun, when its check
-- ended, and the strikes it led to.
structure BurstRecord where
  nextBurst : Nat := 0
  begun : Nat → Nat := fun _ => 0
  ended : Nat → Option Nat := fun _ => none
  strikes : List Strike := []

namespace BurstRecord

def beginCheck (record : BurstRecord) : Cause → BurstRecord
  | .burst id => { record with begun := Function.update record.begun id (record.begun id + 1) }
  | _ => record

def endCheck (record : BurstRecord) (now : Nat) : Cause → BurstRecord
  | .burst id => { record with ended := Function.update record.ended id ((record.ended id).or (some now)) }
  | _ => record

def strike (record : BurstRecord) (now : Nat) (realTag : String) : Cause → BurstRecord
  | .burst id => { record with strikes := ⟨id, realTag, now⟩ :: record.strikes }
  | .recheck id => { record with strikes := ⟨id, realTag, now⟩ :: record.strikes }
  | .other => record

def early (record : BurstRecord) (strike : Strike) : Bool :=
  match record.ended strike.burst with
  | none => true
  | some time => strike.time < time + failoverRecheckDelay

def earlyStrikes (record : BurstRecord) (id : Nat) (realTag : String) : Nat :=
  record.strikes.countP (fun strike => decide (strike.burst = id) && decide (strike.realTag = realTag) && record.early strike)

end BurstRecord

-- current is the burst that is going on, also only for the record.
structure CheckState where
  group : FailoverGroup
  now : Nat := 0
  closed : Bool := false
  recheckPending : Bool := false
  checking : Bool := false
  timers : List (Nat × Cause) := []
  current : Option Nat := none
  record : BurstRecord := {}

namespace CheckState

def addTimer (state : CheckState) (delay : Nat) (cause : Cause) : CheckState :=
  { state with timers := (state.now + delay, cause) :: state.timers }

def burstId (state : CheckState) : Nat := state.current.getD state.record.nextBurst

def openBurst (state : CheckState) : CheckState :=
  { state with
    recheckPending := true
    current := some state.burstId
    record := { state.record with nextBurst := if state.current.isNone then state.record.nextBurst + 1 else state.record.nextBurst } }

def closeBurst (state : CheckState) : Cause → CheckState
  | .burst _ => { state with current := none }
  | _ => state

end CheckState

-- dialFailure and round are calls from outside; outside is whatever else
-- changes the group.
inductive CheckInput where
  | dialFailure
  | round
  | arm
  | fire (deadline : Nat) (cause : Cause)
  | select
  | load
  | store
  | swap
  | enter
  | choose
  | probe (realTag : String) (result : Probe)
  | update
  | reschedule
  | leave
  | tick (time : Nat)
  | close
  | outside (group : FailoverGroup)

def advanceCheck (_ : Nat) (state : CheckState) (phase : CheckPhase) : CheckInput → Option (CheckState × CheckPhase)
  | .dialFailure =>
    match phase with
    | .idle =>
      if state.recheckPending then some (state, .idle)
      else some (state.openBurst, .arming 0 (.burst state.burstId))
    | _ => none
  | .round =>
    match phase with
    | .idle => some (state, .entering .other)
    | _ => none
  | .arm =>
    match phase with
    | .arming delay cause => some (state.addTimer delay cause, .idle)
    | .rescheduling cause => some (state.addTimer failoverRecheckDelay cause.followUp, .leaving cause)
    | _ => none
  | .fire deadline cause =>
    match phase with
    | .idle =>
      if (deadline, cause) ∈ state.timers ∧ deadline ≤ state.now then
        some ({ state with timers := state.timers.erase (deadline, cause) }, .fired cause)
      else none
    | _ => none
  | .select =>
    match phase with
    | .fired cause =>
      if state.closed then some ({ state.closeBurst cause with recheckPending := false }, .idle) else some (state, .passed cause)
    | _ => none
  | .load =>
    match phase with
    | .passed cause => if state.checking then some (state, .postponing cause) else some (state, .clearing cause)
    | _ => none
  | .store =>
    match phase with
    | .postponing cause => some ({ state with recheckPending := false }, .rearming cause)
    | .clearing cause => some ({ state with recheckPending := false }, .entering cause)
    | _ => none
  | .swap =>
    match phase with
    | .rearming cause =>
      if state.recheckPending then some (state.closeBurst cause, .idle)
      else some ({ state with recheckPending := true }, .arming postponement cause)
    | _ => none
  | .enter =>
    match phase with
    | .entering cause =>
      if state.checking then some (state.closeBurst cause, .idle)
      else some ({ state with checking := true, record := state.record.beginCheck cause }, .entered cause)
    | _ => none
  | .choose =>
    match phase with
    | .entered cause =>
      let targets := state.group.failoverCheckTargets
      some ({ state with group := targets.2 }, .testing (targets.1.map Node.realTag).eraseDups false cause)
    | _ => none
  | .probe realTag result =>
    match phase with
    | .testing pending needRecheck cause =>
      if realTag ∈ pending then
        match result with
        | .failed =>
          let struck := state.group.addStrike realTag
          some ({ state with group := struck, record := state.record.strike state.now realTag cause }, .testing (pending.erase realTag)
            (needRecheck || decide (struck.strikes realTag < struck.failoverStrikes)) cause)
        | _ => some ({ state with group := state.group.recordProbe realTag result },
          .testing (pending.erase realTag) needRecheck cause)
      else none
    | _ => none
  | .update =>
    match phase with
    | .testing [] needRecheck cause =>
      some ({ state with group := state.group.performUpdateCheck.2, record := state.record.endCheck state.now cause },
        .settled needRecheck cause)
    | _ => none
  | .reschedule =>
    match phase with
    | .settled needRecheck cause =>
      if needRecheck && !state.recheckPending then some ({ state with recheckPending := true }, .rescheduling cause)
      else some (state, .leaving cause)
    | _ => none
  | .leave =>
    match phase with
    | .leaving cause => some ({ state.closeBurst cause with checking := false }, .idle)
    | _ => none
  | .tick time => some ({ state with now := state.now + time }, phase)
  | .close => some ({ state with closed := true }, phase)
  | .outside group => some ({ state with group := group }, phase)

abbrev CheckThreads := Threads Nat CheckState CheckPhase

def startChecks (group : FailoverGroup) : CheckThreads := ⟨{ group := group }, fun _ => .idle⟩

inductive Turned (state : CheckState) : CheckPhase → CheckInput → CheckState → CheckPhase → Prop where
  | absorbed : Turned state .idle .dialFailure state .idle
  | dialed (clear : state.recheckPending = false) :
      Turned state .idle .dialFailure state.openBurst (.arming 0 (.burst state.burstId))
  | round : Turned state .idle .round state (.entering .other)
  | armed {delay : Nat} {cause : Cause} : Turned state (.arming delay cause) .arm (state.addTimer delay cause) .idle
  | rescheduled {cause : Cause} :
      Turned state (.rescheduling cause) .arm (state.addTimer failoverRecheckDelay cause.followUp) (.leaving cause)
  | fires {deadline : Nat} {cause : Cause} (armed : (deadline, cause) ∈ state.timers) (due : deadline ≤ state.now) :
      Turned state .idle (.fire deadline cause) { state with timers := state.timers.erase (deadline, cause) } (.fired cause)
  | abandoned {cause : Cause} : Turned state (.fired cause) .select { state.closeBurst cause with recheckPending := false } .idle
  | passes {cause : Cause} : Turned state (.fired cause) .select state (.passed cause)
  | postpones {cause : Cause} : Turned state (.passed cause) .load state (.postponing cause)
  | clears {cause : Cause} : Turned state (.passed cause) .load state (.clearing cause)
  | releases {cause : Cause} : Turned state (.postponing cause) .store { state with recheckPending := false } (.rearming cause)
  | proceeds {cause : Cause} : Turned state (.clearing cause) .store { state with recheckPending := false } (.entering cause)
  | replaced {cause : Cause} : Turned state (.rearming cause) .swap (state.closeBurst cause) .idle
  | rearmed {cause : Cause} (clear : state.recheckPending = false) :
      Turned state (.rearming cause) .swap { state with recheckPending := true } (.arming postponement cause)
  | refused {cause : Cause} : Turned state (.entering cause) .enter (state.closeBurst cause) .idle
  | enters {cause : Cause} : Turned state (.entering cause) .enter
      { state with checking := true, record := state.record.beginCheck cause } (.entered cause)
  | chooses {cause : Cause} : Turned state (.entered cause) .choose { state with group := state.group.failoverCheckTargets.2 }
      (.testing (state.group.failoverCheckTargets.1.map Node.realTag).eraseDups false cause)
  | fails {pending : List String} {needRecheck again : Bool} {cause : Cause} {realTag : String} {group : FailoverGroup}
      (member : realTag ∈ pending) :
      Turned state (.testing pending needRecheck cause) (.probe realTag .failed)
        { state with group := group, record := state.record.strike state.now realTag cause }
        (.testing (pending.erase realTag) again cause)
  | spares {pending : List String} {needRecheck : Bool} {cause : Cause} {realTag : String} {result : Probe} {group : FailoverGroup} :
      Turned state (.testing pending needRecheck cause) (.probe realTag result) { state with group := group }
        (.testing (pending.erase realTag) needRecheck cause)
  | updates {needRecheck : Bool} {cause : Cause} {group : FailoverGroup} :
      Turned state (.testing [] needRecheck cause) .update
        { state with group := group, record := state.record.endCheck state.now cause } (.settled needRecheck cause)
  | takes {needRecheck : Bool} {cause : Cause} (clear : state.recheckPending = false) :
      Turned state (.settled needRecheck cause) .reschedule { state with recheckPending := true } (.rescheduling cause)
  | rests {needRecheck : Bool} {cause : Cause} : Turned state (.settled needRecheck cause) .reschedule state (.leaving cause)
  | left {cause : Cause} : Turned state (.leaving cause) .leave { state.closeBurst cause with checking := false } .idle
  | ticks {phase : CheckPhase} {time : Nat} : Turned state phase (.tick time) { state with now := state.now + time } phase
  | closes {phase : CheckPhase} : Turned state phase .close { state with closed := true } phase
  | outside {phase : CheckPhase} {group : FailoverGroup} : Turned state phase (.outside group) { state with group := group } phase

theorem advance_turned {thread : Nat} {state result : CheckState} {phase next : CheckPhase} {input : CheckInput}
    (taken : advanceCheck thread state phase input = some (result, next)) : Turned state phase input result next := by
  revert taken
  fun_cases advanceCheck thread state phase input <;> rintro ⟨⟩
  · exact .absorbed
  · rename_i clear
    exact .dialed (Bool.eq_false_iff.mpr clear)
  · exact .round
  · exact .armed
  · exact .rescheduled
  · rename_i ready
    exact .fires ready.1 ready.2
  · exact .abandoned
  · exact .passes
  · exact .postpones
  · exact .clears
  · exact .releases
  · exact .proceeds
  · exact .replaced
  · rename_i clear
    exact .rearmed (Bool.eq_false_iff.mpr clear)
  · exact .refused
  · exact .enters
  · exact .chooses
  · rename_i member _
    exact .fails member
  · exact .spares
  · exact .updates
  · rename_i free
    rw [Bool.and_eq_true, Bool.not_eq_true'] at free
    exact .takes free.2
  · exact .rests
  · exact .left
  · exact .ticks
  · exact .closes
  · exact .outside

-- Between the swap of checking in urlTest and the deferred store that clears it.
def CheckPhase.inside : CheckPhase → Bool
  | .entered _ | .testing _ _ _ | .settled _ _ | .rescheduling _ | .leaving _ => true
  | _ => false

theorem check_swaps {thread : Nat} {state next : CheckState} {phase after : CheckPhase} {input : CheckInput}
    (moved : advanceCheck thread state phase input = some (next, after)) (held : phase.inside = true → state.checking = true) :
    next.checking = (after.inside || !phase.inside && state.checking) ∧
      (after.inside = true → phase.inside = true ∨ state.checking = false) := by
  have kept (cause : Cause) : (state.closeBurst cause).checking = state.checking := by cases cause <;> rfl
  revert moved
  fun_cases advanceCheck thread state phase input <;> rintro ⟨⟩ <;>
    simp_all [CheckPhase.inside, CheckState.openBurst, CheckState.addTimer]
  -- The clock, a close and the rest of the group leave the phase as it is.
  all_goals cases phase <;> simp_all

theorem checks_never_overlap (group : FailoverGroup) (threads : CheckThreads)
    (run : Run (interleave advanceCheck) anyStep (startChecks group) threads) :
    ∃ holder : Option Nat, threads.shared.checking = holder.isSome ∧
      ∀ thread, (threads.phase thread).inside = true ↔ holder = some thread := by
  induction run with
  | refl => exact ⟨none, rfl, by simp [startChecks, CheckPhase.inside]⟩
  | next label _ _ taken before =>
    obtain ⟨holder, busy, inside⟩ := before
    obtain ⟨thread, _⟩ := label
    obtain ⟨next, after, moved, rfl⟩ := interleave_eq_some.mp taken
    obtain ⟨checks, enters⟩ := check_swaps moved (fun held => by simp [busy, (inside thread).mp held])
    refine ⟨if after.inside then some thread else if holder = some thread then none else holder, ?_⟩
    by_cases stays : after.inside = true
    · by_cases held : holder = some thread <;> grind
    by_cases held : holder = some thread <;> grind

theorem round_in_progress_checking :
    ∃ threads : CheckThreads, threads.phase 1 = .entering .other ∧ threads.shared.checking = true := by
  have run : Run (interleave advanceCheck) anyStep (startChecks { failoverStrikes := 2, outbounds := [] }) _ :=
    run_of_execute [(0, .round), (1, .round), (0, .enter)] _ _ (fun _ _ _ => trivial) rfl
  obtain ⟨_, busy, inside⟩ := checks_never_overlap _ _ run
  rw [(inside 0).mp rfl] at busy
  exact ⟨_, rfl, busy⟩

end OtunKernel.Group
