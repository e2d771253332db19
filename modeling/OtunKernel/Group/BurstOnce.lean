import OtunKernel.Group.Burst
import OtunKernel.Lib.Basic

namespace OtunKernel.Group

open Lib CheckState CheckPhase

namespace CheckPhase

def cause : CheckPhase → Option Cause
  | .idle => none
  | .arming _ cause => some cause
  | .fired cause => some cause
  | .passed cause => some cause
  | .postponing cause => some cause
  | .clearing cause => some cause
  | .rearming cause => some cause
  | .entering cause => some cause
  | .entered cause => some cause
  | .testing _ _ cause => some cause
  | .settled _ cause => some cause
  | .rescheduling cause => some cause
  | .leaving cause => some cause

def holds : CheckPhase → Bool
  | .arming _ _ => true
  | .fired _ => true
  | .passed _ => true
  | .postponing _ => true
  | .clearing _ => true
  | .rescheduling _ => true
  | _ => false

def burst (phase : CheckPhase) : Option Nat :=
  match phase.cause with
  | some (.burst id) => some id
  | _ => none

end CheckPhase

-- No dial failure arrives when a check that goes back to one has cleared the
-- flag and is not over, or waits for another round without it.
def Quiet (threads : CheckThreads) (label : Nat × CheckInput) : Prop :=
  label.2 = .dialFailure → ∀ thread, (threads.phase thread).burst ≠ none → (threads.phase thread).holds = true

structure Fresh (record : BurstRecord) (id : Nat) : Prop where
  begun : record.begun id = 0
  ended : record.ended id = none
  unstruck : ∀ strike ∈ record.strikes, strike.burst ≠ id

def LongAgo (record : BurstRecord) (time id : Nat) : Prop :=
  ∃ ended, record.ended id = some ended ∧ ended + failoverRecheckDelay ≤ time

def BurstFact (record : BurstRecord) (id : Nat) : CheckPhase → Prop
  | .entered _ => record.ended id = none ∧ ∀ strike ∈ record.strikes, strike.burst ≠ id
  | .testing pending _ _ => record.ended id = none ∧ pending.Nodup ∧
      ∀ realTag ∈ pending, ∀ strike ∈ record.strikes, strike.burst = id → strike.realTag ≠ realTag
  | .settled _ _ => record.ended id ≠ none
  | .rescheduling _ => record.ended id ≠ none
  | .leaving _ => record.ended id ≠ none
  | _ => Fresh record id

def PhaseFact (record : BurstRecord) (now : Nat) (phase : CheckPhase) : Prop :=
  match phase.cause with
  | some (.burst id) => id < record.nextBurst ∧ BurstFact record id phase
  | some (.recheck id) => LongAgo record now id
  | _ => True

def TimerFact (record : BurstRecord) (timer : Nat × Cause) : Prop :=
  match timer.2 with
  | .burst id => id < record.nextBurst ∧ Fresh record id
  | .recheck id => LongAgo record timer.1 id
  | .other => True

structure RecordFact (record : BurstRecord) (now : Nat) : Prop where
  once : ∀ id realTag, record.earlyStrikes id realTag ≤ 1
  begun : ∀ id, record.begun id ≤ 1
  unborn : ∀ id, record.nextBurst ≤ id → Fresh record id
  past : ∀ id time, record.ended id = some time → time ≤ now

structure CheckView where
  now : Nat
  recheckPending : Bool
  timers : List (Nat × Cause)
  record : BurstRecord

def CheckState.view (state : CheckState) : CheckView := ⟨state.now, state.recheckPending, state.timers, state.record⟩

theorem close_burst_view (state : CheckState) (cause : Cause) : (state.closeBurst cause).view = state.view := by
  cases cause <;> rfl

structure WholeFact (view : CheckView) : Prop where
  single : view.timers.length ≤ 1
  flagged : view.timers ≠ [] → view.recheckPending = true
  timers : ∀ timer ∈ view.timers, TimerFact view.record timer
  record : RecordFact view.record view.now

structure EachFact (view : CheckView) (phase : CheckPhase) : Prop where
  flag : phase.holds = true → view.recheckPending = true ∧ view.timers = []
  alone : phase.burst ≠ none → ∀ deadline id, (deadline, Cause.burst id) ∉ view.timers
  phase : PhaseFact view.record view.now phase

def Apart (first second : CheckPhase) : Prop :=
  (first.holds = true → second.holds = false) ∧ (first.burst ≠ none → second.burst = none)

theorem apart_symm (first second : CheckPhase) (apart : Apart first second) : Apart second first := by
  constructor
  · intro holds
    cases held : first.holds with
    | false => rfl
    | true => rw [apart.1 held] at holds; contradiction
  intro burst
  by_cases other : first.burst = none
  · exact other
  · exact absurd (apart.2 other) burst

variable {record later : BurstRecord}

section
variable {now id : Nat} {phase : CheckPhase} {time : Nat} {realTag : String} {other : Nat}

theorem long_ago_later (long : LongAgo record now id) (less : now ≤ time) : LongAgo record time id := by
  obtain ⟨ended, known, past⟩ := long
  exact ⟨ended, known, Nat.le_trans past less⟩

theorem phase_fact_unburst (unburst : phase.burst = none) (kept : ∀ id, LongAgo record now id → LongAgo later time id)
    (fact : PhaseFact record now phase) : PhaseFact later time phase := by
  rw [PhaseFact] at fact ⊢
  cases same : phase.cause with
  | none => trivial
  | some cause =>
    cases cause with
    | burst => rw [burst, same] at unburst; contradiction
    | recheck id => simp_all
    | other => trivial

theorem phase_fact_later (fact : PhaseFact record now phase) : PhaseFact record (now + time) phase := by
  rw [PhaseFact] at fact ⊢
  cases same : phase.cause with
  | none => trivial
  | some cause =>
    rw [same] at fact
    cases cause with
    | burst => exact fact
    | recheck => exact long_ago_later fact (Nat.le_add_right now time)
    | other => trivial

theorem early_of_ended (fresh : record.ended id = none) (strike : Strike)
    (early : (record.endCheck now (.burst id)).early strike = true) :
    record.early strike = true := by
  by_cases same : strike.burst = id
  · rw [BurstRecord.early, same, fresh]
  · simpa [BurstRecord.early, BurstRecord.endCheck, same] using early

theorem early_strikes_cons (strike : Strike) (id : Nat) (realTag : String) :
    { record with strikes := strike :: record.strikes }.earlyStrikes id realTag =
      record.earlyStrikes id realTag +
        if (decide (strike.burst = id) && decide (strike.realTag = realTag) && record.early strike) = true then 1 else 0 :=
  List.countP_cons ..

section
variable (fact : RecordFact record now)
include fact

theorem record_fact_later : RecordFact record (now + time) :=
  ⟨fact.once, fact.begun, fact.unborn, fun id time' ended => Nat.le_trans (fact.past id time' ended) (Nat.le_add_right now time)⟩

theorem record_fact_begin (known : id < record.nextBurst) (fresh : Fresh record id) :
    RecordFact (record.beginCheck (.burst id)) now := by
  refine ⟨fact.once, ?_, ?_, fact.past⟩
  · intro other
    by_cases same : other = id
    · simp [same, BurstRecord.beginCheck, fresh.begun]
    · simpa [BurstRecord.beginCheck, same] using fact.begun other
  intro other unborn
  have different : other ≠ id := Nat.ne_of_gt (Nat.lt_of_lt_of_le known unborn)
  have untouched := fact.unborn other unborn
  exact ⟨by simpa [BurstRecord.beginCheck, different] using untouched.begun, untouched.ended, untouched.unstruck⟩

theorem record_fact_end (known : id < record.nextBurst) (fresh : record.ended id = none) :
    RecordFact (record.endCheck now (.burst id)) now := by
  refine ⟨?_, fact.begun, ?_, ?_⟩
  · intro other realTag
    refine Nat.le_trans (List.countP_mono_left ?_) (fact.once other realTag)
    intro strike _ counted
    rw [Bool.and_eq_true] at counted ⊢
    exact ⟨counted.1, early_of_ended fresh strike counted.2⟩
  · intro other unborn
    have different : other ≠ id := Nat.ne_of_gt (Nat.lt_of_lt_of_le known unborn)
    have untouched := fact.unborn other unborn
    exact ⟨untouched.begun, by simpa [BurstRecord.endCheck, different] using untouched.ended, untouched.unstruck⟩
  intro other time ended
  by_cases same : other = id
  · simp_all [BurstRecord.endCheck]
  · exact fact.past other time (by simpa [BurstRecord.endCheck, same] using ended)

theorem unborn_strike {strike : Strike} (known : ∀ other, record.nextBurst ≤ other → strike.burst ≠ other)
    (other : Nat) (unborn : record.nextBurst ≤ other) : Fresh { record with strikes := strike :: record.strikes } other := by
  have untouched := fact.unborn other unborn
  refine ⟨untouched.begun, untouched.ended, ?_⟩
  grind [untouched.unstruck]

theorem record_fact_strike (known : id < record.nextBurst)
    (unstruck : ∀ strike ∈ record.strikes, strike.burst = id → strike.realTag ≠ realTag) :
    RecordFact (record.strike now realTag (.burst id)) now := by
  refine ⟨?_, fact.begun, unborn_strike fact ?_, fact.past⟩
  · intro other tag
    apply Nat.le_trans (Nat.le_of_eq (early_strikes_cons _ _ _))
    by_cases counted : id = other ∧ realTag = tag
    · obtain ⟨rfl, rfl⟩ := counted
      rw [show record.earlyStrikes id realTag = 0 by simp_all
        [BurstRecord.earlyStrikes, List.countP_eq_zero, Bool.and_eq_true, decide_eq_true_eq]]
      split <;> decide
    have uncounted : (decide (id = other) && decide (realTag = tag)) = false := by
      simpa [← Bool.decide_and] using counted
    simpa [uncounted] using fact.once other tag
  · grind

theorem record_fact_late_strike (long : LongAgo record now id) : RecordFact (record.strike now realTag (.recheck id)) now := by
  obtain ⟨_, ended, past⟩ := long
  refine ⟨?_, fact.begun, unborn_strike fact ?_, fact.past⟩
  · intro other tag
    apply Nat.le_trans (Nat.le_of_eq (early_strikes_cons _ _ _))
    have late : record.early ⟨id, realTag, now⟩ = false := by simp_all [BurstRecord.early]
    simpa [late] using fact.once other tag
  intro other unborn same
  rw [← same] at unborn
  have unended := (fact.unborn id unborn).ended
  simp [ended] at unended

end

section
variable (long : LongAgo record now id)
include long

theorem fresh_late_strike (fresh : Fresh record other) : Fresh (record.strike now realTag (.recheck id)) other := by
  obtain ⟨_, ended, _⟩ := long
  refine ⟨fresh.begun, fresh.ended, ?_⟩
  intro struck member same
  rcases List.mem_cons.mp member with rfl | before
  · simp_all [fresh.ended]
  · exact fresh.unstruck struck before same

theorem burst_fact_late_strike (fact : BurstFact record other phase) :
    BurstFact (record.strike now realTag (.recheck id)) other phase := by
  have different (unended : record.ended other = none) : id ≠ other := by
    rintro rfl
    obtain ⟨_, ended, _⟩ := long
    simp [unended] at ended
  cases phase with
  | entered =>
    refine ⟨fact.1, ?_⟩
    intro struck member
    rcases List.mem_cons.mp member with rfl | before
    · exact different fact.1
    · exact fact.2 struck before
  | testing =>
    refine ⟨fact.1, fact.2.1, ?_⟩
    intro tag pending' struck member same
    rcases List.mem_cons.mp member with rfl | before
    · exact absurd same (different fact.1)
    · exact fact.2.2 tag pending' struck before same
  | settled | rescheduling | leaving => exact fact
  | _ => exact fresh_late_strike long fact

theorem phase_fact_late_strike (fact : PhaseFact record now phase) :
    PhaseFact (record.strike now realTag (.recheck id)) now phase := by
  rw [PhaseFact] at fact ⊢
  cases same : phase.cause with
  | none => trivial
  | some cause =>
    rw [same] at fact
    cases cause with
    | burst => exact ⟨fact.1, burst_fact_late_strike long fact.2⟩
    | recheck => exact fact
    | other => trivial

theorem timer_fact_late_strike {timer : Nat × Cause} (fact : TimerFact record timer) :
    TimerFact (record.strike now realTag (.recheck id)) timer := by
  obtain ⟨_, cause⟩ := timer
  cases cause with
  | burst => exact ⟨fact.1, fresh_late_strike long fact.2⟩
  | recheck => exact fact
  | other => trivial

end
end

def Keeps (view : CheckView) (phase : CheckPhase) (result : CheckView) (next : CheckPhase) : Prop :=
  WholeFact view → EachFact view phase → (WholeFact result ∧ EachFact result next) ∧
    ∀ other, Apart phase other → EachFact view other → EachFact result other ∧ Apart next other

section
variable {view : CheckView} {phase next : CheckPhase}

theorem timers_empty_of_clear (whole : WholeFact view) (clear : view.recheckPending = false) : view.timers = [] := by
  by_cases empty : view.timers = []
  · exact empty
  · simp [whole.flagged empty] at clear

theorem not_holds_of_clear (each : EachFact view phase) (clear : view.recheckPending = false) : phase.holds = false := by
  rw [Bool.eq_false_iff]
  intro holds
  simp [(each.flag holds).1] at clear

theorem keeps_record {later : BurstRecord} (holds : next.holds = true → phase.holds = true)
    (burst : next.burst ≠ none → phase.burst ≠ none)
    (record : RecordFact view.record view.now → PhaseFact view.record view.now phase → RecordFact later view.now)
    (fact : PhaseFact view.record view.now phase → PhaseFact later view.now next)
    (timers : EachFact view phase → ∀ timer ∈ view.timers, TimerFact view.record timer → TimerFact later timer)
    (others : EachFact view phase → ∀ other, Apart phase other → PhaseFact view.record view.now other →
      PhaseFact later view.now other) :
    Keeps view phase { view with record := later } next := by
  intro whole each
  refine ⟨⟨⟨whole.single, whole.flagged, ?_, record whole.record each.phase⟩, fun held => each.flag (holds held),
    fun caused => each.alone (burst caused), fact each.phase⟩, ?_⟩
  · grind [whole.timers]
  intro other apart beside
  exact ⟨⟨beside.flag, beside.alone, others each other apart beside.phase⟩, fun held => apart.1 (holds held),
    fun caused => apart.2 (burst caused)⟩

variable {deadline : Nat} {cause : Cause} {needRecheck : Bool}

section
variable (burst : next.burst ≠ none → phase.burst ≠ none)
  (fact : PhaseFact view.record view.now phase → PhaseFact view.record view.now next)
include burst fact

theorem keeps_same (holds : next.holds = true → phase.holds = true) : Keeps view phase view next :=
  keeps_record holds burst (fun record _ => record) fact (fun _ _ _ kept => kept) (fun _ _ _ kept => kept)

theorem keeps_release (holds : phase.holds = true) (free : next.holds = false) :
    Keeps view phase { view with recheckPending := false } next := by
  intro whole each
  refine ⟨⟨⟨whole.single, ?_, whole.timers, whole.record⟩, ?_, fun caused => each.alone (burst caused), fact each.phase⟩, ?_⟩
  · intro armed
    exact absurd (each.flag holds).2 armed
  · simp [free]
  intro _ apart beside
  have unheld := apart.1 holds
  refine ⟨⟨?_, beside.alone, beside.phase⟩, ?_, fun caused => apart.2 (burst caused)⟩
  · simp [unheld]
  intro _
  exact unheld

theorem keeps_take (clear : view.recheckPending = false) : Keeps view phase { view with recheckPending := true } next := by
  intro whole each
  have empty := timers_empty_of_clear whole clear
  refine ⟨⟨⟨whole.single, fun _ => rfl, whole.timers, whole.record⟩, fun _ => ⟨rfl, empty⟩, fun caused => each.alone (burst caused),
    fact each.phase⟩, ?_⟩
  intro _ apart beside
  have unheld := not_holds_of_clear beside clear
  refine ⟨⟨?_, beside.alone, beside.phase⟩, fun _ => unheld, fun caused => apart.2 (burst caused)⟩
  intro held
  simp [unheld] at held

theorem keeps_arm (holds : phase.holds = true) (free : next.holds = false)
    (handed : ∀ id, cause = .burst id → phase.burst ≠ none ∧ next.burst = none)
    (timer : RecordFact view.record view.now → PhaseFact view.record view.now phase → TimerFact view.record (deadline, cause)) :
    Keeps view phase { view with timers := (deadline, cause) :: view.timers } next := by
  intro whole each
  obtain ⟨flagged, empty⟩ := each.flag holds
  have fits : TimerFact view.record (deadline, cause) := timer whole.record each.phase
  have armed (time : Nat) (id : Nat) (member : (time, Cause.burst id) ∈ (deadline, cause) :: view.timers) : cause = .burst id := by
    simp_all
  refine ⟨⟨⟨?_, fun _ => flagged, ?_, whole.record⟩, ?_, ?_, fact each.phase⟩, ?_⟩
  · simp [empty]
  · simp_all
  · simp [free]
  · grind
  intro _ apart beside
  have unheld := apart.1 holds
  refine ⟨⟨?_, ?_, beside.phase⟩, fun _ => unheld, fun caused => apart.2 (burst caused)⟩
  · simp [unheld]
  intro caused time id member
  exact caused (apart.2 (handed id (armed time id member)).1)

end

variable {now : Nat} {pending : List String} {again : Bool}

theorem phase_fact_fired (fact : TimerFact record (deadline, cause))
    (due : deadline ≤ now) : PhaseFact record now (.fired cause) := by
  cases cause with
  | burst => exact fact
  | recheck => exact long_ago_later fact due
  | other => trivial

theorem keeps_fire (armed : (deadline, cause) ∈ view.timers) (due : deadline ≤ view.now) :
    Keeps view .idle { view with timers := view.timers.erase (deadline, cause) } (.fired cause) := by
  intro whole each
  have only : view.timers = [(deadline, cause)] := by
    grind [List.length_eq_one_iff, whole.single]
  have empty : view.timers.erase (deadline, cause) = [] := by simp [only]
  have flagged : view.recheckPending = true := whole.flagged (List.ne_nil_of_mem armed)
  have fact : PhaseFact view.record view.now (.fired cause) := phase_fact_fired (whole.timers _ armed) due
  rw [empty]
  refine ⟨⟨⟨Nat.zero_le 1, fun _ => flagged, fun timer member => absurd member List.not_mem_nil, whole.record⟩,
    fun _ => ⟨flagged, rfl⟩, fun _ _ _ => List.not_mem_nil, fact⟩, ?_⟩
  intro other apart beside
  refine ⟨⟨fun held => ⟨flagged, rfl⟩, fun _ _ _ => List.not_mem_nil, beside.phase⟩, ?_, ?_⟩
  · intro _
    rw [Bool.eq_false_iff]
    intro held
    simp [(beside.flag held).2] at only
  intro caused
  cases cause with
  | burst id => grind [beside.alone]
  | recheck | other => exact absurd rfl caused

theorem keeps_tick (time : Nat) : Keeps view phase { view with now := view.now + time } phase := by
  intro whole each
  refine ⟨⟨⟨whole.single, whole.flagged, whole.timers, record_fact_later whole.record⟩, each.flag, each.alone,
    phase_fact_later each.phase⟩, ?_⟩
  intro _ apart beside
  exact ⟨⟨beside.flag, beside.alone, phase_fact_later beside.phase⟩, apart⟩

theorem keeps_burst_record {id : Nat} (own : phase.burst = some id) (holds : next.holds = true → phase.holds = true)
    (record : RecordFact view.record view.now → PhaseFact view.record view.now phase → RecordFact later view.now)
    (fact : PhaseFact view.record view.now phase → PhaseFact later view.now next)
    (kept : PhaseFact view.record view.now phase → ∀ other time, view.record.ended other = some time → later.ended other = some time) :
    Keeps view phase { view with record := later } next := by
  have caused : phase.burst ≠ none := by simp [own]
  have long (known : PhaseFact view.record view.now phase) (time other : Nat) (before : LongAgo view.record time other) :
      LongAgo later time other := by
    obtain ⟨ended, same, past⟩ := before
    exact ⟨ended, kept known other ended same, past⟩
  apply keeps_record holds (fun _ => caused) record fact
  · intro each timer member before
    obtain ⟨deadline, cause⟩ := timer
    cases cause with
    | burst other => grind [each.alone]
    | recheck other => exact long each.phase deadline other before
    | other => trivial
  intro each other apart before
  exact phase_fact_unburst (apart.2 caused) (long each.phase view.now) before

theorem facts_open (whole : WholeFact view) (clear : view.recheckPending = false) {result : CheckView}
    (opened : result = { view with recheckPending := true, record := { view.record with nextBurst := view.record.nextBurst + 1 } }) :
    (WholeFact result ∧ EachFact result (.arming 0 (.burst view.record.nextBurst))) ∧
      ∀ other : CheckPhase, other.burst = none → EachFact view other →
        EachFact result other ∧ Apart (.arming 0 (.burst view.record.nextBurst)) other := by
  subst opened
  have empty := timers_empty_of_clear whole clear
  have fresh (id : Nat) (known : Fresh view.record id) : Fresh { view.record with nextBurst := view.record.nextBurst + 1 } id :=
    ⟨known.begun, known.ended, known.unstruck⟩
  refine ⟨⟨⟨whole.single, fun _ => rfl, ?_, whole.record.once, whole.record.begun, ?_, whole.record.past⟩, fun _ => ⟨rfl, empty⟩, ?_,
    Nat.lt_succ_self _, fresh _ (whole.record.unborn _ (Nat.le_refl _))⟩, ?_⟩
  · simp [empty]
  · intro id unborn
    exact fresh id (whole.record.unborn id (Nat.le_of_succ_le unborn))
  · simp [empty]
  intro other caused beside
  have unheld := not_holds_of_clear beside clear
  refine ⟨⟨?_, ?_, phase_fact_unburst caused (fun _ (long : LongAgo view.record view.now _) => long) beside.phase⟩, 
    fun _ => unheld, fun _ => caused⟩
  · simp [unheld]
  · simp_all

theorem keeps_enter (cause : Cause) :
    Keeps view (.entering cause) { view with record := view.record.beginCheck cause } (.entered cause) := by
  cases cause with
  | burst =>
    refine keeps_burst_record rfl id (fun record fact => record_fact_begin record fact.1 fact.2) ?_ (fun _ _ _ same => same)
    intro fact
    exact ⟨fact.1, fact.2.ended, fact.2.unstruck⟩
  | recheck | other => exact keeps_same id id id

theorem keeps_update (cause : Cause) :
    Keeps view (.testing [] needRecheck cause) { view with record := view.record.endCheck view.now cause }
      (.settled needRecheck cause) := by
  cases cause with
  | burst id =>
    refine keeps_burst_record rfl (fun held => held) (fun record fact => record_fact_end record fact.1 fact.2.1) ?_ ?_
    · intro fact
      refine ⟨fact.1, ?_⟩
      simp [BurstFact, BurstRecord.endCheck, fact.2.1]
    intro fact other time same
    have different : other ≠ id := by grind [fact.2.1]
    simpa [BurstRecord.endCheck, different] using same
  | recheck | other => exact keeps_same id id id

theorem phase_fact_tested (realTag : String) (fact : PhaseFact record now (.testing pending needRecheck cause)) :
    PhaseFact record now (.testing (pending.erase realTag) again cause) := by
  cases cause with
  | burst =>
    obtain ⟨known, unended, distinct, unstruck⟩ := fact
    exact ⟨known, unended, distinct.erase realTag, fun tag member => unstruck tag (List.mem_of_mem_erase member)⟩
  | recheck => exact fact
  | other => trivial

theorem keeps_fail {realTag : String} (cause : Cause)
    (member : realTag ∈ pending) :
    Keeps view (.testing pending needRecheck cause) { view with record := view.record.strike view.now realTag cause }
      (.testing (pending.erase realTag) again cause) := by
  cases cause with
  | burst =>
    refine keeps_burst_record rfl id ?_ ?_ (fun _ _ _ same => same)
    · intro record fact
      exact record_fact_strike record fact.1 (fact.2.2.2 realTag member)
    intro fact
    obtain ⟨known, unended, distinct, unstruck⟩ := fact
    refine ⟨known, unended, distinct.erase realTag, ?_⟩
    intro tag left struck among same
    rcases List.mem_cons.mp among with rfl | before
    · grind
    · grind
  | recheck =>
    refine keeps_record id id (fun record long => record_fact_late_strike record long) id ?_ ?_
    · intro each timer _ before
      exact timer_fact_late_strike each.phase before
    intro each other _ before
    exact phase_fact_late_strike each.phase before
  | other => exact keeps_same id (fun _ => trivial) id

end

variable {state : CheckState} {phase : CheckPhase} {threads : CheckThreads}
  {next : CheckPhase} {input : CheckInput} {id : Nat} {label : Nat × CheckInput} {result : CheckThreads}

theorem turned_keeps {result : CheckState} (turned : Turned state phase input result next) (undialed : input ≠ .dialFailure) :
    Keeps state.view phase result.view next := by
  cases turned with
  | absorbed | dialed => contradiction
  | round => exact keeps_same id (fun _ => trivial) id
  | @armed _ cause =>
    refine keeps_arm (fun caused => absurd rfl caused) (fun _ => trivial) rfl rfl ?_ ?_
    · rintro id rfl
      exact ⟨Option.some_ne_none id, rfl⟩
    intro record fact
    cases cause with
    | burst => exact fact
    | recheck => exact long_ago_later fact (Nat.le_add_right _ _)
    | other => trivial
  | @rescheduled cause =>
    refine keeps_arm id (fun fact => by cases cause <;> exact fact) rfl rfl ?_ ?_
    · intro id same
      cases cause <;> cases same
    intro record fact
    cases cause with
    | burst id =>
      obtain ⟨time, ended⟩ := Option.ne_none_iff_exists'.mp fact.2
      exact ⟨time, ended, Nat.add_le_add_right (record.past id time ended) _⟩
    | recheck => exact long_ago_later fact (Nat.le_add_right _ _)
    | other => trivial
  | fires armed due => exact keeps_fire armed due
  | @abandoned cause =>
    have released : ({ state.closeBurst cause with recheckPending := false } : CheckState).view =
        { state.view with recheckPending := false } := by
      cases cause <;> rfl
    rw [released]
    exact keeps_release (fun caused => absurd rfl caused) (fun _ => trivial) rfl rfl
  | @passes cause | @postpones cause | @clears cause | @rests _ cause =>
    exact keeps_same id (fun fact => by cases cause <;> exact fact) id
  | @releases cause | @proceeds cause =>
    exact keeps_release id (fun fact => by cases cause <;> exact fact) rfl rfl
  | replaced | refused =>
    rw [close_burst_view]
    exact keeps_same (fun caused => absurd rfl caused) (fun _ => trivial) id
  | @rearmed cause clear | @takes _ cause clear => exact keeps_take id (fun fact => by cases cause <;> exact fact) clear
  | @enters cause => exact keeps_enter cause
  | @chooses cause =>
    refine keeps_same id (fun fact => ?_) id
    cases cause with
    | burst =>
      obtain ⟨known, unended, unstruck⟩ := fact
      exact ⟨known, unended, nodup_erase_dups _, fun _ _ struck member same => absurd same (unstruck struck member)⟩
    | recheck => exact fact
    | other => trivial
  | @fails _ _ _ cause _ _ member => exact keeps_fail cause member
  | @spares _ _ _ realTag => exact keeps_same id (phase_fact_tested realTag) id
  | @updates _ cause => exact keeps_update cause
  | @left cause =>
    have unchanged : ({ state.closeBurst cause with checking := false } : CheckState).view = state.view := by
      cases cause <;> rfl
    rw [unchanged]
    exact keeps_same (fun caused => absurd rfl caused) (fun _ => trivial) (fun held => by contradiction)
  | ticks => exact keeps_tick _
  | closes | outside => exact keeps_same id id id

def Live (threads : CheckThreads) : Prop :=
  ∀ id, threads.shared.current = some id →
    (∃ thread, (threads.phase thread).burst = some id) ∨ ∃ deadline, (deadline, Cause.burst id) ∈ threads.shared.timers

structure Carries (id : Nat) (state : CheckState) (phase : CheckPhase) (result : CheckState) (next : CheckPhase) : Prop where
  before : state.current = some id ∨ next.burst = some id
  own : phase.burst = some id → next.burst = some id ∨ ∃ deadline, (deadline, Cause.burst id) ∈ result.timers
  timer : ∀ deadline, (deadline, Cause.burst id) ∈ state.timers → next.burst = some id ∨ (deadline, Cause.burst id) ∈ result.timers

theorem carries_closed {cause : Cause} {flag checking : Bool} (own : phase.cause = some cause)
    (current : (state.closeBurst cause).current = some id) :
    Carries id state phase { state.closeBurst cause with recheckPending := flag, checking := checking } .idle := by
  have unburst : phase.burst = some id → CheckPhase.idle.burst = some id := by
    intro same
    rw [burst, own] at same
    cases cause <;> contradiction
  cases cause with
  | burst => contradiction
  | recheck | other => exact ⟨.inl current, fun same => .inl (unburst same), fun _ member => .inr member⟩

theorem turned_carries {result : CheckState} (turned : Turned state phase input result next) (current : result.current = some id) :
    Carries id state phase result next := by
  cases turned with
  | dialed =>
    have begins : (CheckPhase.arming 0 (.burst state.burstId)).burst = some id := current
    exact ⟨.inr begins, fun _ => .inl begins, fun _ _ => .inl begins⟩
  | @armed delay cause =>
    refine ⟨.inl current, ?_, fun _ member => .inr (List.mem_cons_of_mem _ member)⟩
    intro same
    cases cause with
    | burst =>
      cases same
      exact .inr ⟨state.now + delay, List.mem_cons_self⟩
    | recheck | other => contradiction
  | rescheduled => exact ⟨.inl current, fun same => .inl same, fun _ member => .inr (List.mem_cons_of_mem _ member)⟩
  | @fires fired cause =>
    refine ⟨.inl current, fun same => by contradiction, ?_⟩
    intro deadline member
    by_cases same : (deadline, Cause.burst id) = (fired, cause)
    · cases same
      exact .inl rfl
    · grind
  | abandoned | replaced | refused | left => exact carries_closed rfl current
  | _ => exact ⟨.inl current, fun same => .inl same, fun _ member => .inr member⟩

theorem live_step (live : Live threads) (taken : interleave advanceCheck threads label = some result) : Live result := by
  obtain ⟨thread, _⟩ := label
  obtain ⟨_, phase, moved, rfl⟩ := interleave_eq_some.mp taken
  intro id current
  obtain ⟨before, own, timer⟩ := turned_carries (advance_turned moved) current
  have carried (next : phase.burst = some id) : ∃ holder, (Function.update threads.phase thread phase holder).burst = some id :=
    ⟨thread, by simpa using next⟩
  rcases before with known | begins
  · rcases live id known with held | ⟨deadline, armed⟩
    · exact @some_thread_update Nat CheckPhase _ (·.burst = some id) (·.burst = some id) threads.phase thread phase _ held own
        (fun _ _ same => same)
    · grind
  · exact .inl (carried begins)

abbrev Sound : CheckThreads → Prop := Coherent (fun state => WholeFact state.view)
  (fun _ state phase => EachFact state.view phase) Apart

theorem no_burst_when_quiet (sound : Sound threads) (live : Live threads)
    (quiet : ∀ thread, (threads.phase thread).burst ≠ none → (threads.phase thread).holds = true)
    (clear : threads.shared.recheckPending = false) :
    threads.shared.current = none ∧ ∀ thread, (threads.phase thread).burst = none := by
  have unburst (thread : Nat) : (threads.phase thread).burst = none := by
    by_cases burst : (threads.phase thread).burst = none
    · exact burst
    have unheld := not_holds_of_clear (sound.each thread) clear
    simp [quiet thread burst] at unheld
  refine ⟨?_, unburst⟩
  cases current : threads.shared.current with
  | none => rfl
  | some id =>
    rcases live id current with ⟨thread, same⟩ | ⟨deadline, armed⟩
    · simp_all
    have empty : threads.shared.timers = [] := timers_empty_of_clear sound.whole clear
    simp [empty] at armed

theorem sound_step (sound : Sound threads) (live : Live threads)
    (quiet : Quiet threads label) (taken : interleave advanceCheck threads label = some result) : Sound result := by
  obtain ⟨thread, input⟩ := label
  have keeps (shared : CheckState) (phase : CheckPhase)
      (moved : advanceCheck thread threads.shared (threads.phase thread) input = some (shared, phase)) :
      (WholeFact shared.view ∧ EachFact shared.view phase) ∧ ∀ other, other ≠ thread →
        Apart (threads.phase thread) (threads.phase other) →
          EachFact shared.view (threads.phase other) ∧ Apart phase (threads.phase other) := by
    have turned := advance_turned moved
    have own := sound.each thread
    by_cases dial : input = .dialFailure
    · subst dial
      generalize standing : threads.phase thread = stands at turned own ⊢
      cases turned with
      | absorbed => exact ⟨⟨sound.whole, own⟩, fun other _ apart => ⟨sound.each other, apart⟩⟩
      | dialed clear =>
        obtain ⟨current, unburst⟩ := no_burst_when_quiet sound live (quiet rfl) clear
        have opened : threads.shared.openBurst.view = { threads.shared.view with
            recheckPending := true
            record := { threads.shared.record with nextBurst := threads.shared.record.nextBurst + 1 } } := by
          simp [openBurst, view, current]
        have first : threads.shared.burstId = threads.shared.record.nextBurst := by rw [burstId, current]; rfl
        obtain ⟨kept, others⟩ := facts_open sound.whole clear opened
        rw [first]
        exact ⟨kept, fun other _ _ => others _ (unburst other) (sound.each other)⟩
    obtain ⟨kept, others⟩ := turned_keeps turned dial sound.whole own
    exact ⟨kept, fun other _ apart => others _ apart (sound.each other)⟩
  grind [coherent_step, apart_symm]

theorem sound_start (group : FailoverGroup) : Sound (startChecks group) := by
  refine ⟨⟨Nat.zero_le 1, fun armed => absurd rfl armed, fun timer member => absurd member List.not_mem_nil, ?_⟩, ?_, ?_⟩
  · refine ⟨fun _ _ => Nat.zero_le 1, fun _ => Nat.zero_le 1, ?_, fun _ _ ended => by contradiction⟩
    intro _ _
    exact ⟨rfl, rfl, fun strike member => absurd member List.not_mem_nil⟩
  · intro thread
    exact ⟨fun held => by contradiction, fun burst => absurd rfl burst, trivial⟩
  intro first second _
  exact ⟨fun held => by contradiction, fun burst => absurd rfl burst⟩

theorem burst_counts_once {group : FailoverGroup} {threads : CheckThreads}
    (run : Run (interleave advanceCheck) Quiet (startChecks group) threads) (id : Nat) :
    threads.shared.record.begun id ≤ 1 ∧ ∀ realTag, threads.shared.record.earlyStrikes id realTag ≤ 1 := by
  have kept : Sound threads ∧ Live threads := by
    refine run.invariant (fun threads => Sound threads ∧ Live threads) ⟨sound_start group, fun id current => by contradiction⟩ ?_
    intro _ _ _ both quiet taken
    exact ⟨sound_step both.1 both.2 quiet taken, live_step both.2 taken⟩
  have record : RecordFact threads.shared.record threads.shared.now := kept.1.whole.record
  exact ⟨record.begun id, record.once id⟩

def relayPair : FailoverGroup :=
  { failoverStrikes := 2
    outbounds := [⟨"primary", [.tcp, .udp]⟩, ⟨"backup", [.tcp, .udp]⟩] }

theorem burst_counts_once_example :
    ∃ threads, Run (interleave advanceCheck) Quiet (startChecks relayPair) threads ∧
      threads.shared.record.earlyStrikes 0 "primary" = 1 ∧ threads.shared.record.begun 0 ≤ 1 ∧
      ∀ realTag, threads.shared.record.earlyStrikes 0 realTag ≤ 1 := by
  have silent (threads : CheckThreads) (label : Nat × CheckInput) (other : label.2 ≠ .dialFailure) : Quiet threads label :=
    fun dials => absurd dials other
  have run : Run (interleave advanceCheck) Quiet (startChecks relayPair) _ :=
    (Run.next (0, .dialFailure) .refl (fun _ _ burst => absurd rfl burst) rfl).trans
      (run_of_execute [(0, .arm), (1, .fire 0 (.burst 0)), (1, .select), (1, .load), (1, .store), (1, .enter), (1, .choose),
        (1, .probe "primary" .failed)] _ _ (fun label member threads => silent threads label (by revert label; simp)) rfl)
  exact ⟨_, run, rfl, burst_counts_once run 0⟩

-- The first check has cleared the flag when the burst's next failure arrives:
-- its timer waits for the check to end and starts another.
theorem second_failure_counterexample :
    ∃ threads, execute (interleave advanceCheck) (startChecks relayPair)
        [(0, .dialFailure), (0, .arm), (1, .fire 0 (.burst 0)), (1, .select), (1, .load), (1, .store), (1, .enter), (1, .choose),
         (0, .dialFailure), (0, .arm), (2, .fire 0 (.burst 0)), (2, .select), (2, .load), (2, .store), (2, .swap), (2, .arm),
         (1, .probe "primary" .failed), (1, .update), (1, .reschedule), (1, .leave), (0, .tick 1000),
         (3, .fire 1000 (.burst 0)), (3, .select), (3, .load), (3, .store), (3, .enter), (3, .choose), (3, .probe "primary" .failed)] =
          some threads ∧
      threads.shared.record.begun 0 = 2 ∧ threads.shared.record.ended 0 = some 0 ∧ threads.shared.now < failoverRecheckDelay ∧
      threads.shared.record.earlyStrikes 0 "primary" = 2 ∧ threads.shared.group.condemned "primary" = true := by
  decide

end OtunKernel.Group
