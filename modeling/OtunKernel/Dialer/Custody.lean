import OtunKernel.Dialer.Parallel

namespace OtunKernel.Dialer

open Lib Phase Plan

def AllFailed (plan : Plan) (race : Race) (racer : Racer) : Prop :=
  ∃ count, plan.candidates racer = some count ∧ count ≤ race.failures racer

def Phase.failed : Phase → Bool
  | .offering false => true
  | .handed false => true
  | .dropped => true
  | _ => false

def Phase.late : Phase → Bool
  | .closing => true
  | .closed => true
  | .dropped => true
  | _ => false

structure RacerOk (plan : Plan) (race : Race) (racer : Racer) : Prop where
  errors : racer ∈ race.errors ↔ race.phase racer = .handed false
  result : race.result = some (.conn racer) ↔ race.phase racer = .handed true
  candidate : race.phase racer ≠ .unstarted → (plan.candidates racer).isSome = true
  failed : (race.phase racer).failed = true → AllFailed plan race racer
  late : (race.phase racer).late = true → race.result ≠ none

variable {plan : Plan} {race later : Race}

section
variable {racer other : Racer}

theorem racer_ok_congr (ok : RacerOk plan race racer) (phase : later.phase racer = race.phase racer)
    (failures : later.failures racer = race.failures racer) (errors : racer ∈ later.errors ↔ racer ∈ race.errors)
    (result : later.result = some (.conn racer) ↔ race.result = some (.conn racer))
    (returned : race.result ≠ none → later.result ≠ none) : RacerOk plan later racer := by
  refine ⟨?_, ?_, ?_, ?_, ?_⟩
  · simp [errors, phase, ok.errors]
  · simp [result, phase, ok.result]
  · simpa [phase] using ok.candidate
  · simpa [phase, AllFailed, failures] using ok.failed
  · grind [ok.late]

theorem racer_ok_of_unhanded (errors : racer ∉ race.errors) (result : race.result ≠ some (.conn racer))
    (unhanded : ∀ success, race.phase racer ≠ .handed success)
    (candidate : race.phase racer ≠ .unstarted → (plan.candidates racer).isSome = true)
    (failed : (race.phase racer).failed = true → AllFailed plan race racer)
    (late : (race.phase racer).late = true → race.result ≠ none) : RacerOk plan race racer :=
  ⟨iff_of_false errors (unhanded false), iff_of_false result (unhanded true), candidate, failed, late⟩

theorem racer_ok_moved (ok : RacerOk plan race racer) (errors : later.errors = race.errors) (result : later.result = race.result)
    (before : ∀ success, race.phase racer ≠ .handed success) (after : ∀ success, later.phase racer ≠ .handed success)
    (candidate : (plan.candidates racer).isSome = true) (failed : (later.phase racer).failed = true → AllFailed plan later racer)
    (late : (later.phase racer).late = true → race.result ≠ none) : RacerOk plan later racer := by
  apply racer_ok_of_unhanded
  · simpa [errors, ok.errors] using before false
  · simpa [Ne, result, ok.result] using before true
  · exact after
  · exact fun _ => candidate
  · exact failed
  · simpa [result] using late

theorem racers_ok_of_touched (ok : ∀ other, RacerOk plan race other) (racer : Racer)
    (phase : ∀ other, other ≠ racer → later.phase other = race.phase other)
    (failures : ∀ other, other ≠ racer → later.failures other = race.failures other)
    (errors : ∀ other, other ≠ racer → (other ∈ later.errors ↔ other ∈ race.errors))
    (result : ∀ other, other ≠ racer → (later.result = some (.conn other) ↔ race.result = some (.conn other)))
    (returned : race.result ≠ none → later.result ≠ none) (touched : RacerOk plan later racer) (other : Racer) :
    RacerOk plan later other := by
  by_cases same : other = racer
  · simp [same, touched]
  · exact racer_ok_congr (ok other) (phase other same) (failures other same) (errors other same) (result other same) returned

end

-- The function gives up just when every racer's error is in, and only with the
-- fallbacks at hand it goes without the timer.
structure Plan.Lawful (plan : Plan) : Prop where
  exhausted : ∀ errors : List Racer, errors.Nodup → (∀ racer ∈ errors, (plan.candidates racer).isSome = true) →
    (plan.exhausted errors = true ↔ ∀ racer, (plan.candidates racer).isSome = true → racer ∈ errors)
  untimed : plan.timer = false → plan.fast = true ∨ plan.fallbacks = []
  fast : plan.fast = true → plan.timer = false

structure Custody (plan : Plan) (race : Race) : Prop where
  racers : ∀ racer, RacerOk plan race racer
  distinct : race.errors.Nodup
  waiting : race.result = none → plan.exhausted race.errors = false
  verdict : ∀ errors, race.result = some (.errors errors) → plan.exhausted race.errors = true

section
variable {racer : Racer}

theorem mem_racers (plan : Plan) (racer : Racer) : racer ∈ plan.racers ↔ (plan.candidates racer).isSome = true := by
  obtain ⟨primary, _⟩ := racer
  rw [racers, candidates]
  cases primary <;> simp

theorem start_custody (lawful : plan.Lawful) : Custody plan (start plan) := by
  have empty := lawful.exhausted [] List.nodup_nil (fun racer member => absurd member List.not_mem_nil)
  refine ⟨fun racer => ?_, List.nodup_nil, fun waiting => ?_, fun errors returned => ?_⟩
  · have phase : (start plan).phase racer = .unstarted ∨
        ((start plan).phase racer = .dialing ∧ (plan.candidates racer).isSome = true) := by
      rw [start]
      dsimp only
      split_ifs with started
      · grind
      · exact .inl rfl
    have result : (start plan).result ≠ some (.conn racer) := by simp [start]
    rcases phase with phase | ⟨phase, candidate⟩
    · refine racer_ok_of_unhanded List.not_mem_nil result ?_ (fun started => absurd phase started) ?_ ?_
      all_goals simp [phase, failed, late]
    refine racer_ok_of_unhanded List.not_mem_nil result ?_ (fun _ => candidate) ?_ ?_
    all_goals simp [phase, failed, late]
  · by_cases none : plan.racers.isEmpty = true
    · simp [start, none] at waiting
    rw [Bool.eq_false_iff]
    intro exhausted
    obtain ⟨racer, member⟩ := List.exists_mem_of_ne_nil plan.racers (by simpa using none)
    exact absurd (empty.mp exhausted racer ((mem_racers plan racer).mp member)) List.not_mem_nil
  · grind [mem_racers, start]

section
variable (custody : Custody plan race)
include custody

theorem Custody.of_racers (errors : later.errors = race.errors)
    (result : later.result = race.result) (racers : ∀ racer, RacerOk plan later racer) : Custody plan later := by
  refine ⟨racers, ?_, ?_, ?_⟩
  · simp [errors, custody.distinct]
  · simpa [result, errors] using custody.waiting
  · simpa [result, errors] using custody.verdict

theorem Custody.set (racer : Racer) (phase : Phase) (phases : later.phase = Function.update race.phase racer phase)
    (failures : ∀ other, other ≠ racer → later.failures other = race.failures other) (errors : later.errors = race.errors)
    (result : later.result = race.result) (before : ∀ success, race.phase racer ≠ .handed success)
    (started : race.phase racer ≠ .unstarted) (after : ∀ success, phase ≠ .handed success)
    (failed : phase.failed = true → AllFailed plan later racer) (late : phase.late = true → race.result ≠ none) :
    Custody plan later := by
  have there : later.phase racer = phase := by simp [phases]
  refine custody.of_racers errors result (racers_ok_of_touched custody.racers racer ?_ failures ?_ ?_ ?_ ?_)
  · simp_all
  · grind
  · grind
  · rw [result]
    exact id
  refine racer_ok_moved (custody.racers racer) errors result before ?_ ((custody.racers racer).candidate started) ?_ ?_
  · simp [there, after]
  · simpa [there] using failed
  · simpa [there] using late

theorem Custody.won (running : race.result = none) (offering : race.phase racer = .offering true) :
    Custody plan { race.set racer (.handed true) with result := some (.conn racer) } := by
  have ok := custody.racers racer
  refine ⟨racers_ok_of_touched custody.racers racer ?_ (fun _ _ => rfl) (fun _ _ => Iff.rfl) ?_ ?_ ?_,
    custody.distinct, fun waiting => ?_, fun errors returned => ?_⟩
  · exact fun other different => Function.update_of_ne different ..
  · grind
  · grind
  · have there : (race.set racer (.handed true)).phase racer = .handed true := Function.update_self ..
    refine ⟨?_, iff_of_true rfl there, ?_, ?_, ?_⟩
    · refine iff_of_false (fun member => ?_) ?_
      · have handed := ok.errors.mp member
        simp [offering] at handed
      · simp [there]
    · grind [ok.candidate]
    · rw [there]
      exact fun failed => absurd failed (by decide)
    · simp
  · simp at waiting
  · simp at returned

theorem Custody.collected (stopped : Bool) (running : race.result = none)
    (offering : race.phase racer = .offering false) : Custody plan (race.collect plan racer stopped) := by
  have ok := custody.racers racer
  have fresh : racer ∉ race.errors := by
    simp [ok.errors, offering]
  have result := collect_result plan race racer stopped
  have unreturned : ∀ other, (race.collect plan racer stopped).result ≠ some (.conn other) := by
    simp [result, running]
  refine ⟨racers_ok_of_touched custody.racers racer ?_ ?_ ?_ ?_ ?_ ?_, ?_, fun waiting => ?_, fun errors returned => ?_⟩
  · simp_all
  · simp
  · simp_all
  · simp_all
  · grind
  · have there : (race.collect plan racer stopped).phase racer = .handed false := by
      rw [collect_phase]
      grind
    refine ⟨iff_of_true (by simp) there, iff_of_false (unreturned racer) (by simp [there]), ?_, ?_, ?_⟩
    · grind [ok.candidate]
    · intro _
      simpa [AllFailed, collect_failures] using ok.failed (by simp [offering, failed])
    rw [there]
    exact fun late => absurd late (by decide)
  · simpa [collect_errors] using List.Nodup.append custody.distinct (List.nodup_singleton racer) (by simpa using fresh)
  · simp_all
  · simp_all

theorem Custody.fallback (unstarted : ∀ racer, racer.primary = false → race.phase racer = .unstarted) :
    Custody plan { race.startFallbacks plan with timer := .received } := by
  refine custody.of_racers rfl rfl (fun racer => ?_)
  by_cases started : racer.primary = false ∧ (plan.candidates racer).isSome = true
  · have there : (race.startFallbacks plan).phase racer = .dialing := if_pos started
    have before := unstarted racer started.1
    refine racer_ok_moved (custody.racers racer) rfl rfl ?_ ?_ started.2 ?_ ?_
    · simp [before]
    · simp [there]
    · simp [there, failed]
    · simp [there, late]
  have there : (race.startFallbacks plan).phase racer = race.phase racer := if_neg started
  exact racer_ok_congr (custody.racers racer) there rfl Iff.rfl Iff.rfl id

theorem Custody.move (move : Move plan race later)
    (unstarted : race.timer = .expired → ∀ racer, racer.primary = false → race.phase racer = .unstarted) : Custody plan later := by
  cases move with
  | @dialed racer _ dialing =>
    refine custody.set racer (.offering true) rfl (fun _ _ => rfl) rfl rfl ?_ ?_ ?_ ?_ ?_
    all_goals simp [dialing, failed, late]
  | @missed racer dialing =>
    refine custody.of_racers rfl rfl (racers_ok_of_touched custody.racers racer (fun _ _ => rfl) ?_ (fun _ _ => Iff.rfl)
      (fun _ _ => Iff.rfl) id ?_)
    · grind
    refine racer_ok_moved (custody.racers racer) rfl rfl ?_ ?_ ((custody.racers racer).candidate ?_) ?_ ?_
    all_goals simp [dialing, failed, late]
  | @failed racer count candidates dialing all =>
    refine custody.set racer (.offering false) rfl ?_ rfl rfl ?_ ?_ ?_ ?_ ?_
    · grind
    · simp [dialing]
    · simp [dialing]
    · simp
    · intro _
      refine ⟨count, candidates, ?_⟩
      simpa using all
    · simp [late]
  | won running offering => exact custody.won running offering
  | collected stopped running offering => exact custody.collected stopped running offering
  | elapsed | expired =>
    exact custody.of_racers rfl rfl (fun racer => racer_ok_congr (custody.racers racer) rfl rfl Iff.rfl Iff.rfl id)
  | fallback _ expired => exact custody.fallback (unstarted expired)
  | @refused racer _ returned offering =>
    refine custody.set racer .closing rfl (fun _ _ => rfl) rfl rfl ?_ ?_ ?_ ?_ ?_
    · simp [offering]
    · simp [offering]
    · simp
    · simp [failed]
    · exact fun _ => returned
  | @dropped racer returned offering =>
    refine custody.set racer .dropped rfl (fun _ _ => rfl) rfl rfl ?_ ?_ ?_ ?_ ?_
    · simp [offering]
    · simp [offering]
    · simp
    · exact fun _ => (custody.racers racer).failed (by simp [offering, failed])
    · exact fun _ => returned
  | @closed racer closing =>
    refine custody.set racer .closed rfl (fun _ _ => rfl) rfl rfl ?_ ?_ ?_ ?_ ?_
    · simp [closing]
    · simp [closing]
    · simp
    · simp [failed]
    · exact fun _ => (custody.racers racer).late (by simp [closing, late])

end
end

def FallbacksOk (plan : Plan) (race : Race) : Prop :=
  (race.fallbackStarts = 0 ∧ plan.fast = false ∧ (∀ racer, racer.primary = false → race.phase racer = .unstarted) ∧
    race.timer ≠ .received) ∨
  (race.fallbackStarts = 1 ∧
    (∀ racer, racer.primary = false → (plan.candidates racer).isSome = true → race.phase racer ≠ .unstarted) ∧
    (race.timer = .received ∨ (race.timer = .none ∧ plan.fast = true)))

def FallbackDue (race : Race) : Prop :=
  race.elapsed = true ∨ ∃ racer : Racer, racer.primary = true ∧ race.phase racer = .handed false

structure Timing (plan : Plan) (race : Race) : Prop where
  primaries : ∀ racer, racer.primary = true → (plan.candidates racer).isSome = true → race.phase racer ≠ .unstarted
  fallbacks : FallbacksOk plan race
  untimed : race.timer = .none → plan.timer = false
  due : race.timer = .armed true ∨ race.timer = .expired ∨ race.timer = .received → FallbackDue race

inductive TimerMove (race later : Race) : Prop where
  | kept (timer : later.timer = race.timer)
  | reset (stopped : Bool) {racer : Racer} (primary : racer.primary = true) (failed : later.phase racer = .handed false)
      (timer : later.timer = race.timer.stopAndReset stopped)
  | expired {atOnce : Bool} (armed : race.timer = .armed atOnce) (due : atOnce = true ∨ race.elapsed = true)
      (timer : later.timer = .expired)

structure Steady (race later : Race) : Prop where
  unstarted : ∀ racer, later.phase racer = .unstarted ↔ race.phase racer = .unstarted
  failed : ∀ racer, race.phase racer = .handed false → later.phase racer = .handed false
  starts : later.fallbackStarts = race.fallbackStarts
  elapsed : race.elapsed = true → later.elapsed = true
  timer : TimerMove race later

theorem steady_of_same (phase : later.phase = race.phase) (starts : later.fallbackStarts = race.fallbackStarts)
    (elapsed : race.elapsed = true → later.elapsed = true) (timer : TimerMove race later) : Steady race later := by
  refine ⟨?_, ?_, starts, elapsed, timer⟩
  · intro racer
    rw [phase]
  · simp_all

theorem steady_of_set (racer : Racer) (phase : Phase) (phases : later.phase = Function.update race.phase racer phase)
    (started : race.phase racer ≠ .unstarted) (unsettled : race.phase racer ≠ .handed false) (after : phase ≠ .unstarted)
    (starts : later.fallbackStarts = race.fallbackStarts) (elapsed : later.elapsed = race.elapsed)
    (timer : TimerMove race later) : Steady race later := by
  refine ⟨?_, ?_, starts, ?_, timer⟩
  · intro other
    rw [phases]
    by_cases same : other = racer
    · simpa [same, Function.update_self] using iff_of_false after started
    · rw [Function.update_of_ne same]
  · intro other failed
    have different : other ≠ racer := by grind
    simp [phases, Function.update_of_ne different, failed]
  rw [elapsed]
  exact id

theorem collect_timer_move (plan : Plan) (race : Race) (racer : Racer) (stopped : Bool) :
    TimerMove race (race.collect plan racer stopped) := by
  rcases collect_timer plan race racer stopped with kept | ⟨primary, reset⟩
  · exact .kept kept
  refine .reset stopped primary ?_ reset
  rw [collect_phase, Function.update_self]

theorem Move.steady (move : Move plan race later) :
    Steady race later ∨
      (race.timer = .expired ∧ later = { race.startFallbacks plan with timer := .received }) := by
  cases move with
  | @dialed racer _ here | @failed racer _ _ here | @won racer _ here | @refused racer _ _ here | @dropped racer _ here
  | @closed racer here =>
    refine .inl (steady_of_set racer _ rfl ?_ ?_ ?_ rfl rfl (.kept rfl))
    all_goals simp [here]
  | missed => exact .inl (steady_of_same rfl rfl id (.kept rfl))
  | @collected racer _ _ offering =>
    grind [steady_of_set, collect_phase, collect_fallback_starts, collect_elapsed, collect_timer_move]
  | elapsed => exact .inl (steady_of_same rfl rfl (fun _ => rfl) (.kept rfl))
  | expired armed due => exact .inl (steady_of_same rfl rfl id (.expired armed due rfl))
  | fallback _ expired => grind

theorem FallbackDue.steady (due : FallbackDue race) (steady : Steady race later) : FallbackDue later := by
  rcases due with elapsed | ⟨racer, primary, failed⟩
  · exact .inl (steady.elapsed elapsed)
  · exact .inr ⟨racer, primary, steady.failed racer failed⟩

theorem timer_kept (move : TimerMove race later) (idle : race.timer = .received ∨ race.timer = .none) :
    later.timer = race.timer := by
  cases move with
  | kept timer => exact timer
  | reset _ _ _ timer =>
    rw [timer]
    rcases idle with same | same <;> rw [same] <;> rfl
  | expired armed =>
    simp [armed] at idle

theorem timer_not_idle (move : TimerMove race later) {timer : Timer} (idle : timer = .received ∨ timer = .none)
    (other : race.timer ≠ timer) : later.timer ≠ timer := by
  cases move with
  | kept same =>
    simp [same, other]
  | reset stopped _ _ same =>
    rw [same, Timer.stopAndReset.eq_def]
    split
    · rcases idle with idle | idle <;> simp [idle]
    · rcases idle with idle | idle <;> cases stopped <;> simp [idle]
    · exact other
  | expired _ _ same => grind

theorem Timing.steady (timing : Timing plan race) (steady : Steady race later) : Timing plan later := by
  refine ⟨?_, ?_, ?_, ?_⟩
  · grind [steady.unstarted, timing.primaries]
  · rcases timing.fallbacks with ⟨starts, slow, unstarted, timer⟩ | ⟨starts, started, timer⟩
    · refine .inl ⟨steady.starts.trans starts, slow, ?_, timer_not_idle steady.timer (.inl rfl) timer⟩
      intro racer fallback
      simpa [steady.unstarted] using unstarted racer fallback
    refine .inr ⟨steady.starts.trans starts, ?_, ?_⟩
    · simp_all [steady.unstarted]
    · simp [timer_kept steady.timer (timer.imp id And.left), timer]
  · intro untimed
    apply timing.untimed
    exact Classical.byContradiction (fun other => timer_not_idle steady.timer (.inr rfl) other untimed)
  intro due
  cases steady.timer with
  | kept timer =>
    rw [timer] at due
    exact (timing.due due).steady steady
  | reset _ primary failed => exact .inr ⟨_, primary, failed⟩
  | expired armed early =>
    rcases early with atOnce | elapsed
    · rw [atOnce] at armed
      exact (timing.due (.inl armed)).steady steady
    · exact .inl (steady.elapsed elapsed)

theorem Timing.fallback (timing : Timing plan race) (expired : race.timer = .expired) :
    Timing plan { race.startFallbacks plan with timer := .received } := by
  have primary_phase : ∀ racer : Racer, racer.primary = true → (race.startFallbacks plan).phase racer = race.phase racer :=
    fun racer primary => if_neg (by simp [primary])
  refine ⟨?_, .inr ⟨?_, ?_, .inl rfl⟩, ?_, fun _ => ?_⟩
  · grind [timing.primaries]
  · rcases timing.fallbacks with ⟨starts, _⟩ | ⟨_, _, timer⟩
    · exact congrArg (· + 1) starts
    · simp [expired] at timer
  · intro racer fallback candidate
    have there : (race.startFallbacks plan).phase racer = .dialing := if_pos ⟨fallback, candidate⟩
    simp [there]
  · simp
  rcases timing.due (.inr (.inl expired)) with elapsed | ⟨racer, primary, failed⟩
  · exact .inl elapsed
  · exact .inr ⟨racer, primary, (primary_phase racer primary).trans failed⟩

theorem Timing.move (timing : Timing plan race) (move : Move plan race later) : Timing plan later := by
  rcases move.steady with steady | ⟨expired, started⟩
  · exact timing.steady steady
  · simpa [started] using timing.fallback expired

theorem start_timing (lawful : plan.Lawful) : Timing plan (start plan) := by
  have timer : (start plan).timer = if plan.timer then .armed false else .none := rfl
  refine ⟨?_, ?_, ?_, ?_⟩
  · grind [start]
  · by_cases fast : plan.fast = true
    · refine .inr ⟨if_pos fast, ?_, .inr ⟨?_, fast⟩⟩
      · grind [start]
      · simp [timer, lawful.fast fast]
    refine .inl ⟨if_neg fast, Bool.eq_false_iff.mpr fast, ?_, ?_⟩
    · intro racer fallback
      simp [start, fast, fallback]
    · grind
  · simp [timer]
  · grind

structure Sound (plan : Plan) (race : Race) : Prop extends Custody plan race, Timing plan race

theorem Sound.step {plan : Plan} {race later : Race} {event : Event} (sound : Sound plan race)
    (taken : step plan race event = some later) : Sound plan later := by
  have move := move_of_step taken
  refine ⟨sound.toCustody.move move ?_, sound.toTiming.move move⟩
  intro expired
  rcases sound.fallbacks with ⟨_, _, unstarted, _⟩ | ⟨_, _, timer⟩
  · exact unstarted
  · simp [expired] at timer

theorem sound_of_run {plan : Plan} (lawful : plan.Lawful) {race : Race} (run : Run (step plan) anyStep (start plan) race) :
    Sound plan race :=
  run.invariant (Sound plan) ⟨start_custody lawful, start_timing lawful⟩ (fun _ _ _ sound _ taken => sound.step taken)

end OtunKernel.Dialer
