import Mathlib.Data.List.Nodup
import OtunKernel.Dialer.Custody

namespace OtunKernel.Dialer

open Lib Plan
open Net

section
variable {ι : Type}

theorem racers_nodup (plan : Plan) : plan.racers.Nodup := by
  have range : ∀ (primary : Bool) (count : Nat), ((List.range count).map (Racer.mk primary)).Nodup := by
    grind [List.nodup_range]
  apply List.Nodup.append (range ..) (range ..)
  intro _ primary fallback
  simp only [List.mem_map] at primary fallback
  obtain ⟨_, _, rfl⟩ := primary
  obtain ⟨_, _, same⟩ := fallback
  simp at same

variable {errors : List Racer}

theorem length_eq_racers_iff (plan : Plan) (distinct : errors.Nodup)
    (candidates : ∀ racer ∈ errors, (plan.candidates racer).isSome = true) :
    errors.length = plan.racers.length ↔ ∀ racer, (plan.candidates racer).isSome = true → racer ∈ errors := by
  have inside : errors.Subperm plan.racers := by grind [distinct.subperm, mem_racers]
  constructor
  · intro lengths racer candidate
    have same := inside.perm_of_length_le (Nat.le_of_eq lengths.symm)
    grind [mem_racers]
  intro all
  have covers : plan.racers.Subperm errors :=
    (racers_nodup plan).subperm (fun racer member => all racer ((mem_racers plan racer).mp member))
  exact Nat.le_antisymm inside.length_le covers.length_le

theorem length_racers (plan : Plan) : plan.racers.length = plan.primaries.length + plan.fallbacks.length := by
  simp [racers]

theorem counted_lawful {plan : Plan} (counts : ∀ errors, plan.exhausted errors =
      (errors.length == plan.primaries.length + plan.fallbacks.length))
    (untimed : plan.timer = false → plan.fast = true ∨ plan.fallbacks = []) (fast : plan.fast = true → plan.timer = false) :
    plan.Lawful := by
  refine ⟨?_, untimed, fast⟩
  intro _ distinct candidates
  rw [counts, beq_iff_eq, ← length_racers]
  exact length_eq_racers_iff plan distinct candidates

theorem dial_parallel_interface_lawful (primaryInterfaces fallbackInterfaces : List ι) :
    (dialParallelInterface primaryInterfaces fallbackInterfaces).Lawful := by
  apply counted_lawful
  · simp [dialParallelInterface]
  · simp [dialParallelInterface]
  · simp [dialParallelInterface]

theorem dial_parallel_interface_fast_fallback_lawful (primaryInterfaces fallbackInterfaces : List ι) :
    (dialParallelInterfaceFastFallback primaryInterfaces fallbackInterfaces).Lawful := by
  refine counted_lawful ?_ (fun _ => .inl rfl) (fun _ => rfl)
  simp [dialParallelInterfaceFastFallback]

theorem dial_serial_network_lawful (isParallel : Bool) (destinationAddresses : List Addr) :
    (dialSerialNetwork isParallel destinationAddresses).Lawful := by
  have only : ∀ racer : Racer,
      ((dialSerialNetwork isParallel destinationAddresses).candidates racer).isSome = true ↔ racer = ⟨true, 0⟩ := by
    rintro ⟨primary, _⟩
    cases primary <;> simp [dialSerialNetwork, candidates]
  refine ⟨?_, fun _ => .inr rfl, fun fast => ?_⟩
  · intro errors _ candidates
    cases errors with
    | nil => simp_all [dialSerialNetwork]
    | cons first =>
      refine iff_of_true rfl (fun racer candidate => ?_)
      have head := (only first).mp (candidates first List.mem_cons_self)
      rw [(only racer).mp candidate, head]
      exact List.mem_cons_self
  · simp [dialSerialNetwork] at fast

theorem race_families_lawful (isParallel : Bool) (primaries fallbacks : List Addr) :
    (raceFamilies isParallel primaries fallbacks).Lawful := by
  have candidate_iff : ∀ racer : Racer,
      ((raceFamilies isParallel primaries fallbacks).candidates racer).isSome = true ↔ racer.index = 0 := by
    rintro ⟨primary, index⟩
    cases primary <;> simp [raceFamilies, candidates]
  refine ⟨?_, fun untimed => ?_, fun fast => ?_⟩
  · intro errors _ candidates
    have member_iff : ∀ primary : Bool, (∃ racer ∈ errors, racer.primary = primary) ↔ ⟨primary, 0⟩ ∈ errors := by
      intro primary
      constructor
      · rintro ⟨⟨_, index⟩, member, rfl⟩
        grind
      · grind
    have exhausted_iff : (raceFamilies isParallel primaries fallbacks).exhausted errors = true ↔
        ⟨true, 0⟩ ∈ errors ∧ ⟨false, 0⟩ ∈ errors := by
      rw [← member_iff, ← member_iff]
      simp [raceFamilies]
    rw [exhausted_iff]
    constructor
    · rintro ⟨first, second⟩ ⟨primary, index⟩ candidate
      grind
    · grind
  · simp [raceFamilies] at untimed
  · simp [raceFamilies] at fast

theorem dial_parallel_network_lawful (isParallel : Bool) (destination : Addr) (destinationAddresses : List Addr)
    (preferIPv6 : Bool) : (dialParallelNetwork isParallel destination destinationAddresses preferIPv6).Lawful := by
  rw [dialParallelNetwork]
  generalize (if destinationAddresses.isEmpty then [destination] else destinationAddresses) = addresses
  split_ifs
  · exact dial_serial_network_lawful ..
  · exact race_families_lawful ..
  · exact race_families_lawful ..

theorem plan_lawful (call : Call ι) : call.plan.Lawful := by
  cases call with
  | parallelInterface => exact dial_parallel_interface_lawful ..
  | fastFallback => exact dial_parallel_interface_fast_fallback_lawful ..
  | parallelNetwork => exact dial_parallel_network_lawful ..

end

section
variable {plan : Plan} {race later : Race}

theorem exhausted_iff (lawful : plan.Lawful) (custody : Custody plan race) :
    plan.exhausted race.errors = true ↔ ∀ racer, (plan.candidates racer).isSome = true → racer ∈ race.errors := by
  refine lawful.exhausted race.errors custody.distinct (fun racer member => ?_)
  have ok := custody.racers racer
  exact ok.candidate (by simp [ok.errors.mp member])

variable {racer : Racer}

theorem failed_of_errors (lawful : plan.Lawful) (custody : Custody plan race) (returned : race.result = some (.errors errors))
    (candidate : (plan.candidates racer).isSome = true) : race.phase racer = .handed false := by
  have member := (exhausted_iff lawful custody).mp (custody.verdict errors returned) racer candidate
  exact (custody.racers racer).errors.mp member

theorem open_iff_returned (custody : Custody plan race) (racer : Racer) (finished : (race.phase racer).finished = true) :
    (race.phase racer).isOpen = true ↔ race.result = some (.conn racer) := by
  rw [(custody.racers racer).result]
  generalize race.phase racer = phase at finished
  cases phase with
  | handed success => cases success <;> simp [Phase.isOpen]
  | offering | closing => simp [Phase.finished] at finished
  | _ => simp [Phase.isOpen]

theorem offering_of_succeeded (custody : Custody plan race) (running : race.result = none)
    (succeeded : (race.phase racer).succeeded = true) : race.phase racer = .offering true := by
  have ok := custody.racers racer
  have result := ok.result
  have late := ok.late
  rw [running] at result late
  cases phase : race.phase racer with
  | offering success => cases success <;> simp [phase, Phase.succeeded, Phase.isOpen] at succeeded ⊢
  | handed success => cases success <;> simp [phase, Phase.succeeded, Phase.isOpen] at succeeded result
  | closing | closed => simp [phase, Phase.late] at late
  | _ => simp [phase, Phase.succeeded, Phase.isOpen] at succeeded

theorem update_succeeded {phases : Racer → Phase} {phase : Phase}
    (kept : (phases racer).succeeded = true → phase.succeeded = true) (other : Racer)
    (succeeded : (phases other).succeeded = true) : (Function.update phases racer phase other).succeeded = true := by
  grind

theorem Move.succeeded (move : Move plan race later) (sound : Sound plan race)
    (succeeded : (race.phase racer).succeeded = true) : (later.phase racer).succeeded = true := by
  cases move with
  | dialed | won | refused | closed => exact update_succeeded (fun _ => rfl) racer succeeded
  | missed | elapsed | expired => exact succeeded
  | failed _ dialing | dropped _ dialing =>
    exact update_succeeded (by simp [dialing, Phase.succeeded, Phase.isOpen]) racer succeeded
  | collected _ _ offering =>
    simpa [collect_phase] using update_succeeded (by simp [offering, Phase.succeeded, Phase.isOpen]) racer succeeded
  | fallback _ expired =>
    have other : ¬(racer.primary = false ∧ (plan.candidates racer).isSome = true) := by
      rintro ⟨fallback, _⟩
      rcases sound.fallbacks with ⟨_, _, unstarted, _⟩ | ⟨_, _, timer⟩
      · simp [unstarted racer fallback, Phase.succeeded, Phase.isOpen] at succeeded
      · simp [expired] at timer
    have there : (race.startFallbacks plan).phase racer = race.phase racer := if_neg other
    simp [there, succeeded]

theorem conn_of_succeeded (lawful : plan.Lawful) (sound : Sound plan race) (succeeded : (race.phase racer).succeeded = true)
    {result : Result} (returned : race.result = some result) : ∃ winner, result = .conn winner := by
  cases result with
  | conn winner => exact ⟨winner, rfl⟩
  | errors =>
    have candidate : (plan.candidates racer).isSome = true := by
      refine (sound.racers racer).candidate (fun unstarted => ?_)
      simp [unstarted, Phase.succeeded, Phase.isOpen] at succeeded
    simp [failed_of_errors lawful sound.toCustody returned candidate, Phase.succeeded, Phase.isOpen] at succeeded

theorem awaited (lawful : plan.Lawful) (sound : Sound plan race) (running : race.result = none) :
    (∃ racer, (race.phase racer).finished = false) ∨ race.timer = .expired ∨ ∃ atOnce, race.timer = .armed atOnce := by
  refine Classical.byContradiction (fun stuck => ?_)
  obtain ⟨finished, unexpired, unarmed⟩ : (∀ racer, (race.phase racer).finished = true) ∧ race.timer ≠ .expired ∧
      ∀ atOnce, race.timer ≠ .armed atOnce := by
    simpa only [not_or, not_exists, Bool.not_eq_false] using stuck
  have started : ∀ racer, (plan.candidates racer).isSome = true → race.phase racer ≠ .unstarted := by
    intro racer candidate
    by_cases primary : racer.primary = true
    · exact sound.primaries racer primary candidate
    have fallback : racer.primary = false := Bool.eq_false_iff.mpr primary
    rcases sound.fallbacks with ⟨_, slow, _, unreceived⟩ | ⟨_, started, _⟩
    · have untimed : race.timer = .none := by
        cases timer : race.timer with
        | none => rfl
        | armed atOnce => grind
        | expired => exact absurd timer unexpired
        | received => grind
      rcases lawful.untimed (sound.untimed untimed) with fast | none
      · simp [slow] at fast
      · simp [candidates, fallback, none] at candidate
    · grind
  have failed : ∀ racer, (plan.candidates racer).isSome = true → racer ∈ race.errors := by
    intro racer candidate
    have ok := sound.racers racer
    have ended := finished racer
    have unreturned := ok.result
    have late := ok.late
    rw [running] at unreturned late
    rw [ok.errors]
    cases phase : race.phase racer with
    | unstarted => grind
    | handed success => cases success <;> simp [phase] at unreturned ⊢
    | closed | dropped => simp [phase, Phase.late] at late
    | _ => simp [phase, Phase.finished] at ended
  have exhausted := (exhausted_iff lawful sound.toCustody).mpr failed
  simp [sound.waiting running] at exhausted

theorem fallbacks_started (timing : Timing plan race) :
    race.fallbackStarts ≤ 1 ∧ ∀ racer, racer.primary = false → race.phase racer ≠ .unstarted →
      race.fallbackStarts = 1 ∧ (plan.fast = true ∨ FallbackDue race) := by
  rcases timing.fallbacks with ⟨starts, _, unstarted, _⟩ | ⟨starts, _, timer⟩
  · simp_all
  grind [timing.due]

theorem success_is_returned (lawful : plan.Lawful) (sound : Sound plan race) (running : race.result = none)
    (succeeded : (race.phase racer).succeeded = true) :
    (∃ later, step plan race (.hand racer false) = some later ∧ later.result = some (.conn racer)) ∧
      ∀ later result, Run (step plan) anyStep race later → later.result = some result → ∃ winner, result = .conn winner := by
  constructor
  · have offering := offering_of_succeeded sound.toCustody running succeeded
    grind [step]
  intro later _ run returned
  have kept : Sound plan later ∧ (later.phase racer).succeeded = true := by
    refine run.invariant (fun race => Sound plan race ∧ (race.phase racer).succeeded = true) ⟨sound, succeeded⟩ ?_
    intro race _ later holds _ taken
    exact ⟨holds.1.step taken, (move_of_step taken).succeeded holds.1 holds.2⟩
  exact conn_of_succeeded lawful kept.1 kept.2 returned

end

theorem parallel_dial_correct {ι : Type} (call : Call ι) {race : Race}
    (run : Run (step call.plan) anyStep (start call.plan) race) :
    (∀ racer, race.result = none → (race.phase racer).succeeded = true →
      (∃ later, step call.plan race (.hand racer false) = some later ∧ later.result = some (.conn racer)) ∧
        ∀ later result, Run (step call.plan) anyStep race later → later.result = some result →
          ∃ winner, result = .conn winner) ∧
      (∀ errors, race.result = some (.errors errors) → ∀ racer count, call.plan.candidates racer = some count →
        race.phase racer = .handed false ∧ count ≤ race.failures racer) ∧
      race.fallbackStarts ≤ 1 ∧
      (∀ racer, racer.primary = false → race.phase racer ≠ .unstarted →
        race.fallbackStarts = 1 ∧ (call.plan.fast = true ∨ FallbackDue race)) ∧
      ((∀ racer, (race.phase racer).finished = true) →
        ∀ racer, (race.phase racer).isOpen = true ↔ race.result = some (.conn racer)) ∧
      (race.result = none →
        (∃ racer, (race.phase racer).finished = false) ∨ race.timer = .expired ∨ ∃ atOnce, race.timer = .armed atOnce) := by
  have lawful := plan_lawful call
  have sound := sound_of_run lawful run
  have fallbacks := fallbacks_started sound.toTiming
  refine ⟨?_, ?_, fallbacks.1, fallbacks.2, ?_, awaited lawful sound⟩
  · exact fun racer running succeeded => success_is_returned lawful sound running succeeded
  · intro errors returned racer count candidates
    have handed := failed_of_errors lawful sound.toCustody returned (by rw [candidates]; rfl)
    obtain ⟨_, found, bound⟩ := (sound.racers racer).failed (by simp [handed, Phase.failed])
    rw [candidates] at found
    injection found with found
    rw [found]
    exact ⟨handed, bound⟩
  · grind [open_iff_returned, sound.toCustody]

def fallbackWins : List Event :=
  [.elapse, .expire, .fallback, .attempt ⟨true, 0⟩ true, .attempt ⟨false, 0⟩ true, .hand ⟨false, 0⟩ false, .leave ⟨true, 0⟩,
    .close ⟨true, 0⟩]

theorem parallel_dial_correct_example :
    ∃ race, execute (step (Call.parallelInterface [()] [()]).plan) (start (Call.parallelInterface [()] [()]).plan)
        fallbackWins = some race ∧
      race.result = some (.conn ⟨false, 0⟩) ∧ (race.phase ⟨true, 0⟩).isOpen = false ∧ race.fallbackStarts ≤ 1 := by
  refine ⟨_, rfl, rfl, rfl, ?_⟩
  refine (parallel_dial_correct (.parallelInterface [()] [()]) ?_).2.2.1
  exact run_of_execute fallbackWins _ _ (fun _ _ _ => trivial) rfl

end OtunKernel.Dialer
