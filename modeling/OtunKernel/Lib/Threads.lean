import Mathlib.Logic.Function.Basic
import OtunKernel.Lib.Runs

namespace OtunKernel.Lib

variable {ι σ φ ℓ : Type}

-- Threads over shared data. A thread moves by itself: its next step depends
-- on the shared data and on where it stands.
structure Threads (ι σ φ : Type) where
  shared : σ
  phase : ι → φ

def runAlone (advance : ι → σ → φ → ℓ → Option (σ × φ)) (thread : ι) : σ × φ → List ℓ → Option (σ × φ)
  | state, [] => some state
  | (shared, phase), input :: rest => (advance thread shared phase input).bind (fun state => runAlone advance thread state rest)

variable {thread : ι} {shared : σ} {phase : φ} {input : ℓ}

theorem run_alone_cons {advance : ι → σ → φ → ℓ → Option (σ × φ)} {rest : List ℓ} {next : σ × φ}
    (taken : advance thread shared phase input = some next) :
    runAlone advance thread (shared, phase) (input :: rest) = runAlone advance thread next rest := by
  rw [runAlone, taken, Option.bind_some]

variable [DecidableEq ι]

def interleave (advance : ι → σ → φ → ℓ → Option (σ × φ)) : System (Threads ι σ φ) (ι × ℓ)
  | threads, (thread, input) =>
    (advance thread threads.shared (threads.phase thread) input).map
      (fun turn => ⟨turn.1, Function.update threads.phase thread turn.2⟩)

variable {advance : ι → σ → φ → ℓ → Option (σ × φ)} {threads result : Threads ι σ φ}

theorem interleave_eq_some : interleave advance threads (thread, input) = some result ↔
      ∃ shared phase, advance thread threads.shared (threads.phase thread) input = some (shared, phase) ∧
        result = ⟨shared, Function.update threads.phase thread phase⟩ := by
  grind [interleave, Option.map_eq_some_iff]

structure Coherent (whole : σ → Prop) (each : ι → σ → φ → Prop) (pair : φ → φ → Prop) (threads : Threads ι σ φ) : Prop where
  whole : whole threads.shared
  each : ∀ thread, each thread threads.shared (threads.phase thread)
  pair : ∀ first second, first ≠ second → pair (threads.phase first) (threads.phase second)

theorem coherent_step {whole : σ → Prop} {each : ι → σ → φ → Prop} {pair : φ → φ → Prop}
    (symmetric : ∀ first second, pair first second → pair second first) (coherent : Coherent whole each pair threads)
    (taken : interleave advance threads (thread, input) = some result)
    (own : ∀ shared phase, advance thread threads.shared (threads.phase thread) input = some (shared, phase) →
      whole shared ∧ each thread shared phase)
    (others : ∀ shared phase, advance thread threads.shared (threads.phase thread) input = some (shared, phase) →
      ∀ other, other ≠ thread → pair (threads.phase thread) (threads.phase other) →
        each other shared (threads.phase other) ∧ pair phase (threads.phase other)) : Coherent whole each pair result := by
  obtain ⟨shared, phase, moved, rfl⟩ := interleave_eq_some.mp taken
  obtain ⟨wholeKept, eachKept⟩ := own shared phase moved
  have beside (other : ι) (different : other ≠ thread) :=
    others shared phase moved other different (coherent.pair thread other (Ne.symm different))
  refine ⟨wholeKept, ?_, ?_⟩
  · grind
  intro first second different
  by_cases atFirst : first = thread
  · grind
  by_cases atSecond : second = thread
  · simp_all
  · simpa [atFirst, atSecond] using coherent.pair first second different

theorem some_thread_update {before after : φ → Prop} {phase : ι → φ} (thread : ι) (next : φ) (gone : Prop)
    (held : ∃ holder, before (phase holder)) (own : before (phase thread) → after next ∨ gone)
    (others : ∀ other, other ≠ thread → before (phase other) → after (phase other)) :
    (∃ holder, after (Function.update phase thread next holder)) ∨ gone := by
  obtain ⟨holder, has⟩ := held
  by_cases same : holder = thread
  · subst same
    rcases own has with kept | lost
    · exact .inl ⟨holder, by simpa using kept⟩
    · exact .inr lost
  · exact .inl ⟨holder, by simpa [same] using others holder same has⟩

theorem execute_alone (thread : ι) (inputs : List ℓ)
    (alone : runAlone advance thread (threads.shared, threads.phase thread) inputs = some (shared, phase)) :
    execute (interleave advance) threads (inputs.map (Prod.mk thread)) =
      some ⟨shared, Function.update threads.phase thread phase⟩ := by
  induction inputs generalizing threads with
  | nil =>
    cases alone
    rw [Function.update_eq_self]
    rfl
  | cons _ _ ih =>
    rw [runAlone, Option.bind_eq_some_iff] at alone
    obtain ⟨⟨_, _⟩, taken, later⟩ := alone
    rw [List.map_cons, execute, interleave, taken, Option.map_some, Option.bind_some, ih]
    · rw [Function.update_idem]
    · simpa using later

theorem run_of_alone {allowed : Threads ι σ φ → ι × ℓ → Prop} {inputs : List ℓ}
    (alone : runAlone advance thread (threads.shared, threads.phase thread) inputs = some (shared, phase))
    (permitted : ∀ input ∈ inputs, ∀ state, allowed state (thread, input)) :
    Run (interleave advance) allowed threads ⟨shared, Function.update threads.phase thread phase⟩ := by
  refine run_of_execute _ _ _ ?_ (execute_alone thread inputs alone)
  grind

end OtunKernel.Lib
