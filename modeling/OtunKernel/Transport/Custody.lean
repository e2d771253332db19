import OtunKernel.Transport.Turn

namespace OtunKernel.Transport

open Lib Operation World

variable {κ T : Type} {threads : PoolThreads κ T} {thread : Thread κ} {conn : T} {input : Input T}

def Phase.brings : Phase T → Option (Nat × T)
  | .installing state conn => some (state, conn)
  | .dropping state conn => some (state, conn)
  | .refusing state _ conn => some (state, conn)
  | .settling state _ (some conn) => some (state, conn)
  | .abandoning state _ conn => some (state, conn)
  | _ => none

def Phase.arriving : Phase T → Option T
  | .installing _ conn => some conn
  | .settling _ _ (some conn) => some conn
  | _ => none

def Phase.retires : Phase T → Option Nat
  | .cancelling state => some state
  | .sweeping state _ => some state
  | _ => none

def ConnPool.Retired (pool : ConnPool T) (state : Nat) : Prop := state < pool.state ∨ pool.closed = true

def ConnPool.Tracks (pool : ConnPool T) (conn : T) : Prop := pool.closed = false ∧ conn ∈ pool.current.all

def Carries (pool : ConnPool T) (conn : T) : Phase T → Prop
  | .discarding pending => pending = conn
  | .closing pending => pending = conn
  | .cancelling state => conn ∈ (pool.states state).all
  | .sweeping state visited => conn ∈ (pool.states state).all ∧ conn ∉ visited
  | phase => ∃ state, phase.brings = some (state, conn)

def Input.dialled : Input T → Option T
  | .dial result _ => result
  | _ => none

def FreshDials (threads : PoolThreads κ T) (label : Thread κ × Input T) : Prop :=
  ∀ conn ∈ label.2.dialled, threads.shared.produced conn = none

instance (threads : PoolThreads κ T) (label : Thread κ × Input T) :
    Decidable (FreshDials threads label) :=
  inferInstanceAs (Decidable (∀ conn ∈ label.2.dialled, threads.shared.produced conn = none))

theorem FreshDials.absent (fresh : FreshDials threads (thread, input)) (conn : T) (contextDone : Bool)
    (dialled : input = .dial (some conn) contextDone) : threads.shared.produced conn = none := by
  subst dialled
  exact fresh conn rfl

theorem set_current_tracks (pool : ConnPool T) (current : ConnPoolState T) (conn : T) :
    (pool.setCurrent current).Tracks conn ↔ pool.closed = false ∧ conn ∈ current.all := by
  have here : (pool.setCurrent current).current = current := set_current_same pool current
  rw [ConnPool.Tracks, here]
  rfl

theorem arriving_brings {phase : Phase T} (arriving : phase.arriving = some conn) : ∃ state, phase.brings = some (state, conn) := by
  cases phase with
  | installing state => exact ⟨state, congrArg (Option.map (Prod.mk state)) arriving⟩
  | settling state _ result =>
    cases result with
    | none => contradiction
    | some => exact ⟨state, congrArg (Option.map (Prod.mk state)) arriving⟩
  | _ => contradiction

theorem pending_carries {pool : ConnPool T} {phase after : Phase T} {pending conn : T}
    (close : PendingClose thread phase pending after) (carries : Carries pool conn phase) : pending = conn := by
  cases close with
  | discarding | closing => exact carries
  | _ =>
    obtain ⟨_, brought⟩ := carries
    cases brought
    rfl

def World.Dated (world : World κ T) : Prop :=
  ∀ state conn, conn ∈ (world.pool.states state).all → world.produced conn = some state

structure PhaseSound (world : World κ T) (phase : Phase T) : Prop where
  brings : ∀ state conn, phase.brings = some (state, conn) → world.produced conn = some state
  arrives : ∀ conn, phase.arriving = some conn → ∀ state, conn ∉ (world.pool.states state).all
  retires : ∀ state, phase.retires = some state → world.pool.Retired state

def Distinct (first second : Phase T) : Prop := ∀ conn, first.arriving = some conn → second.arriving ≠ some conn

abbrev Sound (threads : PoolThreads κ T) : Prop :=
  Coherent World.Dated (fun _ => PhaseSound) Distinct threads

def Accounted (threads : PoolThreads κ T) (conn : T) : Prop :=
  conn ∈ threads.shared.closed ∨ threads.shared.pool.Tracks conn ∨
    ∃ thread, Carries threads.shared.pool conn (threads.phase thread)

theorem start_sound (mode : ConnPoolMode) (maxInflight : Nat) :
    Sound (startPool mode maxInflight : PoolThreads κ T) := by
  refine ⟨?_, ?_, ?_⟩
  · intro _ conn tracked
    exact absurd tracked (Finset.notMem_empty conn)
  · intro _
    exact ⟨fun _ _ brings => absurd brings (by simp [startPool, Phase.brings]),
      fun _ arriving => absurd arriving (by simp [startPool, Phase.arriving]),
      fun _ retires => absurd retires (by simp [startPool, Phase.retires])⟩
  intro _ _ _ conn arriving
  exact absurd arriving (by simp [startPool, Phase.arriving])

variable [DecidableEq κ] [DecidableEq T]

@[simp] theorem remove_conn_all (conn : T) (mode : ConnPoolMode) (state : ConnPoolState T) :
    (removeConn mode state conn).all = state.all.erase conn := by
  cases mode with
  | single | ordered => grind [removeConn]

section
variable {world next : World κ T} {input : Input T} {thread : Thread κ} {phase after : Phase T} {state : Nat} {conn : T}

section
variable (turn : Turn world input thread phase next after)
include turn

theorem turn_retired (retired : world.pool.Retired state) : next.pool.Retired state := by
  grind [turn_pool, ConnPool.Retired]

theorem turn_frame (retired : world.pool.Retired state) : (next.pool.states state).all = (world.pool.states state).all := by
  have change := turn_states turn state
  generalize next.pool.states state = result at change ⊢
  cases change with
  | current opened => simp_all [ConnPool.Retired]
  | _ => rfl

theorem turn_grows (tracked : conn ∈ (next.pool.states state).all) :
    conn ∈ (world.pool.states state).all ∨ (phase.brings = some (state, conn) ∧ phase.arriving = some conn) := by
  have change := turn_states turn state
  generalize next.pool.states state = result at change tracked
  cases change with
  | current _ _ change =>
    cases change with
    | discarded => grind
    | removed => simp_all
    | installed | settled =>
      rcases Finset.mem_insert.mp tracked with rfl | old
      · exact .inr ⟨rfl, rfl⟩
      · exact .inl old
    | _ => exact .inl tracked
  | _ => exact .inl tracked

theorem turn_keeps (tracked : conn ∈ world.pool.current.all) :
    conn ∈ (next.pool.states world.pool.state).all ∨ after = .discarding conn ∨ after = .closing conn := by
  have change := turn_states turn world.pool.state
  have before : conn ∈ (world.pool.states world.pool.state).all := tracked
  generalize next.pool.states world.pool.state = result at change ⊢
  cases change with
  | current _ _ change =>
    cases change with
    | discarded _ idle => grind
    | removed lost pending => grind [remove_conn_all]
    | installed | settled => grind
    | _ => exact .inl before
  | _ => exact .inl before

theorem turn_tracks (tracks : world.pool.Tracks conn) : next.pool.Tracks conn ∨ Carries next.pool conn after := by
  rcases turn_keeps turn tracks.2 with kept | rfl | rfl
  · rcases (turn_pool turn).2 with ⟨sameState, sameClosed⟩ | ⟨_, rfl, _⟩
    · rw [← sameState] at kept
      exact .inl ⟨sameClosed.trans tracks.1, kept⟩
    · exact .inr kept
  · exact .inr rfl
  · exact .inr rfl

theorem turn_carries (carries : Carries world.pool conn phase) :
    conn ∈ next.closed ∨ next.pool.Tracks conn ∨ Carries next.pool conn after := by
  cases turn with
  | quiet turn =>
    cases turn with
    | installFailed => exact .inr (.inr carries)
    | swept _ _ _ done => exact absurd (done carries.1) carries.2
    | _ =>
      obtain ⟨_, brought⟩ := carries
      contradiction
  | closes pending =>
    rw [← pending_carries pending carries]
    exact .inl (Finset.mem_insert_self _ _)
  | installs _ _ opened =>
    obtain ⟨_, brought⟩ := carries
    cases brought
    have tracked := (set_current_tracks world.pool
      { world.pool.current with all := insert conn world.pool.current.all } conn).mpr ⟨opened, Finset.mem_insert_self _ _⟩
    exact .inr (.inl tracked)
  | cancels _ state =>
    have here := set_state_same world.pool state { world.pool.states state with cancelled := true }
    exact .inr (.inr ⟨by rw [cancelState, withPool, here]; exact carries, Finset.notMem_empty conn⟩)
  | sweeps _ _ _ swept =>
    by_cases same : conn = swept
    · subst same
      exact .inl (Finset.mem_insert_self _ _)
    refine .inr (.inr ⟨carries.1, ?_⟩)
    rw [Finset.mem_insert]
    exact fun either => either.elim same carries.2
  | settlesLate => grind [Carries, Phase.brings]
  | settles _ _ settled opened =>
    have same : settled = conn := by simpa [Carries, Phase.brings] using carries
    rw [← same]
    exact .inr (.inl ((set_current_tracks _ _ _).mpr ⟨opened, Finset.mem_insert_self _ _⟩))
  | dialled _ _ turn | givesBack _ turn | takesShared _ turn | discardsShared _ turn =>
    cases turn <;> (obtain ⟨_, brought⟩ := carries; contradiction)
  | _ =>
    obtain ⟨_, _⟩ := carries
    contradiction

theorem turn_brings (brings : after.brings = some (state, conn)) :
    phase.brings = some (state, conn) ∨ (∃ contextDone, input = .dial (some conn) contextDone ∧
      next.produced conn = some state) := by
  cases turn with
  | quiet turn =>
    cases turn with
    | installFailed => exact .inl brings
    | _ => simp [Phase.brings] at brings
  | calls _ operation => cases operation <;> simp [start, Phase.brings] at brings
  | closes pending => cases pending <;> simp [Phase.brings] at brings
  | dialled contextDone given turn =>
    right
    cases turn <;> (
      obtain ⟨rfl, rfl⟩ := brings
      exact ⟨contextDone, given, put_same _ _ _⟩)
  | settlesLate => exact .inl brings
  | givesBack => split at brings <;> simp [Phase.brings] at brings
  | _ => simp [Phase.brings] at brings

theorem turn_arriving (arriving : after.arriving = some conn) : ∃ contextDone, input = .dial (some conn) contextDone := by
  cases turn with
  | quiet turn =>
    cases turn with
    | _ => simp [Phase.arriving] at arriving
  | calls _ operation => cases operation <;> simp [start, Phase.arriving] at arriving
  | closes pending => cases pending <;> simp [Phase.arriving] at arriving
  | dialled contextDone given turn =>
    cases turn <;> simp only [Phase.arriving, Option.some.injEq, reduceCtorEq] at arriving <;>
      grind
  | givesBack => split at arriving <;> simp [Phase.arriving] at arriving
  | _ => simp [Phase.arriving] at arriving

theorem turn_retires (retires : after.retires = some state)
    (own : ∀ before, phase.retires = some before → world.pool.Retired before) : next.pool.Retired state := by
  cases turn with
  | quiet turn =>
    cases turn with
    | _ => simp [Phase.retires] at retires
  | calls _ operation => cases operation <;> simp [start, Phase.retires] at retires
  | closes pending | dialled _ _ pending => cases pending <;> simp [Phase.retires] at retires
  | resets =>
    cases retires
    exact .inl (Nat.lt_succ_self _)
  | closesPool => exact .inr rfl
  | cancels | sweeps =>
    cases retires
    exact own _ rfl
  | givesBack => split at retires <;> simp [Phase.retires] at retires
  | _ => simp [Phase.retires] at retires

theorem turn_produced (fresh : ∀ dialled contextDone, input = .dial (some dialled) contextDone → world.produced dialled = none)
    (known : world.produced conn = some state) : next.produced conn = some state := by
  cases turn with
  | dialled contextDone given =>
    rw [produce]
    dsimp only
    rw [put_other]
    · exact known
    · grind
  | _ => exact known

theorem turn_new (known : next.produced conn = some state) : world.produced conn = some state ∨ Carries next.pool conn after := by
  cases turn with
  | dialled _ _ turn =>
    rcases put_eq_some.mp known with ⟨rfl, _⟩ | ⟨_, before⟩
    · cases turn <;> simp [Carries, Phase.brings]
    · exact .inl before
  | _ => exact .inl known

theorem turn_closed : world.closed ⊆ next.closed := by
  cases turn with
  | closes | sweeps => exact Finset.subset_insert _ _
  | _ => exact Finset.Subset.refl _

end
end

section
variable {threads result : PoolThreads κ T} {label : Thread κ × Input T}

theorem step_sound (sound : Sound threads) (fresh : FreshDials threads label)
    (taken : poolStep threads label = some result) : Sound result := by
  obtain ⟨thread, _⟩ := label
  have own := sound.each thread
  have newborn := fresh.absent
  refine coherent_step (fun _ _ distinct conn second first => distinct conn first second) sound taken ?_ ?_
  · intro shared phase moved
    have turn := advance_turn moved
    refine ⟨?_, ?_, ?_, ?_⟩
    · intro state conn tracked
      rcases turn_grows turn tracked with old | ⟨brought, _⟩
      · exact turn_produced turn newborn (sound.whole state conn old)
      · grind [turn_produced, own.brings]
    · grind [turn_brings, turn_produced, own.brings]
    · intro conn arriving state tracked
      obtain ⟨contextDone, dialled⟩ := turn_arriving turn arriving
      have absent := newborn conn contextDone dialled
      rcases turn_grows turn tracked with old | ⟨brought, _⟩
      · simp [sound.whole state conn old] at absent
      · simp [own.brings state conn brought] at absent
    · grind [turn_retires, own.retires]
  intro shared phase moved other different distinct
  have turn := advance_turn moved
  have beside := sound.each other
  refine ⟨⟨?_, ?_, ?_⟩, ?_⟩
  · grind [turn_produced, beside.brings]
  · intro conn arriving state tracked
    rcases turn_grows turn tracked with old | ⟨_, same⟩
    · exact beside.arrives conn arriving state old
    · exact distinct conn same arriving
  · grind [turn_retired, beside.retires]
  intro conn arriving same
  obtain ⟨contextDone, dialled⟩ := turn_arriving turn arriving
  obtain ⟨state, brings⟩ := arriving_brings same
  have absent := newborn conn contextDone dialled
  simp [beside.brings state conn brings] at absent

theorem carries_stable {world next : World κ T} {phase after other : Phase T} (turn : Turn world input thread phase next after)
    (sound : PhaseSound world other) (carries : Carries world.pool conn other) : Carries next.pool conn other := by
  cases other with
  | cancelling state =>
    have held : conn ∈ (world.pool.states state).all := carries
    rw [← turn_frame turn (sound.retires state rfl)] at held
    exact held
  | sweeping state =>
    have same := turn_frame turn (sound.retires state rfl)
    exact ⟨same.symm ▸ carries.1, carries.2⟩
  | _ => exact carries

theorem step_accounted (sound : Sound threads) (accounted : ∀ conn state, threads.shared.produced conn = some state →
      Accounted threads conn) (taken : poolStep threads label = some result) {state : Nat}
    (known : result.shared.produced conn = some state) : Accounted result conn := by
  obtain ⟨thread, _⟩ := label
  obtain ⟨shared, phase, moved, rfl⟩ := interleave_eq_some.mp taken
  have turn := advance_turn moved
  have carried : Carries shared.pool conn phase → Accounted ⟨shared, Function.update threads.phase thread phase⟩ conn :=
    fun carries => .inr (.inr ⟨thread, by simpa using carries⟩)
  rcases turn_new turn known with before | carries
  · rcases accounted conn state before with closed | tracks | held
    · exact .inl (turn_closed turn closed)
    · rcases turn_tracks turn tracks with still | carries
      · exact .inr (.inl still)
      · exact carried carries
    have still := some_thread_update thread phase (conn ∈ shared.closed ∨ shared.pool.Tracks conn) held
      (fun carries => (turn_carries turn carries).elim (fun closed => .inr (.inl closed))
        (fun rest => rest.elim (fun tracks => .inr (.inr tracks)) .inl))
      (fun other _ carries => carries_stable turn (sound.each other) carries)
    rcases still with holder | closed | tracks
    · exact .inr (.inr holder)
    · exact .inl closed
    · exact .inr (.inl tracks)
  · exact carried carries

end

theorem run_sound {mode : ConnPoolMode} {maxInflight : Nat} (run : Run poolStep FreshDials (startPool mode maxInflight) threads) :
    Sound threads ∧ ∀ conn state, threads.shared.produced conn = some state → Accounted threads conn := by
  refine run.invariant (fun threads => Sound threads ∧ ∀ conn state, threads.shared.produced conn = some state →
    Accounted threads conn) ⟨start_sound mode maxInflight, fun _ _ known => by contradiction⟩ ?_
  intro state _ _ holds fresh taken
  exact ⟨step_sound holds.1 fresh taken, fun conn index known => step_accounted holds.1 holds.2 taken known⟩

end OtunKernel.Transport
