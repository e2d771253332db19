import OtunKernel.Transport.Custody

namespace OtunKernel.Transport

open Lib Phase

variable {κ T : Type}

def Phase.single : Phase T → Bool
  | .waitingSlot _ => false
  | .dialing _ => false
  | .installing _ _ => false
  | .dropping _ _ => false
  | _ => true

def Phase.attempt : Phase T → Option (Nat × Nat)
  | .starting state connect => some (state, connect)
  | .connecting state connect => some (state, connect)
  | .refusing state connect _ => some (state, connect)
  | .settling state connect _ => some (state, connect)
  | _ => none

def Phase.serves : Phase T → Option Nat
  | .connecting state _ => some state
  | .refusing state _ _ => some state
  | .settling state _ _ => some state
  | .abandoning state _ _ => some state
  | _ => none

inductive Dialing : Phase T → Nat → Prop where
  | ordered (state : Nat) : Dialing (.dialing state) state
  | single (state connect : Nat) : Dialing (.connecting state connect) state

def World.reported (world : World κ T) : List T :=
  (world.returns.filter (fun entry => entry.2.2)).map (fun entry => entry.2.1)

structure SharedListed (state : ConnPoolState T) : Prop where
  tracked : ∀ conn, state.shared = some conn → conn ∈ state.all
  unclaimed : state.shared = none → state.sharedClaimed = false

structure SharedWorld (world : World κ T) : Prop where
  mode : world.pool.mode = .single
  listed : ∀ state, SharedListed (world.pool.states state)
  unreported : ∀ state conn, (world.pool.states state).shared = some conn →
    (world.pool.states state).sharedClaimed = false → conn ∉ world.reported
  known : ∀ conn ∈ world.reported, ∃ state, world.produced conn = some state
  once : world.reported.Nodup
  numbered : ∀ connect state, world.launched connect = some state → connect < world.pool.nextConnect

structure SharedPhase (thread : Thread κ) (world : World κ T) (phase : Phase T) : Prop where
  single : phase.single = true
  attempt : ∀ state connect, phase.attempt = some (state, connect) →
    (world.pool.states state).connecting = some connect ∧ connect < world.pool.nextConnect
  starting : ∀ state connect, phase = .starting state connect → world.launched connect = none
  calls : ∀ caller, thread = .caller caller → phase.serves = none
  dials : ∀ dialer, thread = .dialer dialer →
    (∀ state connect, phase.attempt = some (state, connect) → connect = dialer) ∧
    (∀ state, phase.serves = some state → world.launched dialer = some state) ∧
    (phase = .idle → ∀ state, world.launched dialer = some state → (world.pool.states state).connecting = some dialer)
  arrives : ∀ conn, phase.arriving = some conn → conn ∉ world.reported

def DistinctAttempts (first second : Phase T) : Prop :=
  ∀ connect here there, first.attempt = some (here, connect) → second.attempt ≠ some (there, connect)

abbrev Shared (threads : PoolThreads κ T) : Prop :=
  Coherent SharedWorld SharedPhase DistinctAttempts threads

variable {state : Nat} {threads : PoolThreads κ T} {thread : Thread κ} {conn : T}

theorem attempt_of_caller {phase : Phase T} {connect : Nat} (attempt : phase.attempt = some (state, connect))
    (calls : phase.serves = none) : phase = .starting state connect := by
  cases phase <;> first | contradiction | (cases attempt; rfl)

theorem start_shared (maxInflight : Nat) : Shared (startPool .single maxInflight : PoolThreads κ T) := by
  refine ⟨⟨rfl, ?_, ?_, ?_, List.nodup_nil, ?_⟩, ?_, ?_⟩
  · exact fun _ => ⟨fun _ shares => by contradiction, fun _ => rfl⟩
  · intro state conn shares
    contradiction
  · intro conn reported
    exact absurd reported List.not_mem_nil
  · intro connect state launched
    contradiction
  · intro thread
    exact ⟨rfl, fun _ _ attempt => by contradiction, fun _ _ starting => by contradiction, fun _ _ => rfl,
      fun _ _ => ⟨fun _ _ attempt => by contradiction, fun _ serves => by contradiction, fun _ _ launched => by contradiction⟩,
      fun _ arriving => by contradiction⟩
  intro first second _ connect here there attempt
  contradiction

-- The call of Reset or Close that took the state out of use has returned, and
-- the dials of the state have finished.
structure StateFinished (threads : PoolThreads κ T) (state : Nat) : Prop where
  retired : threads.shared.pool.Retired state
  returned : ∀ thread, (threads.phase thread).retires ≠ some state
  dialled : ∀ connect, threads.shared.launched connect = some state → threads.phase (.dialer connect) = .finished

theorem registered_thread (shared : Shared threads) {connect served : Nat}
    (attempt : (threads.phase thread).attempt = some (state, connect))
    (launched : threads.shared.launched connect = some served) : thread = .dialer connect := by
  have own := shared.each thread
  cases thread with
  | dialer mine => rw [(own.dials mine rfl).1 state connect attempt]
  | caller caller =>
    have starting := attempt_of_caller attempt (own.calls caller rfl)
    simp [own.starting state connect starting] at launched

theorem dialing_thread (shared : Shared threads) (dialing : Dialing (threads.phase thread) state) :
    ∃ connect, thread = .dialer connect ∧ (threads.shared.pool.states state).connecting = some connect := by
  have own := shared.each thread
  generalize here : threads.phase thread = phase at dialing own
  cases dialing with
  | ordered => exact absurd own.single (by simp [Phase.single])
  | single state connect =>
    cases thread with
    | caller caller => grind [own.calls, serves]
    | dialer dialer =>
      have mine := (own.dials dialer rfl).1 state connect rfl
      exact ⟨dialer, rfl, mine ▸ (own.attempt state connect rfl).1⟩

theorem carried_after_finish (sound : Sound threads) (shared : Shared threads) (finished : StateFinished threads state)
    (produced : threads.shared.produced conn = some state) (carries : Carries threads.shared.pool conn (threads.phase thread)) :
    threads.phase thread = .discarding conn ∨ threads.phase thread = .closing conn := by
  have own := shared.each thread
  have returned := finished.returned thread
  have brings := (sound.each thread).brings
  have ofState : ∀ other, conn ∈ (threads.shared.pool.states other).all → other = state := by
    intro other tracked
    have known := sound.whole other conn tracked
    grind
  have inDial : ∀ other, (threads.phase thread).brings = some (other, conn) → (threads.phase thread).serves = some other →
      threads.phase thread = .finished := by
    intro other brought serves
    cases thread with
    | caller caller =>
      simp [own.calls caller rfl] at serves
    | dialer dialer => grind [finished.dialled, own.dials]
  cases here : threads.phase thread with
  | discarding =>
    rw [here] at carries
    exact .inl (congrArg Phase.discarding carries)
  | closing =>
    rw [here] at carries
    exact .inr (congrArg Phase.closing carries)
  | cancelling other =>
    rw [here] at carries returned
    exact absurd (congrArg some (ofState other carries)) returned
  | sweeping other =>
    rw [here] at carries returned
    exact absurd (congrArg some (ofState other carries.1)) returned
  | installing | dropping => exact absurd own.single (by simp [here, Phase.single])
  | refusing _ _ brought | abandoning _ _ brought =>
    rw [here] at carries inDial
    obtain ⟨_, brought⟩ := carries
    have ended := inDial _ brought (by cases brought; rfl)
    contradiction
  | settling _ _ outcome =>
    rw [here] at carries inDial
    obtain ⟨_, brought⟩ := carries
    have ended := inDial _ brought (by cases outcome <;> cases brought; rfl)
    contradiction
  | _ =>
    rw [here] at carries
    obtain ⟨_, _⟩ := carries
    contradiction

variable [DecidableEq κ] [DecidableEq T]

section
variable {state : ConnPoolState T} {conn : T}

@[simp] theorem remove_conn_connecting (mode : ConnPoolMode) : (removeConn mode state conn).connecting = state.connecting := by
  cases mode with
  | single | ordered => grind [removeConn]

theorem remove_conn_shares {other : T} (shares : (removeConn .single state conn).shared = some other) :
    state.shared = some other ∧ other ≠ conn ∧ (removeConn .single state conn).sharedClaimed = state.sharedClaimed := by
  by_cases same : state.shared = some conn
  · simp [removeConn, same] at shares
  grind [removeConn]

theorem remove_conn_shared_listed (listed : SharedListed state) : SharedListed (removeConn .single state conn) := by
  constructor
  · intro other shares
    obtain ⟨before, different, _⟩ := remove_conn_shares shares
    simpa [remove_conn_all] using Finset.mem_erase.mpr ⟨different, listed.tracked other before⟩
  intro absent
  by_cases same : state.shared = some conn
  · simp [removeConn, same]
  simp only [removeConn, same, if_false] at absent ⊢
  exact listed.unclaimed absent

end

section
variable {world next : World κ T} {input : Input T} {thread : Thread κ} {phase after : Phase T} {state connect : Nat}

section
variable (turn : Turn world input thread phase next after)
include turn

theorem turn_shared_listed (single : world.pool.mode = .single)
    (listed : SharedListed (world.pool.states state)) : SharedListed (next.pool.states state) := by
  have change := turn_states turn state
  generalize next.pool.states state = result at change ⊢
  cases change with
  | current _ _ change =>
    rw [single] at change
    cases change with
    | discarded => contradiction
    | installed =>
      exact ⟨fun other shares => Finset.mem_insert_of_mem (listed.tracked other shares), listed.unclaimed⟩
    | claimed _ present => exact ⟨listed.tracked, fun absent => by rw [present] at absent; contradiction⟩
    | removed => exact remove_conn_shared_listed listed
    | settled =>
      refine ⟨fun other shares => ?_, fun absent => by contradiction⟩
      grind
    | _ => exact ⟨listed.tracked, listed.unclaimed⟩
  | _ => exact ⟨listed.tracked, listed.unclaimed⟩

theorem turn_unclaimed (single : world.pool.mode = .single)
    (shares : (next.pool.states state).shared = some conn) (unclaimed : (next.pool.states state).sharedClaimed = false) :
    ((world.pool.states state).shared = some conn ∧ (world.pool.states state).sharedClaimed = false) ∨ phase.arriving = some conn := by
  have change := turn_states turn state
  generalize next.pool.states state = result at change shares unclaimed
  cases change with
  | current _ _ change =>
    cases change with
    | claimed => contradiction
    | removed => grind [remove_conn_shares]
    | settled => exact .inr shares
    | _ => grind
  | _ => grind

theorem turn_connecting (registered : (world.pool.states state).connecting = some connect) :
    (next.pool.states state).connecting = some connect ∨ ∃ mine result, phase = .settling state mine result := by
  have change := turn_states turn state
  generalize next.pool.states state = result at change ⊢
  cases change with
  | ended mine outcome settling => grind
  | current _ _ change =>
    cases change with
    | removed | connecting _ free => simp_all
    | settled mine arrived => grind
    | _ => exact .inl registered
  | _ => exact .inl registered

theorem turn_attempt (attempt : after.attempt = some (state, connect)) :
    (phase.attempt = some (state, connect) ∧ next.pool.states = world.pool.states ∧
        next.pool.nextConnect = world.pool.nextConnect) ∨
      (thread = .dialer connect ∧ phase = .idle ∧ world.launched connect = some state ∧ next = world) ∨
      (connect = world.pool.nextConnect ∧ next.pool.nextConnect = connect + 1 ∧ next.launched = world.launched ∧
        (next.pool.states state).connecting = some connect ∧ ∃ caller, thread = .caller caller) := by
  cases turn with
  | quiet turn =>
    cases turn with
    | begin _ _ launched =>
      cases attempt
      grind
    | connectFailed => exact .inl ⟨attempt, rfl, rfl⟩
    | _ => contradiction
  | calls _ operation => cases operation <;> contradiction
  | closes pending | dialled _ _ pending => cases pending <;> first | contradiction | exact .inl ⟨attempt, rfl, rfl⟩
  | startsConnect caller =>
    cases attempt
    refine .inr (.inr ⟨rfl, rfl, rfl, ?_, caller, rfl⟩)
    have here := set_current_same world.pool { world.pool.current with connecting := some world.pool.nextConnect }
    exact congrArg ConnPoolState.connecting here
  | givesBack => split at attempt <;> contradiction
  | _ => contradiction

theorem turn_next_connect : world.pool.nextConnect ≤ next.pool.nextConnect := by
  cases turn with
  | givesBack _ turn =>
    rcases gives_back_cases world.pool _ turn with ⟨rfl, _⟩ | ⟨_, rfl, _⟩ | ⟨_, rfl, _⟩ <;> exact Nat.le_refl _
  | startsConnect => exact Nat.le_succ _
  | _ => exact Nat.le_refl _

theorem turn_launches (connect : Nat) : next.launched connect = world.launched connect ∨
      ∃ caller state, thread = .caller caller ∧ phase = .starting state connect ∧ next.launched connect = some state := by
  cases turn with
  | launches caller state mine =>
    by_cases same : connect = mine
    · subst same
      exact .inr ⟨caller, state, rfl, rfl, put_same _ _ _⟩
    · exact .inl (put_other _ _ _ _ same)
  | _ => exact .inl rfl

theorem turn_serves (serves : after.serves = some state) :
    (∃ dialer, thread = .dialer dialer ∧ (phase.serves = some state ∨ world.launched dialer = some state)) := by
  cases turn with
  | quiet turn =>
    cases turn with
    | begin dialer _ launched =>
      cases serves
      grind
    | connectFailed dialer => exact ⟨dialer, rfl, .inl serves⟩
    | _ => contradiction
  | calls _ operation => cases operation <;> contradiction
  | closes pending =>
    cases pending with
    | refusing dialer => exact ⟨dialer, rfl, .inl serves⟩
    | _ => contradiction
  | dialled _ _ turn =>
    cases turn with
    | sharedRefused dialer | sharedArrived dialer => exact ⟨dialer, rfl, .inl serves⟩
    | _ => contradiction
  | settlesLate dialer => exact ⟨dialer, rfl, .inl serves⟩
  | givesBack => split at serves <;> contradiction
  | _ => contradiction

theorem turn_single (mode : world.pool.mode = .single) (single : phase.single = true) : after.single = true := by
  cases turn with
  | quiet turn =>
    cases turn with
    | needsDial _ _ ordered => simp_all
    | _ => first | rfl | contradiction
  | calls _ operation | closes operation => cases operation <;> rfl
  | dialled _ _ turn => cases turn <;> first | rfl | contradiction
  | givesBack => split <;> rfl
  | _ => first | rfl | contradiction

theorem turn_starting (starting : after = .starting state connect) :
    connect = world.pool.nextConnect ∧ next.launched = world.launched := by
  cases turn with
  | quiet turn | dialled _ _ turn | calls _ turn | closes turn => cases turn <;> contradiction
  | startsConnect =>
    cases starting
    exact ⟨rfl, rfl⟩
  | givesBack => split at starting <;> contradiction
  | _ => contradiction

end

theorem turn_not_rests {dialer : Nat} (turn : Turn world input (.dialer dialer) phase next after) : after ≠ .idle := by
  cases turn with
  | quiet turn | dialled _ _ turn | closes turn => cases turn <;> simp
  | _ => simp

section
variable (turn : Turn world input thread phase next after) (mode : world.pool.mode = .single)
variable (single : phase.single = true)
include turn mode single

theorem turn_returned : next.returns = world.returns ∨ ∃ caller conn,
      next.returns = (caller, conn, !world.pool.current.sharedClaimed) :: world.returns ∧
        world.pool.closed = false ∧ world.pool.current.shared = some conn ∧
        (next.pool.states world.pool.state).sharedClaimed = true := by
  cases turn with
  | takesIdle _ _ _ _ ordered => simp_all
  | installs => contradiction
  | takesShared caller _ conn opened shared =>
    refine .inr ⟨caller, conn, rfl, opened, shared, ?_⟩
    have here := set_current_same world.pool { world.pool.current with sharedClaimed := true }
    exact congrArg ConnPoolState.sharedClaimed here
  | _ => exact .inl rfl

theorem turn_reported : next.reported = world.reported ∨ ∃ conn, next.reported = conn :: world.reported ∧
      world.pool.current.shared = some conn ∧ world.pool.current.sharedClaimed = false ∧
      (next.pool.states world.pool.state).sharedClaimed = true := by
  grind [turn_returned, World.reported]

end
end

section
variable {threads result : PoolThreads κ T} {label : Thread κ × Input T}
  {thread other : Thread κ} {input : Input T} {next : World κ T} {after : Phase T}

section
variable (sound : Sound threads) (shared : Shared threads) (fresh : FreshDials threads (thread, input))
variable (turn : Turn threads.shared input thread (threads.phase thread) next after)
include shared turn

theorem step_reported (reported : conn ∈ next.reported) : conn ∈ threads.shared.reported ∨ conn ∈ threads.shared.pool.current.all := by
  rcases turn_reported turn shared.whole.mode (shared.each thread).single with same | ⟨added, grown, present, _⟩
  · grind
  rw [grown] at reported
  rcases List.mem_cons.mp reported with rfl | old
  · exact .inr ((shared.whole.listed _).tracked conn present)
  · exact .inl old

theorem step_distinct (different : other ≠ thread) : DistinctAttempts after (threads.phase other) := by
  intro connect here there attempt same
  rcases turn_attempt turn attempt with ⟨before, _⟩ | ⟨mine, _, launched, _⟩ | ⟨number, _⟩
  · exact shared.pair thread other (Ne.symm different) connect here there before same
  · grind [registered_thread]
  have registered := ((shared.each other).attempt there connect same).2
  omega

include sound

theorem step_reported_known (reported : conn ∈ next.reported) : ∃ state, threads.shared.produced conn = some state := by
  rcases step_reported shared turn reported with old | tracked
  · exact shared.whole.known conn old
  · exact ⟨_, sound.whole _ conn tracked⟩

theorem step_shared_other (different : other ≠ thread) : SharedPhase other next (threads.phase other) := by
  have own := shared.each thread
  have beside := shared.each other
  have distinct := shared.pair thread other (Ne.symm different)
  have grows := turn_next_connect turn
  refine ⟨beside.single, ?_, ?_, beside.calls, ?_, ?_⟩
  · intro state connect attempt
    obtain ⟨registered, _⟩ := beside.attempt state connect attempt
    refine ⟨?_, by omega⟩
    rcases turn_connecting turn registered with kept | ⟨mine, outcome, settling⟩
    · exact kept
    have here : (threads.phase thread).attempt = some (state, mine) := by rw [settling]; rfl
    have same := (own.attempt state mine here).1
    rw [registered] at same
    cases same
    exact absurd attempt (distinct connect state state here)
  · intro state connect starting
    have attempt : (threads.phase other).attempt = some (state, connect) := by rw [starting]; rfl
    rcases turn_launches turn connect with same | ⟨_, started, _, mover, _⟩
    · simpa [same] using beside.starting state connect starting
    · exact absurd attempt (distinct connect started state (by rw [mover]; rfl))
  · rintro dialer rfl
    obtain ⟨mine, launched, waiting⟩ := beside.dials dialer rfl
    refine ⟨mine, ?_, ?_⟩
    · grind [turn_launches, own.starting]
    intro resting state known
    rcases turn_launches turn dialer with same | ⟨_, started, _, mover, begun⟩
    · rw [same] at known
      have registered := waiting resting state known
      rcases turn_connecting turn registered with kept | ⟨connect, outcome, settling⟩
      · exact kept
      have here : (threads.phase thread).attempt = some (state, connect) := by rw [settling]; rfl
      have agrees := (own.attempt state connect here).1
      grind [registered_thread]
    rw [begun] at known
    cases known
    have registered := (own.attempt state dialer (by rw [mover]; rfl)).1
    rcases turn_connecting turn registered with kept | ⟨connect, outcome, settling⟩
    · exact kept
    · simp_all
  intro conn arriving reported
  rcases step_reported shared turn reported with old | tracked
  · exact beside.arrives conn arriving old
  · exact (sound.each other).arrives conn arriving _ tracked

include fresh

theorem step_shared_world : SharedWorld next := by
  have whole := shared.whole
  have own := shared.each thread
  refine ⟨(turn_pool turn).1.trans whole.mode, ?_, ?_, ?_, ?_, ?_⟩
  · exact fun state => turn_shared_listed turn whole.mode (whole.listed state)
  · intro state conn shares unclaimed reported
    have before : conn ∉ threads.shared.reported := by
      rcases turn_unclaimed turn whole.mode shares unclaimed with ⟨old, free⟩ | arriving
      · exact whole.unreported state conn old free
      · exact own.arrives conn arriving
    rcases turn_reported turn whole.mode own.single with same | ⟨added, grown, present, _, claimed⟩
    · grind
    rw [grown] at reported
    rcases List.mem_cons.mp reported with rfl | old
    · have here : conn ∈ threads.shared.pool.current.all := (whole.listed _).tracked conn present
      rcases turn_unclaimed turn whole.mode shares unclaimed with ⟨old, _⟩ | arriving
      · -- the connection was dialled for one state only
        have there := sound.whole state conn ((whole.listed state).tracked conn old)
        rw [sound.whole _ conn here] at there
        simp [← Option.some.inj there, claimed] at unclaimed
      · exact (sound.each thread).arrives conn arriving _ here
    · exact before old
  · grind [step_reported_known, turn_produced, fresh.absent]
  · rcases turn_reported turn whole.mode own.single with same | ⟨added, grown, present, unclaimed, _⟩
    · simp [same, whole.once]
    · simpa [grown] using List.nodup_cons.mpr ⟨whole.unreported _ added present unclaimed, whole.once⟩
  intro connect state launched
  have grows := turn_next_connect turn
  rcases turn_launches turn connect with same | ⟨_, started, _, starting, _⟩
  · have old := whole.numbered connect state (same ▸ launched)
    omega
  have registered := (own.attempt started connect (by rw [starting]; rfl)).2
  omega

theorem step_shared_own : SharedPhase thread next after := by
  have whole := shared.whole
  have own := shared.each thread
  refine ⟨turn_single turn whole.mode own.single, ?_, ?_, ?_, ?_, ?_⟩
  · intro state connect attempt
    rcases turn_attempt turn attempt with ⟨before, states, same⟩ | ⟨mine, resting, launched, rfl⟩ | ⟨_, number, _, here, _⟩
    · simpa [states, same] using own.attempt state connect before
    · exact ⟨(own.dials connect mine).2.2 resting state launched, whole.numbered connect state launched⟩
    · exact ⟨here, by omega⟩
  · intro state connect starting
    obtain ⟨rfl, same⟩ := turn_starting turn starting
    rw [same]
    cases launched : threads.shared.launched threads.shared.pool.nextConnect with
    | none => rfl
    | some served => exact absurd (whole.numbered _ served launched) (Nat.lt_irrefl _)
  · rintro caller rfl
    cases serves : after.serves with
    | none => rfl
    | some => grind [turn_serves]
  · rintro dialer rfl
    obtain ⟨mine, launched, _⟩ := own.dials dialer rfl
    refine ⟨?_, ?_, fun resting => absurd resting (turn_not_rests turn)⟩
    · intro state connect attempt
      rcases turn_attempt turn attempt with ⟨before, _⟩ | ⟨same, _⟩ | ⟨_, _, _, _, caller, other⟩
      · grind
      · grind
      · contradiction
    · grind [turn_serves, turn_launches]
  intro conn arriving reported
  obtain ⟨contextDone, dialled⟩ := turn_arriving turn arriving
  obtain ⟨_, produced⟩ := step_reported_known sound shared turn reported
  simp [fresh.absent conn contextDone dialled] at produced

end

theorem step_shared (sound : Sound threads) (shared : Shared threads) (fresh : FreshDials threads label)
    (taken : poolStep threads label = some result) : Shared result := by
  refine coherent_step (fun _ _ distinct connect here there second first => distinct connect there here first second)
    shared taken ?_ ?_
  · intro next phase moved
    have turn := advance_turn moved
    exact ⟨step_shared_world sound shared fresh turn, step_shared_own sound shared fresh turn⟩
  intro next phase moved _ different _
  have turn := advance_turn moved
  exact ⟨step_shared_other sound shared turn different, step_distinct shared turn different⟩

end

theorem run_shared {maxInflight : Nat} (run : Run poolStep FreshDials (startPool .single maxInflight) threads) :
    Sound threads ∧ Shared threads := by
  refine run.invariant (fun threads => Sound threads ∧ Shared threads)
    ⟨start_sound .single maxInflight, start_shared maxInflight⟩ ?_
  intro _ _ _ holds fresh taken
  exact ⟨step_sound holds.1 fresh taken, step_shared holds.1 holds.2 fresh taken⟩

theorem shared_pool_custody (maxInflight : Nat) (threads : PoolThreads κ T)
    (run : Run poolStep FreshDials (startPool .single maxInflight) threads) :
    (∀ state first second, Dialing (threads.phase first) state → Dialing (threads.phase second) state → first = second) ∧
    threads.shared.reported.Nodup ∧
    (∀ state, StateFinished threads state → ∀ conn, threads.shared.produced conn = some state →
      conn ∈ threads.shared.closed ∨
        ∃ thread, threads.phase thread = .discarding conn ∨ threads.phase thread = .closing conn) ∧
    (∀ state, threads.shared.pool.Retired state → ∀ conn, threads.shared.produced conn = some state →
      ∀ label result, poolStep threads label = some result → ∀ caller created,
        result.shared.returns ≠ (caller, conn, created) :: threads.shared.returns) := by
  obtain ⟨sound, shared⟩ := run_shared run
  have accounted := (run_sound run).2
  refine ⟨?_, shared.whole.once, ?_, ?_⟩
  · intro state first second atFirst atSecond
    obtain ⟨_, rfl, registered⟩ := dialing_thread shared atFirst
    obtain ⟨_, rfl, same⟩ := dialing_thread shared atSecond
    rw [registered] at same
    rw [Option.some.inj same]
  · intro state finished conn produced
    rcases accounted conn state produced with closed | ⟨opened, tracked⟩ | ⟨thread, carries⟩
    · exact .inl closed
    · have known := sound.whole _ conn tracked
      have old : state < threads.shared.pool.state := by simpa [ConnPool.Retired, opened] using finished.retired
      grind
    · grind [carried_after_finish]
  intro state retired conn produced label result taken caller created returned
  obtain ⟨thread, _⟩ := label
  obtain ⟨_, _, moved, rfl⟩ := interleave_eq_some.mp taken
  rcases turn_returned (advance_turn moved) shared.whole.mode (shared.each thread).single with
    same | ⟨_, given, grown, opened, present, _⟩
  · exact absurd (same.symm.trans returned) (List.cons_ne_self _ _).symm
  rw [grown] at returned
  cases returned
  have known := sound.whole _ conn ((shared.whole.listed _).tracked conn present)
  have old : state < threads.shared.pool.state := by simpa [ConnPool.Retired, opened] using retired
  grind

def invalidateSchedule : List (Thread Bool × Input Nat) :=
  [(.caller false, .call .acquire), (.caller false, .lock true), (.caller false, .go), (.dialer 0, .begin),
    (.dialer 0, .dial (some 7) false), (.dialer 0, .lock true), (.dialer 0, .done), (.caller false, .done),
    (.caller false, .lock true), (.caller true, .call (.invalidate 7)), (.caller true, .lock true),
    (.caller false, .call .reset), (.caller false, .lock true), (.caller false, .cancel), (.caller false, .swept)]

theorem invalidate_schedule_run : ∃ threads : PoolThreads Bool Nat,
      Run poolStep FreshDials (startPool .single 0) threads ∧ StateFinished threads 0 ∧
        threads.shared.produced 7 = some 0 ∧ 7 ∉ threads.shared.closed := by
  obtain ⟨threads, executed, finished, produced, opened⟩ :
      ∃ threads : PoolThreads Bool Nat,
        execute (guarded poolStep FreshDials) (startPool .single 0) invalidateSchedule = some threads ∧
          StateFinished threads 0 ∧ threads.shared.produced 7 = some 0 ∧ 7 ∉ threads.shared.closed := by
    refine ⟨_, rfl, ⟨.inl (by decide), ?_, ?_⟩, rfl, by decide⟩
    · intro thread
      cases thread with
      | caller caller => cases caller <;> decide
      | dialer connect => cases connect <;> simp [retires, Function.update, startPool]
    intro connect launched
    cases connect with
    | zero => rfl
    | succ => cases launched
  grind [run_of_guarded]

theorem reset_returns_before_close :
    ¬ ∀ threads : PoolThreads Bool Nat,
      Run poolStep FreshDials (startPool .single 0) threads → ∀ state, StateFinished threads state →
        ∀ conn, threads.shared.produced conn = some state → conn ∈ threads.shared.closed := by
  grind [invalidate_schedule_run]

theorem invalidated_connection_in_hand :
    ∃ threads : PoolThreads Bool Nat,
      Run poolStep FreshDials (startPool .single 0) threads ∧ threads.shared.produced 7 = some 0 ∧
        ∃ thread, threads.phase thread = .discarding 7 ∨ threads.phase thread = .closing 7 := by
  obtain ⟨threads, run, finished, produced, opened⟩ := invalidate_schedule_run
  have settled := (shared_pool_custody 0 threads run).2.2.1 0 finished 7 produced
  grind

end OtunKernel.Transport
