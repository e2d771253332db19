import OtunKernel.Lib.IndexedList
import OtunKernel.Transport.Custody

namespace OtunKernel.Transport

open Lib World ConnPool

variable {κ T : Type} {conn : T}

def ConnPoolState.Idle (state : ConnPoolState T) (conn : T) : Prop := ∃ element, (element, conn) ∈ state.idle

structure IdleListed (state : ConnPoolState T) : Prop where
  indexed : Indexed state.idle state.idleElements state.nextElement
  tracked : ∀ conn, state.Idle conn → conn ∈ state.all

def Phase.ordered : Phase T → Bool
  | .starting _ _ => false
  | .waiting _ _ _ => false
  | .collecting _ _ _ => false
  | .stateDone => false
  | .connecting _ _ => false
  | .refusing _ _ _ => false
  | .settling _ _ _ => false
  | .abandoning _ _ _ => false
  | .finishing _ => false
  | .finished => false
  | _ => true

def Phase.givesBack : Phase T → Option T
  | .releasing conn _ => some conn
  | .invalidating conn => some conn
  | _ => none

def Input.givesBack : Input T → Option T
  | .call (.release conn _) => some conn
  | .call (.invalidate conn) => some conn
  | _ => none

def HolderGivesBack (threads : PoolThreads κ T) : Thread κ × Input T → Prop
  | (.caller caller, input) => ∀ conn ∈ input.givesBack, conn ∈ threads.shared.held caller
  | (.dialer _, _) => True

instance [DecidableEq T] (threads : PoolThreads κ T) :
    (label : Thread κ × Input T) → Decidable (HolderGivesBack threads label)
  | (.caller caller, input) => inferInstanceAs (Decidable (∀ conn ∈ input.givesBack, conn ∈ threads.shared.held caller))
  | (.dialer _, _) => inferInstanceAs (Decidable True)

def Disciplined (threads : PoolThreads κ T) (label : Thread κ × Input T) : Prop :=
  FreshDials threads label ∧ HolderGivesBack threads label

instance [DecidableEq T] (threads : PoolThreads κ T) (label : Thread κ × Input T) :
    Decidable (Disciplined threads label) :=
  inferInstanceAs (Decidable (FreshDials threads label ∧ HolderGivesBack threads label))

structure OrderedWorld (world : World κ T) : Prop where
  mode : world.pool.mode = .ordered
  listed : ∀ state, IdleListed (world.pool.states state)
  unshared : ∀ state, (world.pool.states state).shared = none
  unlaunched : ∀ connect, world.launched connect = none
  free : ∀ caller conn, conn ∈ world.held caller → ∀ state, ¬ (world.pool.states state).Idle conn
  exclusive : ∀ first second conn, conn ∈ world.held first → conn ∈ world.held second → first = second
  known : ∀ caller conn, conn ∈ world.held caller → ∃ state, world.produced conn = some state

structure OrderedPhase (thread : Thread κ) (world : World κ T) (phase : Phase T) : Prop where
  plain : phase.ordered = true
  dialers : ∀ connect, thread = .dialer connect → phase = .idle
  arrives : ∀ conn, phase.arriving = some conn → ∀ caller, conn ∉ world.held caller
  gives : ∀ conn, phase.givesBack = some conn → ∃ caller, thread = .caller caller ∧ conn ∈ world.held caller

abbrev Ordered (threads : PoolThreads κ T) : Prop :=
  Coherent OrderedWorld OrderedPhase (fun _ _ => True) threads

section
variable {threads : PoolThreads κ T}

theorem source_unheld (thread : Thread κ) (ordered : Ordered threads)
    (source : (threads.phase thread).arriving = some conn ∨ threads.shared.pool.current.Idle conn) (caller : κ) :
    conn ∉ threads.shared.held caller := by
  rcases source with arriving | idle
  · exact (ordered.each thread).arrives conn arriving caller
  · exact fun held => ordered.whole.free caller conn held _ idle

theorem source_known (thread : Thread κ) (sound : Sound threads) (ordered : Ordered threads)
    (source : (threads.phase thread).arriving = some conn ∨ threads.shared.pool.current.Idle conn) :
    ∃ state, threads.shared.produced conn = some state := by
  rcases source with arriving | idle
  · obtain ⟨state, brings⟩ := arriving_brings arriving
    exact ⟨state, (sound.each thread).brings state conn brings⟩
  · exact ⟨_, sound.whole _ conn ((ordered.whole.listed _).tracked conn idle)⟩

end

theorem start_ordered (maxInflight : Nat) :
    Ordered (startPool .ordered maxInflight : PoolThreads κ T) := by
  have nobody : ∀ (caller : κ) (conn : T),
      conn ∉ (startPool .ordered maxInflight : PoolThreads κ T).shared.held caller :=
    fun _ conn => Finset.notMem_empty conn
  refine ⟨⟨rfl, ?_, fun _ => rfl, fun _ => rfl, ?_, ?_, ?_⟩, ?_, fun _ _ _ => trivial⟩
  · intro state
    refine ⟨indexed_nil 0, ?_⟩
    rintro conn ⟨_, member⟩
    exact absurd member List.not_mem_nil
  · simp_all
  · simp_all
  · simp_all
  intro thread
  exact ⟨rfl, fun _ _ => rfl, fun _ arriving => by contradiction, fun _ gives => by contradiction⟩

variable [DecidableEq κ] [DecidableEq T] {created : Bool}

section
variable {state : ConnPoolState T} {conn : T}

theorem remove_conn_idle (mode : ConnPoolMode) : (removeConn mode state conn).idle ⊆ state.idle := by
  cases mode with
  | single | ordered => grind [removeConn]

theorem remove_conn_shared (mode : ConnPoolMode) (absent : state.shared = none) : (removeConn mode state conn).shared = none := by
  cases mode with
  | single => simp [removeConn, absent]
  | ordered => grind [removeConn]

theorem remove_conn_listed (listed : IdleListed state) : IdleListed (removeConn .ordered state conn) := by
  have others : ∀ other, (removeConn .ordered state conn).Idle other → other ≠ conn →
      other ∈ (removeConn .ordered state conn).all := by
    rintro other ⟨element, member⟩ different
    rw [remove_conn_all]
    exact Finset.mem_erase.mpr ⟨different, listed.tracked other ⟨element, remove_conn_idle .ordered member⟩⟩
  cases found : state.idleElements conn with
  | some =>
    have indexed := listed.indexed.remove found
    refine ⟨by simpa [removeConn, found] using indexed, fun other idle => others other idle ?_⟩
    rintro rfl
    obtain ⟨number, member⟩ := idle
    simp only [removeConn, found] at member
    have present := (indexed.listed other number).mpr member
    simp [erase_same] at present
  | none =>
    refine ⟨by simpa [removeConn, found] using listed.indexed, fun other idle => others other idle ?_⟩
    rintro rfl
    obtain ⟨number, member⟩ := idle
    have present := (listed.indexed.listed other number).mpr (remove_conn_idle .ordered member)
    simp [found] at present

end

section
variable {world : World κ T} {caller mover : κ} {conn other : T}

theorem give_held : conn ∈ (world.give mover other created).held caller ↔
    conn ∈ world.held caller ∨ (mover = caller ∧ other = conn) := by
  by_cases same : caller = mover
  · simp [same, give, or_comm, eq_comm]
  · simp [give, same, Ne.symm same]

theorem give_back_held : conn ∈ (world.giveBack mover other).held caller ↔
    conn ∈ world.held caller ∧ ¬ (mover = caller ∧ other = conn) := by
  by_cases same : caller = mover
  · simp [same, giveBack, and_comm, eq_comm]
  · simp [giveBack, same, Ne.symm same]

end

section
variable {world next : World κ T} {input : Input T} {thread : Thread κ} {phase after : Phase T} {state : Nat} {conn : T}
  {caller : κ}

section
variable (turn : Turn world input thread phase next after)
include turn

theorem turn_listed (ordered : world.pool.mode = .ordered)
    (listed : IdleListed (world.pool.states state)) : IdleListed (next.pool.states state) := by
  have change := turn_states turn state
  generalize next.pool.states state = result at change ⊢
  cases change with
  | current _ _ change =>
    rw [ordered] at change
    cases change with
    | taken _ _ _ _ front =>
      have indexed := listed.indexed
      rw [front] at indexed
      refine ⟨indexed.tail, fun other idle => listed.tracked other ?_⟩
      obtain ⟨number, member⟩ := idle
      exact ⟨number, front ▸ List.mem_cons_of_mem _ member⟩
    | discarded _ _ _ _ front =>
      have indexed := listed.indexed
      rw [front] at indexed
      refine ⟨indexed.tail, ?_⟩
      rintro other ⟨number, member⟩
      have present := (indexed.tail.listed other number).mpr member
      refine Finset.mem_erase.mpr ⟨(erase_eq_some.mp present).1, ?_⟩
      exact listed.tracked other ⟨number, front ▸ List.mem_cons_of_mem _ member⟩
    | installed | settled => exact ⟨listed.indexed, fun other idle => Finset.mem_insert_of_mem (listed.tracked other idle)⟩
    | removed => exact remove_conn_listed listed
    | pushed conn _ _ tracked fresh =>
      refine ⟨listed.indexed.push fresh, ?_⟩
      rintro other ⟨number, member⟩
      rcases List.mem_append.mp member with old | added
      · exact listed.tracked other ⟨number, old⟩
      have same : other = conn := by grind
      exact same ▸ tracked
    | _ => exact ⟨listed.indexed, listed.tracked⟩
  | _ => exact ⟨listed.indexed, listed.tracked⟩

theorem turn_idle (idle : (next.pool.states state).Idle conn) :
    (world.pool.states state).Idle conn ∨ ∃ reuse, phase = .releasing conn reuse := by
  have change := turn_states turn state
  generalize next.pool.states state = result at change idle
  obtain ⟨number, member⟩ := idle
  cases change with
  | current _ _ change =>
    cases change with
    | taken _ _ _ _ front | discarded _ _ _ _ front => exact .inl ⟨number, front ▸ List.mem_cons_of_mem _ member⟩
    | removed => exact .inl ⟨number, remove_conn_idle _ member⟩
    | pushed released reuse =>
      rcases List.mem_append.mp member with old | added
      · exact .inl ⟨number, old⟩
      · simp_all
    | _ => exact .inl ⟨number, member⟩
  | _ => exact .inl ⟨number, member⟩

theorem turn_unshared (plain : phase.ordered = true)
    (unshared : (world.pool.states state).shared = none) : (next.pool.states state).shared = none := by
  have change := turn_states turn state
  generalize next.pool.states state = result at change ⊢
  cases change with
  | current _ _ change =>
    cases change with
    | settled => contradiction
    | removed => exact remove_conn_shared _ unshared
    | _ => exact unshared
  | _ => exact unshared

theorem turn_launched (plain : phase.ordered = true) : next.launched = world.launched := by
  cases turn with
  | launches => contradiction
  | _ => rfl

theorem turn_plain (ordered : world.pool.mode = .ordered)
    (unlaunched : ∀ connect, world.launched connect = none) (plain : phase.ordered = true) : after.ordered = true := by
  cases turn with
  | quiet turn =>
    cases turn with
    | joins _ _ single | begin _ _ launched => simp_all
    | _ => first | rfl | contradiction
  | calls _ operation => cases operation <;> rfl
  | closes pending | dialled _ _ pending => cases pending <;> first | rfl | contradiction
  | startsConnect _ single => simp_all
  | givesBack => split <;> rfl
  | _ => first | rfl | contradiction

end

theorem turn_dialer {connect : Nat} (turn : Turn world input (.dialer connect) phase next after)
    (unlaunched : ∀ connect, world.launched connect = none) (resting : phase = .idle) : after = .idle := by
  subst resting
  cases turn with
  | quiet turn =>
    cases turn with
    | begin _ _ launched => simp_all
  | closes pending => cases pending
  | dialled _ _ turn => cases turn

theorem turn_lets_go {giver : κ} (turn : Turn world input (.caller giver) phase next after)
    (gives : phase.givesBack = some conn) : conn ∉ next.held giver := by
  cases turn with
  | givesBack _ turn =>
    cases turn with
    | release | invalidate =>
      cases gives
      grind [give_back_held]
  | quiet turn | dialled _ _ turn | closes turn | takesShared _ turn | discardsShared _ turn => cases turn <;> contradiction
  | _ => contradiction

variable (turn : Turn world input thread phase next after)
include turn

theorem turn_held (holds : OrderedWorld world) (held : conn ∈ next.held caller) :
    conn ∈ world.held caller ∨ (thread = .caller caller ∧ (phase.arriving = some conn ∨
        (world.pool.current.Idle conn ∧ ¬ (next.pool.states world.pool.state).Idle conn))) := by
  cases turn with
  | takesIdle _ element taken rest _ _ front =>
    rcases give_held.mp held with old | ⟨rfl, rfl⟩
    · exact .inl old
    refine .inr ⟨rfl, .inr ⟨⟨element, front ▸ List.mem_cons_self⟩, ?_⟩⟩
    rintro ⟨number, member⟩
    have indexed := (holds.listed world.pool.state).indexed
    rw [show (world.pool.states world.pool.state).idle = _ from front] at indexed
    have here := set_current_same world.pool
    have inRest : (number, taken) ∈ rest := by simp_all [give, withPool]
    have present := (indexed.tail.listed taken number).mpr inRest
    simp [erase_same] at present
  | installs =>
    rcases give_held.mp held with old | ⟨rfl, rfl⟩
    · exact .inl old
    · exact .inr ⟨rfl, .inl rfl⟩
  | takesShared _ _ _ _ present => simp_all [current, holds.unshared]
  | givesBack => exact .inl (give_back_held.mp held).1
  | _ => exact .inl held

theorem turn_returns (holds : OrderedWorld world) (returned : next.returns = (caller, conn, created) :: world.returns) :
    phase.arriving = some conn ∨ world.pool.current.Idle conn := by
  cases turn with
  | takesIdle _ element _ _ _ _ front =>
    cases returned
    exact .inr ⟨element, front ▸ List.mem_cons_self⟩
  | installs =>
    cases returned
    exact .inl rfl
  | takesShared _ _ _ _ present => simp_all [current, holds.unshared]
  | _ => exact absurd returned.symm (List.cons_ne_self _ _)

theorem turn_others_held (other : thread ≠ .caller caller) : next.held caller = world.held caller := by
  have untouched : ∀ (mover : κ) (value : Finset T), Thread.caller mover ≠ .caller caller →
      Function.update world.held mover value caller = world.held caller := by grind
  cases turn with
  | takesIdle mover | installs mover | takesShared mover | givesBack mover => exact untouched mover _ other
  | _ => rfl

theorem turn_gives_back (gives : after.givesBack = some conn) : next = world ∧ ∃ caller, thread = .caller caller ∧
      ((∃ reuse, input = .call (.release conn reuse)) ∨ input = .call (.invalidate conn)) := by
  cases turn with
  | calls caller operation given =>
    refine ⟨rfl, caller, rfl, ?_⟩
    cases operation with
    | release _ reuse =>
      cases gives
      grind
    | invalidate =>
      cases gives
      exact .inr given
    | _ => contradiction
  | quiet turn | dialled _ _ turn | closes turn => cases turn <;> contradiction
  | givesBack => split at gives <;> contradiction
  | _ => contradiction

end

section
variable {threads result : PoolThreads κ T} {label : Thread κ × Input T} {thread : Thread κ}
  {input : Input T} {next : World κ T} {after : Phase T}

section
variable (sound : Sound threads) (ordered : Ordered threads)
include sound ordered

section
variable (turn : Turn threads.shared input thread (threads.phase thread) next after)
include turn

theorem step_world (fresh : FreshDials threads (thread, input)) : OrderedWorld next := by
  have whole := ordered.whole
  have own := ordered.each thread
  have newHolder : ∀ caller conn, conn ∈ next.held caller → conn ∈ threads.shared.held caller ∨
      (thread = .caller caller ∧
        ((threads.phase thread).arriving = some conn ∨ threads.shared.pool.current.Idle conn)) := by
    intro caller conn held
    rcases turn_held turn whole held with old | ⟨mover, arriving | ⟨idle, _⟩⟩
    · exact .inl old
    · grind
    · grind
  refine ⟨?_, ?_, ?_, ?_, ?_, ?_, ?_⟩
  · exact (turn_pool turn).1.trans whole.mode
  · exact fun state => turn_listed turn whole.mode (whole.listed state)
  · exact fun state => turn_unshared turn own.plain (whole.unshared state)
  · simp [turn_launched turn own.plain, whole.unlaunched]
  · intro caller conn held state idle
    rcases turn_idle turn idle with before | ⟨reuse, releasing⟩
    · rcases turn_held turn whole held with old | ⟨_, arriving | ⟨taken, gone⟩⟩
      · grind [whole.free]
      · exact (sound.each thread).arrives conn arriving state ((whole.listed state).tracked conn before)
      -- the connection was dialled for one state only
      have here := sound.whole state conn ((whole.listed state).tracked conn before)
      rw [sound.whole _ conn ((whole.listed _).tracked conn taken)] at here
      grind
    obtain ⟨giver, rfl, holds⟩ := own.gives conn (by rw [releasing]; rfl)
    rcases newHolder caller conn held with old | ⟨_, source⟩
    · have same := whole.exclusive caller giver conn old holds
      exact turn_lets_go turn (by rw [releasing]; rfl) (same ▸ held)
    · grind [source_unheld]
  · grind [whole.exclusive, source_unheld]
  · grind [whole.known, source_known, turn_produced, fresh.absent]

theorem step_own_phase (permitted : Disciplined threads (thread, input)) : OrderedPhase thread next after := by
  have whole := ordered.whole
  have own := ordered.each thread
  refine ⟨?_, ?_, ?_, ?_⟩
  · exact turn_plain turn whole.mode whole.unlaunched own.plain
  · grind [turn_dialer, whole.unlaunched, own.dialers]
  · intro conn arriving caller held
    obtain ⟨contextDone, dialled⟩ := turn_arriving turn arriving
    have absent := permitted.1.absent conn contextDone dialled
    have known : ∃ state, threads.shared.produced conn = some state := by
      rcases turn_held turn whole held with old | ⟨_, source | ⟨source, _⟩⟩
      · exact whole.known caller conn old
      · grind [source_known]
      · grind [source_known]
    obtain ⟨_, produced⟩ := known
    simp [absent] at produced
  intro conn gives
  obtain ⟨rfl, caller, rfl, called⟩ := turn_gives_back turn gives
  refine ⟨caller, rfl, ?_⟩
  rcases called with ⟨reuse, rfl⟩ | rfl
  · exact permitted.2 conn rfl
  · exact permitted.2 conn rfl

theorem step_other_phase {other : Thread κ} (different : other ≠ thread) : OrderedPhase other next (threads.phase other) := by
  have whole := ordered.whole
  have beside := ordered.each other
  refine ⟨beside.plain, beside.dialers, ?_, ?_⟩
  · intro conn arriving caller held
    rcases turn_held turn whole held with old | ⟨_, same | ⟨idle, _⟩⟩
    · exact beside.arrives conn arriving caller old
    · exact sound.pair thread other (Ne.symm different) conn same arriving
    · exact (sound.each other).arrives conn arriving _ ((whole.listed _).tracked conn idle)
  · grind [beside.gives, turn_others_held]

end

theorem step_ordered (permitted : Disciplined threads label) (taken : poolStep threads label = some result) : Ordered result := by
  refine coherent_step (fun _ _ _ => trivial) ordered taken ?_ ?_
  · intro shared phase moved
    have turn := advance_turn moved
    exact ⟨step_world sound ordered turn permitted.1, step_own_phase sound ordered turn permitted⟩
  intro shared phase moved other different _
  exact ⟨step_other_phase sound ordered (advance_turn moved) different, trivial⟩

end
end

theorem run_ordered {maxInflight : Nat} {threads : PoolThreads κ T}
    (run : Run poolStep Disciplined (startPool .ordered maxInflight) threads) : Sound threads ∧ Ordered threads := by
  refine run.invariant (fun threads => Sound threads ∧ Ordered threads)
    ⟨start_sound .ordered maxInflight, start_ordered maxInflight⟩ ?_
  intro _ _ _ holds permitted taken
  exact ⟨step_sound holds.1 permitted.1 taken, step_ordered holds.1 holds.2 permitted taken⟩

theorem ordered_pool_custody (maxInflight : Nat) (threads : PoolThreads κ T)
    (run : Run poolStep Disciplined (startPool .ordered maxInflight) threads) :
    (∀ state : Nat,
      (∀ conn element, (threads.shared.pool.states state).idleElements conn = some element ↔
        (element, conn) ∈ (threads.shared.pool.states state).idle) ∧
      ((threads.shared.pool.states state).idle.map Prod.snd).Nodup ∧
      ∀ conn ∈ (threads.shared.pool.states state).idle.map Prod.snd, conn ∈ (threads.shared.pool.states state).all) ∧
    (∀ first second conn, conn ∈ threads.shared.held first → conn ∈ threads.shared.held second → first = second) ∧
    (∀ label result, poolStep threads label = some result → ∀ caller conn created,
      result.shared.returns = (caller, conn, created) :: threads.shared.returns →
        ∀ holder, conn ∉ threads.shared.held holder) ∧
    (threads.shared.pool.closed = true → ∀ conn state, threads.shared.produced conn = some state →
      conn ∈ threads.shared.closed ∨ ∃ caller, Carries threads.shared.pool conn (threads.phase (.caller caller))) ∧
    (threads.shared.pool.closed = true → (∀ caller, threads.phase (.caller caller) = .idle) →
      ∀ conn state, threads.shared.produced conn = some state → conn ∈ threads.shared.closed) := by
  obtain ⟨_, ordered⟩ := run_ordered run
  have accounted := (run_sound (run.mono (fun _ _ permitted => permitted.1))).2
  have inHand : threads.shared.pool.closed = true → ∀ conn state, threads.shared.produced conn = some state →
      conn ∈ threads.shared.closed ∨ ∃ caller, Carries threads.shared.pool conn (threads.phase (.caller caller)) := by
    intro closed conn state produced
    rcases accounted conn state produced with done | tracks | ⟨thread, carries⟩
    · exact .inl done
    · simp_all [ConnPool.Tracks]
    cases thread with
    | caller caller => grind
    | dialer connect =>
      rw [(ordered.each (.dialer connect)).dialers connect rfl] at carries
      obtain ⟨_, brings⟩ := carries
      contradiction
  refine ⟨?_, ordered.whole.exclusive, ?_, inHand, ?_⟩
  · intro state
    have listed := ordered.whole.listed state
    refine ⟨listed.indexed.listed, listed.indexed.once, fun conn member => listed.tracked conn ?_⟩
    obtain ⟨⟨element, _⟩, present, rfl⟩ := List.mem_map.mp member
    exact ⟨element, present⟩
  · intro label result taken caller conn created returned holder
    obtain ⟨thread, _⟩ := label
    obtain ⟨_, _, moved, rfl⟩ := interleave_eq_some.mp taken
    exact source_unheld thread ordered (turn_returns (advance_turn moved) ordered.whole returned) holder
  intro closed returned conn state produced
  rcases inHand closed conn state produced with done | ⟨caller, carries⟩
  · exact done
  rw [returned caller] at carries
  obtain ⟨_, _⟩ := carries
  contradiction

def orderedSchedule : List (Thread Bool × Input Nat) :=
  [(.caller false, .call .acquire), (.caller false, .lock true), (.caller false, .slot true),
    (.caller false, .dial (some 7) false), (.caller false, .lock true), (.caller false, .call (.release 7 true)),
    (.caller false, .lock true), (.caller true, .call .acquire), (.caller true, .lock true),
    (.caller false, .call .close), (.caller false, .lock true), (.caller false, .cancel), (.caller false, .sweep 7),
    (.caller false, .swept), (.caller true, .call (.release 7 true)), (.caller true, .lock true), (.caller true, .close)]

theorem lent_connection_closed :
    ∃ threads : PoolThreads Bool Nat,
      Run poolStep Disciplined (startPool .ordered 1) threads ∧
        threads.shared.returns = [(true, 7, false), (false, 7, true)] ∧ 7 ∈ threads.shared.closed := by
  obtain ⟨threads, executed, closed, resting, produced, returned⟩ :
      ∃ threads : PoolThreads Bool Nat,
        execute (guarded poolStep Disciplined) (startPool .ordered 1) orderedSchedule = some threads ∧
          threads.shared.pool.closed = true ∧ (∀ caller, threads.phase (.caller caller) = .idle) ∧
          threads.shared.produced 7 = some 0 ∧ threads.shared.returns = [(true, 7, false), (false, 7, true)] :=
    ⟨_, rfl, rfl, by decide, rfl, rfl⟩
  have run := run_of_guarded _ _ _ executed
  exact ⟨threads, run, returned, (ordered_pool_custody 1 threads run).2.2.2.2 closed resting 7 0 produced⟩

end OtunKernel.Transport
