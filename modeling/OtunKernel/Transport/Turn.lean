import OtunKernel.Transport.ConnPool

namespace OtunKernel.Transport

open Lib ConnPool

section
variable {T : Type} (pool : ConnPool T)

theorem set_state_same (index : Nat) (state : ConnPoolState T) : (pool.setState index state).states index = state :=
  Function.update_self _ _ _

theorem set_state_other {index other : Nat} (different : other ≠ index) (state : ConnPoolState T) :
    (pool.setState index state).states other = pool.states other :=
  Function.update_of_ne different _ _

theorem set_current_same (state : ConnPoolState T) : (pool.setCurrent state).states pool.state = state :=
  set_state_same pool pool.state state

end

variable {κ T : Type} [DecidableEq κ] [DecidableEq T]

inductive QuietTurn (world : World κ T) : Thread κ → Phase T → Phase T → Prop where
  | acquireClosed (caller : κ) : QuietTurn world (.caller caller) .acquiring .idle
  | needsDial (caller : κ) (state : Nat) (ordered : world.pool.mode = .ordered) :
      QuietTurn world (.caller caller) .acquiring (.waitingSlot state)
  | slotRefused (caller : κ) (state : Nat) : QuietTurn world (.caller caller) (.waitingSlot state) .idle
  | installFailed (caller : κ) (state : Nat) (conn : T) (late : world.pool.closed = true ∨ world.pool.state ≠ state) :
      QuietTurn world (.caller caller) (.installing state conn) (.dropping state conn)
  | joins (caller : κ) (connect : Nat) (single : world.pool.mode = .single) :
      QuietTurn world (.caller caller) .acquiring (.waiting world.pool.state connect false)
  | done (caller : κ) (state connect : Nat) (startDial : Bool) :
      QuietTurn world (.caller caller) (.waiting state connect startDial) (.collecting state connect startDial)
  | contextDone (caller : κ) (state connect : Nat) (startDial : Bool) :
      QuietTurn world (.caller caller) (.waiting state connect startDial) .idle
  | stateDone (caller : κ) (state connect : Nat) (startDial : Bool) :
      QuietTurn world (.caller caller) (.waiting state connect startDial) .stateDone
  | givesUp (caller : κ) : QuietTurn world (.caller caller) .stateDone .idle
  | resumes (caller : κ) : QuietTurn world (.caller caller) .stateDone .acquiring
  | collectFailed (caller : κ) (state connect : Nat) (startDial : Bool) :
      QuietTurn world (.caller caller) (.collecting state connect startDial) .idle
  | retries (caller : κ) (state connect : Nat) (startDial : Bool) :
      QuietTurn world (.caller caller) (.collecting state connect startDial) .acquiring
  | resetClosed (caller : κ) : QuietTurn world (.caller caller) .resetting .idle
  | closeClosed (caller : κ) : QuietTurn world (.caller caller) .closingPool .idle
  | swept (caller : κ) (state : Nat) (visited : Finset T) (done : (world.pool.states state).all ⊆ visited) :
      QuietTurn world (.caller caller) (.sweeping state visited) .idle
  | begin (connect state : Nat) (launched : world.launched connect = some state) :
      QuietTurn world (.dialer connect) .idle (.connecting state connect)
  | connectFailed (dialer state connect : Nat) :
      QuietTurn world (.dialer dialer) (.connecting state connect) (.settling state connect none)

inductive Asking : Phase T → Prop where
  | acquiring : Asking .acquiring
  | collecting (state connect : Nat) (startDial : Bool) : Asking (.collecting state connect startDial)

inductive PendingClose : Thread κ → Phase T → T → Phase T → Prop where
  | discarding (caller : κ) (conn : T) : PendingClose (.caller caller) (.discarding conn) conn .acquiring
  | dropping (caller : κ) (state : Nat) (conn : T) : PendingClose (.caller caller) (.dropping state conn) conn .idle
  | closing (caller : κ) (conn : T) : PendingClose (.caller caller) (.closing conn) conn .idle
  | refusing (dialer state connect : Nat) (conn : T) :
      PendingClose (.dialer dialer) (.refusing state connect conn) conn (.settling state connect none)
  | abandoning (dialer state connect : Nat) (conn : T) :
      PendingClose (.dialer dialer) (.abandoning state connect conn) conn (.finishing connect)

inductive Dialled : Thread κ → Phase T → Nat → T → Phase T → Prop where
  | refused (caller : κ) (state : Nat) (conn : T) :
      Dialled (.caller caller) (.dialing state) state conn (.dropping state conn)
  | arrived (caller : κ) (state : Nat) (conn : T) :
      Dialled (.caller caller) (.dialing state) state conn (.installing state conn)
  | sharedRefused (dialer state connect : Nat) (conn : T) :
      Dialled (.dialer dialer) (.connecting state connect) state conn (.refusing state connect conn)
  | sharedArrived (dialer state connect : Nat) (conn : T) :
      Dialled (.dialer dialer) (.connecting state connect) state conn (.settling state connect (some conn))

-- A critical section that gives a connection back: the pool it leaves and
-- whether the connection is closed behind the lock.
inductive GivesBack (pool : ConnPool T) : Phase T → T → ConnPool T → Bool → Prop where
  | release (conn : T) (reuse alive : Bool) :
      GivesBack pool (.releasing conn reuse) conn (pool.release conn reuse alive).1 (pool.release conn reuse alive).2
  | invalidate (conn : T) :
      GivesBack pool (.invalidating conn) conn (pool.invalidate conn).1 (pool.invalidate conn).2

inductive Turn (world : World κ T) (input : Input T) : Thread κ → Phase T → World κ T → Phase T → Prop where
  | quiet {thread : Thread κ} {phase next : Phase T} (turn : QuietTurn world thread phase next) :
      Turn world input thread phase world next
  | calls (caller : κ) (operation : Operation T) (given : input = .call operation) :
      Turn world input (.caller caller) .idle world operation.start
  | slots (caller : κ) (sem : Option Nat) (state : Nat) :
      Turn world input (.caller caller) (.waitingSlot state) (world.withPool { world.pool with sem := sem }) (.dialing state)
  | dialFailed (caller : κ) (state : Nat) :
      Turn world input (.caller caller) (.dialing state) (world.withPool world.pool.releaseSlot) .idle
  | closes {thread : Thread κ} {phase next : Phase T} {conn : T} (pending : PendingClose thread phase conn next)
      (sem : Option Nat) :
      Turn world input thread phase ((world.withPool { world.pool with sem := sem }).close conn) next
  | dialled {thread : Thread κ} {phase next : Phase T} {state : Nat} {conn : T} (contextDone : Bool)
      (given : input = .dial (some conn) contextDone) (turn : Dialled thread phase state conn next) :
      Turn world input thread phase (world.produce conn state) next
  | takesIdle (caller : κ) (element : Nat) (conn : T) (rest : List (Nat × T)) (ordered : world.pool.mode = .ordered)
      (opened : world.pool.closed = false) (front : world.pool.current.idle = (element, conn) :: rest) :
      Turn world input (.caller caller) .acquiring
        ((world.withPool (world.pool.setCurrent
          { world.pool.current with idle := rest, idleElements := erase world.pool.current.idleElements conn })).give
            caller conn false) .idle
  | discardsIdle (caller : κ) (element : Nat) (conn : T) (rest : List (Nat × T)) (ordered : world.pool.mode = .ordered)
      (opened : world.pool.closed = false) (front : world.pool.current.idle = (element, conn) :: rest) :
      Turn world input (.caller caller) .acquiring
        (world.withPool (world.pool.setCurrent
          { world.pool.current with
            idle := rest, idleElements := erase world.pool.current.idleElements conn,
            all := world.pool.current.all.erase conn })) (.discarding conn)
  | installs (caller : κ) (conn : T) (opened : world.pool.closed = false) :
      Turn world input (.caller caller) (.installing world.pool.state conn)
        ((world.withPool (world.pool.setCurrent
          { world.pool.current with all := insert conn world.pool.current.all }).releaseSlot).give caller conn true) .idle
  | takesShared (caller : κ) {phase : Phase T} (asking : Asking phase) (conn : T)
      (opened : world.pool.closed = false) (shared : world.pool.current.shared = some conn) :
      Turn world input (.caller caller) phase
        ((world.withPool (world.pool.setCurrent { world.pool.current with sharedClaimed := true })).give
          caller conn (!world.pool.current.sharedClaimed)) .idle
  | discardsShared (caller : κ) {phase : Phase T} (asking : Asking phase) (conn : T)
      (opened : world.pool.closed = false) (shared : world.pool.current.shared = some conn) :
      Turn world input (.caller caller) phase
        (world.withPool (world.pool.setCurrent (removeConn world.pool.mode world.pool.current conn))) (.discarding conn)
  | startsConnect (caller : κ) (single : world.pool.mode = .single) (opened : world.pool.closed = false)
      (absent : world.pool.current.shared = none) (free : world.pool.current.connecting = none) :
      Turn world input (.caller caller) .acquiring
        (world.withPool { world.pool.setCurrent
          { world.pool.current with connecting := some world.pool.nextConnect } with
            nextConnect := world.pool.nextConnect + 1 }) (.starting world.pool.state world.pool.nextConnect)
  | launches (caller : κ) (state connect : Nat) :
      Turn world input (.caller caller) (.starting state connect) (world.launch connect state) (.waiting state connect true)
  | givesBack (caller : κ) {phase : Phase T} {conn : T} {pool : ConnPool T} {close : Bool}
      (turn : GivesBack world.pool phase conn pool close) :
      Turn world input (.caller caller) phase ((world.withPool pool).giveBack caller conn)
        (if close then .closing conn else .idle)
  | resets (caller : κ) (opened : world.pool.closed = false) :
      Turn world input (.caller caller) .resetting (world.withPool { world.pool with state := world.pool.state + 1 })
        (.cancelling world.pool.state)
  | closesPool (caller : κ) (opened : world.pool.closed = false) :
      Turn world input (.caller caller) .closingPool (world.withPool { world.pool with closed := true })
        (.cancelling world.pool.state)
  | cancels (caller : κ) (state : Nat) :
      Turn world input (.caller caller) (.cancelling state) (cancelState world state) (.sweeping state ∅)
  | sweeps (caller : κ) (state : Nat) (visited : Finset T) (conn : T) (found : conn ∈ (world.pool.states state).all)
      (unvisited : conn ∉ visited) :
      Turn world input (.caller caller) (.sweeping state visited) (world.close conn) (.sweeping state (insert conn visited))
  | settlesFailed (dialer state connect : Nat) :
      Turn world input (.dialer dialer) (.settling state connect none)
        (world.withPool ((world.pool.setState state { world.pool.states state with connecting := none }).failConnect
          connect)) (.finishing connect)
  | settlesLate (dialer state connect : Nat) (conn : T) (late : world.pool.closed = true ∨ world.pool.state ≠ state) :
      Turn world input (.dialer dialer) (.settling state connect (some conn))
        (world.withPool ((world.pool.setState state { world.pool.states state with connecting := none }).failConnect
          connect)) (.abandoning state connect conn)
  | settles (dialer connect : Nat) (conn : T) (opened : world.pool.closed = false) :
      Turn world input (.dialer dialer) (.settling world.pool.state connect (some conn))
        (world.withPool (world.pool.setCurrent
          { world.pool.current with
            connecting := none, shared := some conn, all := insert conn world.pool.current.all })) (.finishing connect)
  | finishes (dialer connect : Nat) :
      Turn world input (.dialer dialer) (.finishing connect) (finishConnect world connect) .finished

section
variable (world : World κ T) (input : Input T)

theorem acquire_turn (caller : κ) (alive : Bool) :
    Turn world input (.caller caller) .acquiring (acquireTurn world caller alive).1 (acquireTurn world caller alive).2 := by
  rw [acquireTurn]
  cases mode : world.pool.mode with
  | ordered =>
    fun_cases acquireOrdered
    · exact .quiet (.acquireClosed caller)
    · rename_i closed element conn rest idle _ _
      exact .takesIdle caller element conn rest mode (Bool.eq_false_iff.mpr closed) idle
    · rename_i closed element conn rest idle _ _
      exact .discardsIdle caller element conn rest mode (Bool.eq_false_iff.mpr closed) idle
    · exact .quiet (.needsDial caller _ mode)
  | single =>
    fun_cases acquireShared
    · exact .quiet (.acquireClosed caller)
    · rename_i closed conn shared _
      exact .takesShared caller .acquiring conn (Bool.eq_false_iff.mpr closed) shared
    · rename_i closed conn shared _
      exact .discardsShared caller .acquiring conn (Bool.eq_false_iff.mpr closed) shared
    · exact .quiet (.joins caller _ mode)
    · rename_i closed shared connecting
      exact .startsConnect caller mode (Bool.eq_false_iff.mpr closed) shared connecting

theorem collect_turn (caller : κ) (state connect : Nat) (startDial alive : Bool) :
    Turn world input (.caller caller) (.collecting state connect startDial)
      (collectTurn world caller state connect startDial alive).1 (collectTurn world caller state connect startDial alive).2 := by
  rw [collectTurn]
  fun_cases collectShared
  · cases startDial with
    | true => exact .quiet (.collectFailed caller state connect true)
    | false => exact .quiet (.retries caller state connect false)
  · exact .quiet (.collectFailed caller state connect startDial)
  · exact .quiet (.collectFailed caller state connect startDial)
  · exact .quiet (.retries caller state connect startDial)
  · rename_i closed _ conn shared _
    exact .discardsShared caller (.collecting state connect startDial) conn (Bool.eq_false_iff.mpr closed) shared
  · rename_i closed _ conn shared _
    exact .takesShared caller (.collecting state connect startDial) conn (Bool.eq_false_iff.mpr closed) shared

theorem install_turn (caller : κ) (state : Nat) (conn : T) :
    Turn world input (.caller caller) (.installing state conn) (installTurn world caller state conn).1
      (installTurn world caller state conn).2 := by
  rw [installTurn, install]
  by_cases closed : world.pool.closed = true
  · rw [if_pos closed]
    exact .quiet (.installFailed caller state conn (.inl closed))
  rw [if_neg closed]
  by_cases replaced : world.pool.state ≠ state
  · rw [if_pos replaced]
    exact .quiet (.installFailed caller state conn (.inr replaced))
  rw [if_neg replaced]
  have same : world.pool.state = state := by omega
  rw [← same]
  exact .installs caller conn (Bool.eq_false_iff.mpr closed)

theorem settle_turn (dialer state connect : Nat) (result : Option T) :
    Turn world input (.dialer dialer) (.settling state connect result) (settleTurn world state connect result).1
      (settleTurn world state connect result).2 := by
  rw [settleTurn, settle.eq_def]
  cases result with
  | none => exact .settlesFailed dialer state connect
  | some conn =>
    dsimp only
    by_cases closed : world.pool.closed = true
    · rw [if_pos (by exact closed)]
      exact .settlesLate dialer state connect conn (.inl closed)
    rw [if_neg (by exact closed)]
    by_cases replaced : world.pool.state ≠ state
    · rw [if_pos (by exact replaced)]
      exact .settlesLate dialer state connect conn (.inr replaced)
    have same : world.pool.state = state := by omega
    subst same
    have turn : Turn world input (.dialer dialer) _ _ _ :=
      .settles dialer connect conn (Bool.eq_false_iff.mpr closed)
    simpa [setCurrent, setState, current] using turn

end

variable {world next : World κ T} {input : Input T} {phase after : Phase T} {thread : Thread κ} {pool : ConnPool T}

theorem turn_of_pair {pair : World κ T × Phase T} (turn : Turn world input thread phase pair.1 pair.2)
    (same : some pair = some (next, after)) : Turn world input thread phase next after := by
  cases Option.some.inj same
  exact turn

theorem advance_turn (moved : advance thread world phase input = some (next, after)) : Turn world input thread phase next after := by
  revert moved
  fun_cases advance thread world phase input <;> intro moved <;> try cases moved
  · exact .calls _ _ rfl
  · exact turn_of_pair (acquire_turn world _ _ _) moved
  · exact .closes (.discarding _ _) world.pool.sem
  · rw [acquireSlot] at moved
    split at moved
    · exact turn_of_pair (.slots _ world.pool.sem _) moved
    · contradiction
    rename_i free _
    exact turn_of_pair (.slots _ (some free) _) moved
  · exact .quiet (.slotRefused _ _)
  · rename_i result contextDone
    cases result with
    | none => exact turn_of_pair (.dialFailed _ _) moved
    | some conn =>
      rw [dialTurn] at moved
      split at moved
      · exact turn_of_pair (.dialled contextDone rfl (.refused _ _ conn)) moved
      · exact turn_of_pair (.dialled contextDone rfl (.arrived _ _ conn)) moved
  · exact turn_of_pair (install_turn world _ _ _ _) moved
  · exact .closes (.dropping _ _ _) (world.pool.sem.map (· + 1))
  · exact .launches _ _ _
  · exact .quiet (.done _ _ _ _)
  · exact .quiet (.contextDone _ _ _ _)
  · exact .quiet (.stateDone _ _ _ _)
  · grind [collect_turn]
  · split
    · exact .quiet (.givesUp _)
    · exact .quiet (.resumes _)
  · rename_i conn reuse alive _ _ given
    have turn : GivesBack world.pool _ conn _ _ := .release conn reuse alive
    rw [given] at turn
    exact .givesBack _ turn
  · rename_i conn _ _ _ given
    have turn : GivesBack world.pool _ conn _ _ := .invalidate conn
    rw [given] at turn
    exact .givesBack _ turn
  · exact .closes (.closing _ _) world.pool.sem
  · rw [resetTurn] at moved
    split at moved
    · exact turn_of_pair (.quiet (.resetClosed _)) moved
    rename_i opened
    exact turn_of_pair (.resets _ (Bool.eq_false_iff.mpr opened)) moved
  · rw [closeTurn] at moved
    split at moved
    · exact turn_of_pair (.quiet (.closeClosed _)) moved
    rename_i opened
    exact turn_of_pair (.closesPool _ (Bool.eq_false_iff.mpr opened)) moved
  · exact .cancels _ _
  · rename_i found
    obtain ⟨present, unvisited⟩ := Finset.mem_sdiff.mp found
    exact .sweeps _ _ _ _ present unvisited
  · rename_i done
    exact .quiet (.swept _ _ _ done)
  · rename_i connect
    cases launched : world.launched connect with
    | none => simp [launched] at moved
    | some state =>
      rw [launched] at moved
      exact turn_of_pair (.quiet (.begin connect state launched)) moved
  · rename_i result contextDone
    cases result with
    | none => exact turn_of_pair (.quiet (.connectFailed _ _ _)) moved
    | some conn =>
      rw [connectTurn] at moved
      split at moved
      · exact turn_of_pair (.dialled contextDone rfl (.sharedRefused _ _ _ conn)) moved
      · exact turn_of_pair (.dialled contextDone rfl (.sharedArrived _ _ _ conn)) moved
  · exact .closes (.refusing _ _ _ _) world.pool.sem
  · exact turn_of_pair (settle_turn world _ _ _ _ _) moved
  · exact .closes (.abandoning _ _ _ _) world.pool.sem
  · exact .finishes _ _

section
variable (pool : ConnPool T) (conn : T)

theorem gives_back_cases {phase : Phase T} {next : ConnPool T} {close : Bool} (turn : GivesBack pool phase conn next close) :
    (next = pool ∧ (close = true ∨ conn ∉ pool.current.all ∨ ∃ reuse, phase = .releasing conn reuse)) ∨
      (pool.closed = false ∧ next = pool.setCurrent (removeConn pool.mode pool.current conn) ∧ close = true) ∨
      (pool.closed = false ∧ next = pool.setCurrent (pool.current.pushIdle conn) ∧ close = false ∧
        conn ∈ pool.current.all ∧ pool.mode = .ordered ∧ pool.current.idleElements conn = none ∧
        ∃ reuse, phase = .releasing conn reuse) := by
  cases turn with
  | release conn reuse alive =>
    rw [release]
    by_cases closed : pool.closed = true
    · simp [closed]
    grind
  | invalidate conn =>
    rw [invalidate]
    by_cases closed : pool.closed = true
    · simp [closed]
    · grind

end

inductive CurrentChange (mode : ConnPoolMode) (index : Nat) (before : ConnPoolState T) :
    Phase T → Phase T → ConnPoolState T → Prop where
  | taken (element : Nat) (conn : T) (rest : List (Nat × T)) (ordered : mode = .ordered)
      (front : before.idle = (element, conn) :: rest) :
      CurrentChange mode index before .acquiring .idle
        { before with idle := rest, idleElements := erase before.idleElements conn }
  | discarded (element : Nat) (conn : T) (rest : List (Nat × T)) (ordered : mode = .ordered)
      (front : before.idle = (element, conn) :: rest) :
      CurrentChange mode index before .acquiring (.discarding conn)
        { before with
          idle := rest, idleElements := erase before.idleElements conn, all := before.all.erase conn }
  | installed (conn : T) :
      CurrentChange mode index before (.installing index conn) .idle { before with all := insert conn before.all }
  | claimed {phase after : Phase T} (conn : T) (present : before.shared = some conn) :
      CurrentChange mode index before phase after { before with sharedClaimed := true }
  | removed {phase after : Phase T} (conn : T) (pending : after = .discarding conn ∨ after = .closing conn) :
      CurrentChange mode index before phase after (removeConn mode before conn)
  | pushed (conn : T) (reuse : Bool) (ordered : mode = .ordered) (tracked : conn ∈ before.all)
      (fresh : before.idleElements conn = none) :
      CurrentChange mode index before (.releasing conn reuse) .idle (before.pushIdle conn)
  | connecting (connect : Nat) (free : before.connecting = none) :
      CurrentChange mode index before .acquiring (.starting index connect) { before with connecting := some connect }
  | settled (connect : Nat) (conn : T) :
      CurrentChange mode index before (.settling index connect (some conn)) (.finishing connect)
        { before with connecting := none, shared := some conn, all := insert conn before.all }

inductive StateChange (pool : ConnPool T) (index : Nat) (before : ConnPoolState T) (phase after : Phase T) :
    ConnPoolState T → Prop where
  | same : StateChange pool index before phase after before
  | cancelled : StateChange pool index before phase after { before with cancelled := true }
  | ended (connect : Nat) (result : Option T) (settling : phase = .settling index connect result) :
      StateChange pool index before phase after { before with connecting := none }
  | current {result : ConnPoolState T} (opened : pool.closed = false) (here : index = pool.state)
      (change : CurrentChange pool.mode index before phase after result) :
      StateChange pool index before phase after result

section
variable {input : Input T} {thread : Thread κ} {phase after : Phase T}

theorem set_state_change {changed : Nat} {state : ConnPoolState T}
    (change : StateChange pool changed (pool.states changed) phase after state) (index : Nat) :
    StateChange pool index (pool.states index) phase after ((pool.setState changed state).states index) := by
  by_cases here : index = changed
  · simp [here, set_state_same, change]
  rw [set_state_other pool here]
  exact .same

theorem set_current_change (opened : pool.closed = false) {current : ConnPoolState T}
    (change : CurrentChange pool.mode pool.state pool.current phase after current) (index : Nat) :
    StateChange pool index (pool.states index) phase after ((pool.setCurrent current).states index) :=
  set_state_change (.current opened rfl change) index

theorem turn_states (turn : Turn world input thread phase next after) (index : Nat) :
    StateChange world.pool index (world.pool.states index) phase after (next.pool.states index) := by
  cases turn with
  | takesIdle _ element conn rest ordered opened front =>
    exact set_current_change opened (.taken element conn rest ordered front) index
  | discardsIdle _ element conn rest ordered opened front =>
    exact set_current_change opened (.discarded element conn rest ordered front) index
  | installs _ conn opened => exact set_current_change opened (.installed conn) index
  | takesShared _ _ conn opened shared => exact set_current_change opened (.claimed conn shared) index
  | discardsShared _ _ conn opened => exact set_current_change opened (.removed conn (.inl rfl)) index
  | startsConnect _ _ opened _ free =>
    exact set_current_change opened (.connecting world.pool.nextConnect free) index
  | settles _ connect conn opened => exact set_current_change opened (.settled connect conn) index
  | givesBack _ turn =>
    rcases gives_back_cases world.pool _ turn with
      ⟨rfl, _⟩ | ⟨opened, rfl, rfl⟩ | ⟨opened, rfl, rfl, tracked, ordered, fresh, reuse, rfl⟩
    · exact .same
    · exact set_current_change opened (.removed _ (.inr rfl)) index
    · exact set_current_change opened (.pushed _ reuse ordered tracked fresh) index
  | cancels => exact set_state_change .cancelled index
  | settlesFailed _ _ connect => exact set_state_change (.ended connect none rfl) index
  | settlesLate _ _ connect conn => exact set_state_change (.ended connect (some conn) rfl) index
  | _ => exact .same

theorem turn_pool (turn : Turn world input thread phase next after) : next.pool.mode = world.pool.mode ∧
      ((next.pool.state = world.pool.state ∧ next.pool.closed = world.pool.closed) ∨
        (world.pool.closed = false ∧ after = .cancelling world.pool.state ∧
          ((next.pool.state = world.pool.state + 1 ∧ next.pool.closed = false) ∨
            (next.pool.state = world.pool.state ∧ next.pool.closed = true)))) := by
  cases turn with
  | givesBack _ turn =>
    rcases gives_back_cases world.pool _ turn with ⟨rfl, _⟩ | ⟨_, rfl, _⟩ | ⟨_, rfl, _⟩ <;>
      exact ⟨rfl, .inl ⟨rfl, rfl⟩⟩
  | resets _ opened => exact ⟨rfl, .inr ⟨opened, rfl, .inl ⟨rfl, opened⟩⟩⟩
  | closesPool _ opened => exact ⟨rfl, .inr ⟨opened, rfl, .inr ⟨rfl, rfl⟩⟩⟩
  | _ => exact ⟨rfl, .inl ⟨rfl, rfl⟩⟩

end
end OtunKernel.Transport
