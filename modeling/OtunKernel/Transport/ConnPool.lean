import Mathlib.Data.Finset.Erase
import Mathlib.Data.Finset.SDiff
import OtunKernel.Lib.PartialMap
import OtunKernel.Lib.Threads

namespace OtunKernel.Transport

open Lib

inductive ConnPoolMode where
  | single
  | ordered
deriving DecidableEq, Repr

structure ConnPoolConnect where
  done : Bool := false
  err : Bool := false
deriving DecidableEq, Repr

-- An element of the idle list is its number with the connection; cancelled is
-- the state of ctx. The context that is handed out with a shared connection is
-- left out.
structure ConnPoolState (T : Type) where
  cancelled : Bool := false
  all : Finset T := ∅
  idle : List (Nat × T) := []
  idleElements : T → Option Nat := fun _ => none
  nextElement : Nat := 0
  shared : Option T := none
  sharedClaimed : Bool := false
  connecting : Option Nat := none

-- States and dials are pointers of the source and numbers here; a state keeps
-- its number when it is replaced.
structure ConnPool (T : Type) where
  mode : ConnPoolMode
  sem : Option Nat
  closed : Bool := false
  state : Nat := 0
  states : Nat → ConnPoolState T := fun _ => {}
  connects : Nat → ConnPoolConnect := fun _ => {}
  nextConnect : Nat := 0

def newConnPool (T : Type) (mode : ConnPoolMode) (maxInflight : Nat) : ConnPool T where
  mode := mode
  sem := if mode = .ordered ∧ 0 < maxInflight then some maxInflight else none

section
variable {T : Type} [DecidableEq T] (pool : ConnPool T)

def ConnPool.current : ConnPoolState T := pool.states pool.state

def ConnPool.setState (index : Nat) (state : ConnPoolState T) : ConnPool T :=
  { pool with states := Function.update pool.states index state }

def ConnPool.setCurrent (state : ConnPoolState T) : ConnPool T := pool.setState pool.state state

def ConnPoolState.pushIdle (state : ConnPoolState T) (conn : T) : ConnPoolState T :=
  { state with
    idle := state.idle ++ [(state.nextElement, conn)]
    idleElements := put state.idleElements conn state.nextElement
    nextElement := state.nextElement + 1 }

def removeConn (mode : ConnPoolMode) (state : ConnPoolState T) (conn : T) : ConnPoolState T :=
  let state := { state with all := state.all.erase conn }
  match mode with
  | .single => if state.shared = some conn then { state with shared := none, sharedClaimed := false } else state
  | .ordered =>
    match state.idleElements conn with
    | some element =>
      { state with
        idle := state.idle.filter (fun node => node.1 ≠ element)
        idleElements := erase state.idleElements conn }
    | none => state

def ConnPool.release (conn : T) (reuse alive : Bool) : ConnPool T × Bool :=
  if pool.closed then (pool, true)
  else if conn ∉ pool.current.all then (pool, true)
  else if !reuse || !alive then (pool.setCurrent (removeConn pool.mode pool.current conn), true)
  else if pool.mode = .ordered ∧ pool.current.idleElements conn = none then
    (pool.setCurrent (pool.current.pushIdle conn), false)
  else (pool, false)

def ConnPool.invalidate (conn : T) : ConnPool T × Bool :=
  if pool.closed then (pool, true)
  else if conn ∉ pool.current.all then (pool, false)
  else (pool.setCurrent (removeConn pool.mode pool.current conn), true)

inductive OrderedTake (T : Type) where
  | closed
  | taken (conn : T)
  | dead (conn : T)
  | dial (state : Nat)
deriving DecidableEq, Repr

def ConnPool.acquireOrdered (alive : Bool) : ConnPool T × OrderedTake T :=
  if pool.closed then (pool, .closed)
  else
    match pool.current.idle with
    | (_, idleConn) :: rest =>
      let current := { pool.current with idle := rest, idleElements := erase pool.current.idleElements idleConn }
      if alive then (pool.setCurrent current, .taken idleConn)
      else (pool.setCurrent { current with all := current.all.erase idleConn }, .dead idleConn)
    | [] => (pool, .dial pool.state)

-- The end of dialAndInstall; none if the pool was closed or the state replaced.
def ConnPool.install (state : Nat) (conn : T) : Option (ConnPool T) :=
  if pool.closed then none
  else if pool.state ≠ state then none
  else some (pool.setCurrent { pool.current with all := insert conn pool.current.all })

inductive SharedTake (T : Type) where
  | closed
  | taken (conn : T) (created : Bool)
  | dead (conn : T)
  | connect (state connect : Nat) (startDial : Bool)
deriving DecidableEq, Repr

def ConnPool.acquireShared (alive : Bool) : ConnPool T × SharedTake T :=
  if pool.closed then (pool, .closed)
  else
    match pool.current.shared with
    | some conn =>
      if alive then
        (pool.setCurrent { pool.current with sharedClaimed := true }, .taken conn (!pool.current.sharedClaimed))
      else (pool.setCurrent (removeConn pool.mode pool.current conn), .dead conn)
    | none =>
      match pool.current.connecting with
      | some connect => (pool, .connect pool.state connect false)
      | none =>
        ({ pool.setCurrent { pool.current with connecting := some pool.nextConnect } with
            nextConnect := pool.nextConnect + 1 }, .connect pool.state pool.nextConnect true)

def ConnPool.failConnect (connect : Nat) : ConnPool T :=
  { pool with connects := Function.update pool.connects connect { pool.connects connect with err := true } }

def ConnPool.settle (state connect : Nat) (result : Option T) : ConnPool T × Option T :=
  let pool := pool.setState state { pool.states state with connecting := none }
  match result with
  | none => (pool.failConnect connect, none)
  | some conn =>
    if pool.closed then (pool.failConnect connect, some conn)
    else if pool.state ≠ state then (pool.failConnect connect, some conn)
    else (pool.setCurrent { pool.current with shared := some conn, all := insert conn pool.current.all }, none)

inductive Collected (T : Type) where
  | failed
  | retry
  | dead (conn : T)
  | taken (conn : T) (created : Bool)
deriving DecidableEq, Repr

def ConnPool.collectShared (state connect : Nat) (startDial alive : Bool) : ConnPool T × Collected T :=
  if (pool.connects connect).err then (pool, if startDial then .failed else .retry)
  else if pool.closed then (pool, .failed)
  else if pool.state ≠ state then (pool, .failed)
  else
    match pool.current.shared with
    | none => (pool, .retry)
    | some conn =>
      if !alive then (pool.setCurrent (removeConn pool.mode pool.current conn), .dead conn)
      else (pool.setCurrent { pool.current with sharedClaimed := true }, .taken conn (!pool.current.sharedClaimed))

def ConnPool.acquireSlot : Option (ConnPool T) :=
  match pool.sem with
  | none => some pool
  | some 0 => none
  | some (free + 1) => some { pool with sem := some free }

def ConnPool.releaseSlot : ConnPool T := { pool with sem := pool.sem.map (· + 1) }

end

inductive Operation (T : Type) where
  | acquire
  | release (conn : T) (reuse : Bool)
  | invalidate (conn : T)
  | reset
  | close
deriving DecidableEq, Repr

inductive Phase (T : Type) where
  | idle
  | acquiring
  | discarding (conn : T)
  | waitingSlot (state : Nat)
  | dialing (state : Nat)
  | installing (state : Nat) (conn : T)
  | dropping (state : Nat) (conn : T)
  | starting (state connect : Nat)
  | waiting (state connect : Nat) (startDial : Bool)
  | collecting (state connect : Nat) (startDial : Bool)
  | stateDone
  | releasing (conn : T) (reuse : Bool)
  | invalidating (conn : T)
  | closing (conn : T)
  | resetting
  | closingPool
  | cancelling (state : Nat)
  | sweeping (state : Nat) (visited : Finset T)
  | connecting (state connect : Nat)
  | refusing (state connect : Nat) (conn : T)
  | settling (state connect : Nat) (result : Option T)
  | abandoning (state connect : Nat) (conn : T)
  | finishing (connect : Nat)
  | finished
deriving DecidableEq

def Operation.start {T : Type} : Operation T → Phase T
  | .acquire => .acquiring
  | .release conn reuse => .releasing conn reuse
  | .invalidate conn => .invalidating conn
  | .reset => .resetting
  | .close => .closingPool

inductive Thread (κ : Type) where
  | caller (caller : κ)
  | dialer (connect : Nat)
deriving DecidableEq

-- alive is what IsAlive says, contextDone whether the caller's context is
-- done when the dial returns.
inductive Input (T : Type) where
  | call (operation : Operation T)
  | begin
  | lock (alive : Bool)
  | slot (granted : Bool)
  | dial (result : Option T) (contextDone : Bool)
  | go
  | done
  | contextDone
  | stateDone
  | close
  | cancel
  | sweep (conn : T)
  | swept

-- The pool with its history: the connections that were closed, the state each
-- was dialled for, who has acquired which and not given it back, what the
-- acquisitions returned, and the dials that were started.
structure World (κ T : Type) where
  pool : ConnPool T
  closed : Finset T := ∅
  produced : T → Option Nat := fun _ => none
  held : κ → Finset T := fun _ => ∅
  returns : List (κ × T × Bool) := []
  launched : Nat → Option Nat := fun _ => none

section
variable {κ T : Type} [DecidableEq κ] [DecidableEq T] (world : World κ T)

def World.withPool (pool : ConnPool T) : World κ T := { world with pool := pool }

def World.close (conn : T) : World κ T := { world with closed := insert conn world.closed }

def World.produce (conn : T) (state : Nat) : World κ T := { world with produced := put world.produced conn state }

def World.give (caller : κ) (conn : T) (created : Bool) : World κ T :=
  { world with
    held := Function.update world.held caller (insert conn (world.held caller))
    returns := (caller, conn, created) :: world.returns }

def World.giveBack (caller : κ) (conn : T) : World κ T :=
  { world with held := Function.update world.held caller ((world.held caller).erase conn) }

def World.launch (connect state : Nat) : World κ T := { world with launched := put world.launched connect state }

-- What a goroutine does next. Everything between lock and unlock is one turn,
-- and so is each call that closes a connection.
def acquireTurn (caller : κ) (alive : Bool) : World κ T × Phase T :=
  match world.pool.mode with
  | .ordered =>
    match world.pool.acquireOrdered alive with
    | (_, .closed) => (world, .idle)
    | (pool, .taken conn) => ((world.withPool pool).give caller conn false, .idle)
    | (pool, .dead conn) => (world.withPool pool, .discarding conn)
    | (_, .dial state) => (world, .waitingSlot state)
  | .single =>
    match world.pool.acquireShared alive with
    | (_, .closed) => (world, .idle)
    | (pool, .taken conn created) => ((world.withPool pool).give caller conn created, .idle)
    | (pool, .dead conn) => (world.withPool pool, .discarding conn)
    | (pool, .connect state connect startDial) =>
      (world.withPool pool, if startDial then .starting state connect else .waiting state connect false)

def collectTurn (caller : κ) (state connect : Nat) (startDial alive : Bool) : World κ T × Phase T :=
  match world.pool.collectShared state connect startDial alive with
  | (_, .failed) => (world, .idle)
  | (_, .retry) => (world, .acquiring)
  | (pool, .dead conn) => (world.withPool pool, .discarding conn)
  | (pool, .taken conn created) => ((world.withPool pool).give caller conn created, .idle)

def installTurn (caller : κ) (state : Nat) (conn : T) : World κ T × Phase T :=
  match world.pool.install state conn with
  | some pool => ((world.withPool pool.releaseSlot).give caller conn true, .idle)
  | none => (world, .dropping state conn)

def settleTurn (state connect : Nat) (result : Option T) : World κ T × Phase T :=
  match world.pool.settle state connect result with
  | (pool, some conn) => (world.withPool pool, .abandoning state connect conn)
  | (pool, none) => (world.withPool pool, .finishing connect)

def resetTurn : World κ T × Phase T :=
  if world.pool.closed then (world, .idle)
  else (world.withPool { world.pool with state := world.pool.state + 1 }, .cancelling world.pool.state)

def closeTurn : World κ T × Phase T :=
  if world.pool.closed then (world, .idle)
  else (world.withPool { world.pool with closed := true }, .cancelling world.pool.state)

def cancelState (state : Nat) : World κ T :=
  world.withPool (world.pool.setState state { world.pool.states state with cancelled := true })

def dialTurn (state : Nat) (result : Option T) (contextDone : Bool) : World κ T × Phase T :=
  match result with
  | none => (world.withPool world.pool.releaseSlot, .idle)
  | some conn =>
    (world.produce conn state,
      if contextDone || (world.pool.states state).cancelled then .dropping state conn else .installing state conn)

def connectTurn (state connect : Nat) (result : Option T) (contextDone : Bool) : World κ T × Phase T :=
  match result with
  | none => (world, .settling state connect none)
  | some conn =>
    (world.produce conn state,
      if contextDone || (world.pool.states state).cancelled then .refusing state connect conn
      else .settling state connect (some conn))

def finishConnect (connect : Nat) : World κ T :=
  world.withPool { world.pool with
    connects := Function.update world.pool.connects connect { world.pool.connects connect with done := true } }

def advance (thread : Thread κ) (world : World κ T) (phase : Phase T) (input : Input T) : Option (World κ T × Phase T) :=
  match thread, phase, input with
  | .caller _, .idle, .call operation => some (world, operation.start)
  | .caller caller, .acquiring, .lock alive => some (acquireTurn world caller alive)
  | .caller _, .discarding conn, .close => some (world.close conn, .acquiring)
  | .caller _, .waitingSlot state, .slot granted =>
    if granted then world.pool.acquireSlot.map (fun pool => (world.withPool pool, .dialing state))
    else some (world, .idle)
  | .caller _, .dialing state, .dial result contextDone => some (dialTurn world state result contextDone)
  | .caller caller, .installing state conn, .lock _ => some (installTurn world caller state conn)
  | .caller _, .dropping _ conn, .close => some ((world.withPool world.pool.releaseSlot).close conn, .idle)
  | .caller _, .starting state connect, .go => some (world.launch connect state, .waiting state connect true)
  | .caller _, .waiting state connect startDial, .done =>
    if (world.pool.connects connect).done then some (world, .collecting state connect startDial) else none
  | .caller _, .waiting _ _ _, .contextDone => some (world, .idle)
  | .caller _, .waiting state _ _, .stateDone =>
    if (world.pool.states state).cancelled then some (world, .stateDone) else none
  | .caller caller, .collecting state connect startDial, .lock alive =>
    some (collectTurn world caller state connect startDial alive)
  | .caller _, .stateDone, .lock _ => some (world, if world.pool.closed then .idle else .acquiring)
  | .caller caller, .releasing conn reuse, .lock alive =>
    let (pool, close) := world.pool.release conn reuse alive
    some ((world.withPool pool).giveBack caller conn, if close then .closing conn else .idle)
  | .caller caller, .invalidating conn, .lock _ =>
    let (pool, close) := world.pool.invalidate conn
    some ((world.withPool pool).giveBack caller conn, if close then .closing conn else .idle)
  | .caller _, .closing conn, .close => some (world.close conn, .idle)
  | .caller _, .resetting, .lock _ => some (resetTurn world)
  | .caller _, .closingPool, .lock _ => some (closeTurn world)
  | .caller _, .cancelling state, .cancel => some (cancelState world state, .sweeping state ∅)
  | .caller _, .sweeping state visited, .sweep conn =>
    if conn ∈ (world.pool.states state).all \ visited then
      some (world.close conn, .sweeping state (insert conn visited))
    else none
  | .caller _, .sweeping state visited, .swept =>
    if (world.pool.states state).all ⊆ visited then some (world, .idle) else none
  | .dialer connect, .idle, .begin => (world.launched connect).map (fun state => (world, .connecting state connect))
  | .dialer _, .connecting state connect, .dial result contextDone =>
    some (connectTurn world state connect result contextDone)
  | .dialer _, .refusing state connect conn, .close => some (world.close conn, .settling state connect none)
  | .dialer _, .settling state connect result, .lock _ => some (settleTurn world state connect result)
  | .dialer _, .abandoning _ connect conn, .close => some (world.close conn, .finishing connect)
  | .dialer _, .finishing connect, .done => some (finishConnect world connect, .finished)
  | _, _, _ => none

abbrev PoolThreads (κ T : Type) := Threads (Thread κ) (World κ T) (Phase T)

def poolStep : System (PoolThreads κ T) (Thread κ × Input T) := interleave advance

def startPool (mode : ConnPoolMode) (maxInflight : Nat) : PoolThreads κ T where
  shared := { pool := newConnPool T mode maxInflight }
  phase := fun _ => .idle

end
end OtunKernel.Transport
