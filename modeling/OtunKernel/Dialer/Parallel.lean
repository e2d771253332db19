import Mathlib.Data.List.Perm.Subperm
import Mathlib.Logic.Function.Basic
import OtunKernel.Lib.Runs
import OtunKernel.Net.Addr

namespace OtunKernel.Dialer

open Lib
open Net

structure Racer where
  primary : Bool
  index : Nat
deriving DecidableEq

-- Where a racer is: in the dial, in the select with what it has dialled, or behind
-- it. A connection that nobody takes is closed in a step of its own.
inductive Phase where
  | unstarted
  | dialing
  | offering (success : Bool)
  | handed (success : Bool)
  | closing
  | closed
  | dropped
deriving DecidableEq

def Phase.isOpen : Phase → Bool
  | .offering true => true
  | .handed true => true
  | .closing => true
  | _ => false

def Phase.succeeded : Phase → Bool
  | .closed => true
  | phase => phase.isOpen

def Phase.finished : Phase → Bool
  | .dialing => false
  | .offering _ => false
  | .closing => false
  | _ => true

-- fallbackTimer: armed with the delay or at once, expired, or received from.
inductive Timer where
  | none
  | armed (atOnce : Bool)
  | expired
  | received
deriving DecidableEq

inductive Result where
  | conn (racer : Racer)
  | errors (racers : List Racer)
deriving DecidableEq

-- What tells the functions apart: how many candidates a racer tries in turn,
-- whether the fallbacks wait for a timer, and when all have failed.
structure Plan where
  primaries : List Nat
  fallbacks : List Nat
  timer : Bool
  fast : Bool
  exhausted : List Racer → Bool
  report : List Racer → List Racer

def Plan.candidates (plan : Plan) (racer : Racer) : Option Nat :=
  if racer.primary then plan.primaries[racer.index]? else plan.fallbacks[racer.index]?

def Plan.racers (plan : Plan) : List Racer :=
  (List.range plan.primaries.length).map (Racer.mk true) ++ (List.range plan.fallbacks.length).map (Racer.mk false)

section
variable {ι : Type}

def dialParallelInterface (primaryInterfaces fallbackInterfaces : List ι) : Plan where
  primaries := primaryInterfaces.map (fun _ => 1)
  fallbacks := fallbackInterfaces.map (fun _ => 1)
  timer := 0 < fallbackInterfaces.length
  fast := false
  exhausted errors := errors.length == primaryInterfaces.length + fallbackInterfaces.length
  report errors := errors

def dialParallelInterfaceFastFallback (primaryInterfaces fallbackInterfaces : List ι) : Plan where
  primaries := primaryInterfaces.map (fun _ => 1)
  fallbacks := fallbackInterfaces.map (fun _ => 1)
  timer := false
  fast := true
  exhausted errors := errors.length == primaryInterfaces.length + fallbackInterfaces.length
  report errors := errors

-- How many dials DialSerialNetwork makes. A dialer that is a ParallelNetworkDialer is
-- given all addresses at once.
def serialDials (isParallel : Bool) (destinationAddresses : List Addr) : Nat :=
  if isParallel then 1 else destinationAddresses.length

def dialSerialNetwork (isParallel : Bool) (destinationAddresses : List Addr) : Plan where
  primaries := [serialDials isParallel destinationAddresses]
  fallbacks := []
  timer := false
  fast := false
  exhausted errors := !errors.isEmpty
  report errors := errors

def is4In6 (address : Addr) : Bool := address.is6 && address.unmap.is4

-- One racer for each family. primary.done and fallback.done are set by a result with an error.
def raceFamilies (isParallel : Bool) (primaries fallbacks : List Addr) : Plan where
  primaries := [serialDials isParallel primaries]
  fallbacks := [serialDials isParallel fallbacks]
  timer := true
  fast := false
  exhausted errors := errors.any Racer.primary && errors.any (fun racer => !racer.primary)
  report errors := errors.filter Racer.primary

def dialParallelNetwork (isParallel : Bool) (destination : Addr) (destinationAddresses : List Addr) (preferIPv6 : Bool) :
    Plan :=
  let destinationAddresses := if destinationAddresses.isEmpty then [destination] else destinationAddresses
  let addresses4 := destinationAddresses.filter (fun address => address.is4 || is4In6 address)
  let addresses6 := destinationAddresses.filter (fun address => address.is6 && !is4In6 address)
  if addresses4.isEmpty || addresses6.isEmpty then dialSerialNetwork isParallel destinationAddresses
  else if preferIPv6 then raceFamilies isParallel addresses6 addresses4
  else raceFamilies isParallel addresses4 addresses6

inductive Call (ι : Type) where
  | parallelInterface (primaryInterfaces fallbackInterfaces : List ι)
  | fastFallback (primaryInterfaces fallbackInterfaces : List ι)
  | parallelNetwork (isParallel : Bool) (destination : Addr) (destinationAddresses : List Addr) (preferIPv6 : Bool)

def Call.plan : Call ι → Plan
  | .parallelInterface primaryInterfaces fallbackInterfaces => dialParallelInterface primaryInterfaces fallbackInterfaces
  | .fastFallback primaryInterfaces fallbackInterfaces =>
    dialParallelInterfaceFastFallback primaryInterfaces fallbackInterfaces
  | .parallelNetwork isParallel destination destinationAddresses preferIPv6 =>
    dialParallelNetwork isParallel destination destinationAddresses preferIPv6

-- Every interface is the one candidate of a racer, and the racers of
-- DialParallelNetwork dial every address between them.
theorem interface_candidates (primaryInterfaces fallbackInterfaces : List ι) (racer : Racer) :
    (dialParallelInterface primaryInterfaces fallbackInterfaces).candidates racer =
      (if racer.primary then primaryInterfaces else fallbackInterfaces)[racer.index]?.map (fun _ => 1) := by
  obtain ⟨primary, _⟩ := racer
  cases primary <;> exact List.getElem?_map

theorem network_candidates (destination : Addr) {addresses : List Addr} (given : addresses.isEmpty = false)
    (valid : ∀ address ∈ addresses, address.is4 || address.is6) (preferIPv6 : Bool) :
    (dialParallelNetwork false destination addresses preferIPv6).primaries.sum +
      (dialParallelNetwork false destination addresses preferIPv6).fallbacks.sum = addresses.length := by
  have sixes : addresses.filter (fun address => !(address.is4 || is4In6 address)) =
      addresses.filter (fun address => address.is6 && !is4In6 address) := by
    refine List.filter_congr (fun address member => ?_)
    have known := valid address member
    cases address <;> simp_all [is4In6, Addr.is4, Addr.is6]
  have families := List.length_eq_length_filter_add (l := addresses) (fun address => address.is4 || is4In6 address)
  rw [sixes] at families
  simp only [dialParallelNetwork, given, Bool.false_eq_true, if_false]
  split
  · simp [dialSerialNetwork, serialDials]
  · cases preferIPv6 <;> simp [raceFamilies, serialDials] <;> omega

end

structure Race where
  phase : Racer → Phase
  -- How many of its candidates a racer has seen fail.
  failures : Racer → Nat := fun _ => 0
  -- The fallback delay is over.
  elapsed : Bool := false
  timer : Timer
  errors : List Racer := []
  result : Option Result := none
  fallbackStarts : Nat := 0
  resetFastFallbacks : Nat := 0

def Race.set (race : Race) (racer : Racer) (phase : Phase) : Race :=
  { race with phase := Function.update race.phase racer phase }

-- Stop has no effect on a timer that was received from; of an expired one it
-- may report either, and takes the value back if it reports true.
def Timer.stopAndReset (stopped : Bool) : Timer → Timer
  | .armed _ => .armed true
  | .expired => if stopped then .armed true else .expired
  | timer => timer

def Race.startFallbacks (plan : Plan) (race : Race) : Race :=
  { race with
    phase := fun racer => if racer.primary = false ∧ (plan.candidates racer).isSome then .dialing else race.phase racer
    fallbackStarts := race.fallbackStarts + 1 }

def start (plan : Plan) : Race where
  phase racer := if (racer.primary = true ∨ plan.fast = true) ∧ (plan.candidates racer).isSome then .dialing else .unstarted
  timer := if plan.timer then .armed false else .none
  result := if plan.racers.isEmpty then some (.errors []) else none
  fallbackStarts := if plan.fast then 1 else 0

inductive Event where
  | attempt (racer : Racer) (success : Bool)
  | hand (racer : Racer) (stopped : Bool)
  | elapse
  | expire
  | fallback
  | leave (racer : Racer)
  | close (racer : Racer)

def Race.collect (plan : Plan) (race : Race) (racer : Racer) (stopped : Bool) : Race :=
  let race := { race.set racer (.handed false) with errors := race.errors ++ [racer] }
  if plan.exhausted race.errors then { race with result := some (.errors (plan.report race.errors)) }
  else if racer.primary then { race with timer := race.timer.stopAndReset stopped }
  else race

section
variable (plan : Plan) (race : Race) (racer : Racer) (stopped : Bool)

@[simp]
theorem collect_phase : (race.collect plan racer stopped).phase = Function.update race.phase racer (.handed false) := by
  rw [Race.collect]
  split_ifs <;> rfl

@[simp]
theorem collect_failures : (race.collect plan racer stopped).failures = race.failures := by
  rw [Race.collect]
  split_ifs <;> rfl

@[simp]
theorem collect_elapsed : (race.collect plan racer stopped).elapsed = race.elapsed := by
  rw [Race.collect]
  split_ifs <;> rfl

@[simp]
theorem collect_errors : (race.collect plan racer stopped).errors = race.errors ++ [racer] := by
  rw [Race.collect]
  split_ifs <;> rfl

@[simp]
theorem collect_fallback_starts : (race.collect plan racer stopped).fallbackStarts = race.fallbackStarts := by
  rw [Race.collect]
  split_ifs <;> rfl

theorem collect_result :
    (race.collect plan racer stopped).result =
      if plan.exhausted (race.errors ++ [racer]) then some (.errors (plan.report (race.errors ++ [racer])))
      else race.result := by
  rw [Race.collect]
  split_ifs <;> rfl

theorem collect_timer : (race.collect plan racer stopped).timer = race.timer ∨
      (racer.primary = true ∧ (race.collect plan racer stopped).timer = race.timer.stopAndReset stopped) := by
  rw [Race.collect]
  split_ifs with exhausted primary
  · exact .inl rfl
  · exact .inr ⟨primary, rfl⟩
  · exact .inl rfl

end

def step (plan : Plan) : System Race Event
  | race, .attempt racer success =>
    match race.phase racer, plan.candidates racer with
    | .dialing, some count =>
      if success then some (race.set racer (.offering true))
      else
        let failures := Function.update race.failures racer (race.failures racer + 1)
        if race.failures racer + 1 < count then some { race with failures := failures }
        else some { race.set racer (.offering false) with failures := failures }
    | _, _ => none
  | race, .hand racer stopped =>
    match race.result, race.phase racer with
    | none, .offering true => some { race.set racer (.handed true) with result := some (.conn racer) }
    | none, .offering false => some (race.collect plan racer stopped)
    | _, _ => none
  | race, .elapse => some { race with elapsed := true }
  | race, .expire =>
    match race.timer with
    | .armed atOnce => if atOnce || race.elapsed then some { race with timer := .expired } else none
    | _ => none
  | race, .fallback =>
    match race.result, race.timer with
    | none, .expired => some { race.startFallbacks plan with timer := .received }
    | _, _ => none
  | race, .leave racer =>
    match race.result, race.phase racer with
    | some _, .offering true =>
      let resets := if plan.fast && racer.primary && !race.elapsed then 1 else 0
      some { race.set racer .closing with resetFastFallbacks := race.resetFastFallbacks + resets }
    | some _, .offering false => some (race.set racer .dropped)
    | _, _ => none
  | race, .close racer =>
    match race.phase racer with
    | .closing => some (race.set racer .closed)
    | _ => none

inductive Move (plan : Plan) (race : Race) : Race → Prop where
  | dialed {racer : Racer} (candidate : (plan.candidates racer).isSome = true) (dialing : race.phase racer = .dialing) :
      Move plan race (race.set racer (.offering true))
  | missed {racer : Racer} (dialing : race.phase racer = .dialing) :
      Move plan race { race with failures := Function.update race.failures racer (race.failures racer + 1) }
  | failed {racer : Racer} {count : Nat} (candidates : plan.candidates racer = some count) (dialing : race.phase racer = .dialing)
      (all : count ≤ race.failures racer + 1) :
      Move plan race
        { race.set racer (.offering false) with failures := Function.update race.failures racer (race.failures racer + 1) }
  | won {racer : Racer} (running : race.result = none) (offering : race.phase racer = .offering true) :
      Move plan race { race.set racer (.handed true) with result := some (.conn racer) }
  | collected {racer : Racer} (stopped : Bool) (running : race.result = none) (offering : race.phase racer = .offering false) :
      Move plan race (race.collect plan racer stopped)
  | elapsed : Move plan race { race with elapsed := true }
  | expired {atOnce : Bool} (armed : race.timer = .armed atOnce) (due : atOnce = true ∨ race.elapsed = true) :
      Move plan race { race with timer := .expired }
  | fallback (running : race.result = none) (expired : race.timer = .expired) :
      Move plan race { race.startFallbacks plan with timer := .received }
  | refused {racer : Racer} (resets : Nat) (returned : race.result ≠ none) (offering : race.phase racer = .offering true) :
      Move plan race { race.set racer .closing with resetFastFallbacks := resets }
  | dropped {racer : Racer} (returned : race.result ≠ none) (offering : race.phase racer = .offering false) :
      Move plan race (race.set racer .dropped)
  | closed {racer : Racer} (closing : race.phase racer = .closing) : Move plan race (race.set racer .closed)

theorem move_of_step {plan : Plan} {race later : Race} {event : Event} (taken : step plan race event = some later) :
    Move plan race later := by
  revert taken
  fun_cases step plan race event <;> rintro ⟨⟩
  · rename_i candidates dialing
    exact .dialed (by rw [candidates]; rfl) dialing
  · rename_i dialing _ _
    exact .missed dialing
  · rename_i candidates _ dialing _ all
    exact .failed candidates dialing (Nat.not_lt.mp all)
  · rename_i offering running
    exact .won running offering
  · rename_i offering running
    exact .collected _ running offering
  · exact .elapsed
  · rename_i armed due
    exact .expired armed (by simpa using due)
  · rename_i expired running
    exact .fallback running expired
  · rename_i offering returned _
    exact .refused _ (by rw [returned]; simp) offering
  · rename_i offering returned
    exact .dropped (by rw [returned]; simp) offering
  · rename_i closing
    exact .closed closing

end OtunKernel.Dialer
