import OtunKernel.Group.Failover

namespace OtunKernel.Group

open Lib Net FailoverGroup

inductive RoundPhase where
  | idle
  | entered
  | testing (pending : List String)
  | updated
deriving DecidableEq

inductive CallbackPhase where
  | idle
  | struck
  | switching
deriving DecidableEq

structure FailoverMachine where
  group : FailoverGroup
  checking : Bool := false
  round : RoundPhase := .idle
  callbacks : Nat → CallbackPhase := fun _ => .idle

inductive RaceEvent where
  | enter
  | chooseTargets
  | probe (realTag : String) (result : Probe)
  | update
  | leave
  | succeed (realTag : String)
  | strike (callback : Nat) (realTag : String)
  | testChecking (callback : Nat)
  | switch (callback : Nat)

def raceStep : System FailoverMachine RaceEvent
  | machine, .enter =>
    if machine.checking then some machine else some { machine with checking := true, round := .entered }
  | machine, .chooseTargets =>
    match machine.round with
    | .entered =>
      let targets := machine.group.failoverCheckTargets
      some { machine with group := targets.2, round := .testing (targets.1.map Node.realTag).eraseDups }
    | _ => none
  | machine, .probe realTag result =>
    match machine.round with
    | .testing pending =>
      if realTag ∈ pending then
        some { machine with
          group := machine.group.recordProbe realTag result, round := .testing (pending.erase realTag) }
      else none
    | _ => none
  | machine, .update =>
    match machine.round with
    | .testing [] => some { machine with group := machine.group.performUpdateCheck.2, round := .updated }
    | _ => none
  | machine, .leave =>
    match machine.round with
    | .updated => some { machine with checking := false, round := .idle }
    | _ => none
  | machine, .succeed realTag => some { machine with group := machine.group.clearStrikes realTag }
  | machine, .strike callback realTag =>
    match machine.callbacks callback with
    | .idle =>
      let struck := machine.group.addStrike realTag
      if struck.strikes realTag < struck.failoverStrikes then some { machine with group := struck }
      else some { machine with group := struck, callbacks := Function.update machine.callbacks callback .struck }
    | _ => none
  | machine, .testChecking callback =>
    match machine.callbacks callback with
    | .struck =>
      let next := if machine.checking then CallbackPhase.idle else .switching
      some { machine with callbacks := Function.update machine.callbacks callback next }
    | _ => none
  | machine, .switch callback =>
    match machine.callbacks callback with
    | .switching => some { machine with
        group := machine.group.performUpdateCheck.2, callbacks := Function.update machine.callbacks callback .idle }
    | _ => none

def FailoverMachine.AtRest (machine : FailoverMachine) : Prop :=
  machine.round = .idle ∧ ∀ callback, machine.callbacks callback = .idle

def FailoverGroup.SelectedAlive (group : FailoverGroup) : Prop :=
  ∀ network node, group.selected network = some node → group.condemned node.realTag = false

-- No callback tests the flag between the update of a round and its end while a
-- selected node is condemned.
def TestsInTime (machine : FailoverMachine) : RaceEvent → Prop
  | .testChecking _ => machine.round = .updated → machine.group.SelectedAlive
  | _ => True

section
variable {group result : FailoverGroup} {network : Network} {node : Node}

theorem alive_of_fewer (same : ∀ network, result.selected network = group.selected network)
    (fewer : ∀ realTag, group.condemned realTag = false → result.condemned realTag = false)
    (alive : group.SelectedAlive) : result.SelectedAlive := by
  intro network node chosen
  rw [same network] at chosen
  exact fewer node.realTag (alive network node chosen)

theorem select_state (group : FailoverGroup) (network : Network) : (group.selectFailover network).2 = group.resetStrikes ∨
      (group.selectFailover network).2 = group ∧ (group.selectFailover network).1 ≠ none := by
  by_cases alive : (group.selected network).any (fun outbound => !group.condemned outbound.realTag)
  · rw [selectFailover, if_pos alive]
    refine .inr ⟨rfl, ?_⟩
    intro unset
    have chosen : group.selected network = none := unset
    simp [chosen] at alive
  rw [selectFailover, if_neg alive]
  cases group.firstAlive network with
  | some detour => grind
  | none => exact .inl rfl

structure Refreshed (group result : FailoverGroup) (network : Network) : Prop where
  limit : result.failoverStrikes = group.failoverStrikes
  others : ∀ other, other ≠ network → result.selected other = group.selected other
  fewer : ∀ realTag, group.condemned realTag = false → result.condemned realTag = false
  alive : ∀ node, result.selected network = some node → result.condemned node.realTag = false

theorem set_selected_others {other : Network} (different : other ≠ network) :
    (group.setSelected node network).selected other = group.selected other := by
  cases network <;> cases other <;> first | rfl | contradiction

theorem set_selected_self : (group.setSelected node network).selected network = some node := by
  cases network <;> rfl

theorem set_selected_frame (group : FailoverGroup) (node : Node) (network : Network) :
    (group.setSelected node network).failoverStrikes = group.failoverStrikes ∧
      ∀ realTag, (group.setSelected node network).condemned realTag = group.condemned realTag := by
  cases network <;> exact ⟨rfl, fun _ => rfl⟩

section
variable (positive : 1 ≤ group.failoverStrikes)
include positive

theorem select_refreshes (network : Network) : (group.selectFailover network).2.failoverStrikes = group.failoverStrikes ∧
      (∀ other, (group.selectFailover network).2.selected other = group.selected other) ∧
      ∀ realTag, group.condemned realTag = false → (group.selectFailover network).2.condemned realTag = false := by
  rcases select_state group network with reset | ⟨same, _⟩
  · rw [reset]
    exact ⟨rfl, fun other => by cases other <;> rfl, fun realTag _ => reset_alive positive realTag⟩
  · simp [same]

theorem update_refreshes (network : Network) : Refreshed group (group.updateSelected network).2 network := by
  obtain ⟨limit, kept, fewer⟩ := select_refreshes positive network
  cases found : (group.selectFailover network).1 with
  | none =>
    have selects : group.selectFailover network = (none, (group.selectFailover network).2) := Prod.ext found rfl
    have updated : (group.updateSelected network).2 = (group.selectFailover network).2 := by
      rw [updateSelected, selects]
    have reset := (select_state group network).resolve_right (fun other => other.2 found)
    rw [updated]
    refine ⟨limit, fun other _ => kept other, fewer, ?_⟩
    intro node _
    simpa [reset] using reset_alive positive node.realTag
  | some node =>
    have selects : group.selectFailover network = (some node, (group.selectFailover network).2) :=
      Prod.ext found rfl
    have alive := select_result positive found
    rw [update_selected_eq selects]
    obtain ⟨sameLimit, sameStrikes⟩ := set_selected_frame (group.selectFailover network).2 node network
    refine ⟨sameLimit.trans limit, ?_, ?_, ?_⟩
    · intro other different
      rw [set_selected_others different, kept other]
    · grind
    · grind [set_selected_self]

theorem update_check_alive :
    group.performUpdateCheck.2.SelectedAlive ∧ group.performUpdateCheck.2.failoverStrikes = group.failoverStrikes := by
  have tcp := update_refreshes positive .tcp
  have udp := update_refreshes (tcp.limit ▸ positive) .udp
  refine ⟨?_, udp.limit.trans tcp.limit⟩
  intro network node chosen
  cases network with
  | tcp =>
    have earlier := (udp.others .tcp (by decide)).symm.trans chosen
    exact udp.fewer node.realTag (tcp.alive node earlier)
  | udp => exact udp.alive node chosen

theorem targets_limit : group.failoverCheckTargets.2.failoverStrikes = group.failoverStrikes := by
  have one : ∀ targets network, 1 ≤ targets.2.failoverStrikes →
      (FailoverGroup.addTarget targets network).2.failoverStrikes = targets.2.failoverStrikes := by
    intro targets network limit
    have kept := (select_refreshes limit network).1
    unfold addTarget
    split
    · simp_all
    · simp_all
  have first := one ([], group) .tcp positive
  exact (one _ .udp (first ▸ positive)).trans first

theorem clear_alive (realTag : String) (alive : group.SelectedAlive) : (group.clearStrikes realTag).SelectedAlive := by
  refine alive_of_fewer (fun network => by cases network <;> rfl) ?_ alive
  intro other calm
  by_cases same : other = realTag
  · simp only [condemned, clearStrikes, same, Function.update_self, decide_eq_false_iff_not]
    omega
  · simpa only [condemned, clearStrikes, Function.update_of_ne same] using calm

end

theorem strike_alive {realTag : String} (few : (group.addStrike realTag).strikes realTag < group.failoverStrikes)
    (alive : group.SelectedAlive) : (group.addStrike realTag).SelectedAlive := by
  refine alive_of_fewer (fun network => by cases network <;> rfl) ?_ alive
  intro other calm
  by_cases same : other = realTag
  · rw [same]
    exact decide_eq_false (Nat.not_le_of_lt few)
  · simpa only [condemned, addStrike, Function.update_of_ne same] using calm

end

def RoundPhase.beforeUpdate : RoundPhase → Bool
  | .entered => true
  | .testing _ => true
  | _ => false

structure FailoverMachine.Guarded (machine : FailoverMachine) : Prop where
  positive : 1 ≤ machine.group.failoverStrikes
  flag : machine.checking = true ↔ machine.round ≠ .idle
  covered : machine.group.SelectedAlive ∨ machine.round.beforeUpdate = true ∨
    ∃ callback, machine.callbacks callback ≠ .idle

section
variable {machine result : FailoverMachine} {event : RaceEvent}

theorem race_step_guarded (guarded : machine.Guarded) (timely : TestsInTime machine event)
    (taken : raceStep machine event = some result) : result.Guarded := by
  have positive := guarded.positive
  revert timely taken
  fun_cases raceStep machine event <;> rintro timely ⟨⟩
  · exact guarded
  · exact ⟨positive, by simp, .inr (.inl rfl)⟩
  · refine ⟨(targets_limit positive).symm ▸ positive, ?_, .inr (.inl rfl)⟩
    grind [guarded.flag]
  · refine ⟨(record_probe_frame machine.group _ _).2.1.symm ▸ positive, ?_, .inr (.inl rfl)⟩
    grind [guarded.flag]
  · obtain ⟨alive, limit⟩ := update_check_alive positive
    refine ⟨limit.symm ▸ positive, ?_, .inl alive⟩
    grind [guarded.flag]
  · rename_i updated
    refine ⟨positive, by simp, ?_⟩
    rcases updated ▸ guarded.covered with alive | before | callback
    · exact .inl alive
    · contradiction
    · exact .inr (.inr callback)
  · exact ⟨positive, guarded.flag, guarded.covered.imp_left (clear_alive positive _)⟩
  · rename_i few
    exact ⟨positive, guarded.flag, guarded.covered.imp_left (strike_alive few)⟩
  · rename_i callback _ _ _ _
    exact ⟨positive, guarded.flag, .inr (.inr ⟨callback, by simp⟩)⟩
  · rename_i callback _ next
    refine ⟨positive, guarded.flag, ?_⟩
    cases running : machine.checking with
    | false => exact .inr (.inr ⟨callback, by simp [next, running]⟩)
    | true =>
      have going := guarded.flag.mp running
      cases phase : machine.round with
      | idle => exact absurd phase going
      | entered | testing => exact .inr (.inl rfl)
      | updated => exact .inl (timely phase)
  · obtain ⟨alive, limit⟩ := update_check_alive positive
    exact ⟨limit.symm ▸ positive, guarded.flag, .inl alive⟩

def startMachine (failoverStrikes : Nat) (outbounds : List Node) : FailoverMachine :=
  { group := startFailover failoverStrikes outbounds }

theorem start_guarded {failoverStrikes : Nat} (positive : 1 ≤ failoverStrikes) (outbounds : List Node) :
    (startMachine failoverStrikes outbounds).Guarded := by
  let fresh : FailoverGroup := { failoverStrikes := failoverStrikes, outbounds := outbounds }
  have positiveFresh : 1 ≤ fresh.failoverStrikes := positive
  obtain ⟨alive, limit⟩ := update_check_alive positiveFresh
  have kept : 1 ≤ fresh.performUpdateCheck.2.failoverStrikes := limit.symm ▸ positive
  exact ⟨kept, by simp [startMachine], .inl alive⟩

theorem rests_on_alive_nodes (failoverStrikes : Nat) (outbounds : List Node) (positive : 1 ≤ failoverStrikes)
    (machine : FailoverMachine) (run : Run raceStep TestsInTime (startMachine failoverStrikes outbounds) machine)
    (rest : machine.AtRest) :
    ∀ network node, machine.group.selected network = some node →
      machine.group.strikes node.realTag < machine.group.failoverStrikes := by
  have guarded : machine.Guarded :=
    run.invariant FailoverMachine.Guarded (start_guarded positive outbounds)
      (fun _ _ _ before timely taken => race_step_guarded before timely taken)
  have alive : machine.group.SelectedAlive := by
    rcases guarded.covered with alive | before | ⟨callback, busy⟩
    · exact alive
    · rw [rest.1] at before
      contradiction
    · exact absurd (rest.2 callback) busy
  intro network node chosen
  exact Nat.lt_of_not_le (of_decide_eq_false (alive network node chosen))

-- The round has looked at the strikes before the callback adds its own, and the
-- callback still leaves the switch to it.
theorem callback_after_update_missed :
    ∃ machine, execute raceStep (startMachine 1 [⟨"primary", [.tcp, .udp]⟩, ⟨"backup", [.tcp, .udp]⟩])
        [.enter, .chooseTargets, .probe "primary" .succeeded, .update, .strike 0 "primary", .testChecking 0, .leave] =
          some machine ∧
      machine.AtRest ∧ machine.group.selectedOutboundTCP = some ⟨"primary", [.tcp, .udp]⟩ ∧
      machine.group.failoverStrikes ≤ machine.group.strikes "primary" := by
  refine ⟨_, rfl, ⟨rfl, ?_⟩, rfl, Nat.le_refl 1⟩
  intro callback
  cases callback with
  | zero | succ => rfl

theorem callback_between_rounds_switches :
    ∃ machine, execute raceStep (startMachine 1 [⟨"primary", [.tcp, .udp]⟩, ⟨"backup", [.tcp, .udp]⟩])
        [.strike 0 "primary", .testChecking 0, .switch 0] = some machine ∧
      machine.group.selectedOutboundTCP = some ⟨"backup", [.tcp, .udp]⟩ ∧ machine.group.strikes "backup" < 1 := by
  have struck : Run raceStep TestsInTime (startMachine 1 [⟨"primary", [.tcp, .udp]⟩, ⟨"backup", [.tcp, .udp]⟩]) _ :=
    Run.next (.strike 0 "primary") Run.refl trivial rfl
  have tested := struck.next (RaceEvent.testChecking 0) (fun updated => nomatch updated) rfl
  have switched := tested.next (RaceEvent.switch 0) trivial rfl
  refine ⟨_, rfl, rfl, rests_on_alive_nodes 1 _ (Nat.le_refl 1) _ switched ⟨rfl, ?_⟩ .tcp ⟨"backup", [.tcp, .udp]⟩ rfl⟩
  intro callback
  cases callback with
  | zero | succ => rfl

end
end OtunKernel.Group
