import OtunKernel.Group.Failover

namespace OtunKernel.Group

open Lib Net

inductive Recorded where
  | failed (realTag : String)
  | succeeded (realTag : String)
  | reset
deriving DecidableEq

structure StrikeMachine where
  group : FailoverGroup
  history : String → Option UInt16
  log : List Recorded := []

def recentFailures (realTag : String) (log : List Recorded) : Nat :=
  (log.takeWhile (fun entry => entry != .succeeded realTag && entry != .reset)).count (.failed realTag)

def FailoverGroup.resets (group : FailoverGroup) (network : Network) : Bool :=
  !(group.selected network).any (fun outbound => !group.condemned outbound.realTag) && (group.firstAlive network).isNone

def FailoverGroup.regroup (group : FailoverGroup) (now : Node → Node) : FailoverGroup :=
  { group with
    outbounds := group.outbounds.map now
    selectedOutboundTCP := group.selectedOutboundTCP.map now
    selectedOutboundUDP := group.selectedOutboundUDP.map now }

namespace StrikeMachine

def logReset (machine : StrikeMachine) (network : Network) : List Recorded :=
  if machine.group.resets network then .reset :: machine.log else machine.log

def selectFailover (machine : StrikeMachine) (network : Network) : StrikeMachine :=
  { machine with group := (machine.group.selectFailover network).2, log := machine.logReset network }

def updateSelected (machine : StrikeMachine) (network : Network) : StrikeMachine :=
  { machine with group := (machine.group.updateSelected network).2, log := machine.logReset network }

def performUpdateCheck (machine : StrikeMachine) : StrikeMachine := (machine.updateSelected .tcp).updateSelected .udp

def failoverCheckTargets (machine : StrikeMachine) : StrikeMachine := (machine.selectFailover .tcp).selectFailover .udp

def addStrike (machine : StrikeMachine) (realTag : String) : StrikeMachine :=
  let struck := machine.group.addStrike realTag
  { group := struck
    history :=
      if struck.strikes realTag < struck.failoverStrikes then machine.history else Function.update machine.history realTag none
    log := .failed realTag :: machine.log }

def clearStrikes (machine : StrikeMachine) (realTag : String) : StrikeMachine :=
  { machine with group := machine.group.clearStrikes realTag, log := .succeeded realTag :: machine.log }

def stored (machine : StrikeMachine) (realTag : String) (delay : UInt16) : StrikeMachine :=
  { machine with history := Function.update machine.history realTag (some delay) }

end StrikeMachine

-- A probe of this group or of one that has it as a member, with the delay if
-- it succeeds; an update check, at the end of a round or of a callback; the
-- start of a round; a connection while nothing is selected.
inductive StrikeEvent where
  | ownProbe (realTag : String) (result : Option UInt16)
  | externalProbe (realTag : String) (failed : Bool)
  | updateCheck
  | checkTargets
  | dial (network : Network)
  | storeHistory (history : String → Option UInt16)
  | regroup (now : Node → Node)

def strikeStep : System StrikeMachine StrikeEvent
  | machine, .ownProbe realTag none => some (machine.addStrike realTag)
  | machine, .ownProbe realTag (some delay) => some ((machine.clearStrikes realTag).stored realTag delay)
  | machine, .externalProbe realTag true => some (machine.addStrike realTag)
  | machine, .externalProbe realTag false => some (machine.clearStrikes realTag)
  | machine, .updateCheck => some machine.performUpdateCheck
  | machine, .checkTargets => some machine.failoverCheckTargets
  | machine, .dial network => if (machine.group.selected network).isNone then some (machine.selectFailover network) else none
  | machine, .storeHistory history => some { machine with history := history }
  | machine, .regroup now => some { machine with group := machine.group.regroup now }

theorem recent_failed (realTag other : String) (log : List Recorded) :
    recentFailures realTag (.failed other :: log) = recentFailures realTag log + (if other = realTag then 1 else 0) := by
  rw [recentFailures, List.takeWhile_cons_of_pos (by simp)]
  grind [recentFailures]

theorem recent_succeeded (realTag other : String) (log : List Recorded) :
    recentFailures realTag (.succeeded other :: log) = if other = realTag then 0 else recentFailures realTag log := by
  by_cases same : other = realTag
  · simp [same, recentFailures]
  · simp [same, recentFailures]

theorem recent_reset (realTag : String) (log : List Recorded) : recentFailures realTag (.reset :: log) = 0 := by
  rfl

section
variable {group : FailoverGroup} {network : Network} {node next : Node}

section
variable (group : FailoverGroup)

theorem select_failover_state (network : Network) :
    (group.selectFailover network).2 = if group.resets network then group.resetStrikes else group := by
  rw [FailoverGroup.selectFailover, FailoverGroup.resets]
  by_cases alive : (group.selected network).any (fun outbound => !group.condemned outbound.realTag) = true
  · grind
  rw [Bool.eq_false_iff.mpr alive]
  cases group.firstAlive network with
  | none | some => rfl

theorem update_selected_state (network : Network) :
    ∃ outbound : Option Node, (group.updateSelected network).2 =
      match outbound with
      | none => (group.selectFailover network).2
      | some outbound => (group.selectFailover network).2.setSelected outbound network := by
  rw [FailoverGroup.updateSelected]
  obtain ⟨chosen, _⟩ := group.selectFailover network
  cases chosen with
  | none => exact ⟨none, rfl⟩
  | some outbound =>
    dsimp only
    split
    · exact ⟨none, rfl⟩
    · exact ⟨some outbound, rfl⟩

theorem set_selected_strikes (outbound : Node) (network : Network) :
    (group.setSelected outbound network).strikes = group.strikes ∧ (group.setSelected outbound network).outbounds = group.outbounds ∧
      (group.setSelected outbound network).failoverStrikes = group.failoverStrikes := by
  cases network <;> exact ⟨rfl, rfl, rfl⟩

theorem update_selected_frame (network : Network) :
    (group.updateSelected network).2.strikes = (if group.resets network then fun _ => 0 else group.strikes) ∧
      (group.updateSelected network).2.outbounds = group.outbounds ∧
      (group.updateSelected network).2.failoverStrikes = group.failoverStrikes := by
  obtain ⟨outbound, state⟩ := update_selected_state group network
  rw [state, select_failover_state]
  by_cases resets : group.resets network = true
  · simp only [if_pos resets]
    cases outbound with
    | none => exact ⟨rfl, rfl, rfl⟩
    | some outbound => exact set_selected_strikes group.resetStrikes outbound network
  grind [set_selected_strikes]

theorem update_selected_other {network other : Network} (different : other ≠ network) :
    (group.updateSelected network).2.selected other = group.selected other := by
  obtain ⟨outbound, state⟩ := update_selected_state group network
  have kept : (group.selectFailover network).2.selected other = group.selected other := by
    rw [select_failover_state]
    split
    · cases other <;> rfl
    · rfl
  rw [state]
  cases outbound with
  | none => exact kept
  | some =>
    rw [← kept]
    cases network <;> cases other <;> first | rfl | contradiction

end

theorem update_selected_changes (chosen : group.selected network = some node)
    (moved : (group.updateSelected network).2.selected network = some next) (different : next ≠ node) :
    group.condemned node.realTag = true ∧ (group.firstAlive network = some next ∨
        group.firstAlive network = none ∧ group.outbounds.find? (fun detour => detour.network.contains network) = some next) := by
  cases dead : group.condemned node.realTag with
  | false => grind [update_alive]
  | true =>
    refine ⟨rfl, ?_⟩
    have selects := select_dead (by
      intro _ current
      rw [← Option.some.inj (chosen.symm.trans current)]
      exact dead)
    have set_same : ∀ (state : FailoverGroup) (outbound : Node),
        (state.setSelected outbound network).selected network = some outbound := by
      intro state outbound
      cases network <;> rfl
    cases alive : group.firstAlive network with
    | some =>
      rw [alive] at selects
      rw [update_selected_eq selects, set_same] at moved
      exact .inl moved
    | none =>
      rw [alive] at selects
      cases first : group.outbounds.find? (fun detour => detour.network.contains network) with
      | none =>
        rw [first] at selects
        have unmoved : (group.updateSelected network).2 = group.resetStrikes := by rw [FailoverGroup.updateSelected, selects]
        have still : group.resetStrikes.selected network = group.selected network := by cases network <;> rfl
        grind
      | some =>
        rw [first] at selects
        simpa [update_selected_eq selects, set_same] using moved

end

section
variable {machine result : StrikeMachine} {failoverStrikes : Nat} {event : StrikeEvent}

structure Counted (failoverStrikes : Nat) (machine : StrikeMachine) : Prop where
  limit : machine.group.failoverStrikes = failoverStrikes
  strikes : ∀ realTag, machine.group.strikes realTag = recentFailures realTag machine.log

section
variable (counted : Counted failoverStrikes machine)
include counted

theorem counted_reset (network : Network) (realTag : String) :
    (if machine.group.resets network then fun _ => 0 else machine.group.strikes) realTag =
      recentFailures realTag (machine.logReset network) := by
  rw [StrikeMachine.logReset]
  by_cases resets : machine.group.resets network = true
  · rw [if_pos resets, if_pos resets, recent_reset]
  · simpa [resets, resets] using counted.strikes realTag

theorem counted_update (network : Network) : Counted failoverStrikes (machine.updateSelected network) := by
  obtain ⟨strikes, _, limit⟩ := update_selected_frame machine.group network
  refine ⟨limit.trans counted.limit, ?_⟩
  intro realTag
  rw [StrikeMachine.updateSelected, strikes]
  exact counted_reset counted network realTag

theorem counted_select (network : Network) : Counted failoverStrikes (machine.selectFailover network) := by
  have state := select_failover_state machine.group network
  constructor
  · rw [StrikeMachine.selectFailover, state, ← counted.limit]
    split <;> rfl
  intro realTag
  rw [StrikeMachine.selectFailover, state, ← counted_reset counted network realTag]
  split <;> rfl

theorem counted_add (realTag : String) : Counted failoverStrikes (machine.addStrike realTag) := by
  refine ⟨counted.limit, ?_⟩
  intro other
  rw [StrikeMachine.addStrike, recent_failed, ← counted.strikes other]
  by_cases same : other = realTag
  · simp [same, FailoverGroup.addStrike]
  · simp [FailoverGroup.addStrike, same, Ne.symm same]

theorem counted_clear (realTag : String) : Counted failoverStrikes (machine.clearStrikes realTag) := by
  refine ⟨counted.limit, ?_⟩
  intro other
  rw [StrikeMachine.clearStrikes, recent_succeeded, ← counted.strikes other]
  by_cases same : other = realTag
  · simp [same, FailoverGroup.clearStrikes]
  · simp [FailoverGroup.clearStrikes, same, Ne.symm same]

theorem counted_step (taken : strikeStep machine event = some result) : Counted failoverStrikes result := by
  revert taken
  fun_cases strikeStep machine event <;> rintro ⟨⟩
  · exact counted_add counted _
  · rename_i realTag _
    have cleared := counted_clear counted realTag
    exact ⟨cleared.limit, cleared.strikes⟩
  · exact counted_add counted _
  · exact counted_clear counted _
  · exact counted_update (counted_update counted .tcp) .udp
  · exact counted_select (counted_select counted .tcp) .udp
  · exact counted_select counted _
  · exact ⟨counted.limit, counted.strikes⟩
  · exact ⟨counted.limit, counted.strikes⟩

end

theorem select_failover_selected (machine : StrikeMachine) (choosing network : Network) :
    (machine.selectFailover choosing).group.selected network = machine.group.selected network := by
  rw [StrikeMachine.selectFailover, select_failover_state]
  split
  · cases network <;> rfl
  · rfl

theorem step_keeps_selection (taken : strikeStep machine event = some result) (network : Network)
    (other_event : event ≠ .updateCheck) (fixed : ∀ now, event ≠ .regroup now) :
    result.group.selected network = machine.group.selected network := by
  cases event with
  | ownProbe _ outcome =>
    cases outcome with
    | none | some => cases taken; cases network <;> rfl
  | externalProbe _ failed =>
    cases failed with
    | true | false => cases taken; cases network <;> rfl
  | updateCheck => exact absurd rfl other_event
  | checkTargets =>
    cases taken
    rw [StrikeMachine.failoverCheckTargets, select_failover_selected, select_failover_selected]
  | dial choosing => grind [strikeStep, select_failover_selected]
  | storeHistory => cases taken; rfl
  | regroup now => exact absurd rfl (fixed now)

theorem update_check_at (machine : StrikeMachine) (network : Network) :
    ∃ before : FailoverGroup, machine.performUpdateCheck.group.selected network = (before.updateSelected network).2.selected network ∧
      before.selected network = machine.group.selected network ∧ before.outbounds = machine.group.outbounds ∧
      before.failoverStrikes = machine.group.failoverStrikes ∧
      (before.strikes = machine.group.strikes ∨ before.strikes = fun _ => 0) := by
  cases network with
  | tcp => exact ⟨machine.group, update_selected_other _ (by decide), rfl, rfl, rfl, .inl rfl⟩
  | udp =>
    obtain ⟨strikes, outbounds, limit⟩ := update_selected_frame machine.group .tcp
    refine ⟨(machine.updateSelected .tcp).group, rfl, update_selected_other _ (by decide), outbounds, limit, ?_⟩
    rw [StrikeMachine.updateSelected, strikes]
    split
    · exact .inr rfl
    · exact .inl rfl

theorem failover_switches_after_strikes {failoverStrikes : Nat} (positive : 1 ≤ failoverStrikes) (outbounds : List Node)
    (history : String → Option UInt16) {machine : StrikeMachine}
    (run : Run strikeStep anyStep
      { group := { failoverStrikes := failoverStrikes, outbounds := outbounds }, history := history } machine) (network : Network) :
    (∀ node next, machine.group.selected network = some node → machine.performUpdateCheck.group.selected network = some next →
      next ≠ node →
        failoverStrikes ≤ recentFailures node.realTag machine.log ∧
        (machine.group.outbounds.find? (fun detour =>
            detour.network.contains network && decide (recentFailures detour.realTag machine.log < failoverStrikes)) = some next ∨
          (∀ detour ∈ machine.group.outbounds, detour.network.contains network = true →
            failoverStrikes ≤ recentFailures detour.realTag machine.log) ∧
            machine.group.outbounds.find? (fun detour => detour.network.contains network) = some next)) ∧
    (∀ node, machine.group.selected network = some node → recentFailures node.realTag machine.log < failoverStrikes →
      ∀ history, ({ machine with history := history }).performUpdateCheck.group.selected network = some node) ∧
    ∀ event result, strikeStep machine event = some result → event ≠ .updateCheck → (∀ now, event ≠ .regroup now) →
      result.group.selected network = machine.group.selected network := by
  have counted : Counted failoverStrikes machine :=
    run.invariant (Counted failoverStrikes) ⟨rfl, fun _ => rfl⟩ (fun _ _ _ counted _ taken => counted_step counted taken)
  have condemned : ∀ before : FailoverGroup, before.failoverStrikes = machine.group.failoverStrikes →
      before.strikes = machine.group.strikes → ∀ realTag,
        before.condemned realTag = decide (failoverStrikes ≤ recentFailures realTag machine.log) := by
    intro before limit strikes realTag
    rw [FailoverGroup.condemned, limit, strikes, counted.limit, counted.strikes]
  have fresh : ∀ before : FailoverGroup, before.failoverStrikes = machine.group.failoverStrikes →
      (before.strikes = fun _ => 0) → ∀ realTag, before.condemned realTag = false := by
    intro before limit strikes realTag
    rw [FailoverGroup.condemned, limit, strikes, counted.limit]
    grind
  refine ⟨?_, ?_, fun event result taken => step_keeps_selection taken network⟩
  · intro node next chosen moved different
    obtain ⟨before, same, selection, members, limit, strikes⟩ := update_check_at machine network
    rw [same] at moved
    rw [← selection] at chosen
    obtain ⟨dead, target⟩ := update_selected_changes chosen moved different
    rcases strikes with strikes | strikes
    · simp only [FailoverGroup.firstAlive, condemned before limit strikes, members, List.find?_eq_none] at dead target
      grind
    · simp_all
  intro node chosen few history
  obtain ⟨before, same, selection, _, limit, strikes⟩ := update_check_at { machine with history := history } network
  have alive : before.condemned node.realTag = false := by grind
  grind [update_alive]

theorem failover_switches_after_strikes_example :
    ∃ machine, execute strikeStep
        { group := { failoverStrikes := 2, outbounds := [⟨"primary", [.tcp]⟩, ⟨"backup", [.tcp]⟩] }, history := fun _ => none }
        [.updateCheck, .ownProbe "primary" none, .externalProbe "primary" true] = some machine ∧
      machine.group.selected .tcp = some ⟨"primary", [.tcp]⟩ ∧
      machine.performUpdateCheck.group.selected .tcp = some ⟨"backup", [.tcp]⟩ ∧ 2 ≤ recentFailures "primary" machine.log := by
  refine ⟨_, rfl, rfl, rfl, ?_⟩
  refine ((failover_switches_after_strikes (by decide) [⟨"primary", [.tcp]⟩, ⟨"backup", [.tcp]⟩] (fun _ => none)
    (run_of_execute [.updateCheck, .ownProbe "primary" none, .externalProbe "primary" true] _ _ ?_ rfl) .tcp).1
    ⟨"primary", [.tcp]⟩ ⟨"backup", [.tcp]⟩ rfl rfl (by decide)).1
  exact fun _ _ _ => trivial

end
end OtunKernel.Group
