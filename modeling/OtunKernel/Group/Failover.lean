import Mathlib.Data.List.Find
import OtunKernel.Lib.Runs
import OtunKernel.Net.Addr

namespace OtunKernel.Group

open Lib Net

structure Node where
  realTag : String
  network : List Network
deriving DecidableEq, Repr

-- A group in failover mode. A missing key of strikes reads as 0.
structure FailoverGroup where
  failoverStrikes : Nat
  outbounds : List Node
  strikes : String → Nat := fun _ => 0
  selectedOutboundTCP : Option Node := none
  selectedOutboundUDP : Option Node := none

namespace FailoverGroup

def selected (group : FailoverGroup) : Network → Option Node
  | .tcp => group.selectedOutboundTCP
  | .udp => group.selectedOutboundUDP

def setSelected (group : FailoverGroup) (outbound : Node) : Network → FailoverGroup
  | .tcp => { group with selectedOutboundTCP := some outbound }
  | .udp => { group with selectedOutboundUDP := some outbound }

def condemned (group : FailoverGroup) (realTag : String) : Bool := group.failoverStrikes ≤ group.strikes realTag

def addStrike (group : FailoverGroup) (realTag : String) : FailoverGroup :=
  { group with strikes := Function.update group.strikes realTag (group.strikes realTag + 1) }

def resetStrikes (group : FailoverGroup) : FailoverGroup := { group with strikes := fun _ => 0 }

def clearStrikes (group : FailoverGroup) (realTag : String) : FailoverGroup :=
  { group with strikes := Function.update group.strikes realTag 0 }

def firstAlive (group : FailoverGroup) (network : Network) : Option Node :=
  group.outbounds.find? (fun detour => detour.network.contains network && !group.condemned detour.realTag)

-- The second result of selectFailover and Select is true just when there is an
-- outbound. When all are condemned, selecting resets the strikes.
def selectFailover (group : FailoverGroup) (network : Network) : Option Node × FailoverGroup :=
  if (group.selected network).any (fun outbound => !group.condemned outbound.realTag) then (group.selected network, group)
  else
    match group.firstAlive network with
    | some detour => (some detour, group)
    | none => (group.outbounds.find? (fun detour => detour.network.contains network), group.resetStrikes)

def updateSelected (group : FailoverGroup) (network : Network) : Bool × FailoverGroup :=
  match group.selectFailover network with
  | (none, group) => (false, group)
  | (some outbound, group) =>
    if group.selected network = some outbound then (false, group)
    else ((group.selected network).isSome, group.setSelected outbound network)

-- The flag says whether the connections are interrupted.
def performUpdateCheck (group : FailoverGroup) : Bool × FailoverGroup :=
  let tcp := group.updateSelected .tcp
  let udp := tcp.2.updateSelected .udp
  (tcp.1 || udp.1, udp.2)

def addTarget (targets : List Node × FailoverGroup) (network : Network) : List Node × FailoverGroup :=
  match targets.2.selectFailover network with
  | (none, group) => (targets.1, group)
  | (some outbound, group) => (if targets.1.contains outbound then targets.1 else targets.1 ++ [outbound], group)

def failoverCheckTargets (group : FailoverGroup) : List Node × FailoverGroup :=
  [Network.tcp, Network.udp].foldl addTarget ([], group)

end FailoverGroup

inductive Probe where
  | skipped
  | failed
  | succeeded
deriving DecidableEq, Repr

namespace FailoverGroup

def recordProbe (group : FailoverGroup) (realTag : String) : Probe → FailoverGroup
  | .skipped => group
  | .failed => group.addStrike realTag
  | .succeeded => group.clearStrikes realTag

-- A whole round of urlTest. Targets with one real tag are tested once.
def urlTest (group : FailoverGroup) (probe : String → Probe) : FailoverGroup :=
  let targets := group.failoverCheckTargets
  let realTags := (targets.1.map Node.realTag).eraseDups
  (realTags.foldl (fun group realTag => group.recordProbe realTag (probe realTag)) targets.2).performUpdateCheck.2

def onExternalProbe (group : FailoverGroup) (realTag : String) (failed : Bool) : FailoverGroup :=
  if failed then
    let struck := group.addStrike realTag
    if struck.strikes realTag < group.failoverStrikes then struck else struck.performUpdateCheck.2
  else group.clearStrikes realTag

end FailoverGroup

inductive FailoverEvent where
  | round (probe : String → Probe)
  | external (realTag : String) (failed : Bool)

def failoverStep : System FailoverGroup FailoverEvent
  | group, .round probe => some (group.urlTest probe)
  | group, .external realTag failed => some (group.onExternalProbe realTag failed)

def startFailover (failoverStrikes : Nat) (outbounds : List Node) : FailoverGroup :=
  (FailoverGroup.performUpdateCheck { failoverStrikes := failoverStrikes, outbounds := outbounds }).2

variable {group : FailoverGroup} {node : Node}

section
variable {network : Network}

theorem select_alive (chosen : group.selected network = some node) (alive : group.condemned node.realTag = false) :
    group.selectFailover network = (some node, group) := by
  simp [FailoverGroup.selectFailover, chosen, Option.any_some, alive]

theorem select_dead (dead : ∀ node, group.selected network = some node → group.condemned node.realTag = true) :
    group.selectFailover network =
      match group.firstAlive network with
      | some detour => (some detour, group)
      | none => (group.outbounds.find? (fun detour => detour.network.contains network), group.resetStrikes) := by
  rw [FailoverGroup.selectFailover, if_neg]
  cases chosen : group.selected network with
  | none => exact Bool.false_ne_true
  | some node => simp_all

theorem reset_alive (positive : 1 ≤ group.failoverStrikes) (realTag : String) : group.resetStrikes.condemned realTag = false :=
  decide_eq_false (Nat.not_le_of_lt positive)

theorem select_result (positive : 1 ≤ group.failoverStrikes) (found : (group.selectFailover network).1 = some node) :
    (group.selectFailover network).2.condemned node.realTag = false := by
  by_cases alive : (group.selected network).any (fun outbound => !group.condemned outbound.realTag)
  · rw [FailoverGroup.selectFailover, if_pos alive] at found ⊢
    have chosen : group.selected network = some node := found
    rw [chosen] at alive
    simpa using alive
  rw [FailoverGroup.selectFailover, if_neg alive] at found ⊢
  cases next : group.firstAlive network with
  | some =>
    rw [next] at found
    cases found
    have usable := List.find?_some next
    simp only [Bool.and_eq_true, Bool.not_eq_true'] at usable
    exact usable.2
  | none => exact reset_alive positive node.realTag

theorem update_alive (chosen : group.selected network = some node) (alive : group.condemned node.realTag = false) :
    group.updateSelected network = (false, group) := by
  simp [FailoverGroup.updateSelected, select_alive chosen alive, chosen]

end

structure Members (outbounds : List Node) : Prop where
  both : ∀ node ∈ outbounds, ∀ network, network ∈ node.network
  distinct : (outbounds.map Node.realTag).Nodup

structure FailoverGroup.RestsOn (group : FailoverGroup) (node : Node) : Prop where
  tcp : group.selectedOutboundTCP = some node
  udp : group.selectedOutboundUDP = some node
  member : node ∈ group.outbounds
  alive : group.condemned node.realTag = false

section
variable {network : Network}

theorem rests_selected (rests : group.RestsOn node) : group.selected network = some node := by
  cases network with
  | tcp => exact rests.tcp
  | udp => exact rests.udp

theorem targets_single (rests : group.RestsOn node) : group.failoverCheckTargets = ([node], group) := by
  have chosen : ∀ network, group.selectFailover network = (some node, group) :=
    fun network => select_alive (rests_selected rests) rests.alive
  simp [FailoverGroup.failoverCheckTargets, FailoverGroup.addTarget, chosen]

theorem update_stays (rests : group.RestsOn node) : group.performUpdateCheck = (false, group) := by
  have kept : ∀ network, group.updateSelected network = (false, group) :=
    fun network => update_alive (rests_selected rests) rests.alive
  simp [FailoverGroup.performUpdateCheck, kept]

theorem set_selected_same (chosen : group.selected network = some node) : group.setSelected node network = group := by
  cases group with
  | mk _ _ _ tcp udp =>
    cases network with
    | tcp | udp =>
      cases chosen
      rfl

theorem update_selected_eq {result : FailoverGroup} (selects : group.selectFailover network = (some node, result)) :
    (group.updateSelected network).2 = result.setSelected node network := by
  rw [FailoverGroup.updateSelected, selects]
  dsimp only
  split
  · grind [set_selected_same]
  · rfl

variable {next primary : Node}

section
variable (members : Members group.outbounds)
include members

theorem first_alive_eq : group.firstAlive network = group.outbounds.find? (fun detour => !group.condemned detour.realTag) := by
  refine List.find?_congr (fun detour member => ?_)
  rw [List.contains_iff_mem.mpr (members.both detour member network), Bool.true_and]

theorem first_supporting : group.outbounds.find? (fun detour => detour.network.contains network) = group.outbounds.head? := by
  cases listed : group.outbounds with
  | nil => rfl
  | cons primary => grind [members.both, List.contains_iff_mem]

theorem update_selected_moves (chosen : group.selected network = some node) (dead : group.condemned node.realTag = true)
    (alive : group.outbounds.find? (fun detour => !group.condemned detour.realTag) = some next) :
    (group.updateSelected network).2 = group.setSelected next network := by
  apply update_selected_eq
  rw [select_dead, first_alive_eq members, alive]
  intro _ current
  simp [← Option.some.inj (chosen.symm.trans current), dead]

theorem update_selected_resets (chosen : group.selected network = some node) (dead : group.condemned node.realTag = true)
    (none_alive : group.outbounds.find? (fun detour => !group.condemned detour.realTag) = none)
    (first : group.outbounds.head? = some primary) :
    (group.updateSelected network).2 = group.resetStrikes.setSelected primary network := by
  apply update_selected_eq
  rw [select_dead, first_alive_eq members, none_alive, first_supporting members, first]
  intro _ current
  simp [← Option.some.inj (chosen.symm.trans current), dead]

theorem update_moves (tcp : group.selectedOutboundTCP = some node)
    (udp : group.selectedOutboundUDP = some node) (dead : group.condemned node.realTag = true)
    (alive : group.outbounds.find? (fun detour => !group.condemned detour.realTag) = some next) :
    group.performUpdateCheck.2 = (group.setSelected next .tcp).setSelected next .udp := by
  have chosenTCP : group.selected .tcp = some node := tcp
  have chosenUDP : (group.setSelected next .tcp).selected .udp = some node := udp
  rw [FailoverGroup.performUpdateCheck, update_selected_moves members chosenTCP dead alive]
  exact update_selected_moves members chosenUDP dead alive

theorem update_splits (positive : 1 ≤ group.failoverStrikes) (tcp : group.selectedOutboundTCP = some node)
    (udp : group.selectedOutboundUDP = some node) (dead : group.condemned node.realTag = true)
    (none_alive : group.outbounds.find? (fun detour => !group.condemned detour.realTag) = none)
    (first : group.outbounds.head? = some primary) : group.performUpdateCheck.2 = group.resetStrikes.setSelected primary .tcp := by
  have chosenTCP : group.selected .tcp = some node := tcp
  have chosenUDP : (group.resetStrikes.setSelected primary .tcp).selected .udp = some node := udp
  have alive := reset_alive positive node.realTag
  rw [FailoverGroup.performUpdateCheck, update_selected_resets members chosenTCP dead none_alive first,
    update_alive chosenUDP alive]

end
end

def FailoverEvent.record (group : FailoverGroup) (node : Node) : FailoverEvent → FailoverGroup
  | .round probe => group.recordProbe node.realTag (probe node.realTag)
  | .external realTag failed => group.recordProbe realTag (if failed then .failed else .succeeded)

def FailoverEvent.strikes (node : Node) : FailoverEvent → Prop
  | .round probe => probe node.realTag = .failed
  | .external realTag failed => realTag = node.realTag ∧ failed = true

structure Exhausts (group : FailoverGroup) (node : Node) (event : FailoverEvent) : Prop where
  strikes : event.strikes node
  enough : group.failoverStrikes ≤ group.strikes node.realTag + 1
  others : ∀ other ∈ group.outbounds, other ≠ node → group.condemned other.realTag = true

def KeepsTogether (group : FailoverGroup) (event : FailoverEvent) : Prop :=
  ∀ node, group.selectedOutboundTCP = some node → Exhausts group node event → group.outbounds.head? = some node

section
variable {group result : FailoverGroup} {event : FailoverEvent}

theorem record_probe_other {realTag other : String} (probe : Probe) (different : other ≠ realTag) :
    (group.recordProbe realTag probe).condemned other = group.condemned other := by
  cases probe with
  | skipped => rfl
  | failed =>
    simp only [FailoverGroup.recordProbe, FailoverGroup.addStrike, FailoverGroup.condemned, Function.update_of_ne different]
  | succeeded =>
    simp only [FailoverGroup.recordProbe, FailoverGroup.clearStrikes, FailoverGroup.condemned, Function.update_of_ne different]

theorem record_other {other : Node} (strikes : event.strikes node) (different : other.realTag ≠ node.realTag) :
    (event.record group node).condemned other.realTag = group.condemned other.realTag := by
  cases event with
  | round => exact record_probe_other _ different
  | external => exact record_probe_other _ (fun same => different (same.trans strikes.1))

theorem record_probe_frame (group : FailoverGroup) (realTag : String) (probe : Probe) :
    (group.recordProbe realTag probe).outbounds = group.outbounds ∧
    (group.recordProbe realTag probe).failoverStrikes = group.failoverStrikes ∧
    (group.recordProbe realTag probe).selectedOutboundTCP = group.selectedOutboundTCP ∧
    (group.recordProbe realTag probe).selectedOutboundUDP = group.selectedOutboundUDP := by
  cases probe <;> exact ⟨rfl, rfl, rfl, rfl⟩

theorem record_frame (group : FailoverGroup) (node : Node) (event : FailoverEvent) :
    (event.record group node).outbounds = group.outbounds ∧ (event.record group node).failoverStrikes = group.failoverStrikes ∧
    (event.record group node).selectedOutboundTCP = group.selectedOutboundTCP ∧
    (event.record group node).selectedOutboundUDP = group.selectedOutboundUDP := by
  cases event with
  | round | external => exact record_probe_frame group _ _

theorem record_rests (rests : group.RestsOn node) (alive : (event.record group node).condemned node.realTag = false) :
    (event.record group node).RestsOn node := by
  obtain ⟨outbounds, _, tcp, udp⟩ := record_frame group node event
  exact ⟨tcp.trans rests.tcp, udp.trans rests.udp, outbounds ▸ rests.member, alive⟩

variable (members : Members group.outbounds) (positive : 1 ≤ group.failoverStrikes) (rests : group.RestsOn node)
include positive

theorem record_probe_condemned {realTag : String} (probe : Probe) (alive : group.condemned realTag = false) :
    (group.recordProbe realTag probe).condemned realTag = true ↔
      probe = .failed ∧ group.failoverStrikes ≤ group.strikes realTag + 1 := by
  cases probe with
  | skipped => simp [FailoverGroup.recordProbe, alive]
  | failed => simp [FailoverGroup.recordProbe, FailoverGroup.addStrike, FailoverGroup.condemned]
  | succeeded =>
    simp only [FailoverGroup.recordProbe, FailoverGroup.clearStrikes, FailoverGroup.condemned, Function.update_self,
      decide_eq_true_eq, reduceCtorEq, false_and, iff_false]
    omega

theorem record_condemned (event : FailoverEvent) (alive : group.condemned node.realTag = false) :
    (event.record group node).condemned node.realTag = true ↔
      event.strikes node ∧ group.failoverStrikes ≤ group.strikes node.realTag + 1 := by
  cases event with
  | round probe => exact record_probe_condemned positive (probe node.realTag) alive
  | external realTag failed =>
    grind [record_probe_condemned, FailoverEvent.strikes, FailoverEvent.record, record_probe_other]

include rests

theorem step_eq_update : failoverStep group event = some (event.record group node).performUpdateCheck.2 := by
  have unmoved : (event.record group node).condemned node.realTag = false →
      (event.record group node).performUpdateCheck.2 = event.record group node := by
    intro alive
    rw [update_stays (record_rests rests alive)]
  have condemned := record_condemned positive event rests.alive
  cases event with
  | round =>
    rw [failoverStep, FailoverGroup.urlTest, targets_single rests]
    rfl
  | external _ failed =>
    cases failed with
    | false =>
      rw [unmoved]
      · rfl
      · exact Bool.eq_false_iff.mpr (fun dead => nomatch (condemned.mp dead).1.2)
    | true =>
      rw [failoverStep, FailoverGroup.onExternalProbe, if_pos rfl]
      dsimp only
      split
      · rename_i few
        rw [unmoved]
        · rfl
        refine Bool.eq_false_iff.mpr (fun dead => ?_)
        obtain ⟨⟨same, _⟩, _⟩ := condemned.mp dead
        subst same
        simp only [FailoverGroup.addStrike, Function.update_self] at few
        omega
      · rfl

include members

theorem exhausts_iff (event : FailoverEvent) : ((event.record group node).condemned node.realTag = true ∧
        (event.record group node).outbounds.find? (fun detour => !(event.record group node).condemned detour.realTag) = none) ↔
      Exhausts group node event := by
  have outbounds := (record_frame group node event).1
  rw [record_condemned positive event rests.alive, List.find?_eq_none, outbounds]
  simp only [Bool.not_eq_true', Bool.not_eq_false]
  constructor
  · rintro ⟨⟨strikes, enough⟩, all⟩
    refine ⟨strikes, enough, ?_⟩
    intro other member different
    have tags : other.realTag ≠ node.realTag :=
      fun same => different (List.inj_on_of_nodup_map members.distinct member rests.member same)
    rw [← record_other strikes tags]
    exact all other member
  intro exhausts
  refine ⟨⟨exhausts.strikes, exhausts.enough⟩, ?_⟩
  intro other member
  by_cases same : other = node
  · simpa [same] using (record_condemned positive event rests.alive).mpr ⟨exhausts.strikes, exhausts.enough⟩
  have tags : other.realTag ≠ node.realTag :=
    fun equal => same (List.inj_on_of_nodup_map members.distinct member rests.member equal)
  simpa [record_other exhausts.strikes tags] using exhausts.others other member same

theorem step_outcome (taken : failoverStep group event = some result) :
    result.outbounds = group.outbounds ∧ result.failoverStrikes = group.failoverStrikes ∧
      ((¬ Exhausts group node event ∧ ∃ next, result.RestsOn next) ∨
        (Exhausts group node event ∧ (∀ realTag, result.condemned realTag = false) ∧
          result.selectedOutboundTCP = group.outbounds.head? ∧ result.selectedOutboundUDP = some node)) := by
  rw [step_eq_update positive rests] at taken
  cases taken
  obtain ⟨outbounds, limit, tcp, udp⟩ := record_frame group node event
  have exhausted := exhausts_iff members positive rests event
  have recordedMembers : Members (event.record group node).outbounds := outbounds ▸ members
  by_cases dead : (event.record group node).condemned node.realTag = true
  · cases alive : (event.record group node).outbounds.find? (fun detour => !(event.record group node).condemned detour.realTag) with
    | some next =>
      rw [update_moves recordedMembers (tcp.trans rests.tcp) (udp.trans rests.udp) dead alive]
      refine ⟨outbounds, limit, .inl ⟨?_, next, rfl, rfl, List.mem_of_find?_eq_some alive, ?_⟩⟩
      · grind
      have nextAlive : (event.record group node).condemned next.realTag = false := by simpa using List.find?_some alive
      exact nextAlive
    | none =>
      obtain ⟨primary, first⟩ : ∃ primary, group.outbounds.head? = some primary :=
        Option.ne_none_iff_exists'.mp (fun empty => List.ne_nil_of_mem rests.member (List.head?_eq_none_iff.mp empty))
      rw [update_splits recordedMembers (limit ▸ positive) (tcp.trans rests.tcp) (udp.trans rests.udp) dead alive
        (outbounds ▸ first)]
      refine ⟨outbounds, limit, .inr ⟨exhausted.mp ⟨dead, alive⟩, ?_, first.symm, udp.trans rests.udp⟩⟩
      exact reset_alive (limit ▸ positive)
  rw [update_stays (record_rests rests (Bool.eq_false_iff.mpr dead))]
  refine ⟨outbounds, limit, .inl ⟨?_, node, record_rests rests (Bool.eq_false_iff.mpr dead)⟩⟩
  grind

end

section
variable {failoverStrikes : Nat} {primary : Node} {backups : List Node}

theorem fresh_selects {network : Network} (members : Members group.outbounds) (positive : 1 ≤ group.failoverStrikes)
    (listed : group.outbounds = primary :: backups) (unset : group.selected network = none)
    (unstruck : group.strikes = fun _ => 0) : (group.updateSelected network).2 = group.setSelected primary network := by
  have alive : group.condemned primary.realTag = false := by
    simpa [FailoverGroup.condemned, unstruck] using decide_eq_false (Nat.not_le_of_lt positive)
  grind [update_selected_eq, select_dead, first_alive_eq]

theorem start_rests (positive : 1 ≤ failoverStrikes) (members : Members (primary :: backups)) :
    startFailover failoverStrikes (primary :: backups) =
      ⟨failoverStrikes, primary :: backups, fun _ => 0, some primary, some primary⟩ := by
  let fresh : FailoverGroup := { failoverStrikes := failoverStrikes, outbounds := primary :: backups }
  have tcp : (fresh.updateSelected .tcp).2 = fresh.setSelected primary .tcp :=
    fresh_selects members positive rfl rfl rfl
  have udp : ((fresh.setSelected primary .tcp).updateSelected .udp).2 =
      (fresh.setSelected primary .tcp).setSelected primary .udp :=
    fresh_selects members positive rfl rfl rfl
  change ((fresh.updateSelected .tcp).2.updateSelected .udp).2 = _
  rw [tcp, udp]
  rfl

theorem run_rests (positive : 1 ≤ failoverStrikes) (members : Members (primary :: backups))
    (run : Run failoverStep KeepsTogether (startFailover failoverStrikes (primary :: backups)) group) :
    group.outbounds = primary :: backups ∧ group.failoverStrikes = failoverStrikes ∧ ∃ node, group.RestsOn node := by
  refine run.invariant (fun group => group.outbounds = primary :: backups ∧ group.failoverStrikes = failoverStrikes ∧
    ∃ node, group.RestsOn node) ?_ ?_
  · rw [start_rests positive members]
    exact ⟨rfl, rfl, primary, rfl, rfl, List.mem_cons_self, decide_eq_false (Nat.not_le_of_lt positive)⟩
  rintro _ _ _ ⟨outbounds, limit, node, rests⟩ keeps taken
  obtain ⟨sameOutbounds, sameLimit, next⟩ :=
    step_outcome (outbounds ▸ members) (limit ▸ positive) rests taken
  refine ⟨sameOutbounds.trans outbounds, sameLimit.trans limit, ?_⟩
  rcases next with ⟨_, rest⟩ | ⟨exhausts, alive, tcp, udp⟩
  · exact rest
  have first := keeps node rests.tcp exhausts
  exact ⟨node, tcp.trans first, udp, sameOutbounds ▸ rests.member, alive node.realTag⟩

theorem failover_networks_together (failoverStrikes : Nat) (primary : Node) (backups : List Node)
    (positive : 1 ≤ failoverStrikes) (members : Members (primary :: backups)) (group : FailoverGroup)
    (run : Run failoverStep KeepsTogether (startFailover failoverStrikes (primary :: backups)) group) :
    (∃ node, group.selectedOutboundTCP = some node ∧ group.selectedOutboundUDP = some node ∧
      group.failoverCheckTargets.1 = [node]) ∧
    ∀ event result, failoverStep group event = some result →
      (result.selectedOutboundTCP = result.selectedOutboundUDP ↔ KeepsTogether group event) := by
  obtain ⟨outbounds, limit, node, rests⟩ := run_rests positive members run
  refine ⟨⟨node, rests.tcp, rests.udp, by rw [targets_single rests]⟩, ?_⟩
  intro event result taken
  obtain ⟨_, _, next⟩ := step_outcome (outbounds ▸ members) (limit ▸ positive) rests taken
  rcases next with ⟨spared, next, rest⟩ | ⟨exhausts, _, tcp, udp⟩
  · apply iff_of_true (rest.tcp.trans rest.udp.symm)
    intro other chosen exhausts
    grind [rests.tcp]
  rw [tcp, udp]
  constructor
  · intro first other chosen _
    rw [first, ← chosen, rests.tcp]
  intro keeps
  exact keeps node rests.tcp exhausts

-- Both nodes fail once and are condemned. TCP goes back to the first one, UDP
-- stays on the second, and the next round tests both.
theorem all_down_splits_networks :
    ∃ group, execute failoverStep (startFailover 1 [⟨"primary", [.tcp, .udp]⟩, ⟨"backup", [.tcp, .udp]⟩])
        [.round (fun _ => .failed), .round (fun _ => .failed)] = some group ∧
      group.selectedOutboundTCP = some ⟨"primary", [.tcp, .udp]⟩ ∧
      group.selectedOutboundUDP = some ⟨"backup", [.tcp, .udp]⟩ ∧
      group.failoverCheckTargets.1 = [⟨"primary", [.tcp, .udp]⟩, ⟨"backup", [.tcp, .udp]⟩] :=
  ⟨_, rfl, rfl, rfl, rfl⟩

theorem primary_down_moves_both :
    ∃ group, execute failoverStep (startFailover 1 [⟨"primary", [.tcp, .udp]⟩, ⟨"backup", [.tcp, .udp]⟩])
        [.round (fun _ => .failed)] = some group ∧
      group.selectedOutboundTCP = some ⟨"backup", [.tcp, .udp]⟩ ∧
      ∃ node, group.selectedOutboundTCP = some node ∧ group.selectedOutboundUDP = some node ∧
        group.failoverCheckTargets.1 = [node] := by
  refine ⟨_, rfl, rfl, (failover_networks_together 1 ⟨"primary", [.tcp, .udp]⟩ [⟨"backup", [.tcp, .udp]⟩]
    (Nat.le_refl 1) ⟨?_, by decide⟩ _ (Run.next (.round (fun _ => .failed)) Run.refl ?_ rfl)).1⟩
  · intro node member network
    rcases List.mem_pair.mp member with rfl | rfl <;> cases network <;> decide
  intro node chosen _
  exact chosen

end
end OtunKernel.Group
