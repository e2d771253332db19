import OtunKernel.Net.Addr

namespace OtunKernel.Group

open Net

-- A group in plain mode. Outbounds are compared by identity; history holds the
-- delays by real tag.
structure URLTestGroup (ν : Type) where
  realTag : ν → String
  network : ν → List Network
  outbounds : List ν
  tolerance : UInt16
  history : String → Option UInt16
  selectedOutboundTCP : Option ν := none
  selectedOutboundUDP : Option ν := none

variable {ν : Type}

namespace URLTestGroup

def selected (group : URLTestGroup ν) : Network → Option ν
  | .tcp => group.selectedOutboundTCP
  | .udp => group.selectedOutboundUDP

def setSelected (group : URLTestGroup ν) (outbound : ν) : Network → URLTestGroup ν
  | .tcp => { group with selectedOutboundTCP := some outbound }
  | .udp => { group with selectedOutboundUDP := some outbound }

def supports (group : URLTestGroup ν) (network : Network) (detour : ν) : Bool := (group.network detour).contains network

abbrev Best (ν : Type) := Option ν × UInt16

def startBest (group : URLTestGroup ν) (network : Network) : Best ν :=
  match group.selected network with
  | none => (none, 0)
  | some outbound =>
    match group.history (group.realTag outbound) with
    | none => (none, 0)
    | some delay => (some outbound, delay)

def keepOrTake (tolerance : UInt16) (best : Best ν) (entry : ν × UInt16) : Best ν :=
  if best.2 = 0 ∨ entry.2 + tolerance < best.2 then (some entry.1, entry.2) else best

def considerDetour (group : URLTestGroup ν) (network : Network) (best : Best ν) (detour : ν) : Best ν :=
  if group.supports network detour then
    match group.history (group.realTag detour) with
    | none => best
    | some delay => keepOrTake group.tolerance best (detour, delay)
  else best

def select (group : URLTestGroup ν) (network : Network) : Option ν × Bool :=
  match (group.outbounds.foldl (group.considerDetour network) (group.startBest network)).1 with
  | some outbound => (some outbound, true)
  | none => (group.outbounds.find? (group.supports network), false)

def updateSelected [DecidableEq ν] (group : URLTestGroup ν) (network : Network) : URLTestGroup ν :=
  match group.select network with
  | (none, _) => group
  | (some outbound, found) =>
    if group.selected network = none ∨ (found = true ∧ group.selected network ≠ some outbound) then group.setSelected outbound network
    else group

def performUpdateCheck [DecidableEq ν] (group : URLTestGroup ν) : URLTestGroup ν := (group.updateSelected .tcp).updateSelected .udp

def entries (group : URLTestGroup ν) (network : Network) (outbounds : List ν) : List (ν × UInt16) :=
  outbounds.filterMap (fun detour =>
    if group.supports network detour then (group.history (group.realTag detour)).map (Prod.mk detour) else none)

structure HasEntry (group : URLTestGroup ν) (network : Network) (detour : ν) (delay : UInt16) : Prop where
  member : detour ∈ group.outbounds
  supported : group.supports network detour = true
  tested : group.history (group.realTag detour) = some delay

def WithinTolerance (group : URLTestGroup ν) (network : Network) (delay : UInt16) : Prop :=
  ∀ other otherDelay, group.HasEntry network other otherDelay → delay.toNat ≤ otherDelay.toNat + group.tolerance.toNat

structure RespectsTolerance (group : URLTestGroup ν) (network : Network) : Prop where
  supporting : (∃ detour ∈ group.outbounds, group.supports network detour = true) →
    ∃ detour ∈ group.outbounds, group.supports network detour = true ∧ (group.select network).1 = some detour
  within : (∃ detour delay, group.HasEntry network detour delay) →
    ∃ detour delay, (group.select network).1 = some detour ∧ group.HasEntry network detour delay ∧ group.WithinTolerance network delay
  stays : ∀ detour delay, group.selected network = some detour → group.HasEntry network detour delay →
    group.WithinTolerance network delay → (group.select network).1 = some detour

def MembersSelected (group : URLTestGroup ν) : Prop :=
  ∀ network detour, group.selected network = some detour → detour ∈ group.outbounds ∧ group.supports network detour = true

def startEntry (group : URLTestGroup ν) (network : Network) : Option (ν × UInt16) :=
  (group.selected network).bind (fun outbound => (group.history (group.realTag outbound)).map (Prod.mk outbound))

-- The rule in natural numbers: any entry is better than none, and one that is
-- lower by more than the tolerance is better than the one held.
def better (tolerance : UInt16) (held : Option (ν × UInt16)) (entry : ν × UInt16) : Option (ν × UInt16) :=
  match held with
  | none => some entry
  | some best => if entry.2.toNat + tolerance.toNat < best.2.toNat then some entry else some best

-- The test of the loop takes the entry exactly if the rule does.
def Decides (tolerance : UInt16) : Option (ν × UInt16) → ν × UInt16 → Prop
  | none, _ => True
  | some best, entry =>
    entry = best ∨ ((best.2 = 0 ∨ entry.2 + tolerance < best.2) ↔ entry.2.toNat + tolerance.toNat < best.2.toNat)

-- Each entry is tested against the one that the rule holds when it is met.
def DecidesEach (tolerance : UInt16) : Option (ν × UInt16) → List (ν × UInt16) → Prop
  | _, [] => True
  | held, entry :: rest => Decides tolerance held entry ∧ DecidesEach tolerance (better tolerance held entry) rest

end URLTestGroup

open URLTestGroup

variable {group : URLTestGroup ν} {network : Network} {outbounds : List ν} {detour : ν} {delay tolerance : UInt16}
  {listed : List (ν × UInt16)} {held : Option (ν × UInt16)} {best : ν × UInt16}

theorem fold_entries (outbounds : List ν) (best : Best ν) :
    outbounds.foldl (group.considerDetour network) best =
        (group.entries network outbounds).foldl (keepOrTake group.tolerance) best := by
  induction outbounds generalizing best with
  | nil => rfl
  | cons detour _ ih => grind [considerDetour, entries]

theorem has_entry_iff : group.HasEntry network detour delay ↔ (detour, delay) ∈ group.entries network group.outbounds := by
  have listed : (detour, delay) ∈ group.entries network group.outbounds ↔ detour ∈ group.outbounds ∧
      group.supports network detour = true ∧ group.history (group.realTag detour) = some delay := by
    simp [entries, List.mem_filterMap]
  rw [listed]
  exact ⟨fun entry => ⟨entry.member, entry.supported, entry.tested⟩, fun entry => ⟨entry.1, entry.2.1, entry.2.2⟩⟩

def bestOf (held : Option (ν × UInt16)) : Best ν := (held.map Prod.fst, (held.map Prod.snd).getD 0)

theorem keep_or_take_eq {entry : ν × UInt16} (decides : Decides tolerance held entry) :
    keepOrTake tolerance (bestOf held) entry = bestOf (better tolerance held entry) := by
  cases held with
  | none => rfl
  | some best =>
    rcases decides with rfl | same
    · have kept : better tolerance (some entry) entry = some entry := by simp [better]
      rw [kept]
      exact ite_self _
    · simp only [keepOrTake, bestOf, better, Option.map_some, Option.getD_some, same]
      split <;> rfl

theorem fold_eq (decides : DecidesEach tolerance held listed) :
    listed.foldl (keepOrTake tolerance) (bestOf held) = bestOf (listed.foldl (better tolerance) held) := by
  induction listed generalizing held with
  | nil => rfl
  | cons entry listed ih =>
    rw [List.foldl_cons, List.foldl_cons, keep_or_take_eq decides.1]
    exact ih decides.2

-- What the rule holds only gets lower.
theorem better_lower (tolerance : UInt16) (listed : List (ν × UInt16)) (best : ν × UInt16) :
    ∃ last, listed.foldl (better tolerance) (some best) = some last ∧ last.2.toNat ≤ best.2.toNat := by
  induction listed generalizing best with
  | nil => exact ⟨best, rfl, Nat.le_refl _⟩
  | cons entry listed ih =>
    rw [List.foldl_cons, better]
    split
    · obtain ⟨last, result, lower⟩ := ih entry
      exact ⟨last, result, by omega⟩
    · exact ih best

theorem better_within {entry : ν × UInt16} (tolerance : UInt16) (held : Option (ν × UInt16)) (member : entry ∈ listed) :
    ∃ last, listed.foldl (better tolerance) held = some last ∧ last.2.toNat ≤ entry.2.toNat + tolerance.toNat := by
  induction listed generalizing held with
  | nil => cases member
  | cons first listed ih =>
    rcases List.mem_cons.mp member with rfl | later
    · have here : ∃ best, better tolerance held entry = some best ∧ best.2.toNat ≤ entry.2.toNat + tolerance.toNat := by
        cases held <;> grind [better]
      obtain ⟨best, taken, near⟩ := here
      obtain ⟨last, result, lower⟩ := better_lower tolerance listed best
      exact ⟨last, by rw [List.foldl_cons, taken, result], by omega⟩
    · exact ih _ later

theorem better_mem (tolerance : UInt16) (listed : List (ν × UInt16)) (held : Option (ν × UInt16)) :
    listed.foldl (better tolerance) held = held ∨ ∃ entry ∈ listed, listed.foldl (better tolerance) held = some entry := by
  induction listed generalizing held with
  | nil => exact .inl rfl
  | cons entry listed ih =>
    have here : better tolerance held entry = held ∨ better tolerance held entry = some entry := by
      cases held <;> grind [better]
    grind

theorem better_stays (near : ∀ entry ∈ listed, best.2.toNat ≤ entry.2.toNat + tolerance.toNat) :
    listed.foldl (better tolerance) (some best) = some best := by
  induction listed with
  | nil => rfl
  | cons entry listed ih =>
    have here := near entry List.mem_cons_self
    rw [List.foldl_cons, better, if_neg (by omega)]
    exact ih (fun other member => near other (List.mem_cons_of_mem _ member))

theorem fold_result (tolerance : UInt16) (listed : List (ν × UInt16)) (best : Best ν) :
    listed.foldl (keepOrTake tolerance) best = best ∨
      ∃ entry ∈ listed, listed.foldl (keepOrTake tolerance) best = (some entry.1, entry.2) := by
  induction listed generalizing best with
  | nil => exact .inl rfl
  | cons entry _ ih => grind [keepOrTake]

theorem start_best_eq : group.startBest network = bestOf (group.startEntry network) := by
  rw [startBest, startEntry]
  cases group.selected network with
  | none => rfl
  | some outbound => cases tested : group.history (group.realTag outbound) <;> simp [tested, bestOf]

section
variable (members : group.MembersSelected)
include members

theorem start_entry_known (start : group.startEntry network = some (detour, delay)) : group.HasEntry network detour delay := by
  simp only [startEntry, Option.bind_eq_some_iff, Option.map_eq_some_iff, Prod.mk.injEq] at start
  obtain ⟨outbound, current, _, tested, rfl, rfl⟩ := start
  exact ⟨(members network outbound current).1, (members network outbound current).2, tested⟩

theorem select_supporting (chosen : (group.select network).1 = some detour) :
    detour ∈ group.outbounds ∧ group.supports network detour = true := by
  rw [select, fold_entries, start_best_eq] at chosen
  rcases fold_result group.tolerance (group.entries network group.outbounds) (bestOf (group.startEntry network)) with
    kept | ⟨⟨found, delay⟩, member, taken⟩
  · rw [kept] at chosen
    cases start : group.startEntry network with
    | none => grind [bestOf]
    | some entry =>
      have known := start_entry_known members start
      grind [bestOf, known.member, known.supported]
  rw [taken] at chosen
  cases chosen
  have entry := has_entry_iff.mpr member
  exact ⟨entry.member, entry.supported⟩

theorem set_selected_members (member : detour ∈ group.outbounds)
    (supported : group.supports network detour = true) : (group.setSelected detour network).MembersSelected := by
  intro other found current
  cases network <;> cases other
  · cases current
    exact ⟨member, supported⟩
  · exact members .udp found current
  · exact members .tcp found current
  cases current
  exact ⟨member, supported⟩

theorem update_selected_members [DecidableEq ν] (network : Network) : (group.updateSelected network).MembersSelected := by
  grind [updateSelected, select_supporting, set_selected_members]

variable (decides : DecidesEach group.tolerance (group.startEntry network) (group.entries network group.outbounds))
include decides

theorem select_entry {last : ν × UInt16}
    (held : (group.entries network group.outbounds).foldl (better group.tolerance) (group.startEntry network) = some last) :
    (group.select network).1 = some last.1 ∧ group.HasEntry network last.1 last.2 := by
  constructor
  · have chosen := fold_eq decides
    rw [← start_best_eq, held] at chosen
    simp [select, fold_entries, chosen, bestOf]
  rcases better_mem group.tolerance (group.entries network group.outbounds) (group.startEntry network)
    with kept | ⟨entry, member, taken⟩
  · exact start_entry_known members (kept.symm.trans held)
  · cases taken.symm.trans held
    exact has_entry_iff.mpr member

theorem select_within (entry : group.HasEntry network detour delay) :
    ∃ detour delay, (group.select network).1 = some detour ∧ group.HasEntry network detour delay ∧
      group.WithinTolerance network delay := by
  obtain ⟨last, held, -⟩ := better_within group.tolerance (group.startEntry network) (has_entry_iff.mp entry)
  obtain ⟨chosen, known⟩ := select_entry members decides held
  refine ⟨last.1, last.2, chosen, known, ?_⟩
  intro other otherDelay there
  obtain ⟨same, again, near⟩ := better_within group.tolerance (group.startEntry network) (has_entry_iff.mp there)
  cases held.symm.trans again
  exact near

theorem respects_tolerance : group.RespectsTolerance network := by
  refine ⟨?_, ?_, ?_⟩
  · rintro ⟨detour, member, supported⟩
    cases first : (group.select network).1 with
    | some found => exact ⟨found, (select_supporting members first).1, (select_supporting members first).2, rfl⟩
    | none => grind [select]
  · rintro ⟨_, _, entry⟩
    exact select_within members decides entry
  intro detour delay current entry near
  have start : group.startEntry network = some (detour, delay) := by simp [startEntry, current, entry.tested]
  have held : (group.entries network group.outbounds).foldl (better group.tolerance) (group.startEntry network) =
      some (detour, delay) := by
    rw [start]
    exact better_stays (fun other member => near other.1 other.2 (has_entry_iff.mpr member))
  exact (select_entry members decides held).1

end

theorem select_respects_tolerance [DecidableEq ν] (group : URLTestGroup ν) (network : Network) (members : group.MembersSelected) :
    group.performUpdateCheck.MembersSelected ∧
    (DecidesEach group.tolerance (group.startEntry network) (group.entries network group.outbounds) →
      group.RespectsTolerance network) :=
  ⟨update_selected_members (update_selected_members members .tcp) .udp, respects_tolerance members⟩

def twoNodes (first second tolerance : UInt16) (selected : Option Bool) : URLTestGroup Bool where
  realTag node := if node then "second" else "first"
  network _ := [.tcp]
  outbounds := [false, true]
  tolerance := tolerance
  history tag := if tag = "first" then some first else some second
  selectedOutboundTCP := selected

theorem zero_and_wrap_counterexample :
    (twoNodes 0 500 50 none).select .tcp = (some true, true) ∧ ¬ (twoNodes 0 500 50 none).RespectsTolerance .tcp ∧
      (twoNodes 1000 600 65000 (some false)).select .tcp = (some true, true) ∧
      ¬ (twoNodes 1000 600 65000 (some false)).RespectsTolerance .tcp := by
  refine ⟨by decide, ?_, by decide, ?_⟩
  · intro respects
    obtain ⟨detour, delay, chosen, entry, within⟩ := respects.within ⟨false, 0, by decide, by decide, by decide⟩
    have same : true = detour := Option.some.inj chosen
    subst same
    have delay_eq : 500 = delay := Option.some.inj entry.tested
    subst delay_eq
    exact absurd (within false 0 ⟨by decide, by decide, by decide⟩) (by decide)
  intro respects
  have within : (twoNodes 1000 600 65000 (some false)).WithinTolerance .tcp 1000 := by
    intro _ _ _
    exact Nat.le_trans (by decide : (1000 : UInt16).toNat ≤ (65000 : UInt16).toNat) (Nat.le_add_left _ _)
  have stays := respects.stays false 1000 rfl ⟨by decide, by decide, by decide⟩ within
  exact absurd stays (by decide)

theorem lower_second_respected : (twoNodes 500 0 50 none).RespectsTolerance .tcp := by
  refine (select_respects_tolerance (twoNodes 500 0 50 none) .tcp ?_).2 ⟨trivial, .inr (by decide), trivial⟩
  intro network _ current
  cases network <;> cases current

end OtunKernel.Group
