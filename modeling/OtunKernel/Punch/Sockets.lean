import OtunKernel.Punch.Race

namespace OtunKernel.Punch

open Lib

def RelayTask.Holds : RelayTask → Prop
  | .joining => True
  | .closing => True
  | .sent ok => ok = true
  | _ => False

def Race.Holds (family : Family) : Race → Prop
  | .idle => False
  | .selecting families => family ∈ families
  | .returned winner => winner = some family

def Dial.Holds (relays : Nat → RelayTask) (index : Nat) : Dial → Prop
  | .idle => False
  | .collecting pending winner => (index ∈ pending ∧ (relays index).Holds) ∨ winner = some index
  | .returned winner => winner = some index

namespace MainPhase

def HoldsFamily (listens : Family → Task) (race : Race) (family : Family) : MainPhase → Prop
  | .openFamilies => listens family = .done true
  | .resolve families => family ∈ families
  | .discover families _ _ => family ∈ families
  | .connect surviving => family ∈ surviving
  | .racePunch _ => race.Holds family
  | .racing _ _ => race.Holds family
  | .awaitPunch _ => race.Holds family
  | .awaitRelay winner => winner = family
  | .returned conn => conn = some (.family family)
  | _ => False

def HoldsRelay (dial : Dial) (relays : Nat → RelayTask) (index : Nat) : MainPhase → Prop
  | .dialRelay => dial.Holds relays index
  | .racing _ _ => dial.Holds relays index
  | .awaitRelay _ => dial.Holds relays index
  | .awaitPunch winner => winner = index
  | .returned conn => conn = some (.relay index)
  | _ => False

def HoldsPlaceholder : MainPhase → Prop
  | .closePlaceholder => True
  | .returned conn => conn = some .placeholder
  | _ => False

def WaitsForRace : MainPhase → Prop
  | .racePunch _ => True
  | .racing punchDone _ => punchDone = false
  | .awaitPunch _ => True
  | _ => False

def WaitsForDial : MainPhase → Prop
  | .dialRelay => True
  | .racing _ relayDone => relayDone = false
  | .awaitRelay _ => True
  | _ => False

end MainPhase

attribute [simp] RelayTask.Holds Race.Holds Dial.Holds MainPhase.HoldsFamily MainPhase.HoldsRelay MainPhase.HoldsPlaceholder
  MainPhase.WaitsForRace MainPhase.WaitsForDial PunchState.goTo PunchState.relayAt PunchState.closeRelay
  PunchState.closeRelayWinner PunchState.closeFamilyWinner

def RelayTask.Running (task : RelayTask) : Prop := task ≠ .idle ∧ ∀ ok, task ≠ .sent ok

structure PunchState.Owned (state : PunchState) : Prop where
  families : ∀ family, state.familyOpen family = true ↔ state.main.HoldsFamily state.listens state.race family
  placeholder : state.placeholderOpen = true ↔ state.main.HoldsPlaceholder
  relays : ∀ index, state.relayOpen index = true ↔ state.main.HoldsRelay state.dial state.relays index
  listening : ∀ family, state.listens family = .running → state.main = .openFamilies
  selecting : ∀ families, state.race = .selecting families → state.main.WaitsForRace
  collecting : ∀ pending winner, state.dial = .collecting pending winner → state.main.WaitsForDial
  relaying : ∀ index, (state.relays index).Running → ∃ pending winner, state.dial = .collecting pending winner ∧ index ∈ pending
  winner : ∀ pending index, state.dial = .collecting pending (some index) → index ∉ pending
  punchFailed : ∀ relayDone, state.main = .racing true relayDone → state.race = .returned none
  relayFailed : ∀ punchDone, state.main = .racing punchDone true → state.dial = .returned none

section
variable {main : MainPhase} {listens : Family → Task} {race : Race} {dial : Dial} {relays : Nat → RelayTask}

theorem holds_family_waiting (waits : main.WaitsForRace) (family : Family) :
    main.HoldsFamily listens race family ↔ race.Holds family := by
  cases main <;> first | exact Iff.rfl | exact waits.elim

theorem holds_relay_waiting (waits : main.WaitsForDial) (index : Nat) :
    main.HoldsRelay dial relays index ↔ dial.Holds relays index := by
  cases main <;> first | exact Iff.rfl | exact waits.elim

end

section
variable (state : PunchState) (closes : Family → Bool)

@[simp] theorem close_families_family (family : Family) :
    (state.closeFamilies closes).familyOpen family = (state.familyOpen family && !closes family) := rfl

@[simp] theorem close_families_placeholder : (state.closeFamilies closes).placeholderOpen = state.placeholderOpen := rfl

@[simp] theorem close_families_relay : (state.closeFamilies closes).relayOpen = state.relayOpen := rfl

end

variable {state next : PunchState}

section
variable {family : Family} {ok : Bool} {index : Nat}

section
variable (owned : state.Owned)
include owned

theorem owned_listen (taken : state.listenStep family ok = some next) : next.Owned := by
  unfold PunchState.listenStep at taken
  split at taken
  · rename_i running
    have phase := owned.listening family running
    cases taken
    refine { owned with families := fun other => ?_, listening := fun _ _ => phase }
    have before := owned.families other
    by_cases same : other = family
    · simp [same, phase]
    · simpa [phase, same] using before
  · contradiction

theorem owned_discover (taken : state.discoverStep family ok = some next) : next.Owned := by
  unfold PunchState.discoverStep at taken
  split at taken
  · cases taken
    exact { owned with }
  · contradiction

theorem owned_punch (taken : state.punchStep family ok = some next) : next.Owned := by
  unfold PunchState.punchStep at taken
  split at taken
  · cases taken
    exact { owned with }
  · contradiction

variable {relayOpen : Nat → Bool}

theorem owned_relay_at {task : RelayTask}
    (running : (state.relays index).Running) (others : ∀ other, other ≠ index → relayOpen other = state.relayOpen other)
    (own : relayOpen index = true ↔ task.Holds) : PunchState.Owned { state.relayAt index task with relayOpen := relayOpen } := by
  obtain ⟨pending, winner, collecting, member⟩ := owned.relaying index running
  have waits := owned.collecting pending winner collecting
  refine { owned with relays := fun other => ?_, relaying := fun other now => ?_ }
  · have before := owned.relays other
    rw [holds_relay_waiting waits] at before
    refine Iff.trans ?_ (holds_relay_waiting waits other).symm
    by_cases same : other = index
    · subst same
      have notWinner : winner ≠ some other := by grind [owned.winner]
      simp [collecting, member, notWinner, own]
    · simp [collecting, same, others other same, before]
  by_cases same : other = index
  · simp_all
  · exact owned.relaying other (by simpa [same] using now)

theorem owned_relay (taken : state.relayStep index ok = some next) : next.Owned := by
  have open_other (value : Bool) (other : Nat) (different : other ≠ index) :
      Function.update state.relayOpen index value other = state.relayOpen other := by grind
  revert taken
  fun_cases state.relayStep index ok <;> rintro ⟨⟩
  · rename_i listening
    apply owned_relay_at owned (by simp [RelayTask.Running, listening]) (open_other ok)
    cases ok <;> simp
  · rename_i joining
    obtain ⟨pending, winner, collecting, member⟩ := owned.relaying index (by simp [RelayTask.Running, joining])
    have opened : state.relayOpen index = true := by
      rw [owned.relays index, holds_relay_waiting (owned.collecting pending winner collecting), collecting]
      exact .inl ⟨member, by rw [joining]; trivial⟩
    refine owned_relay_at owned (by simp [RelayTask.Running, joining]) (fun _ _ => rfl) ?_
    cases ok <;> simp [opened]
  · rename_i closing
    apply owned_relay_at owned (by simp [RelayTask.Running, closing]) (open_other false)
    simp

theorem owned_race {winner : Option Family} (taken : state.raceStep winner = some next) : next.Owned := by
  have before {families : List Family} (selecting : state.race = .selecting families) (family : Family) :
      state.familyOpen family = true ↔ family ∈ families := by
    rw [owned.families family, holds_family_waiting (owned.selecting families selecting), selecting]
    rfl
  revert taken
  fun_cases state.raceStep winner <;> rintro ⟨⟩
  · rename_i families selecting family _
    have waits := owned.selecting families selecting
    have unset (relayDone : Bool) (racing : state.main = .racing true relayDone) : False := by simp_all
    refine { owned with families := fun other => ?_, selecting := by simp, punchFailed := fun _ racing => (unset _ racing).elim }
    refine Iff.trans ?_ (holds_family_waiting waits other).symm
    have opened := before selecting other
    by_cases same : other = family
    · simp_all
    · simp [opened, same, Ne.symm same]
  · rename_i families selecting _
    refine { owned with families := fun other => ?_, selecting := by simp, punchFailed := fun _ _ => rfl }
    refine Iff.trans ?_ (holds_family_waiting (owned.selecting families selecting) other).symm
    simp [before selecting other]

end

theorem owned_received (state : PunchState) {pending : List Nat} {winner best : Option Nat}
    (owned : state.Owned) (collecting : state.dial = .collecting pending winner) (sent : state.relays index = .sent ok)
    (others : ∀ other, other ≠ index → relayOpen other = state.relayOpen other) (own : relayOpen index = true ↔ best = some index)
    (kept : ∀ other, other ≠ index → (best = some other ↔ winner = some other)) :
    PunchState.Owned { state with relayOpen := relayOpen, dial := .collecting (pending.filter (· ≠ index)) best } := by
  have waits := owned.collecting pending winner collecting
  refine { owned with
    relays := fun other => ?_, collecting := fun _ _ _ => waits, relaying := fun other running => ?_, winner := ?_, relayFailed := ?_ }
  · have before := owned.relays other
    rw [holds_relay_waiting waits, collecting] at before
    refine Iff.trans ?_ (holds_relay_waiting waits other).symm
    by_cases same : other = index
    · simp [same, own]
    · simp [others other same, before, same, kept other same]
  · obtain ⟨left, _, again, member⟩ := owned.relaying other running
    have different : other ≠ index := by
      rintro rfl
      exact running.2 ok sent
    grind
  · intro left other again
    cases again
    by_cases same : other = index
    · simp [same]
    have absent := owned.winner pending other (by rw [collecting, (kept other same).mp rfl])
    simp [absent]
  intro punchDone racing
  rw [racing] at waits
  contradiction

theorem owned_dial {received : Option Nat} (owned : state.Owned) (taken : state.dialStep received = some next) : next.Owned := by
  have before {pending : List Nat} {winner : Option Nat} (collecting : state.dial = .collecting pending winner) (index : Nat) :
      state.relayOpen index = true ↔ (index ∈ pending ∧ (state.relays index).Holds) ∨ winner = some index := by
    rw [owned.relays index, holds_relay_waiting (owned.collecting pending winner collecting), collecting]
    rfl
  revert taken
  fun_cases state.dialStep received <;> rintro ⟨⟩
  · rename_i winner collecting
    have waits := owned.collecting [] winner collecting
    have unset (punchDone : Bool) (racing : state.main = .racing punchDone true) : False := by simp_all
    refine { owned with relays := fun index => ?_, collecting := by simp, relaying := fun index running => ?_,
                        winner := by simp, relayFailed := fun _ racing => (unset _ racing).elim }
    · refine Iff.trans ?_ (holds_relay_waiting waits index).symm
      simp [before collecting index]
    · obtain ⟨_, _, again, member⟩ := owned.relaying index running
      simp_all
  · rename_i winner collecting index member sent
    refine owned_received state owned collecting sent (fun _ _ => rfl) ?_ (fun _ _ => Iff.rfl)
    have notWinner : winner ≠ some index := by grind [owned.winner]
    simp [before collecting index, sent, notWinner]
  · rename_i index member sent collecting
    refine owned_received state owned collecting sent (fun _ _ => rfl) ?_ (fun other different => ?_)
    · simp [before collecting index, sent, member]
    · simp [Ne.symm different]
  · rename_i index member first sent collecting
    have notWinner : some first ≠ some index := by grind [owned.winner]
    refine owned_received state owned collecting sent (fun other different => Function.update_of_ne different _ _) ?_
      (fun _ _ => Iff.rfl)
    simpa using notWinner

end

section
variable {mode : PunchMode}

structure PunchState.Calm (state : PunchState) : Prop where
  listens : ∀ family, state.listens family ≠ .running
  race : ∀ families, state.race ≠ .selecting families
  dial : ∀ pending winner, state.dial ≠ .collecting pending winner

theorem calm_of_phase (owned : state.Owned) (listens : state.main ≠ .openFamilies)
    (race : ¬ state.main.WaitsForRace ∨ ∃ winner, state.race = .returned winner)
    (dial : ¬ state.main.WaitsForDial ∨ ∃ winner, state.dial = .returned winner) : state.Calm where
  listens family running := listens (owned.listening family running)
  race families selecting := by
    grind [owned.selecting]
  dial pending winner collecting := by
    rcases dial with idle | ⟨_, returned⟩
    · grind [owned.collecting]
    · cases returned.symm.trans collecting

variable {main : MainPhase} {families surviving : List Family} {relays : Nat} {winner : Option Family} {ok : Bool}

theorem owned_calm (state : PunchState) {familyOpen : Family → Bool} {placeholderOpen : Bool}
    (owned : state.Owned) (calm : state.Calm) (alone : ∀ punchDone relayDone, main ≠ .racing punchDone relayDone)
    (families : ∀ family, familyOpen family = true ↔ main.HoldsFamily state.listens state.race family)
    (placeholder : placeholderOpen = true ↔ main.HoldsPlaceholder)
    (relays : ∀ index, relayOpen index = true ↔ main.HoldsRelay state.dial state.relays index) :
    PunchState.Owned { state with
      familyOpen := familyOpen, placeholderOpen := placeholderOpen, relayOpen := relayOpen, main := main } where
  families := families
  placeholder := placeholder
  relays := relays
  listening family running := (calm.listens family running).elim
  selecting families selecting := (calm.race families selecting).elim
  collecting pending winner collecting := (calm.dial pending winner collecting).elim
  relaying := owned.relaying
  winner := owned.winner
  punchFailed relayDone racing := (alone true relayDone racing).elim
  relayFailed punchDone racing := (alone punchDone true racing).elim

section
variable (owned : state.Owned)
include owned

theorem owned_sockets (phase : state.main = main) :
    (∀ family, state.familyOpen family = true ↔ main.HoldsFamily state.listens state.race family) ∧
      (state.placeholderOpen = true ↔ main.HoldsPlaceholder) ∧
      ∀ index, state.relayOpen index = true ↔ main.HoldsRelay state.dial state.relays index :=
  phase ▸ ⟨owned.families, owned.placeholder, owned.relays⟩

theorem owned_go (calm : state.Calm) (alone : ∀ punchDone relayDone, main ≠ .racing punchDone relayDone)
    (families : ∀ family, state.main.HoldsFamily state.listens state.race family ↔ main.HoldsFamily state.listens state.race family)
    (placeholder : state.main.HoldsPlaceholder ↔ main.HoldsPlaceholder)
    (relays : ∀ index, state.main.HoldsRelay state.dial state.relays index ↔ main.HoldsRelay state.dial state.relays index) :
    (state.goTo main).Owned :=
  owned_calm state owned calm alone (fun family => (owned.families family).trans (families family))
    (owned.placeholder.trans placeholder) (fun index => (owned.relays index).trans (relays index))

theorem owned_give_up (calm : state.Calm)
    (held : ∀ family, state.main.HoldsFamily state.listens state.race family ↔ family ∈ families)
    (placeholder : ¬ state.main.HoldsPlaceholder) (relays : ∀ index, ¬ state.main.HoldsRelay state.dial state.relays index) :
    ((state.closeFamilies (· ∈ families)).goTo (.returned none)).Owned := by
  refine owned_calm state owned calm (by simp) (fun family => ?_) ?_ (fun index => ?_)
  · have before := (owned.families family).trans (held family)
    simp [before]
  · simpa using owned.placeholder.not.mpr placeholder
  · simpa using (owned.relays index).not.mpr (relays index)

theorem owned_wait_families (phase : state.main = .openFamilies) (taken : state.waitFamilies = some next) : next.Owned := by
  unfold PunchState.waitFamilies at taken
  split at taken
  · contradiction
  have calm : state.Calm := by
    refine ⟨fun family => ?_, fun families selecting => ?_, fun pending winner collecting => ?_⟩
    · cases family
      · grind
      · grind
    · have waits := owned.selecting families selecting
      rw [phase] at waits
      exact waits
    have waits := owned.collecting pending winner collecting
    rw [phase] at waits
    exact waits
  have opened (family : Family) : family ∈ state.familiesOpened ↔ state.listens family = .done true := by
    cases family <;> simp [PunchState.familiesOpened]
  split at taken
  · rename_i none
    cases taken
    refine owned_go owned calm (by simp) (fun family => ?_) ?_ ?_
    · simp [phase, ← opened family, none]
    all_goals simp [phase]
  cases taken
  refine owned_go owned calm (by simp) (fun family => ?_) ?_ ?_
  · simp [phase, opened family]
  all_goals simp [phase]

variable {pending : List Family} {grace : Bool}

theorem owned_discovered (calm : state.Calm)
    (phase : state.main = .discover families pending grace) : (state.discovered families).Owned := by
  have before (family : Family) : state.familyOpen family = true ↔ family ∈ families := by
    simp [owned.families family, phase]
  refine owned_calm state owned calm ?_ (fun family => ?_) ?_ (fun index => ?_)
  · grind
  · split
    · simp_all
    · simp_all
  · rw [close_families_placeholder, owned.placeholder, phase]
    split <;> simp
  rw [close_families_relay, owned.relays index, phase]
  split <;> simp

theorem started_relays_closed (relays : Nat) (index : Nat) (closed : ¬ state.main.HoldsRelay state.dial state.relays index) :
    state.relayOpen index = true ↔ (Dial.collecting (List.range relays) none).Holds (startRelays relays state.relays) index := by
  rw [owned.relays index, iff_false_left closed]
  by_cases started : index < relays <;> simp [startRelays, started]

end

section
variable (owned : state.Owned) (calm : state.Calm)
include owned calm

theorem started_relays_pending (relays : Nat) (index : Nat) (running : (startRelays relays state.relays index).Running) :
    ∃ pending winner, Dial.collecting (List.range relays) none = .collecting pending winner ∧ index ∈ pending := by
  grind [startRelays, owned.relaying, calm.dial]

theorem owned_call_dial (families : ∀ family, ¬ state.main.HoldsFamily state.listens state.race family)
    (placeholder : ¬ state.main.HoldsPlaceholder) (closed : ∀ index, ¬ state.main.HoldsRelay state.dial state.relays index) :
    ((state.callDialRelay relays).goTo .dialRelay).Owned where
  families family := (owned.families family).trans ⟨fun holds => (families family holds).elim, False.elim⟩
  placeholder := owned.placeholder.trans ⟨fun holds => (placeholder holds).elim, False.elim⟩
  relays index := started_relays_closed owned relays index (closed index)
  listening family running := (calm.listens family running).elim
  selecting families selecting := (calm.race families selecting).elim
  collecting _ _ _ := trivial
  relaying index := started_relays_pending owned calm relays index
  winner _ _ started := by cases started
  punchFailed _ racing := by contradiction
  relayFailed _ racing := by contradiction

theorem owned_call_race (phase : state.main = .connect surviving) :
    ((state.callRacePunch surviving).goTo (.racePunch relays)).Owned := by
  obtain ⟨families, placeholder, relays⟩ := owned_sockets owned phase
  exact {
    families, placeholder, relays
    listening := fun family running => (calm.listens family running).elim
    selecting := fun _ _ => trivial
    collecting := fun pending winner collecting => (calm.dial pending winner collecting).elim
    relaying := owned.relaying
    winner := owned.winner
    punchFailed := by simp
    relayFailed := by simp }

theorem owned_call_both (phase : state.main = .connect surviving) :
    (((state.callRacePunch surviving).callDialRelay relays).goTo (.racing false false)).Owned := by
  obtain ⟨families, placeholder, _⟩ := owned_sockets owned phase
  exact {
    families, placeholder
    relays := fun index => started_relays_closed owned relays index (by rw [phase]; exact id)
    listening := fun family running => (calm.listens family running).elim
    selecting := fun _ _ => rfl
    collecting := fun _ _ _ => rfl
    relaying := fun index => started_relays_pending owned calm relays index
    winner := fun _ _ started => by cases started
    punchFailed := by simp
    relayFailed := by simp }

end

section
variable (owned : state.Owned)
include owned

theorem listens_ended (phase : state.main ≠ .openFamilies) (family : Family) :
    state.listens family ≠ .running := fun running => phase (owned.listening family running)

theorem owned_after_race_punch (phase : state.main = .racePunch relays)
    (race : state.race = .returned winner) : (state.afterRacePunch mode relays winner).Owned := by
  have calm := calm_of_phase owned (by simp [phase]) (.inr ⟨_, race⟩) (.inl (by simp [phase]))
  unfold PunchState.afterRacePunch
  split
  · refine owned_go owned calm ?_ ?_ ?_ ?_ <;> simp [phase, race]
  have fails : (state.goTo (.returned none)).Owned := by
    refine owned_go owned calm ?_ ?_ ?_ ?_ <;> simp [phase, race]
  split
  · exact fails
  split
  · exact fails
  · refine owned_call_dial owned calm ?_ ?_ ?_ <;> simp [phase, race]

theorem owned_after_dial {winner : Option Nat} (phase : state.main = .dialRelay)
    (dial : state.dial = .returned winner) : (state.goTo (.returned (winner.map .relay))).Owned := by
  have calm := calm_of_phase owned (by simp [phase]) (.inl (by simp [phase])) (.inr ⟨_, dial⟩)
  refine owned_go owned calm ?_ ?_ ?_ ?_ <;> simp [phase, dial]

theorem owned_raced (phase : state.main = .racing false false)
    (families : ∀ family, state.race.Holds family ↔ main.HoldsFamily state.listens state.race family)
    (relays : ∀ index, state.dial.Holds state.relays index ↔ main.HoldsRelay state.dial state.relays index)
    (placeholder : ¬ main.HoldsPlaceholder) (selecting : ∀ families, state.race = .selecting families → main.WaitsForRace)
    (collecting : ∀ pending winner, state.dial = .collecting pending winner → main.WaitsForDial)
    (punchFailed : ∀ relayDone, main = .racing true relayDone → state.race = .returned none)
    (relayFailed : ∀ punchDone, main = .racing punchDone true → state.dial = .returned none) : (state.goTo main).Owned := by
  obtain ⟨familiesBefore, placeholderBefore, relaysBefore⟩ := owned_sockets owned phase
  exact {
    families := fun family => (familiesBefore family).trans (families family)
    placeholder := placeholderBefore.trans ⟨False.elim, placeholder⟩
    relays := fun index => (relaysBefore index).trans (relays index)
    listening := fun family running => (listens_ended owned (by simp [phase]) family running).elim
    selecting, collecting, punchFailed, relayFailed
    relaying := owned.relaying
    winner := owned.winner }

theorem owned_racing_punch {relayDone : Bool} (phase : state.main = .racing false relayDone)
    (race : state.race = .returned winner) : (state.racingPunch relayDone winner).Owned := by
  cases relayDone with
  | true =>
    have dial := owned.relayFailed false phase
    have calm := calm_of_phase owned (by simp [phase]) (.inr ⟨_, race⟩) (.inr ⟨_, dial⟩)
    cases winner <;> refine owned_go owned calm ?_ ?_ ?_ ?_ <;> simp [phase, race, dial]
  | false =>
    cases winner <;> refine owned_raced owned phase ?_ ?_ ?_ ?_ ?_ ?_ ?_ <;> simp [race]

theorem owned_racing_relay {punchDone : Bool} {winner : Option Nat} (phase : state.main = .racing punchDone false)
    (dial : state.dial = .returned winner) : (state.racingRelay punchDone winner).Owned := by
  cases punchDone with
  | true =>
    have race := owned.punchFailed false phase
    have calm := calm_of_phase owned (by simp [phase]) (.inr ⟨_, race⟩) (.inr ⟨_, dial⟩)
    cases winner <;> refine owned_go owned calm ?_ ?_ ?_ ?_ <;> simp [phase, race, dial]
  | false =>
    cases winner <;> refine owned_raced owned phase ?_ ?_ ?_ ?_ ?_ ?_ ?_ <;> simp [dial]

theorem owned_await_relay {family : Family} {winner : Option Nat} (phase : state.main = .awaitRelay family)
    (dial : state.dial = .returned winner) : ((state.closeRelayWinner winner).goTo (.returned (some (.family family)))).Owned := by
  have calm := calm_of_phase owned (by simp [phase]) (.inl (by simp [phase])) (.inr ⟨_, dial⟩)
  obtain ⟨families, placeholder, relays⟩ := owned_sockets owned phase
  cases winner with
  | none => refine owned_calm state owned calm ?_ ?_ ?_ ?_ <;> simp [families, placeholder, relays, dial]
  | some index =>
    refine owned_calm state owned calm (by simp) ?_ ?_ (fun other => ?_)
    · simp [families]
    · simp [placeholder]
    by_cases same : other = index
    · simp [same]
    · simp [same, relays other, dial, Ne.symm same]

theorem owned_await_punch {index : Nat} (phase : state.main = .awaitPunch index) (race : state.race = .returned winner) :
    ((state.closeFamilyWinner winner).goTo (.returned (some (.relay index)))).Owned := by
  have calm := calm_of_phase owned (by simp [phase]) (.inr ⟨_, race⟩) (.inl (by simp [phase]))
  obtain ⟨families, placeholder, relays⟩ := owned_sockets owned phase
  cases winner with
  | none => refine owned_calm state owned calm ?_ ?_ ?_ ?_ <;> simp [families, placeholder, relays, race]
  | some family =>
    refine owned_calm state owned calm (by simp) (fun other => ?_) ?_ ?_
    · simp_all
    · simp [placeholder]
    · simp [relays]

theorem owned_checked (phase : state.main = .start) : (state.checked mode ok).Owned := by
  have calm := calm_of_phase owned (by simp [phase]) (.inl (by simp [phase])) (.inl (by simp [phase]))
  unfold PunchState.checked
  split
  · refine owned_go owned calm ?_ ?_ ?_ ?_ <;> simp [phase]
  split
  · refine owned_go owned calm ?_ ?_ ?_ ?_ <;> simp [phase]
  obtain ⟨families, placeholder, relays⟩ := owned_sockets owned phase
  exact {
    families := fun family => by simp [families]
    placeholder := placeholder
    relays := relays
    listening := fun _ _ => rfl
    selecting := fun families selecting => (calm.race families selecting).elim
    collecting := fun pending winner collecting => (calm.dial pending winner collecting).elim
    relaying := owned.relaying
    winner := owned.winner
    punchFailed := fun _ racing => by contradiction
    relayFailed := fun _ racing => by contradiction }

section
variable (calm : state.Calm)
include calm

theorem owned_after_connect (phase : state.main = .connect surviving) : (state.afterConnect mode surviving response).Owned := by
  unfold PunchState.afterConnect
  grind [owned_call_both, owned_call_race]

theorem owned_placeholder_listened (phase : state.main = .listenPlaceholder) : (state.placeholderListened ok).Owned := by
  unfold PunchState.placeholderListened
  obtain ⟨families, _, relays⟩ := owned_sockets owned phase
  split
  · refine owned_calm state owned calm ?_ ?_ ?_ ?_ <;> simp [families, relays]
  · refine owned_go owned calm ?_ ?_ ?_ ?_ <;> simp [phase]

theorem owned_placeholder_closed (phase : state.main = .closePlaceholder) :
    PunchState.Owned { state.goTo .connectRelayOnly with placeholderOpen := false } := by
  obtain ⟨families, _, relays⟩ := owned_sockets owned phase
  refine owned_calm state owned calm ?_ ?_ ?_ ?_ <;> simp [families, relays]

theorem owned_after_connect_relay_only (phase : state.main = .connectRelayOnly) : (state.afterConnectRelayOnly response).Owned := by
  unfold PunchState.afterConnectRelayOnly
  split
  · refine owned_go owned calm ?_ ?_ ?_ ?_ <;> simp [phase]
  · refine owned_call_dial owned calm ?_ ?_ ?_ <;> simp [phase]

theorem owned_resolved (phase : state.main = .resolve families) : (state.resolved families ok).Owned := by
  unfold PunchState.resolved
  split
  · have moved : (state.goTo (.discover families families false)).Owned := by
      refine owned_go owned calm ?_ ?_ ?_ ?_ <;> simp [phase]
    exact { moved with }
  · refine owned_give_up owned calm ?_ ?_ ?_ <;> simp [phase]

theorem owned_discovering {left : List Family} {armed : Bool}
    (phase : state.main = .discover families pending grace) : (state.goTo (.discover families left armed)).Owned := by
  refine owned_go owned calm ?_ ?_ ?_ ?_ <;> simp [phase]

end

theorem owned_main {event : MainEvent} (taken : state.mainStep mode event = some next) : next.Owned := by
  have calm {phase : MainPhase} (at_phase : state.main = phase) (opening : phase ≠ .openFamilies) (race : ¬ phase.WaitsForRace)
      (dial : ¬ phase.WaitsForDial) : state.Calm := by grind [calm_of_phase]
  revert taken
  fun_cases PunchState.mainStep mode state event <;> intro taken <;> try cases taken
  · grind [owned_checked]
  · rename_i phase
    exact owned_placeholder_listened owned (calm phase (by simp) id id) phase
  · rename_i phase
    exact owned_placeholder_closed owned (calm phase (by simp) id id) phase
  · rename_i phase
    refine owned_go owned (calm phase (by simp) id id) ?_ ?_ ?_ ?_ <;> simp [phase]
  · rename_i phase
    exact owned_after_connect_relay_only owned (calm phase (by simp) id id) phase
  · grind [owned_wait_families]
  · rename_i phase
    exact owned_resolved owned (calm phase (by simp) id id) phase
  · rename_i phase
    revert taken
    fun_cases PunchState.receiveDiscover <;> rintro ⟨⟩
    exact owned_discovering owned (calm phase (by simp) id id) phase
  · rename_i phase
    exact owned_discovering owned (calm phase (by simp) id id) phase
  · rename_i phase
    exact owned_discovered owned (calm phase (by simp) id id) phase
  · rename_i phase
    refine owned_give_up owned (calm phase (by simp) id id) ?_ ?_ ?_ <;> simp [phase]
  · rename_i phase
    exact owned_after_connect owned (calm phase (by simp) id id) phase
  · grind [owned_after_race_punch]
  · grind [owned_after_dial]
  · grind [owned_racing_punch]
  · grind [owned_racing_relay]
  · grind [owned_await_relay]
  · grind [owned_await_punch]

end
end

section
variable {mode : PunchMode}

theorem owned_step {event : PunchEvent} (owned : state.Owned) (taken : punchStep mode state event = some next) : next.Owned := by
  cases event with
  | listen => exact owned_listen owned taken
  | discover => exact owned_discover owned taken
  | punch => exact owned_punch owned taken
  | relay => exact owned_relay owned taken
  | race => exact owned_race owned taken
  | dial => exact owned_dial owned taken
  | main => exact owned_main owned taken

theorem owned_run (run : Run (punchStep mode) anyStep {} state) : state.Owned := by
  apply run.invariant PunchState.Owned (by constructor <;> simp [RelayTask.Running])
  grind [owned_step]

theorem only_the_returned_socket_open {conn : Option Socket} (run : Run (punchStep mode) anyStep {} state)
    (returned : state.main = .returned conn) (socket : Socket) : state.isOpen socket = true ↔ conn = some socket := by
  have owned := owned_run run
  cases socket with
  | family family =>
    have held := owned.families family
    rwa [returned] at held
  | placeholder =>
    have held := owned.placeholder
    rwa [returned] at held
  | relay index =>
    have held := owned.relays index
    rwa [returned] at held

theorem only_the_returned_socket_open_after_race : ∃ state : PunchState,
    Run (punchStep .normal) anyStep {} state ∧ state.main = .returned (some (.relay 0)) ∧
      ∀ socket, state.isOpen socket = true ↔ some (.relay 0) = some socket := by
  obtain ⟨state, executed⟩ : ∃ state, execute (punchStep .normal) {}
      [.main (.call true), .listen .v4 true, .listen .v6 false, .main (.call true), .main (.call true), .discover .v4 true,
        .main (.receiveDiscover .v4), .main (.call true), .main (.connected ⟨2, true⟩), .relay 0 true, .punch .v4 true,
        .relay 1 true, .race (some .v4), .relay 0 true, .dial (some 0), .relay 1 true, .dial (some 1), .dial none,
        .main .receiveRelay, .main .receivePunch] = some state := ⟨_, rfl⟩
  have run : Run (punchStep .normal) anyStep {} state := run_of_execute _ _ _ (fun _ _ _ => trivial) executed
  have returned : state.main = .returned (some (.relay 0)) := by
    cases executed
    rfl
  exact ⟨state, run, returned, only_the_returned_socket_open run returned⟩

end
end OtunKernel.Punch
