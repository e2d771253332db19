import OtunKernel.Adapter.OutboundManager

namespace OtunKernel.Dns

open Lib Adapter Registry

def dnsTypeFakeIP : String := "fakeip"

structure TransportManager where
  defaultTag : String
  started : Bool := false
  stage : StartStage := .stateInitialize
  registry : Registry := {}
  defaultTransport : Option Instance := none
  fakeIPTransport : Option Instance := none

def newTransportManager (defaultTag : String) : TransportManager := { defaultTag := defaultTag }

structure ServerStartInput where
  stage : StartStage
  fallbackError : Option String := none
  startError : Option String := none

def TransportManager.start (manager : TransportManager) (input : ServerStartInput) : Outcome × TransportManager :=
  if manager.started && input.stage.index ≤ manager.stage.index then (.panicked "already started", manager)
  else
    let begun := { manager with started := true, stage := input.stage, registry := manager.registry.allocate }
    if input.stage ≠ .stateStart then (Outcome.ofError input.startError, begun)
    else if manager.defaultTag ≠ "" ∧ manager.defaultTransport = none then
      (.failed ("default DNS server not found: " ++ manager.defaultTag), begun)
    else if manager.defaultTransport = none then
      match input.fallbackError with
      | some err => (.failed ("default DNS server fallback: " ++ err), begun)
      | none =>
        let defaultTransport : Instance := ⟨manager.registry.nextId, "local", "local", []⟩
        (Outcome.ofError input.startError,
          { begun with registry := begun.registry.adopt defaultTransport, defaultTransport := some defaultTransport })
    else (Outcome.ofError input.startError, begun)

def TransportManager.releaseTransport (manager : TransportManager) (tag : String) (transport : Instance) :
    Outcome × TransportManager :=
  let dependBy := manager.registry.dependByTag tag
  if dependBy ≠ [] then (.failed ("server[" ++ tag ++ "] is depended by " ++ ", ".intercalate dependBy), manager)
  else (.done, { manager with registry := manager.registry.release tag transport })

-- The type of the next server is tested the wrong way round.
def TransportManager.remove (manager : TransportManager) (tag : String) : Outcome × TransportManager :=
  match manager.registry.byTag tag with
  | none => (.failed errInvalid, manager)
  | some transport =>
    if manager.registry.misplaced tag then
      (.panicked "invalid inbound index", { manager with registry := manager.registry.forget tag })
    else
      let removed := { manager with registry := manager.registry.unregister tag transport }
      if manager.defaultTransport = some transport then
        match removed.registry.instances.head? with
        | some nextTransport =>
          if nextTransport.type ≠ dnsTypeFakeIP then (.failed "default server cannot be fakeip", removed)
          else { removed with defaultTransport := some nextTransport }.releaseTransport tag transport
        | none => { removed with defaultTransport := none }.releaseTransport tag transport
      else removed.releaseTransport tag transport

def TransportManager.registerFakeIP (manager : TransportManager) (transport : Instance) : Outcome × TransportManager :=
  if transport.type = dnsTypeFakeIP then
    if manager.fakeIPTransport ≠ none then (.failed "multiple fakeip server are not supported", manager)
    else (.done, { manager with fakeIPTransport := some transport })
  else (.done, manager)

def TransportManager.create (manager : TransportManager) (input : CreateInput) : Outcome × TransportManager :=
  let allocated := { manager with registry := manager.registry.allocate }
  match input.build "dns/" manager.started manager.registry with
  | .error err => (.failed err, allocated)
  | .ok transport =>
    if manager.registry.misplaced input.tag then (.panicked "invalid inbound index", allocated)
    else
      let registered := { allocated with registry := allocated.registry.register transport }
      if input.tag = manager.defaultTag ∨ (manager.defaultTag = "" ∧ manager.defaultTransport = none) then
        if transport.type = dnsTypeFakeIP then (.failed "default server cannot be fakeip", registered)
        else { registered with defaultTransport := some transport }.registerFakeIP transport
      else registered.registerFakeIP transport

inductive TransportCall where
  | create (input : CreateInput)
  | remove (tag : String)
  | start (input : ServerStartInput)

def TransportManager.call (manager : TransportManager) : TransportCall → Outcome × TransportManager
  | .create input => manager.create input
  | .remove tag => manager.remove tag
  | .start input => manager.start input

def transportStep : System TransportManager TransportCall := fun manager call =>
  (manager.call call).1.survives (manager.call call).2

-- Only this much holds of every run: the fallback server can take the tag of a
-- registered fakeip server, which then stays in the list.
structure TransportManager.Sound (manager : TransportManager) : Prop where
  listed : manager.registry.Listed
  older : manager.registry.Older

variable {manager result : TransportManager}

section
variable {tag : String} {transport : Instance}

def TransportManager.createDefault (manager : TransportManager) (transport : Instance) : Option Instance :=
  if (transport.tag = manager.defaultTag ∨ (manager.defaultTag = "" ∧ manager.defaultTransport = none)) ∧
    transport.type ≠ dnsTypeFakeIP then some transport
  else manager.defaultTransport

def TransportManager.removeDefault (manager : TransportManager) (transport : Instance) : Option Instance :=
  if manager.defaultTransport = some transport then
    match (manager.registry.instances.erase transport).head? with
    | some nextTransport => if nextTransport.type ≠ dnsTypeFakeIP then manager.defaultTransport else some nextTransport
    | none => none
  else manager.defaultTransport

theorem register_fakeip_change (manager : TransportManager) (transport : Instance) :
    ∃ fakeIP, (manager.registerFakeIP transport).2 = { manager with fakeIPTransport := fakeIP } := by
  unfold TransportManager.registerFakeIP
  split
  · split
    · grind
    · grind
  · grind

theorem release_transport_change (manager : TransportManager) (tag : String) (transport : Instance) :
    ∃ index, (manager.releaseTransport tag transport).2 =
        { manager with registry := { manager.registry with dependByTag := index } } ∧
      ((manager.releaseTransport tag transport).1 = .done ↔ manager.registry.dependByTag tag = []) := by
  by_cases free : manager.registry.dependByTag tag = []
  · simp [TransportManager.releaseTransport, free, release]
  exact ⟨manager.registry.dependByTag, by simp [TransportManager.releaseTransport, free],
    by simp [TransportManager.releaseTransport, free]⟩

theorem create_change {input : CreateInput} (built : input.build "dns/" manager.started manager.registry = .ok transport)
    (placed : manager.registry.misplaced input.tag = false) :
    ∃ fakeIP, (manager.create input).2 = { manager with
      registry := manager.registry.allocate.register transport
      defaultTransport := manager.createDefault transport
      fakeIPTransport := fakeIP } := by
  simp only [TransportManager.create, built, placed, Bool.false_eq_true, if_false,
    TransportManager.createDefault, (build_tag built).1]
  by_cases chosen : input.tag = manager.defaultTag ∨ (manager.defaultTag = "" ∧ manager.defaultTransport = none)
  · by_cases fakeIP : transport.type = dnsTypeFakeIP
    · exact ⟨manager.fakeIPTransport, by simp [chosen, fakeIP]⟩
    obtain ⟨set, changed⟩ := register_fakeip_change { manager with
      registry := manager.registry.allocate.register transport, defaultTransport := some transport } transport
    grind
  obtain ⟨set, changed⟩ := register_fakeip_change { manager with
    registry := manager.registry.allocate.register transport } transport
  grind

theorem remove_missing_server (absent : manager.registry.byTag tag = none) :
    manager.remove tag = (.failed errInvalid, manager) := by
  simp only [TransportManager.remove, absent]

theorem remove_misplaced_server (found : manager.registry.byTag tag = some transport)
    (misplaced : manager.registry.misplaced tag = true) : (manager.remove tag).1 = .panicked "invalid inbound index" := by
  simp only [TransportManager.remove, found, misplaced, if_true]

theorem remove_change (found : manager.registry.byTag tag = some transport) (placed : manager.registry.misplaced tag = false) :
    (∃ index, (manager.remove tag).2 = { manager with
      registry := { manager.registry.unregister tag transport with dependByTag := index }
      defaultTransport := manager.removeDefault transport }) ∧
    ((manager.remove tag).1 = .done ↔ manager.registry.dependByTag tag = [] ∧
      (manager.defaultTransport = some transport →
        ∀ nextTransport, (manager.registry.instances.erase transport).head? = some nextTransport →
          nextTransport.type = dnsTypeFakeIP)) := by
  simp only [TransportManager.remove, found, placed, Bool.false_eq_true, if_false,
    TransportManager.removeDefault]
  have rest : (manager.registry.unregister tag transport).instances = manager.registry.instances.erase transport := rfl
  by_cases own : manager.defaultTransport = some transport
  · simp only [if_pos own, rest]
    cases next : (manager.registry.instances.erase transport).head? with
    | none =>
      obtain ⟨index, changed, done⟩ := release_transport_change { manager with
        registry := manager.registry.unregister tag transport, defaultTransport := none } tag transport
      exact ⟨⟨index, changed⟩, done.trans (by simp [unregister])⟩
    | some nextTransport =>
      by_cases fakeIP : nextTransport.type = dnsTypeFakeIP
      · obtain ⟨index, changed, done⟩ := release_transport_change { manager with
          registry := manager.registry.unregister tag transport, defaultTransport := some nextTransport } tag transport
        simp only [fakeIP, ne_eq, not_true_eq_false, if_false]
        exact ⟨⟨index, changed⟩, done.trans (by simp [unregister, fakeIP])⟩
      simp only [ne_eq, fakeIP, not_false_eq_true, if_true]
      exact ⟨⟨manager.registry.dependByTag, rfl⟩, by simp [own, fakeIP]⟩
  simp only [if_neg own]
  obtain ⟨index, changed, done⟩ := release_transport_change { manager with
    registry := manager.registry.unregister tag transport } tag transport
  exact ⟨⟨index, changed⟩, done.trans (by simp [unregister, own])⟩

def TransportManager.begun (manager : TransportManager) (stage : StartStage) : TransportManager :=
  { manager with started := true, stage := stage, registry := manager.registry.allocate }

-- Everything a call can leave behind. The dependency index and the fakeip
-- server are left open.
inductive TransportChange (manager : TransportManager) : TransportCall → TransportManager → Prop where
  | createFailed {input : CreateInput} {err : String}
      (built : input.build "dns/" manager.started manager.registry = .error err) :
      TransportChange manager (.create input) { manager with registry := manager.registry.allocate }
  | created {input : CreateInput} {transport : Instance} (fakeIP : Option Instance)
      (built : input.build "dns/" manager.started manager.registry = .ok transport)
      (placed : manager.registry.misplaced input.tag = false) :
      TransportChange manager (.create input) { manager with
        registry := manager.registry.allocate.register transport
        defaultTransport := manager.createDefault transport
        fakeIPTransport := fakeIP }
  | missing {tag : String} (absent : manager.registry.byTag tag = none) :
      TransportChange manager (.remove tag) manager
  | removed {tag : String} {transport : Instance} (index : String → List String)
      (found : manager.registry.byTag tag = some transport) (placed : manager.registry.misplaced tag = false) :
      TransportChange manager (.remove tag) { manager with
        registry := { manager.registry.unregister tag transport with dependByTag := index }
        defaultTransport := manager.removeDefault transport }
  | begun {input : ServerStartInput} : TransportChange manager (.start input) (manager.begun input.stage)
  | fallback {input : ServerStartInput} :
      TransportChange manager (.start input) { manager.begun input.stage with
        registry := manager.registry.allocate.adopt ⟨manager.registry.nextId, "local", "local", []⟩
        defaultTransport := some ⟨manager.registry.nextId, "local", "local", []⟩ }

theorem server_start_change {input : ServerStartInput}
    (taken : (manager.start input).1.survives (manager.start input).2 = some result) :
    TransportChange manager (.start input) result := by
  revert taken
  fun_cases manager.start input <;> intro taken <;> try cases taken
  case case5 =>
    rw [← survives_eq_some taken]
    exact .fallback
  · rw [← survives_eq_some taken]
    exact .begun
  · exact .begun
  · exact .begun
  · rw [← survives_eq_some taken]
    exact .begun

theorem transport_step_change {call : TransportCall} (taken : transportStep manager call = some result) :
    TransportChange manager call result := by
  have reached := survives_eq_some taken
  cases call with
  | create input =>
    subst reached
    cases built : input.build "dns/" manager.started manager.registry with
    | error =>
      simpa [TransportManager.call, TransportManager.create, built] using TransportChange.createFailed built
    | ok =>
      cases placed : manager.registry.misplaced input.tag with
      | true =>
        simp [transportStep, TransportManager.call, TransportManager.create, built, placed, Outcome.survives] at taken
      | false =>
        obtain ⟨fakeIP, changed⟩ := create_change built placed
        simpa [TransportManager.call, changed] using TransportChange.created fakeIP built placed
  | remove tag =>
    subst reached
    cases found : manager.registry.byTag tag with
    | none =>
      simpa [TransportManager.call, remove_missing_server found] using TransportChange.missing found
    | some =>
      cases placed : manager.registry.misplaced tag with
      | true => simp [transportStep, TransportManager.call, remove_misplaced_server found placed, Outcome.survives] at taken
      | false =>
        obtain ⟨⟨index, changed⟩, _⟩ := remove_change found placed
        simpa [TransportManager.call, changed] using TransportChange.removed index found placed
  | start => exact server_start_change taken

end

section
variable {call : TransportCall}

theorem transport_step_sound (sound : manager.Sound) (taken : transportStep manager call = some result) : result.Sound := by
  have allocated := allocate_older sound.older
  cases transport_step_change taken with
  | createFailed | begun => exact ⟨sound.listed, allocated⟩
  | created _ built =>
    exact ⟨register_listed sound.listed, append_older sound.older (build_tag built).2 (fun _ => others_subset)⟩
  | missing => exact sound
  | removed _ found =>
    exact ⟨unregister_listed sound.listed found, fun item member => sound.older item (List.mem_of_mem_erase member)⟩
  | fallback => exact ⟨adopt_listed sound.listed, append_older sound.older rfl (fun _ member => member)⟩

theorem transport_run_sound {allowed : TransportManager → TransportCall → Prop} {defaultTag : String}
    (run : Run transportStep allowed (newTransportManager defaultTag) manager) : manager.Sound :=
  run.invariant TransportManager.Sound ⟨nofun, nofun⟩ (fun _ _ _ sound _ taken => transport_step_sound sound taken)

end

def TransportManager.DefaultUsable (manager : TransportManager) : Prop :=
  ∀ transport, manager.defaultTransport = some transport →
    manager.registry.Holds transport ∧ transport.type ≠ dnsTypeFakeIP

def KeepsDefaultServer (manager : TransportManager) : TransportCall → Prop
  | .create input => ∀ transport, input.build "dns/" manager.started manager.registry = .ok transport →
      ∀ old, manager.defaultTransport = some old → old.tag = input.tag →
        input.tag = manager.defaultTag ∧ transport.type ≠ dnsTypeFakeIP
  | .remove tag => ∀ old, manager.defaultTransport = some old → old.tag = tag → manager.registry.instances = [old]
  | .start _ => True

section
variable {call : TransportCall}

section
variable {transport : Instance} (sound : manager.Sound) (usable : manager.DefaultUsable)
include sound usable

theorem created_server (fresh : transport.id = manager.registry.nextId) : (∀ item, manager.createDefault transport = some item →
        (manager.registry.allocate.register transport).Holds item ∧ item.type ≠ dnsTypeFakeIP) ↔
      ∀ old, manager.defaultTransport = some old → old.tag = transport.tag →
        transport.tag = manager.defaultTag ∧ transport.type ≠ dnsTypeFakeIP := by
  have listed : manager.registry.allocate.Listed := sound.listed
  unfold TransportManager.createDefault
  by_cases chosen : (transport.tag = manager.defaultTag ∨ (manager.defaultTag = "" ∧ manager.defaultTransport = none)) ∧
      transport.type ≠ dnsTypeFakeIP
  · rw [if_pos chosen]
    apply iff_of_true
    · intro item same
      cases same
      exact ⟨register_holds, chosen.2⟩
    grind
  rw [if_neg chosen]
  refine forall_congr' (fun old => forall_congr' (fun present => ?_))
  obtain ⟨held, ordinary⟩ := usable old present
  have different : old ≠ transport := by
    intro same
    have earlier := sound.older old held.2
    rw [same] at earlier
    omega
  rw [register_holds_other listed different]
  constructor
  · simp_all
  intro only
  refine ⟨⟨held, fun same => ?_⟩, ordinary⟩
  grind

-- Either way the inverted test breaks the default: an ordinary next server
-- makes Remove return before it is elected, a fakeip one is elected.
theorem removed_server {tag : String} (found : manager.registry.byTag tag = some transport) :
    (∀ item, manager.removeDefault transport = some item →
        (manager.registry.unregister tag transport).Holds item ∧ item.type ≠ dnsTypeFakeIP) ↔
      ∀ old, manager.defaultTransport = some old → old.tag = tag → manager.registry.instances = [old] := by
  obtain ⟨member, tagged⟩ := sound.listed tag transport found
  unfold TransportManager.removeDefault
  by_cases own : manager.defaultTransport = some transport
  · have single : (∀ old, manager.defaultTransport = some old → old.tag = tag → manager.registry.instances = [old]) ↔
        manager.registry.instances.erase transport = [] := by
      rw [List.erase_eq_nil_iff, or_iff_right (List.ne_nil_of_mem member)]
      simp_all
    rw [if_pos own, single, ← List.head?_eq_none_iff]
    cases next : (manager.registry.instances.erase transport).head? with
    | none => grind
    | some nextTransport =>
      refine iff_of_false ?_ (Option.some_ne_none nextTransport)
      intro kept
      by_cases fakeIP : nextTransport.type = dnsTypeFakeIP
      · grind
      have held := (kept transport ((if_pos fakeIP).trans own)).1
      exact ((unregister_holds sound.listed found).mp held).2 rfl
  rw [if_neg own]
  refine forall_congr' (fun old => forall_congr' (fun present => ?_))
  obtain ⟨held, ordinary⟩ := usable old present
  have different : old ≠ transport := by grind
  refine iff_of_true ⟨(unregister_holds sound.listed found).mpr ⟨held, different⟩, ordinary⟩ ?_
  have present := held.1
  grind

theorem step_default_server (taken : transportStep manager call = some result) :
    result.DefaultUsable ↔ KeepsDefaultServer manager call := by
  cases transport_step_change taken with
  | createFailed built => exact iff_of_true usable (forall_ok_of_error built)
  | created _ built =>
    obtain ⟨tagged, fresh⟩ := build_tag built
    refine (created_server sound usable fresh).trans ?_
    rw [tagged, KeepsDefaultServer, forall_ok_iff built]
  | missing absent =>
    apply iff_of_true usable
    intro old present same
    have held := (usable old present).1.1
    simp [same, absent] at held
  | removed _ found => exact removed_server sound usable found
  | begun => exact iff_of_true usable trivial
  | fallback =>
    refine iff_of_true ?_ trivial
    intro _ chosen
    cases chosen
    have ordinary : "local" ≠ dnsTypeFakeIP := by decide
    exact ⟨adopt_holds, ordinary⟩

end

theorem default_server_never_fakeip {defaultTag : String} (manager : TransportManager)
    (run : Run transportStep KeepsDefaultServer (newTransportManager defaultTag) manager) :
    manager.DefaultUsable ∧
    (∀ transport, manager.defaultTransport = some transport → manager.registry.dependByTag transport.tag = [] →
      ((manager.remove transport.tag).1 = .done ↔
        ∀ nextTransport, (manager.registry.instances.erase transport).head? = some nextTransport →
          nextTransport.type = dnsTypeFakeIP)) ∧
    ∀ call result, transportStep manager call = some result →
      (result.DefaultUsable ↔ KeepsDefaultServer manager call) := by
  have sound := transport_run_sound run
  have usable : manager.DefaultUsable := by
    refine (run.invariant (fun manager => manager.Sound ∧ manager.DefaultUsable) ?_ ?_).2
    · exact ⟨⟨nofun, nofun⟩, nofun⟩
    intro _ call result both keeps taken
    exact ⟨transport_step_sound both.1 taken, (step_default_server both.1 both.2 taken).mpr keeps⟩
  refine ⟨usable, ?_, fun call result taken => step_default_server sound usable taken⟩
  intro transport own free
  have held := (usable transport own).1
  rw [(remove_change held.1 (listed_not_misplaced sound.listed)).2]
  simp only [free, own, true_and, forall_const]

-- An ordinary next server: a is gone but stays the default, and Remove fails.
-- A fakeip next server: it becomes the default.
theorem default_removed_or_fakeip :
    (∃ manager, execute transportStep (newTransportManager "") [
        .create { tag := "a", created := .ok ("udp", []) },
        .create { tag := "b", created := .ok ("udp", []) }] = some manager ∧
      manager.registry.dependByTag "a" = [] ∧ (manager.remove "a").1 = .failed "default server cannot be fakeip" ∧
      (manager.remove "a").2.defaultTransport = some ⟨0, "udp", "a", []⟩ ∧
      (manager.remove "a").2.registry.instances = [⟨1, "udp", "b", []⟩]) ∧
    ∃ manager, execute transportStep (newTransportManager "") [
        .create { tag := "a", created := .ok ("udp", []) },
        .create { tag := "f", created := .ok ("fakeip", []) }, .remove "a"] = some manager ∧
      manager.defaultTransport = some ⟨1, "fakeip", "f", []⟩ :=
  ⟨⟨_, rfl, rfl, rfl, rfl, rfl⟩, _, rfl, rfl⟩

theorem replaced_default_server_usable :
    ∃ manager, execute transportStep (newTransportManager "a") [
        .create { tag := "a", created := .ok ("udp", []) },
        .create { tag := "a", created := .ok ("tls", []) }] = some manager ∧
      manager.defaultTransport = some ⟨1, "tls", "a", []⟩ ∧ manager.DefaultUsable := by
  have first : Run transportStep KeepsDefaultServer (newTransportManager "a") _ :=
    Run.next (.create { tag := "a", created := .ok ("udp", []) }) Run.refl (fun _ _ _ unset => nomatch unset) rfl
  refine ⟨_, rfl, rfl, (default_server_never_fakeip _
    (Run.next (.create { tag := "a", created := .ok ("tls", []) }) first ?_ rfl)).1⟩
  intro _ built _ _ _
  cases built
  exact ⟨rfl, by decide⟩

end

section
variable {manager : TransportManager}

def TransportManager.Unchanged (before after : TransportManager) : Prop :=
  after.registry.instances = before.registry.instances ∧ after.registry.byTag = before.registry.byTag ∧
    after.defaultTransport = before.defaultTransport ∧ after.registry.dependByTag = before.registry.dependByTag

theorem remove_server_calm {tag : String} (placed : manager.registry.misplaced tag = false) :
    ∀ message, (manager.remove tag).1 ≠ .panicked message := by
  have released : ∀ (state : TransportManager) (transport : Instance) (message : String),
      (state.releaseTransport tag transport).1 ≠ .panicked message := by
    intro state transport
    unfold TransportManager.releaseTransport
    dsimp only
    split
    · exact nofun
    · exact nofun
  grind [TransportManager.remove]

theorem remove_server_atomic_iff (manager : TransportManager) (tag : String) :
    ((∃ err, (manager.remove tag).1 = .failed err) → manager.Unchanged (manager.remove tag).2) ↔
      ∀ transport, manager.registry.byTag tag = some transport → transport ∈ manager.registry.instances →
        manager.registry.dependByTag tag = [] ∧ (manager.defaultTransport = some transport →
          ∀ nextTransport, (manager.registry.instances.erase transport).head? = some nextTransport →
            nextTransport.type = dnsTypeFakeIP) := by
  cases found : manager.registry.byTag tag with
  | none =>
    refine iff_of_true ?_ nofun
    intro _
    rw [remove_missing_server found]
    exact ⟨rfl, rfl, rfl, rfl⟩
  | some transport =>
    cases placed : manager.registry.misplaced tag with
    | true =>
      have outside : transport ∉ manager.registry.instances := by simpa [Registry.misplaced, found] using placed
      simp [remove_misplaced_server found placed, outside]
    | false =>
      have member : transport ∈ manager.registry.instances := by simpa [Registry.misplaced, found] using placed
      obtain ⟨⟨_, after⟩, done⟩ := remove_change found placed
      have changed : ¬ manager.Unchanged (manager.remove tag).2 := by
        intro unchanged
        have deleted : (manager.remove tag).2.registry.byTag tag = none := by
          rw [after]
          exact erase_same _ _
        simp [unchanged.2.1, found] at deleted
      rw [failed_unchanged_iff (remove_server_calm placed) changed, done]
      simp [member]

-- Both managers have deleted the tag by the time they refuse, so a failed
-- removal changes nothing only if there was nothing to remove. An instance
-- that is not in the list makes Remove panic: it returns no error.
theorem refused_removal_changes_nothing (outbounds : Manager) (servers : TransportManager)
    (tag : String) (closeError : Option String) :
    (((∃ err, (outbounds.remove tag closeError).1 = .failed err) →
        outbounds.Unchanged (outbounds.remove tag closeError).2) ↔
      ∀ outbound, outbounds.registry.byTag tag = some outbound → outbound ∈ outbounds.registry.instances →
        outbounds.registry.dependByTag tag = [] ∧ (outbounds.started = false ∨ closeError = none)) ∧
    (((∃ err, (servers.remove tag).1 = .failed err) → servers.Unchanged (servers.remove tag).2) ↔
      ∀ transport, servers.registry.byTag tag = some transport → transport ∈ servers.registry.instances →
        servers.registry.dependByTag tag = [] ∧ (servers.defaultTransport = some transport →
          ∀ nextTransport, (servers.registry.instances.erase transport).head? = some nextTransport →
            nextTransport.type = dnsTypeFakeIP)) :=
  ⟨remove_atomic_iff outbounds tag closeError, remove_server_atomic_iff servers tag⟩

theorem refused_removals_take_away :
    (∃ outbounds, execute managerStep (newManager "") [
        .create { tag := "a", created := .ok ("direct", []) },
        .create { tag := "c", created := .ok ("selector", ["a"]) }] = some outbounds ∧
      (∃ err, (outbounds.remove "a" none).1 = .failed err) ∧ outbounds.registry.byTag "a" ≠ none ∧
      (outbounds.remove "a" none).2.registry.byTag "a" = none) ∧
    ∃ servers, execute transportStep (newTransportManager "") [
        .create { tag := "a", created := .ok ("udp", []) },
        .create { tag := "b", created := .ok ("udp", []) }] = some servers ∧
      (∃ err, (servers.remove "a").1 = .failed err) ∧ servers.registry.byTag "a" ≠ none ∧
      (servers.remove "a").2.registry.byTag "a" = none :=
  ⟨⟨_, rfl, ⟨_, rfl⟩, nofun, rfl⟩, _, rfl, ⟨_, rfl⟩, nofun, rfl⟩

end
end OtunKernel.Dns
