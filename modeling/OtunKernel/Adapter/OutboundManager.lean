import OtunKernel.Adapter.Registry
import OtunKernel.Lib.Runs

namespace OtunKernel.Adapter

open Lib Outcome

structure Manager where
  defaultTag : String
  started : Bool := false
  stage : StartStage := .stateInitialize
  registry : Registry := {}
  defaultOutbound : Option Instance := none

def newManager (defaultTag : String) : Manager := { defaultTag := defaultTag }

-- endpoint is what the endpoint manager has under the default tag;
-- fallbackError and startError are the errors of the direct outbound and of
-- the starts behind it.
structure StartInput where
  stage : StartStage
  endpoint : Option (String × List String) := none
  fallbackError : Option String := none
  startError : Option String := none

def Manager.start (manager : Manager) (input : StartInput) : Outcome × Manager :=
  if manager.started && input.stage.index ≤ manager.stage.index then (.panicked "already started", manager)
  else
    let begun := { manager with started := true, stage := input.stage, registry := manager.registry.allocate }
    if input.stage ≠ .stateStart then (Outcome.ofError input.startError, begun)
    else if manager.defaultTag ≠ "" ∧ manager.defaultOutbound = none then
      match input.endpoint with
      | none => (.failed ("default outbound not found: " ++ manager.defaultTag), begun)
      | some (type, dependencies) =>
        let defaultEndpoint : Instance := ⟨manager.registry.nextId, type, manager.defaultTag, dependencies⟩
        (Outcome.ofError input.startError, { begun with defaultOutbound := some defaultEndpoint })
    else if manager.defaultOutbound = none then
      match input.fallbackError with
      | some err => (.failed ("create direct outbound for fallback: " ++ err), begun)
      | none =>
        let directOutbound : Instance := ⟨manager.registry.nextId, "direct", "direct", []⟩
        (Outcome.ofError input.startError,
          { begun with registry := begun.registry.adopt directOutbound, defaultOutbound := some directOutbound })
    else (Outcome.ofError input.startError, begun)

def Manager.remove (manager : Manager) (tag : String) (closeError : Option String) : Outcome × Manager :=
  match manager.registry.byTag tag with
  | none => (.failed errInvalid, manager)
  | some outbound =>
    if manager.registry.misplaced tag then
      (.panicked "invalid inbound index", { manager with registry := manager.registry.forget tag })
    else
      let registry := manager.registry.unregister tag outbound
      let defaultOutbound :=
        if manager.defaultOutbound = some outbound then registry.instances.head? else manager.defaultOutbound
      let dependBy := registry.dependByTag tag
      if dependBy ≠ [] then
        (.failed ("outbound[" ++ tag ++ "] is depended by " ++ ", ".intercalate dependBy),
          { manager with registry := registry, defaultOutbound := defaultOutbound })
      else
        (Outcome.ofError (if manager.started then closeError else none),
          { manager with registry := registry.release tag outbound, defaultOutbound := defaultOutbound })

def Manager.create (manager : Manager) (input : CreateInput) : Outcome × Manager :=
  let allocated := { manager with registry := manager.registry.allocate }
  match input.build "outbound/" manager.started manager.registry with
  | .error err => (.failed err, allocated)
  | .ok outbound =>
    if manager.registry.misplaced input.tag then (.panicked "invalid inbound index", allocated)
    else
      let isDefault :=
        input.tag = manager.defaultTag ∨ (manager.defaultTag = "" ∧ manager.defaultOutbound = none)
      (.done, { manager with
        registry := allocated.registry.register outbound
        defaultOutbound := if isDefault then some outbound else manager.defaultOutbound })

inductive ManagerCall where
  | create (input : CreateInput)
  | remove (tag : String) (closeError : Option String)
  | start (input : StartInput)

def Manager.call (manager : Manager) : ManagerCall → Outcome × Manager
  | .create input => manager.create input
  | .remove tag closeError => manager.remove tag closeError
  | .start input => manager.start input

def managerStep : System Manager ManagerCall := fun manager call =>
  (manager.call call).1.survives (manager.call call).2

structure Manager.Sound (manager : Manager) : Prop where
  wellFormed : manager.registry.WellFormed
  elected : manager.defaultTag = "" → manager.defaultOutbound = none → manager.registry.instances = []

variable {manager result : Manager} {outbound : Instance}

section
variable {tag : String} {input : CreateInput}

def Manager.createDefault (manager : Manager) (outbound : Instance) : Option Instance :=
  if outbound.tag = manager.defaultTag ∨ (manager.defaultTag = "" ∧ manager.defaultOutbound = none) then some outbound
  else manager.defaultOutbound

abbrev Manager.created (manager : Manager) (outbound : Instance) : Manager :=
  { manager with registry := manager.registry.allocate.register outbound, defaultOutbound := manager.createDefault outbound }

def Manager.removeDefault (manager : Manager) (outbound : Instance) : Option Instance :=
  if manager.defaultOutbound = some outbound then (manager.registry.instances.erase outbound).head?
  else manager.defaultOutbound

theorem create_failed {err : String} (built : input.build "outbound/" manager.started manager.registry = .error err) :
    manager.create input = (.failed err, { manager with registry := manager.registry.allocate }) := by
  simp only [Manager.create, built]

theorem remove_missing (absent : manager.registry.byTag tag = none) (closeError : Option String) :
    manager.remove tag closeError = (.failed errInvalid, manager) := by
  simp only [Manager.remove, absent]

def Manager.begun (manager : Manager) (stage : StartStage) : Manager :=
  { manager with started := true, stage := stage, registry := manager.registry.allocate }

def Manager.NeedsEndpoint (manager : Manager) (stage : StartStage) : Prop :=
  stage = .stateStart ∧ manager.defaultTag ≠ "" ∧ manager.defaultOutbound = none

inductive ManagerChange (manager : Manager) : ManagerCall → Manager → Prop where
  | createFailed {input : CreateInput} {err : String}
      (built : input.build "outbound/" manager.started manager.registry = .error err) :
      ManagerChange manager (.create input) { manager with registry := manager.registry.allocate }
  | created {input : CreateInput} {outbound : Instance}
      (built : input.build "outbound/" manager.started manager.registry = .ok outbound)
      (placed : manager.registry.misplaced input.tag = false) :
      ManagerChange manager (.create input) (manager.created outbound)
  | missing {tag : String} {closeError : Option String} (absent : manager.registry.byTag tag = none) :
      ManagerChange manager (.remove tag closeError) manager
  | refused {tag : String} {closeError : Option String} {outbound : Instance}
      (found : manager.registry.byTag tag = some outbound) (depended : manager.registry.dependByTag tag ≠ [])
      (placed : manager.registry.misplaced tag = false) :
      ManagerChange manager (.remove tag closeError) { manager with
        registry := manager.registry.unregister tag outbound, defaultOutbound := manager.removeDefault outbound }
  | released {tag : String} {closeError : Option String} {outbound : Instance}
      (found : manager.registry.byTag tag = some outbound) (free : manager.registry.dependByTag tag = [])
      (placed : manager.registry.misplaced tag = false) :
      ManagerChange manager (.remove tag closeError) { manager with
        registry := (manager.registry.unregister tag outbound).release tag outbound
        defaultOutbound := manager.removeDefault outbound }
  | begun {input : StartInput} (own : manager.NeedsEndpoint input.stage → input.endpoint = none) :
      ManagerChange manager (.start input) (manager.begun input.stage)
  | endpoint {input : StartInput} {type : String} {dependencies : List String}
      (needed : manager.NeedsEndpoint input.stage) (present : input.endpoint = some (type, dependencies)) :
      ManagerChange manager (.start input) { manager.begun input.stage with
        defaultOutbound := some ⟨manager.registry.nextId, type, manager.defaultTag, dependencies⟩ }
  | fallback {input : StartInput} (untagged : manager.defaultTag = "") (unset : manager.defaultOutbound = none) :
      ManagerChange manager (.start input) { manager.begun input.stage with
        registry := manager.registry.allocate.adopt ⟨manager.registry.nextId, "direct", "direct", []⟩
        defaultOutbound := some ⟨manager.registry.nextId, "direct", "direct", []⟩ }

theorem start_change {input : StartInput} (taken : (manager.start input).1.survives (manager.start input).2 = some result) :
    ManagerChange manager (.start input) result := by
  revert taken
  fun_cases manager.start input <;> intro taken <;> try cases taken
  · rename_i other
    rw [← survives_eq_some taken]
    exact .begun (fun needed => absurd needed.1 other)
  · rename_i absent
    exact .begun (fun _ => absent)
  · rename_i atStart needed _ _ present _
    rw [← survives_eq_some taken]
    exact .endpoint ⟨not_not.mp atStart, needed⟩ present
  · rename_i unneeded _ _ _
    exact .begun (fun needed => absurd needed.2 unneeded)
  · rename_i unneeded unset _ _
    rw [← survives_eq_some taken]
    exact .fallback (by grind) unset
  · rename_i unneeded _
    rw [← survives_eq_some taken]
    exact .begun (fun needed => absurd needed.2 unneeded)

theorem create_done (built : input.build "outbound/" manager.started manager.registry = .ok outbound)
    (placed : manager.registry.misplaced input.tag = false) : manager.create input = (.done, manager.created outbound) := by
  simp only [Manager.create, built, placed, Bool.false_eq_true, if_false, Manager.created, Manager.createDefault, (build_tag built).1]

section
variable (found : manager.registry.byTag tag = some outbound)
include found

theorem remove_misplaced (misplaced : manager.registry.misplaced tag = true) (closeError : Option String) :
    (manager.remove tag closeError).1 = .panicked "invalid inbound index" := by
  simp only [Manager.remove, found, misplaced, if_true]

variable (placed : manager.registry.misplaced tag = false)
include placed

theorem remove_refused (depended : manager.registry.dependByTag tag ≠ []) (closeError : Option String) :
    manager.remove tag closeError =
      (.failed ("outbound[" ++ tag ++ "] is depended by " ++ ", ".intercalate (manager.registry.dependByTag tag)), { manager with
          registry := manager.registry.unregister tag outbound, defaultOutbound := manager.removeDefault outbound }) := by
  simp only [Manager.remove, found, placed, Bool.false_eq_true, if_false]
  exact if_pos depended

theorem remove_released (free : manager.registry.dependByTag tag = []) (closeError : Option String) :
    manager.remove tag closeError = (Outcome.ofError (if manager.started then closeError else none), { manager with
      registry := (manager.registry.unregister tag outbound).release tag outbound
      defaultOutbound := manager.removeDefault outbound }) := by
  simp only [Manager.remove, found, placed, Bool.false_eq_true, if_false]
  exact if_neg (fun depended => depended free)

end

-- A call that survives has found what it takes out of the list.
theorem step_change {call : ManagerCall} (taken : managerStep manager call = some result) : ManagerChange manager call result := by
  cases call with
  | create input =>
    cases built : input.build "outbound/" manager.started manager.registry with
    | error =>
      simp only [managerStep, Manager.call, create_failed built, survives, Option.some.injEq] at taken
      subst taken
      exact ManagerChange.createFailed built
    | ok =>
      cases placed : manager.registry.misplaced input.tag with
      | true => simp [managerStep, Manager.call, Manager.create, built, placed, survives] at taken
      | false =>
        simp only [managerStep, Manager.call, create_done built placed, survives, Option.some.injEq] at taken
        subst taken
        exact ManagerChange.created built placed
  | remove tag =>
    cases found : manager.registry.byTag tag with
    | none =>
      simp only [managerStep, Manager.call, remove_missing found, survives, Option.some.injEq] at taken
      subst taken
      exact ManagerChange.missing found
    | some =>
      cases placed : manager.registry.misplaced tag with
      | true => simp [managerStep, Manager.call, remove_misplaced found placed, survives] at taken
      | false =>
        by_cases free : manager.registry.dependByTag tag = []
        · simp only [managerStep, Manager.call, remove_released found placed free] at taken
          simpa [← survives_eq_some taken] using ManagerChange.released found free placed
        simp only [managerStep, Manager.call, remove_refused found placed free] at taken
        simpa [← survives_eq_some taken] using ManagerChange.refused found free placed
  | start => exact start_change taken

end

variable {call : ManagerCall}

section
variable {defaultTag : String}

section
variable (sound : manager.Sound)
include sound

theorem created_sound (fresh : outbound.id = manager.registry.nextId) : (manager.created outbound).Sound := by
  refine ⟨register_well_formed sound.wellFormed fresh, ?_⟩
  grind [Manager.createDefault]

theorem removed_elected (untagged : manager.defaultTag = "")
    (unset : manager.removeDefault outbound = none) : manager.registry.instances.erase outbound = [] := by
  unfold Manager.removeDefault at unset
  split at unset
  · exact List.head?_eq_none_iff.mp unset
  · rw [sound.elected untagged unset, List.erase_nil]

theorem none_registered (untagged : manager.defaultTag = "")
    (unset : manager.defaultOutbound = none) : manager.registry.byTag "direct" = none := by
  refine Option.eq_none_iff_forall_ne_some.mpr (fun item found => ?_)
  have member := (sound.wellFormed.listed "direct" item found).1
  simp [sound.elected untagged unset] at member

theorem step_sound (taken : managerStep manager call = some result) : result.Sound := by
  have wellFormed := sound.wellFormed
  have allocated := allocate_well_formed wellFormed
  cases step_change taken with
  | createFailed | begun => exact ⟨allocated, sound.elected⟩
  | created built => exact created_sound sound (build_tag built).2
  | missing => exact sound
  | refused found => exact ⟨unregister_well_formed wellFormed found, removed_elected sound⟩
  | released found =>
    have rest := unregister_well_formed wellFormed found
    exact ⟨⟨rest.listed, rest.registered, rest.nodup, rest.older⟩, removed_elected sound⟩
  | endpoint => exact ⟨allocated, fun _ unset => nomatch unset⟩
  | fallback untagged unset =>
    rw [adopt_eq_register (none_registered sound untagged unset) rfl]
    exact ⟨register_well_formed wellFormed rfl, fun _ absent => nomatch absent⟩

end

theorem remove_calm {tag : String} (placed : manager.registry.misplaced tag = false) (closeError : Option String) :
    ∀ message, (manager.remove tag closeError).1 ≠ .panicked message := by
  cases found : manager.registry.byTag tag with
  | none => rw [remove_missing found]; exact nofun
  | some =>
    by_cases free : manager.registry.dependByTag tag = []
    · rw [remove_released found placed free]
      cases (if manager.started then closeError else none) with
      | none | some => exact nofun
    rw [remove_refused found placed free]
    exact nofun

theorem new_manager_sound (defaultTag : String) : (newManager defaultTag).Sound :=
  ⟨⟨nofun, nofun, List.nodup_nil, nofun⟩, fun _ _ => rfl⟩

theorem run_sound {allowed : Manager → ManagerCall → Prop}
    (run : Run managerStep allowed (newManager defaultTag) manager) : manager.Sound :=
  run.invariant Manager.Sound (new_manager_sound defaultTag) (fun _ _ _ sound _ taken => step_sound sound taken)

end

def Manager.DefaultRegistered (manager : Manager) : Prop :=
  ∀ outbound, manager.defaultOutbound = some outbound → manager.registry.Holds outbound

-- Create replaces the default outbound only under the default tag, and Start
-- does not take the default from the endpoint manager.
def KeepsDefault (manager : Manager) : ManagerCall → Prop
  | .create input => ∀ outbound, input.build "outbound/" manager.started manager.registry = .ok outbound →
      ∀ old, manager.defaultOutbound = some old → old.tag = input.tag → input.tag = manager.defaultTag
  | .remove _ _ => True
  | .start input => manager.NeedsEndpoint input.stage → input.endpoint = none

section
variable (sound : manager.Sound) (registered : manager.DefaultRegistered)
include sound registered

theorem created_default (fresh : outbound.id = manager.registry.nextId) :
    (manager.created outbound).DefaultRegistered ↔
      ∀ old, manager.defaultOutbound = some old → old.tag = outbound.tag → outbound.tag = manager.defaultTag := by
  have listed : manager.registry.allocate.Listed := sound.wellFormed.listed
  unfold Manager.DefaultRegistered Manager.created Manager.createDefault
  by_cases chosen : outbound.tag = manager.defaultTag ∨ (manager.defaultTag = "" ∧ manager.defaultOutbound = none)
  · grind [register_holds]
  simp only [if_neg chosen]
  refine forall_congr' (fun old => forall_congr' (fun present => ?_))
  have held := registered old present
  have different : old ≠ outbound := by
    rintro rfl
    have earlier := sound.wellFormed.older old held.2
    omega
  rw [register_holds_other listed different]
  constructor
  · simp_all
  intro only
  refine ⟨held, fun same => chosen (.inl (only same))⟩

variable {tag : String}

theorem removed_default (found : manager.registry.byTag tag = some outbound) :
    ∀ item, manager.removeDefault outbound = some item → (manager.registry.unregister tag outbound).Holds item := by
  intro item elected
  unfold Manager.removeDefault at elected
  split at elected
  · have member := List.mem_of_mem_head? elected
    exact ⟨(unregister_well_formed sound.wellFormed found).registered item member, member⟩
  rename_i other
  refine (unregister_holds sound.wellFormed.listed found).mpr ⟨registered item elected, ?_⟩
  rintro rfl
  exact other elected

theorem step_default (taken : managerStep manager call = some result) : result.DefaultRegistered ↔ KeepsDefault manager call := by
  cases step_change taken with
  | createFailed built => exact iff_of_true registered (forall_ok_of_error built)
  | created built =>
    obtain ⟨tagged, fresh⟩ := build_tag built
    rw [created_default sound registered fresh, tagged, KeepsDefault, forall_ok_iff built]
  | missing => exact iff_of_true registered trivial
  | refused found | released found => exact iff_of_true (removed_default sound registered found) trivial
  | begun own => exact iff_of_true registered own
  | endpoint needed present =>
    apply iff_of_false
    · intro kept
      have earlier := sound.wellFormed.older _ (kept _ rfl).2
      grind
    intro own
    simp [own needed] at present
  | fallback untagged =>
    refine iff_of_true ?_ (fun needed => absurd untagged needed.2.1)
    intro _ chosen
    cases chosen
    exact adopt_holds

end

theorem default_outbound_registered {defaultTag : String} (manager : Manager)
    (run : Run managerStep KeepsDefault (newManager defaultTag) manager) :
    manager.DefaultRegistered ∧ ∀ call result, managerStep manager call = some result →
      (result.DefaultRegistered ↔ KeepsDefault manager call) := by
  have sound := run_sound run
  have registered : manager.DefaultRegistered := by
    refine (run.invariant (fun manager => manager.Sound ∧ manager.DefaultRegistered) ?_ ?_).2
    · exact ⟨new_manager_sound defaultTag, fun _ unset => nomatch unset⟩
    intro _ _ _ both keeps taken
    exact ⟨step_sound both.1 taken, (step_default both.1 both.2 taken).mpr keeps⟩
  grind [step_default]

theorem replaced_outbound_stays_default :
    ∃ manager, execute managerStep (newManager "") [
        .create { tag := "a", created := .ok ("direct", []) }, .start { stage := .stateStart },
        .create { tag := "a", created := .ok ("direct", []) }] = some manager ∧
      manager.started = true ∧ manager.defaultOutbound = some ⟨0, "direct", "a", []⟩ ∧
      manager.registry.instances = [⟨2, "direct", "a", []⟩] ∧ ¬ manager.DefaultRegistered := by
  refine ⟨_, rfl, rfl, rfl, rfl, ?_⟩
  intro registered
  exact absurd (registered ⟨0, "direct", "a", []⟩ rfl).2 (by decide)

theorem replaced_default_tag_followed :
    ∃ manager, execute managerStep (newManager "a") [
        .create { tag := "a", created := .ok ("direct", []) },
        .create { tag := "a", created := .ok ("direct", []) }] = some manager ∧
      manager.defaultOutbound = some ⟨1, "direct", "a", []⟩ ∧ manager.DefaultRegistered := by
  have first : Run managerStep KeepsDefault (newManager "a") _ :=
    Run.next (.create { tag := "a", created := .ok ("direct", []) }) Run.refl (fun _ _ _ unset => nomatch unset) rfl
  have second : Run managerStep KeepsDefault (newManager "a") _ :=
    Run.next (.create { tag := "a", created := .ok ("direct", []) }) first (fun _ _ _ _ _ => rfl) rfl
  exact ⟨_, rfl, rfl, (default_outbound_registered _ second).1⟩

def KeepsIndex (manager : Manager) : ManagerCall → Prop
  | .create input => ∀ outbound, input.build "outbound/" manager.started manager.registry = .ok outbound →
      ∀ old, manager.registry.byTag input.tag = some old → ∀ dependency ∈ old.dependencies, dependency ∈ outbound.dependencies
  | .remove tag _ => ∀ outbound, manager.registry.byTag tag = some outbound →
      if manager.registry.dependByTag tag = [] then manager.registry.ReleasesOwn tag outbound else outbound.dependencies = []
  | .start _ => True

theorem step_index (sound : manager.Sound) (exact_ : manager.registry.IndexExact)
    (taken : managerStep manager call = some result) : result.registry.IndexExact ↔ KeepsIndex manager call := by
  have allocated : manager.registry.allocate.IndexExact := exact_
  cases step_change taken with
  | createFailed built => exact iff_of_true exact_ (forall_ok_of_error built)
  | created built =>
    rw [register_exact_iff allocated, (build_tag built).1, KeepsIndex, forall_ok_iff built]
    rfl
  | missing absent =>
    apply iff_of_true exact_
    intro _ found
    simp [absent] at found
  | refused found depended => grind [unregister_stale_iff, KeepsIndex]
  | released found free => grind [unregister_exact_iff, KeepsIndex]
  | begun | endpoint => exact iff_of_true exact_ trivial
  | fallback untagged unset =>
    refine iff_of_true ?_ trivial
    rw [adopt_eq_register (none_registered sound untagged unset) rfl]
    refine (register_exact_iff allocated).mpr ?_
    intro old found
    exact absurd (found.symm.trans (none_registered sound untagged unset)) (Option.some_ne_none old)

theorem run_index {defaultTag : String} (run : Run managerStep KeepsIndex (newManager defaultTag) manager) :
    manager.registry.IndexExact := by
  refine (run.invariant (fun manager => manager.Sound ∧ manager.registry.IndexExact) ?_ ?_).2
  · exact ⟨new_manager_sound defaultTag, fun _ _ => iff_of_false List.not_mem_nil (fun ⟨_, found, _⟩ => nomatch found)⟩
  intro _ _ _ both keeps taken
  exact ⟨step_sound both.1 taken, (step_index both.1 both.2 taken).mpr keeps⟩

theorem remove_done_iff {closeError : Option String} (found : manager.registry.byTag tag = some outbound)
    (placed : manager.registry.misplaced tag = false) : (manager.remove tag closeError).1 = .done ↔
      manager.registry.dependByTag tag = [] ∧ (manager.started = false ∨ closeError = none) := by
  by_cases free : manager.registry.dependByTag tag = []
  · rw [remove_released found placed free]
    cases started : manager.started with
    | false => simp [free, ofError]
    | true =>
      cases closeError with
      | none => simp [free, ofError]
      | some => simp [ofError]
  · simp [remove_refused found placed free, free]

theorem dependency_index_exact {defaultTag : String} (manager : Manager)
    (run : Run managerStep KeepsIndex (newManager defaultTag) manager) :
    manager.registry.IndexExact ∧
    (∀ tag outbound closeError, manager.registry.byTag tag = some outbound →
      manager.started = false ∨ closeError = none →
      ((manager.remove tag closeError).1 ≠ .done ↔
        ∃ user item, manager.registry.byTag user = some item ∧ tag ∈ item.dependencies)) ∧
    ∀ call result, managerStep manager call = some result →
      (result.registry.IndexExact ↔ KeepsIndex manager call) := by
  have sound := run_sound run
  have exact_ := run_index run
  refine ⟨exact_, ?_, fun call result taken => step_index sound exact_ taken⟩
  intro tag _ _ found closes
  have placed : manager.registry.misplaced tag = false := listed_not_misplaced sound.wellFormed.listed
  rw [Ne, remove_done_iff found placed, and_iff_left closes, List.eq_nil_iff_forall_not_mem, not_forall]
  refine exists_congr (fun user => ?_)
  rw [not_not, exact_ tag user]

-- First, a replaced outbound leaves its entry and the removal of a is refused.
-- Then, x names d twice and takes the entry of y along, so that d is removed
-- although y depends on it.
theorem index_stale_and_short :
    (∃ manager, execute managerStep (newManager "") [
        .create { tag := "a", created := .ok ("direct", []) },
        .create { tag := "c", created := .ok ("selector", ["a"]) },
        .create { tag := "c", created := .ok ("selector", []) }] = some manager ∧
      manager.registry.dependByTag "a" = ["c"] ∧ (manager.remove "a" none).1 ≠ .done ∧
      manager.registry.instances.map Instance.dependencies = [[], []]) ∧
    ∃ manager, execute managerStep (newManager "") [
        .create { tag := "d", created := .ok ("direct", []) },
        .create { tag := "x", created := .ok ("selector", ["d", "d"]) },
        .create { tag := "y", created := .ok ("selector", ["d"]) }, .remove "x" none] = some manager ∧
      manager.registry.dependByTag "d" = [] ∧ (manager.remove "d" none).1 = .done ∧
      manager.registry.byTag "y" = some ⟨2, "selector", "y", ["d"]⟩ := by
  refine ⟨⟨_, rfl, rfl, ?_, rfl⟩, _, rfl, rfl, rfl, rfl⟩
  intro done
  contradiction

theorem widened_dependencies_indexed :
    ∃ manager, execute managerStep (newManager "") [
        .create { tag := "c", created := .ok ("selector", ["a"]) },
        .create { tag := "c", created := .ok ("selector", ["a", "b"]) }] = some manager ∧
      manager.registry.IndexExact := by
  have first : Run managerStep KeepsIndex (newManager "") _ :=
    Run.next (.create { tag := "c", created := .ok ("selector", ["a"]) }) Run.refl (fun _ _ _ absent => nomatch absent) rfl
  refine ⟨_, rfl, (dependency_index_exact _
    (Run.next (.create { tag := "c", created := .ok ("selector", ["a", "b"]) }) first ?_ rfl)).1⟩
  intro outbound built old found dependency depends
  cases built
  cases found
  grind

section
variable {manager : Manager}

def Manager.Unchanged (before after : Manager) : Prop :=
  after.registry.instances = before.registry.instances ∧ after.registry.byTag = before.registry.byTag ∧
    after.defaultOutbound = before.defaultOutbound ∧ after.registry.dependByTag = before.registry.dependByTag

theorem remove_deletes (found : manager.registry.byTag tag = some outbound)
    (placed : manager.registry.misplaced tag = false) (closeError : Option String) :
    (manager.remove tag closeError).2.registry.byTag tag = none := by
  by_cases free : manager.registry.dependByTag tag = []
  · rw [remove_released found placed free]
    exact erase_same _ _
  rw [remove_refused found placed free]
  exact erase_same _ _

theorem remove_atomic_iff (manager : Manager) (tag : String) (closeError : Option String) :
    ((∃ err, (manager.remove tag closeError).1 = .failed err) → manager.Unchanged (manager.remove tag closeError).2) ↔
      ∀ outbound, manager.registry.byTag tag = some outbound → outbound ∈ manager.registry.instances →
        manager.registry.dependByTag tag = [] ∧ (manager.started = false ∨ closeError = none) := by
  cases found : manager.registry.byTag tag with
  | none =>
    refine iff_of_true ?_ nofun
    intro _
    rw [remove_missing found]
    exact ⟨rfl, rfl, rfl, rfl⟩
  | some outbound =>
    cases placed : manager.registry.misplaced tag with
    | true =>
      have outside : outbound ∉ manager.registry.instances := by simpa [Registry.misplaced, found] using placed
      simp [remove_misplaced found placed, outside]
    | false =>
      have member : outbound ∈ manager.registry.instances := by simpa [Registry.misplaced, found] using placed
      have changed : ¬ manager.Unchanged (manager.remove tag closeError).2 := by
        intro unchanged
        have deleted := remove_deletes found placed closeError
        simp [unchanged.2.1, found] at deleted
      rw [failed_unchanged_iff (remove_calm placed closeError) changed, remove_done_iff found placed]
      simp [member]

end
end OtunKernel.Adapter
