import Mathlib.Data.List.Nodup
import OtunKernel.Lib.Basic
import OtunKernel.Lib.PartialMap

namespace OtunKernel.Adapter

open Lib

inductive StartStage where
  | stateInitialize
  | stateStart
  | statePostStart
  | stateStarted
deriving DecidableEq, Repr

def StartStage.text : StartStage → String
  | .stateInitialize => "initialize"
  | .stateStart => "start"
  | .statePostStart => "post-start"
  | .stateStarted => "finish-start"

def StartStage.index : StartStage → Nat
  | .stateInitialize => 0
  | .stateStart => 1
  | .statePostStart => 2
  | .stateStarted => 3

def listStartStages : List StartStage := [.stateInitialize, .stateStart, .statePostStart, .stateStarted]

-- An outbound or a DNS transport. Every constructor call makes a new instance,
-- which the id stands for.
structure Instance where
  id : Nat
  type : String
  tag : String
  dependencies : List String
deriving DecidableEq, Repr

def Instance.name (item : Instance) : String := item.type ++ "[" ++ item.tag ++ "]"

inductive Outcome where
  | done
  | failed (err : String)
  | panicked (message : String)
deriving DecidableEq, Repr

def Outcome.ofError : Option String → Outcome
  | none => .done
  | some err => .failed err

def Outcome.survives {σ : Type} (outcome : Outcome) (result : σ) : Option σ :=
  match outcome with
  | .panicked _ => none
  | _ => some result

variable {outcome : Outcome}

theorem survives_eq_some {σ : Type} {state result : σ} (survived : outcome.survives state = some result) : state = result := by
  cases outcome with
  | done | failed => exact Option.some.inj survived
  | panicked => contradiction

theorem failed_unchanged_iff {unchanged : Prop} (calm : ∀ message, outcome ≠ .panicked message)
    (changed : ¬ unchanged) : ((∃ err, outcome = .failed err) → unchanged) ↔ outcome = .done := by
  cases outcome with
  | done => simp
  | failed => simp [changed]
  | panicked message => grind

def errInvalid : String := "invalid argument"

-- What both managers keep. A missing key of dependByTag reads as the empty
-- list. nextId is the id of the next instance.
structure Registry where
  instances : List Instance := []
  byTag : String → Option Instance := fun _ => none
  dependByTag : String → List String := fun _ => []
  nextId : Nat := 0

def addDependencies (dependByTag : String → List String) (tag : String) (dependencies : List String) :
    String → List String :=
  dependencies.foldl (fun index dependency => Function.update index dependency (index dependency ++ [tag])) dependByTag

def releaseDependency (tag : String) (dependBy : List String) : List String :=
  if dependBy.length = 1 then [] else dependBy.filter (· ≠ tag)

def releaseDependencies (dependByTag : String → List String) (tag : String) (dependencies : List String) :
    String → List String :=
  dependencies.foldl (fun index dependency => Function.update index dependency (releaseDependency tag (index dependency)))
    dependByTag

def Registry.allocate (registry : Registry) : Registry := { registry with nextId := registry.nextId + 1 }

def Registry.others (registry : Registry) (tag : String) : List Instance :=
  match registry.byTag tag with
  | some old => registry.instances.erase old
  | none => registry.instances

def Registry.register (registry : Registry) (item : Instance) : Registry :=
  { registry with
    instances := registry.others item.tag ++ [item]
    byTag := put registry.byTag item.tag item
    dependByTag := addDependencies registry.dependByTag item.tag item.dependencies }

def Registry.unregister (registry : Registry) (tag : String) (item : Instance) : Registry :=
  { registry with instances := registry.instances.erase item, byTag := erase registry.byTag tag }

def Registry.forget (registry : Registry) (tag : String) : Registry := { registry with byTag := erase registry.byTag tag }

def Registry.release (registry : Registry) (tag : String) (item : Instance) : Registry :=
  { registry with dependByTag := releaseDependencies registry.dependByTag tag item.dependencies }

def Registry.adopt (registry : Registry) (item : Instance) : Registry :=
  { registry with instances := registry.instances ++ [item], byTag := put registry.byTag item.tag item }

def Registry.misplaced (registry : Registry) (tag : String) : Bool :=
  match registry.byTag tag with
  | some item => !registry.instances.contains item
  | none => false

-- The arguments of Create with what its calls return: type and dependencies of
-- the instance, the errors of starting it and of closing the one it replaces.
structure CreateInput where
  tag : String
  created : Except String (String × List String)
  start : StartStage → Option String := fun _ => none
  close : Option String := none

def CreateInput.failure (input : CreateInput) (label : String) (started : Bool) (registry : Registry)
    (item : Instance) : Option String :=
  if started then
    let startError := listStartStages.findSome? (fun stage =>
      (input.start stage).map (fun err => stage.text ++ " " ++ label ++ item.name ++ ": " ++ err))
    let closeError := (registry.byTag input.tag).bind (fun old =>
      input.close.map (fun err => "close " ++ label ++ old.name ++ ": " ++ err))
    startError.or closeError
  else none

def CreateInput.build (input : CreateInput) (label : String) (started : Bool) (registry : Registry) :
    Except String Instance :=
  if input.tag = "" then .error errInvalid
  else
    match input.created with
    | .error err => .error err
    | .ok (type, dependencies) =>
      let item : Instance := ⟨registry.nextId, type, input.tag, dependencies⟩
      match input.failure label started registry item with
      | some err => .error err
      | none => .ok item

def Registry.Listed (registry : Registry) : Prop :=
  ∀ tag item, registry.byTag tag = some item → item ∈ registry.instances ∧ item.tag = tag

def Registry.Holds (registry : Registry) (item : Instance) : Prop :=
  registry.byTag item.tag = some item ∧ item ∈ registry.instances

def Registry.Older (registry : Registry) : Prop := ∀ item ∈ registry.instances, item.id < registry.nextId

structure Registry.WellFormed (registry : Registry) : Prop where
  listed : registry.Listed
  registered : ∀ item ∈ registry.instances, registry.byTag item.tag = some item
  nodup : registry.instances.Nodup
  older : registry.Older

section
variable {dependByTag : String → List String} {tag other dependency : String} {dependencies : List String}

theorem append_iterate (items : List String) (count : Nat) :
    (fun items => items ++ [tag])^[count] items = items ++ List.replicate count tag := by
  induction count generalizing items with
  | zero => simp
  | succ _ ih => rw [Function.iterate_succ_apply, ih, List.append_assoc, List.singleton_append, List.replicate_succ]

theorem add_dependencies_mem : other ∈ addDependencies dependByTag tag dependencies dependency ↔
      other ∈ dependByTag dependency ∨ (other = tag ∧ dependency ∈ dependencies) := by
  rw [addDependencies, foldl_update_apply (fun items => items ++ [tag]), append_iterate, List.mem_append,
    List.mem_replicate, ← List.count_pos_iff (a := dependency), Nat.pos_iff_ne_zero, and_comm (a := other = tag)]

theorem release_filtered (dependBy : List String) :
    releaseDependency tag (dependBy.filter (· ≠ tag)) =
      if (dependBy.filter (· ≠ tag)).length = 1 then [] else dependBy.filter (· ≠ tag) := by
  simp [releaseDependency]

theorem release_iterate (dependBy : List String) (present : tag ∈ dependBy) (count : Nat) :
    (releaseDependency tag)^[count] dependBy =
      if count = 0 then dependBy
      else if 2 ≤ count ∧ (dependBy.filter (· ≠ tag)).length = 1 then []
      else dependBy.filter (· ≠ tag) := by
  have first : releaseDependency tag dependBy = dependBy.filter (· ≠ tag) := by
    grind [releaseDependency, List.length_eq_one_iff]
  have again : ∀ count, (releaseDependency tag)^[count + 1] (dependBy.filter (· ≠ tag)) =
      if (dependBy.filter (· ≠ tag)).length = 1 then [] else dependBy.filter (· ≠ tag) := by
    intro count
    induction count with
    | zero => exact release_filtered dependBy
    | succ _ ih =>
      rw [Function.iterate_succ_apply', ih]
      split
      · rfl
      · grind [release_filtered]
  cases count with
  | zero => rfl
  | succ count =>
    rw [Function.iterate_succ_apply, first]
    cases count with
    | zero => simp
    | succ => rw [again]; simp

theorem release_dependencies_eq (present : tag ∈ dependByTag dependency) :
    releaseDependencies dependByTag tag dependencies dependency =
      if dependencies.count dependency = 0 then dependByTag dependency
      else if 2 ≤ dependencies.count dependency ∧ ((dependByTag dependency).filter (· ≠ tag)).length = 1 then []
      else (dependByTag dependency).filter (· ≠ tag) := by
  rw [releaseDependencies, foldl_update_apply (releaseDependency tag), release_iterate _ present]

theorem release_dependencies_other (absent : dependency ∉ dependencies) :
    releaseDependencies dependByTag tag dependencies dependency = dependByTag dependency := by
  simp [releaseDependencies, foldl_update_apply (releaseDependency tag), List.count_eq_zero_of_not_mem absent]

end

section
variable {registry : Registry} {item other : Instance} {tag : String}

theorem others_subset (member : other ∈ registry.others tag) : other ∈ registry.instances := by
  grind [Registry.others]

theorem others_tag_ne (wellFormed : registry.WellFormed) (member : other ∈ registry.others tag) : other.tag ≠ tag := by
  rintro rfl
  have present := wellFormed.registered other (others_subset member)
  rw [Registry.others, present] at member
  exact absurd rfl ((wellFormed.nodup.mem_erase_iff).mp member).1

section
variable (listed : registry.Listed)
include listed

theorem mem_others (member : other ∈ registry.instances) (different : other.tag ≠ tag) : other ∈ registry.others tag := by
  unfold Registry.others
  split
  · rename_i found
    refine (List.mem_erase_of_ne ?_).mpr member
    rintro rfl
    exact different (listed tag other found).2
  · exact member

theorem register_listed : (registry.register item).Listed := by
  intro tag found present
  rcases put_eq_some.mp present with ⟨same, rfl⟩ | ⟨different, present⟩
  · exact ⟨List.mem_append_right _ List.mem_cons_self, same.symm⟩
  obtain ⟨member, tagged⟩ := listed tag found present
  exact ⟨List.mem_append_left _ (mem_others listed member (tagged ▸ different)), tagged⟩

theorem unregister_listed (found : registry.byTag tag = some item) : (registry.unregister tag item).Listed := by
  intro wanted other present
  obtain ⟨different, present⟩ := erase_eq_some.mp present
  obtain ⟨member, tagged⟩ := listed wanted other present
  refine ⟨(List.mem_erase_of_ne ?_).mpr member, tagged⟩
  rintro rfl
  exact different (tagged.symm.trans (listed tag other found).2)

theorem adopt_listed : (registry.adopt item).Listed := by
  intro tag found present
  rcases put_eq_some.mp present with ⟨same, rfl⟩ | ⟨_, present⟩
  · exact ⟨List.mem_append_right _ List.mem_cons_self, same.symm⟩
  obtain ⟨member, tagged⟩ := listed tag found present
  exact ⟨List.mem_append_left _ member, tagged⟩

theorem listed_not_misplaced : registry.misplaced tag = false := by
  unfold Registry.misplaced
  split
  · rename_i found
    simpa using (listed tag _ found).1
  · rfl

theorem holds_of_listed (found : registry.byTag tag = some item) : registry.Holds item := by
  obtain ⟨member, tagged⟩ := listed tag item found
  exact ⟨tagged ▸ found, member⟩

theorem register_holds_other (different : other ≠ item) :
    (registry.register item).Holds other ↔ registry.Holds other ∧ other.tag ≠ item.tag := by
  constructor
  · intro held
    rcases put_eq_some.mp held.1 with ⟨_, same⟩ | ⟨elsewhere, present⟩
    · grind
    · exact ⟨holds_of_listed listed present, elsewhere⟩
  rintro ⟨held, elsewhere⟩
  exact holds_of_listed (register_listed listed) ((put_other _ _ _ _ elsewhere).trans held.1)

theorem unregister_holds (found : registry.byTag tag = some item) :
    (registry.unregister tag item).Holds other ↔ registry.Holds other ∧ other ≠ item := by
  have tagged := (listed tag item found).2
  constructor
  · intro held
    obtain ⟨elsewhere, present⟩ := erase_eq_some.mp held.1
    refine ⟨holds_of_listed listed present, ?_⟩
    rintro rfl
    exact elsewhere tagged
  rintro ⟨held, different⟩
  refine holds_of_listed (unregister_listed listed found) (erase_eq_some.mpr ⟨?_, held.1⟩)
  have present := held.1
  grind

end

theorem build_tag {input : CreateInput} {label : String} {started : Bool}
    (built : input.build label started registry = .ok item) : item.tag = input.tag ∧ item.id = registry.nextId := by
  grind [CreateInput.build]

theorem allocate_older (older : registry.Older) : registry.allocate.Older :=
  fun item member => Nat.lt_succ_of_lt (older item member)

theorem allocate_well_formed (wellFormed : registry.WellFormed) : registry.allocate.WellFormed :=
  ⟨wellFormed.listed, wellFormed.registered, wellFormed.nodup, allocate_older wellFormed.older⟩

theorem append_older {rest : List Instance} (older : registry.Older) (fresh : item.id = registry.nextId)
    (subset : ∀ other ∈ rest, other ∈ registry.instances) : ∀ other ∈ rest ++ [item], other.id < registry.nextId + 1 := by
  intro other member
  rcases List.mem_append.mp member with old | new
  · exact Nat.lt_succ_of_lt (older other (subset other old))
  · simp_all

theorem register_well_formed (wellFormed : registry.WellFormed) (fresh : item.id = registry.nextId) :
    (registry.allocate.register item).WellFormed := by
  refine ⟨register_listed wellFormed.listed, ?_, ?_, append_older wellFormed.older fresh (fun _ => others_subset)⟩
  · intro other member
    rcases List.mem_append.mp member with old | new
    · exact (put_other _ _ _ _ (others_tag_ne wellFormed old)).trans (wellFormed.registered other (others_subset old))
    rw [List.mem_singleton.mp new]
    exact put_same _ _ _
  have rest : (registry.others item.tag).Nodup := by grind [Registry.others, wellFormed.nodup]
  refine List.nodup_append.mpr ⟨rest, List.nodup_singleton item, ?_⟩
  rintro old member new single rfl
  rw [List.mem_singleton.mp single] at member
  exact others_tag_ne wellFormed member rfl

theorem unregister_well_formed (wellFormed : registry.WellFormed) (found : registry.byTag tag = some item) :
    (registry.unregister tag item).WellFormed := by
  refine ⟨unregister_listed wellFormed.listed found, ?_, wellFormed.nodup.erase item, ?_⟩
  · intro other member
    have rest : other ∈ registry.others tag := by rwa [Registry.others, found]
    exact (erase_other _ _ _ (others_tag_ne wellFormed rest)).trans (wellFormed.registered other (others_subset rest))
  intro other member
  exact wellFormed.older other (List.mem_of_mem_erase member)

theorem adopt_eq_register (absent : registry.byTag item.tag = none) (free : item.dependencies = []) :
    registry.adopt item = registry.register item := by
  simp only [Registry.adopt, Registry.register, Registry.others, absent, free, addDependencies, List.foldl_nil]

theorem register_holds : (registry.register item).Holds item :=
  ⟨put_same _ _ _, List.mem_append_right _ List.mem_cons_self⟩

theorem adopt_holds : (registry.adopt item).Holds item :=
  ⟨put_same _ _ _, List.mem_append_right _ List.mem_cons_self⟩

end

def Registry.IndexExact (registry : Registry) : Prop :=
  ∀ dependency tag, tag ∈ registry.dependByTag dependency ↔
    ∃ item, registry.byTag tag = some item ∧ dependency ∈ item.dependencies

section
variable {registry : Registry} {item : Instance} {tag : String}

theorem register_exact_iff (exact_ : registry.IndexExact) : (registry.register item).IndexExact ↔
      ∀ old, registry.byTag item.tag = some old → ∀ dependency ∈ old.dependencies, dependency ∈ item.dependencies := by
  constructor
  · intro result old found dependency depends
    have stale : item.tag ∈ (registry.register item).dependByTag dependency :=
      add_dependencies_mem.mpr (.inl ((exact_ dependency item.tag).mpr ⟨old, found, depends⟩))
    obtain ⟨current, present, kept⟩ := (result dependency item.tag).mp stale
    simp [Option.some.inj ((put_same _ _ _).symm.trans present), kept]
  intro wider dependency tag
  change tag ∈ addDependencies _ _ _ _ ↔ ∃ current, put _ _ _ _ = some current ∧ _
  rw [add_dependencies_mem, exact_ dependency tag]
  by_cases same : tag = item.tag
  · simp_all
  · simp_all

def Registry.ReleasesOwn (registry : Registry) (tag : String) (item : Instance) : Prop :=
  ∀ dependency, 2 ≤ item.dependencies.count dependency →
    ((registry.dependByTag dependency).filter (· ≠ tag)).length ≠ 1

theorem unregister_exact_iff (exact_ : registry.IndexExact) (found : registry.byTag tag = some item) :
    ((registry.unregister tag item).release tag item).IndexExact ↔ registry.ReleasesOwn tag item := by
  have indexed : ∀ dependency, dependency ∈ item.dependencies → tag ∈ registry.dependByTag dependency :=
    fun dependency depends => (exact_ dependency tag).mpr ⟨item, found, depends⟩
  have remaining : ∀ dependency other, other ∈ (registry.dependByTag dependency).filter (· ≠ tag) ↔
      ∃ user, (registry.unregister tag item).byTag other = some user ∧ dependency ∈ user.dependencies := by
    intro dependency other
    rw [List.mem_filter, exact_ dependency other]
    simp only [Registry.unregister, erase_eq_some]
    constructor
    · simp_all
    · simp_all
  constructor
  · intro result dependency twice single
    obtain ⟨other, only⟩ := List.length_eq_one_iff.mp single
    have depends : dependency ∈ item.dependencies := by grind
    have listed : other ∈ ((registry.unregister tag item).release tag item).dependByTag dependency :=
      (result dependency other).mpr ((remaining dependency other).mp (by rw [only]; exact List.mem_cons_self))
    have emptied : ((registry.unregister tag item).release tag item).dependByTag dependency = [] := by
      refine (release_dependencies_eq (indexed dependency depends)).trans ?_
      rw [if_neg (Nat.ne_of_gt (List.count_pos_iff.mpr depends)), if_pos ⟨twice, single⟩]
    simp [emptied] at listed
  intro own dependency other
  refine Iff.trans ?_ (remaining dependency other)
  by_cases depends : dependency ∈ item.dependencies
  · have kept : ((registry.unregister tag item).release tag item).dependByTag dependency =
        (registry.dependByTag dependency).filter (· ≠ tag) := by
      refine (release_dependencies_eq (indexed dependency depends)).trans ?_
      rw [if_neg (Nat.ne_of_gt (List.count_pos_iff.mpr depends)), if_neg (fun both => own dependency both.1 both.2)]
    rw [kept]
  have kept : ((registry.unregister tag item).release tag item).dependByTag dependency = registry.dependByTag dependency :=
    release_dependencies_other depends
  rw [kept, List.mem_filter, decide_eq_true_eq, iff_self_and]
  rintro listed rfl
  obtain ⟨_, present, needs⟩ := (exact_ dependency other).mp listed
  grind

theorem unregister_stale_iff (exact_ : registry.IndexExact) (found : registry.byTag tag = some item) :
    (registry.unregister tag item).IndexExact ↔ item.dependencies = [] := by
  constructor
  · intro result
    refine List.eq_nil_iff_forall_not_mem.mpr (fun dependency depends => ?_)
    obtain ⟨user, present, _⟩ := (result dependency tag).mp ((exact_ dependency tag).mpr ⟨item, found, depends⟩)
    exact (erase_eq_some.mp present).1 rfl
  intro free dependency other
  refine (exact_ dependency other).trans (exists_congr (fun user => and_congr_left (fun depends => ?_)))
  refine Iff.trans (iff_and_self.mpr ?_) (erase_eq_some.symm)
  grind

end
end OtunKernel.Adapter
