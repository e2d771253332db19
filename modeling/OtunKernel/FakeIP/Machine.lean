import OtunKernel.FakeIP.CacheFile
import OtunKernel.Lib.Runs

namespace OtunKernel.FakeIP

open Net Lib CacheFile Pool

-- One cache file through the life of any number of processes. At most one
-- process has the file open; store is its started Store.
structure Machine where
  file : CacheFile
  store : Option Store

inductive Event where
  | start (inet4Range inet6Range : Option Prefix)
  | create (domain : String) (isIPv6 : Bool)
  | fire
  | close
  | flush
  | stop

def emptyMachine : Machine := ⟨openCacheFile Buckets.none, none⟩

def Machine.start (machine : Machine) (inet4Range inet6Range : Option Prefix) : Machine :=
  let (store, file) := startStore cacheFileStorage (newStore inet4Range inet6Range) (openCacheFile machine.file.buckets)
  ⟨file, some store⟩

def Machine.create (machine : Machine) (store : Store) (domain : String) (isIPv6 : Bool) :
    Except String Addr × Machine :=
  let (result, store, file) := FakeIP.create cacheFileStorage store machine.file domain isIPv6
  (result, ⟨file, some store⟩)

-- stop is a crash, or the closing of the file behind close; flush is the
-- request of the Clash API.
def machineStep : System Machine Event
  | machine, .start inet4Range inet6Range =>
    if machine.store.isNone then some (machine.start inet4Range inet6Range) else none
  | machine, .create domain isIPv6 => machine.store.map (fun store => (machine.create store domain isIPv6).2)
  | machine, .fire => machine.file.fireTimer.map (fun file => { machine with file := file })
  | machine, .close =>
    machine.store.map (fun store => { machine with file := closeStore cacheFileStorage store machine.file })
  | machine, .flush => machine.store.map (fun _ => { machine with file := machine.file.fakeIPReset })
  | machine, .stop => machine.store.map (fun _ => ⟨openCacheFile machine.file.buckets, none⟩)

def configured (inet4Range inet6Range : Option Prefix) (isIPv6 : Bool) : Option Prefix :=
  if isIPv6 then inet6Range else inet4Range

theorem range_eq_configured (metadata : FakeIPMetadata) (inet4Range inet6Range : Option Prefix) :
    metadata.range = configured inet4Range inet6Range ↔ metadata.inet4Range = inet4Range ∧ metadata.inet6Range = inet6Range := by
  constructor
  · intro same
    exact ⟨congrFun same false, congrFun same true⟩
  rintro ⟨rfl, rfl⟩
  rfl

theorem machine_start_cases (machine : Machine) (inet4Range inet6Range : Option Prefix) :
    ∃ store, (
      (∃ saved, machine.file.buckets.metadata = some saved ∧ saved.range = configured inet4Range inet6Range ∧
        (∀ isIPv6, store.pool isIPv6 =
          { newPool (configured inet4Range inet6Range isIPv6) with current := saved.current isIPv6 }) ∧
        machine.start inet4Range inet6Range =
          ⟨openCacheFile machine.file.buckets.takeMetadata.2, some store⟩) ∨
      ((∀ saved, machine.file.buckets.metadata = some saved → saved.range ≠ configured inet4Range inet6Range) ∧
        (∀ isIPv6, store.pool isIPv6 = (newPool (configured inet4Range inet6Range isIPv6)).rewind) ∧
        machine.start inet4Range inet6Range =
          ⟨openCacheFile (transact resetBody machine.file.buckets.takeMetadata.2), some store⟩)) := by
  have read := take_metadata_result machine.file.buckets
  have rewound : ∀ isIPv6, Store.pool ⟨(newPool inet4Range).rewind, (newPool inet6Range).rewind⟩ isIPv6 =
      (newPool (configured inet4Range inet6Range isIPv6)).rewind := by
    intro isIPv6
    cases isIPv6 <;> rfl
  cases held : machine.file.buckets.metadata with
  | none =>
    refine ⟨_, .inr ⟨fun _ => nofun, rewound, ?_⟩⟩
    simp only [Machine.start, startStore, cacheFileStorage, fakeIPMetadata, openCacheFile, read, held]
    rfl
  | some saved =>
    by_cases same : saved.range = configured inet4Range inet6Range
    · have both := (range_eq_configured saved inet4Range inet6Range).mp same
      refine ⟨⟨{ newPool inet4Range with current := saved.inet4Current },
        { newPool inet6Range with current := saved.inet6Current }⟩, .inl ⟨saved, rfl, same, ?_, ?_⟩⟩
      · intro isIPv6
        cases isIPv6 <;> rfl
      simp only [Machine.start, startStore, cacheFileStorage, fakeIPMetadata, openCacheFile, newStore,
        newPool, read, held]
      rw [if_pos both]
    have differ := mt (range_eq_configured saved inet4Range inet6Range).mpr same
    refine ⟨_, .inr ⟨?_, rewound, ?_⟩⟩
    · simp_all
    simp only [Machine.start, startStore, cacheFileStorage, fakeIPMetadata, openCacheFile, newStore,
      newPool, read, held]
    rw [if_neg differ]
    rfl

theorem machine_create_cases (machine : Machine) (store : Store) (domain : String) (isIPv6 : Bool) :
    (∃ address, machine.file.buckets.loadDomain domain isIPv6 = some address ∧
      machine.create store domain isIPv6 = (.ok address, ⟨machine.file, some store⟩)) ∨
    (∃ message, machine.create store domain isIPv6 = (.error message, ⟨machine.file, some store⟩)) ∨
    (machine.file.buckets.loadDomain domain isIPv6 = none ∧ (store.pool isIPv6).current.isValid = true ∧
      machine.create store domain isIPv6 = (.ok (store.pool isIPv6).nextAddress,
          ⟨(machine.file.fakeIPStore (store.pool isIPv6).nextAddress domain).fakeIPSaveMetadataAsync
            (store.setCurrent isIPv6 (store.pool isIPv6).nextAddress).metadata,
            some (store.setCurrent isIPv6 (store.pool isIPv6).nextAddress)⟩)) := by
  unfold Machine.create
  rcases create_cases cacheFileStorage store machine.file domain isIPv6 with
    ⟨address, loaded, result⟩ | ⟨_, _, message, result⟩ | ⟨absent, valid, result⟩
  · exact .inl ⟨address, loaded, by rw [result]⟩
  · grind
  · exact .inr (.inr ⟨absent, valid, by rw [result]; rfl⟩)

def Buckets.Within (buckets : Buckets) (range : Bool → Option Prefix) : Prop :=
  ∀ address isIPv6, buckets.Holds address isIPv6 → rangeContains (range isIPv6) address = true

def Roomy (range : Option Prefix) (isIPv6 : Bool) : Prop :=
  OfFamily range isIPv6 ∧ ∀ set, range = some set → set.contains set.addr.next.next = true

def FakeIPMetadata.Sane (metadata : FakeIPMetadata) : Prop :=
  ∀ isIPv6, metadata.range isIPv6 = none → (metadata.current isIPv6).isValid = false

structure Machine.InRange (machine : Machine) : Prop where
  wellFormed : machine.file.buckets.WellFormed
  persisted : ∀ metadata, machine.file.buckets.metadata = some metadata →
    metadata.Sane ∧ machine.file.buckets.Within metadata.range ∧
      ∀ store, machine.store = some store → metadata.range = store.metadata.range
  timer : ∀ timer, machine.file.saveMetadataTimer = some timer →
    timer.metadata.Sane ∧ ∃ store, machine.store = some store ∧ timer.metadata.range = store.metadata.range
  running : ∀ store, machine.store = some store →
    store.metadata.Sane ∧ machine.file.buckets.Within store.metadata.range ∧
      ∀ isIPv6, Roomy (store.metadata.range isIPv6) isIPv6

variable {isIPv6 : Bool} {store : Store} {buckets : Buckets} {machine : Machine} {address : Addr}

theorem roomy_next_address {pool : Pool} (roomy : Roomy pool.range isIPv6) {set : Prefix}
    (given : pool.range = some set) : rangeContains pool.range pool.nextAddress = true := by
  rcases next_address_cases pool with ⟨inside, kept⟩ | wrapped
  · rwa [kept]
  rw [wrapped, wrapTarget, given]
  simpa [rangeContains, rangeAddr] using roomy.2 set given

theorem set_current_metadata_range (store : Store) (isIPv6 : Bool) (address : Addr) :
    (store.setCurrent isIPv6 address).metadata.range = store.metadata.range := by
  funext other
  simp

theorem set_current_sane (address : Addr) (sane : store.metadata.Sane) (given : (store.pool isIPv6).range ≠ none) :
    (store.setCurrent isIPv6 address).metadata.Sane := by
  intro other unset
  by_cases same : other = isIPv6
  · simp_all
  rw [metadata_current, set_current_pool_other store address same]
  simpa using sane other (by simpa using unset)

theorem store_within {range : Bool → Option Prefix} (within : buckets.Within range) (domain : String)
    (family : address.is4 = !isIPv6) (inside : rangeContains (range isIPv6) address = true) :
    (transact (storeBody address domain) buckets).Within range := by
  refine transact_invariant (fun buckets : Buckets => buckets.Within range) within ?_
  intro result stored other key held
  rcases store_body_holds stored held with ⟨rfl, rfl⟩ | before
  · rwa [family, Bool.not_not]
  · exact within other key before

theorem store_well_formed (wellFormed : buckets.WellFormed) (address : Addr) (domain : String) :
    (transact (storeBody address domain) buckets).WellFormed :=
  transact_invariant Buckets.WellFormed wellFormed (fun _ stored => store_body_well_formed stored wellFormed)

theorem store_metadata (buckets : Buckets) (address : Addr) (domain : String) :
    (transact (storeBody address domain) buckets).metadata = buckets.metadata :=
  transact_invariant (fun result : Buckets => result.metadata = buckets.metadata) rfl
    (fun _ stored => store_body_metadata stored)

section
variable (inRange : machine.InRange)
include inRange

theorem allocated_in_range (started : machine.store = some store) (valid : (store.pool isIPv6).current.isValid = true) :
    rangeContains (store.pool isIPv6).range (store.pool isIPv6).nextAddress = true := by
  obtain ⟨sane, _, roomy⟩ := inRange.running store started
  have own := roomy isIPv6
  rw [metadata_range] at own
  cases given : (store.pool isIPv6).range with
  | none =>
    have unset := sane isIPv6 (by simpa using given)
    simp [valid] at unset
  | some =>
    simpa [← given] using roomy_next_address own given

theorem create_in_range (started : machine.store = some store) (domain : String)
    (isIPv6 : Bool) : (machine.create store domain isIPv6).2.InRange := by
  have unchanged : (Machine.mk machine.file (some store)).InRange := by rwa [← started]
  rcases machine_create_cases machine store domain isIPv6 with
    ⟨address, _, result⟩ | ⟨message, result⟩ | ⟨_, valid, result⟩
  · rwa [result]
  · rwa [result]
  rw [result]
  obtain ⟨sane, within, roomy⟩ := inRange.running store started
  have inside := allocated_in_range inRange started valid
  have family := contained_family (roomy isIPv6).1 (by rwa [metadata_range])
  have given : (store.pool isIPv6).range ≠ none := by grind [rangeContains]
  generalize (store.pool isIPv6).nextAddress = address at inside family ⊢
  have range := set_current_metadata_range store isIPv6 address
  have saved := set_current_sane address sane given
  have stored := store_within within domain family (by rwa [metadata_range])
  refine ⟨store_well_formed inRange.wellFormed address domain, ?_, ?_, ?_⟩
  · intro metadata held
    have before := inRange.persisted metadata ((store_metadata _ address domain).symm.trans held)
    have same := before.2.2 store started
    refine ⟨before.1, by rwa [same], ?_⟩
    rintro _ ⟨⟩
    rw [same, range]
  · intro timer set
    rcases async_timer set with ⟨_, captured⟩ | ⟨earlier, present, captured⟩
    · simp_all
    obtain ⟨sound, _, owned, same⟩ := inRange.timer earlier present
    grind
  rintro _ ⟨⟩
  rw [range]
  exact ⟨saved, stored, roomy⟩

theorem save_in_range {metadata : FakeIPMetadata} (sane : metadata.Sane)
    (started : machine.store = some store) (range : metadata.range = store.metadata.range) (timer : Option SaveTimer)
    (kept : ∀ now, timer = some now → ∃ before, machine.file.saveMetadataTimer = some before ∧
      now.metadata = before.metadata) (calls : List FakeIPMetadata) :
    Machine.InRange ⟨⟨machine.file.buckets.saveMetadata metadata, timer, calls⟩, machine.store⟩ := by
  have within : ∀ range, machine.file.buckets.Within range →
      (machine.file.buckets.saveMetadata metadata).Within range :=
    fun range before address isIPv6 held => before address isIPv6 ((save_metadata_holds metadata isIPv6).mp held)
  obtain ⟨saneStore, withinStore, roomy⟩ := inRange.running store started
  refine ⟨save_metadata_well_formed inRange.wellFormed metadata, ?_, ?_, ?_⟩
  · rintro _ ⟨⟩
    grind
  · intro now set
    obtain ⟨before, present, same⟩ := kept now set
    simpa [same] using inRange.timer before present
  · simp_all

theorem fire_in_range {file : CacheFile} (fired : machine.file.fireTimer = some file) :
    (Machine.mk file machine.store).InRange := by
  obtain ⟨timer, present, result⟩ := fire_timer_cases fired
  obtain ⟨sane, _, started, range⟩ := inRange.timer timer present
  grind [save_in_range]

theorem close_in_range (started : machine.store = some store) :
    (Machine.mk (closeStore cacheFileStorage store machine.file) machine.store).InRange :=
  save_in_range inRange (inRange.running store started).1 started rfl _ (fun now set => ⟨now, set, rfl⟩) _

theorem flush_in_range : (Machine.mk machine.file.fakeIPReset machine.store).InRange := by
  have within : ∀ range, machine.file.buckets.Within range →
      (transact resetBody machine.file.buckets).Within range :=
    fun range before address isIPv6 held => before address isIPv6 (reset_holds held)
  refine ⟨reset_well_formed inRange.wellFormed, ?_, inRange.timer, ?_⟩
  · intro metadata held
    obtain ⟨sane, inside, same⟩ := inRange.persisted metadata (reset_metadata held)
    exact ⟨sane, within _ inside, same⟩
  intro store started
  obtain ⟨sane, inside, roomy⟩ := inRange.running store started
  exact ⟨sane, within _ inside, roomy⟩

theorem stop_in_range : (Machine.mk (openCacheFile machine.file.buckets) none).InRange := by
  refine ⟨inRange.wellFormed, ?_, fun _ => nofun, fun _ => nofun⟩
  intro metadata held
  obtain ⟨sane, inside, _⟩ := inRange.persisted metadata held
  exact ⟨sane, inside, fun _ => nofun⟩

end

-- What a start needs of the file: the ranges that made it, or both domain
-- buckets or none of them for the reset to drop. A file without metadata may
-- also hold addresses of the given ranges only.
def ResetReaches (buckets : Buckets) (range : Bool → Option Prefix) : Prop :=
  (∃ saved, buckets.metadata = some saved ∧ saved.range = range) ∨
    (buckets.domain false).isSome = (buckets.domain true).isSome ∨
    (buckets.metadata = none ∧ buckets.Within range)

theorem start_clears (wellFormed : buckets.WellFormed) (paired : (buckets.domain false).isSome = (buckets.domain true).isSome)
    (isIPv6 : Bool) : ¬ (transact resetBody buckets.takeMetadata.2).Holds address isIPv6 := by
  refine reset_clears (take_metadata_well_formed wellFormed) ?_ isIPv6
  rwa [take_metadata_domain]

theorem rewind_range (pool : Pool) : pool.rewind.range = pool.range := by
  unfold rewind
  split <;> rfl

theorem start_in_range (inRange : machine.InRange) {inet4Range inet6Range : Option Prefix}
    (roomy : ∀ isIPv6, Roomy (configured inet4Range inet6Range isIPv6) isIPv6)
    (reaches : ResetReaches machine.file.buckets (configured inet4Range inet6Range)) :
    (machine.start inet4Range inet6Range).InRange := by
  obtain ⟨store, ⟨saved, held, same, pools, result⟩ | ⟨differ, pools, result⟩⟩ :=
    machine_start_cases machine inet4Range inet6Range
  · have range : store.metadata.range = configured inet4Range inet6Range := by
      funext isIPv6
      rw [metadata_range, pools]
      rfl
    obtain ⟨sane, inside, _⟩ := inRange.persisted saved held
    rw [result]
    refine ⟨take_metadata_well_formed inRange.wellFormed, ?_, fun _ => nofun, ?_⟩
    · simp [openCacheFile, take_metadata_removes]
    rintro _ ⟨⟩
    rw [range]
    refine ⟨?_, fun address isIPv6 found => ?_, roomy⟩
    · intro isIPv6 unset
      rw [range, ← same] at unset
      simpa [metadata_current, pools] using sane isIPv6 unset
    · simpa [← same] using inside address isIPv6 ((take_metadata_holds isIPv6).mp found)
  have range : store.metadata.range = configured inet4Range inet6Range := by
    funext isIPv6
    rw [metadata_range, pools, rewind_range]
    rfl
  rw [result]
  refine ⟨reset_well_formed (take_metadata_well_formed inRange.wellFormed), ?_, fun _ => nofun, ?_⟩
  · intro metadata kept
    have before := reset_metadata kept
    simp [take_metadata_removes] at before
  rintro _ ⟨⟩
  rw [range]
  refine ⟨?_, fun address isIPv6 found => ?_, roomy⟩
  · intro isIPv6 unset
    rw [range] at unset
    rw [metadata_current, pools, unset]
    rfl
  rcases reaches with ⟨saved, held, same⟩ | paired | ⟨_, inside⟩
  · grind
  · exact absurd found (start_clears inRange.wellFormed paired isIPv6)
  · exact inside address isIPv6 ((take_metadata_holds isIPv6).mp (reset_holds found))

def StartsCleanly (machine : Machine) : Event → Prop
  | .start inet4Range inet6Range =>
    (∀ isIPv6, Roomy (configured inet4Range inet6Range isIPv6) isIPv6) ∧
      ResetReaches machine.file.buckets (configured inet4Range inet6Range)
  | _ => True

theorem step_in_range {result : Machine} (inRange : machine.InRange) {event : Event}
    (cleanly : StartsCleanly machine event) (taken : machineStep machine event = some result) : result.InRange := by
  cases event with
  | start =>
    simp only [machineStep, Option.ite_none_right_eq_some, Option.some.injEq] at taken
    simpa [← taken.2] using start_in_range inRange cleanly.1 cleanly.2
  | create domain isIPv6 =>
    obtain ⟨store, started, rfl⟩ := Option.map_eq_some_iff.mp taken
    grind [create_in_range]
  | fire =>
    obtain ⟨_, fired, rfl⟩ := Option.map_eq_some_iff.mp taken
    exact fire_in_range inRange fired
  | close =>
    obtain ⟨store, started, rfl⟩ := Option.map_eq_some_iff.mp taken
    exact close_in_range inRange started
  | flush =>
    obtain ⟨store, started, rfl⟩ := Option.map_eq_some_iff.mp taken
    exact flush_in_range inRange
  | stop =>
    obtain ⟨_, _, rfl⟩ := Option.map_eq_some_iff.mp taken
    exact stop_in_range inRange

theorem empty_in_range : emptyMachine.InRange := by
  refine ⟨none_well_formed, ?_, fun _ => nofun, fun _ => nofun⟩
  intro metadata held
  contradiction

theorem run_in_range (run : Run machineStep StartsCleanly emptyMachine machine) : machine.InRange :=
  run.invariant _ empty_in_range (fun _ _ _ inRange cleanly taken => step_in_range inRange cleanly taken)

theorem not_holds_unmapped (clear : ∀ address isIPv6, ¬ buckets.Holds address isIPv6) (address : Addr) (domain : String)
    (isIPv6 : Bool) : buckets.load address = none ∧ buckets.loadDomain domain isIPv6 = none := by
  constructor
  · cases loaded : buckets.load address with
    | none => rfl
    | some name => exact absurd (.inr ⟨rfl, name, loaded⟩) (clear address (!address.is4))
  cases loaded : buckets.loadDomain domain isIPv6 with
  | none => rfl
  | some other => exact absurd (.inl ⟨domain, loaded⟩) (clear other isIPv6)

theorem created_addresses_in_range (machine : Machine) (run : Run machineStep StartsCleanly emptyMachine machine) :
    (∀ store domain isIPv6 address after, machine.store = some store →
      machine.create store domain isIPv6 = (.ok address, after) →
      rangeContains (store.pool isIPv6).range address = true) ∧
    (∀ inet4Range inet6Range saved after, StartsCleanly machine (.start inet4Range inet6Range) →
      machineStep machine (.start inet4Range inet6Range) = some after →
      machine.file.buckets.metadata = some saved → saved.range ≠ configured inet4Range inet6Range →
      ∀ address domain isIPv6,
        after.file.buckets.load address = none ∧ after.file.buckets.loadDomain domain isIPv6 = none) := by
  have inRange := run_in_range run
  constructor
  · intro store domain isIPv6 address after started created
    rcases machine_create_cases machine store domain isIPv6 with
      ⟨known, loaded, result⟩ | ⟨message, result⟩ | ⟨_, valid, result⟩
    · rw [created] at result
      cases result
      have inside := (inRange.running store started).2.1 address isIPv6 (.inl ⟨domain, loaded⟩)
      rwa [metadata_range] at inside
    · simp_all
    rw [created] at result
    cases result
    exact allocated_in_range inRange started valid
  intro inet4Range inet6Range saved after cleanly taken held differ
  simp only [machineStep, Option.ite_none_right_eq_some, Option.some.injEq] at taken
  rw [← taken.2]
  refine not_holds_unmapped (fun address isIPv6 => ?_)
  obtain ⟨_, ⟨other, found, same, _⟩ | ⟨_, _, result⟩⟩ := machine_start_cases machine inet4Range inet6Range
  · simp_all
  rw [result]
  rcases cleanly.2 with ⟨other, found, same⟩ | paired | ⟨absent, _⟩
  · simp_all
  · exact start_clears inRange.wellFormed paired isIPv6
  · simp_all

def privateRange : Prefix := ⟨.v4 0x0a000000#32, 8, by decide⟩

theorem failed_reset_hands_out_old_address :
    ¬ ∀ machine : Machine, Run machineStep anyStep emptyMachine machine → ∀ store domain isIPv6 address after,
      machine.store = some store → machine.create store domain isIPv6 = (.ok address, after) →
      rangeContains (store.pool isIPv6).range address = true := by
  intro inside
  have run : Run machineStep anyStep emptyMachine _ :=
    run_of_execute [.start (some benchmarkRange) none, .create "example.org" false, .close, .stop,
      .start (some privateRange) none] _ _ (fun _ _ _ => trivial) rfl
  have escaped := inside _ run _ "example.org" false (.v4 0xc6120002#32) _ rfl rfl
  revert escaped
  decide

theorem documented_ranges_kept :
    StartsCleanly emptyMachine (.start (some benchmarkRange) (some uniqueLocalRange)) ∧
      rangeContains (some benchmarkRange) (.v4 0xc6120002#32) = true := by
  have cleanly : StartsCleanly emptyMachine (.start (some benchmarkRange) (some uniqueLocalRange)) := by
    refine ⟨fun isIPv6 => ?_, .inr (.inl rfl)⟩
    cases isIPv6 with
    | false | true =>
      constructor <;> rintro set ⟨⟩ <;> decide
  exact ⟨cleanly, (created_addresses_in_range _ (Run.next _ Run.refl cleanly rfl)).1 _ "example.org" false
    (.v4 0xc6120002#32) _ rfl rfl⟩

end OtunKernel.FakeIP
