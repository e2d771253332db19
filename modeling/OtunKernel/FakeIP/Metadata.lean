import OtunKernel.FakeIP.Machine

namespace OtunKernel.FakeIP

open Net Lib

def Buckets.Behind (buckets : Buckets) (current : Bool → Addr) : Prop :=
  ∀ address isIPv6, buckets.Holds address isIPv6 →
    address.is4 = (!isIPv6) ∧ address.index ≤ (current isIPv6).index

def Pool.Advances (pool : Pool) : Prop :=
  pool.current.next ≠ pool.last ∧ rangeContains pool.range pool.current.next = true

structure Machine.Ordered (machine : Machine) : Prop where
  wellFormed : machine.file.buckets.WellFormed
  tracked : machine.file.calls.getLast? = machine.file.saveMetadataTimer.map SaveTimer.metadata
  idle : machine.store = none → machine.file.calls = [] ∧
    ∀ metadata, machine.file.buckets.metadata = some metadata → machine.file.buckets.Behind metadata.current
  running : ∀ store, machine.store = some store →
    machine.file.buckets.Behind store.metadata.current ∧
      (∀ isIPv6, OfFamily (store.metadata.range isIPv6) isIPv6) ∧
      ∀ newest earlier, machine.file.calls = newest :: earlier → newest = store.metadata

-- The ranges belong to their families and a reset can succeed; no allocation
-- wraps around; the timer fires behind the first call of its process only; a
-- process ends with the newest cursor in the file or with none.
def Orderly (machine : Machine) : Event → Prop
  | .start inet4Range inet6Range =>
    (∀ isIPv6, OfFamily (configured inet4Range inet6Range isIPv6) isIPv6) ∧
      ((∃ saved, machine.file.buckets.metadata = some saved ∧ saved.range = configured inet4Range inet6Range) ∨
        (machine.file.buckets.domain false).isSome = (machine.file.buckets.domain true).isSome)
  | .create domain isIPv6 =>
    ∀ store, machine.store = some store → machine.file.buckets.loadDomain domain isIPv6 = none →
      (store.pool isIPv6).current.isValid = true → (store.pool isIPv6).Advances
  | .fire => machine.file.calls.length ≤ 1
  | .stop => machine.file.buckets.metadata = none ∨
      ∃ store, machine.store = some store ∧ machine.file.buckets.metadata = some store.metadata
  | _ => True

theorem advances_next_address {pool : Pool} (advances : pool.Advances) : pool.nextAddress = pool.current.next := by
  simp [Pool.nextAddress, advances.1, advances.2]

variable {buckets : Buckets} {store : Store} {isIPv6 : Bool} {machine : Machine} {inet4Range inet6Range : Option Prefix}
  {current : Bool → Addr} {file : CacheFile}

theorem behind_mono {result : Buckets} (behind : buckets.Behind current)
    (fewer : ∀ address isIPv6, result.Holds address isIPv6 → buckets.Holds address isIPv6) : result.Behind current :=
  fun address isIPv6 held => behind address isIPv6 (fewer address isIPv6 held)

theorem store_behind (behind : buckets.Behind store.metadata.current)
    (family : OfFamily (store.pool isIPv6).range isIPv6) (advances : (store.pool isIPv6).Advances) (domain : String) :
    (transact (storeBody (store.pool isIPv6).nextAddress domain) buckets).Behind
      (store.setCurrent isIPv6 (store.pool isIPv6).nextAddress).metadata.current := by
  have own := contained_family family advances.2
  have further := next_index (contained_valid advances.2)
  rw [advances_next_address advances]
  -- the cursor of the family moves up, the other one stays
  have grown : ∀ other, (store.metadata.current other).index ≤
      ((store.setCurrent isIPv6 (store.pool isIPv6).current.next).metadata.current other).index := by
    intro other
    rw [metadata_current, metadata_current]
    by_cases same : other = isIPv6
    · simp_all [set_current_pool_same]
    · rw [set_current_pool_other store _ same]
  refine transact_invariant (fun buckets : Buckets => buckets.Behind _) ?_ ?_
  · intro address key held
    exact ⟨(behind address key held).1, (behind address key held).2.trans (grown key)⟩
  intro _ stored address key held
  rcases store_body_holds stored held with ⟨rfl, rfl⟩ | before
  · simp only [own, Bool.not_not, metadata_current, set_current_pool_same, le_refl, and_self]
  · exact ⟨(behind address key before).1, (behind address key before).2.trans (grown key)⟩

theorem async_tracked (tracked : file.calls.getLast? = file.saveMetadataTimer.map SaveTimer.metadata)
    (metadata : FakeIPMetadata) : (file.fakeIPSaveMetadataAsync metadata).calls.getLast? =
      (file.fakeIPSaveMetadataAsync metadata).saveMetadataTimer.map SaveTimer.metadata := by
  unfold CacheFile.fakeIPSaveMetadataAsync
  rw [List.getLast?_cons, tracked]
  cases file.saveMetadataTimer <;> rfl

section
variable (ordered : machine.Ordered)
include ordered

theorem create_ordered (started : machine.store = some store) {domain : String}
    (orderly : Orderly machine (.create domain isIPv6)) : (machine.create store domain isIPv6).2.Ordered := by
  have unchanged : (Machine.mk machine.file (some store)).Ordered := by rwa [← started]
  rcases machine_create_cases machine store domain isIPv6 with
    ⟨address, _, result⟩ | ⟨message, result⟩ | ⟨absent, valid, result⟩
  · rwa [result]
  · rwa [result]
  rw [result]
  obtain ⟨behind, family, _⟩ := ordered.running store started
  have own := family isIPv6
  rw [metadata_range] at own
  have advanced := store_behind behind own (orderly store started absent valid) domain
  generalize (store.pool isIPv6).nextAddress = address at advanced ⊢
  refine ⟨store_well_formed ordered.wellFormed address domain, async_tracked ordered.tracked _, nofun, ?_⟩
  rintro _ ⟨⟩
  refine ⟨advanced, ?_, ?_⟩
  · rwa [set_current_metadata_range]
  rintro _ _ ⟨⟩
  rfl

theorem save_ordered (started : machine.store = some store) (metadata : FakeIPMetadata) {timer : Option SaveTimer}
    (kept : timer.map SaveTimer.metadata = machine.file.saveMetadataTimer.map SaveTimer.metadata) :
    Machine.Ordered ⟨⟨machine.file.buckets.saveMetadata metadata, timer, machine.file.calls⟩, machine.store⟩ := by
  obtain ⟨behind, family, newest⟩ := ordered.running store started
  refine ⟨save_metadata_well_formed ordered.wellFormed metadata, ordered.tracked.trans kept.symm, ?_, ?_⟩
  · simp [started]
  intro _ owned
  rw [started] at owned
  cases owned
  exact ⟨behind_mono behind (fun _ isIPv6 => (save_metadata_holds metadata isIPv6).mp), family, newest⟩

theorem timer_started {timer : SaveTimer}
    (set : machine.file.saveMetadataTimer = some timer) : ∃ store, machine.store = some store := by
  cases started : machine.store with
  | some store => exact ⟨store, rfl⟩
  | none => grind [ordered.tracked, ordered.idle, set]

theorem fire_ordered (fired : machine.file.fireTimer = some file) : (Machine.mk file machine.store).Ordered := by
  obtain ⟨timer, set, result⟩ := fire_timer_cases fired
  obtain ⟨_, started⟩ := timer_started ordered set
  rw [result]
  apply save_ordered ordered started timer.metadata
  simp [set]

theorem flush_ordered (started : machine.store = some store) : (Machine.mk machine.file.fakeIPReset machine.store).Ordered := by
  refine ⟨reset_well_formed ordered.wellFormed, ordered.tracked, ?_, ?_⟩
  · simp [started]
  intro other owned
  obtain ⟨behind, rest⟩ := ordered.running other owned
  exact ⟨behind_mono behind (fun _ _ => reset_holds), rest⟩

theorem stop_ordered (orderly : Orderly machine .stop) : (Machine.mk (openCacheFile machine.file.buckets) none).Ordered := by
  refine ⟨ordered.wellFormed, rfl, fun _ => ⟨rfl, ?_⟩, fun _ => nofun⟩
  intro metadata held
  rcases orderly with absent | ⟨store, started, saved⟩
  · exact absurd (absent.symm.trans held) nofun
  have same : store.metadata = metadata := Option.some.inj (saved.symm.trans held)
  rw [← same]
  exact (ordered.running store started).1

theorem start_ordered (stopped : machine.store = none) (orderly : Orderly machine (.start inet4Range inet6Range)) :
    (machine.start inet4Range inet6Range).Ordered := by
  obtain ⟨_, ⟨saved, held, same, pools, result⟩ | ⟨differ, pools, result⟩⟩ :=
    machine_start_cases machine inet4Range inet6Range
  · rw [result]
    refine ⟨take_metadata_well_formed ordered.wellFormed, rfl, nofun, ?_⟩
    rintro _ ⟨⟩
    refine ⟨?_, ?_, fun _ _ => nofun⟩
    · intro address isIPv6 found
      rw [metadata_current, pools]
      exact (ordered.idle stopped).2 saved held address isIPv6 ((take_metadata_holds isIPv6).mp found)
    intro isIPv6
    rw [metadata_range, pools]
    exact orderly.1 isIPv6
  rw [result]
  refine ⟨reset_well_formed (take_metadata_well_formed ordered.wellFormed), rfl, nofun, ?_⟩
  rintro _ ⟨⟩
  refine ⟨?_, ?_, fun _ _ => nofun⟩
  · intro address isIPv6 found
    rcases orderly.2 with ⟨saved, held, same⟩ | paired
    · grind
    · exact absurd found (start_clears ordered.wellFormed paired isIPv6)
  intro isIPv6
  rw [metadata_range, pools, rewind_range]
  exact orderly.1 isIPv6

theorem step_ordered {result : Machine} {event : Event} (orderly : Orderly machine event)
    (taken : machineStep machine event = some result) : result.Ordered := by
  cases event with
  | start =>
    simp only [machineStep, Option.ite_none_right_eq_some, Option.some.injEq, Option.isNone_iff_eq_none] at taken
    simpa [← taken.2] using start_ordered ordered taken.1 orderly
  | create =>
    obtain ⟨store, started, rfl⟩ := Option.map_eq_some_iff.mp taken
    exact create_ordered ordered started orderly
  | fire =>
    obtain ⟨_, fired, rfl⟩ := Option.map_eq_some_iff.mp taken
    exact fire_ordered ordered fired
  | close =>
    obtain ⟨store, started, rfl⟩ := Option.map_eq_some_iff.mp taken
    exact save_ordered ordered started store.metadata rfl
  | flush =>
    obtain ⟨store, started, rfl⟩ := Option.map_eq_some_iff.mp taken
    exact flush_ordered ordered started
  | stop =>
    obtain ⟨_, _, rfl⟩ := Option.map_eq_some_iff.mp taken
    exact stop_ordered ordered orderly

theorem fire_writes_newest {fired : Machine} (first : machine.file.calls.length ≤ 1)
    (taken : machineStep machine .fire = some fired) :
    ∃ newest, machine.file.calls = [newest] ∧ fired.file.buckets.metadata = some newest := by
  obtain ⟨_, ring, rfl⟩ := Option.map_eq_some_iff.mp taken
  obtain ⟨_, set, result⟩ := fire_timer_cases ring
  have tracked := ordered.tracked
  rw [set] at tracked
  rw [result]
  cases calls : machine.file.calls with
  | nil => simp [calls] at tracked
  | cons _ earlier =>
    cases earlier with
    | cons => simp [calls] at first
    | nil =>
      simp only [calls, List.getLast?_singleton, Option.map_some, Option.some.injEq] at tracked
      rw [tracked]
      exact ⟨_, rfl, rfl⟩

end

theorem empty_ordered : emptyMachine.Ordered := by
  refine ⟨none_well_formed, rfl, fun _ => ⟨rfl, ?_⟩, fun _ => nofun⟩
  intro metadata held
  contradiction

theorem run_ordered (run : Run machineStep Orderly emptyMachine machine) : machine.Ordered :=
  run.invariant _ empty_ordered (fun _ _ _ ordered orderly taken => step_ordered ordered orderly taken)

def OnlyCreates (_ : Machine) : Event → Prop
  | .create _ _ => True
  | _ => False

theorem creates_keep_metadata {later : Machine} (run : Run machineStep OnlyCreates machine later) :
    later.file.buckets.metadata = machine.file.buckets.metadata := by
  refine run.invariant (fun state => state.file.buckets.metadata = machine.file.buckets.metadata) rfl ?_
  intro before event after same only taken
  cases event with
  | create domain isIPv6 =>
    obtain ⟨store, _, rfl⟩ := Option.map_eq_some_iff.mp taken
    rcases machine_create_cases before store domain isIPv6 with ⟨_, _, result⟩ | ⟨_, result⟩ | ⟨_, _, result⟩
    · rwa [result]
    · rwa [result]
    rw [result]
    exact (store_metadata _ _ _).trans same
  | _ => contradiction

theorem start_resumes {restarted : Machine} {saved : FakeIPMetadata}
    (held : machine.file.buckets.metadata = some saved) (same : saved.range = configured inet4Range inet6Range)
    (taken : machineStep machine (.start inet4Range inet6Range) = some restarted) :
    ∃ store, restarted.store = some store ∧ ∀ isIPv6, store.pool isIPv6 =
      { newPool (configured inet4Range inet6Range isIPv6) with current := saved.current isIPv6 } := by
  simp only [machineStep, Option.ite_none_right_eq_some, Option.some.injEq] at taken
  obtain ⟨store, ⟨_, found, _, pools, result⟩ | ⟨differ, _⟩⟩ := machine_start_cases machine inet4Range inet6Range
  · simp_all [taken.2]
  · grind

theorem advanced_not_held (behind : buckets.Behind current) {pool : Pool} (cursor : pool.current = current isIPv6)
    (family : OfFamily pool.range isIPv6) (advances : pool.Advances) (other : Bool) : ¬ buckets.Holds pool.nextAddress other := by
  intro held
  rw [advances_next_address advances] at held
  obtain ⟨own, bounded⟩ := behind _ _ held
  have inside := contained_family family advances.2
  have same : other = isIPv6 := by simp_all
  subst same
  rw [← cursor, next_index (contained_valid advances.2)] at bounded
  omega

theorem firing_saves_newest_cursor (machine fired : Machine) (run : Run machineStep Orderly emptyMachine machine)
    (orderly : Orderly machine .fire) (taken : machineStep machine .fire = some fired) :
    ∃ newest, machine.file.calls.head? = some newest ∧ fired.file.buckets.metadata = some newest ∧
      ∀ crashed stopped restarted inet4Range inet6Range, Run machineStep OnlyCreates fired crashed →
        machineStep crashed .stop = some stopped → newest.range = configured inet4Range inet6Range →
        machineStep stopped (.start inet4Range inet6Range) = some restarted →
        ∃ store, restarted.store = some store ∧
          (∀ isIPv6, (store.pool isIPv6).current = newest.current isIPv6) ∧
          ∀ domain isIPv6 address after, restarted.file.buckets.loadDomain domain isIPv6 = none →
            Orderly restarted (.create domain isIPv6) →
            restarted.create store domain isIPv6 = (.ok address, after) → ∀ owner family,
              machine.file.buckets.load address ≠ some owner ∧
                machine.file.buckets.loadDomain owner family ≠ some address := by
  have ordered := run_ordered run
  obtain ⟨newest, calls, written⟩ := fire_writes_newest ordered orderly taken
  refine ⟨newest, by rw [calls]; rfl, written, ?_⟩
  intro crashed stopped restarted inet4Range inet6Range creates crash same again
  have persisted : stopped.file.buckets.metadata = some newest := by
    obtain ⟨_, _, rfl⟩ := Option.map_eq_some_iff.mp crash
    exact (creates_keep_metadata creates).trans written
  obtain ⟨store, started, pools⟩ := start_resumes persisted same again
  refine ⟨store, started, fun isIPv6 => by rw [pools], ?_⟩
  intro domain isIPv6 address after absent steady created owner family
  -- before the firing everything in the file was behind the cursor of the newest call
  obtain ⟨handing, running⟩ : ∃ handing, machine.store = some handing := by
    obtain ⟨_, ring, _⟩ := Option.map_eq_some_iff.mp taken
    obtain ⟨_, set, _⟩ := fire_timer_cases ring
    exact timer_started ordered set
  obtain ⟨behind, families, last⟩ := ordered.running handing running
  rw [← last newest [] calls] at behind families
  rcases machine_create_cases restarted store domain isIPv6 with
    ⟨known, loaded, _⟩ | ⟨message, result⟩ | ⟨_, valid, result⟩
  · grind
  · simp [created] at result
  rw [created] at result
  cases result
  have own : OfFamily (store.pool isIPv6).range isIPv6 := by
    rw [pools, ← same]
    exact families isIPv6
  have cursor : (store.pool isIPv6).current = newest.current isIPv6 := by rw [pools]
  have fresh := advanced_not_held behind cursor own (steady store started absent valid)
  exact ⟨fun loaded => fresh _ (.inr ⟨rfl, owner, loaded⟩), fun loaded => fresh family (.inl ⟨owner, loaded⟩)⟩

theorem firing_saves_first_cursor :
    ¬ ∀ machine fired : Machine, Run machineStep anyStep emptyMachine machine →
      machineStep machine .fire = some fired → fired.file.buckets.metadata = machine.file.calls.head? := by
  intro newest
  have run : Run machineStep anyStep emptyMachine _ :=
    run_of_execute [.start (some benchmarkRange) (some uniqueLocalRange), .create "example.org" false,
      .create "example.com" false] _ _ (fun _ _ _ => trivial) rfl
  have written := newest _ _ run rfl
  revert written
  decide

theorem single_call_saved :
    ∃ machine fired, Run machineStep Orderly emptyMachine machine ∧ machineStep machine .fire = some fired ∧
      ∃ newest, machine.file.calls.head? = some newest ∧ fired.file.buckets.metadata = some newest := by
  have begin : Orderly emptyMachine (.start (some benchmarkRange) (some uniqueLocalRange)) := by
    refine ⟨fun isIPv6 => ?_, .inr rfl⟩
    cases isIPv6 <;> rintro set ⟨⟩ <;> decide
  have started : Run machineStep Orderly emptyMachine _ := Run.next _ Run.refl begin rfl
  have steady : Orderly (emptyMachine.start (some benchmarkRange) (some uniqueLocalRange))
      (.create "example.org" false) := by
    rintro _ ⟨⟩ _ _
    constructor <;> decide
  have created : Run machineStep Orderly emptyMachine _ := Run.next _ started steady rfl
  have first : Orderly (emptyMachine.start (some benchmarkRange) (some uniqueLocalRange) |>.create
      ⟨(newPool (some benchmarkRange)).rewind, (newPool (some uniqueLocalRange)).rewind⟩ "example.org" false).2
      .fire := le_refl 1
  obtain ⟨newest, head, written, _⟩ := firing_saves_newest_cursor _ _ created first rfl
  exact ⟨_, _, created, rfl, newest, head, written⟩

end OtunKernel.FakeIP
