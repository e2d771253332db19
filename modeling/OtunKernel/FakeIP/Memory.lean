import OtunKernel.FakeIP.Store
import OtunKernel.Lib.PartialMap
import OtunKernel.Lib.Runs

namespace OtunKernel.FakeIP

open Net Lib

structure MemoryStorage where
  addressCache : Addr → Option String
  domainCache4 : String → Option Addr
  domainCache6 : String → Option Addr

def newMemoryStorage : MemoryStorage := ⟨fun _ => none, fun _ => none, fun _ => none⟩

-- Whatever is not an IPv4 address goes to the IPv6 map, the zero Addr too.
def MemoryStorage.forget (memory : MemoryStorage) (address : Addr) (oldDomain : String) : MemoryStorage :=
  if address.is4 then { memory with domainCache4 := erase memory.domainCache4 oldDomain }
  else { memory with domainCache6 := erase memory.domainCache6 oldDomain }

def MemoryStorage.fakeIPStore (memory : MemoryStorage) (address : Addr) (domain : String) : MemoryStorage :=
  let memory := match memory.addressCache address with
    | some oldDomain => memory.forget address oldDomain
    | none => memory
  let memory := { memory with addressCache := put memory.addressCache address domain }
  if address.is4 then { memory with domainCache4 := put memory.domainCache4 domain address }
  else { memory with domainCache6 := put memory.domainCache6 domain address }

def MemoryStorage.fakeIPLoad (memory : MemoryStorage) (address : Addr) : Option String := memory.addressCache address

def MemoryStorage.fakeIPLoadDomain (memory : MemoryStorage) (domain : String) (isIPv6 : Bool) : Option Addr :=
  if !isIPv6 then memory.domainCache4 domain else memory.domainCache6 domain

def memoryStorage : Storage MemoryStorage where
  metadata memory := (none, memory)
  saveMetadata memory _ := memory
  saveMetadataAsync memory _ := memory
  store := MemoryStorage.fakeIPStore
  load := MemoryStorage.fakeIPLoad
  loadDomain := MemoryStorage.fakeIPLoadDomain
  reset _ := newMemoryStorage

structure MemoryState where
  store : Store
  memory : MemoryStorage

structure CreateCall where
  domain : String
  isIPv6 : Bool
deriving DecidableEq, Repr

def startMemory (inet4Range inet6Range : Option Prefix) : MemoryState :=
  let (store, memory) := startStore memoryStorage (newStore inet4Range inet6Range) newMemoryStorage
  ⟨store, memory⟩

def MemoryState.create (state : MemoryState) (domain : String) (isIPv6 : Bool) : Except String Addr × MemoryState :=
  let (result, store, memory) := FakeIP.create memoryStorage state.store state.memory domain isIPv6
  (result, ⟨store, memory⟩)

def memoryStep : System MemoryState CreateCall :=
  fun state call => some (state.create call.domain call.isIPv6).2

def MemoryState.load (state : MemoryState) (address : Addr) : Option String :=
  lookup memoryStorage state.memory address

def MemoryState.loadDomain (state : MemoryState) (domain : String) (isIPv6 : Bool) : Option Addr :=
  memoryStorage.loadDomain state.memory domain isIPv6

def MemoryStorage.forward (memory : MemoryStorage) (address : Addr) : Option (String × Bool) :=
  (memory.addressCache address).map (fun domain => (domain, !address.is4))

def MemoryStorage.backward (memory : MemoryStorage) (key : String × Bool) : Option Addr :=
  memory.fakeIPLoadDomain key.1 key.2

theorem forward_store (memory : MemoryStorage) (address : Addr) (domain : String) :
    (memory.fakeIPStore address domain).forward = put memory.forward address (domain, !address.is4) := by
  have cached : (memory.fakeIPStore address domain).addressCache = put memory.addressCache address domain := by
    grind [MemoryStorage.fakeIPStore, MemoryStorage.forget]
  funext other
  rw [MemoryStorage.forward, cached]
  grind [MemoryStorage.forward]

theorem backward_store (memory : MemoryStorage) (address : Addr) (domain : String) :
    (memory.fakeIPStore address domain).backward =
      put (unlink memory.backward (memory.forward address)) (domain, !address.is4) address := by
  funext ⟨name, isIPv6⟩
  unfold MemoryStorage.forward
  cases old : memory.addressCache address <;> cases family : address.is4 <;> cases isIPv6 <;>
    simp [MemoryStorage.fakeIPStore, MemoryStorage.forget, MemoryStorage.backward, MemoryStorage.fakeIPLoadDomain,
      old, family, unlink, put, erase, Function.update_apply]

theorem memory_create_cases (state : MemoryState) (domain : String) (isIPv6 : Bool) :
    (∃ address, state.loadDomain domain isIPv6 = some address ∧ state.create domain isIPv6 = (.ok address, state)) ∨
    (state.loadDomain domain isIPv6 = none ∧ ∃ message, state.create domain isIPv6 = (.error message, state)) ∨
    (state.loadDomain domain isIPv6 = none ∧ (state.store.pool isIPv6).current.isValid = true ∧ state.create domain isIPv6 =
        (.ok (state.store.pool isIPv6).nextAddress, ⟨state.store.setCurrent isIPv6 (state.store.pool isIPv6).nextAddress,
            state.memory.fakeIPStore (state.store.pool isIPv6).nextAddress domain⟩)) := by
  unfold MemoryState.create
  rcases create_cases memoryStorage state.store state.memory domain isIPv6 with
    ⟨address, loaded, result⟩ | ⟨absent, _, message, result⟩ | ⟨absent, valid, result⟩
  · exact .inl ⟨address, loaded, by rw [result]⟩
  · exact .inr (.inl ⟨absent, message, by rw [result]⟩)
  · exact .inr (.inr ⟨absent, valid, by rw [result]; rfl⟩)

-- Behind 255.255.255.254 the wrap-around target is the zero Addr, which belongs to no family.
def WrapsInFamily (range : Option Prefix) : Prop := ∀ set, range = some set → set.addr ≠ .v4 0xfffffffe#32

structure Pool.Sound (pool : Pool) (isIPv6 : Bool) : Prop where
  family : OfFamily pool.range isIPv6
  wraps : pool.current.isValid = true → pool.wrapTarget.is4 = !isIPv6

variable {isIPv6 : Bool} {state : MemoryState} {address : Addr} {domain : String}

theorem sound_next_address {pool : Pool} (sound : pool.Sound isIPv6) (valid : pool.current.isValid = true) :
    pool.nextAddress.is4 = !isIPv6 := by
  rcases next_address_cases pool with ⟨inside, kept⟩ | wrapped
  · simpa [kept] using contained_family sound.family inside
  · simpa [wrapped] using sound.wraps valid

theorem sound_rewind {range : Option Prefix} (family : OfFamily range isIPv6)
    (wraps : isIPv6 = false → WrapsInFamily range) : (newPool range).rewind.Sound isIPv6 := by
  cases range with
  | none => exact ⟨family, by simp [newPool, Pool.rewind, Addr.isValid]⟩
  | some set =>
    refine ⟨family, ?_⟩
    have own := family set rfl
    intro valid
    cases isIPv6 with
    | true => exact next_not_is4 _ (next_not_is4 _ own)
    | false => exact next_next_is4 own (wraps rfl set rfl) valid

theorem set_current_sound {store : Store} {other : Bool} (address : Addr) (sound : (store.pool other).Sound other)
    (valid : (store.pool isIPv6).current.isValid = true) : ((store.setCurrent isIPv6 address).pool other).Sound other := by
  by_cases same : other = isIPv6
  · subst same
    rw [set_current_pool_same]
    exact ⟨sound.family, fun _ => sound.wraps valid⟩
  · rwa [set_current_pool_other store address same]

structure MemoryState.Consistent (state : MemoryState) : Prop where
  inverse : Inverse state.memory.forward state.memory.backward
  sound : ∀ isIPv6, (state.store.pool isIPv6).Sound isIPv6

theorem start_consistent {inet4Range inet6Range : Option Prefix} (family4 : OfFamily inet4Range false)
    (family6 : OfFamily inet6Range true) (wraps : WrapsInFamily inet4Range) : (startMemory inet4Range inet6Range).Consistent := by
  refine ⟨fun address key => ?_, fun isIPv6 => ?_⟩
  · cases key with
    | mk _ isIPv6 => cases isIPv6 <;> exact ⟨nofun, nofun⟩
  cases isIPv6 with
  | false => exact sound_rewind family4 (fun _ => wraps)
  | true => exact sound_rewind family6 nofun

theorem create_consistent (consistent : state.Consistent) (domain : String) (isIPv6 : Bool) :
    (state.create domain isIPv6).2.Consistent := by
  rcases memory_create_cases state domain isIPv6 with
    ⟨address, _, result⟩ | ⟨_, message, result⟩ | ⟨absent, valid, result⟩
  · rwa [result]
  · rwa [result]
  rw [result]
  refine ⟨?_, fun other => set_current_sound _ (consistent.sound other) valid⟩
  have family := sound_next_address (consistent.sound isIPv6) valid
  rw [forward_store, backward_store]
  apply inverse_link consistent.inverse _ _
  -- the double check found no address under the family of the new one
  rw [family, Bool.not_not]
  exact absent

theorem run_consistent {allowed : MemoryState → CreateCall → Prop} {start : MemoryState}
    (run : Run memoryStep allowed start state) (initially : start.Consistent) : state.Consistent := by
  apply run.invariant _ initially
  intro _ call _ consistent _ taken
  cases taken
  exact create_consistent consistent call.domain call.isIPv6

section
variable (consistent : state.Consistent)
include consistent

theorem consistent_load_iff (address : Addr) (domain : String) :
    state.load address = some domain ↔ state.loadDomain domain (!address.is4) = some address := by
  refine Iff.trans ?_ (consistent.inverse address (domain, !address.is4))
  simp [MemoryState.load, lookup, memoryStorage, MemoryStorage.fakeIPLoad, MemoryStorage.forward]

theorem created_mapped {after : MemoryState}
    (created : state.create domain isIPv6 = (.ok address, after)) : after.loadDomain domain isIPv6 = some address := by
  rcases memory_create_cases state domain isIPv6 with
    ⟨known, loaded, result⟩ | ⟨_, message, result⟩ | ⟨_, valid, result⟩
  · simp_all
  · simp [created] at result
  have family := sound_next_address (consistent.sound isIPv6) valid
  rw [created] at result
  cases result
  have written := congrFun (backward_store state.memory (state.store.pool isIPv6).nextAddress domain) (domain, isIPv6)
  rw [family, Bool.not_not, put_same] at written
  exact written

def KeepsOwner (address : Addr) (domain : String) (state : MemoryState) (call : CreateCall) : Prop :=
  (state.create call.domain call.isIPv6).1 = .ok address → call.domain = domain

variable (mapped : state.loadDomain domain isIPv6 = some address)
include mapped

theorem consistent_family : isIPv6 = !address.is4 := by
  have linked := (consistent.inverse address (domain, isIPv6)).mpr mapped
  grind [MemoryStorage.forward, Option.map_eq_some_iff]

theorem create_keeps_mapping
    (call : CreateCall) (kept : (state.create call.domain call.isIPv6).1 = .ok address → call.domain = domain) :
    (state.create call.domain call.isIPv6).2.loadDomain domain isIPv6 = some address := by
  rcases memory_create_cases state call.domain call.isIPv6 with
    ⟨known, _, result⟩ | ⟨_, message, result⟩ | ⟨absent, valid, result⟩
  · rwa [result]
  · rwa [result]
  have family := sound_next_address (consistent.sound call.isIPv6) valid
  rw [result] at kept ⊢
  generalize (state.store.pool call.isIPv6).nextAddress = fresh at family kept
  have different : fresh ≠ address := by
    rintro rfl
    have same := kept rfl
    have families := consistent_family consistent mapped
    rw [family] at families
    simp [← same, families, absent] at mapped
  have other : (domain, isIPv6) ≠ (call.domain, !fresh.is4) := by grind
  have after := congrFun (backward_store state.memory fresh call.domain) (domain, isIPv6)
  rw [put_other _ _ _ _ other] at after
  refine after.trans ((unlink_eq_some consistent.inverse fresh).mpr ⟨different.symm, mapped⟩)

theorem run_keeps_mapping {later : MemoryState}
    (run : Run memoryStep (KeepsOwner address domain) state later) : later.loadDomain domain isIPv6 = some address := by
  refine (run.invariant (fun state => state.Consistent ∧ state.loadDomain domain isIPv6 = some address)
    ⟨consistent, mapped⟩ ?_).2
  intro _ call _ both kept taken
  cases taken
  exact ⟨create_consistent both.1 call.domain call.isIPv6, create_keeps_mapping both.1 both.2 call kept⟩

end

theorem create_of_mapped (mapped : state.loadDomain domain isIPv6 = some address) :
    (state.create domain isIPv6).1 = .ok address := by
  rcases memory_create_cases state domain isIPv6 with ⟨known, loaded, result⟩ | ⟨absent, _⟩ | ⟨absent, _⟩
  · simp_all
  · simp [absent] at mapped
  · simp [absent] at mapped

theorem fake_ip_bijection (inet4Range inet6Range : Option Prefix) (family4 : OfFamily inet4Range false)
    (family6 : OfFamily inet6Range true) (wraps : WrapsInFamily inet4Range) (state : MemoryState)
    (run : Run memoryStep anyStep (startMemory inet4Range inet6Range) state) :
    (∀ address domain, state.load address = some domain ↔ state.loadDomain domain (!address.is4) = some address) ∧
    (∀ address domain other isIPv6 family, state.loadDomain domain isIPv6 = some address →
      state.loadDomain other family = some address → domain = other) ∧
    (∀ address domain isIPv6 after, state.create domain isIPv6 = (.ok address, after) →
      after.load address = some domain) ∧
    (∀ address domain isIPv6 after later, state.create domain isIPv6 = (.ok address, after) →
      Run memoryStep (KeepsOwner address domain) after later → (later.create domain isIPv6).1 = .ok address) := by
  have consistent := run_consistent run (start_consistent family4 family6 wraps)
  have kept {address domain isIPv6 after} (created : state.create domain isIPv6 = (.ok address, after)) : after.Consistent := by
    have step := create_consistent consistent domain isIPv6
    rwa [created] at step
  refine ⟨consistent_load_iff consistent, ?_, ?_, ?_⟩
  · intro address domain other isIPv6 family first second
    have same := consistent.inverse.injective (b := (domain, isIPv6)) (c := (other, family)) first second
    exact (Prod.mk.inj same).1
  · intro address domain isIPv6 after created
    have mapped := created_mapped consistent created
    rw [consistent_family (kept created) mapped] at mapped
    exact (consistent_load_iff (kept created) address domain).mpr mapped
  intro address domain isIPv6 after later created unowned
  exact create_of_mapped (run_keeps_mapping (kept created) (created_mapped consistent created) unowned)

def lastPairRange : Prefix := ⟨.v4 0xfffffffe#32, 31, by decide⟩

theorem zero_address_breaks_bijection :
    ¬ ∀ (inet4Range inet6Range : Option Prefix) (state : MemoryState),
      Run memoryStep anyStep (startMemory inet4Range inet6Range) state → ∀ address domain,
        (state.load address = some domain ↔ state.loadDomain domain (!address.is4) = some address) := by
  intro bijection
  have run : Run memoryStep anyStep (startMemory (some lastPairRange) (some uniqueLocalRange)) _ :=
    run_of_execute [⟨"example.org", true⟩, ⟨"example.org", false⟩] _ _ (fun _ _ _ => trivial) rfl
  have broken := bijection _ _ _ run (.v6 (0xfc00#128 <<< 112 + 2)) "example.org"
  revert broken
  decide

theorem benchmark_range_bijection :
    OfFamily (some benchmarkRange) false ∧ OfFamily (some uniqueLocalRange) true ∧
      WrapsInFamily (some benchmarkRange) ∧
      ∃ state, execute memoryStep (startMemory (some benchmarkRange) (some uniqueLocalRange))
          [⟨"example.com", true⟩, ⟨"example.org", false⟩] = some state ∧
        state.load (.v4 0xc6120002#32) = some "example.org" := by
  have family4 : OfFamily (some benchmarkRange) false := by
    rintro set ⟨⟩
    decide
  have family6 : OfFamily (some uniqueLocalRange) true := by
    rintro set ⟨⟩
    decide
  have wraps : WrapsInFamily (some benchmarkRange) := by
    rintro set ⟨⟩
    decide
  have run : Run memoryStep anyStep (startMemory (some benchmarkRange) (some uniqueLocalRange)) _ :=
    run_of_execute [⟨"example.com", true⟩, ⟨"example.org", false⟩] _ _ (fun _ _ _ => trivial) rfl
  exact ⟨family4, family6, wraps, _, rfl, ((fake_ip_bijection _ _ family4 family6 wraps _ run).1 _ _).mpr rfl⟩

end OtunKernel.FakeIP
