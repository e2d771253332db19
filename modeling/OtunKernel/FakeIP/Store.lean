import OtunKernel.Net.Prefix

namespace OtunKernel.FakeIP

open Net

structure FakeIPMetadata where
  inet4Range : Option Prefix
  inet6Range : Option Prefix
  inet4Current : Addr
  inet6Current : Addr
deriving DecidableEq

-- The storage interface. Errors of FakeIPStore are only logged and those of
-- FakeIPReset are dropped, so that only the effect is kept.
structure Storage (σ : Type) where
  metadata : σ → Option FakeIPMetadata × σ
  saveMetadata : σ → FakeIPMetadata → σ
  saveMetadataAsync : σ → FakeIPMetadata → σ
  store : σ → Addr → String → σ
  load : σ → Addr → Option String
  loadDomain : σ → String → Bool → Option Addr
  reset : σ → σ

structure Pool where
  range : Option Prefix
  last : Addr
  current : Addr
deriving DecidableEq

structure Store where
  inet4 : Pool
  inet6 : Pool
deriving DecidableEq

def newPool (range : Option Prefix) : Pool where
  range := range
  last := range.elim .zero broadcastAddress
  current := .zero

def newStore (inet4Range inet6Range : Option Prefix) : Store := ⟨newPool inet4Range, newPool inet6Range⟩

def rangeAddr (range : Option Prefix) : Addr := range.elim .zero Prefix.addr

def rangeContains (range : Option Prefix) (address : Addr) : Bool := range.any (fun range => range.contains address)

def Pool.rewind (pool : Pool) : Pool :=
  match pool.range with
  | some range => { pool with current := range.addr.next }
  | none => pool

def Store.pool (store : Store) (isIPv6 : Bool) : Pool := if isIPv6 then store.inet6 else store.inet4

def Store.setCurrent (store : Store) (isIPv6 : Bool) (address : Addr) : Store :=
  if isIPv6 then { store with inet6 := { store.inet6 with current := address } }
  else { store with inet4 := { store.inet4 with current := address } }

def Store.metadata (store : Store) : FakeIPMetadata :=
  ⟨store.inet4.range, store.inet6.range, store.inet4.current, store.inet6.current⟩

def FakeIPMetadata.range (metadata : FakeIPMetadata) (isIPv6 : Bool) : Option Prefix :=
  if isIPv6 then metadata.inet6Range else metadata.inet4Range

def FakeIPMetadata.current (metadata : FakeIPMetadata) (isIPv6 : Bool) : Addr :=
  if isIPv6 then metadata.inet6Current else metadata.inet4Current

def Pool.wrapTarget (pool : Pool) : Addr := (rangeAddr pool.range).next.next

def Pool.nextAddress (pool : Pool) : Addr :=
  if pool.current.next = pool.last || !rangeContains pool.range pool.current.next then pool.wrapTarget
  else pool.current.next

-- A range configured for a family is one of that family; the code does not check it.
def OfFamily (range : Option Prefix) (isIPv6 : Bool) : Prop :=
  ∀ set, range = some set → set.addr.is4 = !isIPv6

variable {range : Option Prefix} {isIPv6 : Bool} {address : Addr}

theorem contained_family (family : OfFamily range isIPv6)
    (inside : rangeContains range address = true) : address.is4 = !isIPv6 := by
  obtain ⟨set, configured, member⟩ := (Option.any_eq_true _ _).mp inside
  rw [(contains_family member).1, family set configured]

theorem contained_valid (inside : rangeContains range address = true) : address.isValid = true := by
  obtain ⟨_, _, member⟩ := (Option.any_eq_true _ _).mp inside
  exact contains_valid member

theorem next_address_cases (pool : Pool) :
    (rangeContains pool.range pool.current.next = true ∧ pool.nextAddress = pool.current.next) ∨
      pool.nextAddress = pool.wrapTarget := by
  unfold Pool.nextAddress
  split
  · exact .inr rfl
  rename_i kept
  refine .inl ⟨?_, rfl⟩
  simp only [Bool.or_eq_true, not_or, Bool.not_eq_true, Bool.not_eq_false'] at kept
  exact kept.2

section
variable {σ : Type} (storage : Storage σ)

def startStore (store : Store) (state : σ) : Store × σ :=
  let (metadata, state) := storage.metadata state
  match metadata with
  | some saved =>
    if saved.inet4Range = store.inet4.range ∧ saved.inet6Range = store.inet6.range then
      (⟨{ store.inet4 with current := saved.inet4Current }, { store.inet6 with current := saved.inet6Current }⟩, state)
    else (⟨store.inet4.rewind, store.inet6.rewind⟩, storage.reset state)
  | none => (⟨store.inet4.rewind, store.inet6.rewind⟩, storage.reset state)

def closeStore (store : Store) (state : σ) : σ := storage.saveMetadata state store.metadata

-- The first lookup runs before the lock is taken and is repeated under it;
-- with one call at a time both give the same answer.
def create (store : Store) (state : σ) (domain : String) (isIPv6 : Bool) : Except String Addr × Store × σ :=
  match storage.loadDomain state domain isIPv6 with
  | some address => (.ok address, store, state)
  | none =>
    match storage.loadDomain state domain isIPv6 with
    | some address => (.ok address, store, state)
    | none =>
      if !(store.pool isIPv6).current.isValid then
        (.error (if isIPv6 then "missing IPv6 fakeip address range" else "missing IPv4 fakeip address range"), store, state)
      else
        let address := (store.pool isIPv6).nextAddress
        let store := store.setCurrent isIPv6 address
        let state := storage.store state address domain
        (.ok address, store, storage.saveMetadataAsync state store.metadata)

def lookup (state : σ) (address : Addr) : Option String := storage.load state address

variable (store : Store) (state : σ) (domain : String) (isIPv6 : Bool)

theorem create_cases : (∃ address, storage.loadDomain state domain isIPv6 = some address ∧
      create storage store state domain isIPv6 = (.ok address, store, state)) ∨
    (storage.loadDomain state domain isIPv6 = none ∧ (store.pool isIPv6).current.isValid = false ∧
      ∃ message, create storage store state domain isIPv6 = (.error message, store, state)) ∨
    (storage.loadDomain state domain isIPv6 = none ∧ (store.pool isIPv6).current.isValid = true ∧
      create storage store state domain isIPv6 =
        (.ok (store.pool isIPv6).nextAddress, store.setCurrent isIPv6 (store.pool isIPv6).nextAddress,
          storage.saveMetadataAsync (storage.store state (store.pool isIPv6).nextAddress domain)
            (store.setCurrent isIPv6 (store.pool isIPv6).nextAddress).metadata)) := by
  cases loaded : storage.loadDomain state domain isIPv6 with
  | some address | none => grind [create]

end

def benchmarkRange : Prefix := ⟨.v4 0xc6120000#32, 15, by decide⟩

def uniqueLocalRange : Prefix := ⟨.v6 (0xfc00#128 <<< 112), 18, by decide⟩

section
variable (store : Store)

@[simp] theorem metadata_range (isIPv6 : Bool) : store.metadata.range isIPv6 = (store.pool isIPv6).range := by
  cases isIPv6 <;> rfl

@[simp] theorem metadata_current (isIPv6 : Bool) : store.metadata.current isIPv6 = (store.pool isIPv6).current := by
  cases isIPv6 <;> rfl

@[simp] theorem set_current_range (isIPv6 other : Bool) (address : Addr) :
    ((store.setCurrent isIPv6 address).pool other).range = (store.pool other).range := by
  cases isIPv6 <;> cases other <;> rfl

theorem set_current_pool_same (isIPv6 : Bool) (address : Addr) :
    (store.setCurrent isIPv6 address).pool isIPv6 = { store.pool isIPv6 with current := address } := by
  cases isIPv6 <;> rfl

theorem set_current_pool_other {other : Bool} (address : Addr) (different : other ≠ isIPv6) :
    (store.setCurrent isIPv6 address).pool other = store.pool other := by
  cases isIPv6 <;> cases other <;> first | contradiction | rfl

end
end OtunKernel.FakeIP
