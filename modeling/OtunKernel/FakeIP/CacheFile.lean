import OtunKernel.FakeIP.Store
import OtunKernel.Lib.PartialMap
import OtunKernel.Lib.Transaction

namespace OtunKernel.FakeIP

open Net Lib

structure AddressBucket where
  metadata : Option FakeIPMetadata
  domains : Addr → Option String

abbrev DomainBucket := String → Option Addr

def AddressBucket.empty : AddressBucket := ⟨none, fun _ => none⟩

def DomainBucket.empty : DomainBucket := fun _ => none

-- The FakeIP buckets of the database; a bucket exists once something created it.
structure Buckets where
  address : Option AddressBucket
  domain4 : Option DomainBucket
  domain6 : Option DomainBucket

def Buckets.none : Buckets := ⟨.none, .none, .none⟩

def Buckets.domain (buckets : Buckets) (isIPv6 : Bool) : Option DomainBucket :=
  if isIPv6 then buckets.domain6 else buckets.domain4

def Buckets.setDomain (buckets : Buckets) (isIPv6 : Bool) (bucket : Option DomainBucket) : Buckets :=
  if isIPv6 then { buckets with domain6 := bucket } else { buckets with domain4 := bucket }

def Buckets.metadata (buckets : Buckets) : Option FakeIPMetadata := buckets.address.bind AddressBucket.metadata

def checkKey (length : Nat) : Except String Unit :=
  if length = 0 then .error "key required" else if length > 32768 then .error "key too large" else .ok ()

def storeBody (address : Addr) (domain : String) (buckets : Buckets) : Except String Buckets := do
  let bucket := buckets.address.getD AddressBucket.empty
  let oldDomain := bucket.domains address
  checkKey (address.sliceLength)
  let buckets := { buckets with address := some { bucket with domains := put bucket.domains address domain } }
  let bucket := (buckets.domain (!address.is4)).getD DomainBucket.empty
  let bucket := unlink bucket oldDomain
  checkKey domain.utf8ByteSize
  return buckets.setDomain (!address.is4) (some (put bucket domain address))

def resetBody (buckets : Buckets) : Except String Buckets :=
  if buckets.address.isNone then .error "bucket not found"
  else if buckets.domain4.isNone then .error "bucket not found"
  else if buckets.domain6.isNone then .error "bucket not found"
  else .ok Buckets.none

def Buckets.saveMetadata (buckets : Buckets) (metadata : FakeIPMetadata) : Buckets :=
  { buckets with address := some { buckets.address.getD AddressBucket.empty with metadata := some metadata } }

def Buckets.takeMetadata (buckets : Buckets) : Option FakeIPMetadata × Buckets :=
  match buckets.address with
  | .none => (.none, buckets)
  | some bucket =>
    match bucket.metadata with
    | .none => (.none, buckets)
    | some metadata => (some metadata, { buckets with address := some { bucket with metadata := .none } })

def Buckets.load (buckets : Buckets) (address : Addr) : Option String :=
  (buckets.address.bind (fun bucket => bucket.domains address)).filter (fun domain => domain ≠ "")

def Buckets.loadDomain (buckets : Buckets) (domain : String) (isIPv6 : Bool) : Option Addr :=
  ((buckets.domain isIPv6).bind (fun bucket => bucket domain)).filter Addr.isValid

-- The closure of the timer keeps the metadata of the call that created it.
structure SaveTimer where
  metadata : FakeIPMetadata
  armed : Bool

-- An open cache file. calls is the history of what was passed to
-- FakeIPSaveMetadataAsync since it was opened, newest first.
structure CacheFile where
  buckets : Buckets
  saveMetadataTimer : Option SaveTimer
  calls : List FakeIPMetadata

def openCacheFile (buckets : Buckets) : CacheFile := ⟨buckets, none, []⟩

def CacheFile.fakeIPMetadata (file : CacheFile) : Option FakeIPMetadata × CacheFile :=
  (file.buckets.takeMetadata.1, { file with buckets := file.buckets.takeMetadata.2 })

def CacheFile.fakeIPSaveMetadata (file : CacheFile) (metadata : FakeIPMetadata) : CacheFile :=
  { file with buckets := file.buckets.saveMetadata metadata }

def CacheFile.fakeIPSaveMetadataAsync (file : CacheFile) (metadata : FakeIPMetadata) : CacheFile :=
  let timer := match file.saveMetadataTimer with
    | none => SaveTimer.mk metadata true
    | some timer => { timer with armed := true }
  { file with saveMetadataTimer := some timer, calls := metadata :: file.calls }

def CacheFile.fireTimer (file : CacheFile) : Option CacheFile :=
  match file.saveMetadataTimer with
  | some timer =>
    if timer.armed then
      some { file.fakeIPSaveMetadata timer.metadata with saveMetadataTimer := some { timer with armed := false } }
    else none
  | none => none

def CacheFile.fakeIPStore (file : CacheFile) (address : Addr) (domain : String) : CacheFile :=
  { file with buckets := transact (storeBody address domain) file.buckets }

def CacheFile.fakeIPReset (file : CacheFile) : CacheFile := { file with buckets := transact resetBody file.buckets }

def cacheFileStorage : Storage CacheFile where
  metadata := CacheFile.fakeIPMetadata
  saveMetadata := CacheFile.fakeIPSaveMetadata
  saveMetadataAsync := CacheFile.fakeIPSaveMetadataAsync
  store := CacheFile.fakeIPStore
  load file := file.buckets.load
  loadDomain file := file.buckets.loadDomain
  reset := CacheFile.fakeIPReset

def Buckets.Holds (buckets : Buckets) (address : Addr) (isIPv6 : Bool) : Prop :=
  (∃ domain, buckets.loadDomain domain isIPv6 = some address) ∨
    (isIPv6 = !address.is4 ∧ ∃ domain, buckets.load address = some domain)

-- Domain buckets are created behind the address bucket and hold the family of
-- every address in it.
structure Buckets.WellFormed (buckets : Buckets) : Prop where
  address : ∀ isIPv6, (buckets.domain isIPv6).isSome = true → buckets.address.isSome = true
  domain : ∀ address domain, buckets.load address = some domain → (buckets.domain (!address.is4)).isSome = true

section
variable {buckets result : Buckets} {address : Addr} {domain : String}

theorem set_domain_domain (isIPv6 other : Bool) (bucket : Option DomainBucket) :
    (buckets.setDomain isIPv6 bucket).domain other = if other = isIPv6 then bucket else buckets.domain other := by
  cases isIPv6 <;> cases other <;> rfl

@[simp] theorem set_domain_address (isIPv6 : Bool) (bucket : Option DomainBucket) :
    (buckets.setDomain isIPv6 bucket).address = buckets.address := by
  cases isIPv6 <;> rfl

@[simp] theorem domain_with_address (bucket : Option AddressBucket) (isIPv6 : Bool) :
    Buckets.domain { buckets with address := bucket } isIPv6 = buckets.domain isIPv6 := rfl

variable {other : Addr} {isIPv6 : Bool} {name : String}

section
variable (stored : storeBody address domain buckets = .ok result)
include stored

theorem store_body_ok : result.address = some { buckets.address.getD AddressBucket.empty with
          domains := put (buckets.address.getD AddressBucket.empty).domains address domain } ∧ ∀ isIPv6, result.domain isIPv6 =
        if isIPv6 = !address.is4 then some (put (unlink ((buckets.domain isIPv6).getD DomainBucket.empty)
            ((buckets.address.getD AddressBucket.empty).domains address)) domain address) else buckets.domain isIPv6 := by
  simp only [storeBody, bind, Except.bind] at stored
  split at stored
  · contradiction
  split at stored
  · contradiction
  cases stored
  refine ⟨by simp, fun isIPv6 => ?_⟩
  rw [set_domain_domain]
  by_cases same : isIPv6 = !address.is4
  · simp [same]
  · simp [same]

theorem store_body_metadata : result.metadata = buckets.metadata := by
  rw [Buckets.metadata, (store_body_ok stored).1, Buckets.metadata]
  cases buckets.address <;> rfl

theorem store_body_load (loaded : result.load other = some name) : other = address ∨ buckets.load other = some name := by
  by_cases same : other = address
  · exact .inl same
  rw [Buckets.load, (store_body_ok stored).1] at loaded
  rw [Buckets.load]
  cases present : buckets.address with
  | none => simp [same, present, AddressBucket.empty] at loaded
  | some => simpa [same, present] using loaded

theorem store_body_load_domain (loaded : result.loadDomain name isIPv6 = some other) :
    (other = address ∧ isIPv6 = !address.is4) ∨ buckets.loadDomain name isIPv6 = some other := by
  rw [Buckets.loadDomain, (store_body_ok stored).2] at loaded
  split at loaded
  · by_cases same : name = domain
    · simp_all
    simp only [Option.bind_some, put_other _ _ _ _ same, Option.filter_eq_some_iff] at loaded
    have found := unlink_some loaded.1
    cases present : buckets.domain isIPv6 with
    | none => simp [present, DomainBucket.empty] at found
    | some => simp_all [Buckets.loadDomain]
  · exact .inr loaded

theorem store_body_holds (held : result.Holds other isIPv6) :
    (other = address ∧ isIPv6 = !address.is4) ∨ buckets.Holds other isIPv6 := by
  rcases held with ⟨name, loaded⟩ | ⟨family, name, loaded⟩
  · exact (store_body_load_domain stored loaded).imp_right (fun before => .inl ⟨name, before⟩)
  rcases store_body_load stored loaded with same | before
  · simp_all
  · exact .inr (.inr ⟨family, name, before⟩)

theorem store_body_well_formed (wellFormed : buckets.WellFormed) : result.WellFormed := by
  obtain ⟨addressed, domains⟩ := store_body_ok stored
  constructor
  · simp [addressed]
  grind [store_body_load, wellFormed.domain]

end

theorem holds_congr (loads : result.load = buckets.load) (domains : result.domain = buckets.domain) (isIPv6 : Bool) :
    result.Holds address isIPv6 ↔ buckets.Holds address isIPv6 := by
  unfold Buckets.Holds Buckets.loadDomain
  rw [loads, domains]

theorem well_formed_congr (loads : result.load = buckets.load) (domains : result.domain = buckets.domain)
    (kept : buckets.address.isSome = true → result.address.isSome = true) (wellFormed : buckets.WellFormed) :
    result.WellFormed := by
  constructor
  · intro isIPv6 created
    rw [domains] at created
    exact kept (wellFormed.address isIPv6 created)
  intro other name loaded
  rw [loads] at loaded
  rw [domains]
  exact wellFormed.domain other name loaded

theorem save_metadata_load (metadata : FakeIPMetadata) : (buckets.saveMetadata metadata).load = buckets.load := by
  unfold Buckets.load Buckets.saveMetadata
  cases buckets.address <;> rfl

theorem save_metadata_holds (metadata : FakeIPMetadata) (isIPv6 : Bool) :
    (buckets.saveMetadata metadata).Holds address isIPv6 ↔ buckets.Holds address isIPv6 :=
  holds_congr (save_metadata_load metadata) rfl isIPv6

theorem take_metadata_cases (buckets : Buckets) :
    (buckets.metadata = none ∧ buckets.takeMetadata = (none, buckets)) ∨
      ∃ bucket metadata, buckets.address = some bucket ∧ bucket.metadata = some metadata ∧
        buckets.takeMetadata =
          (some metadata, { buckets with address := some { bucket with metadata := none } }) := by
  grind [Buckets.takeMetadata, Buckets.metadata]

theorem take_metadata_result (buckets : Buckets) : buckets.takeMetadata.1 = buckets.metadata := by
  rcases take_metadata_cases buckets with ⟨absent, taken⟩ | ⟨bucket, metadata, present, held, taken⟩
  · rw [taken, absent]
  · simp [taken, Buckets.metadata, present, held]

theorem take_metadata_removes : buckets.takeMetadata.2.metadata = none := by
  rcases take_metadata_cases buckets with ⟨absent, taken⟩ | ⟨bucket, metadata, _, _, taken⟩
  · rw [taken, absent]
  rw [taken]
  rfl

theorem take_metadata_load : buckets.takeMetadata.2.load = buckets.load := by
  rcases take_metadata_cases buckets with ⟨_, taken⟩ | ⟨bucket, metadata, present, _, taken⟩
  · rw [taken]
  · grind [Buckets.load]

theorem take_metadata_domain : buckets.takeMetadata.2.domain = buckets.domain := by
  rcases take_metadata_cases buckets with ⟨_, taken⟩ | ⟨bucket, metadata, _, _, taken⟩
  · rw [taken]
  rw [taken]
  rfl

theorem take_metadata_holds (isIPv6 : Bool) : buckets.takeMetadata.2.Holds address isIPv6 ↔ buckets.Holds address isIPv6 :=
  holds_congr take_metadata_load take_metadata_domain isIPv6

theorem none_holds (isIPv6 : Bool) : ¬ Buckets.none.Holds address isIPv6 := by
  rintro (⟨name, loaded⟩ | ⟨_, name, loaded⟩)
  · cases isIPv6 <;> contradiction
  · contradiction

theorem none_well_formed : Buckets.none.WellFormed := by
  constructor
  · intro isIPv6 created
    cases isIPv6 <;> contradiction
  intro other name loaded
  contradiction

theorem reset_cases (buckets : Buckets) : transact resetBody buckets = Buckets.none ∨ (transact resetBody buckets = buckets ∧
      (buckets.address = none ∨ buckets.domain false = none ∨ buckets.domain true = none)) := by
  unfold transact resetBody Buckets.domain
  cases buckets.address <;> cases buckets.domain4 <;> cases buckets.domain6 <;> simp

theorem reset_holds (held : (transact resetBody buckets).Holds address isIPv6) : buckets.Holds address isIPv6 := by
  rcases reset_cases buckets with cleared | ⟨kept, _⟩
  · rw [cleared] at held
    exact absurd held (none_holds isIPv6)
  · rwa [kept] at held

variable {metadata : FakeIPMetadata}

theorem reset_metadata (held : (transact resetBody buckets).metadata = some metadata) : buckets.metadata = some metadata := by
  rcases reset_cases buckets with cleared | ⟨kept, _⟩
  · rw [cleared] at held
    contradiction
  · rwa [kept] at held

variable (wellFormed : buckets.WellFormed)
include wellFormed

theorem save_metadata_well_formed (metadata : FakeIPMetadata) : (buckets.saveMetadata metadata).WellFormed :=
  well_formed_congr (save_metadata_load metadata) rfl (fun _ => rfl) wellFormed

theorem take_metadata_well_formed : buckets.takeMetadata.2.WellFormed := by
  refine well_formed_congr take_metadata_load take_metadata_domain (fun present => ?_) wellFormed
  rcases take_metadata_cases buckets with ⟨_, taken⟩ | ⟨bucket, metadata, _, _, taken⟩
  · rwa [taken]
  · simp [taken]

theorem reset_well_formed : (transact resetBody buckets).WellFormed := by
  rcases reset_cases buckets with cleared | ⟨kept, _⟩
  · simp [cleared, none_well_formed]
  · rwa [kept]

theorem holds_domain_created (held : buckets.Holds address isIPv6) : (buckets.domain isIPv6).isSome = true := by
  rcases held with ⟨name, loaded⟩ | ⟨family, name, loaded⟩
  · cases present : buckets.domain isIPv6 with
    | none => simp [Buckets.loadDomain, present] at loaded
    | some => rfl
  · simpa [family] using wellFormed.domain address name loaded

theorem reset_clears (paired : (buckets.domain false).isSome = (buckets.domain true).isSome) (isIPv6 : Bool) :
    ¬ (transact resetBody buckets).Holds address isIPv6 := by
  intro held
  rcases reset_cases buckets with cleared | ⟨kept, missing⟩
  · rw [cleared] at held
    exact none_holds isIPv6 held
  rw [kept] at held
  have created := holds_domain_created wellFormed held
  have owned := wellFormed.address isIPv6 created
  have both : ∀ other, (buckets.domain other).isSome = true := by
    intro other
    cases isIPv6 <;> cases other <;> simp_all
  rcases missing with absent | absent | absent
  · simp [absent] at owned
  · simpa [absent] using both false
  · simpa [absent] using both true

end

theorem async_timer {file : CacheFile} {timer : SaveTimer}
    (set : (file.fakeIPSaveMetadataAsync metadata).saveMetadataTimer = some timer) :
    (file.saveMetadataTimer = none ∧ timer.metadata = metadata) ∨
      ∃ earlier, file.saveMetadataTimer = some earlier ∧ timer.metadata = earlier.metadata := by
  grind [CacheFile.fakeIPSaveMetadataAsync]

theorem fire_timer_cases {file result : CacheFile} (fired : file.fireTimer = some result) :
    ∃ timer, file.saveMetadataTimer = some timer ∧
      result = ⟨file.buckets.saveMetadata timer.metadata, some { timer with armed := false }, file.calls⟩ := by
  unfold CacheFile.fireTimer at fired
  cases present : file.saveMetadataTimer with
  | none => simp [present] at fired
  | some timer =>
    simp only [present] at fired
    split at fired
    · cases fired
      exact ⟨timer, rfl, rfl⟩
    · contradiction

end OtunKernel.FakeIP
