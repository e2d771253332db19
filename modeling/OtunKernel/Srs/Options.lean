import OtunKernel.Lib.Layout
import OtunKernel.Net.Prefix

namespace OtunKernel.Srs

open Lib
open Net

inductive SrsError where
  | eof
  | unexpectedEOF
  | overflow
  | invalid
  | external (text : String)
  | message (text : String)
  | cause (text : String) (err : SrsError)
deriving DecidableEq

def asSlice : Addr → Bytes
  | .zero => []
  | .v4 bits => beBytes 4 bits.toNat
  | .v6 bits => beBytes 16 bits.toNat

def addrFromIP (ip : Bytes) : Addr :=
  if ip.length = 4 then .v4 (BitVec.ofNat 32 (beNat ip))
  else if ip.length = 16 then .v6 (BitVec.ofNat 128 (beNat ip))
  else .zero

theorem addr_from_ip_slice (addr : Addr) : addrFromIP (asSlice addr) = addr := by
  cases addr with
  | zero => rfl
  | v4 bits =>
    have small : bits.toNat < 256 ^ 4 := bits.isLt
    rw [asSlice, addrFromIP, if_pos (length_be_bytes 4 _), be_nat_be_bytes small, BitVec.ofNat_toNat, BitVec.setWidth_eq]
  | v6 bits =>
    have small : bits.toNat < 256 ^ 16 := bits.isLt
    grind [asSlice, addrFromIP, length_be_bytes, be_nat_be_bytes]

theorem length_as_slice_le (addr : Addr) : (asSlice addr).length ≤ 16 := by
  cases addr with
  | zero => exact Nat.zero_le 16
  | v4 => rw [asSlice, length_be_bytes]; decide
  | v6 => rw [asSlice, length_be_bytes]

-- A range of a netipx.IPSet. Its two ends have the same zone.
structure IPRange where
  first : Addr
  last : Addr
  zone : String := ""
deriving DecidableEq

def IPRange.withoutZone (range : IPRange) : IPRange := { range with zone := "" }

structure IPPrefix where
  addr : Addr
  bits : Option Nat
  valid : ∀ length, bits = some length → addr.isValid = true ∧ length ≤ addr.width
deriving DecidableEq

def prefixFrom (addr : Addr) (bits : Nat) : IPPrefix :=
  if fits : addr.isValid = true ∧ bits ≤ addr.width then
    { addr := addr, bits := some bits, valid := fun _ same => Option.some.inj same ▸ fits }
  else { addr := addr, bits := none, valid := fun _ none_there => absurd none_there (Option.some_ne_none _).symm }

def IPPrefix.bitsByte (value : IPPrefix) : UInt8 :=
  match value.bits with
  | some bits => UInt8.ofNat bits
  | none => 255

theorem prefix_from_bits_byte (value : IPPrefix) : prefixFrom value.addr value.bitsByte.toNat = value := by
  obtain ⟨addr, bits, valid⟩ := value
  have wide : addr.width ≤ 128 := by cases addr <;> simp [Addr.width]
  cases bits with
  | none => exact dif_neg (fun fits => absurd fits.2 (by change ¬ 255 ≤ addr.width; omega))
  | some bits =>
    grind [UInt8.toNat_ofNat', IPPrefix.bitsByte, prefixFrom]

-- badjson.TypedMap from interface types to prefixes, in the order of insertion.
structure TypedMap where
  entries : List (UInt8 × List IPPrefix) := []
  distinct : (entries.map Prod.fst).Nodup := by exact List.nodup_nil
deriving DecidableEq

def putEntry (key : UInt8) (value : List IPPrefix) (entries : List (UInt8 × List IPPrefix)) : List (UInt8 × List IPPrefix) :=
  if key ∈ entries.map Prod.fst then entries.map (fun entry => if entry.1 = key then (key, value) else entry)
  else entries ++ [(key, value)]

theorem put_entry_distinct (key : UInt8) (value : List IPPrefix) {entries : List (UInt8 × List IPPrefix)}
    (distinct : (entries.map Prod.fst).Nodup) : ((putEntry key value entries).map Prod.fst).Nodup := by
  grind [putEntry]

def TypedMap.put (map : TypedMap) (key : UInt8) (value : List IPPrefix) : TypedMap where
  entries := putEntry key value map.entries
  distinct := put_entry_distinct key value map.distinct

theorem put_all (map : TypedMap) : map.entries.foldl (fun map entry => map.put entry.1 entry.2) {} = map := by
  have grows : ∀ (later earlier : List (UInt8 × List IPPrefix)) (distinct : (earlier.map Prod.fst).Nodup),
      ((earlier ++ later).map Prod.fst).Nodup →
        (later.foldl (fun map entry => map.put entry.1 entry.2) (TypedMap.mk earlier distinct)).entries = earlier ++ later := by
    intro later
    induction later with
    | nil => intro earlier distinct _; simp
    | cons entry _ ih =>
      intro earlier distinct all
      have absent : entry.1 ∉ earlier.map Prod.fst := by grind
      have extended : putEntry entry.1 entry.2 earlier = earlier ++ [entry] := if_neg absent
      have rest := ih (putEntry entry.1 entry.2 earlier) (put_entry_distinct entry.1 entry.2 distinct)
        (by rw [extended, List.append_assoc]; exact all)
      exact rest.trans (by rw [extended, List.append_assoc]; rfl)
  have all := grows map.entries [] List.nodup_nil map.distinct
  generalize List.foldl _ _ _ = result at all
  obtain ⟨_, _⟩ := result
  dsimp only at all ⊢
  simp [all]

-- What the package takes from elsewhere: the domain matchers, the parsing of
-- addresses and the builder of IP sets, zlib, and the largest slice in bytes.
structure Env where
  Matcher : Type
  newMatcher (domains domainSuffix : List Bytes) (generateLegacy : Bool) : Matcher
  writeMatcher : Matcher → Bytes
  readMatcher : Decoder SrsError Matcher
  matcherLayout : Layout
  dump : Matcher → List Bytes × List Bytes
  AdGuardMatcher : Type
  newAdGuardMatcher : List Bytes → AdGuardMatcher
  writeAdGuardMatcher : AdGuardMatcher → Bytes
  readAdGuardMatcher : Decoder SrsError AdGuardMatcher
  adGuardLayout : Layout
  dumpAdGuard : AdGuardMatcher → List Bytes
  Entry : Type
  parsePrefix : Bytes → Except SrsError Entry
  parseAddr : Bytes → Except SrsError Entry
  ipSet : List Entry → Except SrsError (List IPRange)
  prefixes : List IPRange → List Bytes
  deflate : Bytes → Bytes
  inflate : Bytes → Except SrsError (Bytes × Option SrsError)
  maxAlloc : Nat
  address_fits : 16 ≤ maxAlloc
  addressable : maxAlloc < 2 ^ 64
  matcher_follows : ∀ bound, readMatcher.Follows bound matcherLayout
  adguard_follows : ∀ bound, readAdGuardMatcher.Follows bound adGuardLayout

structure DefaultHeadlessRule (env : Env) where
  queryType : List UInt16 := []
  network : List Bytes := []
  domain : List Bytes := []
  domainSuffix : List Bytes := []
  domainKeyword : List Bytes := []
  domainRegex : List Bytes := []
  sourceIPCIDR : List Bytes := []
  ipCIDR : List Bytes := []
  sourcePort : List UInt16 := []
  sourcePortRange : List Bytes := []
  port : List UInt16 := []
  portRange : List Bytes := []
  processName : List Bytes := []
  processPath : List Bytes := []
  processPathRegex : List Bytes := []
  packageName : List Bytes := []
  packageNameRegex : List Bytes := []
  networkType : List UInt8 := []
  networkIsExpensive : Bool := false
  networkIsConstrained : Bool := false
  wifiSSID : List Bytes := []
  wifiBSSID : List Bytes := []
  networkInterfaceAddress : TypedMap := {}
  defaultInterfaceAddress : List IPPrefix := []
  invert : Bool := false
  domainMatcher : Option env.Matcher := none
  sourceIPSet : Option (List IPRange) := none
  ipSet : Option (List IPRange) := none
  adGuardDomain : List Bytes := []
  adGuardDomainMatcher : Option env.AdGuardMatcher := none

inductive LogicalMode where
  | and
  | or
deriving DecidableEq

inductive HeadlessRule (env : Env) where
  | default (options : DefaultHeadlessRule env)
  | logical (mode : LogicalMode) (rules : List (HeadlessRule env)) (invert : Bool)

end OtunKernel.Srs
