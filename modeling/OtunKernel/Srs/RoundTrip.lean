import OtunKernel.Lib.Basic
import OtunKernel.Srs.Safety

namespace OtunKernel.Srs

open Lib
open Decoder

theorem words_of_put (value : List UInt16) : wordsOf (value.flatMap putUint16) = value := by
  induction value with
  | nil => rfl
  | cons _ later ih =>
    change beUint16 _ _ :: wordsOf (later.flatMap putUint16) = _
    rw [ih, be_uint16_put]

theorem length_flat_map_put (value : List UInt16) : (value.flatMap putUint16).length = value.length * uint16Size := by
  induction value with
  | nil => rfl
  | cons _ _ ih =>
    rw [List.flatMap_cons, List.length_append, ih, List.length_cons, Nat.succ_mul, Nat.add_comm]
    rfl

variable {broken : Option SrsError}

section
variable {limit : Nat} {bytes : Bytes}

theorem run_read_full {size : Nat} (length : bytes.length = size) (rest : Bytes) :
    (readFull size).run limit broken (bytes ++ rest) = .ok (bytes, rest) := run_take length

theorem run_read_byte (byte : UInt8) (rest : Bytes) : readByte.run limit broken (byte :: rest) = .ok (byte, rest) :=
  run_take_one byte rest

theorem run_make_slice {length size : Nat} (accepted : length * size ≤ limit) (bytes : Bytes) :
    (makeSlice length size).run limit broken bytes = .ok ((), bytes) := run_make accepted _ _

variable (addressable : limit < 2 ^ 64)
include addressable

theorem run_read_uvarint {value : Nat} (small : value ≤ limit) (rest : Bytes) :
    readUvarint.run limit broken (putUvarint value ++ rest) = .ok (value, rest) :=
  run_decode_uvarint (Nat.lt_of_le_of_lt small addressable) rest

theorem run_read_bytes (held : bytes.length ≤ limit) (rest : Bytes) :
    readBytes.run limit broken (writeBytes bytes ++ rest) = .ok (bytes, rest) := by
  rw [writeBytes, List.append_assoc, readBytes, run_bind_ok (run_read_uvarint addressable held _),
    run_bind_ok (run_make_slice (by rwa [Nat.mul_one]) _)]
  exact run_read_full rfl rest

variable {value : List Bytes}

theorem run_read_strings (held : StringsHeld limit value) (rest : Bytes) :
    readRuleItemString.run limit broken (putUvarint value.length ++ value.flatMap writeBytes ++ rest) = .ok (value, rest) := by
  have count : value.length ≤ limit := Nat.le_trans (Nat.le_mul_of_pos_right _ (by decide)) held.1
  have items : (times (fun _ => readBytes) value.length 0).run limit broken (value.flatMap writeBytes ++ rest) =
      .ok (value.map id, rest) :=
    run_times _ _ _ (fun text member _ rest => run_read_bytes addressable (held.2 text member) rest) 0 rest
  rw [List.map_id] at items
  rw [List.append_assoc, readRuleItemString, run_bind_ok (run_read_uvarint addressable count _), run_bind_ok (run_make_slice held.1 _)]
  exact items

variable {value : List UInt16}

theorem run_read_uint16 (held : value.length * uint16Size ≤ limit) (rest : Bytes) :
    readRuleItemUint16.run limit broken (putUvarint value.length ++ value.flatMap putUint16 ++ rest) = .ok (value, rest) := by
  have count : value.length ≤ limit := Nat.le_trans (Nat.le_mul_of_pos_right _ (by decide)) held
  rw [List.append_assoc, readRuleItemUint16, run_bind_ok (run_read_uvarint addressable count _), run_bind_ok (run_make_slice held _),
    run_bind_ok (run_make_slice held _), run_bind_ok (run_read_full (length_flat_map_put value) rest), words_of_put]
  rfl

section
variable (address_fits : 16 ≤ limit)
include address_fits

theorem run_read_prefix (value : IPPrefix) (rest : Bytes) :
    readPrefix.run limit broken (writePrefix value ++ rest) = .ok (value, rest) := by
  have held : (asSlice value.addr).length ≤ limit := Nat.le_trans (length_as_slice_le _) address_fits
  rw [writePrefix, List.append_assoc, readPrefix, run_bind_ok (run_read_bytes addressable held _), List.singleton_append,
    run_bind_ok (run_read_byte _ rest), addr_from_ip_slice, prefix_from_bits_byte]
  rfl

theorem run_read_prefixes {value : List IPPrefix} (held : value.length ≤ limit) (rest : Bytes) :
    readPrefixes.run limit broken (writePrefixes value ++ rest) = .ok (value, rest) := by
  have items : (times (fun _ => readPrefix) value.length 0).run limit broken (value.flatMap writePrefix ++ rest) =
      .ok (value.map id, rest) :=
    run_times _ _ _ (fun item _ _ rest => run_read_prefix addressable address_fits item rest) 0 rest
  simp [writePrefixes, List.append_assoc, readPrefixes, run_bind_ok (run_read_uvarint addressable held _), items]

theorem run_read_interface_address {map : TypedMap} (held : map.entries.length ≤ limit)
    (values : ∀ entry ∈ map.entries, entry.2.length ≤ limit) (rest : Bytes) :
    readInterfaceAddress.run limit broken (writeInterfaceAddress map ++ rest) = .ok (map, rest) := by
  have each : ∀ entry ∈ map.entries, ∀ (i : Nat) (rest : Bytes),
      (readByte >>= fun key => readPrefixes >>= fun value => .done (key, value)).run limit broken
        (entry.1 :: writePrefixes entry.2 ++ rest) = .ok (id entry, rest) := by
    intro entry member _ rest
    rw [List.cons_append, run_bind_ok (run_read_byte _ _),
      run_bind_ok (run_read_prefixes addressable address_fits (values entry member) rest)]
    rfl
  have items := run_times (fun _ => readByte >>= fun key => readPrefixes >>= fun value => .done (key, value))
    (fun entry => entry.1 :: writePrefixes entry.2) id each 0 rest
  rw [List.map_id] at items
  rw [writeInterfaceAddress, List.append_assoc, readInterfaceAddress, run_bind_ok (run_read_uvarint addressable held _),
    run_bind_ok items, put_all]
  rfl

theorem run_read_ip_set {ipSet : List IPRange} (held : ipSet.length * ipRangeSize ≤ limit)
    (rest : Bytes) : readIPSet.run limit broken (writeIPSet ipSet ++ rest) = .ok (ipSet.map IPRange.withoutZone, rest) := by
  have small : ipSet.length < 256 ^ 8 :=
    Nat.lt_of_le_of_lt (Nat.le_trans (Nat.le_mul_of_pos_right _ (by decide)) held) addressable
  have each : ∀ range ∈ ipSet, ∀ (i : Nat) (rest : Bytes),
      (readBytes >>= fun fromBytes => readBytes >>= fun toBytes =>
        .done ({ first := addrFromIP fromBytes, last := addrFromIP toBytes } : IPRange)).run limit broken
          (writeIPRange range ++ rest) = .ok (range.withoutZone, rest) := by
    intro range _ _ rest
    rw [writeIPRange, List.append_assoc,
      run_bind_ok (run_read_bytes addressable (Nat.le_trans (length_as_slice_le _) address_fits) _),
      run_bind_ok (run_read_bytes addressable (Nat.le_trans (length_as_slice_le _) address_fits) _), addr_from_ip_slice,
      addr_from_ip_slice]
    rfl
  have items := run_times (fun _ => readBytes >>= fun fromBytes => readBytes >>= fun toBytes =>
    .done ({ first := addrFromIP fromBytes, last := addrFromIP toBytes } : IPRange)) writeIPRange IPRange.withoutZone each 0 rest
  rw [writeIPSet, List.cons_append, readIPSet, run_bind_ok (run_read_byte _ _), if_neg (by decide), List.append_assoc,
    run_bind_ok (run_read_full (length_be_bytes 8 _) _), be_nat_be_bytes small, run_bind_ok (run_make_slice held _)]
  exact items

end
end

variable {recover : Bool}

section
variable {env : Env} {rule middle later : DefaultHeadlessRule env} {α : Type}

def Reads (recover : Bool) (broken : Option SrsError) (rule : DefaultHeadlessRule env) (bytes : Bytes)
    (later : DefaultHeadlessRule env) : Prop :=
  ∀ fuel last rest, bytes.length + rest.length < fuel → ∃ fuel' last', rest.length < fuel' ∧
    (readItems env recover fuel last rule).run env.maxAlloc broken (bytes ++ rest) =
      (readItems env recover fuel' last' later).run env.maxAlloc broken rest

theorem Reads.nil : Reads recover broken rule [] rule := by
  intro fuel last _ enough
  rw [List.length_nil, Nat.zero_add] at enough
  exact ⟨fuel, last, enough, rfl⟩

theorem Reads.append {first second : Bytes} (before : Reads recover broken rule first middle)
    (after : Reads recover broken middle second later) : Reads recover broken rule (first ++ second) later := by
  intro fuel last rest enough
  rw [List.length_append, Nat.add_assoc] at enough
  obtain ⟨fuel', last', enough', same⟩ := before fuel last (second ++ rest) (by rwa [List.length_append])
  rw [List.length_append] at enough'
  obtain ⟨fuel'', last'', enough'', same'⟩ := after fuel' last' rest enough'
  grind

theorem Reads.item {item : RuleItem}
    (read : ∀ rest, (readItem env recover rule item).run env.maxAlloc broken (bytes ++ rest) = .ok (later, rest)) :
    Reads recover broken rule (item.code :: bytes) later := by
  intro fuel last rest enough
  rw [List.length_cons] at enough
  cases fuel with
  | zero => omega
  | succ fuel =>
    refine ⟨fuel, item.code, by omega, ?_⟩
    rw [List.cons_append, readItems, run_bind_ok (run_read_byte _ _), if_neg (code_ne_final item), of_code_code,
      run_bind_ok (read rest)]

def Step (recover : Bool) (broken : Option SrsError) (rule : DefaultHeadlessRule env) (step : Except SrsError Bytes)
    (later : DefaultHeadlessRule env) : Prop := ∀ bytes, step = .ok bytes → Reads recover broken rule bytes later

inductive Steps (recover : Bool) (broken : Option SrsError) :
    DefaultHeadlessRule env → List (Except SrsError Bytes) → DefaultHeadlessRule env → Prop where
  | nil {rule : DefaultHeadlessRule env} : Steps recover broken rule [] rule
  | cons {rule middle later : DefaultHeadlessRule env} {step : Except SrsError Bytes} {steps : List (Except SrsError Bytes)}
      (first : Step recover broken rule step middle) (rest : Steps recover broken middle steps later) :
      Steps recover broken rule (step :: steps) later

theorem Steps.reads {steps : List (Except SrsError Bytes)} (taken : Steps recover broken rule steps later) {items : List Bytes}
    (written : steps.mapM id = .ok items) : Reads recover broken rule items.flatten later := by
  induction taken generalizing items with
  | nil =>
    cases written
    exact .nil
  | cons first _ ih =>
    rw [List.mapM_cons] at written
    obtain ⟨bytes, here, written⟩ := bind_eq_ok.mp written
    obtain ⟨_, there, written⟩ := bind_eq_ok.mp written
    cases written
    exact (first bytes here).append (ih there)

theorem Step.of_eq {step : Except SrsError Bytes} (same : rule = middle) (taken : Step recover broken middle step later) :
    Step recover broken rule step later := by
  rwa [same]

theorem step_when_present {present : Bool} {write : Except SrsError Bytes} (absent : present = false → rule = later)
    (there : present = true → Step recover broken rule write later) : Step recover broken rule (whenPresent present write) later := by
  intro bytes written
  cases present with
  | false =>
    cases written
    rw [absent rfl]
    exact .nil
  | true => exact there rfl bytes written

theorem step_since {version generateVersion : UInt8} {text : String} {item : RuleItem}
    (read : ∀ rest, (readItem env recover rule item).run env.maxAlloc broken (bytes ++ rest) = .ok (later, rest)) :
    Step recover broken rule (since version generateVersion text (item.code :: bytes)) later := by
  intro _ written
  rw [since] at written
  split at written
  · cases written
  cases written
  exact .item read

theorem empty_of_absent {value : List α} (absent : (!value.isEmpty) = false) : value = [] := by
  simpa using absent

section
variable {α : Type} {item : RuleItem} {decode : Decoder SrsError α} {set : α → DefaultHeadlessRule env} {value : α}
  {bytes : Bytes}

theorem run_field (reads : readItem env recover rule item = decode >>= fun value => .done (set value))
    (read : ∀ rest, decode.run env.maxAlloc broken (bytes ++ rest) = .ok (value, rest)) (rest : Bytes) :
    (readItem env recover rule item).run env.maxAlloc broken (bytes ++ rest) = .ok (set value, rest) := by
  simp [reads, run_bind_ok (read rest)]

end

theorem string_step {item : RuleItem} {set : List Bytes → DefaultHeadlessRule env} (held : StringsHeld env.maxAlloc value)
    (reads : readItem env recover rule item = readRuleItemString >>= fun value => .done (set value)) (unset : rule = set []) :
    Step recover broken rule (stringItem item value) (set value) := by
  refine step_when_present (fun absent => by rw [empty_of_absent absent, unset]) (fun _ bytes written => ?_)
  cases written
  exact .item (run_field reads (run_read_strings env.addressable held))

theorem uint16_step {item : RuleItem} {set : List UInt16 → DefaultHeadlessRule env}
    (held : value.length * uint16Size ≤ env.maxAlloc)
    (reads : readItem env recover rule item = readRuleItemUint16 >>= fun value => .done (set value)) (unset : rule = set []) :
    Step recover broken rule (uint16Item item value) (set value) := by
  refine step_when_present (fun absent => by rw [empty_of_absent absent, unset]) (fun _ bytes written => ?_)
  cases written
  exact .item (run_field reads (run_read_uint16 env.addressable held))

section
variable {minimum generateVersion : UInt8} {text : String} {item : RuleItem}

theorem list_since_step {decode : Decoder SrsError (List α)} {set : List α → DefaultHeadlessRule env} {value : List α}
    (read : ∀ rest, decode.run env.maxAlloc broken (bytes ++ rest) = .ok (value, rest))
    (reads : readItem env recover rule item = decode >>= fun value => .done (set value)) (unset : rule = set []) :
    Step recover broken rule (whenPresent (!value.isEmpty) (since minimum generateVersion text (item.code :: bytes))) (set value) :=
  step_when_present (fun absent => by rw [empty_of_absent absent, unset]) (fun _ => step_since (run_field reads read))

theorem map_since_step {set : TypedMap → DefaultHeadlessRule env} {map : TypedMap}
    (read : ∀ rest, readInterfaceAddress.run env.maxAlloc broken (bytes ++ rest) = .ok (map, rest))
    (reads : readItem env recover rule item = readInterfaceAddress >>= fun value => .done (set value)) (unset : rule = set {}) :
    Step recover broken rule (whenPresent (!map.entries.isEmpty) (since minimum generateVersion text (item.code :: bytes)))
      (set map) := by
  refine step_when_present (fun absent => ?_) (fun _ => step_since (run_field reads read))
  obtain ⟨entries, _⟩ := map
  have empty : entries = [] := empty_of_absent absent
  subst empty
  exact unset

theorem flag_since_step (set : DefaultHeadlessRule env → Bool → DefaultHeadlessRule env) {flag : Bool} (unset : rule = set rule false)
    (reads : readItem env recover rule item = .done (set rule true)) :
    Step recover broken rule (whenPresent flag (since minimum generateVersion text [item.code])) (set rule flag) := by
  refine step_when_present (fun absent => by rw [absent, ← unset]) (fun present => step_since (fun rest => ?_))
  simp [reads, present]

end
end

-- What is assumed of the code elsewhere.
structure Lossless (env : Env) : Prop where
  zlib : ∀ content, env.inflate (env.deflate content) = .ok (content, none)
  matcher : ∀ matcher broken rest, env.readMatcher.run env.maxAlloc broken (env.writeMatcher matcher ++ rest) = .ok (matcher, rest)
  adGuardMatcher : ∀ matcher broken rest,
    env.readAdGuardMatcher.run env.maxAlloc broken (env.writeAdGuardMatcher matcher ++ rest) = .ok (matcher, rest)

section
variable (env : Env) (version : UInt8) (recover : Bool)

-- The IP set that a list denotes. The format has no place for zones.
def denotedIPSet (value : List Bytes) : List IPRange :=
  match buildIPSet env value with
  | .ok ipSet => ipSet.map IPRange.withoutZone
  | .error _ => []

def readBackIPSet (value : List Bytes) : Option (List IPRange) := if value.isEmpty then none else some (denotedIPSet env value)

def readBackCIDR (value : List Bytes) : List Bytes :=
  if value.isEmpty then [] else if recover then env.prefixes (denotedIPSet env value) else []

def readBackMatcher (rule : DefaultHeadlessRule env) : Option env.Matcher :=
  if rule.domain.isEmpty && rule.domainSuffix.isEmpty then none
  else some (env.newMatcher rule.domain rule.domainSuffix (version == 1))

def readBackAdGuard (rule : DefaultHeadlessRule env) : Option env.AdGuardMatcher :=
  if rule.adGuardDomain.isEmpty then none else some (env.newAdGuardMatcher rule.adGuardDomain)

-- The rule that is read back: the lists that are written as a matcher or an IP
-- set are those dumped from it, or empty.
def imageDefault (rule : DefaultHeadlessRule env) : DefaultHeadlessRule env :=
  { rule with
    domain := if recover then ((readBackMatcher env version rule).map (fun matcher => (env.dump matcher).1)).getD [] else []
    domainSuffix := if recover then ((readBackMatcher env version rule).map (fun matcher => (env.dump matcher).2)).getD [] else []
    sourceIPCIDR := readBackCIDR env recover rule.sourceIPCIDR
    ipCIDR := readBackCIDR env recover rule.ipCIDR
    domainMatcher := readBackMatcher env version rule
    sourceIPSet := readBackIPSet env rule.sourceIPCIDR
    ipSet := readBackIPSet env rule.ipCIDR
    adGuardDomain := if recover then ((readBackAdGuard env rule).map env.dumpAdGuard).getD [] else []
    adGuardDomainMatcher := readBackAdGuard env rule }

mutual
def image : HeadlessRule env → HeadlessRule env
  | .default options => .default (imageDefault env version recover options)
  | .logical mode rules invert => .logical mode (images rules) invert
def images : List (HeadlessRule env) → List (HeadlessRule env)
  | [] => []
  | rule :: later => image rule :: images later
end

structure DefaultHeld (rule : DefaultHeadlessRule env) : Prop where
  numbers : ∀ value ∈ [rule.queryType, rule.sourcePort, rule.port], value.length * uint16Size ≤ env.maxAlloc
  strings : ∀ value ∈ [rule.network, rule.domainKeyword, rule.domainRegex, rule.sourcePortRange, rule.portRange, rule.processName,
    rule.processPath, rule.processPathRegex, rule.packageName, rule.packageNameRegex, rule.wifiSSID, rule.wifiBSSID],
    StringsHeld env.maxAlloc value
  networkType : rule.networkType.length ≤ env.maxAlloc
  interfaceAddress : rule.networkInterfaceAddress.entries.length ≤ env.maxAlloc
  interfaceAddresses : ∀ entry ∈ rule.networkInterfaceAddress.entries, entry.2.length ≤ env.maxAlloc
  defaultInterfaceAddress : rule.defaultInterfaceAddress.length ≤ env.maxAlloc
  ipSets : ∀ value ∈ [rule.sourceIPCIDR, rule.ipCIDR], ∀ ipSet, buildIPSet env value = .ok ipSet →
    ipSet.length * ipRangeSize ≤ env.maxAlloc

mutual
def RuleHeld : HeadlessRule env → Prop
  | .default options => DefaultHeld env options
  | .logical _ rules _ => rules.length * headlessRuleSize ≤ env.maxAlloc ∧ RulesHeld rules
def RulesHeld : List (HeadlessRule env) → Prop
  | [] => True
  | rule :: later => RuleHeld rule ∧ RulesHeld later
end
end

section
variable {env : Env} {version : UInt8} {rule : DefaultHeadlessRule env}

section
variable {start : DefaultHeadlessRule env} {text : String} {value : List Bytes}

theorem cidr_step (set : DefaultHeadlessRule env → List Bytes → Option (List IPRange) → DefaultHeadlessRule env) {item : RuleItem}
    (unset : start = set start [] none) (held : ∀ ipSet, buildIPSet env value = .ok ipSet → ipSet.length * ipRangeSize ≤ env.maxAlloc)
    (reads : readItem env recover start item =
      readIPSet >>= fun ipSet => .done (if recover then set start (env.prefixes ipSet) (some ipSet) else set start [] (some ipSet))) :
    Step recover broken start (whenPresent (!value.isEmpty) ((writeRuleItemCIDR env item value).mapError (.cause text)))
      (set start (readBackCIDR env recover value) (readBackIPSet env value)) := by
  refine step_when_present (fun absent => by rw [empty_of_absent absent]; exact unset) (fun present bytes written => ?_)
  cases built : buildIPSet env value with
  | error =>
    rw [writeRuleItemCIDR, built] at written
    cases written
  | ok ipSet =>
    rw [writeRuleItemCIDR, built] at written
    cases written
    refine .item (fun rest => ?_)
    have there : value.isEmpty = false := by simpa using present
    rw [reads, run_bind_ok (run_read_ip_set env.addressable env.address_fits (held ipSet built) rest), readBackCIDR, readBackIPSet,
      denotedIPSet, built, there]
    cases recover with
    | false | true => rfl

theorem domain_step (lossless : Lossless env) (undumped : start.domain = []) (undumped' : start.domainSuffix = [])
    (unset : start.domainMatcher = none) :
    Step recover broken start
      (whenPresent (!rule.domain.isEmpty || !rule.domainSuffix.isEmpty)
        (.ok (RuleItem.code .domain :: env.writeMatcher (env.newMatcher rule.domain rule.domainSuffix (version == 1)))))
      { start with
        domain := if recover then ((readBackMatcher env version rule).map (fun matcher => (env.dump matcher).1)).getD [] else []
        domainSuffix := if recover then ((readBackMatcher env version rule).map (fun matcher => (env.dump matcher).2)).getD [] else []
        domainMatcher := readBackMatcher env version rule } := by
  have same : start = { start with domain := [], domainSuffix := [], domainMatcher := none } := by
    cases start
    grind
  refine .of_eq same (step_when_present (fun absent => ?_) (fun present bytes written => ?_))
  · have nothing : readBackMatcher env version rule = none := if_pos (by simpa using absent)
    grind
  have there : readBackMatcher env version rule = some (env.newMatcher rule.domain rule.domainSuffix (version == 1)) :=
    if_neg (by simpa [Classical.or_iff_not_imp_left] using present)
  cases written
  refine .item (fun rest => ?_)
  rw [readItem, run_bind_ok (lossless.matcher _ _ rest), there]
  cases recover with
  | false | true => rfl

theorem adguard_step (lossless : Lossless env) {minimum : UInt8} (undumped : start.adGuardDomain = [])
    (unset : start.adGuardDomainMatcher = none) :
    Step recover broken start
      (whenPresent (!rule.adGuardDomain.isEmpty) (since minimum version text
        (RuleItem.code .adGuardDomain :: env.writeAdGuardMatcher (env.newAdGuardMatcher rule.adGuardDomain))))
      { start with
        adGuardDomain := if recover then ((readBackAdGuard env rule).map env.dumpAdGuard).getD [] else []
        adGuardDomainMatcher := readBackAdGuard env rule } := by
  have same : start = { start with adGuardDomain := [], adGuardDomainMatcher := none } := by
    cases start
    grind
  refine .of_eq same (step_when_present (fun absent => ?_) (fun present => step_since (fun rest => ?_)))
  · have nothing : readBackAdGuard env rule = none := if_pos (by simpa using absent)
    grind
  have there : readBackAdGuard env rule = some (env.newAdGuardMatcher rule.adGuardDomain) := if_neg (by simpa using present)
  rw [readItem, run_bind_ok (lossless.adGuardMatcher _ _ rest), there]
  cases recover with
  | false | true => rfl

end

theorem default_steps (lossless : Lossless env) (held : DefaultHeld env rule) :
    Steps recover broken {} (writeItems env rule version) { imageDefault env version recover rule with invert := false } := by
  have strings := held.strings
  have numbers := held.numbers
  refine .cons (uint16_step (numbers _ (by simp)) rfl rfl) ?_
  refine .cons (string_step (strings _ (by simp)) rfl rfl) ?_
  refine .cons (domain_step lossless rfl rfl rfl) ?_
  iterate 2 refine .cons (string_step (strings _ (by simp)) rfl rfl) ?_
  refine .cons (cidr_step (fun rule cidr ipSet => { rule with sourceIPCIDR := cidr, sourceIPSet := ipSet })
    rfl (held.ipSets _ (by simp)) rfl) ?_
  refine .cons (cidr_step (fun rule cidr ipSet => { rule with ipCIDR := cidr, ipSet := ipSet }) rfl (held.ipSets _ (by simp)) rfl) ?_
  refine .cons (uint16_step (numbers _ (by simp)) rfl rfl) ?_
  refine .cons (string_step (strings _ (by simp)) rfl rfl) ?_
  refine .cons (uint16_step (numbers _ (by simp)) rfl rfl) ?_
  iterate 5 refine .cons (string_step (strings _ (by simp)) rfl rfl) ?_
  refine .cons (list_since_step (run_read_strings env.addressable (strings rule.packageNameRegex (by simp))) rfl rfl) ?_
  refine .cons (list_since_step (run_read_bytes env.addressable held.networkType) rfl rfl) ?_
  refine .cons (flag_since_step (fun rule flag => { rule with networkIsExpensive := flag }) rfl rfl) ?_
  refine .cons (flag_since_step (fun rule flag => { rule with networkIsConstrained := flag }) rfl rfl) ?_
  refine .cons (map_since_step
    (run_read_interface_address env.addressable env.address_fits held.interfaceAddress held.interfaceAddresses) rfl rfl) ?_
  refine .cons (list_since_step (run_read_prefixes env.addressable env.address_fits held.defaultInterfaceAddress) rfl rfl) ?_
  iterate 2 refine .cons (string_step (strings _ (by simp)) rfl rfl) ?_
  refine .cons (adguard_step lossless rfl rfl) ?_
  exact .nil

theorem run_read_default_rule (lossless : Lossless env) (held : DefaultHeld env rule)
    (written : writeDefaultRule env rule version = .ok bytes) {fuel : Nat} {rest : Bytes}
    (enough : bytes.length + rest.length < fuel + 1) :
    (readRule env recover (fuel + 1)).run env.maxAlloc broken (bytes ++ rest) =
      .ok (.default (imageDefault env version recover rule), rest) := by
  obtain ⟨_, each, whole⟩ := bind_eq_ok.mp written
  cases whole
  obtain ⟨fuel', last, left, same⟩ := (default_steps lossless held).reads each fuel 0 ([ruleItemFinal, boolByte rule.invert] ++ rest)
    (by simp only [List.length_cons, List.length_append, List.length_nil] at enough ⊢; omega)
  have ended : (readItems env recover fuel' last { imageDefault env version recover rule with invert := false }).run
      env.maxAlloc broken ([ruleItemFinal, boolByte rule.invert] ++ rest) = .ok (imageDefault env version recover rule, rest) := by
    cases fuel' with
    | zero => exact absurd left (Nat.not_lt_zero _)
    | succ =>
      have invert : (boolByte rule.invert != 0) = rule.invert := by cases rule.invert <;> rfl
      rw [List.cons_append, readItems, run_bind_ok (run_read_byte _ _), if_pos rfl, List.singleton_append,
        run_bind_ok (run_read_byte _ _), invert]
      rfl
  rw [List.cons_append, readRule, run_bind_ok (run_read_byte _ _), if_pos rfl, List.append_assoc, readDefaultRule,
    run_bind_ok (same.trans ended)]
  rfl

end

section
variable {env : Env} {version : UInt8}

theorem run_read_rules {rules read : List (HeadlessRule env)} (held : rules.length * headlessRuleSize ≤ env.maxAlloc) (text : String)
    {each : Decoder SrsError (HeadlessRule env)} {body rest : Bytes} (items : ∀ (error : Nat → SrsError → SrsError) (i : Nat),
      (times (fun i => each.mapError (error i)) rules.length i).run env.maxAlloc broken (body ++ rest) = .ok (read, rest)) :
    (readRules env text each).run env.maxAlloc broken (putUvarint rules.length ++ body ++ rest) = .ok (read, rest) := by
  have count : rules.length ≤ env.maxAlloc := Nat.le_trans (Nat.le_mul_of_pos_right _ (by decide)) held
  rw [readRules, List.append_assoc, run_bind_ok (run_read_uvarint env.addressable count _), run_bind_ok (run_make_slice held _)]
  exact items (fun i => .cause (text ++ toString i ++ "]")) 0

theorem run_read_mode (mode : LogicalMode) (rest : Bytes) :
    readLogicalMode.run env.maxAlloc broken (mode.code :: rest) = .ok (mode, rest) := by
  cases mode with
  | and | or => rfl

-- By induction on the tree, with as much fuel as there are bytes.
mutual
theorem run_read_rule (lossless : Lossless env) (rule : HeadlessRule env) (held : RuleHeld env rule) {bytes : Bytes}
    (written : writeRule env version rule = .ok bytes) (fuel : Nat) (rest : Bytes) (enough : bytes.length + rest.length < fuel) :
    (readRule env recover fuel).run env.maxAlloc broken (bytes ++ rest) = .ok (image env version recover rule, rest) := by
  cases fuel with
  | zero => grind
  | succ fuel =>
    cases rule with
    | default =>
      simpa [image] using run_read_default_rule lossless held written enough
    | logical mode rules invert =>
      obtain ⟨_, all, whole⟩ := bind_eq_ok.mp written
      cases whole
      simp only [List.length_cons, List.length_append, List.length_nil] at enough
      have items := run_read_rule_list lossless rules held.2 all fuel ([boolByte invert] ++ rest)
        (by simp only [List.length_append, List.length_cons, List.length_nil]; omega)
      have flag : (boolByte invert != 0) = invert := by cases invert <;> rfl
      rw [List.cons_append, List.cons_append, readRule, run_bind_ok (run_read_byte _ _), if_neg (by decide), if_pos rfl,
        readLogicalRule, run_bind_ok (run_read_mode mode _), List.append_assoc,
        run_bind_ok (run_read_rules held.1 _ items), List.singleton_append, run_bind_ok (run_read_byte _ _), flag, image]
      rfl
theorem run_read_rule_list (lossless : Lossless env) (rules : List (HeadlessRule env)) (held : RulesHeld env rules) {body : Bytes}
    (written : writeRules env version rules = .ok body) (fuel : Nat) (rest : Bytes) (enough : body.length + rest.length < fuel)
    (error : Nat → SrsError → SrsError) (i : Nat) :
    (times (fun i => (readRule env recover fuel).mapError (error i)) rules.length i).run env.maxAlloc broken (body ++ rest) =
      .ok (images env version recover rules, rest) := by
  cases rules with
  | nil =>
    cases written
    rfl
  | cons rule later =>
    obtain ⟨_, here, written⟩ := bind_eq_ok.mp written
    obtain ⟨others, there, written⟩ := bind_eq_ok.mp written
    cases written
    rw [List.length_append] at enough
    have head := run_read_rule lossless rule held.1 here fuel (others ++ rest) (by rw [List.length_append]; omega)
    have tail := run_read_rule_list lossless later held.2 there fuel rest (by omega) error (i + 1)
    simp [List.length_cons, times, List.append_assoc, run_bind_ok (run_map_error (error i) _ _ head), run_bind_ok tail, images]
end
end

theorem srs_round_trip {env : Env} (lossless : Lossless env) {rules : List (HeadlessRule env)}
    (held : rules.length * headlessRuleSize ≤ env.maxAlloc ∧ RulesHeld env rules) {version : UInt8}
    (current : version ≤ ruleSetVersionCurrent) {bytes : Bytes} (written : write env rules version = .ok bytes) (recover : Bool) :
    read env recover bytes = .ok (version, images env version recover rules) := by
  obtain ⟨body, all, whole⟩ := bind_eq_ok.mp written
  cases whole
  have header : readHeader.run env.maxAlloc none (magicBytes ++ version :: env.deflate (putUvarint rules.length ++ body)) =
      .ok (version, env.deflate (putUvarint rules.length ++ body)) := by
    have three : magicBytes.length = 3 := rfl
    rw [readHeader, run_bind_ok (run_read_full three _), if_neg (not_not_intro rfl), run_bind_ok (run_read_byte _ _),
      if_neg (UInt8.not_lt.mpr current)]
    rfl
  have content : (readContent env recover (putUvarint rules.length ++ body)).run env.maxAlloc none
      (putUvarint rules.length ++ body ++ []) = .ok (images env version recover rules, []) := by
    refine run_read_rules held.1 _ (run_read_rule_list lossless rules held.2 all _ [] ?_)
    rw [List.length_append, List.length_nil]
    omega
  rw [List.append_nil] at content
  rw [read, header, Outcome.ok_bind]
  dsimp only
  rw [lossless.zlib]
  simp [content]

def sampleOptions : DefaultHeadlessRule plainEnv :=
  { network := [[116, 99, 112]], sourcePort := [53, 443], ipCIDR := [[10, 0, 0, 1]], domain := [[97]], invert := true }

theorem sample_held : DefaultHeld plainEnv sampleOptions where
  numbers := by decide
  strings := by
    simp only [StringsHeld]
    decide
  networkType := by decide
  interfaceAddress := by decide
  interfaceAddresses := by decide
  defaultInterfaceAddress := by decide
  ipSets := by
    intro _ member _ built
    simp only [List.mem_cons, List.not_mem_nil, or_false] at member
    rcases member with rfl | rfl
    · cases built
      decide
    cases built
    decide

theorem plain_lossless : Lossless plainEnv := by
  have same : ∀ (matcher : HeldLists) broken rest,
      readLists.run (2 ^ 48) broken (writeLists matcher ++ rest) = .ok (matcher, rest) := by
    intro matcher broken rest
    rw [readLists, writeLists, List.append_assoc, run_bind_ok (run_read_strings (by decide) matcher.2.1 _),
      run_bind_ok (run_read_strings (by decide) matcher.2.2 rest), holdLists, dif_pos matcher.2]
    rfl
  exact ⟨fun _ => rfl, same, same⟩

theorem srs_round_trip_example :
    ∃ bytes, write plainEnv [.logical .or [.default sampleOptions] false] 1 = .ok bytes ∧
      read plainEnv true bytes = .ok (1, images plainEnv 1 true [.logical .or [.default sampleOptions] false]) := by
  obtain ⟨bytes, written⟩ : ∃ bytes, write plainEnv [.logical .or [.default sampleOptions] false] 1 = .ok bytes := ⟨_, rfl⟩
  have held : RulesHeld plainEnv [.logical .or [.default sampleOptions] false] := ⟨⟨by decide, sample_held, trivial⟩, trivial⟩
  exact ⟨bytes, written, srs_round_trip plain_lossless ⟨by decide, held⟩ (by decide) written true⟩

def zonedRange : IPRange := { first := .v6 1, last := .v6 1, zone := "eth0" }

theorem later_version_counterexample :
    (∃ bytes, write plainEnv [] 6 = .ok bytes ∧ read plainEnv false bytes = .error (.message "unsupported version: 6")) ∧
      readIPSet.run plainEnv.maxAlloc none (writeIPSet [zonedRange]) = .ok ([zonedRange.withoutZone], []) ∧
      zonedRange.withoutZone ≠ zonedRange := by
  refine ⟨⟨_, rfl, rfl⟩, ?_, by decide⟩
  exact run_read_ip_set plainEnv.addressable plainEnv.address_fits (by decide) []

end OtunKernel.Srs
