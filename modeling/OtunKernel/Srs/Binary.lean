import OtunKernel.Srs.Options

namespace OtunKernel.Srs

open Lib

inductive RuleItem where
  | queryType
  | network
  | domain
  | domainKeyword
  | domainRegex
  | sourceIPCIDR
  | ipCIDR
  | sourcePort
  | sourcePortRange
  | port
  | portRange
  | processName
  | processPath
  | packageName
  | wifiSSID
  | wifiBSSID
  | adGuardDomain
  | processPathRegex
  | networkType
  | networkIsExpensive
  | networkIsConstrained
  | networkInterfaceAddress
  | defaultInterfaceAddress
  | packageNameRegex
deriving DecidableEq

def RuleItem.all : List RuleItem :=
  [.queryType, .network, .domain, .domainKeyword, .domainRegex, .sourceIPCIDR, .ipCIDR, .sourcePort, .sourcePortRange, .port,
    .portRange, .processName, .processPath, .packageName, .wifiSSID, .wifiBSSID, .adGuardDomain, .processPathRegex, .networkType,
    .networkIsExpensive, .networkIsConstrained, .networkInterfaceAddress, .defaultInterfaceAddress, .packageNameRegex]

def RuleItem.code (item : RuleItem) : UInt8 := UInt8.ofNat (RuleItem.all.idxOf item)

def RuleItem.ofCode (code : UInt8) : Option RuleItem := RuleItem.all[code.toNat]?

def ruleItemFinal : UInt8 := 0xFF

theorem of_code_code (item : RuleItem) : RuleItem.ofCode item.code = some item := by
  cases item <;> rfl

theorem code_ne_final (item : RuleItem) : item.code ≠ ruleItemFinal := by
  cases item <;> decide

def magicBytes : Bytes := [0x53, 0x52, 0x53]

def ruleSetVersionCurrent : UInt8 := 5

def stringSize : Nat := 16
def uint16Size : Nat := 2
def ipRangeSize : Nat := 48
def headlessRuleSize : Nat := 648

section

def onEnd (broken : Option SrsError) (nothing : Bool) : SrsError := broken.getD (if nothing then .eof else .unexpectedEOF)

def readFull (size : Nat) : Decoder SrsError Bytes := .take size onEnd .done

def readByte : Decoder SrsError UInt8 := .take 1 onEnd (fun bytes => .done (bytes.getD 0 0))

def readUvarint : Decoder SrsError Nat := decodeUvarint onEnd .overflow

def makeSlice (length size : Nat) : Decoder SrsError Unit := .make (length * size) (.done ())

def readBytes : Decoder SrsError Bytes := do
  let length ← readUvarint
  makeSlice length 1
  readFull length

def readRuleItemString : Decoder SrsError (List Bytes) := do
  let length ← readUvarint
  makeSlice length stringSize
  Decoder.times (fun _ => readBytes) length 0

def readRuleItemUint8 : Decoder SrsError (List UInt8) := readBytes

def wordsOf : Bytes → List UInt16
  | high :: low :: rest => beUint16 high low :: wordsOf rest
  | _ => []

def readRuleItemUint16 : Decoder SrsError (List UInt16) := do
  let length ← readUvarint
  makeSlice length uint16Size
  makeSlice length uint16Size
  let bytes ← readFull (length * uint16Size)
  .done (wordsOf bytes)

def readPrefix : Decoder SrsError IPPrefix := do
  let addrSlice ← readBytes
  let prefixBits ← readByte
  .done (prefixFrom (addrFromIP addrSlice) prefixBits.toNat)

def readPrefixes : Decoder SrsError (List IPPrefix) := do
  let prefixCount ← readUvarint
  Decoder.times (fun _ => readPrefix) prefixCount 0

def readInterfaceAddress : Decoder SrsError TypedMap := do
  let size ← readUvarint
  let entries ← Decoder.times (fun _ => do
    let key ← readByte
    let value ← readPrefixes
    .done (key, value)) size 0
  .done (entries.foldl (fun map entry => map.put entry.1 entry.2) {})

def readIPSet : Decoder SrsError (List IPRange) := do
  let version ← readByte
  if version ≠ 1 then .fail .invalid
  else do
    let length ← readFull 8
    makeSlice (beNat length) ipRangeSize
    Decoder.times (fun _ => do
      let fromBytes ← readBytes
      let toBytes ← readBytes
      .done { first := addrFromIP fromBytes, last := addrFromIP toBytes }) (beNat length) 0

variable (env : Env) (recover : Bool)

def readItem (rule : DefaultHeadlessRule env) : RuleItem → Decoder SrsError (DefaultHeadlessRule env)
  | .queryType => do .done { rule with queryType := ← readRuleItemUint16 }
  | .network => do .done { rule with network := ← readRuleItemString }
  | .domain => do
    let matcher ← env.readMatcher
    let rule := { rule with domainMatcher := some matcher }
    .done (if recover then { rule with domain := (env.dump matcher).1, domainSuffix := (env.dump matcher).2 } else rule)
  | .domainKeyword => do .done { rule with domainKeyword := ← readRuleItemString }
  | .domainRegex => do .done { rule with domainRegex := ← readRuleItemString }
  | .sourceIPCIDR => do
    let ipSet ← readIPSet
    let rule := { rule with sourceIPSet := some ipSet }
    .done (if recover then { rule with sourceIPCIDR := env.prefixes ipSet } else rule)
  | .ipCIDR => do
    let ipSet ← readIPSet
    let rule := { rule with ipSet := some ipSet }
    .done (if recover then { rule with ipCIDR := env.prefixes ipSet } else rule)
  | .sourcePort => do .done { rule with sourcePort := ← readRuleItemUint16 }
  | .sourcePortRange => do .done { rule with sourcePortRange := ← readRuleItemString }
  | .port => do .done { rule with port := ← readRuleItemUint16 }
  | .portRange => do .done { rule with portRange := ← readRuleItemString }
  | .processName => do .done { rule with processName := ← readRuleItemString }
  | .processPath => do .done { rule with processPath := ← readRuleItemString }
  | .processPathRegex => do .done { rule with processPathRegex := ← readRuleItemString }
  | .packageName => do .done { rule with packageName := ← readRuleItemString }
  | .packageNameRegex => do .done { rule with packageNameRegex := ← readRuleItemString }
  | .wifiSSID => do .done { rule with wifiSSID := ← readRuleItemString }
  | .wifiBSSID => do .done { rule with wifiBSSID := ← readRuleItemString }
  | .adGuardDomain => do
    let matcher ← env.readAdGuardMatcher
    let rule := { rule with adGuardDomainMatcher := some matcher }
    .done (if recover then { rule with adGuardDomain := env.dumpAdGuard matcher } else rule)
  | .networkType => do .done { rule with networkType := ← readRuleItemUint8 }
  | .networkIsExpensive => .done { rule with networkIsExpensive := true }
  | .networkIsConstrained => .done { rule with networkIsConstrained := true }
  | .networkInterfaceAddress => do .done { rule with networkInterfaceAddress := ← readInterfaceAddress }
  | .defaultInterfaceAddress => do .done { rule with defaultInterfaceAddress := ← readPrefixes }

-- The loop of readDefaultRule. Every turn reads the type of an item.
def readItems : Nat → UInt8 → DefaultHeadlessRule env → Decoder SrsError (DefaultHeadlessRule env)
  | 0, _, _ => .running
  | fuel + 1, lastItemType, rule => do
    let itemType ← readByte
    if itemType = ruleItemFinal then do
      let invert ← readByte
      .done { rule with invert := invert != 0 }
    else
      match RuleItem.ofCode itemType with
      | some item => do
        let rule ← readItem env recover rule item
        readItems fuel itemType rule
      | none => .fail (.message
          ("unknown rule item type: " ++ toString itemType.toNat ++ ", last type: " ++ toString lastItemType.toNat))

def readDefaultRule (fuel : Nat) : Decoder SrsError (DefaultHeadlessRule env) := readItems env recover fuel 0 {}

def readLogicalMode : Decoder SrsError LogicalMode := do
  let mode ← readByte
  if mode = 0 then .done .and
  else if mode = 1 then .done .or
  else .fail (.message ("unknown logical mode: " ++ toString mode.toNat))

def readRules (text : String) (readRule : Decoder SrsError (HeadlessRule env)) : Decoder SrsError (List (HeadlessRule env)) := do
  let length ← readUvarint
  makeSlice length headlessRuleSize
  Decoder.times (fun i => readRule.mapError (.cause (text ++ toString i ++ "]"))) length 0

def readLogicalRule (readRule : Decoder SrsError (HeadlessRule env)) : Decoder SrsError (HeadlessRule env) := do
  let mode ← readLogicalMode
  let rules ← readRules env "read logical rule [" readRule
  let invert ← readByte
  .done (.logical mode rules (invert != 0))

-- Every rule begins with its type, so that rules are not nested deeper than the input is long.
def readRule : Nat → Decoder SrsError (HeadlessRule env)
  | 0 => .running
  | fuel + 1 => do
    let ruleType ← readByte
    if ruleType = 0 then do .done (.default (← readDefaultRule env recover fuel))
    else if ruleType = 1 then readLogicalRule env (readRule fuel)
    else .fail (.message ("unknown rule type: " ++ toString ruleType.toNat))

def readHeader : Decoder SrsError UInt8 := do
  let magic ← readFull 3
  if magic ≠ magicBytes then .fail (.message "invalid sing-box rule-set file")
  else do
    let version ← readByte
    if ruleSetVersionCurrent < version then .fail (.message ("unsupported version: " ++ toString version.toNat))
    else .done version

def readContent (content : Bytes) : Decoder SrsError (List (HeadlessRule env)) :=
  readRules env "read rule[" (readRule env recover (content.length + 1))

def read (bytes : Bytes) : Outcome SrsError (UInt8 × List (HeadlessRule env)) := do
  let (version, compressed) ← readHeader.run env.maxAlloc none bytes
  match env.inflate compressed with
  | .error err => .error err
  | .ok (content, broken) => do
    let (rules, _) ← (readContent env recover content).run env.maxAlloc broken content
    .ok (version, rules)

end

section

def writeBytes (bytes : Bytes) : Bytes := putUvarint bytes.length ++ bytes

def writeRuleItemString (item : RuleItem) (value : List Bytes) : Bytes :=
  item.code :: (putUvarint value.length ++ value.flatMap writeBytes)

def writeRuleItemUint8 (item : RuleItem) (value : List UInt8) : Bytes := item.code :: writeBytes value

def writeRuleItemUint16 (item : RuleItem) (value : List UInt16) : Bytes :=
  item.code :: (putUvarint value.length ++ value.flatMap putUint16)

def writePrefix (value : IPPrefix) : Bytes := writeBytes (asSlice value.addr) ++ [value.bitsByte]

def writePrefixes (value : List IPPrefix) : Bytes := putUvarint value.length ++ value.flatMap writePrefix

def writeInterfaceAddress (map : TypedMap) : Bytes :=
  putUvarint map.entries.length ++ map.entries.flatMap (fun entry => entry.1 :: writePrefixes entry.2)

def writeIPRange (range : IPRange) : Bytes := writeBytes (asSlice range.first) ++ writeBytes (asSlice range.last)

def writeIPSet (ipSet : List IPRange) : Bytes := 1 :: (beBytes 8 ipSet.length ++ ipSet.flatMap writeIPRange)

variable (env : Env)

def parseCIDR : Nat → List Bytes → Except SrsError (List env.Entry)
  | _, [] => .ok []
  | i, text :: later =>
    match env.parsePrefix text with
    | .ok entry => do .ok (entry :: (← parseCIDR (i + 1) later))
    | .error err =>
      match env.parseAddr text with
      | .ok entry => do .ok (entry :: (← parseCIDR (i + 1) later))
      | .error _ => .error (.cause ("parse [" ++ toString i ++ "]") err)

def buildIPSet (value : List Bytes) : Except SrsError (List IPRange) := do env.ipSet (← parseCIDR env 0 value)

def writeRuleItemCIDR (item : RuleItem) (value : List Bytes) : Except SrsError Bytes := do
  .ok (item.code :: writeIPSet (← buildIPSet env value))

def whenPresent (present : Bool) (write : Except SrsError Bytes) : Except SrsError Bytes := if present then write else .ok []

def since (version generateVersion : UInt8) (text : String) (bytes : Bytes) : Except SrsError Bytes :=
  if generateVersion < version then .error (.message text) else .ok bytes

def stringItem (item : RuleItem) (value : List Bytes) : Except SrsError Bytes :=
  whenPresent (!value.isEmpty) (.ok (writeRuleItemString item value))

def uint16Item (item : RuleItem) (value : List UInt16) : Except SrsError Bytes :=
  whenPresent (!value.isEmpty) (.ok (writeRuleItemUint16 item value))

-- The items of writeDefaultRule, in its order.
def writeItems (rule : DefaultHeadlessRule env) (version : UInt8) : List (Except SrsError Bytes) :=
  [uint16Item .queryType rule.queryType,
    stringItem .network rule.network,
    whenPresent (!rule.domain.isEmpty || !rule.domainSuffix.isEmpty)
      (.ok (RuleItem.code .domain :: env.writeMatcher (env.newMatcher rule.domain rule.domainSuffix (version == 1)))),
    stringItem .domainKeyword rule.domainKeyword,
    stringItem .domainRegex rule.domainRegex,
    whenPresent (!rule.sourceIPCIDR.isEmpty)
      ((writeRuleItemCIDR env .sourceIPCIDR rule.sourceIPCIDR).mapError (.cause "source_ip_cidr")),
    whenPresent (!rule.ipCIDR.isEmpty) ((writeRuleItemCIDR env .ipCIDR rule.ipCIDR).mapError (.cause "ipcidr")),
    uint16Item .sourcePort rule.sourcePort,
    stringItem .sourcePortRange rule.sourcePortRange,
    uint16Item .port rule.port,
    stringItem .portRange rule.portRange,
    stringItem .processName rule.processName,
    stringItem .processPath rule.processPath,
    stringItem .processPathRegex rule.processPathRegex,
    stringItem .packageName rule.packageName,
    whenPresent (!rule.packageNameRegex.isEmpty)
      (since 5 version "`package_name_regex` rule item is only supported in version 5 or later"
        (writeRuleItemString .packageNameRegex rule.packageNameRegex)),
    whenPresent (!rule.networkType.isEmpty)
      (since 3 version "`network_type` rule item is only supported in version 3 or later"
        (writeRuleItemUint8 .networkType rule.networkType)),
    whenPresent rule.networkIsExpensive
      (since 3 version "`network_is_expensive` rule item is only supported in version 3 or later" [RuleItem.code .networkIsExpensive]),
    whenPresent rule.networkIsConstrained
      (since 3 version "`network_is_constrained` rule item is only supported in version 3 or later"
        [RuleItem.code .networkIsConstrained]),
    whenPresent (!rule.networkInterfaceAddress.entries.isEmpty)
      (since 4 version "`network_interface_address` rule item is only supported in version 4 or later"
        (RuleItem.code .networkInterfaceAddress :: writeInterfaceAddress rule.networkInterfaceAddress)),
    whenPresent (!rule.defaultInterfaceAddress.isEmpty)
      (since 4 version "`default_interface_address` rule item is only supported in version 4 or later"
        (RuleItem.code .defaultInterfaceAddress :: writePrefixes rule.defaultInterfaceAddress)),
    stringItem .wifiSSID rule.wifiSSID,
    stringItem .wifiBSSID rule.wifiBSSID,
    whenPresent (!rule.adGuardDomain.isEmpty)
      (since 2 version "AdGuard rule items is only supported in version 2 or later"
        (RuleItem.code .adGuardDomain :: env.writeAdGuardMatcher (env.newAdGuardMatcher rule.adGuardDomain)))]

def boolByte (value : Bool) : UInt8 := if value then 1 else 0

def writeDefaultRule (rule : DefaultHeadlessRule env) (version : UInt8) : Except SrsError Bytes := do
  let items ← (writeItems env rule version).mapM id
  .ok (0 :: (items.flatten ++ [ruleItemFinal, boolByte rule.invert]))

def LogicalMode.code : LogicalMode → UInt8
  | .and => 0
  | .or => 1

mutual
def writeRule (version : UInt8) : HeadlessRule env → Except SrsError Bytes
  | .default options => writeDefaultRule env options version
  | .logical mode rules invert => do
    let body ← writeRules version rules
    .ok (1 :: mode.code :: (putUvarint rules.length ++ body ++ [boolByte invert]))
def writeRules (version : UInt8) : List (HeadlessRule env) → Except SrsError Bytes
  | [] => .ok []
  | rule :: later => do
    let first ← writeRule version rule
    let rest ← writeRules version later
    .ok (first ++ rest)
end

def write (rules : List (HeadlessRule env)) (generateVersion : UInt8) : Except SrsError Bytes := do
  let body ← writeRules env generateVersion rules
  .ok (magicBytes ++ generateVersion :: env.deflate (putUvarint rules.length ++ body))

end

end OtunKernel.Srs
