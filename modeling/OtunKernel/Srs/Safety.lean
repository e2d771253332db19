import OtunKernel.Srs.Binary

namespace OtunKernel.Srs

open Lib Decoder
open Lib.Layout (malformed both repeated choice asking counted)

-- The format, apart from its readers: where the length fields are and how many
-- bytes each of them asks for.
namespace Format

def text : Layout := counted false (fun length => asking (length * 1) (Layout.bytes length))

def strings : Layout := counted false (fun length => asking (length * stringSize) (repeated text length))

def numbers : Layout := counted false (fun length =>
  asking (length * uint16Size) (asking (length * uint16Size) (Layout.bytes (length * uint16Size))))

def prefixes : Layout := counted false (repeated (both text (Layout.bytes 1)))

def interfaceAddresses : Layout := counted false (repeated (both (Layout.bytes 1) prefixes))

def ipSet : Layout := choice (fun version =>
  if version ≠ 1 then malformed
  else counted true (fun length => asking (length * ipRangeSize) (repeated (both text text) length)))

def item (env : Env) : RuleItem → Layout
  | .queryType | .sourcePort | .port => numbers
  | .domain => env.matcherLayout
  | .adGuardDomain => env.adGuardLayout
  | .sourceIPCIDR | .ipCIDR => ipSet
  | .networkType => text
  | .networkIsExpensive | .networkIsConstrained => Layout.bytes 0
  | .networkInterfaceAddress => interfaceAddresses
  | .defaultInterfaceAddress => prefixes
  | _ => strings

def items (env : Env) : Nat → Layout
  | 0 => malformed
  | depth + 1 => choice (fun itemType =>
    if itemType = ruleItemFinal then Layout.bytes 1
    else
      match RuleItem.ofCode itemType with
      | some kind => both (item env kind) (items env depth)
      | none => malformed)

def rules (each : Layout) : Layout := counted false (fun length => asking (length * headlessRuleSize) (repeated each length))

def logicalMode : Layout := choice (fun mode => if mode = 0 then Layout.bytes 0 else if mode = 1 then Layout.bytes 0 else malformed)

def rule (env : Env) : Nat → Layout
  | 0 => malformed
  | depth + 1 => choice (fun ruleType =>
    if ruleType = 0 then items env depth
    else if ruleType = 1 then both logicalMode (both (rules (rule env depth)) (Layout.bytes 1))
    else malformed)

-- The sizes that the length fields of a file ask for. No part is nested deeper
-- than the content is long.
def requestedSizes (env : Env) (file : Bytes) : List Nat :=
  match file.take 3 == magicBytes, file.drop 3 with
  | true, version :: compressed =>
    if ruleSetVersionCurrent < version then []
    else
      match env.inflate compressed with
      | .ok (content, _) => (rules (rule env (content.length + 1)) content).1
      | .error _ => []
  | _, _ => []

end Format

section
variable {bound : Nat}

theorem read_full_follows (size : Nat) : (readFull size).Follows bound (Layout.bytes size) := .take size onEnd id

theorem read_byte_follows : readByte.Follows bound (Layout.bytes 1) := .take 1 onEnd _

theorem read_bytes_follows : readBytes.Follows bound Format.text :=
  .counted (uvarint_reads _ _) (fun length => .make (read_full_follows length))

theorem read_strings_follows : readRuleItemString.Follows bound Format.strings :=
  .counted (uvarint_reads _ _) (fun length => .make (.times (fun _ => read_bytes_follows) length 0))

theorem read_uint16_follows : readRuleItemUint16.Follows bound Format.numbers :=
  .counted (uvarint_reads _ _) (fun _ => .make (.make ((read_full_follows _).map _)))

theorem read_prefixes_follows : readPrefixes.Follows bound Format.prefixes :=
  .counted (uvarint_reads _ _) (fun count => .times (fun _ => read_bytes_follows.bind (fun _ => read_byte_follows.map _)) count 0)

theorem read_interface_address_follows : readInterfaceAddress.Follows bound Format.interfaceAddresses :=
  .counted (uvarint_reads _ _) (fun size =>
    (Follows.times (fun _ => read_byte_follows.bind (fun _ => read_prefixes_follows.map _)) size 0).map _)

theorem read_ip_set_follows : readIPSet.Follows bound Format.ipSet := by
  refine (Follows.choice (fun version => ?_)).below
  split
  · exact .fail _
  have range : (do
      let fromBytes ← readBytes
      let toBytes ← readBytes
      .done { first := addrFromIP fromBytes, last := addrFromIP toBytes } : Decoder SrsError IPRange).Follows bound
        (both Format.text Format.text) := read_bytes_follows.bind (fun _ => read_bytes_follows.map _)
  have wide : (readFull 8 >>= fun length => .done (beNat length) : Decoder SrsError Nat).Reads true := by
    intro limit broken bytes
    by_cases long : 8 ≤ bytes.length
    · exact .inl ⟨_, by simp [Layout.length, long], if_pos long⟩
    · exact .inr ⟨_, by simp [Layout.length, long], if_neg long⟩
  exact .counted wide (fun length => .make (.times (fun _ => range) length 0))

variable (env : Env) (recover : Bool)

theorem read_item_follows (rule : DefaultHeadlessRule env) (item : RuleItem) :
    (readItem env recover rule item).Follows bound (Format.item env item) := by
  cases item with
  | queryType | sourcePort | port => exact read_uint16_follows.map _
  | domain => exact (env.matcher_follows bound).map _
  | sourceIPCIDR | ipCIDR => exact read_ip_set_follows.map _
  | adGuardDomain => exact (env.adguard_follows bound).map _
  | networkType => exact read_bytes_follows.map _
  | networkIsExpensive | networkIsConstrained => exact .done _
  | networkInterfaceAddress => exact read_interface_address_follows.map _
  | defaultInterfaceAddress => exact read_prefixes_follows.map _
  | _ => exact read_strings_follows.map _

theorem read_items_follow (fuel : Nat) (lastItemType : UInt8) (rule : DefaultHeadlessRule env) :
    (readItems env recover fuel lastItemType rule).Follows fuel (Format.items env fuel) := by
  induction fuel generalizing lastItemType rule with
  | zero => exact fun _ _ _ short => absurd short (Nat.not_lt_zero _)
  | succ _ ih =>
    refine Follows.choice (fun itemType => ?_)
    split
    · exact read_byte_follows.map _
    cases RuleItem.ofCode itemType with
    | some item => exact (read_item_follows env recover rule item).bind (fun later => ih itemType later)
    | none => exact .fail _

theorem read_logical_mode_follows : readLogicalMode.Follows bound Format.logicalMode := by
  refine (Follows.choice (fun mode => ?_)).below
  split
  · exact .done _
  split
  · exact .done _
  · exact .fail _

theorem read_rules_follow (text : String) {rule : Decoder SrsError (HeadlessRule env)} {part : Layout}
    (each : rule.Follows bound part) : (readRules env text rule).Follows bound (Format.rules part) :=
  .counted (uvarint_reads _ _) (fun length => .make (.times (fun _ => each.map_error _) length 0))

theorem read_rule_follows (fuel : Nat) : (readRule env recover fuel).Follows fuel (Format.rule env fuel) := by
  induction fuel with
  | zero => exact fun _ _ _ short => absurd short (Nat.not_lt_zero _)
  | succ fuel ih =>
    refine Follows.choice (fun ruleType => ?_)
    split
    · exact (read_items_follow env recover fuel 0 {}).map _
    split
    · exact read_logical_mode_follows.bind (fun mode => (read_rules_follow env _ ih).bind (fun rules => read_byte_follows.map _))
    · exact .fail _

end

theorem run_header (limit : Nat) (file : Bytes) :
    match file.take 3 == magicBytes, file.drop 3 with
    | true, version :: compressed =>
      readHeader.run limit none file = if ruleSetVersionCurrent < version
        then .error (.message ("unsupported version: " ++ toString version.toNat)) else .ok (version, compressed)
    | _, _ => ∃ err, readHeader.run limit none file = .error err := by
  rw [readHeader, run_bind, readFull, Decoder.run]
  by_cases magic : file.take 3 = magicBytes
  · have long : 3 ≤ file.length := by
      have taken := congrArg List.length magic
      simp [magicBytes] at taken
      omega
    rw [if_pos long, magic]
    cases file.drop 3 with
    | nil => exact ⟨_, rfl⟩
    | cons version compressed =>
      rw [Decoder.run, Outcome.ok_bind, if_neg (not_not_intro rfl)]
      change (if ruleSetVersionCurrent < version then (.fail _ : Decoder SrsError UInt8) else .done version).run _ _ _ = _
      split <;> rfl
  · have other : (file.take 3 == magicBytes) = false := by simpa using magic
    rw [other]
    by_cases long : 3 ≤ file.length
    · exact ⟨_, by rw [if_pos long, Decoder.run, Outcome.ok_bind, if_pos magic]; rfl⟩
    · exact ⟨_, by rw [if_neg long]; rfl⟩

theorem read_returns_iff (env : Env) (recover : Bool) (file : Bytes) :
    (read env recover file).Returns ↔ ∀ size ∈ Format.requestedSizes env file, size ≤ env.maxAlloc := by
  have header := run_header env.maxAlloc file
  rw [read, Format.requestedSizes]
  split
  · rename_i version compressed magic rest
    rw [magic, rest] at header
    dsimp only at header
    rw [header]
    split
    · exact iff_of_true trivial (List.forall_mem_nil _)
    rw [Outcome.ok_bind]
    dsimp only
    cases env.inflate compressed with
    | error => exact iff_of_true trivial (List.forall_mem_nil _)
    | ok stream =>
      obtain ⟨content, broken⟩ := stream
      have follows := read_rules_follow env "read rule[" (read_rule_follows env recover (content.length + 1))
      exact (Outcome.returns_bind_ok _ _).trans (meets_returns_iff (follows env.maxAlloc broken content (Nat.lt_succ_self _)))
  · have failed : ∃ err, readHeader.run env.maxAlloc none file = .error err := by grind
    obtain ⟨err, failed⟩ := failed
    rw [failed]
    exact iff_of_true trivial (List.forall_mem_nil _)

def StringsHeld (limit : Nat) (value : List Bytes) : Prop := value.length * stringSize ≤ limit ∧ ∀ text ∈ value, text.length ≤ limit

instance (limit : Nat) (value : List Bytes) : Decidable (StringsHeld limit value) := inferInstanceAs (Decidable (_ ∧ _))

-- A matcher that is the two lists it is built from.
abbrev HeldLists := { lists : List Bytes × List Bytes // StringsHeld (2 ^ 48) lists.1 ∧ StringsHeld (2 ^ 48) lists.2 }

def holdLists (first second : List Bytes) : HeldLists :=
  if held : StringsHeld (2 ^ 48) first ∧ StringsHeld (2 ^ 48) second then ⟨(first, second), held⟩ else ⟨([], []), by decide⟩

def writeLists (matcher : HeldLists) : Bytes :=
  (putUvarint matcher.1.1.length ++ matcher.1.1.flatMap writeBytes) ++
    (putUvarint matcher.1.2.length ++ matcher.1.2.flatMap writeBytes)

def readLists : Decoder SrsError HeldLists := do
  let first ← readRuleItemString
  let second ← readRuleItemString
  .done (holdLists first second)

theorem read_lists_follows (bound : Nat) : readLists.Follows bound (both Format.strings Format.strings) :=
  read_strings_follows.bind (fun _ => read_strings_follows.map _)

def plainEnv : Env where
  Matcher := HeldLists
  newMatcher domains domainSuffix _ := holdLists domains domainSuffix
  writeMatcher := writeLists
  readMatcher := readLists
  matcherLayout := both Format.strings Format.strings
  dump := Subtype.val
  AdGuardMatcher := HeldLists
  newAdGuardMatcher rules := holdLists rules []
  writeAdGuardMatcher := writeLists
  readAdGuardMatcher := readLists
  adGuardLayout := both Format.strings Format.strings
  dumpAdGuard matcher := matcher.1.1
  Entry := IPRange
  parsePrefix _ := .error (.external "no prefix")
  parseAddr text :=
    if (addrFromIP text).isValid then .ok { first := addrFromIP text, last := addrFromIP text } else .error (.external "no address")
  ipSet entries := .ok entries
  prefixes _ := []
  deflate content := content
  inflate content := .ok (content, none)
  maxAlloc := 2 ^ 48
  address_fits := by decide
  addressable := by decide
  matcher_follows := read_lists_follows
  adguard_follows := read_lists_follows

theorem many_rules_counterexample :
    read plainEnv false (magicBytes ++ 1 :: putUvarint (2 ^ 63)) = .panic := by
  rfl

end OtunKernel.Srs
