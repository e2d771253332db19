import OtunKernel.Quic.ClientHello

namespace OtunKernel.Sniff

open Lib
open Quic (Metadata CryptoFragment SniffError collect reassemble compute quicClientHello)

structure Msg where
  response : Bool
  question : Nat
  answer : Nat
  ns : Nat

inductive UnpackError where
  | malformed
deriving DecidableEq

inductive PacketError where
  | invalid
  | eof
  | unpack (err : UnpackError)
  | quic (err : SniffError)

-- What the sniffers take from elsewhere: mDNS.Msg.Unpack and the cryptography
-- of QUIC, and the turns of the loop of its reassembly.
structure Env where
  unpack : Bytes → Except UnpackError Msg
  quic : Quic.Env
  fuel : Nat

inductive PacketSniffer where
  | domainNameQuery
  | quicClientHello
  | stunMessage
  | utp
  | udpTracker
  | dtlsRecord
  | ntp
deriving DecidableEq

def PacketSniffer.protocol : PacketSniffer → String
  | .domainNameQuery => "dns"
  | .quicClientHello => "quic"
  | .stunMessage => "stun"
  | .utp => "bittorrent"
  | .udpTracker => "bittorrent"
  | .dtlsRecord => "dtls"
  | .ntp => "ntp"

section
variable (metadata : Metadata) (packet : Bytes)

-- The protocol that it writes into the metadata, if any. Its error is the one
-- of Unpack, also where it does not like the message.
def domainNameQuery (unpack : Bytes → Except UnpackError Msg) : Except UnpackError (Option String) :=
  match unpack packet with
  | .error err => .error err
  | .ok msg => if msg.response || msg.question == 0 || 0 < msg.answer || 0 < msg.ns then .ok none else .ok (some "dns")

def queryWritten : Except UnpackError (Option String) → Metadata × Option PacketError
  | .error err => (metadata, some (.unpack err))
  | .ok none => (metadata, none)
  | .ok (some protocol) => ({ metadata with protocol := protocol }, none)

def uint32At (i : Nat) : Nat := beNat ((packet.drop i).take 4)

def stunMessage : Metadata × Option PacketError :=
  if packet.length < 20 then (metadata, some .invalid)
  else if uint32At packet 4 ≠ 0x2112A442 then (metadata, some .invalid)
  else if packet.length < 20 + (uint16At packet 2).toNat then (metadata, some .invalid)
  else ({ metadata with protocol := "stun" }, none)

def checkExtensions (extension : UInt8) (reader : Bytes) : Option PacketError :=
  if extension = 0 then none
  else
    match reader with
    | [] => some .eof
    | next :: rest =>
      if 0x04 < next then some .invalid
      else
        match rest with
        | [] => some .eof
        | length :: rest => checkExtensions next (rest.drop length.toNat)
termination_by reader.length
decreasing_by
  simp only [List.length_cons, List.length_drop]
  omega

def utp : Metadata × Option PacketError :=
  if packet.length < 20 then (metadata, some .invalid)
  else if packet.getD 0 0 &&& 0x0F ≠ 1 ∨ packet.getD 0 0 >>> 4 > 4 then (metadata, some .invalid)
  else
    match checkExtensions (packet.getD 1 0) (packet.drop 20) with
    | some err => (metadata, some err)
    | none => ({ metadata with protocol := "bittorrent" }, none)

def trackerConnectFlag : Nat := 0
def trackerProtocolID : Nat := 0x41727101980
def trackerConnectMinSize : Nat := 16

def udpTracker : Metadata × Option PacketError :=
  if packet.length < trackerConnectMinSize then (metadata, some .invalid)
  else if beNat (packet.take 8) ≠ trackerProtocolID then (metadata, some .invalid)
  else if uint32At packet 8 ≠ trackerConnectFlag then (metadata, some .invalid)
  else ({ metadata with protocol := "bittorrent" }, none)

def dtlsRecord : Metadata × Option PacketError :=
  if packet.length < 13 then (metadata, some .invalid)
  else if packet.getD 0 0 ∉ [20, 21, 22, 23, 25] then (metadata, some .invalid)
  else if packet.getD 1 0 ≠ 0xfe then (metadata, some .invalid)
  else if packet.getD 2 0 ≠ 0xff ∧ packet.getD 2 0 ≠ 0xfd then (metadata, some .invalid)
  else ({ metadata with protocol := "dtls" }, none)

def ntp : Metadata × Option PacketError :=
  if packet.length < 48 then (metadata, some .invalid)
  else
    let firstByte := packet.getD 0 0
    let li := (firstByte >>> 6) &&& 0x03
    let vn := (firstByte >>> 3) &&& 0x07
    let mode := firstByte &&& 0x07
    if 3 < li then (metadata, some .invalid)
    else if vn ≠ 3 ∧ vn ≠ 4 then (metadata, some .invalid)
    else if mode ≠ 3 then (metadata, some .invalid)
    else if 16 * 65536 < uint32At packet 4 then (metadata, some .invalid)
    else if 16 * 65536 < uint32At packet 8 then (metadata, some .invalid)
    else ({ metadata with protocol := "ntp" }, none)

end

def PacketSniffer.sniff (env : Env) (metadata : Metadata) (packet : Bytes) :
    PacketSniffer → Outcome Empty (Metadata × Option PacketError)
  | .domainNameQuery => .ok (queryWritten metadata (Sniff.domainNameQuery packet env.unpack))
  | .quicClientHello => do
    let (after, err) ← Quic.quicClientHello env.quic env.fuel metadata packet
    return (after, err.map .quic)
  | .stunMessage => .ok (Sniff.stunMessage metadata packet)
  | .utp => .ok (Sniff.utp metadata packet)
  | .udpTracker => .ok (Sniff.udpTracker metadata packet)
  | .dtlsRecord => .ok (Sniff.dtlsRecord metadata packet)
  | .ntp => .ok (Sniff.ntp metadata packet)

def joinErrors (errors : List PacketError) : Option (List PacketError) := if errors.isEmpty then none else some errors

def peekFrom (env : Env) (packet : Bytes) : List PacketError → Metadata → List PacketSniffer →
    Outcome Empty (Metadata × Option (List PacketError))
  | errors, metadata, [] => .ok (metadata, joinErrors errors)
  | errors, metadata, sniffer :: later => do
    let (after, err) ← sniffer.sniff env metadata packet
    match err with
    | none => return (after, none)
    | some err => peekFrom env packet (errors ++ [err]) after later

def peekPacket (env : Env) (metadata : Metadata) (packet : Bytes) (sniffers : List PacketSniffer) :
    Outcome Empty (Metadata × Option (List PacketError)) := peekFrom env packet [] metadata sniffers

def Msg.IsQuery (msg : Msg) : Prop := msg.response = false ∧ 0 < msg.question ∧ msg.answer = 0 ∧ msg.ns = 0

inductive ExtensionChain : UInt8 → Bytes → Prop where
  | last (rest : Bytes) : ExtensionChain 0 rest
  | more {extension next length : UInt8} {rest : Bytes} (present : extension ≠ 0) (known : next ≤ 0x04)
      (chain : ExtensionChain next (rest.drop length.toNat)) : ExtensionChain extension (next :: length :: rest)

structure IsSTUN (packet : Bytes) : Prop where
  header : 20 ≤ packet.length
  cookie : uint32At packet 4 = 0x2112A442
  body : 20 + (uint16At packet 2).toNat ≤ packet.length

structure IsUTP (packet : Bytes) : Prop where
  header : 20 ≤ packet.length
  version : packet.getD 0 0 &&& 0x0F = 1
  type : packet.getD 0 0 >>> 4 ≤ 4
  extensions : ExtensionChain (packet.getD 1 0) (packet.drop 20)

structure IsTrackerConnect (packet : Bytes) : Prop where
  header : trackerConnectMinSize ≤ packet.length
  protocolID : beNat (packet.take 8) = trackerProtocolID
  flag : uint32At packet 8 = trackerConnectFlag

structure IsDTLS (packet : Bytes) : Prop where
  header : 13 ≤ packet.length
  contentType : packet.getD 0 0 ∈ [20, 21, 22, 23, 25]
  major : packet.getD 1 0 = 0xfe
  minor : packet.getD 2 0 = 0xff ∨ packet.getD 2 0 = 0xfd

structure IsNTPRequest (packet : Bytes) : Prop where
  header : 48 ≤ packet.length
  version : (packet.getD 0 0 >>> 3) &&& 0x07 = 3 ∨ (packet.getD 0 0 >>> 3) &&& 0x07 = 4
  mode : packet.getD 0 0 &&& 0x07 = 3
  rootDelay : uint32At packet 4 ≤ 16 * 65536
  rootDispersion : uint32At packet 8 ≤ 16 * 65536

def CompletesHello (env : Env) (metadata : Metadata) (packet : Bytes) : Prop :=
  ∃ frameTypeList fragments buffer hello, collect env.quic packet = .ok (frameTypeList, fragments) ∧
    reassemble env.quic env.fuel (fragments ++ metadata.sniffContext.getD []) = .ok buffer ∧ compute buffer = .ok hello

def PacketSniffer.Recognises (env : Env) (metadata : Metadata) (packet : Bytes) : PacketSniffer → Prop
  | .domainNameQuery => ∃ msg, env.unpack packet = .ok msg ∧ msg.IsQuery
  | .quicClientHello => CompletesHello env metadata packet
  | .stunMessage => IsSTUN packet
  | .utp => IsUTP packet
  | .udpTracker => IsTrackerConnect packet
  | .dtlsRecord => IsDTLS packet
  | .ntp => IsNTPRequest packet

section
variable {metadata : Metadata} {packet : Bytes}

inductive Verdict (recognised : Prop) (metadata : Metadata) (protocol : String) : Metadata × Option PacketError → Prop where
  | accepted (is : recognised) : Verdict recognised metadata protocol ({ metadata with protocol := protocol }, none)
  | refused (isNot : ¬ recognised) (err : PacketError) : Verdict recognised metadata protocol (metadata, some err)

theorem stun_verdict : Verdict (IsSTUN packet) metadata "stun" (stunMessage metadata packet) := by
  fun_cases stunMessage with
  | case1 short => exact .refused (fun is => short.not_ge is.header) _
  | case2 _ cookie => exact .refused (fun is => cookie is.cookie) _
  | case3 _ _ short => exact .refused (fun is => short.not_ge is.body) _
  | case4 => exact .accepted ⟨by omega, by omega, by omega⟩

theorem tracker_verdict : Verdict (IsTrackerConnect packet) metadata "bittorrent" (udpTracker metadata packet) := by
  fun_cases udpTracker with
  | case1 short => exact .refused (fun is => short.not_ge is.header) _
  | case2 _ protocolID => exact .refused (fun is => protocolID is.protocolID) _
  | case3 _ _ flag => exact .refused (fun is => flag is.flag) _
  | case4 => exact .accepted ⟨by omega, by omega, by omega⟩

theorem dtls_verdict : Verdict (IsDTLS packet) metadata "dtls" (dtlsRecord metadata packet) := by
  fun_cases dtlsRecord metadata packet
  · rename_i short
    exact .refused (fun is => short.not_ge is.header) _
  · rename_i contentType
    exact .refused (fun is => contentType is.contentType) _
  · rename_i major
    exact .refused (fun is => major is.major) _
  · rename_i minor
    exact .refused (fun is => is.minor.elim minor.1 minor.2) _
  · rename_i long contentType major minor
    exact .accepted ⟨Nat.not_lt.mp long, Decidable.not_not.mp contentType, Decidable.not_not.mp major, by grind⟩

theorem leap_indicator (byte : UInt8) : ¬ (3 : UInt8) < (byte >>> 6) &&& 0x03 := by
  simp [UInt8.not_lt, UInt8.le_iff_toNat_le, UInt8.toNat_and, Nat.and_le_right]

theorem ntp_verdict : Verdict (IsNTPRequest packet) metadata "ntp" (ntp metadata packet) := by
  fun_cases ntp metadata packet
  · rename_i short
    exact .refused (fun is => short.not_ge is.header) _
  · rename_i leap
    exact absurd leap (leap_indicator _)
  · rename_i version
    exact .refused (fun is => is.version.elim version.1 version.2) _
  · rename_i mode
    exact .refused (fun is => mode is.mode) _
  · rename_i delay
    exact .refused (fun is => delay.not_ge is.rootDelay) _
  · rename_i dispersion
    exact .refused (fun is => dispersion.not_ge is.rootDispersion) _
  · rename_i long _ _ _ _ _ version mode delay dispersion
    exact .accepted ⟨Nat.not_lt.mp long, by grind, Decidable.not_not.mp mode, Nat.not_lt.mp delay, Nat.not_lt.mp dispersion⟩

theorem check_extensions_iff (extension : UInt8) (reader : Bytes) :
    checkExtensions extension reader = none ↔ ExtensionChain extension reader := by
  fun_induction checkExtensions extension reader with
  | case1 reader => exact iff_of_true rfl (.last reader)
  | case2 _ present | case4 _ present =>
    refine iff_of_false (Option.some_ne_none _) (fun chain => ?_)
    cases chain
    exact present rfl
  | case3 _ present _ _ unknown =>
    refine iff_of_false (Option.some_ne_none _) (fun chain => ?_)
    cases chain with
    | last => exact present rfl
    | more _ known => grind
  | case5 _ present _ known _ _ ih =>
    rw [ih]
    constructor
    · exact .more present (UInt8.not_lt.mp known)
    intro chain
    cases chain with
    | last => exact absurd rfl present
    | more _ _ chain => exact chain

theorem utp_verdict : Verdict (IsUTP packet) metadata "bittorrent" (utp metadata packet) := by
  fun_cases utp with
  | case1 short => exact .refused (fun is => short.not_ge is.header) _
  | case2 _ kind =>
    exact .refused (fun is => kind.elim (fun version => version is.version) (fun type => absurd is.type (UInt8.not_le.mpr type))) _
  | case3 long kind err checked =>
    refine .refused (fun is => ?_) err
    rw [(check_extensions_iff _ _).mpr is.extensions] at checked
    contradiction
  | case4 long kind checked =>
    rw [not_or] at kind
    exact .accepted ⟨Nat.not_lt.mp long, Decidable.not_not.mp kind.1, UInt8.not_lt.mp kind.2, (check_extensions_iff _ _).mp checked⟩

theorem verdict_returned {recognised : Prop} {protocol : String} {after : Metadata} {err : Option PacketError}
    (verdict : Verdict recognised metadata protocol (after, err)) :
    (err = none ↔ recognised) ∧ (err = none → after.protocol = protocol) := by
  cases verdict with
  | accepted is | refused isNot err => grind

end

def Genuine (env : Env) (packet : Bytes) : Prop := ∀ msg, env.unpack packet = .ok msg → msg.IsQuery

section
variable {env : Env} {metadata after : Metadata} {packet : Bytes} {sniffer : PacketSniffer} {err : Option PacketError}

theorem query_verdict (genuine : Genuine env packet) :
    Verdict (∃ msg, env.unpack packet = .ok msg ∧ msg.IsQuery) metadata "dns"
      (queryWritten metadata (domainNameQuery packet env.unpack)) := by
  rw [domainNameQuery]
  cases unpacked : env.unpack packet with
  | error => exact .refused (fun ⟨msg, same, _⟩ => by contradiction) _
  | ok msg =>
    have query := genuine msg unpacked
    have passes : (msg.response || msg.question == 0 || decide (0 < msg.answer) || decide (0 < msg.ns)) = false := by
      obtain ⟨request, asked, answer, ns⟩ := query
      simp [request, answer, ns, Nat.ne_of_gt asked]
    dsimp only
    rw [if_neg (by rw [passes]; exact Bool.false_ne_true)]
    exact .accepted ⟨msg, rfl, query⟩

theorem hello_returned {err : Option SniffError} (done : quicClientHello env.quic env.fuel metadata packet = .ok (after, err)) :
    (err = none ↔ CompletesHello env metadata packet) ∧ (err = none → after.protocol = "quic") := by
  cases collected : collect env.quic packet with
  | error failure =>
    rw [Quic.hello_rejected collected] at done
    cases done
    refine ⟨iff_of_false (Option.some_ne_none failure) ?_, fun none => absurd none (Option.some_ne_none failure)⟩
    rintro ⟨frameTypeList, fragments, _, _, same, _⟩
    simp [collected] at same
  | ok frames =>
    obtain ⟨frameTypeList, fragments⟩ := frames
    rw [Quic.hello_collected collected] at done
    obtain ⟨buffer, built, done⟩ := Outcome.bind_eq_ok.mp done
    cases computed : compute buffer with
    | ok hello =>
      refine ⟨iff_of_true (Quic.fingerprinted_ok computed done).2 ?_, fun _ => Quic.fingerprinted_protocol computed done⟩
      exact ⟨frameTypeList, fragments, buffer, hello, collected, built, computed⟩
    | error =>
      rw [Quic.fingerprinted_error computed] at done
      cases done
      refine ⟨iff_of_false (Option.some_ne_none _) ?_, fun none => absurd none (Option.some_ne_none _)⟩
      rintro ⟨_, _, other, _, same, again, hello⟩
      grind
    | panic | running => simp_all [Quic.fingerprinted]
  | panic | running =>
    simp [quicClientHello, collected] at done

theorem sniff_returned (genuine : sniffer = .domainNameQuery → Genuine env packet)
    (done : sniffer.sniff env metadata packet = .ok (after, err)) :
    (err = none ↔ sniffer.Recognises env metadata packet) ∧ (err = none → after.protocol = sniffer.protocol) := by
  cases sniffer with
  | domainNameQuery => exact verdict_returned (Outcome.ok.inj done ▸ query_verdict (genuine rfl))
  | quicClientHello =>
    obtain ⟨⟨_, _⟩, said, returned⟩ := Outcome.bind_eq_ok.mp done
    cases returned
    rw [Option.map_eq_none_iff]
    exact hello_returned said
  | stunMessage => exact verdict_returned (Outcome.ok.inj done ▸ stun_verdict)
  | utp => exact verdict_returned (Outcome.ok.inj done ▸ utp_verdict)
  | udpTracker => exact verdict_returned (Outcome.ok.inj done ▸ tracker_verdict)
  | dtlsRecord => exact verdict_returned (Outcome.ok.inj done ▸ dtls_verdict)
  | ntp => exact verdict_returned (Outcome.ok.inj done ▸ ntp_verdict)

theorem sniff_returns (other : sniffer ≠ .quicClientHello) : ∃ result, sniffer.sniff env metadata packet = .ok result := by
  cases sniffer with
  | quicClientHello => contradiction
  | _ => exact ⟨_, rfl⟩

end

-- The sniffer whose turn it is when the packet is recognised for the first
-- time, with the metadata that it meets.
inductive FirstRecognised (env : Env) (packet : Bytes) : Metadata → List PacketSniffer → PacketSniffer → Metadata → Prop where
  | here {metadata : Metadata} {sniffer : PacketSniffer} {later : List PacketSniffer} (is : sniffer.Recognises env metadata packet) :
      FirstRecognised env packet metadata (sniffer :: later) sniffer metadata
  | later {metadata after standing : Metadata} {sniffer found : PacketSniffer} {later : List PacketSniffer} {err : PacketError}
      (isNot : ¬ sniffer.Recognises env metadata packet) (passed : sniffer.sniff env metadata packet = .ok (after, some err))
      (rest : FirstRecognised env packet after later found standing) :
      FirstRecognised env packet metadata (sniffer :: later) found standing

variable {env : Env} {packet : Bytes}

theorem peek_from_nil {sniffers : List PacketSniffer} (genuine : .domainNameQuery ∈ sniffers → Genuine env packet)
    {errors : List PacketError} {metadata result : Metadata} (tried : errors = [] → sniffers ≠ [])
    (done : peekFrom env packet errors metadata sniffers = .ok (result, none)) :
    ∃ sniffer standing, FirstRecognised env packet metadata sniffers sniffer standing ∧
      sniffer.sniff env standing packet = .ok (result, none) ∧ result.protocol = sniffer.protocol := by
  induction sniffers generalizing errors metadata with
  | nil =>
    cases errors with
    | nil => exact absurd rfl (tried rfl)
    | cons => cases done
  | cons sniffer _ ih =>
    obtain ⟨⟨_, err⟩, said, done⟩ := Outcome.bind_eq_ok.mp done
    have honest := sniff_returned (fun same => genuine (same ▸ List.mem_cons_self)) said
    cases err with
    | none =>
      cases done
      exact ⟨sniffer, metadata, .here (honest.1.mp rfl), said, honest.2 rfl⟩
    | some err =>
      have isNot : ¬ sniffer.Recognises env metadata packet := by grind
      obtain ⟨found, standing, first, accepted, protocol⟩ :=
        ih (fun member => genuine (List.mem_cons_of_mem _ member)) (fun empty => by simp at empty) done
      exact ⟨found, standing, .later isNot said first, accepted, protocol⟩

structure SniffsRight (env : Env) (metadata : Metadata) (packet : Bytes) (sniffers : List PacketSniffer) : Prop where
  recognised : ∀ result, peekPacket env metadata packet sniffers = .ok (result, none) →
    result.protocol ≠ "" ∧ ∃ sniffer standing, FirstRecognised env packet metadata sniffers sniffer standing ∧
      sniffer.sniff env standing packet = .ok (result, none) ∧ result.protocol = sniffer.protocol
  refused : ∀ sniffer ∈ sniffers, ∀ standing, ¬ sniffer.Recognises env standing packet →
    (∃ after err, sniffer.sniff env standing packet = .ok (after, some err)) ∨
      sniffer = .quicClientHello ∧ ¬ (sniffer.sniff env standing packet).Returns

theorem refused_of_genuine {sniffer : PacketSniffer} (genuine : sniffer = .domainNameQuery → Genuine env packet)
    {standing : Metadata} (isNot : ¬ sniffer.Recognises env standing packet) :
    (∃ after err, sniffer.sniff env standing packet = .ok (after, some err)) ∨
      sniffer = .quicClientHello ∧ ¬ (sniffer.sniff env standing packet).Returns := by
  cases said : sniffer.sniff env standing packet with
  | ok result =>
    obtain ⟨after, err⟩ := result
    cases err with
    | none => exact absurd ((sniff_returned genuine said).1.mp rfl) isNot
    | some err => grind
  | error err => cases err
  | panic =>
    by_cases hello : sniffer = .quicClientHello
    · exact .inr ⟨hello, id⟩
    obtain ⟨result, returned⟩ := @sniff_returns env standing packet sniffer hello
    simp [said] at returned
  | running =>
    by_cases hello : sniffer = .quicClientHello
    · exact .inr ⟨hello, id⟩
    obtain ⟨_, returned⟩ := @sniff_returns env standing packet sniffer hello
    simp [said] at returned

theorem query_not_refused {msg : Msg} (metadata : Metadata) (unpacked : env.unpack packet = .ok msg) :
    ∃ after, PacketSniffer.domainNameQuery.sniff env metadata packet = .ok (after, none) := by
  rw [PacketSniffer.sniff, domainNameQuery, unpacked]
  dsimp only
  split
  · exact ⟨_, rfl⟩
  · exact ⟨_, rfl⟩

theorem peek_packet_right_iff (env : Env) (metadata : Metadata) (packet : Bytes) (sniffers : List PacketSniffer) :
    SniffsRight env metadata packet sniffers ↔
      sniffers ≠ [] ∧ (.domainNameQuery ∈ sniffers → ∀ msg, env.unpack packet = .ok msg → msg.IsQuery) := by
  constructor
  · intro right
    constructor
    · rintro rfl
      obtain ⟨_, _, _, first, _⟩ := right.recognised metadata rfl
      cases first
    intro listed msg unpacked
    refine Classical.byContradiction (fun other => ?_)
    obtain ⟨_, said⟩ := query_not_refused metadata unpacked
    have isNot : ¬ PacketSniffer.domainNameQuery.Recognises env metadata packet := by
      rintro ⟨same, again, query⟩
      grind
    rcases right.refused _ listed metadata isNot with ⟨_, err, refused⟩ | ⟨same, _⟩
    · simp_all
    · contradiction
  rintro ⟨some_sniffer, genuine⟩
  constructor
  · intro _ done
    obtain ⟨sniffer, standing, first, said, protocol⟩ := peek_from_nil genuine (fun _ => some_sniffer) done
    exact ⟨by rw [protocol]; exact (by cases sniffer <;> decide), sniffer, standing, first, said, protocol⟩
  intro sniffer member standing isNot
  exact refused_of_genuine (fun same => genuine (same ▸ member)) isNot

def unpackHeader (packet : Bytes) : Except UnpackError Msg :=
  if 12 ≤ packet.length ∧ (packet.drop 4).take 8 = List.replicate 8 0 then .ok ⟨packet.getD 2 0 &&& 0x80 ≠ 0, 0, 0, 0⟩
  else .error .malformed

def clientRequest : Bytes := 0x1b :: List.replicate 47 0

theorem ntp_request_counterexample :
    peekPacket ⟨unpackHeader, Quic.clearEnv, 0⟩ {} clientRequest [.domainNameQuery, .ntp] = .ok ({}, none) ∧
      IsNTPRequest clientRequest ∧
      peekPacket ⟨unpackHeader, Quic.clearEnv, 0⟩ {} clientRequest [.ntp] = .ok ({ protocol := "ntp" }, none) :=
  ⟨rfl, ⟨by decide, by decide, by decide, by decide, by decide⟩, rfl⟩

end OtunKernel.Sniff
