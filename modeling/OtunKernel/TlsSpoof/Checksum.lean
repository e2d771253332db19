import Mathlib.Data.Nat.ModEq
import OtunKernel.Lib.Bytes

namespace OtunKernel.TlsSpoof

open Lib

inductive Method where
  | wrongSequence
  | wrongChecksum
  | wrongAcknowledgment
  | wrongMD5Sig
  | wrongTimestamp
deriving DecidableEq

structure SpoofPacketInfo where
  seqNum : UInt32
  ackNum : UInt32
  corrupt : Bool := false
  options : Bytes := []

abbrev TCPOptions := { options : Bytes // options.length ≤ 40 ∧ 4 ∣ options.length }

-- timestampOptions is what buildWrongTimestampOptions returns.
def resolveSpoofPacketInfo (method : Method) (sendNext receiveNext : UInt32) (timestampOptions : TCPOptions) (payload : Bytes) :
    SpoofPacketInfo :=
  match method with
  | .wrongSequence => { seqNum := sendNext - payload.length.toUInt32, ackNum := receiveNext }
  | .wrongChecksum => { seqNum := sendNext, ackNum := receiveNext, corrupt := true }
  | .wrongAcknowledgment => { seqNum := sendNext, ackNum := receiveNext - 0x7fff }
  | .wrongMD5Sig => { seqNum := sendNext, ackNum := receiveNext, options := 19 :: 18 :: List.replicate 18 0 }
  | .wrongTimestamp => { seqNum := sendNext, ackNum := receiveNext, options := timestampOptions.val }

def wordSum : Bytes → Nat
  | [] => 0
  | [high] => 256 * high.toNat
  | high :: low :: rest => 256 * high.toNat + low.toNat + wordSum rest

-- The one's-complement sum of 16-bit words with this total.
def fold (total : Nat) : Nat := if total = 0 then 0 else (total - 1) % 65535 + 1

def checksum (buffer : Bytes) (initial : Nat) : Nat := fold (initial + wordSum buffer)

def combine (a b : Nat) : Nat := fold (a + b)

structure Flow where
  srcAddr : Bytes
  dstAddr : Bytes
  srcPort : UInt16
  dstPort : UInt16

def pseudoHeaderChecksum (flow : Flow) (length : Nat) : Nat :=
  combine (checksum [0, 6] (checksum flow.dstAddr (checksum flow.srcAddr 0))) (length % 65536)

-- The words in front of the options, which come in words of four bytes.
def tcpHeaderSum (flow : Flow) (info : SpoofPacketInfo) (field : Nat) : Nat :=
  flow.srcPort.toNat + flow.dstPort.toNat + info.seqNum.toNat / 65536 + info.seqNum.toNat % 65536 + info.ackNum.toNat / 65536 +
    info.ackNum.toNat % 65536 + ((20 + info.options.length) / 4 * 4096 + 0x18) + 0xffff + field

def calculateChecksum (flow : Flow) (info : SpoofPacketInfo) (initial : Nat) : Nat :=
  fold (initial + (tcpHeaderSum flow info 0 + wordSum info.options))

def segmentPseudo (flow : Flow) (info : SpoofPacketInfo) (payload : Bytes) : Nat :=
  pseudoHeaderChecksum flow (20 + info.options.length + payload.length)

-- The field as applyTCPChecksum sets it; ^ is the difference from 0xFFFF.
def applyTCPChecksum (flow : Flow) (info : SpoofPacketInfo) (payload : Bytes) : Nat :=
  let tcpChecksum := 65535 - calculateChecksum flow info (combine (segmentPseudo flow info payload) (checksum payload 0))
  if info.corrupt then 65535 - tcpChecksum else tcpChecksum

-- What the receiver adds up.
def receivedSum (flow : Flow) (info : SpoofPacketInfo) (payload : Bytes) (field : Nat) : Nat :=
  fold (segmentPseudo flow info payload + tcpHeaderSum flow info field + wordSum info.options + wordSum payload)

def Verifies (flow : Flow) (info : SpoofPacketInfo) (payload : Bytes) : Prop :=
  receivedSum flow info payload (applyTCPChecksum flow info payload) = 65535

theorem fold_fold_add (a b : Nat) : fold (fold a + b) = fold (a + b) := by
  simp only [fold]
  split_ifs <;> omega

theorem calculated_eq (flow : Flow) (info : SpoofPacketInfo) (payload : Bytes) :
    calculateChecksum flow info (combine (segmentPseudo flow info payload) (checksum payload 0)) =
      receivedSum flow info payload 0 := by
  rw [calculateChecksum, combine, checksum, Nat.zero_add, fold_fold_add, Nat.add_comm _ (fold _), Nat.add_assoc, fold_fold_add,
    receivedSum]
  congr 1
  omega

theorem received_total (flow : Flow) (info : SpoofPacketInfo) (payload : Bytes) :
    ∃ total, 0 < total ∧ ∀ field, receivedSum flow info payload field = fold (total + field) := by
  refine ⟨segmentPseudo flow info payload + tcpHeaderSum flow info 0 + wordSum info.options + wordSum payload, ?_, ?_⟩
  · rw [tcpHeaderSum]
    omega
  · intro field
    have added : tcpHeaderSum flow info field = tcpHeaderSum flow info 0 + field := rfl
    exact congrArg fold (by omega)

theorem fold_max_iff {total : Nat} (positive : 0 < total) : fold total = 65535 ↔ 65535 ∣ total := by
  rw [fold, if_neg positive.ne']
  omega

-- Corrupting the field puts the sum of the rest there, which is valid if it is
-- one of the two zeros.
theorem spoof_verifies_iff (flow : Flow) (method : Method) (sendNext receiveNext : UInt32) (timestampOptions : TCPOptions)
    (payload : Bytes) : Verifies flow (resolveSpoofPacketInfo method sendNext receiveNext timestampOptions payload) payload ↔
      (method = .wrongChecksum → receivedSum flow
        (resolveSpoofPacketInfo method sendNext receiveNext timestampOptions payload) payload 0 = 65535) := by
  have corrupt : (resolveSpoofPacketInfo method sendNext receiveNext timestampOptions payload).corrupt =
      decide (method = .wrongChecksum) := by cases method <;> rfl
  generalize resolveSpoofPacketInfo method sendNext receiveNext timestampOptions payload = info at corrupt ⊢
  obtain ⟨total, positive, received⟩ := received_total flow info payload
  have folded : fold total ≤ 65535 ∧ fold total % 65535 = total % 65535 := by
    rw [fold, if_neg positive.ne']
    omega
  rw [Verifies, applyTCPChecksum, calculated_eq, corrupt]
  simp only [received, Nat.add_zero, decide_eq_true_eq]
  rw [fold_max_iff positive, fold_max_iff (by omega), Nat.sub_sub_self folded.1]
  by_cases wrong : method = .wrongChecksum
  · have twice := (Nat.ModEq.add_left total folded.2).dvd_iff dvd_rfl
    have odd : Nat.Coprime 65535 2 := by decide
    simp only [wrong, if_true, true_implies, twice, ← Nat.two_mul, odd.dvd_mul_left]
  · simp only [wrong, if_false, false_implies, iff_true]
    omega

theorem zero_sum_counterexample : Verifies ⟨[192, 0, 2, 1], [198, 51, 100, 1], 49152, 443⟩
    (resolveSpoofPacketInfo .wrongChecksum 1000 2000 ⟨[], by decide⟩ [0xf6, 0x20]) [0xf6, 0x20] := by
  unfold Verifies
  decide +kernel

end OtunKernel.TlsSpoof
