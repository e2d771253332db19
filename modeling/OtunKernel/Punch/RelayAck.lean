import OtunKernel.Punch.RelayJoin
import OtunKernel.Punch.NatType

namespace OtunKernel.Punch

structure Datagram where
  source : AddrPort
  payload : List UInt8

def udpAddrPort (addr : AddrPort) : AddrPort := (addr.1.unmap, addr.2)

-- One turn of the loop of relayJoin: the call of ReadFrom and its return.
def receive (relayAddr : AddrPort) (nonce : Nonce) (datagram : Datagram) (join : RelayJoin) : Option RelayJoin :=
  let read : ReadResult AddrPort := .datagram (some (udpAddrPort datagram.source)) (datagram.payload.take 2048)
  (readerStep relayAddr nonce read join).bind (readerStep relayAddr nonce read)

def ackedAt (relayAddr : AddrPort) (nonce : Nonce) (join : RelayJoin) : List Datagram → Option Nat
  | [] => none
  | datagram :: rest =>
    match receive relayAddr nonce datagram join with
    | some after => if after.reader = .acked then some 0 else (ackedAt relayAddr nonce after rest).map (· + 1)
    | none => none

-- The datagram that should end the loop.
def Datagram.acks (relayAddr : AddrPort) (nonce : Nonce) (datagram : Datagram) : Bool :=
  udpAddrPort datagram.source = udpAddrPort relayAddr ∧ datagram.payload = encodeRelayJoin nonce

theorem is_relay_join_ack_iff (payload : List UInt8) (nonce : Nonce) :
    isRelayJoinAck (payload.take 2048) nonce = true ↔ payload = encodeRelayJoin nonce := by
  constructor
  · intro acked
    simp only [isRelayJoinAck, ite_not, Bool.if_false_right, Bool.and_eq_true, decide_eq_true_eq, beq_iff_eq] at acked
    obtain ⟨sized, magic, rest⟩ := acked
    rw [List.length_take, relayJoinLen, relayNonceLen] at sized
    have whole : payload.take 2048 = payload := List.take_of_length_le (by omega)
    rw [whole] at magic rest
    rw [encodeRelayJoin, ← magic, ← rest, List.take_append_drop]
  · rintro rfl
    simp [isRelayJoinAck, encodeRelayJoin, relayMagic, relayJoinLen, nonce.property, relayNonceLen]

theorem receive_eq (relayAddr : AddrPort) (nonce : Nonce) (datagram : Datagram) :
    receive relayAddr nonce datagram {} = some { reader := (
      if udpAddrPort datagram.source = relayAddr ∧ datagram.payload = encodeRelayJoin nonce then .acked else .calling) } := by
  simp only [← is_relay_join_ack_iff]
  by_cases same : udpAddrPort datagram.source = relayAddr <;>
    cases acked : isRelayJoinAck (datagram.payload.take 2048) nonce <;> simp [receive, readerStep, same, acked]

-- The sender is unmapped before the comparison and the relay address is not.
theorem acked_at_first_iff (relayAddr : AddrPort) (nonce : Nonce) :
    (∀ datagrams, ackedAt relayAddr nonce {} datagrams = datagrams.findIdx? (Datagram.acks relayAddr nonce)) ↔
      udpAddrPort relayAddr = relayAddr := by
  constructor
  · intro first
    by_contra mapped
    have missed := first [⟨relayAddr, encodeRelayJoin nonce⟩]
    simp [ackedAt, receive_eq, mapped, Datagram.acks] at missed
  · intro plain datagrams
    induction datagrams with
    | nil => rfl
    | cons datagram rest later =>
      rw [ackedAt, receive_eq, List.findIdx?_cons, Datagram.acks, plain]
      by_cases acked : udpAddrPort datagram.source = relayAddr ∧ datagram.payload = encodeRelayJoin nonce
      · simp [acked]
      · simp [acked, later]

theorem mapped_relay_counterexample :
    ackedAt (.v6 0xffff7f000001#128, 443) ⟨List.replicate 16 0, rfl⟩ {}
      [⟨(.v4 0x7f000001#32, 443), encodeRelayJoin ⟨List.replicate 16 0, rfl⟩⟩] = none ∧
    Datagram.acks (.v6 0xffff7f000001#128, 443) ⟨List.replicate 16 0, rfl⟩
      ⟨(.v4 0x7f000001#32, 443), encodeRelayJoin ⟨List.replicate 16 0, rfl⟩⟩ = true := by decide

end OtunKernel.Punch
