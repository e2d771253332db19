import OtunKernel.Transport.Udp

namespace OtunKernel.Transport

inductive QueryIdCall where
  | register (call : Nat)
  | unregister (queryId : UInt16)

variable {Q : Type} (transport : UdpTransport Q)

def UdpTransport.tried : List UInt16 :=
  triedFrom transport.callbacks transport.queryId 65536 transport.queryId

-- The calls in order, with all ids that they tried.
def UdpTransport.run (transport : UdpTransport Q) : List QueryIdCall → UdpTransport Q × List UInt16
  | [] => (transport, [])
  | .register call :: rest =>
    let later := (transport.register call).1.run rest
    (later.1, transport.tried ++ later.2)
  | .unregister queryId :: rest => (transport.unregister queryId).run rest

theorem covers_register (call : Nat) :
    ∃ count, Covers transport.queryId (transport.register call).1.queryId transport.tried (count + 1) := by
  have moved : (transport.register call).1.queryId = transport.nextAvailableQueryId.1.queryId := by
    rw [UdpTransport.register]
    split <;> simp_all
  rw [moved]
  exact covers_tried transport.callbacks transport.queryId 65535 transport.queryId

theorem covers_run (calls : List QueryIdCall) :
    ∃ count, Covers transport.queryId (transport.run calls).1.queryId (transport.run calls).2 count := by
  induction calls generalizing transport with
  | nil => exact ⟨0, (UInt16.add_zero _).symm, by simp⟩
  | cons call rest later =>
    cases call with
    | register call =>
      obtain ⟨_, tried⟩ := covers_register transport call
      obtain ⟨_, after⟩ := later (transport.register call).1
      exact ⟨_, covers_append tried after⟩
    | unregister queryId => exact later (transport.unregister queryId)

theorem query_ids_exact :
    (∀ more, nextQueryIdFrom transport.callbacks transport.queryId (65536 + more) transport.queryId =
      nextQueryIdFrom transport.callbacks transport.queryId 65536 transport.queryId) ∧
    (∀ queryId, transport.nextAvailableQueryId.2 = some queryId → transport.callbacks queryId = none) ∧
    (transport.nextAvailableQueryId.2 = none ↔ ∀ queryId, transport.callbacks queryId ≠ none) ∧
    ∀ call queryId after, transport.register call = (after, some queryId) → ∀ calls again last,
      (after.run calls).1.register again = (last, some queryId) →
        ∀ other, other ∈ (after.run calls).2 ++ (after.run calls).1.tried := by
  have free (queryId : UInt16) (available : transport.nextAvailableQueryId.2 = some queryId) : transport.callbacks queryId = none :=
    (next_query_id_free 65536 transport.queryId (Prod.ext rfl available)).2
  refine ⟨fun more => (back_at_start more 65535 0 rfl (UInt16.add_zero _).symm).1, free, ⟨next_query_id_exhausted, ?_⟩, ?_⟩
  · intro taken
    cases available : transport.nextAvailableQueryId.2 with
    | none => rfl
    | some queryId => exact absurd (free queryId available) (taken queryId)
  intro call queryId after registered calls again last repeated
  have first : after.queryId = queryId := by rw [(register_some registered).2]
  have second : last.queryId = queryId := by rw [(register_some repeated).2]
  obtain ⟨_, between⟩ := covers_run after calls
  obtain ⟨_, around⟩ := covers_register (after.run calls).1 again
  rw [first] at between
  rw [repeated, second] at around
  have whole := covers_append between around
  exact covers_all whole

end OtunKernel.Transport
