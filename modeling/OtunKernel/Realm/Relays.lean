import OtunKernel.Realm.Server
import OtunKernel.Lib.Runs

namespace OtunKernel.Realm

open Lib Server

-- The control client omits an empty list.
def encodeRelay (relay : List String) : Option (List String) := if relay = [] then none else some relay

inductive RealmCall where
  | register (user : RealmUser) (addresses relay : List String) (entropy : Option String) (address lag : Nat)
  | heartbeat (addresses : Option (List String)) (relay : List String) (lag : Nat)
  | wait (duration : Nat)

-- The handlers that can change what a realm offers, one after the other; the
-- node holds the session's token. handleConnect reads the list with findRealm
-- and writes only the pending table and the events.
def realmCall (parseAddrPort : String → Bool) (id : String) (server : Server) : RealmCall → Option Server
  | .register user addresses relay entropy address lag =>
    match decodeRegister parseAddrPort (.decoded ⟨some addresses, encodeRelay relay⟩) with
    | .error _ => some server
    | .ok (addresses, relay) => some (server.register user id addresses relay entropy address lag).1
  | .heartbeat addresses relay lag =>
    match server.findRealm id, decodeHeartbeat parseAddrPort (.decoded ⟨addresses, encodeRelay relay⟩) with
    | some (session, _), .ok request => server.extend session request lag
    | _, _ => some server
  | .wait duration => some { server with now := server.now + duration }

def RealmCall.quiet : RealmCall → Bool
  | .heartbeat .. => false
  | _ => true

def Offers (id : String) (relay : List String) (server : Server) : Prop :=
  ∃ session sess, server.realms.lookup id = some session ∧ server.heap session = some sess ∧ sess.relay = relay

section
variable {parseAddrPort : String → Bool} {id : String} {relay : List String} {server result : Server}
  {found : Nat × RealmSession}

theorem offers_call {call : RealmCall} (offers : Offers id relay server) (keeps : call.quiet)
    (taken : realmCall parseAddrPort id server call = some result) : Offers id relay result := by
  cases call with
  | register user addresses other entropy address lag =>
    have held : (server.realms.lookup id).isSome := by
      obtain ⟨_, _, looked, _⟩ := offers
      simp [looked]
    simp only [realmCall, Server.register, held, if_true] at taken
    split at taken <;> cases taken <;> exact offers
  | heartbeat => simp [RealmCall.quiet] at keeps
  | wait => cases taken; exact offers

theorem relay_of_find (offers : Offers id relay server) (served : server.findRealm id = some found) : found.2.relay = relay := by
  obtain ⟨session, held, looked, stored, rfl⟩ := offers
  simp only [findRealm, looked, stored] at served
  split_ifs at served
  cases served
  rfl

theorem held_of_find (served : server.findRealm id = some found) :
    server.realms.lookup id = some found.1 ∧ server.heap found.1 = some found.2 := by
  revert served
  fun_cases findRealm server id <;> rintro ⟨⟩
  rename_i looked _ stored _
  exact ⟨looked, stored⟩

end

-- A withdrawn list does not reach the server: the heartbeat leaves the old one.
theorem relay_follows_iff {parseAddrPort : String → Bool} {id : String} {server result last : Server} {session : Nat}
    {sess : RealmSession} {addresses : Option (List String)} {relay : List String} {lag : Nat} {request : RegisterRequest}
    (found : server.findRealm id = some (session, sess))
    (valid : decodeHeartbeat parseAddrPort (.decoded ⟨addresses, encodeRelay relay⟩) = .ok request)
    (beat : realmCall parseAddrPort id server (.heartbeat addresses relay lag) = some result)
    (run : Run (realmCall parseAddrPort id) (fun _ call => call.quiet) result last) {offered : Nat × RealmSession}
    (served : last.findRealm id = some offered) : offered.2.relay = relay ↔ relay ≠ [] ∨ sess.relay = [] := by
  obtain ⟨looked, stored⟩ := held_of_find found
  have same : request = ⟨addresses, encodeRelay relay⟩ := by
    rw [decodeHeartbeat] at valid
    split at valid
    · cases valid
    · split at valid <;> cases valid
      rfl
  subst same
  simp only [realmCall, found, valid, extend, stored, Option.map_some, Option.some.injEq] at beat
  have offers : Offers id ((encodeRelay relay).getD sess.relay) last := by
    refine run.invariant _ ?_ (fun _ _ _ offers keeps taken => offers_call offers keeps taken)
    subst beat
    exact ⟨session, _, looked, put_same _ _ _, rfl⟩
  rw [relay_of_find offers served]
  by_cases empty : relay = [] <;> simp [encodeRelay, empty]

def isDocumentation (text : String) : Bool := text ∈ ["192.0.2.1:443", "198.51.100.1:443", "198.51.100.2:443"]

def relaying : Server :=
  ((newServer 0 (fun _ => none)).register ⟨"alice", 0⟩ "home" ["192.0.2.1:443"] ["198.51.100.1:443"] (some "s1") 0 0).1

theorem relay_follows_replaced :
    ∃ result, realmCall isDocumentation "home" relaying (.heartbeat none ["198.51.100.2:443"] 0) = some result ∧
      ∀ offered, result.findRealm "home" = some offered → offered.2.relay = ["198.51.100.2:443"] := by
  have beat : realmCall isDocumentation "home" relaying (.heartbeat none ["198.51.100.2:443"] 0) = some _ := rfl
  exact ⟨_, beat, fun _ served => (relay_follows_iff rfl rfl beat .refl served).mpr (.inl (by simp))⟩

theorem withdrawn_relay_counterexample :
    ((realmCall isDocumentation "home" relaying (.heartbeat none [] 0)).bind (·.findRealm "home")).map (·.2.relay) =
      some ["198.51.100.1:443"] := by
  decide

end OtunKernel.Realm
