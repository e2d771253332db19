import OtunKernel.Realm.Tables

namespace OtunKernel.Realm

open Lib Server Machine

-- An open session is taken out only when no heartbeat that was authenticated
-- for it and will be accepted is still to extend it.
def HeartbeatsSettled (parseAddrPort : String → Bool) (machine : Machine) (event : RealmStep) : Prop :=
  FreshSessionIDs machine event ∧
    ∀ session ∈ machine.removals event, ∀ sess, machine.server.heap session = some sess → sess.closed = false →
      ∀ goroutine body request, machine.goroutines goroutine = some (.authenticated session (.heartbeat body)) →
        decodeHeartbeat parseAddrPort body ≠ .ok request

def LeftAlone (session : Nat) (machine : Machine) (event : RealmStep) : Prop :=
  session ∈ machine.removals event → ∃ goroutine, event = .expire goroutine

def Server.Opened (server : Server) (session : Nat) : Prop :=
  ∃ sess, server.heap session = some sess ∧ sess.closed = false

variable {parseAddrPort : String → Bool} {event : RealmStep}

section
variable {machine : Machine} {server result : Server} {address : Nat} {other session : Nat} {order : List Nat}

theorem remove_others (done : server.removeSessionLocked address = some result) (different : other ≠ address) :
    result.heap other = server.heap other := by
  obtain ⟨_, _, ⟨_, same⟩ | ⟨_, _, _, _, _, _, _, _, same⟩⟩ := remove_cases done
  · rw [same]
  · simp_all

theorem remove_now (done : server.removeSessionLocked address = some result) : result.now = server.now := by
  obtain ⟨_, _, ⟨_, same⟩ | ⟨_, _, _, _, _, _, _, _, same⟩⟩ := remove_cases done
  · rw [same]
  · rw [same]

theorem close_all_others (done : server.closeAll order = some result)
    (spared : other ∉ order) : result.heap other = server.heap other := by
  induction order generalizing server with
  | nil =>
    cases done
    rfl
  | cons _ _ ih =>
    obtain ⟨_, removed, later⟩ := Option.bind_eq_some_iff.mp done
    rw [List.mem_cons, not_or] at spared
    rw [ih later spared.2, remove_others removed spared.1]

theorem close_all_now (done : server.closeAll order = some result) : result.now = server.now := by
  have invariant : ∀ address state next, Server.now state = server.now →
      state.removeSessionLocked address = some next → next.now = server.now := by grind [remove_now]
  exact close_all_invariant invariant rfl done

theorem same_tables_opened (same : server.SameTables result) (opened : server.Opened session) : result.Opened session := by
  obtain ⟨_, stored, isOpen⟩ := opened
  obtain ⟨next, found, _, _, _, closed⟩ := same_standing same.standings stored
  exact ⟨next, found, closed.trans isOpen⟩

theorem change_opened (change : Change parseAddrPort machine event server)
    (opened : machine.server.Opened session) (spared : session ∉ machine.removals event) : server.Opened session := by
  cases change with
  | quiet same => exact same_tables_opened (quiet_same_tables same) opened
  | registered _ _ _ _ _ address _ _ unused =>
    obtain ⟨sess, stored, isOpen⟩ := opened
    have different : session ≠ address := by grind
    exact ⟨sess, (put_other _ _ _ _ different).trans stored, isOpen⟩
  | extended _ _ _ _ _ _ _ _ done =>
    exact same_tables_opened (extend_same_tables done) opened
  | fired _ _ _ done => exact same_tables_opened (fire_same_tables done) opened
  | removed done =>
    obtain ⟨sess, stored, isOpen⟩ := opened
    exact ⟨sess, (close_all_others done spared).trans stored, isOpen⟩

theorem auth_session_opened {header id : String} (known : server.authSession header id = some address) :
    server.Opened address := by
  revert known
  fun_cases server.authSession header id <;> rintro ⟨⟩
  rename_i looked _
  obtain ⟨token, _, got⟩ := Option.bind_eq_some_iff.mp looked
  revert got
  fun_cases server.getSessionByToken token <;> rintro ⟨⟩
  rename_i sess alive _ stored
  simp only [Bool.or_eq_true, not_or, Bool.not_eq_true] at alive
  exact ⟨sess, stored, alive.1⟩

end

def Machine.HeartbeatsLive (parseAddrPort : String → Bool) (machine : Machine) : Prop :=
  ∀ goroutine session body request, machine.goroutines goroutine = some (.authenticated session (.heartbeat body)) →
    decodeHeartbeat parseAddrPort body = .ok request → machine.server.Opened session

variable {machine result : Machine}

theorem step_heartbeats_live (live : machine.HeartbeatsLive parseAddrPort)
    (settled : HeartbeatsSettled parseAddrPort machine event)
    (taken : realmStep parseAddrPort machine event = some result) : result.HeartbeatsLive parseAddrPort := by
  intro goroutine session body request phase valid
  rcases authenticated_origin taken phase with older | ⟨header, id, known, unmoved⟩
  · have opened := live goroutine session body request older valid
    apply change_opened (step_change taken) opened
    intro removed
    obtain ⟨sess, stored, isOpen⟩ := opened
    exact settled.2 session removed sess stored isOpen goroutine body request older valid
  · simpa [unmoved] using auth_session_opened known

theorem run_heartbeats_live {now : Nat} {tokenMap : String → Option RealmUser}
    (run : Run (realmStep parseAddrPort) (HeartbeatsSettled parseAddrPort) (startMachine now tokenMap) machine) :
    machine.HeartbeatsLive parseAddrPort := by
  apply run.invariant (Machine.HeartbeatsLive parseAddrPort)
  · intro _ _ _ _ phase
    cases phase
  intro _ _ _ live settled taken
  exact step_heartbeats_live live settled taken

def Server.GoodUntil (server : Server) (session : Nat) (realmID : String) (start limit : Nat) : Prop :=
  start ≤ server.now ∧ (limit < server.now ∨
    ∃ sess, server.heap session = some sess ∧ sess.closed = false ∧ sess.realmID = realmID ∧ limit ≤ sess.expires)

section
variable {server : Server} {session start limit : Nat} {realmID : String} {sess : RealmSession} {next : Server}

theorem good_put {changed : RealmSession} {address : Nat}
    (good : server.GoodUntil session realmID start limit) (moved : server.now ≤ next.now)
    (stored : server.heap address = some sess) (written : next.heap = put server.heap address changed)
    (closed : changed.closed = sess.closed) (realm : changed.realmID = sess.realmID)
    (longer : limit ≤ sess.expires → limit ≤ changed.expires) : next.GoodUntil session realmID start limit := by
  refine ⟨Nat.le_trans good.1 moved, ?_⟩
  rcases good.2 with passed | ⟨found, storedFound, opened, named, limited⟩
  · grind
  rw [written]
  grind

theorem quiet_good (quiet : server.Quiet next) (good : server.GoodUntil session realmID start limit) :
    next.GoodUntil session realmID start limit := by
  refine ⟨Nat.le_trans good.1 quiet.now, ?_⟩
  rcases good.2 with passed | ⟨sess, stored, opened, named, limited⟩
  · grind [quiet.now]
  obtain ⟨found, storedFound, same⟩ := same_view_some (same_view_symm quiet.leases) stored
  grind [RealmSession.lease]

theorem change_good (change : Change parseAddrPort machine event server) (alone : LeftAlone session machine event)
    (good : machine.server.GoodUntil session realmID start (start + sessionTTL)) :
    server.GoodUntil session realmID start (start + sessionTTL) := by
  cases change with
  | quiet same => exact quiet_good same good
  | registered _ _ _ _ _ address lag _ unused =>
    have moved : machine.server.now ≤ machine.server.now + lag := Nat.le_add_right _ _
    refine ⟨Nat.le_trans good.1 moved, ?_⟩
    rcases good.2 with passed | ⟨sess, stored, rest⟩
    · exact .inl (Nat.lt_of_lt_of_le passed moved)
    have different : session ≠ address := by grind
    exact .inr ⟨sess, (put_other _ _ _ _ different).trans stored, rest⟩
  | extended _ _ _ _ _ _ _ _ done =>
    obtain ⟨sess, stored, same⟩ := Option.map_eq_some_iff.mp done
    cases same
    refine good_put good (Nat.le_add_right _ _) stored rfl rfl rfl ?_
    intro _
    exact Nat.add_le_add_right good.1 sessionTTL
  | fired _ _ _ done =>
    obtain ⟨sess, _, stored, _, passed, same⟩ := fire_some done
    rw [same]
    exact good_put good (Nat.le_refl _) stored rfl rfl rfl id
  | removed done =>
    have same := close_all_now done
    refine ⟨by rw [same]; exact good.1, ?_⟩
    rcases good.2 with passed | ⟨sess, stored, opened, named, limited⟩
    · omega
    by_cases removed : session ∈ machine.removals event
    · obtain ⟨_, expiring⟩ := alone removed
      have expired : sess.expires < machine.server.now := by grind [removals]
      exact .inl (by omega)
    · exact .inr ⟨sess, (close_all_others done removed).trans stored, opened, named, limited⟩

theorem find_realm_opened (consistent : server.Consistent) (stored : server.heap session = some sess)
    (opened : sess.closed = false) (valid : server.now ≤ sess.expires) : server.findRealm sess.realmID = some (session, sess) := by
  have registered := consistent.registered session sess stored opened
  have unexpired : ¬ sess.expires < server.now := by omega
  simp [findRealm, registered, stored, opened, unexpired]

theorem good_found (consistent : server.Consistent) (good : server.GoodUntil session realmID start limit)
    (early : server.now ≤ limit) : ∃ found, server.findRealm realmID = some (session, found) := by
  rcases good.2 with passed | ⟨sess, stored, opened, named, limited⟩
  · omega
  rw [← named]
  exact ⟨sess, find_realm_opened consistent stored opened (by omega)⟩

end

theorem extended_good {goroutine session lag : Nat} {body : Body RegisterRequest} {request : RegisterRequest}
    {sess : RealmSession} (stored : machine.server.heap session = some sess) (opened : sess.closed = false)
    (valid : decodeHeartbeat parseAddrPort body = .ok request)
    (phase : machine.goroutines goroutine = some (.authenticated session (.heartbeat body)))
    (taken : realmStep parseAddrPort machine (.handle goroutine lag) = some result) :
    result.goroutines goroutine = some (.extended session) ∧
      result.server.GoodUntil session sess.realmID machine.server.now (machine.server.now + sessionTTL) := by
  rw [realmStep, phase] at taken
  simp only [handle, handleHeartbeat, valid, after, extend, stored, Option.map_some] at taken
  cases taken
  exact ⟨put_same _ _ _, Nat.le_add_right _ _, .inr ⟨_, put_same _ _ _, opened, rfl, Nat.le_refl _⟩⟩

theorem heartbeats_belong_to_registrations (parseAddrPort : String → Bool) (now : Nat)
    (tokenMap : String → Option RealmUser) (machine : Machine)
    (run : Run (realmStep parseAddrPort) (HeartbeatsSettled parseAddrPort) (startMachine now tokenMap) machine)
    (goroutine session lag : Nat) (body : Body RegisterRequest) (request : RegisterRequest) (result : Machine)
    (phase : machine.goroutines goroutine = some (.authenticated session (.heartbeat body)))
    (valid : decodeHeartbeat parseAddrPort body = .ok request)
    (taken : realmStep parseAddrPort machine (.handle goroutine lag) = some result) :
    result.goroutines goroutine = some (.extended session) ∧
      ∃ sess, machine.server.heap session = some sess ∧ sess.closed = false ∧
        machine.server.realms.lookup sess.realmID = some session ∧
        ∀ later,
          Run (realmStep parseAddrPort) (fun state event => FreshSessionIDs state event ∧ LeftAlone session state event)
            result later →
          later.server.now ≤ machine.server.now + sessionTTL →
            ∃ found, later.server.findRealm sess.realmID = some (session, found) := by
  have consistent := run_consistent_tables (fun _ _ settled => settled.1) run
  obtain ⟨sess, stored, opened⟩ := run_heartbeats_live run goroutine session body request phase valid
  obtain ⟨moved, good⟩ := extended_good stored opened valid phase taken
  refine ⟨moved, sess, stored, opened, consistent.registered session sess stored opened, ?_⟩
  intro later afterwards early
  have fresh : FreshSessionIDs machine (.handle goroutine lag) := by
    intro _ drawn
    cases drawn
  have both : later.server.Consistent ∧ later.server.GoodUntil session sess.realmID machine.server.now
      (machine.server.now + sessionTTL) := by
    refine afterwards.invariant (fun state => state.server.Consistent ∧
      state.server.GoodUntil session sess.realmID machine.server.now (machine.server.now + sessionTTL)) ?_ ?_
    · exact ⟨change_consistent consistent fresh (step_change taken), good⟩
    intro state _ _ holds allowed step
    exact ⟨change_consistent holds.1 allowed.1 (step_change step), change_good (step_change step) allowed.2 holds.2⟩
  exact good_found both.1 both.2 early

theorem heartbeat_after_deregistration :
    ∃ before extended final sess,
      execute (realmStep oneAddress) (startMachine 0 oneUser) [registerHome 0 "s1" 7,
        .authenticate 1 "Bearer s1" "home" (.heartbeat .empty), .authenticate 2 "Bearer s1" "home" .deregister,
        .handle 2 0] = some before ∧
      realmStep oneAddress before (.handle 1 0) = some extended ∧
      realmStep oneAddress extended (.acknowledge 1) = some final ∧
      final.answers 1 = some (.ttl 60) ∧
      before.server.heap 7 = some sess ∧ sess.closed = true ∧
      before.server.realms.lookup "home" = none ∧ final.server.findRealm "home" = none :=
  ⟨_, _, _, _, rfl, rfl, rfl, rfl, rfl, rfl, rfl, rfl⟩

theorem heartbeat_of_open_session :
    ∃ machine result found,
      execute (realmStep oneAddress) (startMachine 0 oneUser) [registerHome 0 "s1" 7,
        .authenticate 1 "Bearer s1" "home" (.heartbeat .empty)] = some machine ∧
      realmStep oneAddress machine (.handle 1 0) = some result ∧
      result.server.findRealm "home" = some (7, found) := by
  have registered : Run (realmStep oneAddress) (HeartbeatsSettled oneAddress) (startMachine 0 oneUser) _ :=
    Run.next (registerHome 0 "s1" 7) Run.refl
      ⟨fun _ _ _ _ stored => (by cases stored), fun _ removed => (by cases removed)⟩ rfl
  have authenticated : Run (realmStep oneAddress) (HeartbeatsSettled oneAddress) (startMachine 0 oneUser) _ :=
    Run.next (.authenticate 1 "Bearer s1" "home" (.heartbeat .empty)) registered
      ⟨fun _ drawn => (by cases drawn), fun _ removed => (by cases removed)⟩ rfl
  obtain ⟨_, _, stored, _, _, later⟩ :=
    heartbeats_belong_to_registrations oneAddress 0 oneUser _ authenticated 1 7 0 .empty ⟨none, none⟩ _ rfl rfl rfl
  cases stored
  obtain ⟨found, reached⟩ := later _ Run.refl (Nat.le_add_right 0 sessionTTL)
  exact ⟨_, _, found, rfl, rfl, reached⟩

end OtunKernel.Realm
