import OtunKernel.Realm.Change

namespace OtunKernel.Realm

open Lib Server

def Server.sessionsOf (server : Server) (username : String) : Nat :=
  tally server.sessions (fun address => (server.heap address).any (fun sess => sess.username = username))

-- Every entry of the tables is an open session under its own name. This holds
-- whatever session ids are drawn.
structure Server.Tabled (server : Server) : Prop where
  listed : ∀ key address, server.sessions.lookup key = some address →
    ∃ sess, server.heap address = some sess ∧ sess.closed = false ∧ sess.id = key
  named : ∀ id address, server.realms.lookup id = some address →
    ∃ sess, server.heap address = some sess ∧ sess.closed = false ∧ sess.realmID = id

structure Server.Consistent (server : Server) : Prop where
  tabled : server.Tabled
  present : ∀ address sess, server.heap address = some sess → sess.closed = false →
    server.sessions.lookup sess.id = some address
  registered : ∀ address sess, server.heap address = some sess → sess.closed = false →
    server.realms.lookup sess.realmID = some address
  counts : Counts server.userCounts server.sessionsOf

section
variable {server result : Server} {address : Nat}

structure Standing where
  id : String
  realmID : String
  username : String
  closed : Bool

def RealmSession.standing (sess : RealmSession) : Standing := ⟨sess.id, sess.realmID, sess.username, sess.closed⟩

structure Server.SameTables (server result : Server) : Prop where
  realms : result.realms = server.realms
  sessions : result.sessions = server.sessions
  userCounts : result.userCounts = server.userCounts
  standings : SameView RealmSession.standing server.heap result.heap

theorem same_standing {before after : Nat → Option RealmSession} {sess : RealmSession}
    (same : SameView RealmSession.standing before after) (stored : before address = some sess) :
    ∃ next, after address = some next ∧ next.id = sess.id ∧ next.realmID = sess.realmID ∧
      next.username = sess.username ∧ next.closed = sess.closed := by
  obtain ⟨next, found, equal⟩ := same_view_some (same_view_symm same) stored
  grind [RealmSession.standing]

section
variable (same : server.SameTables result)
include same

theorem same_tables_sessions_of (username : String) : result.sessionsOf username = server.sessionsOf username := by
  unfold sessionsOf
  rw [same.sessions]
  refine tally_congr (fun _ address _ => ?_)
  cases stored : server.heap address with
  | none =>
    have absent := same.standings address
    rw [stored] at absent
    rw [Option.map_eq_none_iff.mp absent]
  | some =>
    obtain ⟨_, found, _, _, equal, _⟩ := same_standing same.standings stored
    rw [found, Option.any_some, Option.any_some, equal]

theorem tabled_same (tabled : server.Tabled) : result.Tabled := by
  constructor
  · intro key address found
    rw [same.sessions] at found
    obtain ⟨sess, stored, opened, named⟩ := tabled.listed key address found
    obtain ⟨next, storedNext, id, _, _, closed⟩ := same_standing same.standings stored
    grind
  intro id address found
  rw [same.realms] at found
  obtain ⟨_, stored, opened, named⟩ := tabled.named id address found
  obtain ⟨next, storedNext, _, realm, _, closed⟩ := same_standing same.standings stored
  grind

theorem consistent_same (consistent : server.Consistent) : result.Consistent := by
  have back := same_view_symm same.standings
  refine ⟨tabled_same same consistent.tabled, ?_, ?_, ?_⟩
  · intro address sess stored opened
    obtain ⟨old, storedOld, id, _, _, closed⟩ := same_standing back stored
    grind [same.sessions, consistent.present]
  · intro address sess stored opened
    obtain ⟨old, storedOld, _, realm, _, closed⟩ := same_standing back stored
    grind [same.realms, consistent.registered]
  intro username
  simpa [same.userCounts, same_tables_sessions_of same] using consistent.counts username

end

theorem quiet_same_tables (quiet : server.Quiet result) : server.SameTables result := by
  refine ⟨quiet.realms, quiet.sessions, quiet.userCounts, ?_⟩
  intro address
  have equal := congrArg (Option.map (fun lease => (⟨lease.id, lease.realmID, lease.username, lease.closed⟩ : Standing)))
    (quiet.leases address)
  rw [Option.map_map, Option.map_map] at equal
  exact equal

variable {lag : Nat}

theorem extend_same_tables {request : RegisterRequest} (done : server.extend address request lag = some result) :
    server.SameTables result := by
  obtain ⟨_, stored, same⟩ := Option.map_eq_some_iff.mp done
  cases same
  exact ⟨rfl, rfl, rfl, same_view_put stored rfl⟩

theorem fire_same_tables (done : server.fire address = some result) : server.SameTables result := by
  obtain ⟨_, _, stored, _, _, same⟩ := fire_some done
  rw [same]
  exact ⟨rfl, rfl, rfl, same_view_put stored rfl⟩

variable {user : RealmUser} {id sessionID : String} {addresses relay : List String}

theorem enroll_tabled (tabled : server.Tabled) (unused : server.heap address = none) :
    (server.enroll user id addresses relay sessionID address lag).Tabled := by
  have kept : ∀ {other sess}, server.heap other = some sess →
      (server.enroll user id addresses relay sessionID address lag).heap other = some sess := by
    intro other sess stored
    refine (put_other _ _ _ _ ?_).trans stored
    intro same
    simp [same, unused] at stored
  constructor
  · intro key other found
    rcases lookup_insert_eq_some.mp found with ⟨named, same⟩ | ⟨_, older⟩
    · exact ⟨_, by rw [← same]; exact put_same _ _ _, rfl, named.symm⟩
    obtain ⟨sess, stored, rest⟩ := tabled.listed key other older
    grind
  intro name other found
  rcases lookup_insert_eq_some.mp found with ⟨named, same⟩ | ⟨_, older⟩
  · exact ⟨_, by rw [← same]; exact put_same _ _ _, rfl, named.symm⟩
  obtain ⟨sess, stored, rest⟩ := tabled.named name other older
  grind

theorem enroll_consistent (consistent : server.Consistent) (unused : server.heap address = none)
    (free : server.realms.lookup id = none) (fresh : ∀ other sess, server.heap other = some sess → sess.id ≠ sessionID) :
    (server.enroll user id addresses relay sessionID address lag).Consistent := by
  have absent : server.sessions.lookup sessionID = none := by
    cases found : server.sessions.lookup sessionID with
    | none => rfl
    | some other =>
      obtain ⟨sess, stored, _, named⟩ := consistent.tabled.listed sessionID other found
      grind
  refine ⟨enroll_tabled consistent.tabled unused, ?_, ?_, ?_⟩
  · intro other sess stored opened
    rcases put_eq_some.mp stored with ⟨same, new⟩ | ⟨_, older⟩
    · cases new
      rw [same]
      exact AList.lookup_insert _
    · exact (AList.lookup_insert_ne (fresh other sess older)).trans (consistent.present other sess older opened)
  · intro other sess stored opened
    rcases put_eq_some.mp stored with ⟨same, new⟩ | ⟨_, older⟩
    · cases new
      rw [same]
      exact AList.lookup_insert _
    have held := consistent.registered other sess older opened
    have different : sess.realmID ≠ id := by grind
    exact (AList.lookup_insert_ne different).trans held
  apply counts_increment consistent.counts
  intro username
  unfold sessionsOf
  rw [enroll, tally_insert absent]
  have own : ((put server.heap address (server.newSession sessionID id user addresses relay lag)) address).any
      (fun sess => sess.username = username) = decide (username = user.name) := by
    rw [put_same]
    exact decide_eq_decide.mpr eq_comm
  rw [own]
  simp only [decide_eq_true_eq]
  congr 1
  refine tally_congr (fun key other found => ?_)
  obtain ⟨_, stored, _⟩ := consistent.tabled.listed key other found
  grind

theorem remove_cases (done : server.removeSessionLocked address = some result) :
    ∃ sess, server.heap address = some sess ∧
      (sess.closed = true ∧ result = server ∨
        sess.closed = false ∧ ∃ last channels, last.closed = true ∧ last.timer = none ∧ last.id = sess.id ∧
          last.realmID = sess.realmID ∧ last.username = sess.username ∧
          result = { server with
            heap := put server.heap address last
            realms :=
              if server.realms.lookup sess.realmID = some address then server.realms.erase sess.realmID
              else server.realms
            userCounts :=
              if (server.sessions.lookup sess.id).isSome then decrement server.userCounts sess.username
              else server.userCounts
            sessions := server.sessions.erase sess.id
            channels := channels }) := by
  obtain ⟨sess, stored, rest⟩ := Option.bind_eq_some_iff.mp done
  refine ⟨sess, stored, ?_⟩
  split at rest
  · simp_all
  rename_i opened
  obtain ⟨ended, _, later⟩ := Option.bind_eq_some_iff.mp rest
  obtain ⟨events, _, last⟩ := Option.bind_eq_some_iff.mp later
  obtain ⟨channels, _, same⟩ := Option.map_eq_some_iff.mp last
  grind

theorem remove_tabled (tabled : server.Tabled) (done : server.removeSessionLocked address = some result) : result.Tabled := by
  obtain ⟨_, stored, ⟨_, same⟩ | ⟨_, _, _, _, _, _, _, _, same⟩⟩ := remove_cases done
  · simp [same, tabled]
  rw [same]
  constructor
  · intro key other found
    obtain ⟨different, older⟩ := lookup_erase_eq_some.mp found
    obtain ⟨old, storedOld, openedOld, named⟩ := tabled.listed key other older
    refine ⟨old, (put_other _ _ _ _ ?_).trans storedOld, openedOld, named⟩
    intro here
    rw [here, stored] at storedOld
    cases storedOld
    exact different named.symm
  intro id other found
  have older : server.realms.lookup id = some other := by grind [lookup_erase_eq_some]
  obtain ⟨old, storedOld, openedOld, named⟩ := tabled.named id other older
  refine ⟨old, (put_other _ _ _ _ ?_).trans storedOld, openedOld, named⟩
  intro here
  rw [here, stored] at storedOld
  cases storedOld
  rw [here, ← named] at older
  rw [if_pos older, ← named, AList.lookup_erase] at found
  contradiction

theorem remove_consistent (consistent : server.Consistent) (done : server.removeSessionLocked address = some result) :
    result.Consistent := by
  have tabled := remove_tabled consistent.tabled done
  obtain ⟨sess, stored, ⟨_, same⟩ | ⟨opened, _, _, closed, _, _, _, _, same⟩⟩ := remove_cases done
  · simp_all
  have inSessions := consistent.present address sess stored opened
  rw [inSessions] at same
  rw [same] at tabled ⊢
  refine ⟨tabled, ?_, ?_, ?_⟩
  iterate 2
    intro other old storedOld openedOld
    rcases put_eq_some.mp storedOld with ⟨_, new⟩ | ⟨elsewhere, older⟩
    · simp_all
    have found := consistent.present other old older openedOld
    have filed := consistent.registered other old older openedOld
    grind [AList.lookup_erase_ne]
  apply counts_decrement consistent.counts
  intro username
  unfold sessionsOf
  rw [tally_erase inSessions]
  grind

theorem close_all_invariant {order : List Nat} {holds : Server → Prop}
    (step : ∀ address server result, holds server → server.removeSessionLocked address = some result → holds result)
    (initially : holds server) (done : server.closeAll order = some result) : holds result := by
  induction order generalizing server with
  | nil =>
    cases done
    exact initially
  | cons address _ ih =>
    obtain ⟨middle, removed, later⟩ := Option.bind_eq_some_iff.mp done
    exact ih (step address server middle initially removed) later

variable {token : String}

-- A token that was issued to a session and has left the table.
def Server.Revoked (server : Server) (token : String) : Prop :=
  (∃ address sess, server.heap address = some sess ∧ sess.id = token) ∧ server.sessions.lookup token = none

theorem same_tables_revoked (revoked : server.Revoked token) (same : server.SameTables result) : result.Revoked token := by
  obtain ⟨⟨address, _, stored, named⟩, gone⟩ := revoked
  obtain ⟨next, found, id, _⟩ := same_standing same.standings stored
  exact ⟨⟨address, next, found, id.trans named⟩, by rw [same.sessions, gone]⟩

theorem remove_revoked (revoked : server.Revoked token) (done : server.removeSessionLocked address = some result) :
    result.Revoked token := by
  obtain ⟨sess, stored, ⟨_, same⟩ | ⟨_, _, _, _, _, id, _, _, same⟩⟩ := remove_cases done
  · rwa [same]
  obtain ⟨⟨issued, _, _, _⟩, gone⟩ := revoked
  rw [same]
  refine ⟨⟨issued, ?_⟩, ?_⟩
  · by_cases here : issued = address <;> grind
  by_cases named : token = sess.id
  · rw [named]
    exact AList.lookup_erase _ _
  · exact (AList.lookup_erase_ne named).trans gone

end

def FreshSessionIDs (machine : Machine) (event : RealmStep) : Prop :=
  ∀ sessionID, event.drawn = some sessionID →
    ∀ address sess, machine.server.heap address = some sess → sess.id ≠ sessionID

section
variable {parseAddrPort : String → Bool} {machine result : Machine} {event : RealmStep}
  {server : Server} {now : Nat} {tokenMap : String → Option RealmUser} {allowed : Machine → RealmStep → Prop}

theorem change_tabled (tabled : machine.server.Tabled) (change : Change parseAddrPort machine event server) : server.Tabled := by
  cases change with
  | quiet same => exact tabled_same (quiet_same_tables same) tabled
  | registered _ _ _ _ _ _ _ _ unused => exact enroll_tabled tabled unused
  | extended _ _ _ _ _ _ _ _ done =>
    exact tabled_same (extend_same_tables done) tabled
  | fired _ _ _ done => exact tabled_same (fire_same_tables done) tabled
  | removed done => exact close_all_invariant (fun _ _ _ before removed => remove_tabled before removed) tabled done

theorem change_consistent (consistent : machine.server.Consistent) (fresh : FreshSessionIDs machine event)
    (change : Change parseAddrPort machine event server) : server.Consistent := by
  cases change with
  | quiet same => exact consistent_same (quiet_same_tables same) consistent
  | registered _ _ _ _ sessionID _ _ drawn unused free =>
    exact enroll_consistent consistent unused free (fresh sessionID drawn)
  | extended _ _ _ _ _ _ _ _ done =>
    exact consistent_same (extend_same_tables done) consistent
  | fired _ _ _ done => exact consistent_same (fire_same_tables done) consistent
  | removed done =>
    exact close_all_invariant (fun _ _ _ before removed => remove_consistent before removed) consistent done

theorem change_revoked {token : String} (revoked : machine.server.Revoked token) (fresh : FreshSessionIDs machine event)
    (change : Change parseAddrPort machine event server) : server.Revoked token := by
  cases change with
  | quiet same => exact same_tables_revoked revoked (quiet_same_tables same)
  | registered _ _ _ _ _ _ _ drawn unused =>
    -- The session id that is drawn is not the token, which its old session still has.
    obtain ⟨⟨issued, old, stored, named⟩, gone⟩ := revoked
    have other := fresh _ drawn issued old stored
    rw [named] at other
    exact ⟨⟨issued, old, (put_other _ _ _ _ (by grind)).trans stored, named⟩, (AList.lookup_insert_ne other).trans gone⟩
  | extended _ _ _ _ _ _ _ _ done => exact same_tables_revoked revoked (extend_same_tables done)
  | fired _ _ _ done => exact same_tables_revoked revoked (fire_same_tables done)
  | removed done => exact close_all_invariant (fun _ _ _ before removed => remove_revoked before removed) revoked done

theorem start_tabled (now : Nat) (tokenMap : String → Option RealmUser) : (startMachine now tokenMap).server.Tabled := by
  constructor
  · intro _ address found
    cases found
  intro _ address found
  cases found

theorem start_consistent_tables (now : Nat) (tokenMap : String → Option RealmUser) :
    (startMachine now tokenMap).server.Consistent := by
  refine ⟨start_tabled now tokenMap, ?_, ?_, ?_⟩
  · intro address sess stored
    cases stored
  · intro address sess stored
    cases stored
  intro _
  rfl

theorem run_tabled (run : Run (realmStep parseAddrPort) allowed (startMachine now tokenMap) machine) : machine.server.Tabled :=
  run.invariant (fun machine => machine.server.Tabled) (start_tabled now tokenMap)
    (fun _ _ _ tabled _ taken => change_tabled tabled (step_change taken))

theorem run_consistent_tables (fresh : ∀ machine event, allowed machine event → FreshSessionIDs machine event)
    (run : Run (realmStep parseAddrPort) allowed (startMachine now tokenMap) machine) : machine.server.Consistent :=
  run.invariant (fun machine => machine.server.Consistent) (start_consistent_tables now tokenMap)
    (fun machine event _ consistent permitted taken =>
      change_consistent consistent (fresh machine event permitted) (step_change taken))

theorem admitted_within_quota {goroutine address lag : Nat} {header id : String} {body : Body RegisterRequest}
    {entropy : Option String} {user : RealmUser} {sessionID : String} {ttl : Nat}
    (taken : realmStep parseAddrPort machine (.register goroutine header id body entropy address lag) = some result)
    (known : machine.server.authUser header = some user) (limited : 0 < user.maxRealms)
    (succeeded : result.answers goroutine = some (.registered sessionID ttl)) :
    ∃ count, result.server.userCounts.lookup user.name = some count ∧ count ≤ user.maxRealms := by
  rw [realmStep] at taken
  split at taken
  · contradiction
  have outcome := handle_register_outcome parseAddrPort machine goroutine header id body entropy address lag
  rw [Option.some.inj taken] at outcome
  cases outcome with
  | rejected | taken | full | failed => simp [Machine.finish] at succeeded
  | admitted _ _ _ _ knownOther _ _ quota =>
    rw [known] at knownOther
    cases knownOther
    refine ⟨_, AList.lookup_insert _, ?_⟩
    omega

theorem realm_tables_consistent (parseAddrPort : String → Bool) (now : Nat) (tokenMap : String → Option RealmUser)
    (machine : Machine)
    (run : Run (realmStep parseAddrPort) FreshSessionIDs (startMachine now tokenMap) machine) :
    (∀ id address, machine.server.realms.lookup id = some address ↔
      ∃ sess, machine.server.heap address = some sess ∧ sess.closed = false ∧ sess.realmID = id ∧
        machine.server.sessions.lookup sess.id = some address) ∧
    (∀ key address,
      machine.server.realms.lookup key = some address ∨ machine.server.sessions.lookup key = some address →
        ∃ sess, machine.server.heap address = some sess ∧ sess.closed = false) ∧
    (∀ username, machine.server.userCounts.lookup username =
      if machine.server.sessionsOf username = 0 then none else some (machine.server.sessionsOf username : Int)) ∧
    (∀ goroutine header id body entropy address lag result user sessionID ttl,
      realmStep parseAddrPort machine (.register goroutine header id body entropy address lag) = some result →
        machine.server.authUser header = some user → 0 < user.maxRealms →
        result.answers goroutine = some (.registered sessionID ttl) →
        ∃ count, result.server.userCounts.lookup user.name = some count ∧ count ≤ user.maxRealms) := by
  have consistent := run_consistent_tables (fun _ _ fresh => fresh) run
  refine ⟨?_, ?_, consistent.counts, ?_⟩
  · intro id address
    constructor
    · intro found
      obtain ⟨sess, stored, opened, named⟩ := consistent.tabled.named id address found
      grind [consistent.present]
    · grind [consistent.registered]
  · intro key address found
    rcases found with inRealms | inSessions
    · obtain ⟨sess, stored, opened, _⟩ := consistent.tabled.named key address inRealms
      grind
    obtain ⟨sess, stored, opened, _⟩ := consistent.tabled.listed key address inSessions
    grind
  intro _ _ id _ _ address _ _ _ _ _ taken known limited succeeded
  exact admitted_within_quota taken known limited succeeded

def oneUser (token : String) : Option RealmUser := if token = "secret" then some ⟨"node", 1⟩ else none

def oneAddress (text : String) : Bool := text == "192.0.2.1:443"

def registerHome (goroutine : Nat) (sessionID : String) (address : Nat) : RealmStep :=
  .register goroutine "Bearer secret" "home" (.decoded ⟨some ["192.0.2.1:443"], none⟩) (some sessionID) address 0

theorem registered_realm_counted :
    ∃ machine, realmStep oneAddress (startMachine 0 oneUser) (registerHome 0 "s1" 7) = some machine ∧
      machine.server.userCounts.lookup "node" = some 1 ∧
      ∃ sess, machine.server.heap 7 = some sess ∧ sess.closed = false ∧ sess.realmID = "home" ∧
        machine.server.sessions.lookup sess.id = some 7 := by
  have run : Run (realmStep oneAddress) FreshSessionIDs (startMachine 0 oneUser) _ :=
    Run.next (registerHome 0 "s1" 7) Run.refl (fun _ _ _ _ stored => by cases stored) rfl
  obtain ⟨realms, _, _, _⟩ := realm_tables_consistent oneAddress 0 oneUser _ run
  exact ⟨_, rfl, rfl, (realms "home" 7).mp rfl⟩

theorem revoked_token_stays_revoked (parseAddrPort : String → Bool) (now : Nat) (tokenMap : String → Option RealmUser)
    (machine later : Machine) (token : String)
    (run : Run (realmStep parseAddrPort) FreshSessionIDs (startMachine now tokenMap) machine)
    (revoked : machine.server.Revoked token) (onwards : Run (realmStep parseAddrPort) FreshSessionIDs machine later) :
    (∀ header id, bearerToken header = some token → later.server.authSession header id = none) ∧
      ∀ id address sess, later.server.findRealm id = some (address, sess) → sess.id ≠ token := by
  have consistent := run_consistent_tables (fun _ _ fresh => fresh) (run.trans onwards)
  obtain ⟨_, gone⟩ := onwards.invariant (fun machine => machine.server.Revoked token) revoked
    (fun _ _ _ before fresh taken => change_revoked before fresh (step_change taken))
  constructor
  · intro header id bears
    simp [authSession, bears, getSessionByToken, gone]
  intro id address sess found named
  have opened : sess.closed = false := by grind [findRealm]
  have present := consistent.present address sess (find_realm_allocated found) opened
  rw [named, gone] at present
  contradiction

theorem deregistered_token_refused : ∃ machine,
    execute (realmStep oneAddress) (startMachine 0 oneUser) [registerHome 0 "s1" 7, .authenticate 1 "Bearer s1" "home" .deregister,
      .handle 1 0, .tick 5] = some machine ∧ machine.server.authSession "Bearer s1" "home" = none := by
  have run : Run (realmStep oneAddress) FreshSessionIDs (startMachine 0 oneUser) _ :=
    .next (.handle 1 0) (.next (.authenticate 1 "Bearer s1" "home" .deregister) (.next (registerHome 0 "s1" 7) .refl
      (fun _ _ _ _ stored => by cases stored) rfl) (fun _ drawn => by cases drawn) rfl) (fun _ drawn => by cases drawn) rfl
  have refused := revoked_token_stays_revoked oneAddress 0 oneUser _ _ "s1" run ⟨⟨7, _, rfl, rfl⟩, rfl⟩
    (.next (.tick 5) .refl (fun _ drawn => by cases drawn) rfl)
  exact ⟨_, rfl, refused.1 "Bearer s1" "home" (by decide)⟩

end
end OtunKernel.Realm
