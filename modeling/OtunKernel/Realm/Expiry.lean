import OtunKernel.Realm.Attempts

namespace OtunKernel.Realm

open Lib RealmSession Machine Server

def ChecksInTime (machine : Machine) (event : RealmStep) : Prop :=
  ∀ goroutine session sess, event = .expire goroutine →
    machine.goroutines goroutine = some (.expiring session) → machine.server.heap session = some sess →
    sess.closed = false → sess.expires = machine.server.now →
    sess.timer ≠ none ∨ ∃ other, other ≠ goroutine ∧ machine.goroutines other = some (.expiring session)

structure Machine.Watched (machine : Machine) : Prop where
  armed : ∀ session sess deadline, machine.server.heap session = some sess → sess.closed = false →
    sess.timer = some deadline → sess.expires ≤ deadline
  covered : ∀ session sess, machine.server.heap session = some sess → sess.closed = false →
    sess.timer ≠ none ∨
      ∃ goroutine, machine.goroutines goroutine = some (.expiring session) ∧ sess.expires ≤ machine.server.now

variable {parseAddrPort : String → Bool} {machine result : Machine}

section
variable {event : RealmStep} {goroutine session address : Nat} {server : Server} {next sess : RealmSession}

theorem expiring_kept (taken : realmStep parseAddrPort machine event = some result)
    (phase : machine.goroutines goroutine = some (.expiring session)) (other : event ≠ .expire goroutine) :
    result.goroutines goroutine = some (.expiring session) := by
  refine (step_others taken ?_).trans phase
  intro acts
  cases event <;> simp_all [RealmStep.actor, realmStep]

theorem change_now (change : Change parseAddrPort machine event server) : machine.server.now ≤ server.now := by
  cases change with
  | quiet same => exact same.now
  | registered => exact Nat.le_add_right _ _
  | extended _ _ _ _ _ _ _ _ done =>
    obtain ⟨_, _, same⟩ := Option.map_eq_some_iff.mp done
    cases same
    exact Nat.le_add_right _ _
  | fired _ _ _ done =>
    obtain ⟨_, _, _, _, _, same⟩ := fire_some done
    rw [same]
  | removed done => exact Nat.le_of_eq (close_all_now done).symm

theorem remove_closed {next : Server} (done : server.removeSessionLocked address = some next)
    (stored : next.heap address = some sess) : sess.closed = true := by
  obtain ⟨_, storedOld, ⟨closed, same⟩ | ⟨_, last, _, closed, _, _, _, _, same⟩⟩ := remove_cases done
  · simp_all
  rw [same] at stored
  have written : put server.heap address last address = some sess := stored
  rw [put_same] at written
  cases written
  exact closed

theorem close_all_closed {next : Server} {order : List Nat} (done : server.closeAll order = some next)
    (member : address ∈ order) (stored : next.heap address = some sess) : sess.closed = true := by
  induction order generalizing server with
  | nil => contradiction
  | cons first rest ih =>
    obtain ⟨middle, removed, later⟩ := Option.bind_eq_some_iff.mp done
    by_cases again : address ∈ rest
    · exact ih later again
    have same : address = first := by grind
    subst same
    have untouched : next.heap address = middle.heap address := close_all_others later again
    rw [untouched] at stored
    exact remove_closed removed stored

theorem expired_callback_removes (taken : realmStep parseAddrPort machine (.expire goroutine) = some result)
    (phase : machine.goroutines goroutine = some (.expiring session)) (stored : machine.server.heap session = some sess)
    (late : sess.expires < machine.server.now) (opened : sess.closed = false)
    (storedNext : result.server.heap session = some next) (openedNext : next.closed = false) :
    result.goroutines goroutine = some (.expiring session) := by
  rw [realmStep, phase] at taken
  dsimp only at taken
  cases done : machine.server.removeExpiredSession session with
  | none =>
    rw [done] at taken
    cases taken
    exact phase
  | some =>
    rw [done] at taken
    cases taken
    obtain ⟨_, storedOld, ⟨stays, _⟩ | ⟨_, _, removed⟩⟩ := remove_expired_cases done
    · simp_all
    have closed := remove_closed removed storedNext
    simp [openedNext] at closed

theorem change_lease (change : Change parseAddrPort machine event server) (stored : server.heap session = some next)
    (opened : next.closed = false) : (∃ sess, machine.server.heap session = some sess ∧ sess.lease = next.lease) ∨
      (∃ deadline, next.timer = some deadline ∧ next.expires ≤ deadline) ∨
      (next.timer = none ∧ ∃ goroutine sess deadline, event = .fire session goroutine ∧
        machine.server.heap session = some sess ∧ sess.closed = false ∧ sess.timer = some deadline ∧
        deadline ≤ server.now ∧ next.expires = sess.expires) := by
  cases change with
  | quiet same => exact .inl (same_view_some same.leases stored)
  | registered _ _ _ _ _ _ lag =>
    rcases put_eq_some.mp stored with ⟨_, new⟩ | ⟨_, older⟩
    · rw [← new]
      refine .inr (.inl ⟨machine.server.now + lag + sessionTTL, rfl, ?_⟩)
      exact Nat.add_le_add_right (Nat.le_add_right _ _) _
    · grind
  | extended _ _ _ _ lag _ _ _ done =>
    obtain ⟨sess, storedOld, same⟩ := Option.map_eq_some_iff.mp done
    cases same
    grind
  | fired _ goroutine firing done =>
    obtain ⟨sess, deadline, storedOld, armed, passed, same⟩ := fire_some done
    cases same
    grind
  | removed done =>
    by_cases gone : session ∈ machine.removals event
    · simp [close_all_closed done gone stored] at opened
    rw [close_all_others done gone] at stored
    grind

theorem fired_expiring (taken : realmStep parseAddrPort machine (.fire address goroutine) = some result) :
    result.goroutines goroutine = some (.expiring address) := by
  rw [realmStep] at taken
  split at taken
  · contradiction
  obtain ⟨_, _, same⟩ := Option.map_eq_some_iff.mp taken
  cases same
  exact put_same _ _ _

section
variable (watched : machine.Watched) (timely : ChecksInTime machine event)
  (taken : realmStep parseAddrPort machine event = some result)
include watched timely taken

theorem covered_unmoved (stored : machine.server.heap session = some sess)
    (opened : sess.closed = false) (storedNext : result.server.heap session = some next) (openedNext : next.closed = false) :
    sess.timer ≠ none ∨ ∃ goroutine, result.goroutines goroutine = some (.expiring session) ∧ sess.expires ≤ result.server.now := by
  have clock := change_now (step_change taken)
  rcases watched.covered session sess stored opened with armed | ⟨goroutine, phase, expired⟩
  · exact .inl armed
  by_cases own : event = .expire goroutine
  · by_cases late : sess.expires < machine.server.now
    · refine .inr ⟨goroutine, ?_, by omega⟩
      grind [expired_callback_removes]
    have instant : sess.expires = machine.server.now := by omega
    rcases timely goroutine session sess own phase stored opened instant with armed | ⟨other, different, waiting⟩
    · exact .inl armed
    refine .inr ⟨other, expiring_kept taken waiting ?_, by omega⟩
    intro same
    rw [own] at same
    cases same
    exact different rfl
  · exact .inr ⟨goroutine, expiring_kept taken phase own, by omega⟩

theorem step_watched : result.Watched := by
  have change := step_change taken
  constructor
  · intro session next deadline stored opened timer
    rcases change_lease change stored opened with ⟨sess, storedOld, same⟩ | ⟨later, renewed, within⟩ | ⟨disarmed, _⟩
    · simp only [lease, Lease.mk.injEq] at same
      obtain ⟨_, _, _, closed, expires, sameTimer⟩ := same
      simpa [← expires] using watched.armed session sess deadline storedOld (closed.trans opened) (sameTimer.trans timer)
    · simp_all
    · simp_all
  intro session next stored opened
  rcases change_lease change stored opened with ⟨sess, storedOld, same⟩ | ⟨later, renewed, _⟩ |
    ⟨_, goroutine, sess, deadline, firing, storedOld, openedOld, armed, passed, expires⟩
  · simp only [lease, Lease.mk.injEq] at same
    obtain ⟨_, _, _, closed, expires, sameTimer⟩ := same
    simpa [← expires, ← sameTimer] using covered_unmoved watched timely taken storedOld (closed.trans opened) stored opened
  · simp [renewed]
  subst firing
  have within := watched.armed session sess deadline storedOld openedOld armed
  exact .inr ⟨goroutine, fired_expiring taken, by omega⟩

end

theorem run_watched {now : Nat} {tokenMap : String → Option RealmUser}
    (run : Run (realmStep parseAddrPort) ChecksInTime (startMachine now tokenMap) machine) : machine.Watched := by
  refine run.invariant Machine.Watched ⟨?_, ?_⟩ (fun _ _ _ watched timely taken => step_watched watched timely taken)
  · intro session sess _ stored
    cases stored
  intro session sess stored
  cases stored

end

def Machine.Guards (machine : Machine) (session : Nat) (sess : RealmSession) : Prop :=
  (∃ deadline, sess.timer = some deadline) ∨
    ∃ goroutine, machine.goroutines goroutine = some (.expiring session) ∧
      ∀ elapsed, machine.server.now + elapsed ≠ sess.expires → ∃ server,
        Server.removeExpiredSession { machine.server with now := machine.server.now + elapsed } session =
          some (server, true)

section
variable {sess : RealmSession} {session : Nat}

theorem late_session_removed {server : Server} (sound : server.Sound)
    (stored : server.heap session = some sess) (opened : sess.closed = false) (late : sess.expires < server.now) :
    ∃ next, server.removeExpiredSession session = some (next, true) := by
  obtain ⟨next, done, _, _⟩ := remove_session_sound sound (Option.isSome_of_eq_some stored)
  refine ⟨next, ?_⟩
  rw [removeExpiredSession, stored, Option.bind_some, if_neg (by simp [opened, late]), done, Option.map_some]

theorem watched_guards (watched : machine.Watched) (sound : machine.Sound)
    (stored : machine.server.heap session = some sess) (opened : sess.closed = false) : machine.Guards session sess := by
  rcases watched.covered session sess stored opened with armed | ⟨goroutine, phase, expired⟩
  · exact .inl (Option.ne_none_iff_exists'.mp armed)
  refine .inr ⟨goroutine, phase, ?_⟩
  intro elapsed different
  have later : Server.Sound { machine.server with now := machine.server.now + elapsed } :=
    ⟨sound.server.tabled, sound.server.running, sound.server.waiting, sound.server.separate, sound.server.bounded⟩
  have late : sess.expires < machine.server.now + elapsed := by omega
  exact late_session_removed later stored opened late

theorem refused_name_held {goroutine address lag : Nat} {header id : String} {body : Body RegisterRequest}
    {entropy : Option String}
    (taken : realmStep parseAddrPort machine (.register goroutine header id body entropy address lag) = some result)
    (refused : result.answers goroutine = some (.error 409 "realm_taken" "realm already registered")) :
    ∃ held, machine.server.realms.lookup id = some held := by
  rw [realmStep] at taken
  split at taken
  · contradiction
  have outcome := handle_register_outcome parseAddrPort machine goroutine header id body entropy address lag
  rw [Option.some.inj taken] at outcome
  cases outcome with
  | rejected => simp_all [finish, put_same, Option.some.injEq, Response.error.injEq]
  | taken held present => exact ⟨held, present⟩
  | full | failed | admitted => simp [finish] at refused

theorem tabled_sessions_guarded (parseAddrPort : String → Bool) (now : Nat) (tokenMap : String → Option RealmUser)
    (machine : Machine) (run : Run (realmStep parseAddrPort) ChecksInTime (startMachine now tokenMap) machine) :
    (∀ key session,
      machine.server.realms.lookup key = some session ∨ machine.server.sessions.lookup key = some session →
        ∃ sess, machine.server.heap session = some sess ∧ machine.Guards session sess) ∧
    (∀ goroutine header id body entropy address lag result,
      realmStep parseAddrPort machine (.register goroutine header id body entropy address lag) = some result →
        result.answers goroutine = some (.error 409 "realm_taken" "realm already registered") →
        ∃ held sess, machine.server.realms.lookup id = some held ∧ machine.server.heap held = some sess ∧
          machine.Guards held sess) := by
  have watched := run_watched run
  have sound := run_sound_channels run
  have tabled := run_tabled run
  grind [tabled.named, watched_guards, tabled.listed, refused_name_held]

theorem session_kept_at_its_instant :
    ∃ machine sess refused,
      execute (realmStep oneAddress) (startMachine 0 oneUser)
        [registerHome 0 "s1" 7, .tick sessionTTL, .fire 7 1, .expire 1, .tick (100 * sessionTTL)] = some machine ∧
      machine.server.realms.lookup "home" = some 7 ∧ machine.server.heap 7 = some sess ∧ sess.timer = none ∧
      sess.expires < machine.server.now ∧ (∀ goroutine, machine.goroutines goroutine = none) ∧
      realmStep oneAddress machine (registerHome 2 "s2" 8) = some refused ∧
      refused.answers 2 = some (.error 409 "realm_taken" "realm already registered") := by
  refine ⟨_, _, _, rfl, rfl, rfl, rfl, by decide, ?_, rfl, rfl⟩
  intro goroutine
  change erase (put (erase (fun _ => none) 0) 1 (Goroutine.expiring 7)) 1 goroutine = none
  grind

theorem armed_after_registration :
    ∃ machine, realmStep oneAddress (startMachine 0 oneUser) (registerHome 0 "s1" 7) = some machine ∧
      ∃ sess, machine.server.heap 7 = some sess ∧ machine.Guards 7 sess := by
  have run : Run (realmStep oneAddress) ChecksInTime (startMachine 0 oneUser) _ :=
    Run.next (registerHome 0 "s1" 7) Run.refl (fun _ _ _ expiring => by cases expiring) rfl
  exact ⟨_, rfl, (tabled_sessions_guarded oneAddress 0 oneUser _ run).1 "home" 7 (.inl rfl)⟩

end
end OtunKernel.Realm
