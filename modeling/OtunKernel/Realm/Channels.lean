import OtunKernel.Realm.Heartbeat

namespace OtunKernel.Realm

open Lib Server

-- A channel in a pending map is open, empty and in no other place.
structure Server.Sound (server : Server) : Prop where
  tabled : ∀ key address, server.sessions.lookup key = some address → (server.heap address).isSome
  running : ∀ address sess, server.heap address = some sess → sess.closed = false →
    sess.done.closed = false ∧ sess.events.closed = false
  waiting : ∀ address sess nonce channel, server.heap address = some sess →
    sess.pending.lookup nonce = some channel → server.channels channel = some (Chan.make 1)
  separate : ∀ address other sess old nonce oldNonce channel, server.heap address = some sess →
    server.heap other = some old → sess.pending.lookup nonce = some channel →
    old.pending.lookup oldNonce = some channel → address = other ∧ nonce = oldNonce
  bounded : ∀ address sess, server.heap address = some sess → sess.pending.entries.length ≤ maxPendingAttempts

structure Server.Grows (server result : Server) : Prop where
  heap : ∀ address, (server.heap address).isSome → (result.heap address).isSome
  channels : ∀ channel, (server.channels channel).isSome → (result.channels channel).isSome

section
variable {server result : Server} {address : Nat} {sess changed : RealmSession}

theorem put_some {κ ν : Type} [DecidableEq κ] {map : κ → Option ν} {key other : κ} {value : ν}
    (present : (map other).isSome) : (put map key value other).isSome := by grind

theorem grows_refl (server : Server) : server.Grows server := ⟨fun _ present => present, fun _ present => present⟩

theorem grows_trans {middle : Server} (first : server.Grows middle) (second : middle.Grows result) : server.Grows result :=
  ⟨fun address present => second.heap address (first.heap address present),
    fun channel present => second.channels channel (first.channels channel present)⟩

theorem close_channels_spec (order : List Nat) (channels : Nat → Option (Chan (List String)))
    (ready : ∀ channel ∈ order, channels channel = some (Chan.make 1)) (distinct : order.Nodup) :
    ∃ result, Server.closeChannels channels order = some result ∧
      (∀ channel, channel ∉ order → result channel = channels channel) ∧
      (∀ channel stored, channels channel = some stored →
        ∃ closed, result channel = some closed ∧ closed.buffer = stored.buffer) := by
  induction order generalizing channels with
  | nil => exact ⟨channels, rfl, fun _ _ => rfl, fun _ stored found => ⟨stored, found, rfl⟩⟩
  | cons first rest ih =>
    have opened := ready first List.mem_cons_self
    obtain ⟨fresh, distinctRest⟩ := List.nodup_cons.mp distinct
    let closed : Chan (List String) := { (Chan.make 1 : Chan (List String)) with closed := true }
    have readyRest : ∀ channel ∈ rest, put channels first closed channel = some (Chan.make 1) := by grind
    obtain ⟨result, done, others, present⟩ := ih (put channels first closed) readyRest distinctRest
    refine ⟨result, ?_, ?_, ?_⟩
    · rw [closeChannels, opened]
      exact done
    · simp_all
    · grind

section
variable (sound : server.Sound)
include sound

section
variable (stored : server.heap address = some sess)
include stored

theorem sound_write (written : result.heap = put server.heap address changed)
    (running : changed.closed = false → changed.done.closed = false ∧ changed.events.closed = false)
    (fewer : ∀ nonce channel, changed.pending.lookup nonce = some channel → sess.pending.lookup nonce = some channel)
    (bounded : changed.pending.entries.length ≤ maxPendingAttempts)
    (kept : ∀ other old nonce channel, result.heap other = some old → old.pending.lookup nonce = some channel →
      result.channels channel = server.channels channel)
    (tabled : ∀ key other, result.sessions.lookup key = some other → server.sessions.lookup key = some other) : result.Sound := by
  have origin : ∀ {other old nonce channel}, result.heap other = some old → old.pending.lookup nonce = some channel →
      ∃ previous, server.heap other = some previous ∧ previous.pending.lookup nonce = some channel := by
    intro other old nonce channel storedOld found
    rw [written] at storedOld
    rcases put_eq_some.mp storedOld with ⟨same, new⟩ | ⟨_, older⟩
    · simp_all
    · grind
  refine ⟨?_, ?_, ?_, ?_, ?_⟩
  · intro key other found
    simpa [written] using put_some (sound.tabled key other (tabled key other found))
  · intro other old storedOld opened
    rw [written] at storedOld
    grind [put_eq_some, sound.running]
  · grind [sound.waiting]
  · grind [sound.separate]
  intro other old storedOld
  rw [written] at storedOld
  rcases put_eq_some.mp storedOld with ⟨_, new⟩ | ⟨_, older⟩
  · simp_all
  · exact sound.bounded other old older

theorem sound_update (written : result = { server with now := result.now, heap := put server.heap address changed })
    (running : changed.closed = false → changed.done.closed = false ∧ changed.events.closed = false)
    (fewer : changed.pending = sess.pending ∨ ∃ nonce, changed.pending = sess.pending.erase nonce) :
    result.Sound ∧ server.Grows result := by
  have heap : result.heap = put server.heap address changed := by rw [written]
  have channels : result.channels = server.channels := by rw [written]
  have sessions : result.sessions = server.sessions := by rw [written]
  have limit := sound.bounded address sess stored
  refine ⟨sound_write sound stored heap running ?_ ?_ ?_ ?_, ?_, ?_⟩
  · grind [lookup_erase_eq_some]
  · rcases fewer with same | ⟨erased, same⟩
    · rw [same]
      exact limit
    rw [same]
    exact Nat.le_trans (List.kerase_sublist erased sess.pending.entries).length_le limit
  · grind
  · grind
  · intro other present
    rw [heap]
    exact put_some present
  · grind

theorem pending_channels_distinct : (sess.pending.entries.map Sigma.snd).Nodup := by
  refine List.Nodup.map_on ?_ sess.pending.nodupKeys.nodup
  intro first memberFirst second memberSecond same
  obtain ⟨nonce, channel⟩ := first
  obtain ⟨other, otherChannel⟩ := second
  have sameChannel : channel = otherChannel := same
  subst sameChannel
  have foundFirst : sess.pending.lookup nonce = some channel := AList.mem_lookup_iff.mpr memberFirst
  have foundSecond : sess.pending.lookup other = some channel := AList.mem_lookup_iff.mpr memberSecond
  rw [(sound.separate address address sess sess nonce other channel stored stored foundFirst foundSecond).2]

theorem close_pending_channels :
    ∃ channels, Server.closeChannels server.channels (sess.pending.entries.map Sigma.snd) = some channels ∧
      (∀ channel, channel ∉ sess.pending.entries.map Sigma.snd → channels channel = server.channels channel) ∧
      (∀ channel old, server.channels channel = some old → ∃ closed, channels channel = some closed ∧ closed.buffer = old.buffer) := by
  refine close_channels_spec _ server.channels ?_ (pending_channels_distinct sound stored)
  grind [mem_values, sound.waiting]

end

theorem fire_sound (done : server.fire address = some result) :
    (result.Sound ∧ server.Grows result) ∧ (server.heap address).isSome := by
  obtain ⟨sess, _, stored, _, _, same⟩ := fire_some done
  grind [Option.isSome_of_eq_some, sound_update, sound.running]

section
variable (allocated : (server.heap address).isSome)
include allocated

theorem extend_sound (request : RegisterRequest)
    (lag : Nat) : ∃ result, server.extend address request lag = some result ∧ result.Sound ∧ server.Grows result := by
  obtain ⟨sess, stored⟩ := Option.isSome_iff_exists.mp allocated
  refine ⟨_, by rw [extend, stored, Option.map_some], ?_⟩
  grind [sound_update, sound.running]

theorem cancel_pending_sound (nonce : String) :
    ∃ result, server.cancelPending address nonce = some result ∧ result.Sound ∧ server.Grows result := by
  obtain ⟨sess, stored⟩ := Option.isSome_iff_exists.mp allocated
  refine ⟨_, by rw [cancelPending, stored, Option.map_some], ?_⟩
  grind [sound_update, sound.running]

theorem send_event_sound (event : RealmEvent) :
    ∃ result sent, server.sendEvent address event = some (result, sent) ∧ result.Sound ∧ server.Grows result := by
  obtain ⟨sess, stored⟩ := Option.isSome_iff_exists.mp allocated
  cases opened : sess.closed with
  | true =>
    refine ⟨server, false, ?_, sound, grows_refl server⟩
    simp [sendEvent, stored, opened]
  | false =>
    obtain ⟨_, events⟩ := sound.running address sess stored opened
    obtain ⟨_, sent, sending, stillOpen, _⟩ := try_send_open events event
    refine ⟨_, sent, by rw [sendEvent, stored, Option.bind_some, if_neg (by simp [opened]), sending,
      Option.map_some], ?_⟩
    grind [sound_update, sound.running]

theorem remove_session_sound : ∃ result, server.removeSessionLocked address = some result ∧ result.Sound ∧ server.Grows result := by
  obtain ⟨sess, stored⟩ := Option.isSome_iff_exists.mp allocated
  cases opened : sess.closed with
  | true =>
    refine ⟨server, ?_, sound, grows_refl server⟩
    simp [removeSessionLocked, stored, opened]
  | false =>
    obtain ⟨doneOpen, eventsOpen⟩ := sound.running address sess stored opened
    obtain ⟨_, closed, others, present⟩ := close_pending_channels sound stored
    refine ⟨_, by rw [removeSessionLocked, stored, Option.bind_some, if_neg (by simp [opened]),
      close_open doneOpen, Option.bind_some, close_open eventsOpen, Option.bind_some, closed, Option.map_some], ?_, ?_⟩
    · refine sound_write sound stored rfl ?_ ?_ (Nat.zero_le _) ?_ ?_
      · simp
      · simp
      · intro other old nonce channel storedOld found
        apply others channel
        intro member
        obtain ⟨own, foundOwn⟩ := mem_values.mp member
        rcases put_eq_some.mp storedOld with ⟨_, new⟩ | ⟨different, older⟩
        · simp [← new] at found
        · exact different (sound.separate other address old sess nonce own channel older stored found foundOwn).1
      · grind [lookup_erase_eq_some]
    refine ⟨fun other allocatedOther => put_some allocatedOther, ?_⟩
    grind [Option.isSome_iff_exists, Option.isSome_of_eq_some]

theorem remove_expired_sound : ∃ result removed, server.removeExpiredSession address = some (result, removed) ∧ result.Sound ∧
      server.Grows result := by
  obtain ⟨sess, stored⟩ := Option.isSome_iff_exists.mp allocated
  by_cases stays : (sess.closed || !decide (sess.expires < server.now)) = true
  · exact ⟨server, false, by rw [removeExpiredSession, stored, Option.bind_some, if_pos stays], sound, grows_refl server⟩
  obtain ⟨result, done, kept, grows⟩ := remove_session_sound sound allocated
  exact ⟨result, true, by rw [removeExpiredSession, stored, Option.bind_some, if_neg stays, done, Option.map_some],
    kept, grows⟩

theorem deliver_pending_sound (nonce : String) (payload : List String) :
    ∃ result delivered, server.deliverPending address nonce payload = some (result, delivered) ∧ result.Sound ∧
      server.Grows result := by
  obtain ⟨sess, stored⟩ := Option.isSome_iff_exists.mp allocated
  cases opened : sess.closed with
  | true =>
    refine ⟨server, false, ?_, sound, grows_refl server⟩
    simp [deliverPending, stored, opened]
  | false =>
    cases found : sess.pending.lookup nonce with
    | none =>
      refine ⟨server, false, ?_, sound, grows_refl server⟩
      simp [deliverPending, stored, opened, found]
    | some channel =>
      have ready := sound.waiting address sess nonce channel stored found
      obtain ⟨sentChannel, _, sending, _, _⟩ := try_send_open (rfl : (Chan.make 1 : Chan (List String)).closed = false) payload
      have computed : server.deliverPending address nonce payload = some ({ server with
          channels := put server.channels channel sentChannel
          heap := put server.heap address { sess with pending := sess.pending.erase nonce } }, true) := by
        rw [deliverPending, stored, Option.bind_some, if_neg (by simp [opened]), found]
        simp only [ready, Option.bind_some, sending, Option.map_some]
      refine ⟨_, true, computed, ?_, ?_⟩
      · refine sound_write sound stored rfl (fun _ => sound.running address sess stored opened) ?_ ?_ ?_
          (fun _ _ listed => listed)
        · intro other otherChannel kept
          exact (lookup_erase_eq_some.mp kept).2
        · exact Nat.le_trans (List.kerase_sublist nonce sess.pending.entries).length_le
            (sound.bounded address sess stored)
        · grind [put_other, put_eq_some, lookup_erase_eq_some, sound.separate]
      · exact ⟨fun other present => put_some present, fun other present => put_some present⟩

theorem register_pending_sound {channel : Nat} (nonce : String) (unused : server.channels channel = none) :
    ∃ result ready, server.registerPending address nonce channel = some (result, ready) ∧ result.Sound ∧
      server.Grows result ∧ (ready = true → (result.channels channel).isSome) := by
  obtain ⟨sess, stored⟩ := Option.isSome_iff_exists.mp allocated
  by_cases refused : (sess.closed || decide (maxPendingAttempts ≤ sess.pending.entries.length)) = true
  · refine ⟨server, false, ?_, sound, grows_refl server, by simp⟩
    rw [registerPending, stored, Option.bind_some, if_pos refused]
  by_cases taken : (sess.pending.lookup nonce).isSome = true
  · refine ⟨server, false, ?_, sound, grows_refl server, by simp⟩
    rw [registerPending, stored, Option.bind_some, if_neg refused, if_pos taken]
  have free : sess.pending.lookup nonce = none := by simpa using taken
  have room : sess.pending.entries.length < maxPendingAttempts := by simp_all
  have origin : ∀ {other old oldNonce otherChannel}, put server.heap address
        { sess with pending := sess.pending.insert nonce channel } other = some old →
      old.pending.lookup oldNonce = some otherChannel →
      (otherChannel = channel ∧ other = address ∧ oldNonce = nonce) ∨
        (otherChannel ≠ channel ∧ ∃ previous, server.heap other = some previous ∧
          previous.pending.lookup oldNonce = some otherChannel) := by
    intro other old oldNonce otherChannel storedOld found
    rcases put_eq_some.mp storedOld with ⟨here, new⟩ | ⟨_, storedOlder⟩
    · rw [← new] at found
      rcases lookup_insert_eq_some.mp found with ⟨sameNonce, own⟩ | ⟨_, before⟩
      · exact .inl ⟨own.symm, here, sameNonce⟩
      · grind [sound.waiting]
    · grind [sound.waiting]
  refine ⟨_, true, by rw [registerPending, stored, Option.bind_some, if_neg refused, if_neg taken], ?_, ?_, ?_⟩
  · refine ⟨?_, ?_, ?_, ?_, ?_⟩
    · grind [put_some, sound.tabled]
    · grind [put_eq_some, sound.running]
    · intro other old oldNonce otherChannel storedOld found
      rcases origin storedOld found with ⟨same, _⟩ | ⟨different, previous, storedOlder, before⟩
      · simp [same]
      · exact (put_other _ _ _ _ different).trans (sound.waiting other previous oldNonce otherChannel storedOlder before)
    · grind [sound.separate]
    intro other old storedOld
    rcases put_eq_some.mp storedOld with ⟨_, new⟩ | ⟨_, storedOlder⟩
    · rw [← new]
      have length : (sess.pending.insert nonce channel).entries.length = sess.pending.entries.length + 1 := by
        rw [AList.entries_insert_of_notMem (AList.lookup_eq_none.mp free), List.length_cons]
      rw [length]
      omega
    · exact sound.bounded other old storedOlder
  · exact ⟨fun other present => put_some present, fun other present => put_some present⟩
  · simp

end

theorem close_all_sound {order : List Nat} (allocated : ∀ address ∈ order, (server.heap address).isSome) :
    ∃ result, server.closeAll order = some result ∧ result.Sound ∧ server.Grows result := by
  induction order generalizing server with
  | nil => exact ⟨server, rfl, sound, grows_refl server⟩
  | cons address rest ih =>
    obtain ⟨middle, removed, kept, grows⟩ := remove_session_sound sound (allocated address List.mem_cons_self)
    have allocatedRest : ∀ other ∈ rest, (middle.heap other).isSome := by grind [grows.heap, List.mem_cons_of_mem]
    obtain ⟨result, done, keptRest, growsRest⟩ := ih kept allocatedRest
    refine ⟨result, ?_, keptRest, grows_trans grows growsRest⟩
    simpa [closeAll, List.foldlM_cons, removed] using done

theorem enroll_sound {user : RealmUser} {id sessionID : String} {addresses relay : List String} {lag : Nat} :
    (server.enroll user id addresses relay sessionID address lag).Sound ∧
      server.Grows (server.enroll user id addresses relay sessionID address lag) := by
  have elsewhere : ∀ {other old nonce channel}, (server.enroll user id addresses relay sessionID address lag).heap other =
        some old → old.pending.lookup nonce = some channel → server.heap other = some old := by
    intro other old nonce channel stored found
    rcases put_eq_some.mp stored with ⟨_, new⟩ | ⟨_, older⟩
    · rw [← new] at found
      contradiction
    · exact older
  refine ⟨⟨?_, ?_, ?_, ?_, ?_⟩, ⟨fun other present => put_some present, fun _ present => present⟩⟩
  · intro key other found
    rcases lookup_insert_eq_some.mp found with ⟨_, same⟩ | ⟨_, older⟩
    · rw [← same]
      exact Option.isSome_of_eq_some (put_same _ _ _)
    · exact put_some (sound.tabled key other older)
  · intro other old stored opened
    rcases put_eq_some.mp stored with ⟨_, new⟩ | ⟨_, older⟩
    · rw [← new]
      exact ⟨rfl, rfl⟩
    · exact sound.running other old older opened
  · intro other old nonce channel stored found
    exact sound.waiting other old nonce channel (elsewhere stored found) found
  · grind [sound.separate]
  intro other old stored
  rcases put_eq_some.mp stored with ⟨_, new⟩ | ⟨_, older⟩
  · rw [← new]
    exact Nat.zero_le _
  · exact sound.bounded other old older

end
end

structure Machine.Sound (machine : Machine) : Prop where
  server : machine.server.Sound
  calm : machine.panicked = false
  held : ∀ goroutine phase, machine.goroutines goroutine = some phase → (machine.server.heap phase.session).isSome
  allotted : ∀ goroutine phase attempt, machine.goroutines goroutine = some phase → phase.attempt = some attempt →
    (machine.server.channels attempt.channel).isSome
  apart : ∀ goroutine other phase old attempt older, machine.goroutines goroutine = some phase →
    machine.goroutines other = some old → phase.attempt = some attempt → old.attempt = some older →
    attempt.channel = older.channel → goroutine = other

section
variable {parseAddrPort : String → Bool} {machine result : Machine} {event : RealmStep} {server : Server} {session : Nat}

section
variable (sound : machine.Sound)
include sound

theorem sound_stay (kept : server.Sound ∧ machine.server.Grows server) : (machine.withServer server).Sound :=
  ⟨kept.1, sound.calm, fun goroutine phase at_ => kept.2.heap _ (sound.held goroutine phase at_),
    fun goroutine phase attempt at_ having => kept.2.channels _ (sound.allotted goroutine phase attempt at_ having),
    sound.apart⟩

theorem sound_finish (goroutine : Nat) (response : Response) : (machine.finish goroutine response).Sound := by
  refine ⟨sound.server, sound.calm, ?_, ?_, ?_⟩
  · intro other phase at_
    exact sound.held other phase (erase_eq_some.mp at_).2
  · intro other phase attempt at_ having
    exact sound.allotted other phase attempt (erase_eq_some.mp at_).2 having
  intro first second phase old attempt older atFirst atSecond
  exact sound.apart first second phase old attempt older (erase_eq_some.mp atFirst).2 (erase_eq_some.mp atSecond).2

variable {goroutine : Nat}

theorem sound_become {phase : Goroutine} (allocated : (machine.server.heap phase.session).isSome)
    (same : phase.attempt = none ∨ ∃ old, machine.goroutines goroutine = some old ∧ old.attempt = phase.attempt) :
    (machine.become goroutine phase).Sound := by
  have origin : ∀ {other found attempt}, put machine.goroutines goroutine phase other = some found →
      found.attempt = some attempt → ∃ old, machine.goroutines other = some old ∧ old.attempt = some attempt := by
    intro other found attempt at_ having
    rcases put_eq_some.mp at_ with ⟨here, new⟩ | ⟨_, older⟩
    · simp_all
    · grind
  refine ⟨sound.server, sound.calm, ?_, ?_, ?_⟩
  · intro other found at_
    rcases put_eq_some.mp at_ with ⟨_, new⟩ | ⟨_, older⟩
    · rw [← new]
      exact allocated
    · exact sound.held other found older
  · intro other found attempt at_ having
    obtain ⟨old, before, equal⟩ := origin at_ having
    exact sound.allotted other old attempt before equal
  intro first second phase old attempt older atFirst atSecond havingFirst havingSecond channel
  obtain ⟨one, beforeFirst, equalFirst⟩ := origin atFirst havingFirst
  obtain ⟨two, beforeSecond, equalSecond⟩ := origin atSecond havingSecond
  grind [sound.apart]

theorem sound_allot {attempt : Attempt} (kept : server.Sound)
    (grows : machine.server.Grows server) (allocated : (machine.server.heap attempt.session).isSome)
    (unused : machine.server.channels attempt.channel = none) (allotted : (server.channels attempt.channel).isSome) :
    ((machine.withServer server).become goroutine (.registered attempt)).Sound := by
  have origin : ∀ {other phase found}, put machine.goroutines goroutine (.registered attempt) other = some phase →
      phase.attempt = some found → (other = goroutine ∧ found = attempt) ∨
        (machine.goroutines other = some phase ∧ found.channel ≠ attempt.channel) := by
    intro other phase found at_ having
    rcases put_eq_some.mp at_ with ⟨here, new⟩ | ⟨_, older⟩
    · rw [← new] at having
      cases having
      exact .inl ⟨here, rfl⟩
    · have present := sound.allotted other phase found older having
      refine .inr ⟨older, fun same => ?_⟩
      simp [same, unused] at present
  refine ⟨kept, sound.calm, ?_, ?_, ?_⟩
  · intro other phase at_
    rcases put_eq_some.mp at_ with ⟨_, new⟩ | ⟨_, older⟩
    · rw [← new]
      exact grows.heap _ allocated
    · exact grows.heap _ (sound.held other phase older)
  · intro other phase found at_ having
    rcases origin at_ having with ⟨_, rfl⟩ | ⟨older, _⟩
    · exact allotted
    · exact grows.channels _ (sound.allotted other phase found older having)
  intro first second phase old one two atFirst atSecond havingFirst havingSecond channel
  have before := origin atFirst havingFirst
  have after := origin atSecond havingSecond
  grind [sound.apart]

end

section
variable (sound : server.Sound)
include sound

theorem receive_sound {channel : Nat} {stored rest : Chan (List String)} {value : Option (List String)}
    (found : server.channels channel = some stored)
    (received : stored.receive = some (value, rest)) :
    Server.Sound { server with channels := put server.channels channel rest } ∧
      server.Grows { server with channels := put server.channels channel rest } := by
  refine ⟨⟨sound.tabled, sound.running, ?_, sound.separate, sound.bounded⟩, fun _ present => present, ?_⟩
  · intro address sess nonce other storedSess pending
    have ready := sound.waiting address sess nonce other storedSess pending
    refine (put_other _ _ _ _ ?_).trans ready
    intro same
    rw [same, found] at ready
    cases ready
    contradiction
  · grind

theorem stream_sound {sess : RealmSession} {value : Option RealmEvent} {events : Chan RealmEvent}
    (stored : server.heap session = some sess) (received : sess.events.receive = some (value, events)) :
    Server.Sound { server with heap := put server.heap session { sess with events := events } } ∧
      server.Grows { server with heap := put server.heap session { sess with events := events } } := by
  grind [sound_update, sound.running, Chan.receive]

theorem enumerated_allocated {order : List Nat} (enumerated : order.Perm (server.sessions.entries.map Sigma.snd)) :
    ∀ address ∈ order, (server.heap address).isSome := by
  grind [mem_values, enumerated.mem_iff, sound.tabled]

theorem operation_sound (allocated : (server.heap session).isSome) (operation : Operation) :
    ∃ result flag, operation.run server session = some (result, flag) ∧ result.Sound ∧ server.Grows result := by
  cases operation with
  | remove =>
    obtain ⟨result, done, kept⟩ := remove_session_sound sound allocated
    exact ⟨result, true, by rw [Operation.run, done, Option.map_some], kept⟩
  | expire => exact remove_expired_sound sound allocated
  | extend request lag =>
    obtain ⟨result, done, kept⟩ := extend_sound sound allocated request lag
    exact ⟨result, true, by rw [Operation.run, done, Option.map_some], kept⟩
  | deliver nonce payload => exact deliver_pending_sound sound allocated nonce payload
  | send event => exact send_event_sound sound allocated event

end

theorem step_sound (sound : machine.Sound) (taken : realmStep parseAddrPort machine event = some result) : result.Sound := by
  cases step_effect taken with
  | ticked elapsed =>
    have kept : Server.Sound { machine.server with now := machine.server.now + elapsed } :=
      ⟨sound.server.tabled, sound.server.running, sound.server.waiting, sound.server.separate, sound.server.bounded⟩
    exact sound_stay sound ⟨kept, fun _ present => present, fun _ present => present⟩
  | answered goroutine response => exact sound_finish sound goroutine response
  | enrolled goroutine response =>
    exact sound_finish (sound_stay sound (enroll_sound sound.server)) goroutine response
  | authenticated _ _ _ _ _ _ known =>
    obtain ⟨_, stored, _⟩ := auth_session_opened known
    exact sound_become sound (Option.isSome_of_eq_some stored) (.inl rfl)
  | found _ _ _ _ _ _ allocated => exact sound_become sound allocated (.inl rfl)
  | became goroutine phase _ _ stands follows =>
    exact sound_become sound (follows.session ▸ sound.held goroutine phase stands)
      (follows.attempt.imp_right (fun same => ⟨phase, stands, same⟩))
  | performed goroutine phase operation _ _ stands _ after =>
    have allocated := sound.held goroutine phase stands
    obtain ⟨server, flag, done, kept⟩ := operation_sound sound.server allocated operation
    have middle := sound_stay sound kept
    rw [done, Machine.after]
    rcases after (server, flag) with ⟨response, ended⟩ | ⟨later, follows, moved⟩
    · simpa [ended] using sound_finish middle goroutine response
    rw [moved]
    exact sound_become middle (follows.session ▸ kept.2.heap _ allocated)
      (follows.attempt.imp_right (fun same => ⟨phase, stands, same⟩))
  | pended goroutine session request _ _ _ _ stands unused =>
    have allocated : (machine.server.heap session).isSome := sound.held goroutine _ stands
    obtain ⟨server, ready, done, kept, grows, allotted⟩ := register_pending_sound sound.server allocated request.nonce unused
    rw [Machine.registerPending, done]
    cases ready with
    | true => exact sound_allot sound kept grows allocated unused (allotted rfl)
    | false => exact sound_finish (sound_stay sound ⟨kept, grows⟩) goroutine _
  | cancelled goroutine attempt _ _ stands =>
    have allocated : (machine.server.heap attempt.session).isSome := sound.held goroutine _ stands
    obtain ⟨server, done, kept⟩ := cancel_pending_sound sound.server allocated attempt.request.nonce
    rw [done]
    exact sound_finish (sound_stay sound kept) goroutine _
  | streamed _ _ _ _ stored received =>
    exact sound_stay sound (stream_sound sound.server stored received)
  | received goroutine _ _ _ _ _ _ _ stands found read =>
    have allocated := sound.held goroutine _ stands
    exact sound_become (sound_stay sound (receive_sound sound.server found read)) allocated (.inr ⟨_, stands, rfl⟩)
  | lost goroutine phase stands absent =>
    rcases absent with absent | ⟨attempt, having, absent⟩
    · have present := sound.held goroutine phase stands
      simp [absent] at present
    have present := sound.allotted goroutine phase attempt stands having
    simp [absent] at present
  | fired address _ _ _ done =>
    obtain ⟨kept, allocated⟩ := fire_sound sound.server done
    exact sound_become (sound_stay sound kept) (kept.2.heap address allocated) (.inl rfl)
  | cleared _ _ enumerated =>
    obtain ⟨_, done, kept⟩ := close_all_sound sound.server (enumerated_allocated sound.server enumerated)
    rw [done]
    exact sound_stay sound kept

theorem start_sound (now : Nat) (tokenMap : String → Option RealmUser) : (startMachine now tokenMap).Sound := by
  refine ⟨⟨?_, ?_, ?_, ?_, ?_⟩, rfl, ?_, ?_, ?_⟩ <;> simp [startMachine, newServer]

theorem run_sound_channels {now : Nat} {tokenMap : String → Option RealmUser} {allowed : Machine → RealmStep → Prop}
    (run : Run (realmStep parseAddrPort) allowed (startMachine now tokenMap) machine) : machine.Sound :=
  run.invariant Machine.Sound (start_sound now tokenMap) (fun _ _ _ sound _ taken => step_sound sound taken)

theorem realm_server_never_panics (parseAddrPort : String → Bool) (now : Nat) (tokenMap : String → Option RealmUser)
    (machine : Machine) (run : Run (realmStep parseAddrPort) anyStep (startMachine now tokenMap) machine) :
    machine.panicked = false ∧ machine.server.Sound := by
  have sound := run_sound_channels run
  exact ⟨sound.calm, sound.server⟩

theorem registration_calm :
    ∃ machine, realmStep oneAddress (startMachine 0 oneUser) (registerHome 0 "s1" 7) = some machine ∧ machine.panicked = false :=
  ⟨_, rfl, (realm_server_never_panics oneAddress 0 oneUser _ (.next (registerHome 0 "s1" 7) .refl trivial rfl)).1⟩

end
end OtunKernel.Realm
