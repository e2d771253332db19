import Mathlib.Data.Finmap

namespace OtunKernel.Ssmapi

abbrev UsersMap := Finmap (fun _ : String => String)

-- The counters that the traffic manager keeps for each user.
inductive Counter where
  | uplink
  | downlink
  | uplinkPackets
  | downlinkPackets
  | tcpSessions
  | udpSessions
deriving DecidableEq, Repr

structure TrafficManager where
  counters : Counter → String → Option Int

def TrafficManager.updateUsers (traffic : TrafficManager) (users : List String) : TrafficManager :=
  ⟨fun counter user => if user ∈ users then traffic.counters counter user else none⟩

structure UserManager where
  usersMap : UsersMap
  trafficManager : TrafficManager

def newUserManager (trafficManager : TrafficManager) : UserManager := ⟨∅, trafficManager⟩

abbrev Iteration := (users : UsersMap) → { order : List (Σ _ : String, String) // (order : Multiset _) = users.entries }

abbrev UpdateUsers := List String → List String → Option String

namespace UserManager

def postUpdate (manager : UserManager) (iterate : Iteration) (server : UpdateUsers) (updated : Bool) :
    Option String × UserManager :=
  let order := (iterate manager.usersMap).val
  let users := order.map Sigma.fst
  let uPSKs := order.map Sigma.snd
  match server users uPSKs with
  | some err => (some err, manager)
  | none =>
    (none, if updated then { manager with trafficManager := manager.trafficManager.updateUsers users } else manager)

def list (manager : UserManager) (iterate : Iteration) : List (String × String) :=
  (iterate manager.usersMap).val.map (fun entry => (entry.1, entry.2))

def get (manager : UserManager) (username : String) : Option String := manager.usersMap.lookup username

def withUsers (manager : UserManager) (usersMap : UsersMap) : UserManager := { manager with usersMap := usersMap }

def add (manager : UserManager) (iterate : Iteration) (server : UpdateUsers) (username password : String) :
    Option String × UserManager :=
  if username ∈ manager.usersMap then (some ("user " ++ username ++ " already exists"), manager)
  else (manager.withUsers (manager.usersMap.insert username password)).postUpdate iterate server true

def update (manager : UserManager) (iterate : Iteration) (server : UpdateUsers) (username password : String) :
    Option String × UserManager :=
  (manager.withUsers (manager.usersMap.insert username password)).postUpdate iterate server true

def delete (manager : UserManager) (iterate : Iteration) (server : UpdateUsers) (username : String) :
    Option String × UserManager :=
  (manager.withUsers (manager.usersMap.erase username)).postUpdate iterate server true

end UserManager

inductive UserCall where
  | add (username password : String)
  | update (username password : String)
  | delete (username : String)
deriving DecidableEq, Repr

-- A call with the order in which it meets the map and the server as it then is.
structure Request where
  call : UserCall
  iterate : Iteration
  server : UpdateUsers

def UserManager.perform (manager : UserManager) (request : Request) : Option String × UserManager :=
  match request.call with
  | .add username password => manager.add request.iterate request.server username password
  | .update username password => manager.update request.iterate request.server username password
  | .delete username => manager.delete request.iterate request.server username

def UserManager.performAll (manager : UserManager) : List Request → UserManager
  | [] => manager
  | request :: rest => (manager.perform request).2.performAll rest

def Along (holds : UserManager → Request → Prop) : UserManager → List Request → Prop
  | _, [] => True
  | manager, request :: rest => holds manager request ∧ Along holds (manager.perform request).2 rest

structure SameUsers (before after : UserManager) : Prop where
  usersMap : after.usersMap = before.usersMap
  get : ∀ username, after.get username = before.get username
  list : ∀ iterate, after.list iterate = before.list iterate

def RefusalUnchanged (manager : UserManager) (request : Request) : Prop :=
  (manager.perform request).1 ≠ none → SameUsers manager (manager.perform request).2

def UserManager.accepted (manager : UserManager) : List Request → List Request
  | [] => []
  | request :: rest =>
    let later := (manager.perform request).2.accepted rest
    if (manager.perform request).1 = none then request :: later else later

def UserCall.proposed (users : UsersMap) : UserCall → UsersMap
  | .add username password => users.insert username password
  | .update username password => users.insert username password
  | .delete username => users.erase username

def UserCall.idle (users : UsersMap) : UserCall → Prop
  | .add username _ => username ∈ users
  | .update username password => users.lookup username = some password
  | .delete username => username ∉ users

def Request.serverAccepts (request : Request) (users : UsersMap) : Prop :=
  let order := (request.iterate (request.call.proposed users)).val
  request.server (order.map Sigma.fst) (order.map Sigma.snd) = none

def Harmless (manager : UserManager) (request : Request) : Prop :=
  request.call.idle manager.usersMap ∨ request.serverAccepts manager.usersMap

section
variable {manager : UserManager} {request : Request}

theorem same_users_iff {before after : UserManager} : SameUsers before after ↔ after.usersMap = before.usersMap := by
  refine ⟨fun same => same.usersMap, fun same => ⟨same, ?_, ?_⟩⟩
  · simp [UserManager.get, same]
  intro _
  rw [UserManager.list, UserManager.list, same]

theorem post_update_outcome (manager : UserManager) (iterate : Iteration) (server : UpdateUsers) (updated : Bool) :
    (∃ err, server ((iterate manager.usersMap).val.map Sigma.fst) ((iterate manager.usersMap).val.map Sigma.snd) = some err ∧
        manager.postUpdate iterate server updated = (some err, manager)) ∨
      (server ((iterate manager.usersMap).val.map Sigma.fst) ((iterate manager.usersMap).val.map Sigma.snd) = none ∧
        ∃ trafficManager, manager.postUpdate iterate server updated =
          (none, { manager with trafficManager := trafficManager })) := by
  cases verdict : server ((iterate manager.usersMap).val.map Sigma.fst) ((iterate manager.usersMap).val.map Sigma.snd) with
  | some err => exact .inl ⟨err, rfl, by simp [UserManager.postUpdate, verdict]⟩
  | none =>
    refine .inr ⟨rfl, ?_⟩
    cases updated with
    | true => exact ⟨_, by simp [UserManager.postUpdate, verdict]; rfl⟩
    | false => exact ⟨manager.trafficManager, by simp [UserManager.postUpdate, verdict]⟩

theorem post_update_users (iterate : Iteration) (server : UpdateUsers) (updated : Bool) :
    (manager.postUpdate iterate server updated).2.usersMap = manager.usersMap := by
  rcases post_update_outcome manager iterate server updated with ⟨_, _, done⟩ | ⟨_, _, done⟩
  · rw [done]
  · rw [done]

theorem post_update_refused {iterate : Iteration} {server : UpdateUsers} {updated : Bool}
    (refused : (manager.postUpdate iterate server updated).1 ≠ none) :
    (manager.postUpdate iterate server updated).2 = manager := by
  rcases post_update_outcome manager iterate server updated with ⟨_, _, done⟩ | ⟨_, _, done⟩
  · rw [done]
  · simp_all

theorem perform_proposed (fresh : ∀ username password, request.call = .add username password → username ∉ manager.usersMap) :
    manager.perform request =
      (manager.withUsers (request.call.proposed manager.usersMap)).postUpdate request.iterate request.server true := by
  unfold UserManager.perform
  cases called : request.call with
  | add username password =>
    have absent := fresh username password called
    simp [UserManager.add, absent, UserCall.proposed]
  | update | delete => rfl

theorem perform_duplicate {username password : String} (called : request.call = .add username password)
    (known : username ∈ manager.usersMap) : (manager.perform request).1 ≠ none ∧ (manager.perform request).2 = manager := by
  simp [UserManager.perform, called, UserManager.add, known]

theorem proposed_eq_iff (call : UserCall) (users : UsersMap)
    (fresh : ∀ username password, call = .add username password → username ∉ users) :
    call.proposed users = users ↔ call.idle users := by
  cases call with
  | add username password =>
    have absent := fresh username password rfl
    refine ⟨fun same => ?_, fun known => absurd known absent⟩
    have present : username ∈ users.insert username password := Finmap.mem_insert.mpr (.inl rfl)
    rw [show users.insert username password = users from same] at present
    exact present
  | update username password =>
    constructor
    · intro same
      have found := Finmap.lookup_insert (a := username) (b := password) users
      rwa [show users.insert username password = users from same] at found
    intro found
    refine Finmap.ext_lookup (fun other => ?_)
    by_cases here : other = username
    · subst here
      simp [UserCall.proposed, Finmap.lookup_insert, found.symm]
    · rw [UserCall.proposed, Finmap.lookup_insert_of_ne users here]
  | delete username =>
    constructor
    · intro same
      have absent := Finmap.notMem_erase_self (a := username) (s := users)
      rwa [show users.erase username = users from same] at absent
    intro absent
    refine Finmap.ext_lookup (fun other => ?_)
    by_cases here : other = username
    · subst here
      rw [UserCall.proposed, Finmap.lookup_erase, Finmap.lookup_eq_none.mpr absent]
    · rw [UserCall.proposed, Finmap.lookup_erase_ne here]

theorem server_accepts_iff (manager : UserManager) (request : Request) : request.serverAccepts manager.usersMap ↔
      ((manager.withUsers (request.call.proposed manager.usersMap)).postUpdate request.iterate request.server true).1 = none := by
  rcases post_update_outcome (manager.withUsers (request.call.proposed manager.usersMap)) request.iterate request.server true with
    ⟨err, refused, done⟩ | ⟨accepted, _, done⟩
  · rw [done]
    refine ⟨fun accepted => ?_, fun absent => by contradiction⟩
    exact absurd (refused.symm.trans accepted) (by simp)
  rw [done]
  exact ⟨fun _ => rfl, fun _ => accepted⟩

theorem refusal_unchanged_iff (manager : UserManager) (request : Request) :
    RefusalUnchanged manager request ↔ Harmless manager request := by
  by_cases fresh : ∀ username password, request.call = .add username password → username ∉ manager.usersMap
  · rw [RefusalUnchanged, Harmless, same_users_iff, perform_proposed fresh, post_update_users, ← proposed_eq_iff _ _ fresh,
      server_accepts_iff]
    constructor
    · intro unchanged
      by_cases accepted : ((manager.withUsers (request.call.proposed manager.usersMap)).postUpdate request.iterate
          request.server true).1 = none
      · exact .inr accepted
      · exact .inl (unchanged accepted)
    rintro (same | accepted) refused
    · exact same
    · grind
  push Not at fresh
  obtain ⟨_, _, called, known⟩ := fresh
  obtain ⟨_, unchanged⟩ := perform_duplicate called known
  constructor
  · intro _
    left
    rw [called]
    exact known
  intro _ _
  rw [same_users_iff, unchanged]

theorem refused_manager_eq (unchanged : RefusalUnchanged manager request) (refused : (manager.perform request).1 ≠ none) :
    (manager.perform request).2 = manager := by
  by_cases fresh : ∀ username password, request.call = .add username password → username ∉ manager.usersMap
  · have same := (unchanged refused).usersMap
    rw [perform_proposed fresh] at refused same ⊢
    rw [post_update_refused refused] at same ⊢
    rw [UserManager.withUsers, show request.call.proposed manager.usersMap = manager.usersMap from same]
  grind [perform_duplicate]

end

theorem along_congr {holds other : UserManager → Request → Prop}
    (same : ∀ manager request, holds manager request ↔ other manager request) (manager : UserManager)
    (requests : List Request) : Along holds manager requests ↔ Along other manager requests := by
  induction requests generalizing manager with
  | nil => exact Iff.rfl
  | cons _ _ ih =>
    rw [Along, Along, same, ih]

theorem perform_accepted (manager : UserManager) (requests : List Request) (unchanged : Along RefusalUnchanged manager requests) :
    manager.performAll (manager.accepted requests) = manager.performAll requests := by
  induction requests generalizing manager with
  | nil => rfl
  | cons request _ ih =>
    obtain ⟨first, later⟩ := unchanged
    rw [UserManager.accepted, UserManager.performAll, ← ih _ later]
    by_cases answered : (manager.perform request).1 = none
    · rw [if_pos answered]
      rfl
    · rw [if_neg answered, refused_manager_eq first answered]

theorem refused_changes_without_effect_iff (manager : UserManager) (requests : List Request) :
    (Along RefusalUnchanged manager requests ∧
        manager.performAll (manager.accepted requests) = manager.performAll requests) ↔
      Along Harmless manager requests := by
  rw [← along_congr refusal_unchanged_iff]
  grind [perform_accepted]

theorem password_listed_iff (iterate : Iteration) (users : UsersMap) (password : String) :
    password ∈ (iterate users).val.map Sigma.snd ↔ ∃ username, users.lookup username = some password := by
  rw [List.mem_map]
  constructor
  · rintro ⟨⟨username, found⟩, entry, rfl⟩
    rw [← Multiset.mem_coe, (iterate users).property] at entry
    exact ⟨username, Finmap.mem_lookup_iff.mpr entry⟩
  rintro ⟨username, found⟩
  have entry : (⟨username, password⟩ : Σ _ : String, String) ∈ users.entries := Finmap.mem_lookup_iff.mp found
  rw [← (iterate users).property] at entry
  exact ⟨_, entry, rfl⟩

noncomputable def someOrder : Iteration := fun users => ⟨users.entries.toList, Multiset.coe_toList _⟩

def refusesShortKeys : UpdateUsers := fun _ uPSKs => if "short" ∈ uPSKs then some "bad key length" else none

noncomputable def addAlice : Request := ⟨.add "alice" "short", someOrder, refusesShortKeys⟩

noncomputable def addBob : Request := ⟨.add "bob" "0123456789abcdef", someOrder, refusesShortKeys⟩

theorem short_key_refused (manager : UserManager) (iterate : Iteration) {username : String}
    (found : manager.usersMap.lookup username = some "short") :
    manager.postUpdate iterate refusesShortKeys true = (some "bad key length", manager) := by
  have listed := (password_listed_iff iterate manager.usersMap "short").mpr ⟨username, found⟩
  rcases post_update_outcome manager iterate refusesShortKeys true with ⟨err, refused, done⟩ | ⟨accepted, _⟩
  · rw [refusesShortKeys, if_pos listed] at refused
    rw [done, refused]
  · simp_all [refusesShortKeys]

theorem refused_add_spoils_later_adds :
    ∃ manager : UserManager, manager.usersMap = ∅ ∧ (manager.perform addAlice).1 = some "bad key length" ∧
      (manager.perform addAlice).2.get "alice" = some "short" ∧
      ((manager.perform addAlice).2.perform addBob).1 = some "bad key length" ∧
      (manager.perform addBob).1 = none := by
  let manager := newUserManager ⟨fun _ _ => none⟩
  let alice := manager.withUsers (manager.usersMap.insert "alice" "short")
  have first : manager.perform addAlice = (some "bad key length", alice) := by
    exact short_key_refused alice someOrder (Finmap.lookup_insert manager.usersMap)
  refine ⟨manager, rfl, ?_, ?_, ?_, ?_⟩
  · rw [first]
  · rw [first]
    exact Finmap.lookup_insert manager.usersMap
  · rw [first]
    have kept : (alice.usersMap.insert "bob" "0123456789abcdef").lookup "alice" = some "short" := by
      rw [Finmap.lookup_insert_of_ne _ (by decide)]
      exact Finmap.lookup_insert manager.usersMap
    exact congrArg Prod.fst (short_key_refused (alice.withUsers _) someOrder kept)
  have accepted : addBob.serverAccepts manager.usersMap := by
    apply if_neg
    intro listed
    obtain ⟨username, found⟩ := (password_listed_iff someOrder _ "short").mp listed
    rw [show addBob.call.proposed manager.usersMap = manager.usersMap.insert "bob" "0123456789abcdef" from rfl] at found
    by_cases same : username = "bob"
    · subst same
      rw [Finmap.lookup_insert] at found
      contradiction
    rw [Finmap.lookup_insert_of_ne _ same] at found
    contradiction
  rw [perform_proposed (fun username _ _ => Finmap.notMem_empty)]
  grind [server_accepts_iff]

end OtunKernel.Ssmapi
