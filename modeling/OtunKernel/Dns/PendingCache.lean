import Mathlib.Algebra.Group.Nat.Defs
import OtunKernel.Lib.PartialMap
import OtunKernel.Lib.Runs

namespace OtunKernel.Dns

open Lib

structure SaveCacheKey where
  transportName : String
  questionName : String
  qType : UInt16
deriving DecidableEq, Repr

structure SaveDNSCacheEntry where
  rawMessage : List UInt8
  expireAt : Int
  sequence : Nat
  saving : Bool
deriving DecidableEq, Repr

def SaveDNSCacheEntry.zero : SaveDNSCacheEntry := ⟨[], 0, 0, false⟩

structure StoredMessage where
  expireSecond : Int
  rawMessage : List UInt8
deriving DecidableEq, Repr

def nanosecondsPerSecond : Int := 1000000000

def unixSecond (time : Int) : Int := time / nanosecondsPerSecond

def storedMessage (rawMessage : List UInt8) (expireAt : Int) : StoredMessage := ⟨unixSecond expireAt, rawMessage⟩

-- Where a goroutine is in flushPendingDNSCacheWith: before it reads the
-- pending entry, saves what it read, or compares.
inductive FlushPhase where
  | reading
  | saving (entry : SaveDNSCacheEntry)
  | comparing (entry : SaveDNSCacheEntry)
deriving DecidableEq, Repr

def FlushPhase.entry : FlushPhase → Option SaveDNSCacheEntry
  | .reading => none
  | .saving entry => some entry
  | .comparing entry => some entry

structure Flusher where
  key : SaveCacheKey
  phase : FlushPhase
deriving DecidableEq, Repr

structure DNSCacheState where
  saveDNSCache : SaveCacheKey → Option SaveDNSCacheEntry
  bucket : SaveCacheKey → Option StoredMessage
  flushers : Nat → Option Flusher
  clearing : Nat → Bool

def idleDNSCache (bucket : SaveCacheKey → Option StoredMessage) : DNSCacheState :=
  ⟨fun _ => none, bucket, fun _ => none, fun _ => false⟩

def DNSCacheState.loadDNSCache (state : DNSCacheState) (key : SaveCacheKey) : Option (List UInt8 × Int) :=
  match state.saveDNSCache key with
  | some entry => some (entry.rawMessage, entry.expireAt)
  | none => (state.bucket key).map (fun stored => (stored.rawMessage, stored.expireSecond * nanosecondsPerSecond))

def queuedEntry (entry : SaveDNSCacheEntry) (rawMessage : List UInt8) (expireAt : Int) : SaveDNSCacheEntry :=
  ⟨rawMessage, expireAt, (entry.sequence + 1) % 2 ^ 64, true⟩

def DNSCacheState.pendingEntry (state : DNSCacheState) (key : SaveCacheKey) : SaveDNSCacheEntry :=
  (state.saveDNSCache key).getD SaveDNSCacheEntry.zero

def DNSCacheState.queueDNSCacheSave (state : DNSCacheState) (key : SaveCacheKey) (rawMessage : List UInt8)
    (expireAt : Int) : DNSCacheState × Bool :=
  let entry := state.pendingEntry key
  ({ state with saveDNSCache := put state.saveDNSCache key (queuedEntry entry rawMessage expireAt) }, !entry.saving)

-- goroutine is the one that is started if none is saving the key.
def DNSCacheState.saveDNSCacheAsync (state : DNSCacheState) (key : SaveCacheKey) (rawMessage : List UInt8)
    (expireAt : Int) (goroutine : Nat) : Option DNSCacheState :=
  let (queued, startFlush) := state.queueDNSCacheSave key rawMessage expireAt
  if !startFlush then some queued
  else if (state.flushers goroutine).isSome then none
  else some { queued with flushers := put state.flushers goroutine ⟨key, .reading⟩ }

def DNSCacheState.moveFlusher (state : DNSCacheState) (goroutine : Nat) (flusher : Flusher) : DNSCacheState :=
  { state with flushers := put state.flushers goroutine flusher }

def DNSCacheState.endFlusher (state : DNSCacheState) (goroutine : Nat) : DNSCacheState :=
  { state with flushers := erase state.flushers goroutine }

def DNSCacheState.flushStep (state : DNSCacheState) (goroutine : Nat) : Option DNSCacheState :=
  match state.flushers goroutine with
  | none => none
  | some ⟨key, .reading⟩ =>
    match state.saveDNSCache key with
    | none => some (state.endFlusher goroutine)
    | some entry => some (state.moveFlusher goroutine ⟨key, .saving entry⟩)
  | some ⟨key, .saving entry⟩ =>
    let saved := { state with bucket := put state.bucket key (storedMessage entry.rawMessage entry.expireAt) }
    some (saved.moveFlusher goroutine ⟨key, .comparing entry⟩)
  | some ⟨key, .comparing entry⟩ =>
    match state.saveDNSCache key with
    | none => some (state.endFlusher goroutine)
    | some currentEntry =>
      if currentEntry.sequence ≠ entry.sequence then some (state.moveFlusher goroutine ⟨key, .reading⟩)
      else
        let deleted := { state with saveDNSCache := erase state.saveDNSCache key }
        some (deleted.endFlusher goroutine)

inductive DNSCacheStep where
  | save (key : SaveCacheKey) (rawMessage : List UInt8) (expireAt : Int) (goroutine : Nat)
  | flush (goroutine : Nat)
  | clearPending (goroutine : Nat)
  | dropBucket (goroutine : Nat)

-- The two halves of ClearDNSCache are separate steps.
def dnsCacheStep : System DNSCacheState DNSCacheStep
  | state, .save key rawMessage expireAt goroutine => state.saveDNSCacheAsync key rawMessage expireAt goroutine
  | state, .flush goroutine => state.flushStep goroutine
  | state, .clearPending goroutine =>
    if state.clearing goroutine then none
    else some { state with
      saveDNSCache := fun _ => none, clearing := Function.update state.clearing goroutine true }
  | state, .dropBucket goroutine =>
    if state.clearing goroutine then
      some { state with bucket := fun _ => none, clearing := Function.update state.clearing goroutine false }
    else none

variable {key : SaveCacheKey} {state : DNSCacheState} {result : DNSCacheState} {owner : SaveCacheKey}

theorem flush_cases {goroutine : Nat} (taken : state.flushStep goroutine = some result) :
    ∃ key phase, state.flushers goroutine = some ⟨key, phase⟩ ∧
      ((state.saveDNSCache key = none ∧ result = state.endFlusher goroutine) ∨ (∃ entry, state.saveDNSCache key = some entry ∧
          result = state.moveFlusher goroutine ⟨key, .saving entry⟩) ∨ (∃ entry, phase = .saving entry ∧
          result = DNSCacheState.moveFlusher
            { state with bucket := put state.bucket key (storedMessage entry.rawMessage entry.expireAt) }
            goroutine ⟨key, .comparing entry⟩) ∨ result = state.moveFlusher goroutine ⟨key, .reading⟩ ∨
        (∃ entry currentEntry, phase = .comparing entry ∧ state.saveDNSCache key = some currentEntry ∧
          currentEntry.sequence = entry.sequence ∧
          result = DNSCacheState.endFlusher { state with saveDNSCache := erase state.saveDNSCache key } goroutine)) := by
  grind [DNSCacheState.flushStep]

structure DNSCacheState.Exclusive (state : DNSCacheState) (key : SaveCacheKey) : Prop where
  single : ∀ first second left right, state.flushers first = some ⟨key, left⟩ →
    state.flushers second = some ⟨key, right⟩ → first = second
  idle : state.saveDNSCache key = none → ∀ goroutine phase, state.flushers goroutine ≠ some ⟨key, phase⟩
  busy : ∀ entry, state.saveDNSCache key = some entry →
    entry.saving = true ∧ ∃ goroutine phase, state.flushers goroutine = some ⟨key, phase⟩
  held : ∀ entry goroutine phase old, state.saveDNSCache key = some entry →
    state.flushers goroutine = some ⟨key, phase⟩ → phase.entry = some old →
    old.sequence ≤ entry.sequence ∧ (old.sequence = entry.sequence → old = entry)

variable {state result : DNSCacheState} {rawMessage : List UInt8}

section

theorem idle_exclusive (bucket : SaveCacheKey → Option StoredMessage) (key : SaveCacheKey) : (idleDNSCache bucket).Exclusive key :=
  ⟨fun _ _ _ _ => nofun, fun _ _ _ => nofun, fun _ => nofun, fun _ _ _ _ => nofun⟩

variable {goroutine : Nat} {owner : SaveCacheKey} {phase : FlushPhase} {expireAt : Int}

theorem ended_other (found : state.flushers goroutine = some ⟨owner, phase⟩) (other : owner ≠ key) (running : Nat)
    (now : FlushPhase) :
    erase state.flushers goroutine running = some ⟨key, now⟩ ↔ state.flushers running = some ⟨key, now⟩ := by grind

theorem save_cases (taken : state.saveDNSCacheAsync owner rawMessage expireAt goroutine = some result) :
    result.saveDNSCache = put state.saveDNSCache owner (queuedEntry (state.pendingEntry owner) rawMessage expireAt) ∧
      result.bucket = state.bucket ∧ (((state.pendingEntry owner).saving = true ∧ result.flushers = state.flushers) ∨
        ((state.pendingEntry owner).saving = false ∧ state.flushers goroutine = none ∧
          result.flushers = put state.flushers goroutine ⟨owner, .reading⟩)) := by
  simp only [DNSCacheState.saveDNSCacheAsync, DNSCacheState.queueDNSCacheSave, Bool.not_not] at taken
  cases saving : (state.pendingEntry owner).saving with
  | true => grind
  | false =>
    rw [saving, if_neg (by decide), Option.ite_none_left_eq_some, Option.some.injEq] at taken
    obtain ⟨free, rfl⟩ := taken
    exact ⟨rfl, rfl, .inr ⟨rfl, by simpa using free, rfl⟩⟩

theorem pending_entry_of_some {current : SaveDNSCacheEntry} (present : state.saveDNSCache key = some current) :
    state.pendingEntry key = current := by
  simp [DNSCacheState.pendingEntry, present]

section
variable (exclusive : state.Exclusive key)
include exclusive

theorem exclusive_moved {before after : FlushPhase} (found : state.flushers goroutine = some ⟨owner, before⟩)
    (pending : result.saveDNSCache key = state.saveDNSCache key)
    (moved : result.flushers = put state.flushers goroutine ⟨owner, after⟩)
    (entry : owner = key → ∀ entry old, state.saveDNSCache key = some entry → after.entry = some old →
      old.sequence ≤ entry.sequence ∧ (old.sequence = entry.sequence → old = entry)) : result.Exclusive key := by
  -- the flushers of the key are where they were
  have back : ∀ other phase, result.flushers other = some ⟨key, phase⟩ →
      ∃ earlier, state.flushers other = some ⟨key, earlier⟩ := by
    intro other phase running
    rw [moved, put_eq_some] at running
    rcases running with ⟨rfl, same⟩ | ⟨_, running⟩
    · simp_all
    · exact ⟨phase, running⟩
  refine ⟨?_, ?_, ?_, ?_⟩
  · grind [exclusive.single]
  · intro absent other phase running
    obtain ⟨earlier, running⟩ := back other phase running
    exact exclusive.idle (pending ▸ absent) other earlier running
  · intro current present
    obtain ⟨saving, other, phase, running⟩ := exclusive.busy current (pending ▸ present)
    refine ⟨saving, other, ?_⟩
    rw [moved]
    grind
  intro current other phase old present running holds
  rw [pending] at present
  rw [moved, put_eq_some] at running
  rcases running with ⟨_, same⟩ | ⟨_, running⟩
  · simp_all
  · exact exclusive.held current other phase old present running holds

theorem exclusive_congr (pending : result.saveDNSCache key = state.saveDNSCache key) (same : ∀ goroutine phase,
      result.flushers goroutine = some ⟨key, phase⟩ ↔ state.flushers goroutine = some ⟨key, phase⟩) : result.Exclusive key := by
  refine ⟨?_, ?_, ?_, ?_⟩
  · grind [exclusive.single]
  · intro absent goroutine phase present
    exact exclusive.idle (pending ▸ absent) goroutine phase ((same _ _).mp present)
  · intro entry present
    obtain ⟨saving, goroutine, phase, active⟩ := exclusive.busy entry (pending ▸ present)
    exact ⟨saving, goroutine, phase, (same _ _).mpr active⟩
  intro entry goroutine phase old present active holds
  exact exclusive.held entry goroutine phase old (pending ▸ present) ((same _ _).mp active) holds

theorem exclusive_deleted (found : state.flushers goroutine = some ⟨key, phase⟩)
    (absent : result.saveDNSCache key = none) (ended : result.flushers = erase state.flushers goroutine) : result.Exclusive key := by
  have stopped : ∀ running phase, result.flushers running ≠ some ⟨key, phase⟩ := by
    intro running later present
    rw [ended, erase_eq_some] at present
    exact present.1 (exclusive.single running goroutine later phase present.2 found)
  refine ⟨?_, fun _ => stopped, ?_, ?_⟩
  · simp_all
  · simp [absent]
  · simp [absent]

theorem flush_exclusive (taken : state.flushStep goroutine = some result) : result.Exclusive key := by
  obtain ⟨owner, phase, found, cases⟩ := flush_cases taken
  rcases cases with ⟨absent, rfl⟩ | ⟨entry, present, rfl⟩ | ⟨entry, rfl, rfl⟩ | rfl | ⟨entry, current, rfl, present, same, rfl⟩
  · refine exclusive_congr exclusive rfl (ended_other found ?_)
    rintro rfl
    exact exclusive.idle absent goroutine phase found
  · refine exclusive_moved exclusive found rfl rfl ?_
    rintro rfl current old pending ⟨⟩
    grind
  · refine exclusive_moved exclusive found rfl rfl ?_
    rintro rfl current old pending ⟨⟩
    exact exclusive.held current goroutine _ entry pending found rfl
  · refine exclusive_moved exclusive found rfl rfl ?_
    intro _ current old _ holds
    contradiction
  by_cases same : owner = key
  · subst same
    exact exclusive_deleted exclusive found (erase_same _ _) rfl
  · exact exclusive_congr exclusive (erase_other _ _ _ (Ne.symm same)) (ended_other found same)

theorem save_other_exclusive (other : owner ≠ key)
    (taken : state.saveDNSCacheAsync owner rawMessage expireAt goroutine = some result) : result.Exclusive key := by
  obtain ⟨pending, _, ⟨_, kept⟩ | ⟨_, free, spawned⟩⟩ := save_cases taken
  · refine exclusive_congr exclusive ?_ (fun running phase => by rw [kept])
    rw [pending, put_other _ _ _ _ (Ne.symm other)]
  refine exclusive_congr exclusive ?_ (fun running phase => ?_)
  · rw [pending, put_other _ _ _ _ (Ne.symm other)]
  rw [spawned, put_eq_some]
  constructor
  · simp_all
  · grind

end

section
variable (exclusive : state.Exclusive key) (counts : (state.pendingEntry key).sequence + 1 < 2 ^ 64)
variable (taken : state.saveDNSCacheAsync key rawMessage expireAt goroutine = some result)
include exclusive counts taken

theorem save_outdates {running : Nat} {old : SaveDNSCacheEntry} (active : result.flushers running = some ⟨key, phase⟩)
    (holds : phase.entry = some old) : old.sequence < (queuedEntry (state.pendingEntry key) rawMessage expireAt).sequence := by
  have before : state.flushers running = some ⟨key, phase⟩ := by
    obtain ⟨_, _, ⟨_, kept⟩ | ⟨_, _, spawned⟩⟩ := save_cases taken
    · rwa [← kept]
    rw [spawned, put_eq_some] at active
    rcases active with ⟨_, begun⟩ | ⟨_, active⟩
    · cases begun
      contradiction
    · exact active
  cases present : state.saveDNSCache key with
  | none => grind [exclusive.idle]
  | some current =>
    have older := (exclusive.held current running phase old present before holds).1
    grind [pending_entry_of_some, queuedEntry]

theorem save_exclusive : result.Exclusive key := by
  obtain ⟨pending, _, flushers⟩ := save_cases taken
  have queued : result.saveDNSCache key = some (queuedEntry (state.pendingEntry key) rawMessage expireAt) := by
    rw [pending, put_same]
  have busy : ∃ running phase, result.flushers running = some ⟨key, phase⟩ := by
    obtain ⟨saving, kept⟩ | ⟨_, _, spawned⟩ := flushers
    · cases present : state.saveDNSCache key with
      | none =>
        rw [DNSCacheState.pendingEntry, present] at saving
        contradiction
      | some current =>
        simpa [kept] using (exclusive.busy current present).2
    · exact ⟨goroutine, .reading, by rw [spawned, put_same]⟩
  refine ⟨?_, ?_, ?_, ?_⟩
  · obtain ⟨_, kept⟩ | ⟨unsaved, _, spawned⟩ := flushers
    · simpa [kept] using exclusive.single
    -- a flusher is started only if there was no pending entry, hence no flusher
    have absent : state.saveDNSCache key = none := by
      cases present : state.saveDNSCache key with
      | none => rfl
      | some current =>
        simp [pending_entry_of_some present, (exclusive.busy current present).1] at unsaved
    have only : ∀ running phase, result.flushers running = some ⟨key, phase⟩ → running = goroutine := by
      intro running phase active
      rw [spawned, put_eq_some] at active
      rcases active with ⟨same, _⟩ | ⟨_, active⟩
      · exact same
      · exact absurd active (exclusive.idle absent running phase)
    intro first second left right one two
    rw [only first left one, only second right two]
  · simp [queued]
  · intro entry found
    rw [queued] at found
    cases found
    exact ⟨rfl, busy⟩
  intro entry running phase old found active holds
  have older := save_outdates exclusive counts taken active holds
  grind

end

theorem clear_exclusive (stopped : ∀ goroutine phase, state.flushers goroutine ≠ some ⟨key, phase⟩)
    (absent : result.saveDNSCache key = none) (kept : result.flushers = state.flushers) : result.Exclusive key := by
  rw [← kept] at stopped
  refine ⟨?_, fun _ => stopped, ?_, ?_⟩
  · simp_all
  · simp [absent]
  · simp_all

end

def Guarded (key : SaveCacheKey) (state : DNSCacheState) : DNSCacheStep → Prop
  | .save owner _ _ _ => owner = key → (state.pendingEntry key).sequence + 1 < 2 ^ 64
  | .clearPending _ => ∀ goroutine phase, state.flushers goroutine ≠ some ⟨key, phase⟩
  | _ => True

theorem step_exclusive (exclusive : state.Exclusive key) {step : DNSCacheStep}
    (guarded : Guarded key state step) (taken : dnsCacheStep state step = some result) : result.Exclusive key := by
  cases step with
  | save owner =>
    by_cases same : owner = key
    · subst same
      exact save_exclusive exclusive (guarded rfl) taken
    · exact save_other_exclusive exclusive same taken
  | flush => exact flush_exclusive exclusive taken
  | clearPending =>
    simp only [dnsCacheStep, Option.ite_none_left_eq_some, Option.some.injEq] at taken
    rw [← taken.2]
    exact clear_exclusive guarded rfl rfl
  | dropBucket =>
    simp only [dnsCacheStep, Option.ite_none_right_eq_some, Option.some.injEq] at taken
    rw [← taken.2]
    grind [exclusive_congr]

theorem run_exclusive {bucket : SaveCacheKey → Option StoredMessage}
    (run : Run dnsCacheStep (Guarded key) (idleDNSCache bucket) state) : state.Exclusive key :=
  run.invariant (fun state => state.Exclusive key) (idle_exclusive bucket key)
    (fun _ _ _ exclusive guarded taken => step_exclusive exclusive guarded taken)

-- The message is pending, and saved if its flusher is about to delete it; or
-- it is in the database only.
def DNSCacheState.Keeps (state : DNSCacheState) (key : SaveCacheKey) (rawMessage : List UInt8) (expireAt : Int) : Prop :=
  (∃ entry, state.saveDNSCache key = some entry ∧ entry.rawMessage = rawMessage ∧ entry.expireAt = expireAt ∧
    ∀ goroutine old, state.flushers goroutine = some ⟨key, .comparing old⟩ → old.sequence = entry.sequence →
      state.bucket key = some (storedMessage rawMessage expireAt)) ∨
    (state.saveDNSCache key = none ∧ state.bucket key = some (storedMessage rawMessage expireAt))

section
variable {expireAt : Int} {goroutine : Nat}

theorem save_keeps (exclusive : state.Exclusive key) (counts : (state.pendingEntry key).sequence + 1 < 2 ^ 64)
    (taken : state.saveDNSCacheAsync key rawMessage expireAt goroutine = some result) : result.Keeps key rawMessage expireAt := by
  refine .inl ⟨queuedEntry (state.pendingEntry key) rawMessage expireAt, ?_, rfl, rfl, ?_⟩
  · rw [(save_cases taken).1, put_same]
  intro _ _ active same
  exact absurd same (Nat.ne_of_lt (save_outdates exclusive counts taken active rfl))

theorem keeps_congr (keeps : state.Keeps key rawMessage expireAt)
    (pending : result.saveDNSCache key = state.saveDNSCache key) (bucket : result.bucket key = state.bucket key)
    (fewer : ∀ goroutine old, result.flushers goroutine = some ⟨key, .comparing old⟩ →
      state.flushers goroutine = some ⟨key, .comparing old⟩) : result.Keeps key rawMessage expireAt := by
  grind [DNSCacheState.Keeps]

theorem moved_comparing {phase : FlushPhase} (elsewhere : ∀ old, owner = key → phase ≠ .comparing old) (running : Nat)
    (old : SaveDNSCacheEntry) (active : put state.flushers goroutine ⟨owner, phase⟩ running = some ⟨key, .comparing old⟩) :
    state.flushers running = some ⟨key, .comparing old⟩ := by grind

theorem save_other_keeps (keeps : state.Keeps key rawMessage expireAt) {message : List UInt8}
    {expires : Int} (other : owner ≠ key) (taken : state.saveDNSCacheAsync owner message expires goroutine = some result) :
    result.Keeps key rawMessage expireAt := by
  obtain ⟨pending, bucket, flushers⟩ := save_cases taken
  refine keeps_congr keeps ?_ (by rw [bucket]) ?_
  · rw [pending, put_other _ _ _ _ (Ne.symm other)]
  intro running old active
  obtain ⟨_, kept⟩ | ⟨_, _, spawned⟩ := flushers
  · rwa [← kept]
  rw [spawned] at active
  grind

theorem flush_keeps (exclusive : state.Exclusive key) (keeps : state.Keeps key rawMessage expireAt)
    (taken : state.flushStep goroutine = some result) : result.Keeps key rawMessage expireAt := by
  obtain ⟨owner, _, found, cases⟩ := flush_cases taken
  rcases cases with ⟨absent, rfl⟩ | ⟨entry, present, rfl⟩ | ⟨entry, rfl, rfl⟩ | rfl | ⟨old, current, rfl, present, same, rfl⟩
  · exact keeps_congr keeps rfl rfl (fun running old active => (erase_eq_some.mp active).2)
  · exact keeps_congr keeps rfl rfl (moved_comparing (fun _ _ => nofun))
  · by_cases own : owner = key
    · subst own
      rcases keeps with ⟨pending, present, raw, expires, _⟩ | ⟨absent, _⟩
      · refine .inl ⟨pending, present, raw, expires, ?_⟩
        intro running old active same
        -- the only flusher of the key is the one that has just saved
        have here : running = goroutine := by
          by_contra elsewhere
          have before : state.flushers running = some ⟨owner, .comparing old⟩ :=
            (put_other _ _ _ _ elsewhere).symm.trans active
          grind [exclusive.single]
        subst here
        have holds : entry = old := by
          have now := (put_same state.flushers running ⟨owner, .comparing entry⟩).symm.trans active
          cases now
          rfl
        subst holds
        have equal := (exclusive.held pending running _ entry present found rfl).2 same
        rw [← raw, ← expires, ← equal]
        exact put_same _ _ _
      · exact absurd found (exclusive.idle absent goroutine _)
    refine keeps_congr keeps rfl ?_ (moved_comparing (fun _ same => absurd same own))
    exact put_other _ _ _ _ (Ne.symm own)
  · exact keeps_congr keeps rfl rfl (moved_comparing (fun _ _ => nofun))
  by_cases own : owner = key
  · subst own
    rcases keeps with ⟨pending, found', raw, expires, saved⟩ | ⟨absent, _⟩
    · rw [present] at found'
      cases found'
      exact .inr ⟨erase_same _ _, saved goroutine old found same.symm⟩
    · grind
  refine keeps_congr keeps ?_ rfl (fun running old active => (erase_eq_some.mp active).2)
  exact erase_other _ _ _ (Ne.symm own)

end

def QuietFor (key : SaveCacheKey) (_ : DNSCacheState) : DNSCacheStep → Prop
  | .save owner _ _ _ => owner ≠ key
  | .flush _ => True
  | .clearPending _ => False
  | .dropBucket _ => False

theorem quiet_run_keeps {rawMessage : List UInt8} {expireAt : Int} {later : DNSCacheState}
    (run : Run dnsCacheStep (QuietFor key) state later) (exclusive : state.Exclusive key)
    (keeps : state.Keeps key rawMessage expireAt) : later.Exclusive key ∧ later.Keeps key rawMessage expireAt := by
  refine run.invariant (fun state => state.Exclusive key ∧ state.Keeps key rawMessage expireAt) ⟨exclusive, keeps⟩ ?_
  intro before step after both quiet taken
  cases step with
  | save =>
    exact ⟨save_other_exclusive both.1 quiet taken, save_other_keeps both.2 quiet taken⟩
  | flush => exact ⟨flush_exclusive both.1 taken, flush_keeps both.1 both.2 taken⟩
  | clearPending | dropBucket => contradiction

theorem pending_writes_not_lost (key : SaveCacheKey) (bucket : SaveCacheKey → Option StoredMessage)
    (rawMessage : List UInt8) (expireAt : Int) (goroutine : Nat) (before queued later : DNSCacheState)
    (run : Run dnsCacheStep (Guarded key) (idleDNSCache bucket) before)
    (guarded : Guarded key before (.save key rawMessage expireAt goroutine))
    (taken : dnsCacheStep before (.save key rawMessage expireAt goroutine) = some queued)
    (quiet : Run dnsCacheStep (QuietFor key) queued later) :
    (∃ expires, later.loadDNSCache key = some (rawMessage, expires) ∧ unixSecond expires = unixSecond expireAt) ∧
      ((∀ goroutine phase, later.flushers goroutine ≠ some ⟨key, phase⟩) →
        later.bucket key = some (storedMessage rawMessage expireAt)) := by
  have exclusive := run_exclusive run
  obtain ⟨settled, keeps⟩ :=
    quiet_run_keeps quiet (save_exclusive exclusive (guarded rfl) taken) (save_keeps exclusive (guarded rfl) taken)
  rcases keeps with ⟨entry, present, raw, expires, _⟩ | ⟨absent, stored⟩
  · refine ⟨⟨expireAt, ?_, rfl⟩, fun stopped => ?_⟩
    · simp only [DNSCacheState.loadDNSCache, present, raw, expires]
    obtain ⟨_, running, phase, active⟩ := settled.busy entry present
    grind
  refine ⟨⟨unixSecond expireAt * nanosecondsPerSecond, ?_, ?_⟩, fun _ => stored⟩
  · simp only [DNSCacheState.loadDNSCache, absent, stored, Option.map_some, storedMessage]
  · exact Int.mul_ediv_cancel _ (by decide)

def exampleKey : SaveCacheKey := ⟨"local", "example.org.", 1⟩

-- The sequence starts again behind the clear: the flusher of the first message
-- saves it and then deletes the second one's entry as its own.
theorem clear_restarts_sequence :
    ¬ ∀ (key : SaveCacheKey) (bucket : SaveCacheKey → Option StoredMessage) (rawMessage : List UInt8) (expireAt : Int)
      (goroutine : Nat) (before queued later : DNSCacheState),
      Run dnsCacheStep anyStep (idleDNSCache bucket) before →
      dnsCacheStep before (.save key rawMessage expireAt goroutine) = some queued →
      Run dnsCacheStep (QuietFor key) queued later →
      ∃ expires, later.loadDNSCache key = some (rawMessage, expires) ∧ unixSecond expires = unixSecond expireAt := by
  intro kept
  have run : Run dnsCacheStep anyStep (idleDNSCache (fun _ => none)) _ :=
    run_of_execute [.save exampleKey [1] 0 0, .flush 0, .clearPending 0, .dropBucket 0] _ _ (fun _ _ _ => trivial) rfl
  obtain ⟨_, loaded, _⟩ := kept exampleKey _ [2] 0 1 _ _ _ run rfl
    (run_of_execute [.flush 0, .flush 0] _ _ (by simp [QuietFor]) rfl)
  have message : some ([1] : List UInt8) = some [2] := congrArg (Option.map Prod.fst) loaded
  contradiction

theorem single_save_flushed :
    ∃ queued later, dnsCacheStep (idleDNSCache (fun _ => none)) (.save exampleKey [1] 0 0) = some queued ∧
      Run dnsCacheStep (QuietFor exampleKey) queued later ∧
      later.bucket exampleKey = some (storedMessage [1] 0) := by
  have guarded : Guarded exampleKey (idleDNSCache (fun _ => none)) (.save exampleKey [1] 0 0) := fun _ => by decide
  refine ⟨_, _, rfl, run_of_execute [.flush 0, .flush 0, .flush 0] _ _ (by simp [QuietFor]) rfl, ?_⟩
  refine (pending_writes_not_lost exampleKey (fun _ => none) [1] 0 0 _ _ _ Run.refl guarded rfl
    (run_of_execute [.flush 0, .flush 0, .flush 0] _ _ (by simp [QuietFor]) rfl)).2 ?_
  intro goroutine phase active
  cases goroutine <;> contradiction

end OtunKernel.Dns
