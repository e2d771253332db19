import OtunKernel.Dns.ClientCache

namespace OtunKernel.Dns

open Net Lib

-- Where the goroutine of SaveRDRCAsync is: before it takes the time, before
-- the transaction of SaveRDRC, before it deletes the pending entry.
inductive SaverPhase where
  | stamping
  | writing (expiresAt : Int)
  | deleting
deriving DecidableEq, Repr

structure Saver where
  key : SaveCacheKey
  rejectedAt : Int
  phase : SaverPhase
deriving DecidableEq, Repr

-- The pending map, the bucket with the second in which each entry expires, and
-- the goroutines that save.
structure RDRCFile where
  saveRDRC : SaveCacheKey → Bool := fun _ => false
  bucket : SaveCacheKey → Option Int := fun _ => none
  savers : Nat → Option Saver := fun _ => none

def rdrcTimeout (option : Int) : Int := if option > 0 then option else 7 * 24 * 3600 * nanosecondsPerSecond

def expired (now expiresAt : Int) : Bool := now > expiresAt * nanosecondsPerSecond

namespace RDRCFile

def saveRDRCAsync (file : RDRCFile) (key : SaveCacheKey) (now : Int) (goroutine : Nat) : RDRCFile :=
  { file with
    saveRDRC := Function.update file.saveRDRC key true
    savers := put file.savers goroutine ⟨key, now, .stamping⟩ }

def saveStep (file : RDRCFile) (timeout now : Int) (goroutine : Nat) (fails : Bool) : Option RDRCFile :=
  match file.savers goroutine with
  | none => none
  | some ⟨key, rejectedAt, .stamping⟩ =>
    some { file with
      savers := put file.savers goroutine ⟨key, rejectedAt, .writing (unixSecond (now + timeout))⟩ }
  | some ⟨key, rejectedAt, .writing expiresAt⟩ =>
    some { file with
      bucket := if fails then file.bucket else put file.bucket key expiresAt
      savers := put file.savers goroutine ⟨key, rejectedAt, .deleting⟩ }
  | some ⟨key, _, .deleting⟩ =>
    some { file with
      saveRDRC := Function.update file.saveRDRC key false
      savers := erase file.savers goroutine }

def cleanupRDRC (file : RDRCFile) (now : Int) : RDRCFile :=
  { file with bucket := fun key => (file.bucket key).filter (fun expiresAt => !expired now expiresAt) }

end RDRCFile

-- An Exchange that found no cached answer: LoadRDRC reads the pending map,
-- then the bucket, and deletes an expired entry; then the transport is asked.
-- A background refresh asks at once.
inductive AskPhase where
  | loading
  | viewing
  | deleting
  | asking
  | refreshing
deriving DecidableEq, Repr

section
variable {Rule : Type}

structure RuleCall (Rule : Type) where
  transport : DNSTransport
  message : Msg
  options : DNSQueryOptions
  rule : Option Rule
  contextTransport : Option String

structure Asking (Rule : Type) where
  key : SaveCacheKey
  message : Msg
  disableCache : Bool
  rule : Option Rule
  phase : AskPhase

structure Rejection (Rule : Type) where
  key : SaveCacheKey
  rule : Option Rule
  response : Msg
  time : Int

structure CachedRejection (Rule : Type) where
  key : SaveCacheKey
  rule : Option Rule
  time : Int

structure RejectionState (Rule : Type) where
  now : Int := 0
  file : RDRCFile := {}
  calls : Nat → Option (Asking Rule) := fun _ => none
  rejections : List (Rejection Rule) := []
  cached : List (CachedRejection Rule) := []

-- resetBucket is the second half of clearRDRC, or a database that was reset.
inductive RejectionEvent (Rule : Type) where
  | exchange (goroutine : Nat) (call : RuleCall Rule)
  | refresh (goroutine : Nat) (call : RuleCall Rule)
  | proceed (goroutine : Nat) (viewFails : Bool) (upstream : Upstream) (saver : Nat)
  | save (saver : Nat) (fails : Bool)
  | tick (now : Int)
  | cleanup
  | clearPending
  | resetBucket
  | restart

namespace RejectionState

variable (config : ClientConfig) (check : Rule → Msg → Bool)

def start (state : RejectionState Rule) (goroutine : Nat) (call : RuleCall Rule) (question : Question) (disableCache : Bool)
    (phase : AskPhase) : Option (RejectionState Rule) :=
  if (state.calls goroutine).isSome then none
  else
    some { state with
      calls := put state.calls goroutine
        ⟨(cacheKey call.transport question).saveKey, prepareExchangeMessage config call.message call.options,
          disableCache, call.rule, phase⟩ }

def exchange (state : RejectionState Rule) (goroutine : Nat) (call : RuleCall Rule) : Option (RejectionState Rule) :=
  match call.message.question with
  | [] => some state
  | question :: _ =>
    if strategyRejected question call.options || call.contextTransport == some call.transport.tag then some state
    else
      let disableCache := cacheDisabled config call.message call.options
      state.start config goroutine call question disableCache
        (if !disableCache && call.rule.isSome then .loading else .asking)

def refresh (state : RejectionState Rule) (goroutine : Nat) (call : RuleCall Rule) : Option (RejectionState Rule) :=
  match call.message.question with
  | [] => none
  | question :: _ => state.start config goroutine call question false .refreshing

def move (state : RejectionState Rule) (goroutine : Nat) (asking : Asking Rule) (phase : AskPhase) : RejectionState Rule :=
  { state with calls := put state.calls goroutine { asking with phase := phase } }

def finish (state : RejectionState Rule) (goroutine : Nat) : RejectionState Rule :=
  { state with calls := erase state.calls goroutine }

def returnCached (state : RejectionState Rule) (goroutine : Nat) (asking : Asking Rule) : RejectionState Rule :=
  { state.finish goroutine with cached := ⟨asking.key, asking.rule, state.now⟩ :: state.cached }

def reject (state : RejectionState Rule) (goroutine : Nat) (asking : Asking Rule) (response : Msg) (saver : Nat) :
    RejectionState Rule :=
  { state.finish goroutine with
    file := state.file.saveRDRCAsync asking.key state.now saver
    rejections := ⟨asking.key, asking.rule, response, state.now⟩ :: state.rejections }

-- Exchange does not remember an answer with another rcode, which is rejected
-- without the filter; the refresh does.
def remembers (asking : Asking Rule) (response : Msg) : Bool :=
  rejects (asking.rule.map check) response &&
    (asking.phase == .refreshing || !(asking.disableCache || !isCacheable response.rcode))

def hear (state : RejectionState Rule) (goroutine : Nat) (asking : Asking Rule) (upstream : Upstream) (saver : Nat) :
    RejectionState Rule :=
  match exchangeToTransport asking.message upstream with
  | .error _ => state.finish goroutine
  | .ok response =>
    if remembers check asking response then state.reject goroutine asking response saver else state.finish goroutine

def view (state : RejectionState Rule) (goroutine : Nat) (asking : Asking Rule) : RejectionState Rule :=
  match state.file.bucket asking.key with
  | none => state.move goroutine asking .asking
  | some expiresAt =>
    if expired state.now expiresAt then state.move goroutine asking .deleting
    else state.returnCached goroutine asking

def proceed (state : RejectionState Rule) (goroutine : Nat) (viewFails : Bool) (upstream : Upstream) (saver : Nat) :
    Option (RejectionState Rule) :=
  match state.calls goroutine with
  | none => none
  | some asking =>
    match asking.phase with
    | .loading =>
      if state.file.saveRDRC asking.key then some (state.returnCached goroutine asking)
      else some (state.move goroutine asking .viewing)
    | .viewing => some (if viewFails then state.move goroutine asking .asking else state.view goroutine asking)
    | .deleting =>
      let deleted := { state with file := { state.file with bucket := erase state.file.bucket asking.key } }
      some (deleted.move goroutine asking .asking)
    | .asking | .refreshing =>
      if (state.file.savers saver).isSome then none else some (state.hear check goroutine asking upstream saver)

end RejectionState

def rejectionStep (config : ClientConfig) (check : Rule → Msg → Bool) (timeout : Int) :
    System (RejectionState Rule) (RejectionEvent Rule)
  | state, .exchange goroutine call => state.exchange config goroutine call
  | state, .refresh goroutine call => state.refresh config goroutine call
  | state, .proceed goroutine viewFails upstream saver => state.proceed check goroutine viewFails upstream saver
  | state, .save saver fails => (state.file.saveStep timeout state.now saver fails).map (fun file => { state with file := file })
  | state, .tick now => if now < state.now then none else some { state with now := now }
  | state, .cleanup => some { state with file := state.file.cleanupRDRC state.now }
  | state, .clearPending => some { state with file := { state.file with saveRDRC := fun _ => false } }
  | state, .resetBucket => some { state with file := { state.file with bucket := fun _ => none } }
  | state, .restart => some { state with file := { bucket := state.file.bucket }, calls := fun _ => none }

def RejectedBy (check : Rule → Msg → Bool) (rejections : List (Rejection Rule)) (key : SaveCacheKey) (rule : Rule)
    (time : Int) : Prop :=
  ∃ response, ⟨key, some rule, response, time⟩ ∈ rejections ∧ check rule response = false

def Itself (check : Rule → Msg → Bool) (timeout : Int) (rejections : List (Rejection Rule)) (hit : CachedRejection Rule) : Prop :=
  ∃ rule time, hit.rule = some rule ∧ RejectedBy check rejections hit.key rule time ∧ time ≤ hit.time ∧
    hit.time ≤ time + timeout

def RejectionState.Alone (state : RejectionState Rule) (asking : Asking Rule) : Prop :=
  ∀ rejection ∈ state.rejections, rejection.key = asking.key → rejection.rule = asking.rule

-- A refresh remembers only what the filter rejected; a saver takes the time in
-- the second of the rejection and is done within the timeout.
def RejectionState.Apart (check : Rule → Msg → Bool) (timeout : Int) (state : RejectionState Rule) :
    RejectionEvent Rule → Prop
  | .proceed goroutine _ upstream _ => ∀ asking, state.calls goroutine = some asking →
      match asking.phase with
      | .loading | .viewing => state.Alone asking
      | .refreshing => ∀ rule response, asking.rule = some rule →
          exchangeToTransport asking.message upstream = .ok response → isCacheable response.rcode = false →
            check rule response = false
      | _ => True
  | .save saver _ => ∀ key rejectedAt, state.file.savers saver = some ⟨key, rejectedAt, .stamping⟩ →
      unixSecond (state.now + timeout) * nanosecondsPerSecond ≤ rejectedAt + timeout
  | .tick now => ∀ saver running, state.file.savers saver = some running → now ≤ running.rejectedAt + timeout
  | _ => True

section
variable {check : Rule → Msg → Bool} {timeout : Int}

def Backed (check : Rule → Msg → Bool) (rejections : List (Rejection Rule)) (now : Int) (key : SaveCacheKey) (time : Int) : Prop :=
  time ≤ now ∧ ∃ rule, RejectedBy check rejections key rule time

structure Saver.Due (timeout now : Int) (saver : Saver) : Prop where
  running : now ≤ saver.rejectedAt + timeout
  stamped : ∀ expiresAt, saver.phase = .writing expiresAt → expiresAt * nanosecondsPerSecond ≤ saver.rejectedAt + timeout

structure RejectionState.Justified (check : Rule → Msg → Bool) (timeout : Int) (state : RejectionState Rule) : Prop where
  pending : ∀ key, state.file.saveRDRC key = true → ∃ saver running, state.file.savers saver = some running ∧ running.key = key
  savers : ∀ saver running, state.file.savers saver = some running →
    Backed check state.rejections state.now running.key running.rejectedAt ∧ running.Due timeout state.now
  bucket : ∀ key expiresAt, state.file.bucket key = some expiresAt → ∃ time,
    Backed check state.rejections state.now key time ∧ expiresAt * nanosecondsPerSecond ≤ time + timeout
  cached : ∀ hit ∈ state.cached, Itself check timeout state.rejections hit

variable {rejections : List (Rejection Rule)} {key : SaveCacheKey} {time now : Int} {state result : RejectionState Rule}
  {asking : Asking Rule} {goroutine saver : Nat} {config : ClientConfig} {call : RuleCall Rule}
  {rule : Rule} {response : Msg} {upstream : Upstream}

theorem RejectedBy.more (rejected : RejectedBy check rejections key rule time) (latest : Rejection Rule) :
    RejectedBy check (latest :: rejections) key rule time := by
  obtain ⟨response, member, refused⟩ := rejected
  exact ⟨response, List.mem_cons_of_mem latest member, refused⟩

theorem Backed.more (backed : Backed check rejections now key time) (latest : Rejection Rule) :
    Backed check (latest :: rejections) now key time := by
  obtain ⟨past, rule, rejected⟩ := backed
  exact ⟨past, rule, rejected.more latest⟩

theorem Backed.later {after : Int} (backed : Backed check rejections now key time) (forward : now ≤ after) :
    Backed check rejections after key time :=
  ⟨backed.1.trans forward, backed.2⟩

theorem Itself.more {hit : CachedRejection Rule} (itself : Itself check timeout rejections hit)
    (latest : Rejection Rule) : Itself check timeout (latest :: rejections) hit := by
  obtain ⟨rule, time, same, rejected, past, recent⟩ := itself
  exact ⟨rule, time, same, rejected.more latest, past, recent⟩

theorem Backed.itself (backed : Backed check state.rejections state.now asking.key time) (alone : state.Alone asking)
    (recent : state.now ≤ time + timeout) : Itself check timeout state.rejections ⟨asking.key, asking.rule, state.now⟩ := by
  obtain ⟨past, rule, response, member, refused⟩ := backed
  exact ⟨rule, time, (alone _ member rfl).symm, ⟨response, member, refused⟩, past, recent⟩

theorem remembers_refused (remembered : RejectionState.remembers check asking response = true)
    (filtered : asking.phase = .refreshing → ∀ rule, asking.rule = some rule → isCacheable response.rcode = false →
      check rule response = false) : ∃ rule, asking.rule = some rule ∧ check rule response = false := by
  rw [RejectionState.remembers, Bool.and_eq_true] at remembered
  obtain ⟨rejected, kept⟩ := remembered
  cases under : asking.rule with
  | none => simp [under, rejects] at rejected
  | some rule =>
    by_cases cacheable : isCacheable response.rcode = true
    · simpa [under, rejects, cacheable] using rejected
    by_cases refreshing : asking.phase = .refreshing
    · grind
    · simp [refreshing, cacheable] at kept

section
variable (justified : state.Justified check timeout)
include justified

theorem return_cached_justified (goroutine : Nat)
    (itself : Itself check timeout state.rejections ⟨asking.key, asking.rule, state.now⟩) :
    (state.returnCached goroutine asking).Justified check timeout := by
  refine ⟨justified.pending, justified.savers, justified.bucket, ?_⟩
  intro hit member
  rcases List.mem_cons.mp member with rfl | earlier
  · exact itself
  · exact justified.cached hit earlier

theorem RejectionState.Justified.withCalls
    (calls : Nat → Option (Asking Rule)) : RejectionState.Justified check timeout { state with calls := calls } :=
  ⟨justified.pending, justified.savers, justified.bucket, justified.cached⟩

theorem RejectionState.Justified.shrink {bucket : SaveCacheKey → Option Int}
    (fewer : ∀ key expiresAt, bucket key = some expiresAt → state.file.bucket key = some expiresAt)
    {pending : SaveCacheKey → Bool} (less : ∀ key, pending key = true → state.file.saveRDRC key = true)
    (calls : Nat → Option (Asking Rule)) :
    RejectionState.Justified check timeout
      { state with file := { state.file with bucket := bucket, saveRDRC := pending }, calls := calls } :=
  ⟨fun key present => justified.pending key (less key present), justified.savers,
    fun key expiresAt present => justified.bucket key expiresAt (fewer key expiresAt present), justified.cached⟩

theorem view_justified (goroutine : Nat)
    (alone : ∀ rejection ∈ state.rejections, rejection.key = asking.key → rejection.rule = asking.rule) :
    (state.view goroutine asking).Justified check timeout := by
  rw [RejectionState.view]
  split
  · exact justified.withCalls _
  rename_i expiresAt present
  by_cases gone : expired state.now expiresAt = true
  · rw [if_pos gone]
    exact justified.withCalls _
  rw [if_neg gone]
  obtain ⟨_, backed, within⟩ := justified.bucket asking.key expiresAt present
  have fresh : state.now ≤ expiresAt * nanosecondsPerSecond := by simpa [expired] using gone
  exact return_cached_justified justified goroutine (backed.itself alone (fresh.trans within))

theorem load_justified (goroutine : Nat) (alone : state.Alone asking)
    (pending : state.file.saveRDRC asking.key = true) : (state.returnCached goroutine asking).Justified check timeout := by
  obtain ⟨saver, running, found, owner⟩ := justified.pending asking.key pending
  obtain ⟨backed, due⟩ := justified.savers saver running found
  grind [return_cached_justified, Backed.itself, due.running]

theorem saver_moved {rejectedAt : Int} {before after : SaverPhase}
    (found : state.file.savers saver = some ⟨key, rejectedAt, before⟩)
    (stamped : ∀ expiresAt, after = .writing expiresAt → expiresAt * nanosecondsPerSecond ≤ rejectedAt + timeout) :
    RejectionState.Justified check timeout
      { state with file := { state.file with savers := put state.file.savers saver ⟨key, rejectedAt, after⟩ } } := by
  refine ⟨?_, ?_, justified.bucket, justified.cached⟩
  · intro other present
    obtain ⟨holder, running, held, owner⟩ := justified.pending other present
    by_cases same : holder = saver
    · subst same
      rw [found] at held
      cases held
      exact ⟨holder, _, put_same _ _ _, owner⟩
    · exact ⟨holder, running, (put_other _ _ _ _ same).trans held, owner⟩
  intro other running held
  rcases put_eq_some.mp held with ⟨rfl, rfl⟩ | ⟨_, held⟩
  · obtain ⟨backed, due⟩ := justified.savers other _ found
    exact ⟨backed, due.running, stamped⟩
  · exact justified.savers other running held

theorem save_justified {file : RDRCFile} {fails : Bool}
    (apart : state.Apart check timeout (.save saver fails))
    (taken : state.file.saveStep timeout state.now saver fails = some file) :
    RejectionState.Justified check timeout { state with file := file } := by
  revert taken
  fun_cases RDRCFile.saveStep state.file timeout state.now saver fails <;> rintro ⟨⟩
  · rename_i key rejectedAt found
    apply saver_moved justified found
    rintro _ ⟨⟩
    exact apart key rejectedAt found
  · rename_i key rejectedAt expiresAt found
    have moved : RejectionState.Justified check timeout { state with
        file := { state.file with savers := put state.file.savers saver ⟨key, rejectedAt, .deleting⟩ } } :=
      saver_moved justified found (fun _ => SaverPhase.noConfusion)
    cases fails with
    | true => exact moved
    | false =>
      refine ⟨moved.pending, moved.savers, ?_, moved.cached⟩
      intro other second present
      rcases put_eq_some.mp present with ⟨rfl, rfl⟩ | ⟨_, present⟩
      · obtain ⟨backed, due⟩ := justified.savers saver _ found
        exact ⟨rejectedAt, backed, due.stamped _ rfl⟩
      · exact justified.bucket other second present
  rename_i key _ found
  refine ⟨?_, ?_, justified.bucket, justified.cached⟩
  · intro other present
    have different : other ≠ key := by grind
    obtain ⟨holder, running, held, owner⟩ := justified.pending other (by simpa [different] using present)
    refine ⟨holder, running, erase_eq_some.mpr ⟨?_, held⟩, owner⟩
    grind
  · grind [justified.savers]

theorem start_justified {question : Question} {disableCache : Bool} {phase : AskPhase}
    (taken : state.start config goroutine call question disableCache phase = some result) : result.Justified check timeout := by
  rw [RejectionState.start] at taken
  grind [justified.withCalls]

theorem exchange_justified (taken : state.exchange config goroutine call = some result) : result.Justified check timeout := by
  rw [RejectionState.exchange] at taken
  grind [start_justified]

theorem refresh_justified (taken : state.refresh config goroutine call = some result) : result.Justified check timeout := by
  rw [RejectionState.refresh] at taken
  grind [start_justified]

theorem tick_justified (forward : state.now ≤ now)
    (done : ∀ saver running, state.file.savers saver = some running → now ≤ running.rejectedAt + timeout) :
    RejectionState.Justified check timeout { state with now := now } := by
  refine ⟨justified.pending, ?_, ?_, justified.cached⟩
  · intro saver running found
    obtain ⟨backed, due⟩ := justified.savers saver running found
    exact ⟨backed.later forward, done saver running found, due.stamped⟩
  intro key expiresAt present
  obtain ⟨time, backed, within⟩ := justified.bucket key expiresAt present
  exact ⟨time, backed.later forward, within⟩

end

section
variable (positive : 0 ≤ timeout) (justified : state.Justified check timeout)
include positive justified

theorem reject_justified (goroutine saver : Nat) (free : state.file.savers saver = none) (under : asking.rule = some rule)
    (refused : check rule response = false) : (state.reject goroutine asking response saver).Justified check timeout := by
  let latest : Rejection Rule := ⟨asking.key, asking.rule, response, state.now⟩
  have here : RejectedBy check (latest :: state.rejections) asking.key rule state.now :=
    ⟨response, under ▸ List.mem_cons_self, refused⟩
  refine ⟨?_, ?_, ?_, fun hit member => (justified.cached hit member).more latest⟩
  · intro key present
    by_cases same : key = asking.key
    · exact ⟨saver, _, put_same _ _ _, same.symm⟩
    obtain ⟨other, running, found, owner⟩ := justified.pending key (by
      simpa [RejectionState.reject, RDRCFile.saveRDRCAsync, same] using present)
    refine ⟨other, running, put_eq_some.mpr (.inr ⟨?_, found⟩), owner⟩
    rintro rfl
    simp [free] at found
  · intro other running found
    rcases put_eq_some.mp found with ⟨rfl, rfl⟩ | ⟨_, found⟩
    · refine ⟨⟨le_refl _, rule, here⟩, ?_, fun _ => SaverPhase.noConfusion⟩
      change state.now ≤ state.now + timeout
      omega
    obtain ⟨backed, due⟩ := justified.savers other running found
    exact ⟨backed.more latest, due⟩
  intro key expiresAt present
  obtain ⟨time, backed, within⟩ := justified.bucket key expiresAt present
  exact ⟨time, backed.more latest, within⟩

theorem hear_justified (goroutine saver : Nat) (free : state.file.savers saver = none)
    (filtered : asking.phase = .refreshing → ∀ rule response, asking.rule = some rule →
      exchangeToTransport asking.message upstream = .ok response → isCacheable response.rcode = false →
        check rule response = false) : (state.hear check goroutine asking upstream saver).Justified check timeout := by
  have done : (state.finish goroutine).Justified check timeout := justified.withCalls _
  rw [RejectionState.hear]
  split
  · exact done
  rename_i response heard
  by_cases remembered : RejectionState.remembers check asking response = true
  · obtain ⟨rule, under, refused⟩ := remembers_refused remembered
      (fun refreshing rule under => filtered refreshing rule response under heard)
    grind [reject_justified]
  · simp [remembered, done]

theorem proceed_justified {viewFails : Bool} (apart : state.Apart check timeout (.proceed goroutine viewFails upstream saver))
    (taken : state.proceed check goroutine viewFails upstream saver = some result) : result.Justified check timeout := by
  rw [RejectionState.proceed] at taken
  cases found : state.calls goroutine with
  | none => simp [found] at taken
  | some asking =>
    have condition := apart asking found
    rw [found] at taken
    cases phase : asking.phase with
    | loading =>
      simp only [phase] at taken condition
      split at taken
      · grind [load_justified]
      cases taken
      exact justified.withCalls _
    | viewing =>
      simp only [phase] at taken condition
      cases taken
      cases viewFails
      · exact view_justified justified goroutine condition
      · exact justified.withCalls _
    | deleting =>
      simp only [phase] at taken
      cases taken
      exact justified.shrink (fun key expiresAt present => (erase_eq_some.mp present).2) (fun _ present => present) _
    | asking | refreshing => grind [Option.not_isSome_iff_eq_none, hear_justified]

theorem rejection_step_justified {event : RejectionEvent Rule} (apart : state.Apart check timeout event)
    (taken : rejectionStep config check timeout state event = some result) : result.Justified check timeout := by
  cases event with
  | exchange => exact exchange_justified justified taken
  | refresh => exact refresh_justified justified taken
  | proceed => exact proceed_justified positive justified apart taken
  | save =>
    obtain ⟨_, saved, rfl⟩ := Option.map_eq_some_iff.mp taken
    exact save_justified justified apart saved
  | tick =>
    rw [rejectionStep] at taken
    split at taken
    · contradiction
    rename_i forward
    cases taken
    exact tick_justified justified (not_lt.mp forward) apart
  | cleanup =>
    cases taken
    exact justified.shrink (fun key expiresAt present => (Option.filter_eq_some_iff.mp present).1)
      (fun _ present => present) state.calls
  | clearPending =>
    cases taken
    exact justified.shrink (fun _ _ present => present) (by intro _ present; contradiction) state.calls
  | resetBucket =>
    cases taken
    exact justified.shrink (by intro _ _ present; contradiction) (fun _ present => present) state.calls
  | restart =>
    cases taken
    exact ⟨by simp, by simp, justified.bucket, justified.cached⟩

end
end

theorem rdrc_timeout_positive (option : Int) : 0 ≤ rdrcTimeout option := by
  rw [rdrcTimeout]
  split
  · omega
  · decide

theorem cached_rejections_itself (config : ClientConfig) (check : Rule → Msg → Bool) (option : Int)
    (state : RejectionState Rule)
    (run : Run (rejectionStep config check (rdrcTimeout option)) (RejectionState.Apart check (rdrcTimeout option)) {} state) :
    ∀ hit ∈ state.cached, Itself check (rdrcTimeout option) state.rejections hit := by
  have justified : state.Justified check (rdrcTimeout option) := by
    refine run.invariant (RejectionState.Justified check (rdrcTimeout option)) ⟨by simp, by simp, by simp, by simp⟩ ?_
    grind [rejection_step_justified, rdrc_timeout_positive]
  exact justified.cached

end

def addressCall (address : Addr) : RuleCall Addr where
  transport := { tag := "local" }
  message := ⟨1, false, rcodeSuccess, [exampleQuestion], [], [], []⟩
  options := {}
  rule := some address
  contextTransport := none

def askUncached (goroutine : Nat) (address : Addr) : List (RejectionEvent Addr) :=
  [.exchange goroutine (addressCall address), .proceed goroutine false (.response exampleAnswer) 0,
    .proceed goroutine false (.response exampleAnswer) 0, .proceed goroutine false (.response exampleAnswer) 0]

theorem cached_rejections_itself_same_rule :
    ∃ state, Run (rejectionStep exampleConfig onlyAddress (rdrcTimeout 0)) (RejectionState.Apart onlyAddress (rdrcTimeout 0))
        {} state ∧
      state.cached = [⟨⟨"local", "example.org.", typeA⟩, some (.v4 0x0a000001#32), 0⟩] ∧
      ∀ hit ∈ state.cached, Itself onlyAddress (rdrcTimeout 0) state.rejections hit := by
  let answer : Upstream := .response exampleAnswer
  let proceed (goroutine : Nat) : RejectionEvent Addr := .proceed goroutine false answer 0
  let exchange (goroutine : Nat) : RejectionEvent Addr := .exchange goroutine (addressCall (.v4 0x0a000001#32))
  have asked : Run (rejectionStep exampleConfig onlyAddress (rdrcTimeout 0))
      (RejectionState.Apart onlyAddress (rdrcTimeout 0)) {} _ := Run.next (exchange 0) Run.refl trivial rfl
  have loaded := Run.next (proceed 0) asked (by rintro asking ⟨⟩ rejection member; contradiction) rfl
  have viewed := Run.next (proceed 0) loaded (by rintro asking ⟨⟩ rejection member; contradiction) rfl
  have rejected := Run.next (proceed 0) viewed (by rintro asking ⟨⟩; trivial) rfl
  have again := Run.next (exchange 1) rejected trivial rfl
  have hit := Run.next (proceed 1) again (by
    rintro asking ⟨⟩ rejection member _
    exact List.mem_singleton.mp member ▸ rfl) rfl
  exact ⟨_, hit, rfl, cached_rejections_itself exampleConfig onlyAddress 0 _ hit⟩

theorem rejection_of_another_rule :
    ∃ state, Run (rejectionStep exampleConfig onlyAddress (rdrcTimeout 0)) anyStep {} state ∧
      ∃ hit ∈ state.cached, hit.rule = some (.v4 0x01020304#32) ∧
        onlyAddress (.v4 0x01020304#32) exampleAnswer = true ∧
        ¬ Itself onlyAddress (rdrcTimeout 0) state.rejections hit := by
  obtain ⟨state, executed, rules, cached⟩ : ∃ state, execute (rejectionStep exampleConfig onlyAddress (rdrcTimeout 0)) {}
      (askUncached 0 (.v4 0x0a000001#32) ++
        [.exchange 1 (addressCall (.v4 0x01020304#32)), .proceed 1 false (.failed "") 1]) = some state ∧
      state.rejections.map Rejection.rule = [some (.v4 0x0a000001#32)] ∧
      state.cached = [⟨⟨"local", "example.org.", typeA⟩, some (.v4 0x01020304#32), 0⟩] := ⟨_, rfl, rfl, rfl⟩
  have run := run_of_execute _ _ _ (fun _ _ _ => trivial) executed
  refine ⟨state, run, _, cached ▸ List.mem_singleton_self _, rfl, by decide, ?_⟩
  rintro ⟨rule, time, ⟨⟩, ⟨response, member, _⟩, _⟩
  have listed : some (.v4 0x01020304#32) ∈ state.rejections.map Rejection.rule := List.mem_map_of_mem member
  grind

end OtunKernel.Dns
