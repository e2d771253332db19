import OtunKernel.Dns.Hints

namespace OtunKernel.Dns

open Lib

inductive AnswerKind where
  | exchange
  | lookup
  | refresh
deriving DecidableEq, Repr

-- Where a call or a refresh stands: before the cache (the pending map, with a
-- cache file), the bucket, the transport's answer, the store. stamp is the
-- number of clears begun when the answer came.
inductive AnswerPhase where
  | loading
  | viewing
  | asking
  | storing (response : Msg) (timeToLive : UInt32) (stamp : Nat)
deriving DecidableEq, Repr

structure AnswerCall where
  key : DNSCacheKey
  message : Msg
  options : DNSQueryOptions
  responseChecker : Checker
  loopback : Bool
  disableCache : Bool
  kind : AnswerKind
  phase : AnswerPhase

structure Clear where
  index : Nat
  purged : Bool
deriving DecidableEq, Repr

structure Heard where
  key : DNSCacheKey
  message : Msg
  options : DNSQueryOptions
  upstream : Upstream
  stamp : Nat

structure Served where
  key : DNSCacheKey
  response : Msg
  cleared : Nat

-- Only one of memory and file is in use. The fields from begun on are history:
-- the clears begun, the latest purged, the latest completed, the answers of
-- the transports and the responses from the cache.
structure AnswerState where
  memory : DNSCacheKey → Option (Msg × Int) := fun _ => none
  file : DNSCacheState := idleDNSCache (fun _ => none)
  backgroundRefresh : DNSCacheKey → Bool := fun _ => false
  calls : Nat → Option AnswerCall := fun _ => none
  clears : Nat → Option Clear := fun _ => none
  begun : Nat := 0
  purged : Nat := 0
  cleared : Nat := 0
  heard : List Heard := []
  served : List Served := []

-- What a step takes from outside: the time, the transport's answer, whether
-- its transaction fails, and the goroutines it may start.
structure AnswerInput where
  now : Int
  upstream : Upstream
  viewFails : Bool
  flusher : Nat
  refresher : Nat

-- leave ends without an answer: its context is done, or the rejection cache
-- has the question. flushFails and dropFails are failing transactions,
-- resetBucket is a reset database.
inductive AnswerEvent where
  | exchange (goroutine : Nat) (call : LookupCall) (message : Msg)
  | lookup (goroutine : Nat) (call : LookupCall) (question : Question)
  | proceed (goroutine : Nat) (input : AnswerInput)
  | leave (goroutine : Nat)
  | flush (flusher : Nat)
  | flushFails (flusher : Nat)
  | beginClear (goroutine : Nat)
  | purge (goroutine : Nat)
  | drop (goroutine : Nat)
  | dropFails (goroutine : Nat)
  | cleanup (now : Int)
  | resetBucket
  | evict (key : DNSCacheKey)
  | restart

def memoryClient (memory : DNSCacheKey → Option (Msg × Int)) : ClientState := ⟨none, none, some memory, fun _ => none⟩

def DNSCacheState.loadBucket (file : DNSCacheState) (key : SaveCacheKey) : Option (List UInt8 × Int) :=
  (file.bucket key).map (fun stored => (stored.rawMessage, stored.expireSecond * nanosecondsPerSecond))

def DNSCacheState.flushFails (file : DNSCacheState) (goroutine : Nat) : Option DNSCacheState :=
  match file.flushers goroutine with
  | some ⟨key, .saving entry⟩ => some (file.moveFlusher goroutine ⟨key, .comparing entry⟩)
  | _ => none

def DNSCacheState.cleanupDNSCache (config : ClientConfig) (file : DNSCacheState) (now : Int) : DNSCacheState :=
  { file with bucket := fun key => (file.bucket key).filter (fun stored =>
      config.disableExpire || !decide (now > stored.expireSecond * nanosecondsPerSecond + config.optimisticTimeout)) }

namespace AnswerState

variable (config : ClientConfig)

def start (state : AnswerState) (goroutine : Nat) (call : AnswerCall) : Option AnswerState :=
  if (state.calls goroutine).isSome then none else some { state with calls := put state.calls goroutine call }

def exchange (state : AnswerState) (goroutine : Nat) (call : LookupCall) (message : Msg) : Option AnswerState :=
  match message.question with
  | [] => some state
  | question :: _ =>
    if strategyRejected question call.options then some state
    else
      let disableCache := cacheDisabled config message call.options
      state.start goroutine
        { key := cacheKey call.transport question
          message := prepareExchangeMessage config message call.options
          options := call.options
          responseChecker := call.responseChecker
          loopback := call.contextTransport == some call.transport.tag
          disableCache := disableCache
          kind := .exchange
          phase := if disableCache then .asking else .loading }

def lookup (state : AnswerState) (goroutine : Nat) (call : LookupCall) (question : Question) : Option AnswerState :=
  if config.disableCache || call.options.disableCache then some state
  else
    state.start goroutine
      { key := cacheKey call.transport question
        message := prepareExchangeMessage config ⟨0, false, rcodeSuccess, [question], [], [], []⟩ call.options
        options := call.options
        responseChecker := call.responseChecker
        loopback := false
        disableCache := false
        kind := .lookup
        phase := .loading }

def move (state : AnswerState) (goroutine : Nat) (call : AnswerCall) (phase : AnswerPhase) : AnswerState :=
  { state with calls := put state.calls goroutine { call with phase := phase } }

def finish (state : AnswerState) (goroutine : Nat) (call : AnswerCall) : AnswerState :=
  { state with
    calls := erase state.calls goroutine
    backgroundRefresh := if call.kind = .refresh then Function.update state.backgroundRefresh call.key false
      else state.backgroundRefresh }

def miss (state : AnswerState) (goroutine : Nat) (call : AnswerCall) : AnswerState :=
  if call.kind = .lookup then state.finish goroutine call else state.move goroutine call .asking

def backgroundRefreshDNS (state : AnswerState) (call : AnswerCall) (refresher : Nat) : Option AnswerState :=
  if state.backgroundRefresh call.key then some state
  else
    { state with backgroundRefresh := Function.update state.backgroundRefresh call.key true }.start refresher
      { call with loopback := false, disableCache := false, kind := .refresh, phase := .asking }

def serve (state : AnswerState) (goroutine : Nat) (call : AnswerCall) (response : Msg) : AnswerState :=
  { state.finish goroutine call with served := ⟨call.key, response, state.cleared⟩ :: state.served }

def settle (state : AnswerState) (goroutine : Nat) (call : AnswerCall) (refresher : Nat) :
    Option (Msg × Bool) → Option AnswerState
  | none => some (state.miss goroutine call)
  | some (response, isStale) =>
    if isStale && call.options.disableOptimisticCache then some (state.miss goroutine call)
    else if isStale then (state.serve goroutine call response).backgroundRefreshDNS call refresher
    else some (state.serve goroutine call response)

def load (persistent : Bool) (state : AnswerState) (goroutine : Nat) (call : AnswerCall) (input : AnswerInput) :
    Option AnswerState :=
  if persistent then
    match state.file.saveDNSCache call.key.saveKey with
    | none => some (state.move goroutine call .viewing)
    | some entry =>
      state.settle goroutine call input.refresher
        (loadPersistentResponse config (fun _ => some (entry.rawMessage, entry.expireAt)) call.key input.now)
  else
    let (loaded, client) := (memoryClient state.memory).loadResponse config call.key input.now
    { state with memory := client.memory }.settle goroutine call input.refresher loaded

def hear (state : AnswerState) (goroutine : Nat) (call : AnswerCall) (upstream : Upstream) : AnswerState :=
  match exchangeToTransport call.message upstream with
  | .error _ => state.finish goroutine call
  | .ok server =>
    let state := { state with heard := ⟨call.key, call.message, call.options, upstream, state.begun⟩ :: state.heard }
    if rejects call.responseChecker server || call.disableCache || !isCacheable server.rcode then
      state.finish goroutine call
    else
      let (response, timeToLive) := applyResponseOptions call.key.question server call.options
      state.move goroutine call (.storing response timeToLive state.begun)

def storeCache (persistent : Bool) (state : AnswerState) (goroutine : Nat) (call : AnswerCall) (response : Msg)
    (timeToLive : UInt32) (input : AnswerInput) : Option AnswerState :=
  if persistent then
    if timeToLive == 0 then some (state.finish goroutine call)
    else
      match config.pack response with
      | none => some (state.finish goroutine call)
      | some packed =>
        (state.file.saveDNSCacheAsync call.key.saveKey packed
          (input.now + timeToLive.toNat * nanosecondsPerSecond) input.flusher).map
          (fun file => { state.finish goroutine call with file := file })
  else
    let client := (memoryClient state.memory).storeCache config call.key response timeToLive input.now
    some { state.finish goroutine call with memory := client.memory }

def proceed (persistent : Bool) (state : AnswerState) (goroutine : Nat) (input : AnswerInput) : Option AnswerState :=
  match state.calls goroutine with
  | none => none
  | some call =>
    match call.phase with
    | .loading => state.load config persistent goroutine call input
    | .viewing =>
      let found := if input.viewFails then none else state.file.loadBucket call.key.saveKey
      state.settle goroutine call input.refresher (loadPersistentResponse config (fun _ => found) call.key input.now)
    | .asking =>
      some (if call.loopback then state.finish goroutine call else state.hear goroutine call input.upstream)
    | .storing response timeToLive _ => state.storeCache config persistent goroutine call response timeToLive input

def purge (persistent : Bool) (state : AnswerState) (goroutine : Nat) : Option AnswerState :=
  match state.clears goroutine with
  | some ⟨index, false⟩ =>
    if persistent then
      (dnsCacheStep state.file (.clearPending goroutine)).map (fun file =>
        { state with
          file := file
          clears := put state.clears goroutine ⟨index, true⟩
          purged := max state.purged index })
    else
      some { state with
        memory := fun _ => none
        clears := erase state.clears goroutine
        purged := max state.purged index
        cleared := max state.cleared index }
  | _ => none

def drop (state : AnswerState) (goroutine : Nat) : Option AnswerState :=
  match state.clears goroutine with
  | some ⟨index, true⟩ =>
    (dnsCacheStep state.file (.dropBucket goroutine)).map (fun file =>
      { state with
        file := file
        clears := erase state.clears goroutine
        cleared := max state.cleared index })
  | _ => none

end AnswerState

-- A restart keeps the database and nothing else.
def answerStep (config : ClientConfig) (persistent : Bool) : System AnswerState AnswerEvent
  | state, .exchange goroutine call message => state.exchange config goroutine call message
  | state, .lookup goroutine call question => state.lookup config goroutine call question
  | state, .proceed goroutine input => state.proceed config persistent goroutine input
  | state, .leave goroutine => (state.calls goroutine).map (state.finish goroutine)
  | state, .flush flusher => (state.file.flushStep flusher).map (fun file => { state with file := file })
  | state, .flushFails flusher => (state.file.flushFails flusher).map (fun file => { state with file := file })
  | state, .beginClear goroutine =>
    if (state.clears goroutine).isSome then none
    else some { state with clears := put state.clears goroutine ⟨state.begun + 1, false⟩, begun := state.begun + 1 }
  | state, .purge goroutine => state.purge persistent goroutine
  | state, .drop goroutine => state.drop goroutine
  | state, .dropFails goroutine =>
    match state.clears goroutine with
    | some ⟨_, true⟩ =>
      some { state with
        file := { state.file with clearing := Function.update state.file.clearing goroutine false }
        clears := erase state.clears goroutine }
    | _ => none
  | state, .cleanup now => some { state with file := state.file.cleanupDNSCache config now }
  | state, .resetBucket => some { state with file := { state.file with bucket := fun _ => none } }
  | state, .evict key => some { state with memory := erase state.memory key }
  | state, .restart =>
    some { state with
      memory := fun _ => none
      file := idleDNSCache state.file.bucket
      backgroundRefresh := fun _ => false
      calls := fun _ => none
      clears := fun _ => none }

-- What the client made of the answer: it filters the hints, and the lifetimes
-- and the OPT records are its own.
def Heard.response (heard : Heard) : Option Msg :=
  match exchangeToTransport heard.message heard.upstream with
  | .error _ => none
  | .ok server => some (applyResponseOptions heard.key.question server heard.options).1

def Heard.Answers (heard : Heard) (served : Msg) : Prop := ∃ response, heard.response = some response ∧ served.blur = response.blur

-- The transport gave the response to a question with the same name, type and
-- class, and no clear has begun since and is completed.
def Served.Faithful (heard : List Heard) (served : Served) : Prop :=
  ∃ answer ∈ heard, answer.key = served.key ∧ answer.Answers served.response ∧ served.cleared ≤ answer.stamp

def AnswerState.OneClass (state : AnswerState) (key : DNSCacheKey) : Prop :=
  ∀ answer ∈ state.heard, answer.key.saveKey = key.saveKey → answer.key.question.qclass = key.question.qclass

-- The cache file is read only for questions of one class; no answer is stored
-- after a purge that began after it came; and when the bucket is dropped, what
-- a flusher is about to save is still pending.
def AnswerState.Orderly (persistent : Bool) (state : AnswerState) : AnswerEvent → Prop
  | .proceed goroutine _ => ∀ call, state.calls goroutine = some call →
      match call.phase with
      | .loading => persistent = true → state.OneClass call.key
      | .viewing => state.OneClass call.key
      | .asking => True
      | .storing _ _ stamp => state.purged ≤ stamp
  | .drop _ => ∀ flusher key entry, state.file.flushers flusher = some ⟨key, .saving entry⟩ →
      state.file.saveDNSCache key = some entry
  | _ => True

end OtunKernel.Dns
