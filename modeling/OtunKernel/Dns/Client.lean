import OtunKernel.Dns.PendingCache
import OtunKernel.Dns.Query

namespace OtunKernel.Dns

open Net Lib

def edns0Subnet : UInt16 := 8
def edns0Padding : UInt16 := 12

def EDNS0.option : EDNS0 → UInt16
  | .subnet _ _ _ _ => edns0Subnet
  | .other code _ => code

def RR.isOPT (record : RR) : Bool := record.rrtype == typeOPT

def RR.options (record : RR) : List EDNS0 :=
  match record.data with
  | .opt options => options
  | _ => []

def Msg.mapRecords (update : RR → RR) (message : Msg) : Msg :=
  { message with
    answer := message.answer.map update, ns := message.ns.map update, extra := message.extra.map update }

def extractNegativeTTL (response : Msg) : Option UInt32 :=
  response.ns.findSome? (fun record =>
    match record.data with
    | .soa minttl => some (if record.ttl < minttl then record.ttl else minttl)
    | _ => none)

def lowerTTL (timeToLive : UInt32) (record : RR) : UInt32 :=
  if record.isOPT then timeToLive
  else if timeToLive == 0 || (record.ttl > 0 && record.ttl < timeToLive) then record.ttl
  else timeToLive

def computeTimeToLive (response : Msg) : UInt32 :=
  match (if response.answer.isEmpty then extractNegativeTTL response else none) with
  | some soaTTL => soaTTL
  | none => (response.answer ++ response.ns ++ response.extra).foldl lowerTTL 0

def setTTL (timeToLive : UInt32) (record : RR) : RR :=
  if record.isOPT then record else { record with ttl := timeToLive }

def normalizeTTL (response : Msg) (timeToLive : UInt32) : Msg := response.mapRecords (setTTL timeToLive)

def fixedResponseStatus (message : Msg) (rcode : Nat) : Msg where
  id := message.id
  response := true
  rcode := rcode
  question := message.question
  answer := []
  ns := []
  extra := []

def keepsHint (strategy : DomainStrategy) : SVCBKeyValue → Bool
  | .ipv4Hint _ => strategy == .ipv4Only
  | .ipv6Hint _ => strategy != .ipv4Only
  | .other _ _ => true

def filterHints (strategy : DomainStrategy) (record : RR) : RR :=
  match record.data with
  | .https values => { record with data := .https (values.filter (keepsHint strategy)) }
  | _ => record

def filtersHints (question : Question) (options : DNSQueryOptions) : Bool :=
  question.qtype == typeHTTPS && (options.strategy == .ipv4Only || options.strategy == .ipv6Only)

def applyResponseOptions (question : Question) (response : Msg) (options : DNSQueryOptions) : Msg × UInt32 :=
  let response := if filtersHints question options
    then { response with answer := response.answer.map (filterHints options.strategy) } else response
  let timeToLive := options.rewriteTTL.getD (computeTimeToLive response)
  (normalizeTTL response timeToLive, timeToLive)

def stripDNSPadding (response : Msg) : Msg :=
  { response with extra := response.extra.map (fun record =>
      match record.data with
      | .opt options =>
        { record with data := .opt (options.filter (fun option => option.option != edns0Padding)) }
      | _ => record) }

inductive Upstream where
  | response (message : Msg)
  | rcodeError (rcode : Nat)
  | failed (message : String)
deriving DecidableEq, Repr

def exchangeToTransport (message : Msg) : Upstream → Except ClientError Msg
  | .response response => .ok (stripDNSPadding response)
  | .rcodeError rcode => .ok (fixedResponseStatus message rcode)
  | .failed error => .error (.other error)

def subnetOption (subnet : Addr × Nat) (scope : UInt8) : EDNS0 :=
  .subnet (if subnet.1.is4 then 1 else 2) (UInt8.ofNat subnet.2) scope subnet.1

def EDNS0.isSubnet : EDNS0 → Bool
  | .subnet _ _ _ _ => true
  | .other _ _ => false

def replaceSubnet (subnet : Addr × Nat) : List EDNS0 → List EDNS0
  | [] => []
  | .subnet _ _ scope _ :: rest => subnetOption subnet scope :: rest
  | option :: rest => option :: replaceSubnet subnet rest

-- Where optRecord stands after the loop findExists, which assigns it at every
-- record; the loop ends at the first subnet option.
def findExists : Option Nat → Nat → List RR → Option Nat
  | optRecord, _, [] => optRecord
  | _, i, record :: rest =>
    match record.data with
    | .opt options => if options.any EDNS0.isSubnet then some i else findExists (some i) (i + 1) rest
    | _ => findExists none (i + 1) rest

def addedRecord (subnet : Addr × Nat) : RR := ⟨".", typeOPT, 0, 0, .opt [subnetOption subnet 0]⟩

def writeSubnet (subnet : Addr × Nat) (optRecord : RR) : RR :=
  let options := optRecord.options
  { optRecord with
    data := .opt (if options.any EDNS0.isSubnet then replaceSubnet subnet options else options ++ [subnetOption subnet 0]) }

def setSubnet (subnet : Addr × Nat) (extra : List RR) : List RR :=
  match findExists none 0 extra with
  | none => extra ++ [addedRecord subnet]
  | some i => extra.modify i (writeSubnet subnet)

-- The message that SetClientSubnet returns.
def setClientSubnet (message : Msg) (subnet : Addr × Nat) : Msg :=
  { message with extra := setSubnet subnet message.extra }

-- The configuration, with the DNS package's packing, unpacking and question
-- names as parameters.
structure ClientConfig where
  disableCache : Bool := false
  disableExpire : Bool := false
  optimisticTimeout : Int := 0
  clientSubnet : ClientSubnet := none
  pack : Msg → Option (List UInt8)
  unpack : List UInt8 → Option Msg
  dnsName : String → String

structure DNSCacheKey where
  question : Question
  transportTag : String
deriving DecidableEq, Repr

-- The cache file and the rejection cache do not look at the class.
def DNSCacheKey.saveKey (key : DNSCacheKey) : SaveCacheKey :=
  ⟨key.transportTag, key.question.name, key.question.qtype⟩

abbrev Checker := Option (Msg → Bool)

structure Refresh where
  message : Msg
  options : DNSQueryOptions
  responseChecker : Checker

-- The rejection cache, the cache file and the memory cache, each if it is
-- there, and the refreshes that are running.
structure ClientState where
  rdrc : Option (SaveCacheKey → Bool)
  dnsCache : Option (SaveCacheKey → Option (List UInt8 × Int))
  cache : Option (DNSCacheKey → Option (Msg × Int))
  backgroundRefresh : DNSCacheKey → Option Refresh

inductive ExchangeResult where
  | answered (response : Msg)
  | rejected (response : Msg)
  | failed (error : ClientError)
deriving DecidableEq, Repr

structure ExchangeCall where
  transport : DNSTransport
  message : Msg
  options : DNSQueryOptions
  responseChecker : Checker
  contextTransport : Option String
  upstream : Upstream
  loadedAt : Int
  storedAt : Int

def isCacheable (rcode : Nat) : Bool := rcode == rcodeSuccess || rcode == rcodeNameError

def rejects (responseChecker : Checker) (response : Msg) : Bool :=
  match responseChecker with
  | none => false
  | some check => if isCacheable response.rcode then !check response else true

def strategyRejected (question : Question) (options : DNSQueryOptions) : Bool :=
  (question.qtype == typeA && options.strategy == .ipv6Only) ||
    (question.qtype == typeAAAA && options.strategy == .ipv4Only)

section
variable (config : ClientConfig)

def prepareExchangeMessage (message : Msg) (options : DNSQueryOptions) : Msg :=
  match options.clientSubnet.or config.clientSubnet with
  | some subnet => setClientSubnet message subnet
  | none => message

def isSimpleRequest (message : Msg) (options : DNSQueryOptions) : Bool :=
  message.question.length == 1 && message.ns.isEmpty &&
    (match message.extra with
    | [] => true
    | [record] =>
      record.isOPT && record.rrclass > 0 && record.ttl == 0 && record.options.isEmpty
    | _ => false) &&
    options.clientSubnet.isNone

def cacheDisabled (message : Msg) (options : DNSQueryOptions) : Bool :=
  !isSimpleRequest (prepareExchangeMessage config message options) options || config.disableCache ||
    options.disableCache

def ageResponse (response : Msg) (expireAt now : Int) : Option (Msg × Bool) :=
  if now > expireAt then
    if config.optimisticTimeout > 0 ∧ now < expireAt + config.optimisticTimeout then
      some (normalizeTTL response 1, true)
    else none
  else some (normalizeTTL response (UInt32.ofNat (unixSecond (expireAt - now)).toNat), false)

def loadPersistentResponse (stored : SaveCacheKey → Option (List UInt8 × Int)) (key : DNSCacheKey) (now : Int) :
    Option (Msg × Bool) :=
  match stored key.saveKey with
  | none => none
  | some (rawMessage, expireAt) =>
    match config.unpack rawMessage with
    | none => none
    | some response => if config.disableExpire then some (response, false) else ageResponse config response expireAt now

def ClientState.loadResponse (state : ClientState) (key : DNSCacheKey) (now : Int) :
    Option (Msg × Bool) × ClientState :=
  match state.dnsCache with
  | some stored => (loadPersistentResponse config stored key now, state)
  | none =>
    match state.cache with
    | none => (none, state)
    | some cache =>
      match cache key with
      | none => (none, state)
      | some (response, expireAt) =>
        if config.disableExpire then (some (response, false), state)
        else
          match ageResponse config response expireAt now with
          | some aged => (some aged, state)
          | none => (none, { state with cache := some (erase cache key) })

def ClientState.storeCache (state : ClientState) (key : DNSCacheKey) (message : Msg) (timeToLive : UInt32)
    (now : Int) : ClientState :=
  let expireAt := now + timeToLive.toNat * nanosecondsPerSecond
  if timeToLive == 0 then state
  else
    match state.dnsCache with
    | some stored =>
      match config.pack message with
      | some packed => { state with dnsCache := some (put stored key.saveKey (packed, expireAt)) }
      | none => state
    | none =>
      match state.cache with
      | none => state
      | some cache =>
        { state with cache := some (put cache key (message, if config.disableExpire then 0 else expireAt)) }

def ClientState.loadRDRC (state : ClientState) (key : SaveCacheKey) : Bool := state.rdrc.any (fun rejected => rejected key)

def ClientState.saveRDRC (state : ClientState) (key : SaveCacheKey) : ClientState :=
  { state with rdrc := state.rdrc.map (fun rejected => Function.update rejected key true) }

def ClientState.backgroundRefreshDNS (state : ClientState) (key : DNSCacheKey) (refresh : Refresh) : ClientState :=
  if (state.backgroundRefresh key).isSome then state
  else { state with backgroundRefresh := put state.backgroundRefresh key refresh }

def ClientState.finishRefresh (state : ClientState) (key : DNSCacheKey) (upstream : Upstream) (now : Int) :
    Option ClientState :=
  match state.backgroundRefresh key with
  | none => none
  | some refresh =>
    let state := { state with backgroundRefresh := erase state.backgroundRefresh key }
    match exchangeToTransport refresh.message upstream with
    | .error _ => some state
    | .ok response =>
      if rejects refresh.responseChecker response then some (state.saveRDRC key.saveKey)
      else if refresh.responseChecker.isNone && !isCacheable response.rcode then some state
      else
        let (response, timeToLive) := applyResponseOptions key.question response refresh.options
        some (state.storeCache config key response timeToLive now)

def cacheKey (transport : DNSTransport) (question : Question) : DNSCacheKey := ⟨question, transport.tag⟩

def ClientState.exchangeCached (state : ClientState) (key : DNSCacheKey) (message : Msg) (call : ExchangeCall) :
    Option Msg × ClientState :=
  let (loaded, state) := state.loadResponse config key call.loadedAt
  match loaded with
  | none => (none, state)
  | some (response, isStale) =>
    if isStale && !call.options.disableOptimisticCache then
      (some { response with id := message.id },
        state.backgroundRefreshDNS key ⟨message, call.options, call.responseChecker⟩)
    else if !isStale then (some { response with id := message.id }, state)
    else (none, state)

def Msg.edns0 (message : Msg) : Option RR := message.extra.reverse.find? RR.isOPT

def RR.ednsVersion (record : RR) : UInt32 := (record.ttl >>> 16) &&& 0xff

def RR.ednsDo (record : RR) : UInt32 := record.ttl &&& 0x8000

-- The OPT record of the response is dropped, or replaced by one without
-- options, when the request has none or an older version.
def matchEDNS (request response : Msg) : Msg :=
  match response.edns0 with
  | none => response
  | some given =>
    let bare := { response with extra := response.extra.filter (fun record => !record.isOPT) }
    match request.edns0 with
    | none => bare
    | some asked =>
      if asked.ednsVersion < given.ednsVersion then
        { bare with extra := bare.extra ++ [⟨".", typeOPT, given.rrclass, given.ednsDo, .opt []⟩] }
      else response

def ClientState.exchangeUncached (state : ClientState) (key : DNSCacheKey) (message : Msg) (disableCache : Bool)
    (call : ExchangeCall) : ExchangeResult × ClientState :=
  if call.contextTransport = some call.transport.tag then
    (.failed (.other ("DNS query loopback in transport[" ++ call.transport.tag ++ "]")), state)
  else if !disableCache && call.responseChecker.isSome && state.loadRDRC key.saveKey then
    (.failed .responseRejectedCached, state)
  else
    match exchangeToTransport message call.upstream with
    | .error error => (.failed error, state)
    | .ok response =>
      let disableCache := disableCache || !isCacheable response.rcode
      if rejects call.responseChecker response then
        (.rejected response, if !disableCache then state.saveRDRC key.saveKey else state)
      else
        let (response, timeToLive) := applyResponseOptions key.question response call.options
        let state := if !disableCache then state.storeCache config key response timeToLive call.storedAt else state
        (.answered (matchEDNS message { response with id := message.id }), state)

def ClientState.exchange (state : ClientState) (call : ExchangeCall) : ExchangeResult × ClientState :=
  match call.message.question with
  | [] => (.answered (fixedResponseStatus call.message rcodeFormatError), state)
  | question :: _ =>
    if strategyRejected question call.options then
      (.answered (fixedResponseStatus call.message rcodeSuccess), state)
    else
      let message := prepareExchangeMessage config call.message call.options
      let disableCache := cacheDisabled config call.message call.options
      let key := cacheKey call.transport question
      let (cached, state) := if !disableCache then state.exchangeCached config key message call else (none, state)
      match cached with
      | some response => (.answered response, state)
      | none => state.exchangeUncached config key message disableCache call

inductive LookupError where
  | rcode (rcode : Nat)
  | client (error : ClientError)
deriving DecidableEq, Repr

-- The addresses with the response that they are taken from.
abbrev TakenAddresses := Msg × List Addr

def lookupAddresses (response : Msg) : Except LookupError TakenAddresses :=
  if response.rcode ≠ rcodeSuccess then .error (.rcode response.rcode)
  else .ok (response, dnsResponseAddresses (some response))

def exchangeAddresses : ExchangeResult → Except LookupError TakenAddresses
  | .answered response => lookupAddresses response
  | .rejected _ => .error (.client .responseRejected)
  | .failed error => .error (.client error)

structure LookupCall where
  transport : DNSTransport
  options : DNSQueryOptions
  responseChecker : Checker
  contextTransport : Option String

structure Timing where
  upstream : Upstream
  loadedAt : Int
  storedAt : Int

def LookupCall.exchangeCall (call : LookupCall) (question : Question) (timing : Timing) : ExchangeCall where
  transport := call.transport
  message := ⟨0, false, rcodeSuccess, [question], [], [], []⟩
  options := call.options
  responseChecker := call.responseChecker
  contextTransport := call.contextTransport
  upstream := timing.upstream
  loadedAt := timing.loadedAt
  storedAt := timing.storedAt

def ClientState.questionCache (state : ClientState) (key : DNSCacheKey) (message : Msg) (call : LookupCall) (now : Int) :
    Option (Except LookupError TakenAddresses) × ClientState :=
  let (loaded, state) := state.loadResponse config key now
  match loaded with
  | none => (none, state)
  | some (response, isStale) =>
    if isStale && call.options.disableOptimisticCache then (none, state)
    else
      let state := if isStale then state.backgroundRefreshDNS key
          ⟨prepareExchangeMessage config message call.options, call.options, call.responseChecker⟩
        else state
      (some (lookupAddresses response), state)

def ClientState.lookupToExchange (state : ClientState) (question : Question) (call : LookupCall) (timing : Timing) :
    Except LookupError TakenAddresses × ClientState :=
  let exchange := call.exchangeCall question timing
  let disableCache := config.disableCache || call.options.disableCache
  let (cached, state) := if !disableCache
    then state.questionCache config (cacheKey call.transport question) exchange.message call timing.loadedAt
    else (none, state)
  match cached with
  | some addresses => (addresses, state)
  | none =>
    let (result, state) := state.exchange config exchange
    (exchangeAddresses result, state)

structure LookupRequest where
  domain : String
  call : LookupCall
  timing4 : Timing
  timing6 : Timing
  inet6First : Bool

-- responses is history: those that the addresses were taken from.
structure LookupResult where
  addresses : List Addr
  errors : List LookupError
  responses : List Msg
deriving DecidableEq, Repr

def singleLookup : Except LookupError TakenAddresses → LookupResult
  | .ok (response, addresses) => ⟨addresses, [], [response]⟩
  | .error error => ⟨[], [error], []⟩

def sortAddresses (response4 response6 : List Addr) (strategy : DomainStrategy) : List Addr :=
  if strategy = .preferIPv6 then response6 ++ response4 else response4 ++ response6

def joinLookups (strategy : DomainStrategy) (result4 result6 : LookupResult) : LookupResult :=
  let responses := result4.responses ++ result6.responses
  if result4.addresses.isEmpty && result6.addresses.isEmpty then ⟨[], result4.errors ++ result6.errors, responses⟩
  else ⟨sortAddresses result4.addresses result6.addresses strategy, [], responses⟩

def lookupStrategyOf (options : DNSQueryOptions) : DomainStrategy :=
  if options.lookupStrategy ≠ .asIS then options.lookupStrategy else options.strategy

def lookupOptionsOf (options : DNSQueryOptions) : DNSQueryOptions :=
  if options.lookupStrategy ≠ .asIS then { options with strategy := lookupStrategyOf options } else options

def classINET : UInt16 := 1

def ClientState.lookup (state : ClientState) (request : LookupRequest) : LookupResult × ClientState :=
  let call := { request.call with options := lookupOptionsOf request.call.options }
  let strategy := lookupStrategyOf request.call.options
  let question4 : Question := ⟨config.dnsName request.domain, typeA, classINET⟩
  let question6 : Question := ⟨config.dnsName request.domain, typeAAAA, classINET⟩
  match strategy with
  | .ipv4Only =>
    let (result, state) := state.lookupToExchange config question4 call request.timing4
    (singleLookup result, state)
  | .ipv6Only =>
    let (result, state) := state.lookupToExchange config question6 call request.timing6
    (singleLookup result, state)
  | _ =>
    -- the two goroutines in the order in which they reach the cache
    if request.inet6First then
      let (result6, state) := state.lookupToExchange config question6 call request.timing6
      let (result4, state) := state.lookupToExchange config question4 call request.timing4
      (joinLookups strategy (singleLookup result4) (singleLookup result6), state)
    else
      let (result4, state) := state.lookupToExchange config question4 call request.timing4
      let (result6, state) := state.lookupToExchange config question6 call request.timing6
      (joinLookups strategy (singleLookup result4) (singleLookup result6), state)

def ClientState.clearCache (state : ClientState) : ClientState :=
  { state with cache := state.cache.map (fun _ _ => none), dnsCache := state.dnsCache.map (fun _ _ => none) }

def startClient (rdrc dnsCache : Bool) : ClientState where
  rdrc := if rdrc then some (fun _ => false) else none
  dnsCache := if dnsCache then some (fun _ => none) else none
  cache := if !config.disableCache && !dnsCache then some (fun _ => none) else none
  backgroundRefresh := fun _ => none

inductive ClientEvent where
  | exchange (call : ExchangeCall)
  | lookup (request : LookupRequest)
  | refresh (key : DNSCacheKey) (upstream : Upstream) (now : Int)
  | clear
  | evict (key : DNSCacheKey)
  | expireRejection (key : SaveCacheKey)

def clientStep : System ClientState ClientEvent
  | state, .exchange call => some (state.exchange config call).2
  | state, .lookup request => some (state.lookup config request).2
  | state, .refresh key upstream now => state.finishRefresh config key upstream now
  | state, .clear => some state.clearCache
  | state, .evict key => some { state with cache := state.cache.map (fun cache => erase cache key) }
  | state, .expireRejection key =>
    some { state with rdrc := state.rdrc.map (fun rejected => Function.update rejected key false) }

end
end OtunKernel.Dns
