import OtunKernel.Dns.ClientCache

namespace OtunKernel.Dns

open Net Lib ClientState Msg

inductive HintMode where
  | ipv4Only
  | ipv6Only
  | unfiltered
deriving DecidableEq, Repr

def hintMode (options : DNSQueryOptions) : HintMode :=
  match options.strategy with
  | .ipv4Only => .ipv4Only
  | .ipv6Only => .ipv6Only
  | _ => .unfiltered

def HintMode.keeps : HintMode → SVCBKeyValue → Bool
  | .ipv4Only, .ipv6Hint _ => false
  | .ipv6Only, .ipv4Hint _ => false
  | _, _ => true

def SVCBKeyValue.isHint : SVCBKeyValue → Bool
  | .ipv4Hint _ => true
  | .ipv6Hint _ => true
  | .other _ _ => false

def RR.hints (record : RR) : List SVCBKeyValue :=
  match record.data with
  | .https values => values.filter SVCBKeyValue.isHint
  | _ => []

def Msg.hints (message : Msg) : List SVCBKeyValue := message.answer.flatMap RR.hints

theorem blur_hints (message : Msg) : message.blur.hints = message.hints := by
  have each : ∀ record : RR, record.blur.hints = record.hints := by
    intro record
    unfold RR.blur
    split <;> rfl
  simp only [hints, blur, List.flatMap_map, each]

theorem hints_of_blur {first second : Msg} (same : first.blur = second.blur) : first.hints = second.hints := by
  rw [← blur_hints first, same, blur_hints]

theorem filter_hints_record (strategy : DomainStrategy) (record : RR) :
    (filterHints strategy record).hints = record.hints.filter (keepsHint strategy) := by
  cases data : record.data with
  | https => simp [filterHints, RR.hints, data, List.filter_filter, Bool.and_comm]
  | _ => simp [filterHints, RR.hints, data]

variable {options : DNSQueryOptions}

theorem keeps_hint_eq {question : Question} (filters : filtersHints question options = true) :
    keepsHint options.strategy = (hintMode options).keeps := by
  simp only [filtersHints, Bool.and_eq_true, Bool.or_eq_true, beq_iff_eq] at filters
  funext value
  rcases filters.2 with only | only <;> cases value <;> simp [keepsHint, hintMode, HintMode.keeps, only]

theorem unfiltered_keeps_all (hints : List SVCBKeyValue) : hints.filter HintMode.unfiltered.keeps = hints := by
  rw [List.filter_eq_self]
  intro hint _
  cases hint <;> rfl

theorem apply_options_hints (question : Question) (https : question.qtype = typeHTTPS) (response : Msg)
    (options : DNSQueryOptions) :
    (applyResponseOptions question response options).1.hints = response.hints.filter (hintMode options).keeps := by
  by_cases filters : filtersHints question options = true
  · simp only [applyResponseOptions, filters, if_true]
    rw [hints_of_blur (normalize_blur _ _), ← keeps_hint_eq filters]
    simp only [hints, List.flatMap_map, filter_hints_record, List.filter_flatMap]
  have plain : hintMode options = .unfiltered := by
    cases strategy : options.strategy <;> simp_all [filtersHints, hintMode]
  rw [hints_of_blur (apply_options_blur (Bool.eq_false_iff.mpr filters) response), plain, unfiltered_keeps_all]

def ClientState.memory (state : ClientState) (key : DNSCacheKey) : Option (Msg × Int) :=
  state.cache.bind (fun cache => cache key)

def ClientState.file (state : ClientState) (key : SaveCacheKey) : Option (List UInt8 × Int) :=
  state.dnsCache.bind (fun stored => stored key)

structure Origin where
  mode : HintMode
  server : Msg
deriving DecidableEq, Repr

-- The client with its history: the origin of each entry, what the servers
-- answered and what the calls returned.
structure HintState where
  client : ClientState
  memoryOrigins : DNSCacheKey → Option Origin := fun _ => none
  fileOrigins : SaveCacheKey → Option Origin := fun _ => none
  sent : List (SaveCacheKey × Msg) := []
  answers : List (ExchangeCall × Msg) := []

def HintState.origin (state : HintState) (key : DNSCacheKey) : Option Origin :=
  if state.client.dnsCache.isSome then state.fileOrigins key.saveKey else state.memoryOrigins key

def HintState.heard (state : HintState) (key : DNSCacheKey) (options : DNSQueryOptions) (server : Msg)
    (after : ClientState) : HintState :=
  { state with
    client := after
    memoryOrigins := relabel state.client.memory after.memory state.memoryOrigins key ⟨hintMode options, server⟩
    fileOrigins := relabel state.client.file after.file state.fileOrigins key.saveKey ⟨hintMode options, server⟩
    sent := (key.saveKey, server) :: state.sent }

-- The part of Exchange in front of the transport and the part behind it are
-- steps of their own: other calls and refreshes run in between.
inductive HintEvent where
  | load (call : ExchangeCall)
  | ask (call : ExchangeCall)
  | refresh (key : DNSCacheKey) (upstream : Upstream) (now : Int)
  | clear
  | evict (key : DNSCacheKey)
  | expireRejection (key : SaveCacheKey)
  | restart

section
variable (config : ClientConfig)

def HintState.load (state : HintState) (call : ExchangeCall) (question : Question) : HintState :=
  let (cached, client) := state.client.exchangeCached config (cacheKey call.transport question)
    (prepareExchangeMessage config call.message call.options) call
  { state with client := client, answers := cached.toList.map (fun response => (call, response)) ++ state.answers }

def HintState.ask (state : HintState) (call : ExchangeCall) (question : Question) : HintState :=
  let message := prepareExchangeMessage config call.message call.options
  let key := cacheKey call.transport question
  let (result, client) := state.client.exchangeUncached config key message
    (cacheDisabled config call.message call.options) call
  match result, exchangeToTransport message call.upstream with
  | .answered response, .ok server =>
    let state := state.heard key call.options server client
    { state with answers := (call, response) :: state.answers }
  | .rejected _, .ok server => state.heard key call.options server client
  | _, _ => { state with client := client }

def HintState.refreshed (state : HintState) (key : DNSCacheKey) (refresh : Refresh) (upstream : Upstream)
    (client : ClientState) : HintState :=
  match exchangeToTransport refresh.message upstream with
  | .ok server => state.heard key refresh.options server client
  | .error _ => { state with client := client }

-- A restart keeps the cache file and nothing else.
def hintStep : System HintState HintEvent
  | state, .load call =>
    match call.message.question with
    | [] => none
    | question :: _ =>
      if strategyRejected question call.options || cacheDisabled config call.message call.options then none
      else some (state.load config call question)
  | state, .ask call =>
    match call.message.question with
    | [] => none
    | question :: _ =>
      if strategyRejected question call.options then none else some (state.ask config call question)
  | state, .refresh key upstream now =>
    match state.client.backgroundRefresh key, state.client.finishRefresh config key upstream now with
    | some refresh, some client => some (state.refreshed key refresh upstream client)
    | _, _ => none
  | state, .clear => some { state with client := state.client.clearCache }
  | state, .evict key =>
    some { state with
      client := { state.client with cache := state.client.cache.map (fun cache => erase cache key) } }
  | state, .expireRejection key =>
    some { state with
      client := { state.client with
        rdrc := state.client.rdrc.map (fun rejected => Function.update rejected key false) } }
  | state, .restart =>
    some { state with
      client := { state.client with
        cache := state.client.cache.map (fun _ _ => none), backgroundRefresh := fun _ => none } }

end

-- What a step does to the entries: it adds none, or at most one under its key.
structure Kept (before after : ClientState) : Prop where
  memory : ∀ key entry, after.memory key = some entry → before.memory key = some entry
  file : ∀ key entry, after.file key = some entry → before.file key = some entry

structure Wrote (config : ClientConfig) (key : DNSCacheKey) (message : Msg) (before after : ClientState) : Prop where
  memory : ∀ other entry, after.memory other = some entry →
    before.memory other = some entry ∨ (other = key ∧ entry.1 = message)
  file : ∀ other entry, after.file other = some entry →
    before.file other = some entry ∨ (other = key.saveKey ∧ config.pack message = some entry.1)

theorem Kept.refl (state : ClientState) : Kept state state := ⟨fun _ _ present => present, fun _ _ present => present⟩

theorem Kept.wrote {before after : ClientState} (kept : Kept before after) (config : ClientConfig) (key : DNSCacheKey)
    (message : Msg) : Wrote config key message before after :=
  ⟨fun other entry present => .inl (kept.memory other entry present),
    fun other entry present => .inl (kept.file other entry present)⟩

section
variable (config : ClientConfig) (state : ClientState) (key : DNSCacheKey)

theorem load_kept (now : Int) : Kept state (state.loadResponse config key now).2 := by
  fun_cases loadResponse <;> try exact Kept.refl state
  refine ⟨?_, fun _ _ found => found⟩
  grind [memory]

theorem store_wrote (message : Msg) (timeToLive : UInt32) (now : Int) :
    Wrote config key message state (state.storeCache config key message timeToLive now) := by
  have unchanged := (Kept.refl state).wrote config key message
  fun_cases storeCache <;> try exact unchanged
  · refine ⟨unchanged.memory, ?_⟩
    grind [file]
  refine ⟨?_, unchanged.file⟩
  grind [memory]

theorem exchange_cached_kept (message : Msg) (call : ExchangeCall) :
    Kept state (state.exchangeCached config key message call).2 := by
  have loaded := load_kept config state key call.loadedAt
  simp only [exchangeCached]
  split
  · exact loaded
  split
  · unfold backgroundRefreshDNS
    split
    · exact loaded
    · exact ⟨loaded.memory, loaded.file⟩
  · split <;> exact loaded

theorem exchange_uncached_cases (message : Msg) (disableCache : Bool) (call : ExchangeCall) :
    (∃ error, state.exchangeUncached config key message disableCache call = (.failed error, state)) ∨
      ∃ server, exchangeToTransport message call.upstream = .ok server ∧
        ((∃ after, state.exchangeUncached config key message disableCache call = (.rejected server, after) ∧ Kept state after) ∨
          ∃ response after, state.exchangeUncached config key message disableCache call = (.answered response, after) ∧
            response.hints = (applyResponseOptions key.question server call.options).1.hints ∧
            Wrote config key (applyResponseOptions key.question server call.options).1 state after) := by
  rw [exchangeUncached]
  by_cases loopback : call.contextTransport = some call.transport.tag
  · simp [loopback]
  rw [if_neg loopback]
  by_cases refused : (!disableCache && call.responseChecker.isSome && state.loadRDRC key.saveKey) = true
  · simp [refused]
  rw [if_neg refused]
  cases answered : exchangeToTransport message call.upstream with
  | error error => exact .inl ⟨error, rfl⟩
  | ok server =>
    refine .inr ⟨server, rfl, ?_⟩
    dsimp only
    by_cases rejected : rejects call.responseChecker server = true
    · rw [if_pos rejected]
      refine .inl ⟨_, rfl, ?_⟩
      split
      · exact ⟨fun _ _ found => found, fun _ _ found => found⟩
      · exact Kept.refl state
    rw [if_neg rejected]
    refine .inr ⟨_, _, rfl, ?_, ?_⟩
    · rw [hints_of_blur (match_edns_blur message _), hints_of_blur (id_blur _ _)]
    split
    · exact store_wrote config state key _ _ _
    · exact (Kept.refl state).wrote config key _

theorem finish_refresh_entries (refresh : Refresh) (running : state.backgroundRefresh key = some refresh) (upstream : Upstream)
    (now : Int) (after : ClientState) (finished : state.finishRefresh config key upstream now = some after) :
    (∀ error, exchangeToTransport refresh.message upstream = .error error → Kept state after) ∧
      ∀ server, exchangeToTransport refresh.message upstream = .ok server →
        Wrote config key (applyResponseOptions key.question server refresh.options).1 state after := by
  have ended : Kept state { state with backgroundRefresh := erase state.backgroundRefresh key } :=
    ⟨fun _ _ found => found, fun _ _ found => found⟩
  rw [finishRefresh, running] at finished
  dsimp only at finished
  cases answered : exchangeToTransport refresh.message upstream with
  | error => simp_all
  | ok server =>
    rw [answered] at finished
    dsimp only at finished
    refine ⟨by simp, ?_⟩
    intro _ same
    cases same
    split at finished
    · cases finished
      have rejected : Kept state ({ state with backgroundRefresh := erase state.backgroundRefresh key }.saveRDRC
          key.saveKey) := ⟨ended.memory, ended.file⟩
      exact rejected.wrote config key _
    split at finished
    · grind [ended.wrote]
    cases finished
    have stored := store_wrote config { state with backgroundRefresh := erase state.backgroundRefresh key } key
      (applyResponseOptions key.question server refresh.options).1
      (applyResponseOptions key.question server refresh.options).2 now
    exact ⟨stored.memory, stored.file⟩

theorem load_hints (now : Int) (response : Msg) (isStale : Bool)
    (loaded : (state.loadResponse config key now).1 = some (response, isStale)) :
    (state.dnsCache.isSome = true ∧ ∃ entry unpacked, state.file key.saveKey = some entry ∧
        config.unpack entry.1 = some unpacked ∧ response.hints = unpacked.hints) ∨
      (state.dnsCache.isSome = false ∧ ∃ entry, state.memory key = some entry ∧ response.hints = entry.1.hints) := by
  rcases load_blur loaded with
    ⟨stored, packed, expireAt, unpacked, persistent, found, given, same⟩ | ⟨cache, kept, expireAt, absent, present, found, same⟩
  · grind [hints_of_blur, file]
  refine .inr ⟨by rw [absent]; rfl, (kept, expireAt), ?_, hints_of_blur same⟩
  simp [memory, present, found]

end

def FromOrigin (sent : List (SaveCacheKey × Msg)) (key : SaveCacheKey) (hints : List SVCBKeyValue) (origin : Origin) : Prop :=
  key.qType = typeHTTPS → (key, origin.server) ∈ sent ∧ hints = origin.server.hints.filter origin.mode.keeps

def HintGoverned (sent : List (SaveCacheKey × Msg)) (call : ExchangeCall) (response : Msg) : Prop :=
  ∀ question rest, call.message.question = question :: rest → question.qtype = typeHTTPS →
    (call.options.strategy = .ipv4Only → ∀ hint, SVCBKeyValue.ipv6Hint hint ∉ response.hints) ∧
    (call.options.strategy = .ipv6Only → ∀ hint, SVCBKeyValue.ipv4Hint hint ∉ response.hints) ∧
    (call.options.strategy ≠ .ipv4Only → call.options.strategy ≠ .ipv6Only →
      ∃ server, ((cacheKey call.transport question).saveKey, server) ∈ sent ∧ response.hints = server.hints)

structure HintState.Sourced (config : ClientConfig) (state : HintState) : Prop where
  memory : Labelled (fun key entry origin => FromOrigin state.sent key.saveKey entry.1.hints origin)
    state.client.memory state.memoryOrigins
  file : Labelled (fun key entry origin => ∀ response, config.unpack entry.1 = some response →
    FromOrigin state.sent key response.hints origin) state.client.file state.fileOrigins
  answers : ∀ answer ∈ state.answers, HintGoverned state.sent answer.1 answer.2

section
variable {config : ClientConfig} {state : HintState} {sent : List (SaveCacheKey × Msg)} {call : ExchangeCall}
  {response : Msg} {question : Question} {rest : List Question} {client : ClientState} {key : DNSCacheKey}

theorem from_origin_later {key : SaveCacheKey} {hints : List SVCBKeyValue} {origin : Origin}
    (known : FromOrigin sent key hints origin) (more : SaveCacheKey × Msg) : FromOrigin (more :: sent) key hints origin := by
  intro https
  obtain ⟨member, same⟩ := known https
  grind

theorem governed_later (governed : HintGoverned sent call response) (more : SaveCacheKey × Msg) :
    HintGoverned (more :: sent) call response := by
  intro question rest asked https
  obtain ⟨no6, no4, all⟩ := governed question rest asked https
  grind

theorem governed_of_filtered (filtered : ∀ question rest, call.message.question = question :: rest → question.qtype = typeHTTPS →
      ∃ server, ((cacheKey call.transport question).saveKey, server) ∈ sent ∧
        response.hints = server.hints.filter (hintMode call.options).keeps) : HintGoverned sent call response := by
  intro question rest asked https
  grind [hintMode, HintMode.keeps, unfiltered_keeps_all]

theorem sourced_kept (sourced : state.Sourced config) (kept : Kept state.client client) :
    HintState.Sourced config { state with client := client } :=
  ⟨sourced.memory.kept kept.memory, sourced.file.kept kept.file, sourced.answers⟩

theorem sourced_heard (roundTrips : RoundTrips config) (sourced : state.Sourced config) {server : Msg} {after : ClientState}
    (wrote : Wrote config key (applyResponseOptions key.question server options).1 state.client after) :
    (state.heard key options server after).Sourced config := by
  have filtered (https : key.saveKey.qType = typeHTTPS) :=
    apply_options_hints key.question https server options
  refine ⟨?_, ?_, ?_⟩
  · have earlier := sourced.memory.mono (fun _ _ _ known => from_origin_later known (key.saveKey, server))
    apply earlier.relabel key
    intro other entry present
    rcases wrote.memory other entry present with old | ⟨here, same⟩
    · exact .inl old
    refine .inr ⟨here, ?_⟩
    intro https
    grind
  · have earlier := sourced.file.mono (fun _ _ _ known response unpacked =>
      from_origin_later (known response unpacked) (key.saveKey, server))
    apply earlier.relabel key.saveKey
    intro other entry present
    rcases wrote.file other entry present with old | ⟨here, packed⟩
    · exact .inl old
    refine .inr ⟨here, ?_⟩
    intro response unpacked https
    rw [hints_of_blur (roundTrips _ _ response packed unpacked)]
    grind
  intro answer member
  exact governed_later (sourced.answers answer member) _

theorem sourced_answered (sourced : state.Sourced config) (governed : HintGoverned state.sent call response) :
    HintState.Sourced config { state with answers := (call, response) :: state.answers } := by
  refine ⟨sourced.memory, sourced.file, ?_⟩
  intro answer member
  grind [sourced.answers]

def SameMode (config : ClientConfig) (state : HintState) : HintEvent → Prop
  | .load call => ∀ question rest, call.message.question = question :: rest → question.qtype = typeHTTPS →
      (state.client.exchangeCached config (cacheKey call.transport question)
        (prepareExchangeMessage config call.message call.options) call).1.isSome = true →
      ∀ origin, state.origin (cacheKey call.transport question) = some origin → origin.mode = hintMode call.options
  | _ => True

section
variable (sourced : state.Sourced config) (asked : call.message.question = question :: rest)
variable (same : SameMode config state (.load call))
include sourced asked same

theorem cached_governed (cached : (state.client.exchangeCached config (cacheKey call.transport question)
      (prepareExchangeMessage config call.message call.options) call).1 = some response) :
    HintGoverned state.sent call response := by
  apply governed_of_filtered
  intro other more again https
  rw [asked] at again
  cases again
  have mode := same question rest asked https (by rw [cached]; rfl)
  obtain ⟨loaded, isStale, found, hints⟩ : ∃ loaded isStale,
      (state.client.loadResponse config (cacheKey call.transport question) call.loadedAt).1 = some (loaded, isStale) ∧
        response.hints = loaded.hints := by
    simp only [exchangeCached] at cached
    split at cached
    · contradiction
    rename_i loaded isStale found
    refine ⟨loaded, isStale, found, ?_⟩
    split at cached
    · cases cached
      rfl
    split at cached
    · cases cached
      rfl
    · contradiction
  rcases load_hints config state.client _ _ loaded isStale found with
    ⟨persistent, entry, unpacked, present, given, equal⟩ | ⟨inMemory, entry, present, equal⟩
  · obtain ⟨origin, known, source⟩ := sourced.file _ entry present
    obtain ⟨member, filtered⟩ := source unpacked given https
    rw [← mode origin (by rw [HintState.origin, if_pos persistent, known])]
    grind
  obtain ⟨origin, known, source⟩ := sourced.memory _ entry present
  obtain ⟨member, filtered⟩ := source https
  rw [← mode origin (by rw [HintState.origin, if_neg (by simp [inMemory]), known])]
  grind

theorem load_sourced : (state.load config call question).Sourced config := by
  have kept := sourced_kept sourced (exchange_cached_kept config state.client (cacheKey call.transport question)
    (prepareExchangeMessage config call.message call.options) call)
  rw [HintState.load]
  cases cached : (state.client.exchangeCached config (cacheKey call.transport question)
      (prepareExchangeMessage config call.message call.options) call).1 with
  | none => grind
  | some response =>
    have governed := cached_governed sourced asked same cached
    have answered := sourced_answered kept governed
    grind

end

section
variable (roundTrips : RoundTrips config) (sourced : state.Sourced config)
include roundTrips sourced

theorem ask_sourced (asked : call.message.question = question :: rest) : (state.ask config call question).Sourced config := by
  rw [HintState.ask]
  rcases exchange_uncached_cases config state.client (cacheKey call.transport question)
    (prepareExchangeMessage config call.message call.options) (cacheDisabled config call.message call.options) call with
    ⟨error, failed⟩ | ⟨server, answered, ⟨after, rejected, kept⟩ | ⟨response, after, returned, hints, wrote⟩⟩
  · simpa [failed] using sourced_kept sourced (Kept.refl state.client)
  · simpa [rejected, answered] using sourced_heard roundTrips sourced (kept.wrote config _ _)
  rw [returned, answered]
  apply sourced_answered (sourced_heard roundTrips sourced wrote)
  apply governed_of_filtered
  intro _ _ again https
  rw [asked] at again
  cases again
  exact ⟨server, List.mem_cons_self, hints.trans (apply_options_hints question https server call.options)⟩

theorem refreshed_sourced {refresh : Refresh} (running : state.client.backgroundRefresh key = some refresh) {upstream : Upstream}
    {now : Int} (finished : state.client.finishRefresh config key upstream now = some client) :
    (state.refreshed key refresh upstream client).Sourced config := by
  have entries := finish_refresh_entries config state.client key refresh running upstream now client finished
  rw [HintState.refreshed]
  cases answered : exchangeToTransport refresh.message upstream with
  | ok server => grind [sourced_heard]
  | error error => grind [sourced_kept]

theorem hint_step_sourced {result : HintState} {event : HintEvent} (same : SameMode config state event)
    (taken : hintStep config state event = some result) :
    result.Sourced config := by
  cases event with
  | load => grind [hintStep, load_sourced]
  | ask => grind [hintStep, ask_sourced]
  | refresh => grind [hintStep, refreshed_sourced]
  | clear =>
    cases taken
    apply sourced_kept sourced
    constructor
    · intro key entry found
      cases present : state.client.cache <;> simp [memory, clearCache, present] at found
    intro key entry found
    cases present : state.client.dnsCache <;> simp [file, clearCache, present] at found
  | evict key =>
    cases taken
    apply sourced_kept sourced
    refine ⟨?_, fun _ _ found => found⟩
    intro other entry found
    cases present : state.client.cache with
    | none => simp [memory, present] at found
    | some cache => grind [memory, erase_eq_some]
  | expireRejection =>
    cases taken
    exact sourced_kept sourced ⟨fun _ _ found => found, fun _ _ found => found⟩
  | restart =>
    cases taken
    apply sourced_kept sourced
    refine ⟨?_, fun _ _ found => found⟩
    intro other entry found
    cases present : state.client.cache <;> simp [memory, present] at found

end
end

theorem start_sourced (config : ClientConfig) (rdrc dnsCache : Bool) :
    HintState.Sourced config { client := startClient config rdrc dnsCache } := by
  refine ⟨?_, ?_, by simp⟩
  · intro key entry found
    grind [memory, startClient]
  intro key entry found
  grind [file, startClient]

theorem strategy_governs_hints (config : ClientConfig) (roundTrips : RoundTrips config) (rdrc dnsCache : Bool)
    (state : HintState)
    (run : Run (hintStep config) (SameMode config) { client := startClient config rdrc dnsCache } state) :
    ∀ answer ∈ state.answers, HintGoverned state.sent answer.1 answer.2 := by
  have sourced : state.Sourced config :=
    run.invariant (fun state => state.Sourced config) (start_sourced config rdrc dnsCache)
      (fun _ _ _ sourced same taken => hint_step_sourced roundTrips sourced same taken)
  exact sourced.answers

def serviceQuestion : Question := ⟨"example.org.", typeHTTPS, classINET⟩

def bothHints : List SVCBKeyValue := [.ipv4Hint [.v4 0x01020304#32], .ipv6Hint [.v6 1#128]]

def serviceCall (strategy : DomainStrategy) : ExchangeCall where
  transport := { tag := "local" }
  message := ⟨1, false, rcodeSuccess, [serviceQuestion], [], [], []⟩
  options := { strategy := strategy }
  responseChecker := none
  contextTransport := none
  upstream := .response ⟨0, true, rcodeSuccess, [serviceQuestion],
    [⟨"example.org.", typeHTTPS, classINET, 300, .https bothHints⟩], [], []⟩
  loadedAt := 0
  storedAt := 0

theorem ipv4_only_hints_cached :
    ∃ state response, Run (hintStep exampleConfig) (SameMode exampleConfig)
        { client := startClient exampleConfig false false } state ∧
      (serviceCall .ipv4Only, response) ∈ state.answers ∧ response.hints = [.ipv4Hint [.v4 0x01020304#32]] ∧
      HintGoverned state.sent (serviceCall .ipv4Only) response := by
  obtain ⟨stored, asked, origin⟩ : ∃ stored, hintStep exampleConfig { client := startClient exampleConfig false false }
      (.ask (serviceCall .ipv4Only)) = some stored ∧
        ∀ found, stored.origin (cacheKey { tag := "local" } serviceQuestion) = some found → found.mode = .ipv4Only :=
    ⟨_, rfl, by rintro _ ⟨⟩; rfl⟩
  have first : Run (hintStep exampleConfig) (SameMode exampleConfig)
      { client := startClient exampleConfig false false } stored :=
    Run.next (.ask (serviceCall .ipv4Only)) Run.refl trivial asked
  have same : SameMode exampleConfig stored (.load (serviceCall .ipv4Only)) := by
    rintro _ _ ⟨⟩ _ _ found known
    exact origin found known
  obtain ⟨state, loaded, response, member, hints⟩ : ∃ state, hintStep exampleConfig stored
      (.load (serviceCall .ipv4Only)) = some state ∧ ∃ response, (serviceCall .ipv4Only, response) ∈ state.answers ∧
        response.hints = [.ipv4Hint [.v4 0x01020304#32]] := by
    cases asked
    exact ⟨_, rfl, _, List.mem_cons_self, by decide⟩
  have run := Run.next _ first same loaded
  exact ⟨state, response, run, member, hints,
    strategy_governs_hints exampleConfig (by intro _ _ _ packed; contradiction) false false state run _ member⟩

theorem cached_hints_escape_strategy :
    ¬ ∀ (config : ClientConfig), RoundTrips config → ∀ (rdrc dnsCache : Bool) (state : HintState),
      Run (hintStep config) anyStep { client := startClient config rdrc dnsCache } state →
        ∀ answer ∈ state.answers, HintGoverned state.sent answer.1 answer.2 := by
  intro claim
  obtain ⟨state, executed, response, member, hints⟩ : ∃ state, execute (hintStep exampleConfig)
      { client := startClient exampleConfig false false }
      [.ask (serviceCall .asIS), .load (serviceCall .ipv4Only)] = some state ∧
        ∃ response, (serviceCall .ipv4Only, response) ∈ state.answers ∧ response.hints = bothHints :=
    ⟨_, rfl, _, List.mem_cons_self, by decide⟩
  have run := run_of_execute _ _ state (fun _ _ _ => trivial) executed
  have governed := claim exampleConfig (by intro _ _ _ packed; contradiction) false false state run _ member
  apply (governed serviceQuestion [] rfl rfl).1 rfl [.v6 1#128]
  rw [hints]
  decide

end OtunKernel.Dns
