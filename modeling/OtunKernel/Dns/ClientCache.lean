import OtunKernel.Dns.Client

namespace OtunKernel.Dns

open Net Lib ClientState Msg

-- A message without what the client rewrites on its way to the caller: the
-- id, the lifetimes and the OPT records.
def RR.blur (record : RR) : RR := if record.isOPT then record else { record with ttl := 0 }

def Msg.blur (message : Msg) : Msg :=
  { message with
    id := 0, answer := message.answer.map RR.blur, ns := message.ns.map RR.blur,
    extra := (message.extra.filter (fun record => !record.isOPT)).map RR.blur }

def Insensitive (check : Msg → Bool) : Prop := ∀ first second : Msg, first.blur = second.blur → check first = check second

def Steady (checker : Checker) : Prop := ∀ check, checker = some check → Insensitive check

def Accepts (checker : Checker) (response : Msg) : Prop := ∀ check, checker = some check → check response = true

variable {checker : Checker}

theorem accepts_congr (steady : Steady checker) {first second : Msg}
    (same : first.blur = second.blur) (accepted : Accepts checker first) : Accepts checker second := by
  intro check given
  rw [← steady check given first second same]
  exact accepted check given

theorem accepts_of_not_rejects {response : Msg} (passed : rejects checker response = false) : Accepts checker response := by
  rintro check rfl
  grind [rejects]

theorem set_ttl_blur (timeToLive : UInt32) (record : RR) : (setTTL timeToLive record).blur = record.blur := by
  unfold setTTL RR.blur
  cases opt : record.isOPT with
  | true => simp [opt]
  | false =>
    have kept : RR.isOPT { record with ttl := timeToLive } = false := opt
    simp [kept]

theorem set_ttl_is_opt (timeToLive : UInt32) (record : RR) : (setTTL timeToLive record).isOPT = record.isOPT := by
  unfold setTTL
  split <;> rfl

theorem normalize_blur (response : Msg) (timeToLive : UInt32) : (normalizeTTL response timeToLive).blur = response.blur := by
  have blurred : ∀ records : List RR, (records.map (setTTL timeToLive)).map RR.blur = records.map RR.blur := by
    intro records
    simpa [List.map_map] using List.map_congr_left (fun record _ => set_ttl_blur timeToLive record)
  have filtered : ∀ records : List RR, (records.map (setTTL timeToLive)).filter (fun record => !record.isOPT) =
      (records.filter (fun record => !record.isOPT)).map (setTTL timeToLive) := by
    grind [List.filter_congr, set_ttl_is_opt]
  simp only [normalizeTTL, mapRecords, blur, blurred, filtered]

theorem id_blur (response : Msg) (id : UInt16) : Msg.blur { response with id := id } = response.blur := rfl

theorem apply_options_blur {question : Question} {options : DNSQueryOptions} (kept : filtersHints question options = false)
    (response : Msg) : (applyResponseOptions question response options).1.blur = response.blur := by
  simp only [applyResponseOptions, kept, Bool.false_eq_true, if_false, normalize_blur]

theorem match_edns_blur (request response : Msg) : (matchEDNS request response).blur = response.blur := by
  unfold matchEDNS
  split
  · rfl
  split
  · simp [blur]
  split
  · simp [blur, RR.isOPT]
  · rfl

theorem blur_addresses (response : Msg) : dnsResponseAddresses (some response.blur) = dnsResponseAddresses (some response) := by
  have kept : ∀ record : RR, recordAddresses record.blur = recordAddresses record := by
    intro record
    unfold RR.blur
    split <;> rfl
  simp only [dnsResponseAddresses, blur, List.flatMap_map, kept]

theorem address_check_insensitive (test : List Addr → Bool) :
    Insensitive (fun response => test (dnsResponseAddresses (some response))) := by
  intro first second same
  dsimp only
  rw [← blur_addresses first, same, blur_addresses second]

abbrev Policy := SaveCacheKey → Checker

-- Whatever the cache file gives back is what was packed, up to what the
-- client rewrites anyway.
def RoundTrips (config : ClientConfig) : Prop :=
  ∀ message packed response, config.pack message = some packed → config.unpack packed = some response →
    response.blur = message.blur

-- What a call under the policy brings: its checker, if it has one, does not
-- look at what the client rewrites, and the hints of the answer are kept.
structure Governed (policy : Policy) (key : DNSCacheKey) (options : DNSQueryOptions) (checker : Checker) : Prop where
  assigned : checker = policy key.saveKey
  steady : Steady checker
  hints : checker.isSome = true → filtersHints key.question options = false

-- Every stored response passed the checker of its key, and every refresh on
-- its way will ask that checker.
structure ClientState.Checked (config : ClientConfig) (policy : Policy) (state : ClientState) : Prop where
  memory : ∀ cache key response expireAt, state.cache = some cache → cache key = some (response, expireAt) →
    Accepts (policy key.saveKey) response
  persistent : ∀ stored key packed expireAt response, state.dnsCache = some stored →
    stored key = some (packed, expireAt) → config.unpack packed = some response → Accepts (policy key) response
  refreshes : ∀ key refresh, state.backgroundRefresh key = some refresh →
    Governed policy key refresh.options refresh.responseChecker

section
variable {config : ClientConfig} {policy : Policy} {state : ClientState} {response : Msg} {now : Int} {isStale : Bool}
  {key : DNSCacheKey} {question : Question} {options : DNSQueryOptions} {checker : Checker} {call : ExchangeCall}

theorem age_blur {aged : Msg} {expireAt : Int}
    (loaded : ageResponse config response expireAt now = some (aged, isStale)) : aged.blur = response.blur := by
  grind [ageResponse, normalize_blur]

theorem load_persistent_blur {stored : SaveCacheKey → Option (List UInt8 × Int)}
    (loaded : loadPersistentResponse config stored key now = some (response, isStale)) :
    ∃ packed expireAt unpacked, stored key.saveKey = some (packed, expireAt) ∧ config.unpack packed = some unpacked ∧
      response.blur = unpacked.blur := by
  unfold loadPersistentResponse at loaded
  grind [age_blur]

theorem load_blur (loaded : (state.loadResponse config key now).1 = some (response, isStale)) :
    (∃ stored packed expireAt unpacked, state.dnsCache = some stored ∧ stored key.saveKey = some (packed, expireAt) ∧
        config.unpack packed = some unpacked ∧ response.blur = unpacked.blur) ∨
      ∃ cache kept expireAt, state.dnsCache = none ∧ state.cache = some cache ∧ cache key = some (kept, expireAt) ∧
        response.blur = kept.blur := by
  unfold loadResponse at loaded
  cases persistent : state.dnsCache with
  | some stored => grind [load_persistent_blur]
  | none =>
    simp only [persistent] at loaded
    split at loaded
    · contradiction
    split at loaded
    · contradiction
    grind [age_blur]

variable {message : Msg} {request : LookupRequest} {name : String}

theorem apply_accepted (steady : Steady checker) (hints : checker.isSome = true → filtersHints question options = false)
    (accepted : Accepts checker response) : Accepts checker (applyResponseOptions question response options).1 := by
  intro check given
  have kept := hints (by rw [given]; rfl)
  exact accepts_congr steady (apply_options_blur kept response).symm accepted check given

-- Calls that share a cache entry use the same checker; a call with a checker
-- has a question that its strategy does not refuse, keeps the hints, and its
-- checker does not look at what the client rewrites.
structure RegularExchange (config : ClientConfig) (policy : Policy) (call : ExchangeCall) : Prop where
  shared : cacheDisabled config call.message call.options = false → ∀ question rest,
    call.message.question = question :: rest →
    call.responseChecker = policy (cacheKey call.transport question).saveKey
  steady : Steady call.responseChecker
  asked : call.responseChecker.isSome = true → ∃ question rest, call.message.question = question :: rest ∧
    strategyRejected question call.options = false ∧ filtersHints question call.options = false

def Vouched (checker : Checker) (taken : TakenAddresses) : Prop :=
  Accepts checker taken.1 ∧ taken.2 = dnsResponseAddresses (some taken.1)

theorem vouched_addresses (accepted : Accepts checker response) {taken : TakenAddresses}
    (found : lookupAddresses response = .ok taken) : Vouched checker taken := by
  unfold lookupAddresses at found
  split at found
  · contradiction
  cases found
  exact ⟨accepted, rfl⟩

-- The checker accepts each response that addresses were taken from, and there
-- are no other addresses.
structure LookupResult.Accepted (checker : Checker) (result : LookupResult) : Prop where
  responses : ∀ response ∈ result.responses, Accepts checker response
  addresses : result.addresses.Perm (result.responses.flatMap (fun response => dnsResponseAddresses (some response)))

structure RegularQuestion (config : ClientConfig) (policy : Policy) (question : Question) (call : LookupCall) : Prop where
  shared : (config.disableCache || call.options.disableCache) = false →
    call.responseChecker = policy (cacheKey call.transport question).saveKey
  steady : Steady call.responseChecker
  allowed : strategyRejected question call.options = false
  address : (question.qtype == typeHTTPS) = false

theorem regular_question_exchange {call : LookupCall} (regular : RegularQuestion config policy question call)
    (timing : Timing) : RegularExchange config policy (call.exchangeCall question timing) := by
  refine ⟨?_, regular.steady, fun _ => ⟨question, [], rfl, regular.allowed, ?_⟩⟩
  · rintro enabled _ _ ⟨⟩
    apply regular.shared
    simp only [cacheDisabled, Bool.or_eq_false_iff] at enabled
    simp only [Bool.or_eq_false_iff]
    exact ⟨enabled.1.2, enabled.2⟩
  · simp [filtersHints, regular.address]

structure RegularLookup (config : ClientConfig) (policy : Policy) (request : LookupRequest) : Prop where
  shared : (config.disableCache || request.call.options.disableCache) = false → ∀ qtype ∈ [typeA, typeAAAA],
    request.call.responseChecker = policy ⟨request.call.transport.tag, config.dnsName request.domain, qtype⟩
  steady : Steady request.call.responseChecker

theorem lookup_options_strategy (options : DNSQueryOptions) : (lookupOptionsOf options).strategy = lookupStrategyOf options := by
  unfold lookupOptionsOf
  split
  · rfl
  · simp_all [lookupStrategyOf]

theorem lookup_options_cache (options : DNSQueryOptions) : (lookupOptionsOf options).disableCache = options.disableCache := by
  unfold lookupOptionsOf
  split <;> rfl

theorem regular_lookup_question (regular : RegularLookup config policy request)
    {qtype : UInt16} (member : qtype ∈ [typeA, typeAAAA])
    (allowed : strategyRejected ⟨config.dnsName request.domain, qtype, classINET⟩
      (lookupOptionsOf request.call.options) = false) :
    RegularQuestion config policy ⟨config.dnsName request.domain, qtype, classINET⟩
      { request.call with options := lookupOptionsOf request.call.options } := by
  refine ⟨?_, regular.steady, allowed, ?_⟩
  · intro enabled
    rw [lookup_options_cache] at enabled
    exact regular.shared enabled qtype member
  simp only [List.mem_cons, List.not_mem_nil, or_false] at member
  rcases member with rfl | rfl <;> rfl

theorem single_accepted {result : Except LookupError TakenAddresses} (vouched : ∀ taken, result = .ok taken → Vouched checker taken) :
    (singleLookup result).Accepted checker := by
  cases result with
  | ok taken =>
    obtain ⟨accepted, same⟩ := vouched taken rfl
    exact ⟨by simpa [singleLookup] using accepted, by simp [singleLookup, same]⟩
  | error => exact ⟨by simp [singleLookup], by simp [singleLookup]⟩

theorem join_accepted {strategy : DomainStrategy} {result4 result6 : LookupResult} (accepted4 : result4.Accepted checker)
    (accepted6 : result6.Accepted checker) : (joinLookups strategy result4 result6).Accepted checker := by
  have both := accepted4.addresses.append accepted6.addresses
  have responses : ∀ response ∈ result4.responses ++ result6.responses, Accepts checker response := by
    grind [accepted4.responses, accepted6.responses]
  unfold joinLookups
  split
  · rename_i empty
    simp only [Bool.and_eq_true, List.isEmpty_iff] at empty
    exact ⟨responses, by simpa [empty] using both⟩
  refine ⟨responses, ?_⟩
  rw [List.flatMap_append]
  unfold sortAddresses
  split
  · exact List.perm_append_comm.trans both
  · exact both

theorem inet4_allowed (asks : options.strategy ≠ .ipv6Only) : strategyRejected ⟨name, typeA, classINET⟩ options = false := by
  simp [strategyRejected, asks, typeA, typeAAAA]

theorem inet6_allowed (asks : options.strategy ≠ .ipv4Only) : strategyRejected ⟨name, typeAAAA, classINET⟩ options = false := by
  simp [strategyRejected, asks, typeA, typeAAAA]

section
variable (roundTrips : RoundTrips config) (checked : state.Checked config policy)
include checked

theorem load_accepted (steady : Steady (policy key.saveKey))
    (loaded : (state.loadResponse config key now).1 = some (response, isStale)) : Accepts (policy key.saveKey) response := by
  rcases load_blur loaded with
    ⟨stored, packed, expireAt, unpacked, persistent, found, given, same⟩ | ⟨cache, kept, expireAt, _, present, found, same⟩
  · exact accepts_congr steady same.symm (checked.persistent stored key.saveKey packed expireAt unpacked persistent found given)
  · exact accepts_congr steady same.symm (checked.memory cache key kept expireAt present found)

theorem load_checked (key : DNSCacheKey) (now : Int) : (state.loadResponse config key now).2.Checked config policy := by
  fun_cases loadResponse <;> try exact checked
  refine ⟨?_, checked.persistent, checked.refreshes⟩
  rintro _ other response expireAt ⟨⟩ found
  grind [checked.memory]

theorem reject_checked (key : SaveCacheKey) : (state.saveRDRC key).Checked config policy :=
  ⟨checked.memory, checked.persistent, checked.refreshes⟩

theorem refresh_checked {refresh : Refresh} (governed : Governed policy key refresh.options refresh.responseChecker) :
    (state.backgroundRefreshDNS key refresh).Checked config policy := by
  unfold backgroundRefreshDNS
  split
  · exact checked
  refine ⟨checked.memory, checked.persistent, ?_⟩
  grind [checked.refreshes]

theorem exchange_cached_accepted (governed : Governed policy key call.options call.responseChecker)
    (cached : (state.exchangeCached config key message call).1 = some response) : Accepts call.responseChecker response := by
  have steady := governed.steady
  rw [governed.assigned] at steady ⊢
  revert cached
  fun_cases state.exchangeCached config key message call <;> rintro ⟨⟩ <;> rename_i loaded
  all_goals
    have accepted := load_accepted checked steady (congrArg Prod.fst loaded)
    exact accepts_congr steady (id_blur _ _).symm accepted

theorem exchange_cached_checked (message : Msg) (governed : Governed policy key call.options call.responseChecker) :
    (state.exchangeCached config key message call).2.Checked config policy := by
  have loaded := load_checked checked key call.loadedAt
  simp only [exchangeCached]
  split
  · exact loaded
  · grind [refresh_checked]

theorem question_cache_checked (message : Msg) {call : LookupCall}
    (governed : Governed policy key call.options call.responseChecker) (now : Int) :
    (state.questionCache config key message call now).2.Checked config policy ∧
      ∀ taken, (state.questionCache config key message call now).1 = some (.ok taken) → Vouched call.responseChecker taken := by
  have loaded := load_checked checked key now
  simp only [questionCache]
  split
  · grind
  rename_i response isStale found
  split
  · grind
  constructor
  · grind [refresh_checked]
  intro _ same
  have steady := governed.steady
  rw [governed.assigned] at steady ⊢
  exact vouched_addresses (load_accepted checked steady found) (Option.some.inj same)

theorem clear_checked : state.clearCache.Checked config policy := by
  refine ⟨?_, ?_, checked.refreshes⟩
  · intro cache key response expireAt cleared found
    obtain ⟨_, _, rfl⟩ := Option.map_eq_some_iff.mp cleared
    contradiction
  intro stored key packed expireAt response cleared found
  obtain ⟨_, _, rfl⟩ := Option.map_eq_some_iff.mp cleared
  contradiction

theorem evict_checked (evicted : DNSCacheKey) :
    ClientState.Checked config policy { state with cache := state.cache.map (fun cache => erase cache evicted) } := by
  refine ⟨?_, checked.persistent, checked.refreshes⟩
  intro cache key response expireAt left found
  obtain ⟨before, present, rfl⟩ := Option.map_eq_some_iff.mp left
  grind [checked.memory]

include roundTrips

theorem store_checked (steady : Steady (policy key.saveKey)) (accepted : Accepts (policy key.saveKey) message)
    (timeToLive : UInt32) (now : Int) : (state.storeCache config key message timeToLive now).Checked config policy := by
  fun_cases storeCache <;> try exact checked
  · rename_i packed given
    refine ⟨checked.memory, ?_, checked.refreshes⟩
    rintro _ other raw expireAt response ⟨⟩ found unpacked
    rcases put_eq_some.mp found with ⟨rfl, same⟩ | ⟨_, before⟩
    · cases same
      exact accepts_congr steady (roundTrips message packed response given unpacked).symm accepted
    · grind [checked.persistent]
  refine ⟨?_, checked.persistent, checked.refreshes⟩
  rintro _ other response expireAt ⟨⟩ found
  grind [checked.memory]

theorem finish_refresh_checked {upstream : Upstream} {result : ClientState}
    (finished : state.finishRefresh config key upstream now = some result) : result.Checked config policy := by
  unfold finishRefresh at finished
  split at finished
  · contradiction
  rename_i refresh running
  obtain ⟨assigned, steady, hints⟩ := checked.refreshes key refresh running
  have ended : ClientState.Checked config policy
      { state with backgroundRefresh := erase state.backgroundRefresh key } :=
    ⟨checked.memory, checked.persistent,
      fun other refresh found => checked.refreshes other refresh (erase_eq_some.mp found).2⟩
  split at finished
  · simp_all
  split at finished
  · cases finished
    exact reject_checked ended key.saveKey
  rename_i passed
  split at finished
  · simp_all
  cases finished
  have accepted := apply_accepted steady hints (accepts_of_not_rejects (Bool.eq_false_iff.mpr passed))
  rw [assigned] at steady accepted
  exact store_checked roundTrips ended steady accepted _ now

theorem exchange_uncached_checked (message : Msg) {disableCache : Bool} (steady : Steady call.responseChecker)
    (hints : call.responseChecker.isSome = true → filtersHints key.question call.options = false)
    (assigned : disableCache = false → call.responseChecker = policy key.saveKey) :
    (state.exchangeUncached config key message disableCache call).2.Checked config policy ∧
      ∀ response, (state.exchangeUncached config key message disableCache call).1 = .answered response →
        Accepts call.responseChecker response := by
  unfold exchangeUncached
  split
  · grind
  split
  · grind
  split
  · grind
  dsimp only
  split
  · grind [reject_checked]
  rename_i passed
  have accepted := apply_accepted steady hints (accepts_of_not_rejects (Bool.eq_false_iff.mpr passed))
  constructor
  · split
    · have uses : disableCache = false := by
        cases disableCache <;> simp_all
      rw [assigned uses] at steady accepted
      exact store_checked roundTrips checked steady accepted _ call.storedAt
    · exact checked
  rintro _ ⟨⟩
  exact accepts_congr steady (match_edns_blur message _).symm (accepts_congr steady (id_blur _ _).symm accepted)

theorem exchange_checked (regular : RegularExchange config policy call) : (state.exchange config call).2.Checked config policy ∧
      ∀ response, (state.exchange config call).1 = .answered response → Accepts call.responseChecker response := by
  have checkedQuestion : ∀ check, call.responseChecker = some check → ∃ question rest,
      call.message.question = question :: rest ∧ strategyRejected question call.options = false ∧
        filtersHints question call.options = false :=
    fun check given => regular.asked (by rw [given]; rfl)
  unfold exchange
  split
  · rename_i empty
    refine ⟨checked, fun response _ check given => ?_⟩
    obtain ⟨question, rest, asked, _⟩ := checkedQuestion check given
    simp [empty] at asked
  rename_i question rest asked
  have hints : call.responseChecker.isSome = true → filtersHints question call.options = false := by
    intro given
    obtain ⟨_, _, same, _, kept⟩ := regular.asked given
    rw [asked] at same
    cases same
    exact kept
  split
  · rename_i refused
    refine ⟨checked, fun response _ check given => ?_⟩
    obtain ⟨_, _, same, allowed, _⟩ := checkedQuestion check given
    rw [asked] at same
    cases same
    simp [refused] at allowed
  dsimp only
  cases disabled : cacheDisabled config call.message call.options with
  | true =>
    exact exchange_uncached_checked roundTrips checked _ regular.steady hints nofun
  | false =>
    have assigned := regular.shared disabled question rest asked
    have governed : Governed policy (cacheKey call.transport question) call.options call.responseChecker :=
      ⟨assigned, regular.steady, hints⟩
    split
    · refine ⟨exchange_cached_checked checked _ governed, ?_⟩
      grind [exchange_cached_accepted]
    exact exchange_uncached_checked roundTrips (exchange_cached_checked checked _ governed) _ regular.steady
      hints (fun _ => assigned)

theorem lookup_to_exchange_checked {call : LookupCall} (regular : RegularQuestion config policy question call) (timing : Timing) :
    (state.lookupToExchange config question call timing).2.Checked config policy ∧
      ∀ taken, (state.lookupToExchange config question call timing).1 = .ok taken → Vouched call.responseChecker taken := by
  -- the part behind the cache, from whatever state the cache left
  have behind : ∀ state : ClientState, state.Checked config policy →
      (state.exchange config (call.exchangeCall question timing)).2.Checked config policy ∧
        ∀ taken, exchangeAddresses (state.exchange config (call.exchangeCall question timing)).1 = .ok taken →
          Vouched call.responseChecker taken := by
    intro state checked
    obtain ⟨kept, accepted⟩ := exchange_checked roundTrips checked (regular_question_exchange regular timing)
    refine ⟨kept, fun taken found => ?_⟩
    cases result : (state.exchange config (call.exchangeCall question timing)).1 with
    | answered response =>
      rw [result] at found
      exact vouched_addresses (accepted response result) found
    | rejected | failed =>
      rw [result] at found
      contradiction
  simp only [lookupToExchange]
  cases disabled : config.disableCache || call.options.disableCache with
  | true =>
    simpa [Bool.not_true, Bool.false_eq_true, if_false] using behind state checked
  | false =>
    have governed : Governed policy (cacheKey call.transport question) call.options call.responseChecker :=
      ⟨regular.shared disabled, regular.steady, fun _ => by simp [filtersHints, cacheKey, regular.address]⟩
    obtain ⟨kept, cached⟩ := question_cache_checked checked (call.exchangeCall question timing).message governed
      timing.loadedAt
    split
    · simp_all
    · exact behind _ kept

theorem lookup_checked (regular : RegularLookup config policy request) : (state.lookup config request).2.Checked config policy ∧
      (state.lookup config request).1.Accepted request.call.responseChecker := by
  have strategy := lookup_options_strategy request.call.options
  -- each question from whatever state the other one left
  have ask4 (state : ClientState) (checked : state.Checked config policy)
      (asks : lookupStrategyOf request.call.options ≠ .ipv6Only) :=
    lookup_to_exchange_checked roundTrips checked
      (regular_lookup_question regular (by simp) (inet4_allowed (strategy ▸ asks))) request.timing4
  have ask6 (state : ClientState) (checked : state.Checked config policy)
      (asks : lookupStrategyOf request.call.options ≠ .ipv4Only) :=
    lookup_to_exchange_checked roundTrips checked
      (regular_lookup_question regular (by simp) (inet6_allowed (strategy ▸ asks))) request.timing6
  simp only [lookup]
  split
  · grind [single_accepted]
  · grind [single_accepted]
  rename_i not4 not6
  split
  · obtain ⟨kept6, vouched6⟩ := ask6 state checked not4
    obtain ⟨kept4, vouched4⟩ := ask4 _ kept6 not6
    exact ⟨kept4, join_accepted (single_accepted vouched4) (single_accepted vouched6)⟩
  obtain ⟨kept4, vouched4⟩ := ask4 state checked not6
  obtain ⟨kept6, vouched6⟩ := ask6 _ kept4 not4
  exact ⟨kept6, join_accepted (single_accepted vouched4) (single_accepted vouched6)⟩

end
end

def Regular (config : ClientConfig) (policy : Policy) (_ : ClientState) : ClientEvent → Prop
  | .exchange call => RegularExchange config policy call
  | .lookup request => RegularLookup config policy request
  | _ => True

theorem client_step_checked {config : ClientConfig} {policy : Policy} (roundTrips : RoundTrips config)
    {state result : ClientState} (checked : state.Checked config policy) {event : ClientEvent}
    (regular : Regular config policy state event) (taken : clientStep config state event = some result) :
    result.Checked config policy := by
  cases event with
  | exchange =>
    cases taken
    exact (exchange_checked roundTrips checked regular).1
  | lookup =>
    cases taken
    exact (lookup_checked roundTrips checked regular).1
  | refresh => exact finish_refresh_checked roundTrips checked taken
  | clear =>
    cases taken
    exact clear_checked checked
  | evict key =>
    cases taken
    exact evict_checked checked key
  | expireRejection =>
    cases taken
    exact ⟨checked.memory, checked.persistent, checked.refreshes⟩

theorem start_checked (config : ClientConfig) (policy : Policy) (rdrc dnsCache : Bool) :
    (startClient config rdrc dnsCache).Checked config policy := by
  refine ⟨?_, ?_, fun _ _ => nofun⟩ <;> intro cache key
  · intro response expireAt present found
    simp only [startClient, Option.ite_none_right_eq_some, Option.some.injEq] at present
    simp [← present.2] at found
  intro _ expireAt response present found
  simp only [startClient, Option.ite_none_right_eq_some, Option.some.injEq] at present
  simp [← present.2] at found

theorem cached_responses_accepted (config : ClientConfig) (roundTrips : RoundTrips config) (policy : Policy)
    (rdrc dnsCache : Bool) (state : ClientState)
    (run : Run (clientStep config) (Regular config policy) (startClient config rdrc dnsCache) state) :
    (∀ call response, RegularExchange config policy call → (state.exchange config call).1 = .answered response →
      Accepts call.responseChecker response) ∧
    (∀ request, RegularLookup config policy request →
      (state.lookup config request).1.Accepted request.call.responseChecker) := by
  have checked : state.Checked config policy :=
    run.invariant (fun state => state.Checked config policy) (start_checked config policy rdrc dnsCache)
      (fun _ _ _ checked regular taken => client_step_checked roundTrips checked regular taken)
  exact ⟨fun call response regular answered => (exchange_checked roundTrips checked regular).2 response answered,
    fun request regular => (lookup_checked roundTrips checked regular).2⟩

def exampleConfig : ClientConfig where
  pack _ := none
  unpack _ := none
  dnsName domain := domain ++ "."

def exampleQuestion : Question := ⟨"example.org.", typeA, classINET⟩

def exampleAnswer : Msg :=
  ⟨0, true, rcodeSuccess, [exampleQuestion], [⟨"example.org.", typeA, classINET, 300, .a (.v4 0x01020304#32)⟩], [], []⟩

def exampleCall (checker : Checker) : ExchangeCall where
  transport := { tag := "local" }
  message := ⟨1, false, rcodeSuccess, [exampleQuestion], [], [], []⟩
  options := {}
  responseChecker := checker
  contextTransport := none
  upstream := .response exampleAnswer
  loadedAt := 0
  storedAt := 0

def onlyAddress (address : Addr) (response : Msg) : Bool := (dnsResponseAddresses (some response)).all (· == address)

theorem cache_bypasses_checker :
    ¬ ∀ (config : ClientConfig) (rdrc dnsCache : Bool) (state : ClientState),
      Run (clientStep config) anyStep (startClient config rdrc dnsCache) state → ∀ call response,
        (state.exchange config call).1 = .answered response → Accepts call.responseChecker response := by
  intro accepted
  have run : Run (clientStep exampleConfig) anyStep (startClient exampleConfig false false) _ :=
    run_of_execute [.exchange (exampleCall none)] _ _ (fun _ _ _ => trivial) rfl
  have passed := accepted exampleConfig false false _ run
    (exampleCall (some (onlyAddress (.v4 0x0a000001#32)))) { exampleAnswer with id := 1 } (by decide) _ rfl
  revert passed
  decide

def exampleChecker : Checker := some (onlyAddress (.v4 0x01020304#32))

theorem same_checker_accepts_cached :
    RoundTrips exampleConfig ∧ RegularExchange exampleConfig (fun _ => exampleChecker) (exampleCall exampleChecker) ∧
      onlyAddress (.v4 0x01020304#32) { exampleAnswer with id := 1 } = true := by
  have roundTrips : RoundTrips exampleConfig := nofun
  have regular : RegularExchange exampleConfig (fun _ => exampleChecker) (exampleCall exampleChecker) := by
    refine ⟨fun _ _ _ _ => rfl, ?_, fun _ => ⟨exampleQuestion, [], rfl, by decide, by decide⟩⟩
    rintro _ ⟨⟩
    exact address_check_insensitive (fun addresses => addresses.all (· == .v4 0x01020304#32))
  refine ⟨roundTrips, regular, ?_⟩
  have run : Run (clientStep exampleConfig) (Regular exampleConfig (fun _ => exampleChecker))
      (startClient exampleConfig false false) _ := Run.next (.exchange (exampleCall exampleChecker)) Run.refl regular rfl
  exact (cached_responses_accepted exampleConfig roundTrips _ false false _ run).1 (exampleCall exampleChecker)
    { exampleAnswer with id := 1 } regular (by decide) _ rfl

end OtunKernel.Dns
