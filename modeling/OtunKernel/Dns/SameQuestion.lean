import OtunKernel.Dns.AnswerCache
import OtunKernel.Dns.PendingClear

namespace OtunKernel.Dns

open Lib AnswerState

structure DNSCacheState.Holds (file : DNSCacheState) (fresh old : SaveCacheKey → List UInt8 → Prop) : Prop where
  pending : ∀ key entry, file.saveDNSCache key = some entry → fresh key entry.rawMessage
  held : ∀ flusher key entry, file.flushers flusher = some ⟨key, .saving entry⟩ → old key entry.rawMessage
  bucket : ∀ key stored, file.bucket key = some stored → old key stored.rawMessage

section
variable {file result : DNSCacheState} {fresh old : SaveCacheKey → List UInt8 → Prop} {goroutine : Nat}
  {bucket : SaveCacheKey → Option StoredMessage}

section
variable (holds : file.Holds fresh old)
include holds

theorem DNSCacheState.Holds.mono {fresher older : SaveCacheKey → List UInt8 → Prop}
    (pending : ∀ key raw, fresh key raw → fresher key raw) (saved : ∀ key raw, old key raw → older key raw) :
    file.Holds fresher older :=
  ⟨fun key entry present => pending key _ (holds.pending key entry present),
    fun flusher key entry active => saved key _ (holds.held flusher key entry active),
    fun key stored present => saved key _ (holds.bucket key stored present)⟩

theorem holds_save {owner : SaveCacheKey} {rawMessage : List UInt8} {expireAt : Int} (new : fresh owner rawMessage)
    (taken : file.saveDNSCacheAsync owner rawMessage expireAt goroutine = some result) : result.Holds fresh old := by
  obtain ⟨pending, bucket, flushers⟩ := save_cases taken
  refine ⟨?_, ?_, ?_⟩
  · intro key entry present
    rw [pending] at present
    rcases put_eq_some.mp present with ⟨rfl, rfl⟩ | ⟨_, present⟩
    · exact new
    · exact holds.pending key entry present
  · intro flusher key entry active
    rcases flushers with ⟨_, kept⟩ | ⟨_, _, spawned⟩
    · rw [kept] at active
      exact holds.held flusher key entry active
    rw [spawned] at active
    grind [holds.held]
  · grind [holds.bucket]

theorem holds_flush (aged : ∀ key raw, fresh key raw → old key raw)
    (taken : file.flushStep goroutine = some result) : result.Holds fresh old := by
  obtain ⟨owner, _, found, cases⟩ := flush_cases taken
  rcases cases with ⟨_, rfl⟩ | ⟨read, present, rfl⟩ | ⟨saved, rfl, rfl⟩ | rfl | ⟨_, _, _, _, _, rfl⟩
  · refine ⟨holds.pending, fun flusher key entry active => ?_, holds.bucket⟩
    exact holds.held flusher key entry (erase_eq_some.mp active).2
  · refine ⟨holds.pending, fun flusher key entry active => ?_, holds.bucket⟩
    rcases put_eq_some.mp active with ⟨_, same⟩ | ⟨_, active⟩
    · grind [holds.pending]
    · exact holds.held flusher key entry active
  · refine ⟨holds.pending, fun flusher key entry active => ?_, fun key stored present => ?_⟩
    · exact holds.held flusher key entry (moved_saving active (by simp)).2
    rcases put_eq_some.mp present with ⟨rfl, rfl⟩ | ⟨_, present⟩
    · exact holds.held goroutine key saved found
    · exact holds.bucket key stored present
  · refine ⟨holds.pending, fun flusher key entry active => ?_, holds.bucket⟩
    exact holds.held flusher key entry (moved_saving active (by simp)).2
  refine ⟨fun key entry present => ?_, fun flusher key entry active => ?_, holds.bucket⟩
  · exact holds.pending key entry (erase_eq_some.mp present).2
  · exact holds.held flusher key entry (erase_eq_some.mp active).2

theorem holds_flush_fails (taken : file.flushFails goroutine = some result) : result.Holds fresh old := by
  rw [DNSCacheState.flushFails] at taken
  split at taken
  · cases taken
    refine ⟨holds.pending, fun flusher key entry active => ?_, holds.bucket⟩
    exact holds.held flusher key entry (moved_saving active (by simp)).2
  · contradiction

theorem holds_clear_pending (fresher : SaveCacheKey → List UInt8 → Prop)
    (taken : dnsCacheStep file (.clearPending goroutine) = some result) : result.Holds fresher old := by
  rw [dnsCacheStep, Option.ite_none_left_eq_some, Option.some.injEq] at taken
  rw [← taken.2]
  exact ⟨by simp, holds.held, holds.bucket⟩

theorem holds_drop_bucket {older : SaveCacheKey → List UInt8 → Prop} (aged : ∀ key raw, fresh key raw → older key raw)
    (pending : ∀ flusher key entry, file.flushers flusher = some ⟨key, .saving entry⟩ → file.saveDNSCache key = some entry)
    (taken : dnsCacheStep file (.dropBucket goroutine) = some result) : result.Holds fresh older := by
  rw [dnsCacheStep, Option.ite_none_right_eq_some, Option.some.injEq] at taken
  rw [← taken.2]
  refine ⟨holds.pending, fun flusher key entry active => ?_, by simp⟩
  grind [holds.pending]

theorem holds_bucket_shrink (fewer : ∀ key stored, bucket key = some stored → file.bucket key = some stored) :
    DNSCacheState.Holds { file with bucket := bucket } fresh old :=
  ⟨holds.pending, holds.held, fun key stored present => holds.bucket key stored (fewer key stored present)⟩

end

theorem idle_holds
    (holds : ∀ key stored, bucket key = some stored → old key stored.rawMessage) : (idleDNSCache bucket).Holds fresh old :=
  ⟨by simp [idleDNSCache], by simp [idleDNSCache], holds⟩

end

def Stored (config : ClientConfig) (heard : List Heard) (bound : Nat) (key : SaveCacheKey) (raw : List UInt8) : Prop :=
  ∃ answer ∈ heard, answer.key.saveKey = key ∧ bound ≤ answer.stamp ∧
    ∃ response, answer.response = some response ∧ config.pack response = some raw

def Remembered (heard : List Heard) (bound : Nat) (key : DNSCacheKey) (response : Msg) : Prop :=
  ∃ answer ∈ heard, answer.key = key ∧ answer.Answers response ∧ bound ≤ answer.stamp

-- The bucket is read only if there is a cache file, and what a call is about to
-- store is an answer that its transport gave.
def AnswerCall.Grounded (persistent : Bool) (heard : List Heard) (call : AnswerCall) : Prop :=
  match call.phase with
  | .viewing => persistent = true
  | .storing response _ stamp =>
    ∃ answer ∈ heard, answer.key = call.key ∧ answer.response = some response ∧ answer.stamp = stamp
  | _ => True

structure AnswerState.Sourced (config : ClientConfig) (persistent : Bool) (state : AnswerState) : Prop where
  order : state.cleared ≤ state.purged
  memory : persistent = false → ∀ key entry, state.memory key = some entry →
    Remembered state.heard state.purged key entry.1
  file : persistent = true →
    state.file.Holds (Stored config state.heard state.purged) (Stored config state.heard state.cleared)
  calls : ∀ goroutine call, state.calls goroutine = some call → call.Grounded persistent state.heard
  clears : ∀ goroutine index, state.clears goroutine = some ⟨index, true⟩ → index ≤ state.purged
  served : ∀ served ∈ state.served, served.Faithful state.heard

section
variable {config : ClientConfig} {persistent : Bool} {state : AnswerState} {heard : List Heard} {bound goroutine : Nat}
  {raw : List UInt8} {call : AnswerCall} {result : AnswerState} {response : Msg} {input : AnswerInput} {key : SaveCacheKey}
  {refresher : Nat}

theorem Stored.later {lower : Nat} (stored : Stored config heard bound key raw)
    (less : lower ≤ bound) : Stored config heard lower key raw := by
  obtain ⟨answer, member, same, recent, packed⟩ := stored
  exact ⟨answer, member, same, less.trans recent, packed⟩

theorem Stored.remembered (roundTrips : RoundTrips config) {key : DNSCacheKey}
    (stored : Stored config state.heard bound key.saveKey raw) (oneClass : state.OneClass key) {unpacked : Msg}
    (given : config.unpack raw = some unpacked) (same : response.blur = unpacked.blur) :
    Remembered state.heard bound key response := by
  obtain ⟨answer, member, saved, recent, message, heard, packed⟩ := stored
  have whole : answer.key = key := by
    have class_eq := oneClass answer member saved
    rcases found : answer.key with ⟨⟨_, _, _⟩, _⟩
    rw [found] at saved class_eq
    obtain ⟨rfl, rfl, rfl⟩ := saved
    dsimp only at class_eq
    rw [class_eq]
  exact ⟨answer, member, whole, ⟨message, heard, same.trans (roundTrips message raw unpacked packed given)⟩, recent⟩

theorem Remembered.more {key : DNSCacheKey} (remembered : Remembered heard bound key response) (latest : Heard) :
    Remembered (latest :: heard) bound key response := by
  obtain ⟨answer, member, rest⟩ := remembered
  exact ⟨answer, List.mem_cons_of_mem latest member, rest⟩

theorem Stored.more (stored : Stored config heard bound key raw) (latest : Heard) : Stored config (latest :: heard) bound key raw := by
  obtain ⟨answer, member, rest⟩ := stored
  exact ⟨answer, List.mem_cons_of_mem latest member, rest⟩

theorem AnswerCall.Grounded.more (grounded : call.Grounded persistent heard) (latest : Heard) :
    call.Grounded persistent (latest :: heard) := by grind [AnswerCall.Grounded]

section
variable (sourced : state.Sourced config persistent)
include sourced

theorem sourced_calls {calls : Nat → Option AnswerCall}
    (refreshes : DNSCacheKey → Bool)
    (grounded : ∀ goroutine call, calls goroutine = some call →
      state.calls goroutine = some call ∨ call.Grounded persistent state.heard) :
    AnswerState.Sourced config persistent { state with calls := calls, backgroundRefresh := refreshes } := by
  refine { sourced with calls := fun goroutine call found => ?_ }
  grind [sourced.calls]

theorem finish_sourced (goroutine : Nat) (call : AnswerCall) : (state.finish goroutine call).Sourced config persistent :=
  sourced_calls sourced _ (fun _ _ found => .inl (erase_eq_some.mp found).2)

theorem put_sourced (goroutine : Nat)
    (grounded : call.Grounded persistent state.heard) :
    AnswerState.Sourced config persistent { state with calls := put state.calls goroutine call } := by
  grind [sourced_calls]

theorem start_call_sourced (grounded : call.Grounded persistent state.heard)
    (taken : state.start goroutine call = some result) : result.Sourced config persistent := by
  rw [start] at taken
  split at taken
  · contradiction
  · grind [put_sourced]

theorem exchange_sourced {call : LookupCall} {message : Msg}
    (taken : state.exchange config goroutine call message = some result) : result.Sourced config persistent := by
  rw [exchange] at taken
  split at taken
  · grind
  split at taken
  · grind
  refine start_call_sourced sourced ?_ taken
  cases cacheDisabled config message call.options <;> trivial

theorem lookup_sourced {call : LookupCall} {question : Question}
    (taken : state.lookup config goroutine call question = some result) : result.Sourced config persistent := by
  rw [lookup] at taken
  split at taken
  · grind
  refine start_call_sourced sourced ?_ taken
  trivial

theorem miss_sourced (goroutine : Nat) (call : AnswerCall) : (state.miss goroutine call).Sourced config persistent := by
  rw [miss]
  split
  · exact finish_sourced sourced goroutine call
  · exact put_sourced sourced goroutine trivial

theorem serve_sourced (goroutine : Nat) (remembered : Remembered state.heard state.cleared call.key response) :
    (state.serve goroutine call response).Sourced config persistent := by
  refine { finish_sourced sourced goroutine call with served := ?_ }
  intro served member
  rcases List.mem_cons.mp member with rfl | earlier
  · exact remembered
  · exact sourced.served served earlier

theorem settle_sourced {loaded : Option (Msg × Bool)} (remembered : ∀ response isStale, loaded = some (response, isStale) →
      Remembered state.heard state.cleared call.key response)
    (taken : state.settle goroutine call refresher loaded = some result) : result.Sourced config persistent := by
  revert taken
  fun_cases settle state goroutine call refresher loaded <;> intro taken
  · cases taken
    exact miss_sourced sourced goroutine call
  · cases taken
    exact miss_sourced sourced goroutine call
  all_goals have served := serve_sourced sourced goroutine (remembered _ _ rfl)
  · rw [backgroundRefreshDNS] at taken
    split at taken
    · simp_all
    refine start_call_sourced (sourced_calls served _ (fun _ _ found => .inl found)) ?_ taken
    trivial
  · simp_all

theorem heard_sourced (latest : Heard) :
    AnswerState.Sourced config persistent { state with heard := latest :: state.heard } := by
  refine ⟨sourced.order, ?_, ?_, ?_, sourced.clears, ?_⟩
  · exact fun mode key entry present => (sourced.memory mode key entry present).more latest
  · exact fun mode => (sourced.file mode).mono (fun _ _ stored => stored.more latest) (fun _ _ stored => stored.more latest)
  · exact fun goroutine call found => (sourced.calls goroutine call found).more latest
  · exact fun served member => Remembered.more (sourced.served served member) latest

theorem hear_sourced (goroutine : Nat) (call : AnswerCall)
    (upstream : Upstream) : (state.hear goroutine call upstream).Sourced config persistent := by
  rw [hear]
  split
  · exact finish_sourced sourced goroutine call
  rename_i given
  let latest : Heard := ⟨call.key, call.message, call.options, upstream, state.begun⟩
  have known := heard_sourced sourced latest
  dsimp only
  split
  · exact finish_sourced known goroutine call
  refine put_sourced known goroutine ⟨latest, List.mem_cons_self, rfl, ?_, rfl⟩
  simp [Heard.response, latest, given]

theorem store_sourced {timeToLive : UInt32} {answer : Heard} (member : answer ∈ state.heard) (whole : answer.key = call.key)
    (given : answer.response = some response) (recent : state.purged ≤ answer.stamp)
    (taken : state.storeCache config persistent goroutine call response timeToLive input = some result) :
    result.Sourced config persistent := by
  have done := finish_sourced sourced goroutine call
  cases persistent with
  | true =>
    simp only [storeCache, if_true] at taken
    split at taken
    · grind
    split at taken
    · grind
    rename_i packed pack
    obtain ⟨file, queued, rfl⟩ := Option.map_eq_some_iff.mp taken
    have new : Stored config state.heard state.purged call.key.saveKey packed :=
      ⟨answer, member, by rw [whole], recent, response, given, pack⟩
    exact { done with file := fun _ => holds_save (sourced.file rfl) new queued }
  | false =>
    cases taken
    refine { done with memory := fun _ key entry present => ?_ }
    rcases (store_wrote config (memoryClient state.memory) call.key response timeToLive input.now).memory key entry present with
      old | ⟨rfl, same⟩
    · exact sourced.memory rfl key entry old
    · exact ⟨answer, member, whole, ⟨response, given, by rw [same]⟩, recent⟩

theorem purge_sourced (taken : state.purge persistent goroutine = some result) : result.Sourced config persistent := by
  revert taken
  fun_cases purge persistent state goroutine <;> intro taken
  · rename_i on
    cases on
    obtain ⟨_, cleared, rfl⟩ := Option.map_eq_some_iff.mp taken
    refine ⟨sourced.order.trans (le_max_left _ _), by simp, ?_, sourced.calls, ?_, sourced.served⟩
    · exact fun _ => holds_clear_pending (sourced.file rfl) _ cleared
    intro other last running
    rcases put_eq_some.mp running with ⟨_, same⟩ | ⟨_, running⟩
    · simp_all
    · exact (sourced.clears other last running).trans (le_max_left _ _)
  · rename_i index _ off
    cases taken
    refine ⟨max_le_max_right index sourced.order, by simp, by simp [off], sourced.calls, ?_, sourced.served⟩
    intro other last running
    exact (sourced.clears other last (erase_eq_some.mp running).2).trans (le_max_left _ _)
  · contradiction

theorem drop_sourced (orderly : state.Orderly persistent (.drop goroutine))
    (taken : state.drop goroutine = some result) : result.Sourced config persistent := by
  rw [drop] at taken
  split at taken
  · rename_i index found
    obtain ⟨_, dropped, rfl⟩ := Option.map_eq_some_iff.mp taken
    -- what is pending came after the purge, so after this clear had begun
    have latest : max state.cleared index ≤ state.purged := max_le sourced.order (sourced.clears goroutine index found)
    refine ⟨latest, sourced.memory, fun mode => ?_, sourced.calls, ?_, sourced.served⟩
    · exact holds_drop_bucket (sourced.file mode) (fun _ _ stored => stored.later latest) orderly dropped
    · exact fun other last running => sourced.clears other last (erase_eq_some.mp running).2
  · contradiction

end

theorem load_memory_sourced (sourced : state.Sourced config false)
    (taken : state.load config false goroutine call input = some result) : result.Sourced config false := by
  simp only [load, Bool.false_eq_true, if_false] at taken
  have kept := load_kept config (memoryClient state.memory) call.key input.now
  have remaining : AnswerState.Sourced config false
      { state with memory := ((memoryClient state.memory).loadResponse config call.key input.now).2.memory } :=
    { sourced with memory := fun _ key entry present => sourced.memory rfl key entry (kept.memory key entry present) }
  refine settle_sourced remaining (fun response isStale loaded => ?_) taken
  rcases load_blur loaded with ⟨_, _, _, _, absent, _⟩ | ⟨cache, message, expireAt, _, present, found, same⟩
  · contradiction
  cases present
  obtain ⟨answer, member, whole, ⟨given, heard, equal⟩, recent⟩ := sourced.memory rfl call.key (message, expireAt) found
  exact ⟨answer, member, whole, ⟨given, heard, same.trans equal⟩, sourced.order.trans recent⟩

theorem start_sourced_answers (config : ClientConfig) (persistent : Bool) : AnswerState.Sourced config persistent {} := by
  refine ⟨le_refl 0, ?_, fun _ => idle_holds (by simp), ?_, ?_, ?_⟩
  all_goals simp

variable (roundTrips : RoundTrips config)
include roundTrips

theorem load_file_sourced (sourced : state.Sourced config true) (oneClass : state.OneClass call.key)
    (taken : state.load config true goroutine call input = some result) : result.Sourced config true := by
  simp only [load, if_true] at taken
  split at taken
  · cases taken
    exact put_sourced sourced goroutine rfl
  rename_i entry present
  refine settle_sourced sourced (fun response isStale loaded => ?_) taken
  obtain ⟨_, _, _, found, given, same⟩ := load_persistent_blur loaded
  have stored := ((sourced.file rfl).pending call.key.saveKey entry present).later sourced.order
  grind [stored.remembered]

theorem view_sourced (sourced : state.Sourced config true) {viewFails : Bool} {now : Int} (oneClass : state.OneClass call.key)
    (taken : state.settle goroutine call refresher (loadPersistentResponse config
      (fun _ => if viewFails then none else state.file.loadBucket call.key.saveKey) call.key now) = some result) :
    result.Sourced config true := by
  refine settle_sourced sourced (fun response isStale loaded => ?_) taken
  obtain ⟨_, _, _, found, given, same⟩ := load_persistent_blur loaded
  rw [Option.ite_none_left_eq_some] at found
  obtain ⟨stored, present, content⟩ := Option.map_eq_some_iff.mp found.2
  cases content
  exact ((sourced.file rfl).bucket call.key.saveKey stored present).remembered roundTrips oneClass given same

theorem proceed_sourced (sourced : state.Sourced config persistent)
    (orderly : state.Orderly persistent (.proceed goroutine input))
    (taken : state.proceed config persistent goroutine input = some result) : result.Sourced config persistent := by
  rw [proceed] at taken
  cases found : state.calls goroutine with
  | none => simp [found] at taken
  | some call =>
    have condition := orderly call found
    have grounded := sourced.calls goroutine call found
    rw [AnswerCall.Grounded] at grounded
    rw [found] at taken
    cases phase : call.phase with
    | loading =>
      simp only [phase] at taken condition
      cases persistent with
      | true => grind [load_file_sourced]
      | false => exact load_memory_sourced sourced taken
    | viewing =>
      simp only [phase] at taken condition grounded
      subst grounded
      exact view_sourced roundTrips sourced condition taken
    | asking => grind [finish_sourced, hear_sourced]
    | storing => grind [store_sourced]

theorem answer_step_sourced (sourced : state.Sourced config persistent)
    {event : AnswerEvent} (orderly : state.Orderly persistent event)
    (taken : answerStep config persistent state event = some result) : result.Sourced config persistent := by
  cases event with
  | exchange => exact exchange_sourced sourced taken
  | lookup => exact lookup_sourced sourced taken
  | proceed => exact proceed_sourced roundTrips sourced orderly taken
  | leave goroutine =>
    obtain ⟨call, _, rfl⟩ := Option.map_eq_some_iff.mp taken
    exact finish_sourced sourced goroutine call
  | flush =>
    obtain ⟨file, flushed, rfl⟩ := Option.map_eq_some_iff.mp taken
    refine { sourced with file := fun mode => ?_ }
    exact holds_flush (sourced.file mode) (fun _ _ stored => stored.later sourced.order) flushed
  | flushFails =>
    obtain ⟨file, flushed, rfl⟩ := Option.map_eq_some_iff.mp taken
    exact { sourced with file := fun mode => holds_flush_fails (sourced.file mode) flushed }
  | beginClear =>
    rw [answerStep] at taken
    split at taken
    · contradiction
    cases taken
    refine { sourced with clears := fun other index running => ?_ }
    rcases put_eq_some.mp running with ⟨_, same⟩ | ⟨_, running⟩
    · cases same
    · exact sourced.clears other index running
  | purge => exact purge_sourced sourced taken
  | drop => exact drop_sourced sourced orderly taken
  | dropFails =>
    rw [answerStep] at taken
    split at taken
    · cases taken
      refine { sourced with file := fun mode => ?_, clears := fun other index running => ?_ }
      · exact ⟨(sourced.file mode).pending, (sourced.file mode).held, (sourced.file mode).bucket⟩
      · exact sourced.clears other index (erase_eq_some.mp running).2
    · contradiction
  | cleanup =>
    cases taken
    refine { sourced with file := fun mode => holds_bucket_shrink (sourced.file mode) ?_ }
    grind [Option.filter_eq_some_iff]
  | resetBucket =>
    cases taken
    refine { sourced with file := fun mode => holds_bucket_shrink (sourced.file mode) ?_ }
    simp
  | evict =>
    cases taken
    refine { sourced with memory := fun mode other entry present => ?_ }
    grind [sourced.memory]
  | restart =>
    cases taken
    refine ⟨sourced.order, ?_, fun mode => idle_holds (sourced.file mode).bucket, ?_, ?_, sourced.served⟩
    all_goals simp

end

theorem cached_answers_faithful (config : ClientConfig) (roundTrips : RoundTrips config) (persistent : Bool)
    (state : AnswerState) (run : Run (answerStep config persistent) (AnswerState.Orderly persistent) {} state) :
    ∀ served ∈ state.served, served.Faithful state.heard := by
  have sourced : state.Sourced config persistent := by
    apply run.invariant (AnswerState.Sourced config persistent) (start_sourced_answers config persistent)
    grind [answer_step_sourced]
  exact sourced.served

def packing (message : Msg) : ClientConfig where
  pack given := if given = message then some [1] else none
  unpack packed := if packed = [1] then some message else none
  dnsName domain := domain ++ "."

theorem packing_round_trips (message : Msg) : RoundTrips (packing message) := by
  intro _ _ _ pack unpack
  simp only [packing, Option.ite_none_right_eq_some, Option.some.injEq] at pack unpack
  rw [← unpack.2, pack.1]

def versionQuestion (qclass : UInt16) : Question := ⟨"version.bind.", 16, qclass⟩

def classCHAOS : UInt16 := 3

def versionAnswer : Msg :=
  ⟨0, true, rcodeSuccess, [versionQuestion classCHAOS], [⟨"version.bind.", 16, classCHAOS, 300, .other [57]⟩], [], []⟩

def askVersion (goroutine : Nat) (qclass : UInt16) : AnswerEvent :=
  .exchange goroutine ⟨{ tag := "local" }, {}, none, none⟩ ⟨1, false, rcodeSuccess, [versionQuestion qclass], [], [], []⟩

def versionStep (goroutine : Nat) : AnswerEvent := .proceed goroutine ⟨0, .response versionAnswer, false, 0, 0⟩

theorem cached_answers_faithful_same_class :
    ∃ state, Run (answerStep (packing versionAnswer) true) (AnswerState.Orderly true) {} state ∧
      state.served.map Served.key = [⟨versionQuestion classCHAOS, "local"⟩] ∧
      ∀ served ∈ state.served, served.Faithful state.heard := by
  have asked : Run (answerStep (packing versionAnswer) true) (AnswerState.Orderly true) {} _ :=
    Run.next (askVersion 0 classCHAOS) Run.refl trivial rfl
  have loaded := Run.next (versionStep 0) asked (by rintro call ⟨⟩ _ answer member; contradiction) rfl
  have viewed := Run.next (versionStep 0) loaded (by rintro call ⟨⟩ answer member; contradiction) rfl
  have heard := Run.next (versionStep 0) viewed (by rintro call ⟨⟩; trivial) rfl
  have stored := Run.next (versionStep 0) heard (by rintro call ⟨⟩; exact le_refl 0) rfl
  have again := Run.next (askVersion 1 classCHAOS) stored trivial rfl
  have served := Run.next (versionStep 1) again (by
    rintro call ⟨⟩ _ answer member _
    exact List.mem_singleton.mp member ▸ rfl) rfl
  exact ⟨_, served, rfl, cached_answers_faithful _ (packing_round_trips versionAnswer) true _ served⟩

theorem answer_of_another_class :
    ∃ config, RoundTrips config ∧ ∃ state, Run (answerStep config true) anyStep {} state ∧
      ∃ served ∈ state.served, served.key.question = versionQuestion classINET ∧ ¬ served.Faithful state.heard := by
  refine ⟨packing versionAnswer, packing_round_trips versionAnswer, ?_⟩
  obtain ⟨state, executed, keys, heard⟩ : ∃ state, execute (answerStep (packing versionAnswer) true) {}
      [askVersion 0 classCHAOS, versionStep 0, versionStep 0, versionStep 0, versionStep 0,
        askVersion 1 classINET, versionStep 1] = some state ∧
      state.served.map Served.key = [⟨versionQuestion classINET, "local"⟩] ∧
      state.heard.map Heard.key = [⟨versionQuestion classCHAOS, "local"⟩] := ⟨_, rfl, rfl, rfl⟩
  have run := run_of_execute _ _ _ (fun _ _ _ => trivial) executed
  obtain ⟨served, member, key⟩ : ∃ served ∈ state.served, served.key = ⟨versionQuestion classINET, "local"⟩ := by
    have listed : (⟨versionQuestion classINET, "local"⟩ : DNSCacheKey) ∈ state.served.map Served.key := by
      simp [keys]
    exact List.mem_map.mp listed
  refine ⟨state, run, served, member, by rw [key], ?_⟩
  rintro ⟨answer, given, same, _⟩
  have listed : answer.key ∈ state.heard.map Heard.key := List.mem_map_of_mem given
  rw [heard, same, key] at listed
  exact absurd listed (by decide)

end OtunKernel.Dns
