import OtunKernel.Lib.Runs
import OtunKernel.Rule.Strip

namespace OtunKernel.Rule

open Lib

inductive RuleSetFormat where
  | source
  | binary
  | unknown (name : String)

structure PlainRuleSetCompat where
  version : UInt8
  rules : List HeadlessOptions

def PlainRuleSetCompat.upgrade (ruleSet : PlainRuleSetCompat) : Except String (List HeadlessOptions) :=
  if 1 ≤ ruleSet.version ∧ ruleSet.version ≤ 5 then .ok ruleSet.rules
  else .error ("unknown rule-set version: " ++ toString ruleSet.version)

structure RuleSetLoader where
  format : RuleSetFormat
  unmarshalSource : List UInt8 → Except String PlainRuleSetCompat
  readBinary : List UInt8 → Except String PlainRuleSetCompat
  compilers : ItemCompilers

def RuleSetLoader.read (loader : RuleSetLoader) (content : List UInt8) : Except String RuleSet := do
  let ruleSet ← match loader.format with
    | .source => loader.unmarshalSource content
    | .binary => loader.readBinary content
    | .unknown name => .error ("unknown rule-set format: " ++ name)
  let plainRules ← ruleSet.upgrade
  newRuleSet loader.compilers plainRules

def zeroTime : Int := -62135596800

structure RemoteRuleSet where
  rules : List HeadlessRule := []
  metadata : RuleSetMetadata := {}
  lastUpdated : Int := zeroTime
  lastEtag : String := ""
  content : Option (List UInt8) := none

structure SavedBinary where
  content : List UInt8
  lastUpdated : Int
  lastEtag : String

-- A rule-set with its entry in the cache file: none without a cache file,
-- some none while nothing is saved.
structure RuleSetState where
  ruleSet : RemoteRuleSet
  cacheFile : Option (Option SavedBinary)

inductive Reply where
  | failed (err : String)
  | ok (etag : String) (body : Except String (List UInt8))
  | notModified
  | unexpected (status : String)

-- validate is the DNS router's verdict on new metadata, saveError what the
-- cache file returns.
structure FetchInput where
  reply : Reply
  now : Int
  validate : RuleSetMetadata → Except String Unit
  saveError : Option String := none

def RemoteRuleSet.ifNoneMatch (ruleSet : RemoteRuleSet) : Option String :=
  if ruleSet.lastEtag ≠ "" then some ruleSet.lastEtag else none

def RemoteRuleSet.loadBytes (ruleSet : RemoteRuleSet) (loader : RuleSetLoader)
    (validate : RuleSetMetadata → Except String Unit) (content : List UInt8) : Except String Unit × RemoteRuleSet :=
  match loader.read content with
  | .error err => (.error err, ruleSet)
  | .ok loaded =>
    match validate loaded.metadata with
    | .error err => (.error err, ruleSet)
    | .ok () =>
      (.ok (), { ruleSet with metadata := loaded.metadata, rules := loaded.rules, content := some content })

def saveRuleSet (cacheFile : Option (Option SavedBinary)) (saveError : Option String) (saved : SavedBinary) :
    Option (Option SavedBinary) :=
  match cacheFile, saveError with
  | some _, none => some (some saved)
  | _, _ => cacheFile

def RuleSetState.fetch (state : RuleSetState) (loader : RuleSetLoader) (input : FetchInput) :
    Except String Unit × RuleSetState :=
  match input.reply with
  | .failed err => (.error err, state)
  | .notModified =>
    let updated := { state.ruleSet with lastUpdated := input.now }
    match state.cacheFile with
    | some (some savedRuleSet) =>
      let saved := { savedRuleSet with lastUpdated := input.now }
      (.ok (), ⟨updated, saveRuleSet state.cacheFile input.saveError saved⟩)
    | _ => (.ok (), { state with ruleSet := updated })
  | .unexpected status => (.error ("unexpected status: " ++ status), state)
  | .ok _ (.error err) => (.error err, state)
  | .ok etag (.ok content) =>
    match state.ruleSet.loadBytes loader input.validate content with
    | (.error err, ruleSet) => (.error err, { state with ruleSet := ruleSet })
    | (.ok (), ruleSet) =>
      let tagged := if etag ≠ "" then { ruleSet with lastEtag := etag } else ruleSet
      let updated := { tagged with lastUpdated := input.now }
      (.ok (), ⟨updated, saveRuleSet state.cacheFile input.saveError ⟨content, input.now, updated.lastEtag⟩⟩)

def RemoteRuleSet.cleanup (ruleSet : RemoteRuleSet) (refs : Nat) : RemoteRuleSet :=
  if refs = 0 then { ruleSet with rules := [] } else ruleSet

def RuleSetState.updateOnce (state : RuleSetState) (loader : RuleSetLoader) (input : FetchInput) (refs : Nat) :
    RuleSetState :=
  match state.fetch loader input with
  | (.error _, fetched) => fetched
  | (.ok (), fetched) => { fetched with ruleSet := fetched.ruleSet.cleanup refs }

def restore (loader : RuleSetLoader) (validate : RuleSetMetadata → Except String Unit)
    (cacheFile : Option (Option SavedBinary)) : RuleSetState :=
  match cacheFile with
  | some (some savedSet) =>
    match ({} : RemoteRuleSet).loadBytes loader validate savedSet.content with
    | (.error _, ruleSet) => ⟨ruleSet, cacheFile⟩
    | (.ok (), ruleSet) =>
      ⟨{ ruleSet with lastUpdated := savedSet.lastUpdated, lastEtag := savedSet.lastEtag }, cacheFile⟩
  | _ => ⟨{}, cacheFile⟩

def Reply.sent : Reply → List (List UInt8 × String)
  | .ok etag (.ok content) => [(content, etag)]
  | _ => []

-- The rule-set through any number of processes, with every content the server
-- ever sent and the Etag that came with it.
structure RuleSetMachine where
  state : RuleSetState
  sent : List (List UInt8 × String)

def newRuleSetMachine (cacheFile : Bool) : RuleSetMachine := ⟨⟨{}, if cacheFile then some none else none⟩, []⟩

inductive RuleSetEvent where
  | restart (validate : RuleSetMetadata → Except String Unit) (input : FetchInput)
  | update (input : FetchInput) (refs : Nat)
  | cleanup (refs : Nat)

def ruleSetStep (loader : RuleSetLoader) : System RuleSetMachine RuleSetEvent
  | machine, .restart validate input =>
    let restored := restore loader validate machine.state.cacheFile
    if restored.ruleSet.lastUpdated = zeroTime then
      some ⟨(restored.fetch loader input).2, input.reply.sent ++ machine.sent⟩
    else some ⟨restored, machine.sent⟩
  | machine, .update input refs =>
    some ⟨machine.state.updateOnce loader input refs, input.reply.sent ++ machine.sent⟩
  | machine, .cleanup refs =>
    some { machine with state := { machine.state with ruleSet := machine.state.ruleSet.cleanup refs } }

structure RuleSetState.Paired (state : RuleSetState) (sent : List (List UInt8 × String)) : Prop where
  held : state.ruleSet.lastEtag = "" ∨
    ∃ content, state.ruleSet.content = some content ∧ (content, state.ruleSet.lastEtag) ∈ sent
  saved : ∀ saved, state.cacheFile = some (some saved) →
    saved.lastEtag = "" ∨ (saved.content, saved.lastEtag) ∈ sent

-- The rules and the metadata are those of the content, unless the rules were
-- dropped because nothing refers to them.
def RemoteRuleSet.LoadedFrom (ruleSet : RemoteRuleSet) (loader : RuleSetLoader) : Prop :=
  match ruleSet.content with
  | none => ruleSet.rules = [] ∧ ruleSet.metadata = {}
  | some content => ∃ loaded, loader.read content = .ok loaded ∧ ruleSet.metadata = loaded.metadata ∧
      (ruleSet.rules = loaded.rules ∨ ruleSet.rules = [])

-- A content that comes without an Etag header and is loaded finds no etag, or
-- one that the server sent with this very content.
def RuleSetState.KeepsPair (state : RuleSetState) (loader : RuleSetLoader) (sent : List (List UInt8 × String))
    (input : FetchInput) : Prop :=
  ∀ content loaded, input.reply = .ok "" (.ok content) → loader.read content = .ok loaded →
    input.validate loaded.metadata = .ok () →
    state.ruleSet.lastEtag = "" ∨ (content, state.ruleSet.lastEtag) ∈ sent

def Tagged (loader : RuleSetLoader) (machine : RuleSetMachine) : RuleSetEvent → Prop
  | .restart validate input => (restore loader validate machine.state.cacheFile).KeepsPair loader machine.sent input
  | .update input _ => machine.state.KeepsPair loader machine.sent input
  | .cleanup _ => True

section
variable (loader : RuleSetLoader)

theorem load_cases (ruleSet : RemoteRuleSet) (validate : RuleSetMetadata → Except String Unit) (content : List UInt8) :
    (∃ err, ruleSet.loadBytes loader validate content = (.error err, ruleSet)) ∨
      ∃ loaded, loader.read content = .ok loaded ∧ validate loaded.metadata = .ok () ∧
        ruleSet.loadBytes loader validate content =
          (.ok (), { ruleSet with metadata := loaded.metadata, rules := loaded.rules, content := some content }) := by
  cases read : loader.read content with
  | error err => exact .inl ⟨err, by simp only [RemoteRuleSet.loadBytes, read]⟩
  | ok loaded => grind [RemoteRuleSet.loadBytes, read]

theorem save_rule_set_cases (cacheFile : Option (Option SavedBinary)) (saveError : Option String) (saved : SavedBinary) :
    saveRuleSet cacheFile saveError saved = cacheFile ∨ saveRuleSet cacheFile saveError saved = some (some saved) := by
  cases cacheFile with
  | none => exact .inl rfl
  | some =>
    cases saveError with
    | none => exact .inr rfl
    | some => exact .inl rfl

theorem fetch_cases (state : RuleSetState) (input : FetchInput) :
    (∃ err, state.fetch loader input = (.error err, state)) ∨
      (∃ cacheFile, state.fetch loader input =
          (.ok (), ⟨{ state.ruleSet with lastUpdated := input.now }, cacheFile⟩) ∧
        ∀ saved, cacheFile = some (some saved) → ∃ old, state.cacheFile = some (some old) ∧
          saved.content = old.content ∧ saved.lastEtag = old.lastEtag) ∨
      ∃ etag content loaded, input.reply = .ok etag (.ok content) ∧ loader.read content = .ok loaded ∧
        input.validate loaded.metadata = .ok () ∧
        ∃ lastEtag cacheFile, lastEtag = (if etag ≠ "" then etag else state.ruleSet.lastEtag) ∧
          state.fetch loader input =
            (.ok (), ⟨⟨loaded.rules, loaded.metadata, input.now, lastEtag, some content⟩, cacheFile⟩) ∧
          (cacheFile = state.cacheFile ∨ cacheFile = some (some ⟨content, input.now, lastEtag⟩)) := by
  cases reply : input.reply with
  | failed err => exact .inl ⟨err, by simp only [RuleSetState.fetch, reply]⟩
  | unexpected => exact .inl ⟨_, by simp only [RuleSetState.fetch, reply]; rfl⟩
  | notModified =>
    refine .inr (.inl ?_)
    cases file : state.cacheFile with
    | none => exact ⟨none, by simp only [RuleSetState.fetch, reply, file], fun _ => nofun⟩
    | some entry =>
      cases entry with
      | none => exact ⟨some none, by simp only [RuleSetState.fetch, reply, file], fun _ => nofun⟩
      | some old =>
        refine ⟨_, by simp only [RuleSetState.fetch, reply, file]; rfl, ?_⟩
        intro saved present
        rcases save_rule_set_cases (some (some old)) input.saveError
          { old with lastUpdated := input.now } with kept | written
        · simp_all
        · grind
  | ok etag body =>
    cases body with
    | error err => exact .inl ⟨err, by simp only [RuleSetState.fetch, reply]⟩
    | ok content =>
      rcases load_cases loader state.ruleSet input.validate content with ⟨err, same⟩ | ⟨loaded, read, valid, same⟩
      · exact .inl ⟨err, by simp only [RuleSetState.fetch, reply, same]⟩
      refine .inr (.inr ⟨etag, content, loaded, rfl, read, valid, _, _, rfl, ?_,
        save_rule_set_cases state.cacheFile input.saveError _⟩)
      by_cases absent : etag = ""
      · simp [RuleSetState.fetch, reply, same, absent]
      · simp [RuleSetState.fetch, reply, same, absent]

variable {state : RuleSetState} {sent : List (List UInt8 × String)} {input : FetchInput}

theorem paired_mono {more : List (List UInt8 × String)} (paired : state.Paired sent)
    (wider : ∀ pair ∈ sent, pair ∈ more) : state.Paired more := by
  constructor
  · grind [paired.held]
  · grind [paired.saved]

theorem fetch_paired (paired : state.Paired sent) (keeps : state.KeepsPair loader sent input) :
    (state.fetch loader input).2.Paired (input.reply.sent ++ sent) := by
  have older := paired_mono paired (fun pair member => List.mem_append_right input.reply.sent member)
  rcases fetch_cases loader state input with ⟨err, same⟩ | ⟨cacheFile, same, pairs⟩ |
    ⟨etag, content, loaded, reply, read, valid, lastEtag, cacheFile, tag, same, file⟩
  · simp [same, older]
  · rw [same]
    refine ⟨older.held, fun saved present => ?_⟩
    obtain ⟨old, stored, sameContent, sameEtag⟩ := pairs saved present
    simpa [sameContent, sameEtag] using older.saved old stored
  have owned : lastEtag = "" ∨ (content, lastEtag) ∈ input.reply.sent ++ sent := by
    by_cases absent : etag = ""
    · subst absent
      simpa [tag] using (keeps content loaded reply read valid).imp_right (List.mem_append_right input.reply.sent)
    rw [if_pos absent] at tag
    rw [tag, reply]
    exact .inr (List.mem_append_left sent List.mem_cons_self)
  rw [same]
  refine ⟨owned.imp_right (fun member => ⟨content, rfl, member⟩), fun saved present => ?_⟩
  rcases file with kept | written
  · exact older.saved saved (kept.symm.trans present)
  · grind

theorem fetch_loaded_from (loaded : state.ruleSet.LoadedFrom loader) (input : FetchInput) :
    (state.fetch loader input).2.ruleSet.LoadedFrom loader := by
  rcases fetch_cases loader state input with ⟨err, same⟩ | ⟨cacheFile, same, _⟩ |
    ⟨etag, content, fresh, _, read, _, lastEtag, cacheFile, _, same, _⟩
  · simp [same, loaded]
  · rw [same]
    exact loaded
  rw [same]
  exact ⟨fresh, read, rfl, .inl rfl⟩

theorem failed_fetch_unchanged {err : String} (failed : (state.fetch loader input).1 = .error err) :
    (state.fetch loader input).2 = state := by
  rcases fetch_cases loader state input with ⟨_, same⟩ | ⟨_, same, _⟩ | ⟨_, _, _, _, _, _, _, _, _, same, _⟩
  · rw [same]
  · simp [same] at failed
  · simp [same] at failed

theorem cleanup_paired (paired : state.Paired sent) (refs : Nat) :
    RuleSetState.Paired { state with ruleSet := state.ruleSet.cleanup refs } sent := by
  unfold RemoteRuleSet.cleanup
  split
  · exact ⟨paired.held, paired.saved⟩
  · exact paired

theorem cleanup_loaded_from {ruleSet : RemoteRuleSet} (loaded : ruleSet.LoadedFrom loader) (refs : Nat) :
    (ruleSet.cleanup refs).LoadedFrom loader := by
  unfold RemoteRuleSet.cleanup
  split
  · grind [RemoteRuleSet.LoadedFrom]
  · exact loaded

theorem update_paired (paired : (state.fetch loader input).2.Paired sent) (refs : Nat) :
    (state.updateOnce loader input refs).Paired sent := by
  unfold RuleSetState.updateOnce
  split
  · simp_all
  · grind [cleanup_paired]

theorem update_loaded_from (loaded : (state.fetch loader input).2.ruleSet.LoadedFrom loader) (refs : Nat) :
    (state.updateOnce loader input refs).ruleSet.LoadedFrom loader := by
  unfold RuleSetState.updateOnce
  split
  · simp_all
  · grind [cleanup_loaded_from]

theorem restore_paired {cacheFile : Option (Option SavedBinary)} (validate : RuleSetMetadata → Except String Unit)
    (pairs : ∀ saved, cacheFile = some (some saved) → saved.lastEtag = "" ∨ (saved.content, saved.lastEtag) ∈ sent) :
    (restore loader validate cacheFile).Paired sent := by
  unfold restore
  split
  · rename_i saved
    rcases load_cases loader {} validate saved.content with ⟨err, same⟩ | ⟨loaded, _, _, same⟩
    · rw [same]
      exact ⟨.inl rfl, pairs⟩
    rw [same]
    exact ⟨(pairs saved rfl).imp_right (fun member => ⟨saved.content, rfl, member⟩), pairs⟩
  · exact ⟨.inl rfl, pairs⟩

theorem restore_loaded_from (validate : RuleSetMetadata → Except String Unit)
    (cacheFile : Option (Option SavedBinary)) : (restore loader validate cacheFile).ruleSet.LoadedFrom loader := by
  unfold restore
  split
  · rename_i saved
    rcases load_cases loader {} validate saved.content with ⟨err, same⟩ | ⟨loaded, read, _, same⟩
    · rw [same]
      exact ⟨rfl, rfl⟩
    rw [same]
    exact ⟨loaded, read, rfl, .inl rfl⟩
  · exact ⟨rfl, rfl⟩

theorem step_paired {machine result : RuleSetMachine} {event : RuleSetEvent}
    (paired : machine.state.Paired machine.sent) (loaded : machine.state.ruleSet.LoadedFrom loader)
    (tagged : Tagged loader machine event) (taken : ruleSetStep loader machine event = some result) :
    result.state.Paired result.sent ∧ result.state.ruleSet.LoadedFrom loader := by
  cases event with
  | restart validate input =>
    have restored := restore_paired loader validate paired.saved
    have fresh := restore_loaded_from loader validate machine.state.cacheFile
    simp only [ruleSetStep] at taken
    split at taken
    · cases taken
      exact ⟨fetch_paired loader restored tagged, fetch_loaded_from loader fresh input⟩
    · grind
  | update input refs =>
    cases taken
    exact ⟨update_paired loader (fetch_paired loader paired tagged) refs,
      update_loaded_from loader (fetch_loaded_from loader loaded input) refs⟩
  | cleanup refs =>
    cases taken
    exact ⟨cleanup_paired paired refs, cleanup_loaded_from loader loaded refs⟩

end

theorem etag_belongs_to_content (loader : RuleSetLoader) (cacheFile : Bool) (machine : RuleSetMachine)
    (run : Run (ruleSetStep loader) (Tagged loader) (newRuleSetMachine cacheFile) machine) :
    machine.state.Paired machine.sent ∧ machine.state.ruleSet.LoadedFrom loader ∧
      (∀ etag, machine.state.ruleSet.ifNoneMatch = some etag →
        ∃ content, machine.state.ruleSet.content = some content ∧ (content, etag) ∈ machine.sent) ∧
      (∀ input err, (machine.state.fetch loader input).1 = .error err →
        (machine.state.fetch loader input).2 = machine.state) := by
  obtain ⟨paired, loaded⟩ := run.invariant
    (fun machine => machine.state.Paired machine.sent ∧ machine.state.ruleSet.LoadedFrom loader)
    ⟨⟨.inl rfl, by cases cacheFile <;> exact fun _ => nofun⟩, rfl, rfl⟩
    (fun _ _ _ both tagged taken => step_paired loader both.1 both.2 tagged taken)
  refine ⟨paired, loaded, ?_, fun _ _ => failed_fetch_unchanged loader⟩
  intro _ asked
  simp only [RemoteRuleSet.ifNoneMatch, Option.ite_none_right_eq_some, Option.some.injEq] at asked
  obtain ⟨present, rfl⟩ := asked
  exact paired.held.resolve_left present

def emptySetLoader : RuleSetLoader where
  format := .binary
  unmarshalSource := fun _ => .error "not a source file"
  readBinary := fun _ => .ok ⟨1, []⟩
  compilers := binaryCompilers

def served (etag : String) (content : List UInt8) : FetchInput where
  reply := .ok etag (.ok content)
  now := 0
  validate := fun _ => .ok ()

theorem missing_header_keeps_old_etag :
    ¬ ∀ (loader : RuleSetLoader) (cacheFile : Bool) (machine : RuleSetMachine),
      Run (ruleSetStep loader) anyStep (newRuleSetMachine cacheFile) machine → machine.state.Paired machine.sent := by
  intro paired
  have run : Run (ruleSetStep emptySetLoader) anyStep (newRuleSetMachine true) _ :=
    run_of_execute [.update (served "v1" [1]) 1, .update (served "" [2]) 1] _ _ (fun _ _ _ => trivial) rfl
  rcases (paired emptySetLoader true _ run).held with none | ⟨content, loaded, member⟩
  · exact absurd none (by decide)
  cases loaded
  exact absurd member (by decide)

theorem tagged_content_restored :
    ∃ machine, Run (ruleSetStep emptySetLoader) (Tagged emptySetLoader) (newRuleSetMachine true) machine ∧
      machine.state.ruleSet.lastEtag = "v2" ∧ machine.state.Paired machine.sent := by
  have run : Run (ruleSetStep emptySetLoader) (Tagged emptySetLoader) (newRuleSetMachine true) _ :=
    run_of_execute [.update (served "v1" [1]) 1, .update (served "v2" [2]) 1, .restart (fun _ => .ok ()) (served "v3" [3])]
      _ _ (by simp [Tagged, RuleSetState.KeepsPair, served]) rfl
  exact ⟨_, run, rfl, (etag_belongs_to_content emptySetLoader true _ run).1⟩

end OtunKernel.Rule
