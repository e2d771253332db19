import OtunKernel.Ccm.Usage

namespace OtunKernel.Ccm

open Lib AggregatedUsage

def aggregate (loaded : Statistics) (recorded : List Usage) : Statistics := recorded.foldl Statistics.add loaded

def Complete (loaded : Statistics) (world : World) (snapshot : Snapshot) : Prop :=
  snapshot.statistics = aggregate loaded snapshot.recorded ∧ snapshot.recorded <+: world.recorded

def Newest (world : World) (snapshot : Snapshot) : Prop :=
  world.taken = some snapshot.recorded ∧ ∀ before, world.file = some before → before.recorded <+: snapshot.recorded

def Settled (world : World) : Prop :=
  ∀ recorded, world.taken = some recorded → ∃ snapshot, world.file = some snapshot ∧ snapshot.recorded = recorded

def SaveOk (loaded : Statistics) (world : World) : Phase → Prop
  | .idle => True
  | .writing snapshot => Complete loaded world snapshot ∧ Newest world snapshot
  | .moving => ∃ snapshot, world.tmpFile = some snapshot ∧ Complete loaded world snapshot ∧ Newest world snapshot
  | .stamping => Settled world
  | .removing => Settled world

structure WorldOk (loaded : Statistics) (world : World) : Prop where
  statistics : world.aggregated.statistics = aggregate loaded world.recorded
  file : ∀ snapshot, world.file = some snapshot → Complete loaded world snapshot

def Apart (first second : Phase) : Prop := first = .idle ∨ second = .idle

def Alone (threads : Threads Nat World Phase) : Nat × Event → Prop
  | (_, .snapshot) => ∀ other, threads.phase other = .idle
  | _ => True

structure Beside (world later : World) : Prop where
  usage : ∃ usage : List Usage, later.recorded = world.recorded ++ usage ∧
    later.aggregated.statistics = aggregate world.aggregated.statistics usage
  file : later.file = world.file
  tmpFile : later.tmpFile = world.tmpFile
  taken : later.taken = world.taken

inductive Turn (world : World) (event : Event) : Phase → World → Phase → Prop where
  | beside {later : World} (beside : Beside world later) : Turn world event .idle later .idle
  | taken (snapshot : event = .snapshot) (started : Nat) :
      Turn world event .idle { world with started := started, taken := some world.recorded } (.writing world.toSnapshot)
  | written (snapshot : Snapshot) : Turn world event (.writing snapshot) { world with tmpFile := some snapshot } .moving
  | missing (absent : world.tmpFile = none) : Turn world event .moving world .removing
  | renamed {snapshot : Snapshot} (present : world.tmpFile = some snapshot) :
      Turn world event .moving { world with file := some snapshot, tmpFile := none } .stamping
  | stamped (now : Int) :
      Turn world event .stamping { world with aggregated := { world.aggregated with lastSaveTime := some now } } .removing
  | removed : Turn world event .removing { world with tmpFile := none } .idle

section
variable {loaded : Statistics} {world later : World} {phase next : Phase} {event : Event} {snapshot : Snapshot}

theorem beside_of_same (recorded : later.recorded = world.recorded)
    (statistics : later.aggregated.statistics = world.aggregated.statistics) (file : later.file = world.file)
    (tmpFile : later.tmpFile = world.tmpFile) (taken : later.taken = world.taken) : Beside world later := by
  refine ⟨⟨[], ?_, ?_⟩, file, tmpFile, taken⟩
  · rw [recorded, List.append_nil]
  rw [statistics]
  rfl

theorem add_beside (world : World) (usage : Usage) (now : Int) : Beside world (world.add usage now) := by
  rw [World.add, addUsageWithCycleHint]
  split_ifs
  · exact beside_of_same rfl rfl rfl rfl rfl
  · exact beside_of_same rfl rfl rfl rfl rfl
  · exact ⟨⟨[observed usage now], rfl, rfl⟩, rfl, rfl, rfl⟩

theorem schedule_beside (world : World) (now : Int) : Beside world (world.schedule now) := by
  have same : (world.aggregated.scheduleSave now).1.statistics = world.aggregated.statistics := by
    rw [scheduleSave]
    split_ifs <;> rfl
  exact beside_of_same rfl same rfl rfl rfl

theorem turn_of_advance {thread : Nat} (taken : advance thread world phase event = some (later, next)) :
    Turn world event phase later next := by
  revert taken
  fun_cases advance thread world phase event <;> rintro ⟨⟩
  all_goals try exact .beside (beside_of_same rfl rfl rfl rfl rfl)
  · exact .beside (add_beside ..)
  · exact .beside (schedule_beside ..)
  · exact .taken rfl _
  · exact .written _
  · rename_i absent
    exact .missing absent
  · rename_i present
    exact .renamed present
  · exact .stamped _
  · exact .removed

theorem Complete.beside (complete : Complete loaded world snapshot) (beside : Beside world later) :
    Complete loaded later snapshot := by
  obtain ⟨_, recorded, _⟩ := beside.usage
  refine ⟨complete.1, ?_⟩
  rw [recorded]
  exact complete.2.trans (List.prefix_append ..)

theorem Newest.beside (newest : Newest world snapshot) (beside : Beside world later) : Newest later snapshot := by
  rw [Newest, beside.taken, beside.file]
  exact newest

theorem Settled.beside (settled : Settled world) (beside : Beside world later) : Settled later := by
  rw [Settled, beside.taken, beside.file]
  exact settled

theorem SaveOk.beside (ok : SaveOk loaded world phase) (beside : Beside world later) : SaveOk loaded later phase := by
  cases phase with
  | idle => trivial
  | writing => exact ⟨ok.1.beside beside, ok.2.beside beside⟩
  | moving =>
    obtain ⟨snapshot, present, complete, newest⟩ := ok
    exact ⟨snapshot, beside.tmpFile.trans present, complete.beside beside, newest.beside beside⟩
  | stamping | removing => exact Settled.beside ok beside

theorem WorldOk.beside (ok : WorldOk loaded world) (beside : Beside world later) : WorldOk loaded later := by
  constructor
  · grind [beside.usage, ok.statistics, aggregate]
  intro snapshot held
  rw [beside.file] at held
  exact (ok.file snapshot held).beside beside

theorem WorldOk.complete (ok : WorldOk loaded world) : Complete loaded world world.toSnapshot :=
  ⟨ok.statistics, List.prefix_refl _⟩

theorem Turn.own (turn : Turn world event phase later next) (ok : WorldOk loaded world) (save : SaveOk loaded world phase) :
    WorldOk loaded later ∧ SaveOk loaded later next := by
  cases turn with
  | beside beside => exact ⟨ok.beside beside, trivial⟩
  | taken => exact ⟨⟨ok.statistics, ok.file⟩, ok.complete, rfl, fun before held => (ok.file before held).2⟩
  | written snapshot => exact ⟨⟨ok.statistics, ok.file⟩, snapshot, rfl, save⟩
  | missing absent =>
    obtain ⟨snapshot, present, _⟩ := save
    simp [absent] at present
  | renamed present =>
    obtain ⟨_, same, complete, newest⟩ := save
    rw [present] at same
    cases same
    refine ⟨⟨ok.statistics, ?_⟩, ?_⟩
    · intro held found
      cases found
      exact complete
    intro _ taken
    rw [newest.1] at taken
    cases taken
    exact ⟨_, rfl, rfl⟩
  | stamped => exact ⟨⟨ok.statistics, ok.file⟩, save⟩
  | removed => exact ⟨⟨ok.statistics, ok.file⟩, trivial⟩

theorem Turn.grows (turn : Turn world event phase later next) (save : SaveOk loaded world phase) {before : Snapshot}
    (held : world.file = some before) : ∃ after, later.file = some after ∧ before.recorded <+: after.recorded := by
  cases turn with
  | beside beside => exact ⟨before, beside.file.trans held, List.prefix_refl _⟩
  | renamed present =>
    obtain ⟨_, same, _, newest⟩ := save
    rw [present] at same
    cases same
    exact ⟨_, rfl, newest.2 before held⟩
  | _ => grind

theorem Turn.settled (turn : Turn world event phase later .idle) (save : SaveOk loaded world phase)
    (idle : phase = .idle → Settled world) : Settled later := by
  cases turn with
  | beside beside => exact (idle rfl).beside beside
  | removed => exact save

end

structure Saved (loaded : Statistics) (threads : Threads Nat World Phase) : Prop
    extends Coherent (WorldOk loaded) (fun _ => SaveOk loaded) Apart threads where
  idle : (∀ thread, threads.phase thread = .idle) → Settled threads.shared

section
variable {loaded : Statistics} {threads result : Threads Nat World Phase} {label : Nat × Event}

theorem start_saved (file : Option Statistics) (tmpFile : Option Snapshot) :
    Saved (load file).statistics (start file tmpFile) := by
  refine ⟨⟨⟨rfl, ?_⟩, fun _ => trivial, fun _ _ _ => .inl rfl⟩, ?_⟩
  · intro snapshot held
    rw [start, Option.map_eq_some_iff] at held
    obtain ⟨_, rfl, rfl⟩ := held
    exact ⟨rfl, List.prefix_refl _⟩
  intro _ recorded taken
  contradiction

theorem Turn.others {world later : World} {phase next other : Phase} {event : Event} (turn : Turn world event phase later next)
    (alone : event = .snapshot → other = .idle) (apart : Apart phase other) (save : SaveOk loaded world other) :
    SaveOk loaded later other ∧ Apart next other := by
  cases turn with
  | beside beside => exact ⟨save.beside beside, .inl rfl⟩
  | taken snapshot =>
    rw [alone snapshot]
    exact ⟨trivial, .inr rfl⟩
  | _ =>
    rcases apart with busy | idle
    · contradiction
    rw [idle]
    exact ⟨trivial, .inr rfl⟩

theorem Saved.step (saved : Saved loaded threads) (alone : Alone threads label)
    (taken : interleave advance threads label = some result) : Saved loaded result := by
  obtain ⟨thread, _⟩ := label
  refine ⟨coherent_step (fun _ _ apart => apart.symm) saved.toCoherent taken ?_ ?_, ?_⟩
  · intro shared phase moved
    exact (turn_of_advance moved).own saved.whole (saved.each thread)
  · intro shared phase moved other _ apart
    refine (turn_of_advance moved).others ?_ apart (saved.each other)
    rintro rfl
    exact alone other
  obtain ⟨_, phase, moved, rfl⟩ := interleave_eq_some.mp taken
  intro idle
  have own : phase = .idle := by simpa using idle thread
  subst own
  refine (turn_of_advance moved).settled (saved.each thread) (fun before => saved.idle (fun other => ?_))
  by_cases same : other = thread
  · simp [same, before]
  · simpa [same] using idle other

theorem saved_of_run {file : Option Statistics} {tmpFile : Option Snapshot}
    (run : Run (interleave advance) Alone (start file tmpFile) threads) : Saved (load file).statistics threads :=
  run.invariant (Saved (load file).statistics) (start_saved file tmpFile)
    (fun _ _ _ saved alone taken => saved.step alone taken)

end

theorem saved_usage_grows {file : Option Statistics} {tmpFile : Option Snapshot} {threads : Threads Nat World Phase}
    (run : Run (interleave advance) Alone (start file tmpFile) threads) :
    (∀ label later, interleave advance threads label = some later →
      (∀ after, later.shared.file = some after → Complete (load file).statistics later.shared after) ∧
        ∀ before, threads.shared.file = some before →
          ∃ after, later.shared.file = some after ∧ before.recorded <+: after.recorded) ∧
      ((∀ thread, threads.phase thread = .idle) → ∀ recorded, threads.shared.taken = some recorded →
        ∃ snapshot, threads.shared.file = some snapshot ∧ snapshot.recorded = recorded) := by
  have saved := saved_of_run run
  refine ⟨?_, saved.idle⟩
  rintro ⟨thread, _⟩ _ taken
  obtain ⟨_, _, moved, rfl⟩ := interleave_eq_some.mp taken
  have turn := turn_of_advance moved
  have own := turn.own saved.whole (saved.each thread)
  exact ⟨own.1.file, fun before held => turn.grows (saved.each thread) held⟩

def request (inputTokens : Int64) : Usage where
  model := "claude"
  contextWindow := 200000
  messagesCount := 1
  inputTokens := inputTokens
  outputTokens := 0
  cacheReadTokens := 0
  cacheCreationTokens := 0
  cacheCreation5MinuteTokens := 0
  cacheCreation1HourTokens := 0
  user := ""
  observedAt := some 0
  cycleHint := none

theorem saved_usage_grows_example :
    ∃ threads, Run (interleave advance) Alone (start none none) threads ∧
      ∃ snapshot, threads.shared.file = some snapshot ∧ snapshot.recorded = [request 1] := by
  have scheduled : Run (interleave advance) Alone (start none none) _ :=
    run_of_execute [(0, .addUsageWithCycleHint (request 1) 0), (0, .scheduleSave 0)] _ _ (by simp [Alone]) rfl
  have idle : ∀ thread, Function.update (Function.update (fun _ => Phase.idle) 0 .idle) 0 .idle thread = .idle := by
    simp
  have taken := Run.next (0, Event.snapshot) scheduled idle rfl
  have saved := taken.trans
    (run_of_execute [(0, .write), (0, .rename), (0, .stamp 0), (0, .remove)] _ _ (by simp [Alone]) rfl)
  refine ⟨_, saved, (saved_usage_grows saved).2 ?_ _ rfl⟩
  grind [start]

def overtaken : List (Nat × Event) :=
  [(0, .addUsageWithCycleHint (request 1) 0), (0, .scheduleSave 0), (0, .snapshot),
    (1, .addUsageWithCycleHint (request 2) 0), (1, .scheduleSave 0), (1, .snapshot), (1, .write), (1, .rename),
    (0, .write)]

theorem older_snapshot_counterexample :
    ∃ before after later, execute (interleave advance) (start none none) overtaken = some before ∧
      interleave advance before (0, .rename) = some after ∧
      before.shared.file.map Snapshot.recorded = some [request 1, request 2] ∧
      after.shared.file.map Snapshot.recorded = some [request 1] ∧
      execute (interleave advance) after [(0, .stamp 0), (0, .remove), (1, .stamp 0), (1, .remove)] = some later ∧
      (∀ thread, later.phase thread = .idle) ∧ later.shared.started = 0 ∧
      later.shared.taken = some [request 1, request 2] ∧
      later.shared.file.map Snapshot.recorded = some [request 1] := by
  refine ⟨_, _, _, rfl, rfl, rfl, rfl, rfl, ?_, rfl, rfl, rfl⟩
  intro thread
  by_cases first : thread = 0
  · simp [first]
  by_cases second : thread = 1
  · simp [second]
  · simp [first, second, start]

end OtunKernel.Ccm
