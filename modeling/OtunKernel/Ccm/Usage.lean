import OtunKernel.Lib.PartialMap
import OtunKernel.Lib.Threads

namespace OtunKernel.Ccm

open Lib

structure UsageStats where
  requestCount : Int64 := 0
  messagesCount : Int64 := 0
  inputTokens : Int64 := 0
  outputTokens : Int64 := 0
  cacheReadInputTokens : Int64 := 0
  cacheCreationInputTokens : Int64 := 0
  cacheCreation5MinuteInputTokens : Int64 := 0
  cacheCreation1HourInputTokens : Int64 := 0
deriving DecidableEq

structure CostCombination where
  model : String
  contextWindow : Int64
  weekStartUnix : Int
  total : UsageStats := {}
  byUser : String → Option UsageStats := fun _ => none

-- Times are nanoseconds; none is the zero time.
structure WeeklyCycleHint where
  windowMinutes : Int64
  resetAt : Option Int
deriving DecidableEq

structure Usage where
  model : String
  contextWindow : Int64
  messagesCount : Int64
  inputTokens : Int64
  outputTokens : Int64
  cacheReadTokens : Int64
  cacheCreationTokens : Int64
  cacheCreation5MinuteTokens : Int64
  cacheCreation1HourTokens : Int64
  user : String
  observedAt : Option Int
  cycleHint : Option WeeklyCycleHint
deriving DecidableEq

def deriveWeekStartUnix : Option WeeklyCycleHint → Int
  | none => 0
  | some cycleHint =>
    match cycleHint.resetAt with
    | none => 0
    | some resetAt =>
      if cycleHint.windowMinutes ≤ 0 then 0
      else
        let windowDuration := cycleHint.windowMinutes * 60000000000
        (resetAt + (-windowDuration).toInt) / 1000000000

def UsageStats.add (stats : UsageStats) (usage : Usage) : UsageStats :=
  let cacheCreationTokens :=
    if usage.cacheCreationTokens = 0 then usage.cacheCreation5MinuteTokens + usage.cacheCreation1HourTokens
    else usage.cacheCreationTokens
  { requestCount := stats.requestCount + 1
    messagesCount := stats.messagesCount + usage.messagesCount
    inputTokens := stats.inputTokens + usage.inputTokens
    outputTokens := stats.outputTokens + usage.outputTokens
    cacheReadInputTokens := stats.cacheReadInputTokens + usage.cacheReadTokens
    cacheCreationInputTokens := stats.cacheCreationInputTokens + cacheCreationTokens
    cacheCreation5MinuteInputTokens := stats.cacheCreation5MinuteInputTokens + usage.cacheCreation5MinuteTokens
    cacheCreation1HourInputTokens := stats.cacheCreation1HourInputTokens + usage.cacheCreation1HourTokens }

def CostCombination.add (combination : CostCombination) (usage : Usage) : CostCombination :=
  { combination with
    total := combination.total.add usage
    byUser :=
      if usage.user = "" then combination.byUser
      else put combination.byUser usage.user (((combination.byUser usage.user).getD {}).add usage) }

def addUsageToCombinations (weekStartUnix : Int) (usage : Usage) : List CostCombination → List CostCombination
  | [] => [CostCombination.add { model := usage.model, contextWindow := usage.contextWindow, weekStartUnix := weekStartUnix } usage]
  | combination :: rest =>
    if combination.model = usage.model ∧ combination.contextWindow = usage.contextWindow ∧
        combination.weekStartUnix = weekStartUnix then
      combination.add usage :: rest
    else combination :: addUsageToCombinations weekStartUnix usage rest

-- What Load reads back of the usage file. ToJSON derives the costs in it from the combinations.
structure Statistics where
  lastUpdated : Option Int := none
  combinations : List CostCombination := []

def Statistics.add (statistics : Statistics) (usage : Usage) : Statistics where
  lastUpdated := usage.observedAt
  combinations := addUsageToCombinations (deriveWeekStartUnix usage.cycleHint) usage statistics.combinations

structure AggregatedUsage where
  statistics : Statistics
  lastSaveTime : Option Int := none
  pendingSave : Bool := false
  -- The timer of the last AfterFunc has neither fired nor been stopped.
  saveTimer : Bool := false

def load (file : Option Statistics) : AggregatedUsage := { statistics := file.getD {} }

def observed (usage : Usage) (now : Int) : Usage := { usage with observedAt := some (usage.observedAt.getD now) }

def AggregatedUsage.addUsageWithCycleHint (aggregated : AggregatedUsage) (usage : Usage) (now : Int) :
    Except String AggregatedUsage :=
  if usage.model = "" then .error "model cannot be empty"
  else if usage.contextWindow ≤ 0 then .error "contextWindow must be positive"
  else .ok { aggregated with statistics := aggregated.statistics.add (observed usage now) }

def saveInterval : Int := 60000000000

def AggregatedUsage.scheduleSave (aggregated : AggregatedUsage) (now : Int) : AggregatedUsage × Bool :=
  let due := aggregated.lastSaveTime.all (fun lastSaveTime => saveInterval ≤ now - lastSaveTime)
  if due then (aggregated, true)
  else if aggregated.pendingSave then (aggregated, false)
  else ({ aggregated with pendingSave := true, saveTimer := true }, false)

def AggregatedUsage.cancelPendingSave (aggregated : AggregatedUsage) : AggregatedUsage :=
  { aggregated with saveTimer := false, pendingSave := false }

-- What a file holds, with the usage that was recorded when it was taken.
structure Snapshot where
  statistics : Statistics
  recorded : List Usage

-- The tracker and its files. Goroutines without a step are counted; recorded
-- and taken are history: all usage, and the usage at the last snapshot.
structure World where
  aggregated : AggregatedUsage
  file : Option Snapshot := none
  tmpFile : Option Snapshot := none
  scheduled : Nat := 0
  fired : Nat := 0
  started : Nat := 0
  recorded : List Usage := []
  taken : Option (List Usage) := none

inductive Phase where
  | idle
  | writing (snapshot : Snapshot)
  | moving
  | stamping
  | removing

inductive Event where
  | addUsageWithCycleHint (usage : Usage) (now : Int)
  | scheduleSave (now : Int)
  | fire
  | unpend
  | cancelPendingSave
  | save
  | snapshot
  | write
  | rename
  | stamp (now : Int)
  | remove

def World.add (world : World) (usage : Usage) (now : Int) : World :=
  match world.aggregated.addUsageWithCycleHint usage now with
  | .error _ => world
  | .ok aggregated =>
    { world with
      aggregated := aggregated
      scheduled := world.scheduled + 1
      recorded := world.recorded ++ [observed usage now] }

def World.schedule (world : World) (now : Int) : World :=
  let (aggregated, saves) := world.aggregated.scheduleSave now
  { world with
    aggregated := aggregated
    scheduled := world.scheduled - 1
    started := if saves then world.started + 1 else world.started }

def World.toSnapshot (world : World) : Snapshot := ⟨world.aggregated.statistics, world.recorded⟩

def advance (_ : Nat) (world : World) : Phase → Event → Option (World × Phase)
  | .idle, .addUsageWithCycleHint usage now => some (world.add usage now, .idle)
  | .idle, .scheduleSave now => if 0 < world.scheduled then some (world.schedule now, .idle) else none
  | .idle, .fire =>
    if world.aggregated.saveTimer then
      some ({ world with aggregated := { world.aggregated with saveTimer := false }, fired := world.fired + 1 }, .idle)
    else none
  | .idle, .unpend =>
    if 0 < world.fired then
      some ({ world with
        aggregated := { world.aggregated with pendingSave := false }
        fired := world.fired - 1
        started := world.started + 1 }, .idle)
    else none
  | .idle, .cancelPendingSave => some ({ world with aggregated := world.aggregated.cancelPendingSave }, .idle)
  | .idle, .save => some ({ world with started := world.started + 1 }, .idle)
  | .idle, .snapshot =>
    if 0 < world.started then
      some ({ world with started := world.started - 1, taken := some world.recorded }, .writing world.toSnapshot)
    else none
  | .writing snapshot, .write => some ({ world with tmpFile := some snapshot }, .moving)
  | .moving, .rename =>
    match world.tmpFile with
    | none => some (world, .removing)
    | some snapshot => some ({ world with file := some snapshot, tmpFile := none }, .stamping)
  | .stamping, .stamp now =>
    some ({ world with aggregated := { world.aggregated with lastSaveTime := some now } }, .removing)
  | .removing, .remove => some ({ world with tmpFile := none }, .idle)
  | _, _ => none

def start (file : Option Statistics) (tmpFile : Option Snapshot) : Threads Nat World Phase where
  shared :=
    { aggregated := load file
      file := file.map (fun statistics => ⟨statistics, []⟩)
      tmpFile := tmpFile }
  phase _ := .idle

end OtunKernel.Ccm
