import MediaSync.Foundation.Json
import MediaSync.Foundation.Table

/-! The catalog's run tables: a run, its targets, its stop request and the endpoint wait events,
with the lookups and ordered selections the run store makes on them. -/
namespace MediaSync.Runs

inductive RunState where
  | created
  | queued
  | preflight
  | executing
  | pausing
  | paused
  | completed
  | completedWithWarnings
  | partialFailure
  | failed
  | cancelled
  | blockedBySafety
  | recoveryRequired
  deriving DecidableEq

inductive RunTargetState where
  | pending
  | acquiringLease
  | revalidating
  | executing
  | paused
  | waitingForEndpoint
  | needsReview
  | succeeded
  | succeededWithWarnings
  | failed
  | cancelled
  | blocked
  | recoveryRequired
  deriving DecidableEq

def terminalRunStates : List RunState :=
  [.completed, .completedWithWarnings, .partialFailure, .failed, .cancelled, .blockedBySafety,
    .recoveryRequired]

def unfinishedTargetStates : List RunTargetState :=
  [.pending, .acquiringLease, .revalidating, .executing, .paused, .waitingForEndpoint,
    .needsReview]

def RunState.isTerminal (state : RunState) : Bool := terminalRunStates.contains state

def RunTargetState.isUnfinished (state : RunTargetState) : Bool :=
  unfinishedTargetStates.contains state

structure RunRow where
  id : String
  jobId : String
  jobRevisionId : String
  planId : String
  planChecksum : String
  state : RunState
  startedUtc : String
  summary : Payload
  warningCount : Int
  errorCount : Int
  plannedOperations : Int
  plannedBytes : Int
  rowVersion : Nat

/-- The text of the `summary_json` column. -/
def RunRow.summaryJson (run : RunRow) : String := (Json.obj run.summary).dump

structure RunTargetRow where
  id : String
  runId : String
  endpointId : String
  endpointRevisionId : String
  requiredOwnerInstallationId : Option String
  requiredOwnershipEpoch : Option Int
  state : RunTargetState
  leaseResourceKey : Option String
  lastLeaseId : Option String
  lastOwnershipEpoch : Option Int
  lastFencingToken : Option Int
  plannedOperations : Int
  completedOperations : Int
  plannedBytes : Int
  completedBytes : Int
  warningCount : Int
  errorCount : Int
  result : Option Payload
  rowVersion : Nat

inductive StopState where
  | pending
  | applied
  deriving DecidableEq

structure StopRow where
  runId : String
  state : StopState
  boundaryRunTargetId : Option String
  boundaryOperationId : Option String
  requestedUtc : String
  rowVersion : Nat
  deriving DecidableEq

/-- A row of `run_target_endpoint_wait_events`; its id is its position. -/
structure WaitEvent where
  runId : String
  runTargetId : String
  attemptNo : Nat
  reasonCode : String
  observedUtc : String
  backoffMs : Int
  retryNotBeforeUtc : String
  deriving DecidableEq

structure RunTables where
  runs : List RunRow
  targets : List RunTargetRow
  stops : List StopRow
  waitEvents : List WaitEvent

/-- The row that `ORDER BY … LIMIT 1` returns for the order `le`. -/
def firstBy {Row : Type} (le : Row → Row → Bool) : List Row → Option Row
  | [] => none
  | row :: rest =>
    match firstBy le rest with
    | none => some row
    | some best => if le row best then some row else some best

namespace RunTables

variable (t : RunTables)

def loadStartedRun (runId : String) : Option RunRow := Table.lookup RunRow.id t.runs runId

def loadTargets (runId : String) : List RunTargetRow :=
  t.targets.filter fun target => target.runId = runId

def loadTarget (runId runTargetId : String) : Option RunTargetRow :=
  t.targets.find? fun target => target.runId = runId ∧ target.id = runTargetId

def loadRunStopRequest (runId : String) : Option StopRow :=
  t.stops.find? fun stop => stop.runId = runId ∧ stop.state = .pending

/-- `EXISTS (SELECT 1 FROM runs WHERE id = ? AND state IN …)`. -/
def runStateIn (runId : String) (states : List RunState) : Bool :=
  t.runs.any fun run => run.id = runId && states.contains run.state

/-- `EXISTS (SELECT 1 FROM run_targets WHERE run_id = ? AND state IN …)`. -/
def targetStateIn (runId : String) (states : List RunTargetState) : Bool :=
  t.targets.any fun target => target.runId = runId && states.contains target.state

/-- `UPDATE runs SET … WHERE id = ? AND p`, with the version every such statement bumps. -/
def updateRuns (runId : String) (p : RunRow → Bool) (f : RunRow → RunRow) : RunTables :=
  { t with
    runs := Table.updateWhere t.runs (fun run => run.id = runId && p run) fun run =>
      { f run with rowVersion := run.rowVersion + 1 } }

/-- `UPDATE run_targets SET … WHERE run_id = ? AND p`, with the version it bumps. -/
def updateTargets (runId : String) (p : RunTargetRow → Bool)
    (f : RunTargetRow → RunTargetRow) : RunTables :=
  { t with
    targets := Table.updateWhere t.targets (fun target => target.runId = runId && p target)
      fun target => { f target with rowVersion := target.rowVersion + 1 } }

/-- The `rowcount` of `updateRuns`. -/
def runsMatching (runId : String) (p : RunRow → Bool) : Nat :=
  Table.rowcount t.runs fun run => run.id = runId && p run

/-- The `rowcount` of `updateTargets`. -/
def targetsMatching (runId : String) (p : RunTargetRow → Bool) : Nat :=
  Table.rowcount t.targets fun target => target.runId = runId && p target

/-- The primary keys of the three tables. -/
structure Keyed : Prop where
  runs : Table.KeysUnique RunRow.id t.runs
  targets : Table.KeysUnique RunTargetRow.id t.targets
  stops : Table.KeysUnique StopRow.runId t.stops

variable {t}

variable {runId : String} {target : RunTargetRow}

theorem mem_loadTargets :
    target ∈ t.loadTargets runId ↔ target ∈ t.targets ∧ target.runId = runId := by
  simp [loadTargets]

variable {r : String}

theorem Keyed.updateRuns (hk : t.Keyed) {p : RunRow → Bool} {f : RunRow → RunRow}
    (hf : ∀ run, (f run).id = run.id) : (t.updateRuns r p f).Keyed where
  runs := hk.runs.updateWhere hf
  targets := hk.targets
  stops := hk.stops

variable {p : RunTargetRow → Bool} {f : RunTargetRow → RunTargetRow}

theorem Keyed.updateTargets (hk : t.Keyed) (hf : ∀ target, (f target).id = target.id) :
    (t.updateTargets r p f).Keyed where
  runs := hk.runs
  targets := hk.targets.updateWhere hf
  stops := hk.stops

variable {run : RunRow}

theorem mem_updateRuns {p : RunRow → Bool} {f : RunRow → RunRow}
    (h : run ∈ (t.updateRuns r p f).runs) : ∃ old ∈ t.runs,
      (old.id = r ∧ p old = true ∧ run = { f old with rowVersion := old.rowVersion + 1 }) ∨
        (¬ (old.id = r ∧ p old = true) ∧ run = old) := by
  obtain ⟨old, hold, heq⟩ := Table.mem_updateWhere.mp h
  refine ⟨old, hold, ?_⟩
  by_cases hp : old.id = r ∧ p old = true
  · exact .inl ⟨hp.1, hp.2, by simpa [hp] using heq.symm⟩
  · exact .inr ⟨hp, by simpa [hp] using heq.symm⟩

theorem mem_updateTargets (h : target ∈ (t.updateTargets r p f).targets) : ∃ old ∈ t.targets,
      (old.runId = r ∧ p old = true ∧ target = { f old with rowVersion := old.rowVersion + 1 }) ∨
        (¬ (old.runId = r ∧ p old = true) ∧ target = old) := by
  obtain ⟨old, hold, heq⟩ := Table.mem_updateWhere.mp h
  refine ⟨old, hold, ?_⟩
  by_cases hp : old.runId = r ∧ p old = true
  · exact .inl ⟨hp.1, hp.2, by simpa [hp] using heq.symm⟩
  · exact .inr ⟨hp, by simpa [hp] using heq.symm⟩

theorem mem_updateRuns_of_mem {p : RunRow → Bool} {f : RunRow → RunRow} (hrun : run ∈ t.runs)
    (hr : run.id = r) (hp : p run = true) :
    { f run with rowVersion := run.rowVersion + 1 } ∈ (t.updateRuns r p f).runs :=
  Table.mem_updateWhere.mpr ⟨run, hrun, by simp [hr, hp]⟩

theorem mem_updateTargets_of_mem (htarget : target ∈ t.targets) (hr : target.runId = r)
    (hp : p target = true) :
    { f target with rowVersion := target.rowVersion + 1 } ∈ (t.updateTargets r p f).targets :=
  Table.mem_updateWhere.mpr ⟨target, htarget, by simp [hr, hp]⟩

theorem mem_updateTargets_of_not (htarget : target ∈ t.targets)
    (hp : ¬ (target.runId = r ∧ p target = true)) : target ∈ (t.updateTargets r p f).targets :=
  Table.mem_updateWhere.mpr ⟨target, htarget, by simp [hp]⟩

theorem loadTargets_updateTargets (hf : ∀ target, (f target).runId = target.runId) :
    (t.updateTargets r p f).loadTargets r = (t.loadTargets r).map fun target =>
      if p target then { f target with rowVersion := target.rowVersion + 1 } else target := by
  simp only [loadTargets, updateTargets, Table.updateWhere, List.filter_map]
  have hfilter : (t.targets.filter ((fun target => decide (target.runId = r)) ∘ fun target =>
      if decide (target.runId = r) && p target then
        { f target with rowVersion := target.rowVersion + 1 } else target)) =
      t.targets.filter fun target => target.runId = r := by
    refine List.filter_congr fun target _ => ?_
    simp only [Function.comp_apply]
    split <;> simp [hf]
  rw [hfilter]
  refine List.map_congr_left fun target htarget => ?_
  have hr : target.runId = r := by simpa using (List.mem_filter.mp htarget).2
  simp [hr]

variable {states : List RunState}

theorem runStateIn_iff : t.runStateIn runId states = true ↔
      ∃ run ∈ t.runs, run.id = runId ∧ run.state ∈ states := by
  simp [runStateIn]

theorem targetStateIn_iff {states : List RunTargetState} : t.targetStateIn runId states = true ↔
      ∃ target ∈ t.targets, target.runId = runId ∧ target.state ∈ states := by
  simp [targetStateIn]

theorem Keyed.state_mem (hk : t.Keyed) (hrun : run ∈ t.runs)
    (h : t.runStateIn run.id states = true) :
    run.state ∈ states := by
  obtain ⟨other, hother, hid, hstate⟩ := runStateIn_iff.mp h
  rw [Table.key_injOn hk.runs hrun hother hid.symm]
  exact hstate

end RunTables

end MediaSync.Runs
