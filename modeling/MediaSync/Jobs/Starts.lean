import MediaSync.Jobs.Catalog

/-! A run is started by a user's command, which looks at the lifecycle of the plan's job, or by the
analysis worker, which does not. -/
namespace MediaSync.Jobs
open Runs Triggers

structure StartRunCommand where
  requestId : String
  idempotencyKey : String
  runIdempotencyKey : Option String := none
  planId : String
  planChecksum : String
  triggerOccurrenceId : Option String := none
  deriving DecidableEq

def parseStartRunCommand (requestId idempotencyKey planId planChecksum : String) :
    StartRunCommand := { requestId, idempotencyKey, planId, planChecksum }

def StartRunCommand.effectiveRunIdempotencyKey (command : StartRunCommand) : String :=
  (truthy command.runIdempotencyKey).getD command.idempotencyKey

structure StartablePlan where
  planId : String
  jobId : String
  jobRevisionId : String
  planChecksum : String
  refusal : Option String := none
  targets : List RunTargetState := []
  deriving DecidableEq

structure RunStartOutcome where
  created : Bool := false
  idempotentReplay : Bool := false
  planRunnable : Bool := false
  validationCode : Option String := none
  run : Option StartedRun := none
  deriving DecidableEq

namespace JobCatalog

variable (c : JobCatalog)

def loadStartedRun (runId : String) : Option StartedRun :=
  Table.lookup StartedRun.runId c.runs runId

def loadStartedRunByIdempotencyKey (idempotencyKey : String) : Option StartedRun :=
  Table.lookup StartedRun.idempotencyKey c.runs idempotencyKey

def saveStartedRun (run : StartedRun) : Except String JobCatalog :=
  if c.runs.any fun other => other.runId = run.runId ||
      other.idempotencyKey = run.idempotencyKey then .error "RUN_PERSISTENCE_FAILED"
  else .ok { c with runs := Table.insert c.runs run }

def jobLifecycleRunRejection (readsLifecycle : Bool) (jobId : String) : Option String :=
  if !readsLifecycle then none
  else
    match c.loadJobLifecycle jobId with
    | none => some "RUN_JOB_NOT_FOUND"
    | some record => if record.state = .active then none else some "RUN_JOB_ARCHIVED"

/-- `_started_run_from_plan` in its deferred form. -/
def startedRunFromPlan (command : StartRunCommand) (plan : StartablePlan) (runId : String) :
    StartedRun where
  runId := runId
  jobId := plan.jobId
  jobRevisionId := plan.jobRevisionId
  planId := plan.planId
  planChecksum := plan.planChecksum
  commandRequestId := command.requestId
  idempotencyKey := command.effectiveRunIdempotencyKey
  triggerOccurrenceId := command.triggerOccurrenceId
  state := .created
  targets := plan.targets

def startRunFromSealedPlan (command : StartRunCommand) (plan : Option StartablePlan)
    (readsLifecycle : Bool) (runId : String) : Except String (JobCatalog × RunStartOutcome) :=
  match c.loadStartedRunByIdempotencyKey command.effectiveRunIdempotencyKey with
  | some existing =>
    .ok (c, { idempotentReplay := true, planRunnable := true, run := some existing })
  | none =>
    match plan with
    | none => .ok (c, { validationCode := some "PLAN_NOT_FOUND" })
    | some plan =>
      match c.jobLifecycleRunRejection readsLifecycle plan.jobId, plan.refusal with
      | some code, _ => .ok (c, { validationCode := some code })
      | none, some code => .ok (c, { validationCode := some code })
      | none, none =>
        match c.loadActiveRunForJob plan.jobId with
        | some active =>
          .ok (c, { idempotentReplay := true, planRunnable := true, run := some active })
        | none => do
          let run := startedRunFromPlan command plan runId
          let saved ← c.saveStartedRun run
          return (saved, { created := true, planRunnable := true, run := some run })

/-- The other answers of the handoff store are `recorded`. -/
def prepareRunStart (run : StartedRun) (recorded : Except String Unit) : Except String Unit :=
  if run.state ≠ .created then .error "RUN_START_HANDOFF_REQUIRES_CREATED_RUN" else recorded

def prepareRun (command : StartRunCommand) (plan : Option StartablePlan) (readsLifecycle : Bool)
    (runId : String) (recorded : Except String Unit) :
    Except String (JobCatalog × RunStartOutcome) := do
  let started ← c.startRunFromSealedPlan command plan readsLifecycle runId
  match started.2.run with
  | none => return started
  | some run => do
    prepareRunStart run recorded
    return started

variable {c c' : JobCatalog} {command : StartRunCommand} {plan : Option StartablePlan}
  {readsLifecycle : Bool} {runId : String} {outcome : RunStartOutcome}

structure Starts (c : JobCatalog) (command : StartRunCommand) (readsLifecycle : Bool)
    (plan : StartablePlan) (runId : String) : Prop where
  idle : c.loadActiveRunForJob plan.jobId = none
  active : readsLifecycle = true → c.isActive plan.jobId = true
  freshKey : c.loadStartedRunByIdempotencyKey command.effectiveRunIdempotencyKey = none
  freshId : c.loadStartedRun runId = none

theorem saveStartedRun_ok {run : StartedRun} (h : c.saveStartedRun run = .ok c') :
    c' = { c with runs := Table.insert c.runs run } ∧
      c.loadStartedRunByIdempotencyKey run.idempotencyKey = none ∧
      c.loadStartedRun run.runId = none := by
  unfold saveStartedRun at h
  split at h
  · cases h
  · rename_i hfresh
    refine ⟨(Except.ok.inj h).symm, Table.lookup_none_iff.mpr fun other hother hkey => hfresh ?_,
      Table.lookup_none_iff.mpr fun other hother hid => hfresh ?_⟩
    · exact List.any_eq_true.mpr ⟨other, hother, by simp [hkey]⟩
    · exact List.any_eq_true.mpr ⟨other, hother, by simp [hid]⟩

theorem isActive_of_noRejection {jobId : String}
    (h : c.jobLifecycleRunRejection readsLifecycle jobId = none) (hreads : readsLifecycle = true) :
    c.isActive jobId = true := by
  subst hreads
  unfold jobLifecycleRunRejection at h
  simp only [Bool.not_true, Bool.false_eq_true, if_false] at h
  unfold isActive
  split at h
  · cases h
  · rename_i record hrecord
    split at h
    · rename_i hactive
      rw [hrecord]
      simpa using hactive
    · cases h

theorem startRunFromSealedPlan_cases
    (h : c.startRunFromSealedPlan command plan readsLifecycle runId = .ok (c', outcome)) :
    (c' = c ∧ outcome.created = false) ∨
      ∃ found, plan = some found ∧ Starts c command readsLifecycle found runId ∧
        c' = { c with runs := Table.insert c.runs (startedRunFromPlan command found runId) } ∧
        outcome.run = some (startedRunFromPlan command found runId) := by
  unfold startRunFromSealedPlan at h
  split at h
  · obtain ⟨rfl, rfl⟩ := Prod.mk.inj (Except.ok.inj h)
    exact .inl ⟨rfl, rfl⟩
  · split at h
    · obtain ⟨rfl, rfl⟩ := Prod.mk.inj (Except.ok.inj h)
      exact .inl ⟨rfl, rfl⟩
    · rename_i found
      split at h
      · obtain ⟨rfl, rfl⟩ := Prod.mk.inj (Except.ok.inj h)
        exact .inl ⟨rfl, rfl⟩
      · obtain ⟨rfl, rfl⟩ := Prod.mk.inj (Except.ok.inj h)
        exact .inl ⟨rfl, rfl⟩
      · rename_i hrejection _
        split at h
        · obtain ⟨rfl, rfl⟩ := Prod.mk.inj (Except.ok.inj h)
          exact .inl ⟨rfl, rfl⟩
        · rename_i hidle
          obtain ⟨saved, hsaved, h⟩ := Text.except_bind_ok h
          obtain ⟨rfl, rfl⟩ := Prod.mk.inj (Except.ok.inj h)
          obtain ⟨rfl, hkey, hid⟩ := saveStartedRun_ok hsaved
          exact .inr ⟨found, rfl, ⟨hidle, isActive_of_noRejection hrejection, hkey, hid⟩, rfl, rfl⟩

theorem prepareRun_cases {recorded : Except String Unit}
    (h : c.prepareRun command plan readsLifecycle runId recorded = .ok (c', outcome)) :
    (c' = c ∧ outcome.created = false) ∨
      ∃ found, plan = some found ∧ Starts c command readsLifecycle found runId ∧
        c' = { c with runs := Table.insert c.runs (startedRunFromPlan command found runId) } ∧
        outcome.run = some (startedRunFromPlan command found runId) := by
  obtain ⟨started, hstarted, h⟩ := Text.except_bind_ok h
  have hkept : started = (c', outcome) := by
    split at h
    · exact Except.ok.inj h
    · obtain ⟨_, -, h⟩ := Text.except_bind_ok h
      exact Except.ok.inj h
  subst hkept
  exact startRunFromSealedPlan_cases hstarted

end JobCatalog

end MediaSync.Jobs
