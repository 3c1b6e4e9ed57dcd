import MediaSync.CrossStore.Handoff
import MediaSync.Runs.Tables

/-! The handoffs by which the catalog and the recovery store agree that a run may start, and the
binding that the recovery store commits with its peer. -/
namespace MediaSync.Runs
open CrossStore Text

/-- One entry of `targets` in a run-start payload. -/
structure RunStartTarget where
  endpointId : String
  endpointRevisionId : String
  requiredOwnerInstallationId : Option String
  requiredOwnershipEpoch : Option Int
  runTargetId : String
  deriving DecidableEq

structure RunStartPayload where
  commandReceiptId : String
  jobId : String
  jobRevisionId : String
  planChecksum : String
  planId : String
  runId : String
  transitionCommandReceipt : Bool
  targets : List RunStartTarget
  deriving DecidableEq

abbrev RunStartEvidence := HandoffEvidence RunStartPayload

abbrev RunStartHandoff := CrossStoreHandoff RunStartPayload

structure RecoveryRunBinding where
  runId : String
  jobId : String
  jobRevisionId : String
  planId : String
  planChecksum : String
  startHandoffId : String
  deriving DecidableEq

def runStartHandoffId (runId : String) : String := "run-start:" ++ runId

section
variable (hash : RunStartPayload → String)

def bindRecoveryRun (bindings : List RecoveryRunBinding) (binding : RecoveryRunBinding) :
    Option (List RecoveryRunBinding) :=
  match Table.lookup RecoveryRunBinding.runId bindings binding.runId with
  | none =>
    if bindings.any (fun row => row.startHandoffId = binding.startHandoffId) then none
    else some (Table.insert bindings binding)
  | some existing => if existing ≠ binding then none else some bindings

def commitRunStartPeer (bindings : List RecoveryRunBinding) (peers : List RunStartHandoff)
    (binding : RecoveryRunBinding) (handoff : RunStartHandoff) :
    Option (List RecoveryRunBinding × List RunStartHandoff) := do
  let bound ← bindRecoveryRun bindings binding
  let recorded ← recordHandoff hash peers handoff
  some (bound, recorded.1)

def runStartSourceHandoff (run : RunRow) (targets : List RunTargetRow)
    (commandReceiptId : String) (transitionCommandReceipt : Bool) : RunStartHandoff :=
  let sorted := targets.insertionSort fun a b => a.id ≤ b.id
  let payload : RunStartPayload :=
    { commandReceiptId, transitionCommandReceipt
      jobId := run.jobId, jobRevisionId := run.jobRevisionId, planChecksum := run.planChecksum
      planId := run.planId, runId := run.id
      targets := sorted.map fun target =>
        { endpointId := target.endpointId
          endpointRevisionId := target.endpointRevisionId
          requiredOwnerInstallationId := target.requiredOwnerInstallationId
          requiredOwnershipEpoch := target.requiredOwnershipEpoch
          runTargetId := target.id } }
  { evidence :=
      { handoffId := runStartHandoffId run.id
        handoffType := "RUN_START"
        direction := "CATALOG_TO_RECOVERY"
        payloadSchemaVersion := 1
        entityType := "RUN"
        entityId := run.id
        payload
        payloadHash := hash payload }
    state := .prepared
    expectedPeerState := .peerCommitted
    attemptCount := 0
    lastErrorCode := none }

end

def recoveryRunBindingFromHandoff (evidence : RunStartEvidence) : Option RecoveryRunBinding :=
  let payload := evidence.payload
  if nonBlank payload.runId && payload.runId = evidence.entityId && nonBlank payload.jobId &&
      nonBlank payload.jobRevisionId && nonBlank payload.planId && nonBlank payload.planChecksum
  then
    some {
      runId := payload.runId
      jobId := payload.jobId
      jobRevisionId := payload.jobRevisionId
      planId := payload.planId
      planChecksum := payload.planChecksum
      startHandoffId := evidence.handoffId }
  else none

def isSourceRunStartHandoff (hash : RunStartPayload → String) (handoff : RunStartHandoff) : Bool :=
  handoff.evidence.handoffType = "RUN_START" &&
    handoff.evidence.direction = "CATALOG_TO_RECOVERY" && handoff.evidence.entityType = "RUN" &&
    [HandoffState.prepared, .sourceConfirmed, .completed].contains handoff.state &&
    decodes hash handoff.evidence

end MediaSync.Runs
