import MediaSync.Foundation.Text

/-! The phases of the recovery journal, their success order and the transition check. -/
namespace MediaSync.Recovery
open Text

inductive Phase where
  | planned
  | sourceValidated
  | sourceStabilityBound
  | targetPreconditionValidated
  | stagingAllocated
  | transferred
  | stagingDurable
  | stagingVerified
  | commitIntentRecorded
  | commitPreconditionsRevalidated
  | oldTargetPreserved
  | filesystemApplied
  | finalDurable
  | finalVerified
  | catalogRecorded
  | cleaned
  | skipped
  | conflict
  | deferred
  | failedRetryable
  | failedBlocked
  | cancelled
  | rollbackRequired
  | userDecisionRequired
  deriving DecidableEq

namespace Phase

def value : Phase → String
  | planned => "PLANNED"
  | sourceValidated => "SOURCE_VALIDATED"
  | sourceStabilityBound => "SOURCE_STABILITY_BOUND"
  | targetPreconditionValidated => "TARGET_PRECONDITION_VALIDATED"
  | stagingAllocated => "STAGING_ALLOCATED"
  | transferred => "TRANSFERRED"
  | stagingDurable => "STAGING_DURABLE"
  | stagingVerified => "STAGING_VERIFIED"
  | commitIntentRecorded => "COMMIT_INTENT_RECORDED"
  | commitPreconditionsRevalidated => "COMMIT_PRECONDITIONS_REVALIDATED"
  | oldTargetPreserved => "OLD_TARGET_PRESERVED"
  | filesystemApplied => "FILESYSTEM_APPLIED"
  | finalDurable => "FINAL_DURABLE"
  | finalVerified => "FINAL_VERIFIED"
  | catalogRecorded => "CATALOG_RECORDED"
  | cleaned => "CLEANED"
  | skipped => "SKIPPED"
  | conflict => "CONFLICT"
  | deferred => "DEFERRED"
  | failedRetryable => "FAILED_RETRYABLE"
  | failedBlocked => "FAILED_BLOCKED"
  | cancelled => "CANCELLED"
  | rollbackRequired => "ROLLBACK_REQUIRED"
  | userDecisionRequired => "USER_DECISION_REQUIRED"

def terminalPhases : List Phase :=
  [cleaned, skipped, conflict, deferred, failedRetryable, failedBlocked, cancelled,
    rollbackRequired, userDecisionRequired]

def successTransitions : Phase → List Phase
  | planned => [sourceValidated]
  | sourceValidated => [sourceStabilityBound]
  | sourceStabilityBound => [targetPreconditionValidated]
  | targetPreconditionValidated => [stagingAllocated]
  | stagingAllocated => [transferred]
  | transferred => [stagingDurable]
  | stagingDurable => [stagingVerified]
  | stagingVerified => [commitIntentRecorded]
  | commitIntentRecorded => [commitPreconditionsRevalidated]
  | commitPreconditionsRevalidated => [oldTargetPreserved, filesystemApplied]
  | oldTargetPreserved => [filesystemApplied]
  | filesystemApplied => [finalDurable]
  | finalDurable => [finalVerified]
  | finalVerified => [catalogRecorded]
  | catalogRecorded => [cleaned]
  | _ => []

def phasesRequiringIntent : List Phase :=
  [commitIntentRecorded, commitPreconditionsRevalidated, oldTargetPreserved, filesystemApplied,
    finalDurable, finalVerified, catalogRecorded, cleaned]

def phasesRequiringCatalogHandoff : List Phase := [catalogRecorded, cleaned]

def preCommitLeaseRebindPhases : List Phase :=
  [planned, sourceValidated, sourceStabilityBound, targetPreconditionValidated,
    stagingAllocated, transferred, stagingDurable, stagingVerified]

/-- `PRE_COMMIT_LEASE_REBIND_PHASES[:-1]`, the phases in which staging may fail. -/
def stagingPhases : List Phase := preCommitLeaseRebindPhases.dropLast

def isTerminal (phase : Phase) : Bool := phase ∈ terminalPhases

def validateRecoveryPhaseTransition (fromPhase toPhase : Phase) : Except String Unit :=
  if fromPhase ∈ terminalPhases then
    .error "RECOVERY_OPERATION_TERMINAL_PHASE_CANNOT_TRANSITION"
  else if toPhase ∈ terminalPhases then .ok ()
  else if toPhase ∈ successTransitions fromPhase then .ok ()
  else .error "RECOVERY_OPERATION_INVALID_PHASE_TRANSITION"

def journalEdge (fromPhase toPhase : Phase) : Bool :=
  !isTerminal fromPhase &&
    (toPhase ∈ successTransitions fromPhase || (isTerminal toPhase && toPhase != cleaned) ||
      toPhase == fromPhase)

variable {a b : Phase}

theorem journalEdge_of_validated (h : validateRecoveryPhaseTransition a b = .ok ())
    (hb : b = cleaned → a = catalogRecorded) : journalEdge a b = true := by
  simp only [validateRecoveryPhaseTransition] at h
  split at h
  · simp at h
  · rename_i ha
    split at h
    · rename_i hterm
      by_cases hc : b = cleaned
      · rw [hb hc, hc]
        decide
      · simp [journalEdge, isTerminal, ha, hterm, hc]
    · split at h
      · rename_i hsucc
        simp [journalEdge, isTerminal, ha, hsucc]
      · simp at h

theorem not_terminal_of_validated (h : validateRecoveryPhaseTransition a b = .ok ()) :
    a ∉ terminalPhases := by
  intro ha
  simp [validateRecoveryPhaseTransition, ha] at h

theorem journalEdge_source (h : journalEdge a b = true) : a ∉ terminalPhases := by
  simp only [journalEdge, isTerminal, Bool.and_eq_true, Bool.not_eq_true'] at h
  simpa using h.1

theorem journalEdge_into_cleaned {a : Phase} (h : journalEdge a cleaned = true) :
    a = catalogRecorded := by
  cases a <;> revert h <;> decide

theorem journalEdge_into_intent (h : journalEdge a b = true) (hb : b ∈ phasesRequiringIntent) :
    b = commitIntentRecorded ∨ a ∈ phasesRequiringIntent := by
  cases a <;> cases b <;> revert h hb <;> decide

theorem journalEdge_self {a : Phase} (h : a ∉ terminalPhases) : journalEdge a a = true := by
  simp [journalEdge, isTerminal, h]

end Phase

end MediaSync.Recovery
