import MediaSync.Foundation.CaseFolding
import MediaSync.Foundation.SortKeys
import MediaSync.Jobs.Drafts
import MediaSync.Plans.Sealing
import MediaSync.Snapshots.HashEvidence
import MediaSync.Snapshots.Records
import Mathlib.Data.List.Dedup

/-! `build_initial_backup_plan` compares the snapshot of the source with that of each writable
target and plans one operation for each entry that the target lacks or has otherwise. -/
namespace MediaSync.Plans
open Text Recovery Snapshots Jobs

inductive PlanningRaised where
  | initialBackup (validationCode nextAction : String)
  | sourcePrecondition (validationCode : String)
  | planSeal (code : String)
  deriving DecidableEq

structure DestructivePlanningEvidence where
  scanCoverageComplete : Bool
  snapshotIdentityMatchesEndpointRevision : Bool
  deriving DecidableEq

structure InitialBackupPlanningEndpoint where
  endpointId : String
  endpointRevisionId : String
  endpointGeneration : Int
  snapshotId : String
  snapshotChecksum : String
  rootCaseContextHash : String
  rootCaseMode : String
  capabilitiesHash : String
  destructiveEvidence : DestructivePlanningEvidence
  entries : List SnapshotFileEntry
  role : EndpointRole
  hashEvidence : List CurrentReadHashEvidence := []
  targetOrdinal : Option Int := none
  requiredOwnerInstallationId : Option String := none
  requiredOwnershipEpoch : Option Int := none
  controlSchemaVersion : Option Int := none

structure InitialBackupPlanBuild where
  plan : Option PlanRecord
  state : String
  reasonCode : String
  nextAction : String

def policyValue : AutomationPolicy → String
  | .newFilesOnly => "NEW_FILES_ONLY"
  | .newAndChangedWithVersions => "NEW_AND_CHANGED_WITH_VERSIONS"
  | .analyzeOnly => "ANALYZE_ONLY"

/-- `path.rsplit("/", 1)[0]`, of a path with a slash. -/
def parentPath (path : String) : Option String :=
  if path.toList.contains '/' then
    some (String.ofList (path.toList.reverse.dropWhile (· ≠ '/')).tail.reverse)
  else none

def parentPaths : Nat → String → List String
  | 0, _ => []
  | fuel + 1, path =>
    match parentPath path with
    | none => []
    | some parent => parent :: parentPaths fuel parent

section
variable (folding : CaseFolding)

def targetComparisonKey (relativePath targetCaseMode : String) : String :=
  String.intercalate "/" <| (components relativePath).map fun component =>
    if targetCaseMode = "CASE_INSENSITIVE" then folding.casefold component else component

def parentComparisonKey (relativePath targetCaseMode : String) : Option String :=
  (parentPath relativePath).map fun parent => targetComparisonKey folding parent targetCaseMode

/-- The turns of `_entries_by_comparison_key`, after the entries that were met before. -/
def entriesByComparisonKeyFrom (role targetCaseMode : String) :
    List (String × SnapshotFileEntry) → List SnapshotFileEntry →
      Except PlanningRaised (List (String × SnapshotFileEntry))
  | result, [] => .ok result
  | result, entry :: rest =>
    let comparisonKey := targetComparisonKey folding entry.relativePath targetCaseMode
    if result.any (·.1 = comparisonKey) then
      .error (.initialBackup ("INITIAL_BACKUP_PLAN_" ++ role ++ "_CASE_COLLISION")
        "Resolve case-colliding paths before planning backup changes.")
    else
      entriesByComparisonKeyFrom role targetCaseMode (result ++ [(comparisonKey, entry)]) rest

def entriesByComparisonKey (entries : List SnapshotFileEntry) (role targetCaseMode : String) :
    Except PlanningRaised (List (String × SnapshotFileEntry)) :=
  entriesByComparisonKeyFrom folding role targetCaseMode [] entries

end

/-- `_directory_descendant_counts`, at a key. -/
def directoryDescendantCount (entries : List (String × SnapshotFileEntry)) (key : String) : Nat :=
  if (entries.lookup key).any (·.objectType = "directory") then
    (entries.flatMap fun child => parentPaths child.1.length child.1).count key
  else 0

/-- The turns of `_hash_evidence_by_entry_id`, after the evidence that was met before. -/
def hashEvidenceByEntryIdFrom (endpoint : InitialBackupPlanningEndpoint) :
    List (String × CurrentReadHashEvidence) → List CurrentReadHashEvidence →
      Except PlanningRaised (List (String × CurrentReadHashEvidence))
  | result, [] => .ok result
  | result, evidence :: rest =>
    if evidence.snapshotId ≠ endpoint.snapshotId || evidence.endpointId ≠ endpoint.endpointId ||
        !(endpoint.entries.map SnapshotFileEntry.entryId).contains evidence.entryId ||
        result.any (·.1 = evidence.entryId) then
      .error (.initialBackup "INITIAL_BACKUP_PLAN_HASH_EVIDENCE_INVALID"
        "Refresh current file hash evidence before planning changes.")
    else hashEvidenceByEntryIdFrom endpoint (result ++ [(evidence.entryId, evidence)]) rest

def hashEvidenceByEntryId (endpoint : InitialBackupPlanningEndpoint) :
    Except PlanningRaised (List (String × CurrentReadHashEvidence)) :=
  hashEvidenceByEntryIdFrom endpoint [] endpoint.hashEvidence

def destructiveBlockReason (source target : InitialBackupPlanningEndpoint) : Option String :=
  let evidence := [source.destructiveEvidence, target.destructiveEvidence]
  if evidence.any (!·.snapshotIdentityMatchesEndpointRevision) then
    some "DESTRUCTIVE_ENDPOINT_IDENTITY_MISMATCH"
  else if evidence.any (!·.scanCoverageComplete) then
    some "DESTRUCTIVE_SCAN_COVERAGE_INCOMPLETE"
  else none

structure EntrySlot where
  planId : String
  targetEndpointId : String
  targetOrdinal : Option Int
  entry : SnapshotFileEntry
  targetComparisonKey : String
  sequenceNo : Int

/-- A number with zeros in front, `f"{n:0width}"`. -/
def zeroPadded (width : Nat) (n : Int) : String :=
  if n < 0 then "-" ++ String.ofList ((toString n.natAbs).toList.leftpad (width - 1) '0')
  else String.ofList ((toString n.natAbs).toList.leftpad width '0')

def plannedOperationId (slot : EntrySlot) (reasonCode : String) : String :=
  "op-" ++ String.ofList ((Sha256.hexdigest (String.intercalate "\x00"
    [slot.planId, slot.targetEndpointId, slot.entry.relativePath, reasonCode])).toList.take 24)

def sourcePreconditionJson (precondition : SourceFilePrecondition) : String :=
  Json.dump <| .obj [
    ("identity_fingerprint_hash", .str precondition.identityFingerprintHash),
    ("object_type", .str precondition.objectType),
    ("relative_path", .str precondition.relativePath),
    ("schema_version", .int precondition.schemaVersion),
    ("size_bytes", .int precondition.sizeBytes),
    ("snapshot_entry_id", .str precondition.snapshotEntryId),
    ("snapshot_id", .str precondition.snapshotId)]

def plannedSource (slot : EntrySlot) (operationType : OperationType)
    (sourceSnapshotId : Option String) : Except PlanningRaised (Option String × Option String) :=
  if operationType = .copyNew then
    match sourceSnapshotId, slot.entry.sizeBytes, slot.entry.identityFingerprintHash with
    | some snapshotId, some sizeBytes, some identityFingerprintHash =>
      let precondition : SourceFilePrecondition := {
        snapshotId
        snapshotEntryId := slot.entry.entryId
        relativePath := slot.entry.relativePath
        sizeBytes
        identityFingerprintHash }
      match precondition.validate with
      | .ok () => .ok (some slot.entry.relativePath, some (sourcePreconditionJson precondition))
      | .error code => .error (.sourcePrecondition code)
    | _, _, _ => .error (.initialBackup "INITIAL_BACKUP_PLAN_SOURCE_PRECONDITION_MISSING"
        "Refresh the source snapshot before planning file copies.")
  else .ok (none, none)

def plannedOperation (slot : EntrySlot) (operationType : OperationType)
    (targetPreconditionKind : PreconditionKind) (reasonCode : String) (riskLevel : RiskLevel)
    (plannedBytes : Int := 0) (sourceSnapshotId : Option String := none) :
    Except PlanningRaised PlanOperation := do
  let phase := if operationType = .createDirectory then 10 else 20
  let source ← plannedSource slot operationType sourceSnapshotId
  return {
    operationId := plannedOperationId slot reasonCode
    operationType
    sequenceNo := slot.sequenceNo
    executionPhase := phase
    stableOrderKey := String.intercalate ":" [zeroPadded 3 phase,
      zeroPadded 4 (slot.targetOrdinal.getD (-1)), slot.targetEndpointId,
      slot.targetComparisonKey, slot.entry.relativePath]
    targetPreconditionKind
    reasonCode
    riskLevel
    targetEndpointId := some slot.targetEndpointId
    targetRelativePath := some slot.entry.relativePath
    sourceRelativePath := source.1
    sourcePreconditionJson := source.2
    plannedBytes }

def blockedOperation (slot : EntrySlot) (reasonCode : String) :
    Except PlanningRaised PlanOperation :=
  plannedOperation slot .blockEndpointCapabilitiesUnknown .none reasonCode .blocked

structure TargetSide where
  entry : Option SnapshotFileEntry
  sourceSnapshotId : String
  targetSnapshotId : String
  sourceHashEvidence : Option CurrentReadHashEvidence
  targetHashEvidence : Option CurrentReadHashEvidence
  descendantCount : Nat
  destructiveBlockReason : Option String

def sameContent (side : TargetSide) (source target : SnapshotFileEntry) : Bool :=
  source.sizeBytes.any fun sizeBytes =>
    source.sizeBytes = target.sizeBytes &&
      compatibleCurrentReadHashes side.sourceHashEvidence side.targetHashEvidence
        side.sourceSnapshotId source.entryId side.targetSnapshotId target.entryId sizeBytes &&
      side.sourceHashEvidence.any fun sourceEvidence =>
        side.targetHashEvidence.any fun targetEvidence =>
          sourceEvidence.contentHash = targetEvidence.contentHash

def replacementOperation (slot : EntrySlot) (side : TargetSide) (kind : PreconditionKind)
    (reasonCode : String) (riskLevel : RiskLevel) : Except PlanningRaised PlanOperation :=
  match side.destructiveBlockReason with
  | some reason => blockedOperation slot reason
  | none => plannedOperation slot .copyNew kind reasonCode riskLevel
      (slot.entry.sizeBytes.getD 0) (some side.sourceSnapshotId)

def planEntry (slot : EntrySlot) (side : TargetSide) :
    Except PlanningRaised (Option PlanOperation) :=
  if slot.entry.objectType = "directory" then
    match side.entry with
    | none =>
      some <$> plannedOperation slot .createDirectory .absent "CREATE_MISSING_DIRECTORY" .low
    | some target =>
      if target.objectType = "directory" then .ok none
      else some <$> blockedOperation slot "SOURCE_DIRECTORY_TARGET_TYPE_CONFLICT"
  else if slot.entry.objectType ≠ "file" then
    some <$> blockedOperation slot "SOURCE_ENTRY_TYPE_UNSUPPORTED"
  else
    match side.entry with
    | none =>
      some <$> plannedOperation slot .copyNew .absent "COPY_NEW" .low
        (slot.entry.sizeBytes.getD 0) (some side.sourceSnapshotId)
    | some target =>
      if target.objectType = "file" then
        if sameContent side slot.entry target then .ok none
        else some <$>
          replacementOperation slot side .matchFingerprint "REPLACE_WITH_VERSION" .medium
      else if target.objectType = "directory" && side.descendantCount = 0 then
        some <$> replacementOperation slot side .directoryEmpty
          "REPLACE_EMPTY_DIRECTORY_WITH_FILE" .high
      else some <$> blockedOperation slot "SOURCE_FILE_TARGET_TYPE_CONFLICT"

def automationPolicyAllows (policy : AutomationPolicy) (operation : PlanOperation) : Bool :=
  if policy = .analyzeOnly then false
  else if operation.operationType = .createDirectory then operation.riskLevel = .low
  else if operation.operationType ≠ .copyNew then false
  else if operation.targetPreconditionKind = .absent && operation.riskLevel = .low then true
  else policy = .newAndChangedWithVersions &&
    operation.targetPreconditionKind = .matchFingerprint &&
    operation.reasonCode = "REPLACE_WITH_VERSION" && operation.riskLevel = .medium

def applyAutomationPolicy (policy : AutomationPolicy) (operation : PlanOperation) : PlanOperation :=
  if operation.riskLevel = .blocked then operation
  else if automationPolicyAllows policy operation then operation
  else { operation with
    operationType := .deferAutomationPolicy
    deferredOperationType := some <|
      if operation.operationType = .copyNew && operation.targetPreconditionKind ≠ .absent then
        .replaceChanged
      else operation.operationType }

def entryOrder (a b : SnapshotFileEntry) : Prop :=
  let rank := fun entry : SnapshotFileEntry => if entry.objectType = "directory" then 0 else 1
  let depth := fun entry : SnapshotFileEntry => entry.relativePath.toList.count '/'
  rank a < rank b ∨ rank a = rank b ∧ (depth a < depth b ∨ depth a = depth b ∧
    SortKeys.keyLE [a.comparisonKey, a.relativePath] [b.comparisonKey, b.relativePath])

instance : DecidableRel entryOrder := fun a b => by unfold entryOrder; infer_instance

def targetOrder (a b : InitialBackupPlanningEndpoint) : Prop :=
  a.targetOrdinal.getD (-1) < b.targetOrdinal.getD (-1) ∨
    a.targetOrdinal.getD (-1) = b.targetOrdinal.getD (-1) ∧ a.endpointId ≤ b.endpointId

instance : DecidableRel targetOrder := fun a b => by unfold targetOrder; infer_instance

structure TargetContext where
  planId : String
  source : InitialBackupPlanningEndpoint
  target : InitialBackupPlanningEndpoint
  firstSequenceNo : Int
  automationPolicy : AutomationPolicy
  targetEntries : List (String × SnapshotFileEntry)
  sourceHashEvidence : List (String × CurrentReadHashEvidence)
  targetHashEvidence : List (String × CurrentReadHashEvidence)

section
variable (folding : CaseFolding)

def TargetContext.side (context : TargetContext) (entry : SnapshotFileEntry)
    (targetComparisonKey : String) : TargetSide :=
  let targetEntry := context.targetEntries.lookup targetComparisonKey
  { entry := targetEntry
    sourceSnapshotId := context.source.snapshotId
    targetSnapshotId := context.target.snapshotId
    sourceHashEvidence := context.sourceHashEvidence.lookup entry.entryId
    targetHashEvidence := targetEntry.bind fun target =>
      context.targetHashEvidence.lookup target.entryId
    descendantCount := directoryDescendantCount context.targetEntries targetComparisonKey
    destructiveBlockReason := destructiveBlockReason context.source context.target }

/-- The turns of the loop of `_plan_target`, after the operations that were planned before. -/
def planEntriesFrom (context : TargetContext) :
    List PlanOperation → List (String × String) → List SnapshotFileEntry →
      Except PlanningRaised (List PlanOperation × List (String × String))
  | operations, directoryOperations, [] => .ok (operations, directoryOperations)
  | operations, directoryOperations, entry :: rest => do
    let key := targetComparisonKey folding entry.relativePath context.target.rootCaseMode
    let slot : EntrySlot := {
      planId := context.planId
      targetEndpointId := context.target.endpointId
      targetOrdinal := context.target.targetOrdinal
      entry
      targetComparisonKey := key
      sequenceNo := context.firstSequenceNo + operations.length }
    match ← planEntry slot (context.side entry key) with
    | none => planEntriesFrom context operations directoryOperations rest
    | some planned =>
      let operation := applyAutomationPolicy context.automationPolicy planned
      let directoryOperations' :=
        if operation.operationType = .createDirectory && operation.riskLevel ≠ .blocked then
          (key, operation.operationId) :: directoryOperations
        else directoryOperations
      planEntriesFrom context (operations ++ [operation]) directoryOperations' rest

def nearestDirectory (targetCaseMode : String) (sourceEntries : List (String × SnapshotFileEntry))
    (directoryOperations : List (String × String)) (operationId : String) :
    Nat → Option String → Option PlanDependency
  | 0, _ | _ + 1, none => none
  | fuel + 1, some parentKey =>
    match (directoryOperations.lookup parentKey).filter (· ≠ operationId) with
    | some parentOperationId => some ⟨parentOperationId, operationId⟩
    | none => nearestDirectory targetCaseMode sourceEntries directoryOperations operationId fuel
        ((sourceEntries.lookup parentKey).bind fun parent =>
          parentComparisonKey folding parent.relativePath targetCaseMode)

def directoryDependencies (sourceEntries : List (String × SnapshotFileEntry))
    (operations : List PlanOperation) (directoryOperations : List (String × String))
    (targetCaseMode : String) : List PlanDependency :=
  (operations.filterMap fun operation => operation.targetRelativePath.bind fun path =>
    nearestDirectory folding targetCaseMode sourceEntries directoryOperations
      operation.operationId (components path).length
      (parentComparisonKey folding path targetCaseMode)).dedup.insertionSort dependencyOrder

def planTarget (planId : String) (source target : InitialBackupPlanningEndpoint)
    (firstSequenceNo : Int) (automationPolicy : AutomationPolicy) :
    Except PlanningRaised (List PlanOperation × List PlanDependency) := do
  if !(["CASE_SENSITIVE", "CASE_INSENSITIVE"].contains target.rootCaseMode) then
    .error (.initialBackup "INITIAL_BACKUP_PLAN_TARGET_CASE_CONTEXT_UNKNOWN"
      "Refresh the target snapshot case evidence before planning changes.")
  let sourceEntries ← entriesByComparisonKey folding source.entries "SOURCE" target.rootCaseMode
  let targetEntries ← entriesByComparisonKey folding target.entries "TARGET" target.rootCaseMode
  let sourceHashEvidence ← hashEvidenceByEntryId source
  let targetHashEvidence ← hashEvidenceByEntryId target
  let context : TargetContext := {
    planId, source, target, firstSequenceNo, automationPolicy, targetEntries,
    sourceHashEvidence, targetHashEvidence }
  let (operations, directoryOperations) ←
    planEntriesFrom folding context [] [] (source.entries.insertionSort entryOrder)
  return (operations, directoryDependencies folding sourceEntries operations directoryOperations
    target.rootCaseMode)

def planEndpoint (endpoint : InitialBackupPlanningEndpoint) (plannedOperations : Int := 0)
    (plannedBytes : Int := 0) : PlanEndpoint where
  endpointId := endpoint.endpointId
  endpointRevisionId := endpoint.endpointRevisionId
  endpointGeneration := endpoint.endpointGeneration
  snapshotId := endpoint.snapshotId
  role := endpoint.role
  capabilitiesHash := endpoint.capabilitiesHash
  rootCaseContextHash := endpoint.rootCaseContextHash
  targetOrdinal := endpoint.targetOrdinal
  requiredOwnerInstallationId := endpoint.requiredOwnerInstallationId
  requiredOwnershipEpoch := endpoint.requiredOwnershipEpoch
  controlSchemaVersion := endpoint.controlSchemaVersion
  plannedOperations
  plannedBytes

def planTargetsFrom (planId : String) (source : InitialBackupPlanningEndpoint)
    (automationPolicy : AutomationPolicy) :
    List PlanOperation → List PlanDependency → List PlanEndpoint →
      List InitialBackupPlanningEndpoint →
      Except PlanningRaised (List PlanOperation × List PlanDependency × List PlanEndpoint)
  | operations, dependencies, endpoints, [] => .ok (operations, dependencies, endpoints)
  | operations, dependencies, endpoints, target :: rest => do
    let (targetOperations, targetDependencies) ←
      planTarget folding planId source target (operations.length + 1) automationPolicy
    let mutating := targetOperations.filter fun operation =>
      operation.mutating && operation.riskLevel ≠ .blocked
    planTargetsFrom planId source automationPolicy (operations ++ targetOperations)
      (dependencies ++ targetDependencies)
      (endpoints ++ [planEndpoint target mutating.length
        (mutating.map PlanOperation.plannedBytes).sum]) rest

/-- The arguments of `build_initial_backup_plan`. -/
structure InitialBackupPlanRequest where
  planId : String
  analysisId : String
  jobId : String
  jobRevisionId : String
  endpoints : List InitialBackupPlanningEndpoint
  automationPolicy : AutomationPolicy := .newFilesOnly

def PlanRecord.highestRisk (plan : PlanRecord) : Option String :=
  match Json.get plan.riskSummary.fields "highest" with
  | some (.str highest) => some highest
  | _ => none

def sealedBuild (plan : PlanRecord) : InitialBackupPlanBuild :=
  let blocked : Bool := plan.highestRisk = some RiskLevel.blocked.value
  { plan := some plan
    state := "SEALED"
    reasonCode :=
      if blocked then "INITIAL_BACKUP_PLAN_BLOCKED" else "INITIAL_BACKUP_PLAN_READY_FOR_REVIEW"
    nextAction :=
      if blocked then "Resolve blocked path or type conflicts and refresh the analysis."
      else "Review the sealed change plan before starting the backup." }

def buildInitialBackupPlan (interpreter : Interpreter) (request : InitialBackupPlanRequest) :
    Except PlanningRaised InitialBackupPlanBuild :=
  match request.endpoints.filter (·.role = .source) with
  | [source] =>
    let targets := request.endpoints.filter (·.role = .targetWritable)
    if targets.isEmpty then
      .error (.initialBackup "INITIAL_BACKUP_PLAN_REQUIRES_WRITABLE_TARGET"
        "Add and register at least one writable target before planning changes.")
    else do
      let (operations, dependencies, endpoints) ←
        planTargetsFrom folding request.planId source request.automationPolicy [] []
          [planEndpoint source] (targets.insertionSort targetOrder)
      if operations.isEmpty then
        return {
          plan := none
          state := "NO_CHANGES"
          reasonCode := "INITIAL_BACKUP_PLAN_NO_CHANGES"
          nextAction := "The source and target directory structures require no changes." }
      match sealPlan interpreter {
          planId := request.planId
          analysisId := request.analysisId
          jobId := request.jobId
          jobRevisionId := request.jobRevisionId
          endpoints, operations, dependencies
          executionPolicy := policyValue request.automationPolicy } with
      | .ok plan => return sealedBuild plan
      | .error code => .error (.planSeal code)
  | _ => .error (.initialBackup "INITIAL_BACKUP_PLAN_REQUIRES_SINGLE_SOURCE"
      "Refresh the source snapshot before planning changes.")

end

end MediaSync.Plans
