import MediaSync.Recovery.DirectoryStore
import MediaSync.Recovery.EventChain

/-! Each mutator of the two recovery stores begins a transaction when none is open, and rolls it
back in the handlers of its own error class and of the database errors. -/
namespace MediaSync.Recovery
open Text

def DirectoryRaised.asRaised : DirectoryRaised → Raised
  | .storeError code => .storeError code
  | .violation code => .violation code
  | .valueError => .violation DirectoryRaised.valueError.code

inductive Mutation where
  | operation (call : Call)
  | directory (call : DirectoryCall)

def attachedDirectories (py : PythonLibrary) (attached : Bool) :
    Option (DirectoryRecoveryStore DirectoryTables) :=
  if attached then some (sqliteDirectoryRecoveryStore py) else none

section
variable (py : PythonLibrary) (attached : Bool)

def Mutation.precheck : Mutation → Except Raised Unit
  | .operation call => call.precheck py
  | .directory call =>
    match call.precheck py with
    | .ok () => .ok ()
    | .error raised => .error raised.asRaised

/-- The statements of a call none of whose numbers is too large to be written. -/
def Mutation.bounded : Mutation → Body DirectoryTables Bool
  | .operation call => fun t =>
    let ended := call.body py (attachedDirectories py attached) t
    (ended.1.map Option.isSome, ended.2)
  | .directory call => fun t =>
    match call.body py t.directories with
    | (.ok value, directories) => (.ok value.isSome, { t with directories })
    | (.error raised, directories) => (.error raised.asRaised, { t with directories })

/-- A call none of whose numbers is too large to be written. -/
def Mutation.performBounded (mutation : Mutation) (c : Connection DirectoryTables) :
    Except Raised Bool × Connection DirectoryTables :=
  match mutation.precheck py with
  | .error raised => (.error raised, c)
  | .ok () => c.execute (mutation.bounded py attached)

def RecoveryOperation.numbers (operation : RecoveryOperation) : List Int :=
  [operation.endpointGeneration, operation.ownershipEpoch, operation.fencingToken,
    operation.planSequenceNo, operation.plannedBytes, operation.stagingFailureCount] ++
    operation.intentOrdinal.toList ++ operation.stagingRetryBackoffMs.toList

/-- What an operation call is about to write: the row, whether the constraints of its table
admit it, and the tables with the row and its event. -/
structure PendingWrite where
  row : RecoveryOperation
  accepted : Bool
  written : Tables DirectoryTables

def RowChange.pendingWrite (change : RowChange DirectoryTables) (t : Tables DirectoryTables) :
    Option PendingWrite :=
  match t.loadOperation change.runId change.operationId with
  | none => none
  | some operation =>
    match change.expects operation, change.row operation with
    | true, .ok updated =>
      let written := t.recordChange operation updated change.processInstanceId
        (change.payload updated)
      match change.refusal t updated with
      | none => some ⟨updated, true, written⟩
      | some code =>
        -- the other refusals come before the statement that writes the row
        if code = "RECOVERY_OPERATION_PERSISTENCE_CONFLICT" then some ⟨updated, false, written⟩
        else none
    | _, _ => none

def Call.pendingWrite (t : Tables DirectoryTables) : Call → Option PendingWrite
  | .recordPlannedOperation operation processInstanceId payload =>
    if (t.loadOperation operation.runId operation.operationId).isNone &&
        t.activeMatchingLease operation then
      some ⟨operation, t.acceptsRow operation, t.insertPlanned operation processInstanceId payload⟩
    else none
  | call => (call.rowChange py (attachedDirectories py attached)).bind fun change =>
      change.pendingWrite t

/-- The row is bound before its constraints are checked; its event is written out afterwards. -/
def PendingWrite.overflow (write : PendingWrite) (t : Tables DirectoryTables) :
    Option (String × Tables DirectoryTables) :=
  if !write.row.numbers.all Table.fitsColumn then some ("OverflowError", t)
  else if write.accepted &&
      write.written.events.getLast?.any (fun event => !Json.digitsFitFields event.payload) then
    some ("ValueError", { t with operations := write.written.operations })
  else none

def DirectoryCall.overflow (t : DirectoryTables) : DirectoryCall → Option (String × DirectoryTables)
  | .record operation _ payload =>
    if (t.row operation.recoveryId).isSome then none
    else if !Table.fitsColumn operation.ownershipEpoch then some ("OverflowError", t)
    else if t.acceptsRow operation && !Json.digitsFitFields (payload.getD []) then
      some ("DIRECTORY_RECOVERY_PAYLOAD_INVALID",
        { t with operations := Table.insert t.operations operation })
    else none
  | .transition requested =>
    match t.load py requested.recoveryId with
    | .ok (some row) =>
      if (row.state == requested.nextState || row.state == requested.expectedState) &&
          !Json.digitsFitFields requested.payload then
        some ("DIRECTORY_RECOVERY_PAYLOAD_INVALID", t)
      else none
    | _ => none

/-- The error and the tables of a call that meets a number too large for its column, or too long
for the decimal text of its event. -/
def Mutation.overflow (t : Tables DirectoryTables) :
    Mutation → Option (String × Tables DirectoryTables)
  | .operation call => (call.pendingWrite py attached t).bind fun write => write.overflow t
  | .directory call => (call.overflow py t.directories).map fun (code, directories) =>
      (code, { t with directories })

def Mutation.statements (mutation : Mutation) : Body DirectoryTables Bool := fun t =>
  match mutation.overflow py attached t with
  | some (code, stopped) => (.error (.violation code), stopped)
  | none => mutation.bounded py attached t

def Mutation.perform (mutation : Mutation) (c : Connection DirectoryTables) :
    Except Raised Bool × Connection DirectoryTables :=
  match mutation.precheck py with
  | .error raised => (.error raised, c)
  | .ok () => c.execute (mutation.statements py attached)

def idle (t : Tables DirectoryTables) : Connection DirectoryTables := ⟨t, t, false⟩

def transitionRow (moved : RecoveryOperation) (args : TransitionArgs) : RecoveryOperation :=
  { moved with
    stagingRetryBackoffMs := none, stagingRetryNotBeforeUtc := none }.withMetadata
      args.operationMetadata

def RecordRefused (t : DirectoryTables) (operation : DirectoryRecoveryOperation)
    (processInstanceId : String) : Prop :=
  ¬ ValidDirectory py operation ∨ trimmed processInstanceId = false ∨
    (∃ row, t.row operation.recoveryId = some row ∧
      (¬ ValidDirectory py row ∨ row.immutableSignature ≠ operation.immutableSignature)) ∨
    (t.row operation.recoveryId = none ∧
      (t.acceptsRow operation = false ∨ t.hasEvent operation.recoveryId 1 = true))

def CatalogRefused (t : DirectoryTables) (kind : DirectoryRecoveryKind)
    (operation : RecoveryOperation) (processInstanceId : String) (payload : Option Payload) :
    Prop :=
  ∃ row, t.row (directoryRecoveryId operation.runId operation.operationId kind) = some row ∧
    (¬ ValidDirectory py row ∨
      (row.state = kind.verifiedState ∧
        (trimmed processInstanceId = false ∨
          validateDirectoryRecoveryTransition py row
            (catalogTerminalTransition kind operation processInstanceId payload) ≠ .ok () ∨
          t.hasEvent row.recoveryId (row.eventSequence + 1) = true)))

/-- The calls whose early checks pass and whose error is then not one that the handlers catch,
whatever the numbers are. -/
def Escapes (t : Tables DirectoryTables) : Mutation → Prop
  | .operation (.recordPlannedOperation operation processInstanceId payload) =>
    (Call.recordPlannedOperation operation processInstanceId payload).precheck py = .ok () ∧
      attached = true ∧
      (t.loadOperation operation.runId operation.operationId = some operation ∨
        (t.loadOperation operation.runId operation.operationId = none ∧
          t.activeMatchingLease operation = true ∧ t.acceptsRow operation = true)) ∧
      ∃ kind, directoryKind operation = some kind ∧
        RecordRefused py t.directories (plannedDirectoryRecoveryOperation kind operation)
          processInstanceId
  | .operation (.recordOperationPhaseTransition args) =>
    (Call.recordOperationPhaseTransition args).precheck py = .ok () ∧
      ∃ operation moved, t.loadOperation args.runId args.operationId = some operation ∧
        operation.phase = args.expectedPhase ∧ operationInPhase operation args = .ok moved ∧
        (validateRecoveryOperation py (transitionRow moved args) ≠ .ok () ∨
          (attached = true ∧ args.nextPhase = .catalogRecorded ∧
            t.activeMatchingLease (transitionRow moved args) = true ∧
            t.acceptsRow (transitionRow moved args) = true ∧
            ∃ kind, directoryKind (transitionRow moved args) = some kind ∧
              CatalogRefused py t.directories kind (transitionRow moved args)
                args.processInstanceId args.payload))
  | .operation (.recordStagingFailure args) =>
    (Call.recordStagingFailure args).precheck py = .ok () ∧
      ¬ (args.nextPhase = args.expectedPhase ∧ args.plannedRetry = none) ∧
      ∃ operation, t.loadOperation args.runId args.operationId = some operation ∧
        operation.phase = args.expectedPhase ∧
        operation.stagingFailureCount = args.expectedFailureCount ∧
        validateRecoveryOperation py (stagingFailureRow operation args) ≠ .ok ()
  | .operation (.recordOperationLeaseRebound expectedPhase args) =>
    (Call.recordOperationLeaseRebound expectedPhase args).precheck py = .ok () ∧
      ∃ operation, t.loadOperation args.runId args.operationId = some operation ∧
        operation.phase = expectedPhase ∧ expectedLease operation args = true ∧
        validateRecoveryOperation py (underLease operation args) ≠ .ok ()
  | .operation (.recordCommitIntentRefreshed args) =>
    (Call.recordCommitIntentRefreshed args).precheck py = .ok () ∧
      ∃ operation, t.loadOperation args.runId args.operationId = some operation ∧
        operation.phase = .commitIntentRecorded ∧
        expectedLease operation args.toRebindArgs = true ∧
        validateRecoveryOperation py (refreshedRow operation args) ≠ .ok ()
  | .operation (.recordOldTargetPreservedCommitIntentRefreshed args) =>
    (Call.recordOldTargetPreservedCommitIntentRefreshed args).precheck py = .ok () ∧
      ∃ operation, t.loadOperation args.runId args.operationId = some operation ∧
        operation.phase = .oldTargetPreserved ∧
        expectedLease operation args.toRebindArgs = true ∧
        validateRecoveryOperation py (refreshedRow operation args) ≠ .ok ()
  | .directory (.record operation processInstanceId payload) =>
    recordDirectoryPrecheck py operation processInstanceId = .ok () ∧
      ((∃ row, t.directories.row operation.recoveryId = some row ∧ ¬ ValidDirectory py row) ∨
        (t.directories.row operation.recoveryId = none ∧
          t.directories.acceptsRow operation = true ∧
          Json.finiteFields (payload.getD []) = false))
  | .directory (.transition requested) =>
    trimmed requested.processInstanceId = true ∧
      ∃ row, t.directories.row requested.recoveryId = some row ∧
        (¬ ValidDirectory py row ∨
          (row.state = requested.nextState ∧
            validateDirectoryRecoveryTransition py
              { row with state := requested.expectedState } requested ≠ .ok ()) ∨
          (row.state ≠ requested.nextState ∧ row.state = requested.expectedState ∧
            validateDirectoryRecoveryTransition py row requested ≠ .ok ()))

/-- The calls whose early checks pass and that meet a number which is not written. -/
def Overflows (t : Tables DirectoryTables) (mutation : Mutation) : Prop :=
  mutation.precheck py = .ok () ∧
    match mutation with
    | .operation call => ∃ write, call.pendingWrite py attached t = some write ∧
        (write.row.numbers.all Table.fitsColumn = false ∨
          (write.accepted = true ∧ ∃ event, write.written.events.getLast? = some event ∧
            Json.digitsFitFields event.payload = false))
    | .directory (.record operation _ payload) =>
      t.directories.row operation.recoveryId = none ∧
        (Table.fitsColumn operation.ownershipEpoch = false ∨
          (t.directories.acceptsRow operation = true ∧
            Json.digitsFitFields (payload.getD []) = false))
    | .directory (.transition requested) =>
      ∃ row, t.directories.load py requested.recoveryId = .ok (some row) ∧
        (row.state = requested.nextState ∨ row.state = requested.expectedState) ∧
        Json.digitsFitFields requested.payload = false

variable {py attached}

def Raised.caught : Raised → Bool
  | .storeError _ => true
  | _ => false

variable {mutation : Mutation} {t : Tables DirectoryTables}

variable {change : RowChange DirectoryTables}

variable {operation : RecoveryOperation}

variable {args : TransitionArgs}

variable {kind : DirectoryRecoveryKind} {processInstanceId : String}

variable {payload : Option Payload}

end

def plannedTables : Tables DirectoryTables where
  operations := [sampleOperation]
  leases := [{
    leaseId := "lease-a", resourceKey := "endpoint:target-a", ownershipEpoch := 1
    fencingToken := 1, ownerInstanceId := "owner-a", runId := "run-a"
    runTargetId := "run-a-target-0000", endpointId := "target-a", endpointGeneration := some 1
    state := .acquired }]
  directories := {}

end MediaSync.Recovery
