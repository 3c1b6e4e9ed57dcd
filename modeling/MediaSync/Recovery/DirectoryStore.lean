import MediaSync.Recovery.OperationStore

/-! The two public mutators of the SQLite directory recovery store, and the store as the operation
store calls it inside its own transactions. -/
namespace MediaSync.Recovery
open Text

structure DirectoryRecoveryEvent where
  recoveryId : String
  eventSequence : Int
  fromState : Option DirectoryRecoveryState
  toState : DirectoryRecoveryState
  processInstanceId : String
  payloadJson : String
  previousEventHash : Option String
  eventHash : String
  deriving DecidableEq

structure DirectoryTables where
  operations : List DirectoryRecoveryOperation := []
  events : List DirectoryRecoveryEvent := []
  deriving DecidableEq

abbrev DirectoryBody (α : Type) := DirectoryTables → Except DirectoryRaised α × DirectoryTables

namespace DirectoryTables

variable (py : PythonLibrary) (t : DirectoryTables)

def row (recoveryId : String) : Option DirectoryRecoveryOperation :=
  Table.lookup DirectoryRecoveryOperation.recoveryId t.operations recoveryId

/-- `load_directory_recovery_operation`, which validates the row it reads. -/
def load (recoveryId : String) : Except DirectoryRaised (Option DirectoryRecoveryOperation) :=
  match t.row recoveryId with
  | none => .ok none
  | some operation =>
    match validateDirectoryRecoveryOperation py operation with
    | .ok () => .ok (some operation)
    | .error raised => .error raised

/-- `_event_hash` of the directory store. -/
def eventHash (recoveryId : String) (eventSequence : Int)
    (fromState : Option DirectoryRecoveryState)
    (toState : DirectoryRecoveryState) (processInstanceId payloadJson : String)
    (previousEventHash : Option String) : String :=
  Sha256.hexdigest (Json.dump (.obj [("event_sequence", .int eventSequence),
    ("from_state", (fromState.map fun state => Json.str state.value).getD .null),
    ("payload_json", .str payloadJson),
    ("previous_event_hash", (previousEventHash.map Json.str).getD .null),
    ("process_instance_id", .str processInstanceId), ("recovery_id", .str recoveryId),
    ("schema_version", .int 1), ("to_state", .str toState.value)]))

/-- The primary key of `directory_recovery_events`. -/
def hasEvent (recoveryId : String) (eventSequence : Int) : Bool :=
  t.events.any fun event => event.recoveryId == recoveryId && event.eventSequence == eventSequence

/-- The event that follows `operation`'s last one. -/
def nextEvent (operation : DirectoryRecoveryOperation) (fromState : Option DirectoryRecoveryState)
    (toState : DirectoryRecoveryState) (processInstanceId payloadJson : String) :
    DirectoryRecoveryEvent where
  recoveryId := operation.recoveryId
  eventSequence := operation.eventSequence + 1
  fromState := fromState
  toState := toState
  processInstanceId := processInstanceId
  payloadJson := payloadJson
  previousEventHash := operation.eventHash
  eventHash := eventHash operation.recoveryId (operation.eventSequence + 1) fromState toState
    processInstanceId payloadJson operation.eventHash

/-- The constraints of `directory_recovery_operations` that a validated new row can still break:
one lifecycle of a kind for each operation, and a path that is not only spaces. -/
def acceptsRow (operation : DirectoryRecoveryOperation) : Bool :=
  (t.operations.all fun other => !(other.runId == operation.runId &&
    other.operationId == operation.operationId && other.kind == operation.kind)) &&
    operation.finalRelativePath.toList.any fun c => c != ' '

def write (operation : DirectoryRecoveryOperation) (event : DirectoryRecoveryEvent) :
    DirectoryTables where
  operations := Table.overwrite DirectoryRecoveryOperation.recoveryId t.operations operation
  events := t.events ++ [event]

end DirectoryTables

def DirectoryRecoveryOperation.immutableSignature (operation : DirectoryRecoveryOperation) :
    DirectoryRecoveryOperation :=
  { operation with
    state := .directoryPlanned
    managedObjectId := none
    lastErrorCode := none
    eventSequence := 0
    eventHash := none
    rowVersion := 1 }

/-- The checks of `record_directory_recovery_operation` before its transaction. -/
def recordDirectoryPrecheck (py : PythonLibrary) (operation : DirectoryRecoveryOperation)
    (processInstanceId : String) : Except DirectoryRaised Unit := do
  validateDirectoryRecoveryOperation py operation
  if !trimmed processInstanceId then
    .error (.storeError "DIRECTORY_RECOVERY_PROCESS_INSTANCE_INVALID")
  else if operation.state != operation.kind.initialState || operation.eventSequence != 0 ||
      operation.eventHash.isSome || operation.rowVersion != 1 ||
      operation.managedObjectId.isSome || operation.lastErrorCode.isSome then
    .error (.storeError "DIRECTORY_RECOVERY_INSERT_STATE_INVALID")
  else pure ()

/-- `record_directory_recovery_operation`, inside its transaction. -/
def recordDirectoryBody (py : PythonLibrary) (operation : DirectoryRecoveryOperation)
    (processInstanceId : String) (payload : Option Payload) :
    DirectoryBody (Option DirectoryRecoveryOperation) := fun t =>
  match t.load py operation.recoveryId with
  | .error raised => (.error raised, t)
  | .ok (some existing) =>
    if existing.immutableSignature ≠ operation.immutableSignature then
      (.error (.storeError "DIRECTORY_RECOVERY_IDEMPOTENCY_CONFLICT"), t)
    else (.ok (some existing), t)
  | .ok none =>
    if !t.acceptsRow operation then
      (.error (.storeError "DIRECTORY_RECOVERY_PERSISTENCE_CONFLICT"), t)
    else
      -- the payload is written out only after the row is in the table
      let inserted := { t with operations := Table.insert t.operations operation }
      match canonicalDirectoryRecoveryPayload (payload.getD []) with
      | .error raised => (.error raised, inserted)
      | .ok payloadJson =>
        let event := DirectoryTables.nextEvent operation none operation.state processInstanceId
          payloadJson
        if inserted.hasEvent operation.recoveryId 1 then
          (.error (.storeError "DIRECTORY_RECOVERY_PERSISTENCE_CONFLICT"), inserted)
        else
          let recorded := { operation with eventSequence := 1, eventHash := some event.eventHash }
          let t' := inserted.write recorded event
          match t'.load py operation.recoveryId with
          | .error raised => (.error raised, t')
          | .ok none => (.error (.storeError "DIRECTORY_RECOVERY_LOAD_FAILED"), t')
          | .ok (some loaded) => (.ok (some loaded), t')

/-- `_validate_replay_evidence`, as a test. -/
def replayEvidenceFits (persisted requested : Option String) : Bool :=
  requested.all fun value => persisted == some (strip value)

/-- `_normalized_optional_evidence` over the stored value. -/
def normalizedEvidence (persisted requested : Option String) :
    Except DirectoryRaised (Option String) :=
  match requested with
  | none => .ok persisted
  | some value =>
    if trimmed value then .ok (some value)
    else .error (.storeError "DIRECTORY_RECOVERY_EVIDENCE_INVALID")

def transitionedRow (current : DirectoryRecoveryOperation)
    (transition : DirectoryRecoveryTransition) (event : DirectoryRecoveryEvent)
    (managedObjectId lastErrorCode : Option String) : DirectoryRecoveryOperation :=
  { current with
    state := transition.nextState
    managedObjectId := managedObjectId
    lastErrorCode := lastErrorCode
    eventSequence := current.eventSequence + 1
    eventHash := some event.eventHash
    rowVersion := current.rowVersion + 1 }

def advanceDirectoryBody (py : PythonLibrary) (current : DirectoryRecoveryOperation)
    (transition : DirectoryRecoveryTransition) :
    DirectoryBody (Option DirectoryRecoveryOperation) := fun t =>
  match validateDirectoryRecoveryTransition py current transition with
  | .error raised => (.error raised, t)
  | .ok () =>
    match normalizedEvidence current.managedObjectId transition.managedObjectId,
        normalizedEvidence current.lastErrorCode transition.lastErrorCode,
        canonicalDirectoryRecoveryPayload transition.payload with
    | .ok managedObjectId, .ok lastErrorCode, .ok payloadJson =>
      let event := DirectoryTables.nextEvent current (some current.state) transition.nextState
        transition.processInstanceId payloadJson
      if t.hasEvent current.recoveryId (current.eventSequence + 1) then
        (.error (.storeError "DIRECTORY_RECOVERY_TRANSITION_CONFLICT"), t)
      else
        let t' := t.write (transitionedRow current transition event managedObjectId lastErrorCode)
          event
        match t'.load py current.recoveryId with
        | .error raised => (.error raised, t')
        | .ok none => (.error (.storeError "DIRECTORY_RECOVERY_LOAD_FAILED"), t')
        | .ok (some updated) => (.ok (some updated), t')
    | .error raised, _, _ => (.error raised, t)
    | _, .error raised, _ => (.error raised, t)
    | _, _, .error raised => (.error raised, t)

/-- `transition_directory_recovery_operation`, inside its transaction. -/
def transitionDirectoryBody (py : PythonLibrary) (transition : DirectoryRecoveryTransition) :
    DirectoryBody (Option DirectoryRecoveryOperation) := fun t =>
  match t.load py transition.recoveryId with
  | .error raised => (.error raised, t)
  | .ok none => (.ok none, t)
  | .ok (some current) =>
    if current.state = transition.nextState then
      match validateDirectoryRecoveryTransition py
          { current with state := transition.expectedState } transition with
      | .error raised => (.error raised, t)
      | .ok () =>
        if replayEvidenceFits current.managedObjectId transition.managedObjectId &&
            replayEvidenceFits current.lastErrorCode transition.lastErrorCode then
          (.ok (some current), t)
        else (.error (.storeError "DIRECTORY_RECOVERY_REPLAY_EVIDENCE_CONFLICT"), t)
    else if current.state ≠ transition.expectedState then (.ok none, t)
    else advanceDirectoryBody py current transition t

/-- The check of `transition_directory_recovery_operation` before its transaction. -/
def transitionDirectoryPrecheck (transition : DirectoryRecoveryTransition) :
    Except DirectoryRaised Unit :=
  if trimmed transition.processInstanceId then .ok ()
  else .error (.storeError "DIRECTORY_RECOVERY_PROCESS_INSTANCE_INVALID")

inductive DirectoryCall where
  | record (operation : DirectoryRecoveryOperation) (processInstanceId : String)
      (payload : Option Payload)
  | transition (requested : DirectoryRecoveryTransition)

def DirectoryCall.precheck (py : PythonLibrary) : DirectoryCall → Except DirectoryRaised Unit
  | .record operation processInstanceId _ => recordDirectoryPrecheck py operation processInstanceId
  | .transition requested => transitionDirectoryPrecheck requested

def DirectoryCall.body (py : PythonLibrary) :
    DirectoryCall → DirectoryBody (Option DirectoryRecoveryOperation)
  | .record operation processInstanceId payload =>
    recordDirectoryBody py operation processInstanceId payload
  | .transition requested => transitionDirectoryBody py requested

def DirectoryCall.perform (py : PythonLibrary) (call : DirectoryCall) :
    DirectoryBody (Option DirectoryRecoveryOperation) := fun t =>
  match call.precheck py with
  | .error raised => (.error raised, t)
  | .ok () => call.body py t

section
variable {py : PythonLibrary} {t : DirectoryTables}

variable {recoveryId : String} {operation : DirectoryRecoveryOperation}

theorem DirectoryTables.load_valid (hrow : t.row recoveryId = some operation)
    (hvalid : ValidDirectory py operation) : t.load py recoveryId = .ok (some operation) := by
  rw [DirectoryTables.load, hrow]
  simp only [validateDirectoryRecoveryOperation_iff.mpr hvalid]

theorem DirectoryTables.row_write {old : DirectoryRecoveryOperation}
    (hrow : t.row recoveryId = some old) (operation : DirectoryRecoveryOperation)
    (event : DirectoryRecoveryEvent) (hid : operation.recoveryId = recoveryId) :
    (t.write operation event).row recoveryId = some operation := by
  subst hid
  exact Table.lookup_overwrite_self hrow

theorem DirectoryTables.nextEvent_hash (operation : DirectoryRecoveryOperation)
    (fromState : Option DirectoryRecoveryState) (toState : DirectoryRecoveryState)
    (processInstanceId payloadJson : String) :
    isHash (DirectoryTables.nextEvent operation fromState toState processInstanceId
      payloadJson).eventHash = true := Sha256.isHash_hexdigest _

theorem ValidDirectory.recorded (h : ValidDirectory py operation) (hash : String)
    (hhash : isHash hash = true) :
    ValidDirectory py { operation with eventSequence := 1, eventHash := some hash } :=
  { h with
    sequence := by
      show (0 : Int) ≤ 1
      decide
    paired := by simp
    hashed := hhash }

variable {persisted requested stored : Option String}

theorem normalizedEvidence_all (h : normalizedEvidence persisted requested = .ok stored)
    (hpersisted : persisted.all trimmed = true) : stored.all trimmed = true := by
  unfold normalizedEvidence at h
  split at h
  · cases h
    exact hpersisted
  · split at h
    · rename_i htrimmed
      cases h
      exact htrimmed
    · cases h

theorem normalizedEvidence_any (h : normalizedEvidence persisted requested = .ok stored)
    (hrequested : requested.any trimmed = true) : stored.any trimmed = true := by
  unfold normalizedEvidence at h
  split at h
  · cases hrequested
  · split at h
    · rename_i htrimmed
      cases h
      exact htrimmed
    · cases h

variable {transition : DirectoryRecoveryTransition}

theorem ValidDirectory.transitioned {current : DirectoryRecoveryOperation}
    {event : DirectoryRecoveryEvent} {managedObjectId lastErrorCode : Option String}
    (hvalid : validateDirectoryRecoveryTransition py current transition = .ok ())
    (hmanaged : normalizedEvidence current.managedObjectId transition.managedObjectId =
      .ok managedObjectId)
    (herror : normalizedEvidence current.lastErrorCode transition.lastErrorCode =
      .ok lastErrorCode) (hhash : isHash event.eventHash = true) :
    ValidDirectory py (transitionedRow current transition event managedObjectId lastErrorCode) := by
  obtain ⟨h, -, hnext⟩ := validateDirectoryRecoveryTransition_ok hvalid
  have hsequence := h.sequence
  have hversion := h.version
  have hstate : transition.nextState ∈ current.kind.conflictState :: current.kind.successPath := by
    rcases hnext with ⟨hconflict, -⟩ | hadvances
    · rw [hconflict]
      exact List.mem_cons_self
    · exact List.mem_cons_of_mem _ (DirectoryRecoveryKind.advances_mem hadvances)
  refine { h with state := ?_, conflict := ?_, managed := ?_, sequence := ?_, version := ?_,
                  paired := ?_, hashed := hhash }
  · exact List.any_eq_true.mpr ⟨_, hstate, beq_self_eq_true _⟩
  · intro hconflict
    rcases hnext with ⟨-, hcode⟩ | hadvances
    · exact normalizedEvidence_any herror hcode
    · have hmem := DirectoryRecoveryKind.advances_mem hadvances
      rw [show transition.nextState = current.kind.conflictState from hconflict] at hmem
      exact absurd hmem current.kind.conflictState_notMem
  · exact normalizedEvidence_all hmanaged h.managed
  · show 0 ≤ current.eventSequence + 1
    omega
  · show 1 ≤ current.rowVersion + 1
    omega
  · show current.eventSequence + 1 = 0 ↔ some event.eventHash = none
    simp only [reduceCtorEq, iff_false]
    omega

inductive RecordOutcome (py : PythonLibrary) (operation : DirectoryRecoveryOperation)
    (payload : Option Payload) (t : DirectoryTables) :
    Except DirectoryRaised (Option DirectoryRecoveryOperation) × DirectoryTables → Prop
  | invalidRow (row : DirectoryRecoveryOperation) (raised : DirectoryRaised)
      (hrow : t.row operation.recoveryId = some row)
      (hinvalid : validateDirectoryRecoveryOperation py row = .error raised) :
      RecordOutcome py operation payload t (.error raised, t)
  | clash (row : DirectoryRecoveryOperation) (hrow : t.row operation.recoveryId = some row)
      (hvalid : ValidDirectory py row)
      (hne : row.immutableSignature ≠ operation.immutableSignature) (code : String) :
      RecordOutcome py operation payload t (.error (.storeError code), t)
  | existing (row : DirectoryRecoveryOperation) (hrow : t.row operation.recoveryId = some row)
      (hvalid : ValidDirectory py row)
      (heq : row.immutableSignature = operation.immutableSignature) :
      RecordOutcome py operation payload t (.ok (some row), t)
  | refused (hnone : t.row operation.recoveryId = none)
      (haccepts : t.acceptsRow operation = false) (code : String) :
      RecordOutcome py operation payload t (.error (.storeError code), t)
  | unwritable (hnone : t.row operation.recoveryId = none)
      (haccepts : t.acceptsRow operation = true)
      (hfinite : Json.finiteFields (payload.getD []) = false) (code : String)
      (t' : DirectoryTables) : RecordOutcome py operation payload t (.error (.violation code), t')
  | eventClash (hnone : t.row operation.recoveryId = none)
      (haccepts : t.acceptsRow operation = true)
      (hfinite : Json.finiteFields (payload.getD []) = true)
      (hevent : t.hasEvent operation.recoveryId 1 = true) (code : String) (t' : DirectoryTables) :
      RecordOutcome py operation payload t (.error (.storeError code), t')
  | recorded (hnone : t.row operation.recoveryId = none)
      (haccepts : t.acceptsRow operation = true)
      (hfinite : Json.finiteFields (payload.getD []) = true)
      (hevent : t.hasEvent operation.recoveryId 1 = false) (row : DirectoryRecoveryOperation)
      (event : DirectoryRecoveryEvent) (hid : row.recoveryId = operation.recoveryId)
      (hstate : row.state = operation.state)
      (hsignature : row.immutableSignature = operation.immutableSignature)
      (hvalid : ValidDirectory py row) :
      RecordOutcome py operation payload t (.ok (some row),
        ({ t with operations := Table.insert t.operations operation } : DirectoryTables).write row
          event)

theorem recordDirectoryBody_outcome (hoperation : ValidDirectory py operation)
    (processInstanceId : String) (payload : Option Payload) : RecordOutcome py operation payload t
      (recordDirectoryBody py operation processInstanceId payload t) := by
  unfold recordDirectoryBody
  cases hrow : t.row operation.recoveryId with
  | some row =>
    cases hvalid : validateDirectoryRecoveryOperation py row with
    | error raised =>
      have hload : t.load py operation.recoveryId = .error raised := by
        rw [DirectoryTables.load, hrow]
        simp only [hvalid]
      rw [hload]
      exact .invalidRow row raised hrow hvalid
    | ok _ =>
      have hvalid := validateDirectoryRecoveryOperation_iff.mp hvalid
      rw [DirectoryTables.load_valid hrow hvalid]
      dsimp only
      split
      · rename_i hne
        exact .clash row hrow hvalid hne _
      · rename_i heq
        exact .existing row hrow hvalid (not_not.mp heq)
  | none =>
    have hload : t.load py operation.recoveryId = .ok none := by
      rw [DirectoryTables.load, hrow]
    rw [hload]
    dsimp only
    split
    · rename_i haccepts
      exact .refused hrow (by simpa using haccepts) _
    · rename_i haccepts
      have haccepts : t.acceptsRow operation = true := by simpa using haccepts
      cases hfinite : Json.finiteFields (payload.getD []) with
      | false =>
        have hpayload : canonicalDirectoryRecoveryPayload (payload.getD []) =
            .error (.violation "DIRECTORY_RECOVERY_PAYLOAD_INVALID") := by
          rw [canonicalDirectoryRecoveryPayload, hfinite]
          rfl
        rw [hpayload]
        exact .unwritable hrow haccepts hfinite _ _
      | true =>
        have hpayload : canonicalDirectoryRecoveryPayload (payload.getD []) =
            .ok (Json.dump (.obj (payload.getD []))) := by
          rw [canonicalDirectoryRecoveryPayload, hfinite]
          rfl
        rw [hpayload]
        dsimp only
        split
        · rename_i hevent
          exact .eventClash hrow haccepts hfinite hevent _ _
        · rename_i hevent
          have hinserted : ({ t with operations := Table.insert t.operations operation } :
              DirectoryTables).row operation.recoveryId = some operation :=
            Table.lookup_insert_self hrow
          have hrecorded := hoperation.recorded _ (DirectoryTables.nextEvent_hash operation none
            operation.state processInstanceId (Json.dump (.obj (payload.getD []))))
          rw [DirectoryTables.load_valid
            (DirectoryTables.row_write hinserted _ _ (by rfl)) hrecorded]
          have hevent : t.hasEvent operation.recoveryId 1 = false := Bool.not_eq_true _ ▸ hevent
          exact .recorded hrow haccepts hfinite hevent _ _ rfl rfl rfl hrecorded

inductive TransitionOutcome (py : PythonLibrary) (transition : DirectoryRecoveryTransition)
    (t : DirectoryTables) :
    Except DirectoryRaised (Option DirectoryRecoveryOperation) × DirectoryTables → Prop
  | missing (hnone : t.row transition.recoveryId = none) :
      TransitionOutcome py transition t (.ok none, t)
  | elsewhere (row : DirectoryRecoveryOperation) (hrow : t.row transition.recoveryId = some row)
      (hvalid : ValidDirectory py row) (hnext : row.state ≠ transition.nextState)
      (hexpected : row.state ≠ transition.expectedState) :
      TransitionOutcome py transition t (.ok none, t)
  | invalidRow (row : DirectoryRecoveryOperation) (raised : DirectoryRaised)
      (hrow : t.row transition.recoveryId = some row)
      (hinvalid : validateDirectoryRecoveryOperation py row = .error raised) :
      TransitionOutcome py transition t (.error raised, t)
  | invalidReplay (row : DirectoryRecoveryOperation) (raised : DirectoryRaised)
      (hrow : t.row transition.recoveryId = some row) (hvalid : ValidDirectory py row)
      (hnext : row.state = transition.nextState)
      (hinvalid : validateDirectoryRecoveryTransition py
        { row with state := transition.expectedState } transition = .error raised) :
      TransitionOutcome py transition t (.error raised, t)
  | replayed (row : DirectoryRecoveryOperation) (hrow : t.row transition.recoveryId = some row)
      (hvalid : ValidDirectory py row) (hnext : row.state = transition.nextState)
      (htransition : validateDirectoryRecoveryTransition py
        { row with state := transition.expectedState } transition = .ok ()) :
      TransitionOutcome py transition t (.ok (some row), t)
  | replayConflict (row : DirectoryRecoveryOperation)
      (hrow : t.row transition.recoveryId = some row) (hvalid : ValidDirectory py row)
      (hnext : row.state = transition.nextState)
      (htransition : validateDirectoryRecoveryTransition py
        { row with state := transition.expectedState } transition = .ok ()) (code : String) :
      TransitionOutcome py transition t (.error (.storeError code), t)
  | invalid (row : DirectoryRecoveryOperation) (raised : DirectoryRaised)
      (hrow : t.row transition.recoveryId = some row) (hvalid : ValidDirectory py row)
      (hnext : row.state ≠ transition.nextState)
      (hexpected : row.state = transition.expectedState)
      (hinvalid : validateDirectoryRecoveryTransition py row transition = .error raised) :
      TransitionOutcome py transition t (.error raised, t)
  | refused (row : DirectoryRecoveryOperation) (hrow : t.row transition.recoveryId = some row)
      (hvalid : ValidDirectory py row) (hnext : row.state ≠ transition.nextState)
      (hexpected : row.state = transition.expectedState)
      (htransition : validateDirectoryRecoveryTransition py row transition = .ok ())
      (hwhy : transition.managedObjectId.any (fun value => !trimmed value) = true ∨
        transition.lastErrorCode.any (fun value => !trimmed value) = true ∨
        t.hasEvent row.recoveryId (row.eventSequence + 1) = true) (code : String) :
      TransitionOutcome py transition t (.error (.storeError code), t)
  | moved (row updated : DirectoryRecoveryOperation)
      (hrow : t.row transition.recoveryId = some row) (hvalid : ValidDirectory py row)
      (hnext : row.state ≠ transition.nextState)
      (hexpected : row.state = transition.expectedState)
      (htransition : validateDirectoryRecoveryTransition py row transition = .ok ())
      (hevent : t.hasEvent row.recoveryId (row.eventSequence + 1) = false)
      (event : DirectoryRecoveryEvent)
      (hsignature : updated.immutableSignature = row.immutableSignature)
      (hid : updated.recoveryId = row.recoveryId) (hstate : updated.state = transition.nextState)
      (hmanaged : normalizedEvidence row.managedObjectId transition.managedObjectId =
        .ok updated.managedObjectId) (hupdated : ValidDirectory py updated) :
      TransitionOutcome py transition t (.ok (some updated), t.write updated event)

theorem normalizedEvidence_error {persisted requested : Option String} {raised : DirectoryRaised}
    (h : normalizedEvidence persisted requested = .error raised) :
    raised = .storeError "DIRECTORY_RECOVERY_EVIDENCE_INVALID" ∧
      requested.any (fun value => !trimmed value) = true := by
  unfold normalizedEvidence at h
  split at h
  · cases h
  · split at h
    · cases h
    · rename_i hblank
      cases h
      exact ⟨rfl, by simpa using hblank⟩

theorem advanceDirectoryBody_outcome {row : DirectoryRecoveryOperation}
    (hrow : t.row transition.recoveryId = some row) (hvalid : ValidDirectory py row)
    (hnext : row.state ≠ transition.nextState) (hexpected : row.state = transition.expectedState) :
    TransitionOutcome py transition t (advanceDirectoryBody py row transition t) := by
  have hid : row.recoveryId = transition.recoveryId := Table.lookup_key hrow
  unfold advanceDirectoryBody
  cases htransition : validateDirectoryRecoveryTransition py row transition with
  | error raised => exact .invalid row raised hrow hvalid hnext hexpected htransition
  | ok _ =>
    have hfinite := (validateDirectoryRecoveryTransition_ok htransition).2.1
    have hpayload : canonicalDirectoryRecoveryPayload transition.payload =
        .ok (Json.dump (.obj transition.payload)) := by
      rw [canonicalDirectoryRecoveryPayload, hfinite]
      rfl
    rw [hpayload]
    cases hmanaged : normalizedEvidence row.managedObjectId transition.managedObjectId with
    | error raised =>
      obtain ⟨rfl, hwhy⟩ := normalizedEvidence_error hmanaged
      exact .refused row hrow hvalid hnext hexpected htransition (.inl hwhy) _
    | ok managedObjectId =>
      cases herror : normalizedEvidence row.lastErrorCode transition.lastErrorCode with
      | error raised =>
        obtain ⟨rfl, hwhy⟩ := normalizedEvidence_error herror
        exact .refused row hrow hvalid hnext hexpected htransition (.inr (.inl hwhy)) _
      | ok lastErrorCode =>
        dsimp only
        split
        · rename_i hevent
          exact .refused row hrow hvalid hnext hexpected htransition (.inr (.inr hevent)) _
        · rename_i hevent
          have hupdated := ValidDirectory.transitioned htransition hmanaged herror
            (DirectoryTables.nextEvent_hash row (some row.state) transition.nextState
              transition.processInstanceId (Json.dump (.obj transition.payload)))
          have hstored : t.row row.recoveryId = some row := hid ▸ hrow
          rw [DirectoryTables.load_valid (DirectoryTables.row_write hstored _ _ (by rfl)) hupdated]
          exact .moved row _ hrow hvalid hnext hexpected htransition (by simpa using hevent) _ rfl
            rfl rfl hmanaged hupdated

end

/-- As `_record_directory_recovery_if_applicable` builds it from a planned operation. -/
def plannedDirectoryRecoveryOperation (kind : DirectoryRecoveryKind)
    (operation : RecoveryOperation) : DirectoryRecoveryOperation where
  recoveryId := directoryRecoveryId operation.runId operation.operationId kind
  operationId := operation.operationId
  runId := operation.runId
  runTargetId := operation.runTargetId
  targetEndpointId := operation.targetEndpointId
  targetEndpointRevisionId := operation.targetEndpointRevisionId
  ownerInstallationId := operation.ownerInstallationId
  ownershipEpoch := operation.ownershipEpoch
  kind := kind
  state := kind.initialState
  finalRelativePath := operation.finalRelativePath
  expectedPreconditionJson :=
    if kind = .create then some "\x7b\"kind\":\"ABSENT\"\x7d"
    else operation.expectedTargetFingerprintJson

/-- The transition that `_record_directory_catalog_terminal` asks for. -/
def catalogTerminalTransition (kind : DirectoryRecoveryKind) (operation : RecoveryOperation)
    (processInstanceId : String) (payload : Option Payload) : DirectoryRecoveryTransition where
  recoveryId := directoryRecoveryId operation.runId operation.operationId kind
  expectedState := kind.verifiedState
  nextState := kind.terminalState
  processInstanceId := processInstanceId
  payload := [("catalog_handoff_id", (operation.catalogHandoffId.map Json.str).getD .null),
    ("generic_payload", .obj (payload.getD []))]

def statesAhead (kind : DirectoryRecoveryKind) (state : DirectoryRecoveryState) : Option Nat :=
  if kind.successPath.contains state then some (kind.successPath.reverse.idxOf state) else none

def sqliteDirectoryRecoveryStore (py : PythonLibrary) : DirectoryRecoveryStore DirectoryTables where
  record kind operation processInstanceId t :=
    match (DirectoryCall.record (plannedDirectoryRecoveryOperation kind operation)
        processInstanceId (some [("generic_recovery_phase", .str operation.phase.value)])).perform
          py t with
    | (.error raised, _) => .error raised.code
    | (.ok _, t') => .ok t'
  remaining kind operation t :=
    match t.load py (directoryRecoveryId operation.runId operation.operationId kind) with
    | .error raised => .error raised.code
    | .ok none => .ok none
    | .ok (some stored) => .ok (some (statesAhead kind stored.state))
  transition kind operation processInstanceId payload t :=
    match (DirectoryCall.transition (catalogTerminalTransition kind operation processInstanceId
        payload)).perform py t with
    | (.error raised, _) => .error raised.code
    | (.ok none, _) => .ok none
    | (.ok (some _), t') => .ok (some t')

end MediaSync.Recovery
