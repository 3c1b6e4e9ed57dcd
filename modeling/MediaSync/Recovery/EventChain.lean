import MediaSync.Foundation.HashChain
import MediaSync.Recovery.JournalSafety
import MediaSync.Recovery.RowChange

/-! Every mutator of the operation store appends its event through `_append_event`, which numbers it
after the newest event of the run and links it to that event's hash. -/
namespace MediaSync.Recovery
open Text Transition

variable {Dir : Type}

/-- The columns of `recovery_events` that carry the chain. -/
def recoveryChaining : Chaining RecoveryEvent String where
  first := 0
  sequence := RecoveryEvent.runSequence
  previous := RecoveryEvent.previousEventHash
  hash := RecoveryEvent.eventHash

def runEvents (events : List RecoveryEvent) (runId : String) : List RecoveryEvent :=
  events.filter fun event => event.runId = runId

def RecoveryEvent.columnsHash (event : RecoveryEvent) : String :=
  Tables.eventHash event.runId event.runSequence event.operationId event.fromPhase event.toPhase
    event.processInstanceId (Json.dump (.obj event.payload)) event.previousEventHash

/-- Follow events from an operation that does not exist yet; `none` when one of them does not
start where the one before it ended. -/
def replayEvents (events : List RecoveryEvent) : Option (Option Phase) :=
  events.foldlM
    (fun phase event => if event.fromPhase = phase then some (some event.toPhase) else none) none

def phaseOf (t : Tables Dir) (key : String × String) : Option Phase :=
  (t.loadOperation key.1 key.2).map RecoveryOperation.phase

structure EventChained (t : Tables Dir) : Prop where
  /-- Each run's events are numbered from zero and linked by their hashes. -/
  chain : ∀ runId, HashChain recoveryChaining (runEvents t.events runId)
  hashed : ∀ event ∈ t.events, event.eventHash = event.columnsHash
  /-- An operation's events lead to its phase, and an operation without a row has none. -/
  replays : ∀ key, replayEvents (trail t.events key) = some (phaseOf t key)

structure Derived (t : Tables Dir) (event : RecoveryEvent) : Prop where
  sequence : event.runSequence = t.nextRunSequence event.runId
  previous : event.previousEventHash = (t.lastEvent event.runId).map RecoveryEvent.eventHash
  hashed : event.eventHash = event.columnsHash

/-- The phases and the events move together: neither changes, or one operation's row is written
along with the one event that says so. -/
inductive Records (t t' : Tables Dir) : Prop
  | kept (hops : t'.operations = t.operations) (hevents : t'.events = t.events)
  | wrote (event : RecoveryEvent) (hevents : t'.events = t.events ++ [event])
      (hderived : Derived t event) (hfrom : event.fromPhase = phaseOf t event.key)
      (hto : phaseOf t' event.key = some event.toPhase)
      (hother : ∀ key, key ≠ event.key → phaseOf t' key = phaseOf t key)

theorem nextRunSequence_eq (t : Tables Dir) (runId : String) :
    t.nextRunSequence runId =
      (t.lastEvent runId).elim 0 fun event => event.runSequence + 1 := by
  rw [Tables.nextRunSequence]
  cases t.lastEvent runId <;> rfl

theorem Records.refl {t : Tables Dir} : Records t t := .kept rfl rfl

theorem Records.of_eq {c c' : Connection Dir} (h : c' = c) : Records c.current c'.current :=
  h ▸ .refl

variable {t t' : Tables Dir}

theorem phaseOf_congr (hops : t'.operations = t.operations) (key : String × String) :
    phaseOf t' key = phaseOf t key := by
  simp only [phaseOf, Tables.loadOperation, hops]

theorem Records.changes (h : Records t t') {key : String × String}
    (hne : phaseOf t' key ≠ phaseOf t key) :
    ∃ event, t'.events = t.events ++ [event] ∧ event.key = key ∧
      event.fromPhase = phaseOf t key ∧ phaseOf t' key = some event.toPhase := by
  cases h with
  | kept hops _ => exact absurd (phaseOf_congr hops key) hne
  | wrote event hevents _ hfrom hto hother =>
    have hkey : key = event.key := by
      by_contra hne'
      exact hne (hother key hne')
    subst hkey
    exact ⟨event, hevents, rfl, hfrom, hto⟩

theorem runEvents_append (events : List RecoveryEvent) (event : RecoveryEvent) (runId : String) :
    runEvents (events ++ [event]) runId =
      if event.runId = runId then runEvents events runId ++ [event]
      else runEvents events runId := by
  by_cases h : event.runId = runId <;> simp [runEvents, h]

variable {event : RecoveryEvent}

theorem replayEvents_append {events : List RecoveryEvent} {phase : Option Phase}
    (h : replayEvents events = some phase) (hfrom : event.fromPhase = phase) :
    replayEvents (events ++ [event]) = some (some event.toPhase) := by
  rw [replayEvents, List.foldlM_append]
  rw [replayEvents] at h
  rw [h]
  simp [hfrom]

theorem EventChained.records (h : EventChained t) (hstep : Records t t') : EventChained t' := by
  cases hstep with
  | kept hops hevents =>
    refine ⟨fun runId => hevents ▸ h.chain runId, hevents ▸ h.hashed, fun key => ?_⟩
    rw [hevents, phaseOf_congr hops]
    exact h.replays key
  | wrote event hevents hderived hfrom hto hother =>
    refine ⟨fun runId => ?_, fun e he => ?_, fun key => ?_⟩
    · rw [hevents, runEvents_append]
      by_cases hrun : event.runId = runId
      · rw [if_pos hrun]
        subst hrun
        exact (h.chain event.runId).append
          (hderived.sequence.trans (nextRunSequence_eq t event.runId)) hderived.previous
      · rw [if_neg hrun]
        exact h.chain runId
    · rw [hevents] at he
      rcases List.mem_append.mp he with hold | hnew
      · exact h.hashed e hold
      · rw [List.mem_singleton.mp hnew]
        exact hderived.hashed
    · rw [hevents]
      by_cases hkey : event.key = key
      · subst hkey
        rw [trail_append_self rfl, hto]
        exact replayEvents_append (h.replays event.key) hfrom
      · rw [trail_append_other hkey, hother key (Ne.symm hkey)]
        exact h.replays key

theorem appendEvent_derived (t : Tables Dir) (runId operationId : String)
    (fromPhase : Option Phase) (toPhase : Phase) (processInstanceId : String)
    (payload : Option Payload) : ∃ event : RecoveryEvent,
      (t.appendEvent runId operationId fromPhase toPhase processInstanceId payload).events =
        t.events ++ [event] ∧ event.key = (runId, operationId) ∧ event.fromPhase = fromPhase ∧
      event.toPhase = toPhase ∧ Derived t event :=
  ⟨_, rfl, rfl, rfl, rfl, rfl, rfl, rfl⟩

theorem Derived.congr (h : Derived t event) (hevents : t'.events = t.events) :
    Derived t' event where
  sequence := by
    rw [h.sequence]
    simp only [Tables.nextRunSequence, Tables.lastEvent, hevents]
  previous := by
    rw [h.previous]
    simp only [Tables.lastEvent, hevents]
  hashed := h.hashed

theorem records_recordChange {t : Tables Dir} {operation updated : RecoveryOperation}
    (hload : Table.lookup RecoveryOperation.key t.operations operation.key = some operation)
    (hsame : updated.key = operation.key) (processInstanceId : String)
    (payload : Option Payload) :
    Records t (t.recordChange operation updated processInstanceId payload) := by
  obtain ⟨event, hevents, hkey, hfrom, hto, hderived⟩ := appendEvent_derived
    { t with operations := Table.overwrite RecoveryOperation.key t.operations updated }
    operation.runId operation.operationId (some operation.phase) updated.phase
    processInstanceId payload
  have hkey' : event.key = operation.key := hkey
  have hself : Table.lookup RecoveryOperation.key
      (Table.overwrite RecoveryOperation.key t.operations updated) updated.key = some updated :=
    Table.lookup_overwrite_self (hsame ▸ hload)
  refine .wrote event hevents (hderived.congr rfl) ?_ ?_ ?_
  · rw [hfrom, hkey', phaseOf]
    exact (congrArg (Option.map RecoveryOperation.phase) hload).symm
  · rw [hto, hkey', ← hsame, phaseOf]
    exact congrArg (Option.map RecoveryOperation.phase) hself
  · intro key hne
    rw [hkey', ← hsame] at hne
    exact congrArg (Option.map RecoveryOperation.phase)
      (Table.lookup_overwrite_other (Ne.symm hne))

theorem records_insertPlanned {t : Tables Dir} {operation : RecoveryOperation}
    (hfresh : Table.lookup RecoveryOperation.key t.operations operation.key = none)
    (processInstanceId : String) (payload : Option Payload) :
    Records t (t.insertPlanned operation processInstanceId payload) := by
  obtain ⟨event, hevents, hkey, hfrom, hto, hderived⟩ := appendEvent_derived
    { t with operations := Table.insert t.operations operation }
    operation.runId operation.operationId none operation.phase processInstanceId payload
  have hkey' : event.key = operation.key := hkey
  refine .wrote event hevents (hderived.congr rfl) ?_ ?_ ?_
  · rw [hfrom, hkey', phaseOf]
    exact (congrArg (Option.map RecoveryOperation.phase) hfresh).symm
  · rw [hto, hkey', phaseOf]
    exact congrArg (Option.map RecoveryOperation.phase) (Table.lookup_insert_self hfresh)
  · intro key hne
    rw [hkey'] at hne
    exact congrArg (Option.map RecoveryOperation.phase)
      (Table.lookup_insert_other (Ne.symm hne))

section
variable {py : PythonLibrary} {dirs : Option (DirectoryRecoveryStore Dir)}

variable {body : Body Dir Unit} {t : Tables Dir}

theorem andThen_tables {α : Type} {value : α} : (body.andThen value t).2 = (body t).2 := by
  unfold Body.andThen
  rcases body t with ⟨raised | ⟨⟩, after⟩ <;> rfl

theorem andThen_ok {α : Type} {value result : α} (h : (body.andThen value t).1 = .ok result) :
    result = value := by
  unfold Body.andThen at h
  rcases hbody : body t with ⟨raised | ⟨⟩, after⟩
  · rw [hbody] at h
    cases h
  · rw [hbody] at h
    cases h
    rfl

theorem Records.frame {t t' after : Tables Dir} (h : Records t t')
    (hops : after.operations = t'.operations) (hevents : after.events = t'.events) :
    Records t after := by
  cases h with
  | kept ho he => exact .kept (hops.trans ho) (hevents.trans he)
  | wrote event he hderived hfrom hto hother =>
    refine .wrote event (hevents.trans he) hderived hfrom ?_ fun key hne => ?_
    · rw [phaseOf_congr hops]
      exact hto
    · rw [phaseOf_congr hops]
      exact hother key hne

structure RowChange.Framed (change : RowChange Dir) : Prop where
  key : ∀ operation updated, change.row operation = .ok updated → updated.key = operation.key
  frame : ∀ updated t, (change.after updated t).2.operations = t.operations ∧
    (change.after updated t).2.events = t.events

theorem validatedRow_ok {updated row : RecoveryOperation} (h : validatedRow py updated = .ok row) :
    row = updated ∧ validateRecoveryOperation py updated = .ok () := by
  unfold validatedRow at h
  split at h
  · cases h
  · rename_i hvalid
    cases h
    exact ⟨rfl, hvalid⟩

variable {call : Call} {change : RowChange Dir}

theorem Call.rowChange_framed (h : call.rowChange py dirs = some change) : change.Framed := by
  have hnone : ∀ (updated : RecoveryOperation) (t : Tables Dir),
      (noDirectoryStep updated t).2.operations = t.operations ∧
        (noDirectoryStep updated t).2.events = t.events := fun _ _ => ⟨rfl, rfl⟩
  cases call with
  | recordPlannedOperation operation processInstanceId payload => cases h
  | recordOperationPhaseTransition args =>
    cases h
    refine ⟨fun _ _ hrow => (operationAfterTransition_spec hrow).key, fun updated t => ?_⟩
    simp only [transitionChange]
    split
    · obtain ⟨hops, hevents, -⟩ := catalogTerminal_frame dirs updated args.processInstanceId
        args.payload t
      exact ⟨hops, hevents⟩
    · exact hnone updated t
  | recordStagingFailure args =>
    cases h
    refine ⟨fun operation updated hrow => ?_, hnone⟩
    simp only [stagingFailureChange] at hrow
    split at hrow
    · cases hrow
    · rw [(validatedRow_ok hrow).1]
      rfl
  | recordOperationLeaseRebound expectedPhase args =>
    cases h
    exact ⟨fun operation updated hrow => by rw [(validatedRow_ok hrow).1]; rfl, hnone⟩
  | recordCommitIntentRefreshed args =>
    cases h
    exact ⟨fun operation updated hrow => by rw [(validatedRow_ok hrow).1]; rfl, hnone⟩
  | recordOldTargetPreservedCommitIntentRefreshed args =>
    cases h
    exact ⟨fun operation updated hrow => by rw [(validatedRow_ok hrow).1]; rfl, hnone⟩

theorem loadOperation_self {runId operationId : String} {operation : RecoveryOperation}
    (h : t.loadOperation runId operationId = some operation) :
    Table.lookup RecoveryOperation.key t.operations operation.key = some operation := by
  have hkey : operation.key = (runId, operationId) := Table.lookup_key h
  rw [hkey]
  exact h

theorem records_recordPlanned (operation : RecoveryOperation) (processInstanceId : String)
    (payload : Option Payload) (t : Tables Dir) :
    Records t (recordPlannedOperationBody dirs operation processInstanceId payload t).2 := by
  unfold recordPlannedOperationBody
  split
  · rename_i existing _
    split
    · exact .refl
    · rw [andThen_tables]
      obtain ⟨hops, hevents, -⟩ := recordDirectory_frame dirs existing processInstanceId t
      exact .kept hops hevents
  · rename_i hfresh
    split
    · exact .refl
    · split
      · exact .refl
      · rw [andThen_tables]
        obtain ⟨hops, hevents, -⟩ := recordDirectory_frame dirs operation processInstanceId
          (t.insertPlanned operation processInstanceId payload)
        exact (records_insertPlanned hfresh processInstanceId payload).frame hops hevents

theorem records_of_call (call : Call) (t : Tables Dir) :
    Records t (call.body py dirs t).2 := by
  cases hchange : call.rowChange py dirs with
  | none =>
    cases call with
    | recordPlannedOperation operation processInstanceId payload =>
      exact records_recordPlanned operation processInstanceId payload t
    | _ => cases hchange
  | some change =>
    have hframed := Call.rowChange_framed hchange
    have houtcome := change.outcome t
    rw [Call.body_rowChange hchange]
    generalize change.body t = ended at houtcome ⊢
    cases houtcome with
    | unexpected _ => exact .refl
    | raised _ _ _ _ _ => exact .refl
    | refused _ _ _ _ _ _ _ => exact .refl
    | wrote operation updated hload _ hrow _ =>
      rw [andThen_tables]
      obtain ⟨hops, hevents⟩ := hframed.frame updated
        (t.recordChange operation updated change.processInstanceId (change.payload updated))
      exact (records_recordChange (loadOperation_self hload) (hframed.key operation updated hrow)
        _ _).frame hops hevents

def Replayed (t : Tables Dir) : Call → Prop
  | .recordPlannedOperation operation _ _ =>
    (t.loadOperation operation.runId operation.operationId).isSome
  | .recordOperationPhaseTransition args => ∀ operation,
    t.loadOperation args.runId args.operationId = some operation →
      operation.phase ≠ args.expectedPhase
  | .recordStagingFailure args => ∀ operation,
    t.loadOperation args.runId args.operationId = some operation →
      operation.phase ≠ args.expectedPhase ∨
        operation.stagingFailureCount ≠ args.expectedFailureCount
  | .recordOperationLeaseRebound expectedPhase args => ∀ operation,
    t.loadOperation args.runId args.operationId = some operation →
      operation.phase ≠ expectedPhase ∨ expectedLease operation args = false
  | .recordCommitIntentRefreshed args => ∀ operation,
    t.loadOperation args.runId args.operationId = some operation →
      operation.phase ≠ .commitIntentRecorded ∨ expectedLease operation args.toRebindArgs = false
  | .recordOldTargetPreservedCommitIntentRefreshed args => ∀ operation,
    t.loadOperation args.runId args.operationId = some operation →
      operation.phase ≠ .oldTargetPreserved ∨ expectedLease operation args.toRebindArgs = false

theorem Replayed.unexpected (h : Replayed t call) (hchange : call.rowChange py dirs = some change)
    (operation : RecoveryOperation)
    (hload : t.loadOperation change.runId change.operationId = some operation) :
    change.expects operation = false := by
  cases call with
  | recordPlannedOperation operation processInstanceId payload => cases hchange
  | recordOperationPhaseTransition args =>
    cases hchange
    exact decide_eq_false (h operation hload)
  | recordStagingFailure args =>
    cases hchange
    exact decide_eq_false (not_and_or.mpr (h operation hload))
  | recordOperationLeaseRebound expectedPhase args =>
    cases hchange
    refine decide_eq_false (not_and_or.mpr ((h operation hload).imp id fun hlease => ?_))
    rw [hlease]
    exact Bool.false_ne_true
  | recordCommitIntentRefreshed args =>
    cases hchange
    refine decide_eq_false (not_and_or.mpr ((h operation hload).imp id fun hlease => ?_))
    rw [hlease]
    exact Bool.false_ne_true
  | recordOldTargetPreservedCommitIntentRefreshed args =>
    cases hchange
    refine decide_eq_false (not_and_or.mpr ((h operation hload).imp id fun hlease => ?_))
    rw [hlease]
    exact Bool.false_ne_true

theorem replayed_keeps (h : Replayed t call) : (call.body py dirs t).2.events = t.events ∧
      (call.body py dirs t).2.operations = t.operations := by
  cases hchange : call.rowChange py dirs with
  | none =>
    cases call with
    | recordPlannedOperation operation processInstanceId payload =>
      obtain ⟨existing, hload⟩ := Option.isSome_iff_exists.mp h
      simp only [Call.body, recordPlannedOperationBody, hload]
      split
      · exact ⟨rfl, rfl⟩
      · rw [andThen_tables]
        obtain ⟨hops, hevents, -⟩ := recordDirectory_frame dirs existing processInstanceId t
        exact ⟨hevents, hops⟩
    | _ => cases hchange
  | some change =>
    have hunexpected := h.unexpected hchange
    have houtcome := change.outcome t
    rw [Call.body_rowChange hchange]
    generalize change.body t = ended at houtcome ⊢
    cases houtcome with
    | unexpected _ => exact ⟨rfl, rfl⟩
    | raised _ _ _ _ _ => exact ⟨rfl, rfl⟩
    | refused _ _ _ _ _ _ _ => exact ⟨rfl, rfl⟩
    | wrote operation _ hload hexpects _ _ =>
      rw [hunexpected operation hload] at hexpects
      cases hexpects

def Call.writesPhase : Call → Bool
  | .recordPlannedOperation _ _ _ => true
  | .recordOperationPhaseTransition _ => true
  | .recordStagingFailure _ => true
  | _ => false

theorem not_validated_self (phase : Phase) :
    Phase.validateRecoveryPhaseTransition phase phase ≠ .ok () := by
  cases phase <;> decide

variable {row : RecoveryOperation}

theorem RowChange.Framed.load_accepted (hframed : change.Framed)
    (hok : (change.body t).1 = .ok (some row)) :
    (change.body t).2.loadOperation change.runId change.operationId = some row ∧
      ∃ operation, change.expects operation = true ∧ change.row operation = .ok row := by
  have houtcome := change.outcome t
  generalize change.body t = ended at houtcome hok ⊢
  cases houtcome with
  | unexpected _ => cases hok
  | raised _ _ _ _ _ => cases hok
  | refused _ _ _ _ _ _ _ => cases hok
  | wrote operation updated hload hexpects hrow _ =>
    obtain rfl : row = updated := Option.some.inj (andThen_ok hok)
    refine ⟨?_, operation, hexpects, hrow⟩
    have hkey : row.key = operation.key := hframed.key operation row hrow
    have hkey' : operation.key = (change.runId, change.operationId) := Table.lookup_key hload
    rw [andThen_tables, Tables.loadOperation, (hframed.frame row _).1, ← hkey', ← hkey]
    exact Table.lookup_overwrite_self (hkey ▸ loadOperation_self hload)

theorem replayed_of_accepted (hwrites : call.writesPhase = true)
    (hcheck : call.precheck py = .ok ()) (hok : (call.body py dirs t).1 = .ok (some row)) :
    Replayed (call.body py dirs t).2 call := by
  cases call with
  | recordPlannedOperation operation processInstanceId payload =>
    simp only [Replayed, Call.body] at hok ⊢
    unfold recordPlannedOperationBody at hok ⊢
    split
    · rename_i existing hload
      split
      · rw [hload]
        rfl
      · rw [andThen_tables, Tables.loadOperation,
          (recordDirectory_frame dirs existing processInstanceId t).1]
        exact Option.isSome_iff_exists.mpr ⟨existing, hload⟩
    · rename_i hfresh
      rw [hfresh] at hok
      split
      · rename_i hlease
        simp only [hlease, if_true] at hok
        cases hok
      · rename_i hlease
        split
        · rename_i haccepts
          simp only [hlease, haccepts, if_true] at hok
          cases hok
        · rw [andThen_tables, Tables.loadOperation, (recordDirectory_frame dirs operation
            processInstanceId (t.insertPlanned operation processInstanceId payload)).1]
          exact Option.isSome_iff_exists.mpr ⟨operation, Table.lookup_insert_self hfresh⟩
  | recordOperationPhaseTransition args =>
    have hchange : Call.rowChange py dirs (.recordOperationPhaseTransition args) =
      some (transitionChange py dirs args) := rfl
    rw [Call.body_rowChange hchange] at hok ⊢
    obtain ⟨hload, operation, -, hrow⟩ := (Call.rowChange_framed hchange).load_accepted hok
    intro stored hstored hphase
    obtain rfl : row = stored := Option.some.inj (hload.symm.trans hstored)
    obtain ⟨_, -, hvalid⟩ := except_bind_ok hcheck
    have hvalid := raiseViolation_ok hvalid
    rw [← hphase, (operationAfterTransition_spec hrow).phase] at hvalid
    exact not_validated_self _ hvalid
  | recordStagingFailure args =>
    have hchange : Call.rowChange py dirs (.recordStagingFailure args) =
      some (stagingFailureChange py args) := rfl
    rw [Call.body_rowChange hchange] at hok ⊢
    obtain ⟨hload, operation, -, hrow⟩ := (Call.rowChange_framed hchange).load_accepted hok
    intro stored hstored
    obtain rfl : row = stored := Option.some.inj (hload.symm.trans hstored)
    right
    simp only [stagingFailureChange] at hrow
    split at hrow
    · cases hrow
    · rw [(validatedRow_ok hrow).1]
      show args.expectedFailureCount + 1 ≠ args.expectedFailureCount
      omega
  | _ => cases hwrites

variable {c c' : Connection Dir} {label : Label Dir}

theorem records_of_step (hc : c.Settled) (hstep : connectionStep py dirs c label = some c') :
    c'.Settled ∧ (label ≠ .rollback → Records c.current c'.current) := by
  cases stepCases hstep with
  | call call =>
    unfold performCall
    split
    · exact ⟨hc, fun _ => .refl⟩
    · obtain ⟨hsettled, hnext | hsame⟩ := hc.execute (call.body py dirs)
      · exact ⟨hsettled, fun _ => hnext ▸ records_of_call call c.current⟩
      · exact ⟨hsettled, fun _ => .of_eq hsame⟩
  | begin _ => exact ⟨fun h => Bool.noConfusion h, fun _ => .refl⟩
  | commit _ => exact ⟨fun _ => rfl, fun _ => .refl⟩
  | rollback => exact ⟨fun _ => rfl, fun hne => absurd rfl hne⟩
  | skipped => exact ⟨hc, fun _ => .refl⟩
  | neighbour body hops hevents _ =>
    obtain ⟨hsettled, hnext | hsame⟩ := hc.execute body
    · exact ⟨hsettled, fun _ => .kept (hnext ▸ hops) (hnext ▸ hevents)⟩
    · exact ⟨hsettled, fun _ => .of_eq hsame⟩

theorem eventChained_step (hc : c.Holds EventChained)
    (hstep : connectionStep py dirs c label = some c') : c'.Holds EventChained := by
  cases stepCases hstep with
  | call call =>
    unfold performCall
    split
    · exact hc
    · exact hc.execute (hc.2.records (records_of_call call c.current))
  | begin _ => exact hc
  | commit _ => exact ⟨hc.2, hc.2⟩
  | rollback => exact ⟨hc.1, hc.1⟩
  | skipped => exact hc
  | neighbour body hops hevents _ => exact hc.execute (hc.2.records (.kept hops hevents))

theorem eventChained_empty (directories : Dir) : EventChained ({ directories } : Tables Dir) where
  chain _ := .nil
  hashed := by simp
  replays _ := rfl

theorem eventChained_reachable {c : Connection Dir} (h : (journal py dirs).Reachable c) :
    c.Settled ∧ c.Holds EventChained := by
  refine h.invariant (P := fun c => c.Settled ∧ c.Holds EventChained) ?_ ?_
  · rintro s ⟨directories, rfl⟩
    exact ⟨fun _ => rfl, eventChained_empty directories, eventChained_empty directories⟩
  · intro s label s' _ hs _ hstep
    exact ⟨(records_of_step hs.1 hstep).1, eventChained_step hs.2 hstep⟩

/-- In every reachable state the events of each run are numbered from zero and linked by their
hashes, and an operation's events replay to its phase. -/
theorem recovery_event_chain {c : Connection Dir} (h : (journal py dirs).Reachable c) :
    (∀ t, t = c.committed ∨ t = c.current →
      (∀ runId i event, (runEvents t.events runId)[i]? = some event →
        event.runSequence = i ∧ event.eventHash = event.columnsHash ∧
        event.previousEventHash =
          if i = 0 then none
          else ((runEvents t.events runId)[i - 1]?).map RecoveryEvent.eventHash) ∧
      ∀ runId operationId, replayEvents (trail t.events (runId, operationId)) =
        some ((t.loadOperation runId operationId).map RecoveryOperation.phase)) ∧
    (∀ label c', connectionStep py dirs c label = some c' → label ≠ .rollback →
      ∀ key, phaseOf c'.current key ≠ phaseOf c.current key →
        ∃ event, c'.current.events = c.current.events ++ [event] ∧ event.key = key ∧
          event.fromPhase = phaseOf c.current key ∧
          phaseOf c'.current key = some event.toPhase) ∧
    (∀ call, Replayed c.current call →
      (performCall py dirs call c).2.current.events = c.current.events) ∧
    ∀ call row, call.writesPhase = true → (performCall py dirs call c).1 = .ok (some row) →
      Replayed (performCall py dirs call c).2.current call := by
  obtain ⟨hsettled, hcommitted, hcurrent⟩ := eventChained_reachable h
  refine ⟨fun t ht => ?_, fun label c' hstep hne key hphase => ?_, fun call hreplayed => ?_,
    fun call row hwrites hok => ?_⟩
  -- the chain of a run and the replay of its trail, in both tables
  · have hchained : EventChained t := by
      rcases ht with rfl | rfl
      · exact hcommitted
      · exact hcurrent
    refine ⟨fun runId i event hi => ?_, fun runId operationId =>
      hchained.replays (runId, operationId)⟩
    have hchain := hchained.chain runId
    have hmem : event ∈ t.events := List.mem_of_mem_filter (List.mem_of_getElem? hi)
    refine ⟨(hchain.sequence_eq hi).trans (Nat.zero_add i), hchained.hashed event hmem, ?_⟩
    cases i with
    | zero => exact hchain.previous_first hi
    | succ i =>
      have hlt : i < (runEvents t.events runId).length := by
        have := (List.getElem?_eq_some_iff.mp hi).1
        omega
      have hbefore := List.getElem?_eq_getElem hlt
      rw [if_neg (Nat.succ_ne_zero i), Nat.add_sub_cancel, hbefore]
      exact hchain.previous_eq hbefore hi
  -- a phase that changes is appended as one event
  · exact ((records_of_step hsettled hstep).2 hne).changes hphase
  · unfold performCall
    split
    · rfl
    -- a replayed call commits the tables that it found
    · obtain ⟨-, hnext | hsame⟩ := hsettled.execute (call.body py dirs)
      · exact hnext ▸ (replayed_keeps hreplayed).1
      · rw [hsame]
  · unfold performCall at hok ⊢
    split
    · rename_i hcheck
      rw [hcheck] at hok
      cases hok
    -- an accepted call stands as replayed in what it leaves
    · rename_i hcheck
      rw [hcheck] at hok
      dsimp only at hok
      obtain ⟨hresult, hnext⟩ := Connection.execute_ok hok
      rw [hnext]
      exact replayed_of_accepted hwrites hcheck hresult

end

def startedRun : List (Label Unit) :=
  [.registerLease sampleLease, .call (.recordPlannedOperation sampleOperation "process-a" none),
    .call (.recordOperationPhaseTransition (sampleTransition .planned .sourceValidated))]

theorem recovery_event_chain_started : ∃ c : Connection Unit,
    c.committed.events.map RecoveryEvent.runSequence = [0, 1] ∧
    (∀ runId operationId, replayEvents (trail c.committed.events (runId, operationId)) =
      some ((c.committed.loadOperation runId operationId).map RecoveryOperation.phase)) ∧
    ∀ call, Replayed c.current call →
      (performCall plainPython none call c).2.current.events = c.current.events := by
  have hrun : (plainJournal.replay emptyConnection startedRun).any (fun c =>
      c.committed.events.map RecoveryEvent.runSequence == [0, 1]) = true := by decide
  obtain ⟨c, hc, hsequences⟩ := (Option.any_eq_true _ _).mp hrun
  have hreach : plainJournal.Reachable c :=
    System.Reachable.replay (.init ⟨(), rfl⟩) startedRun hc
  obtain ⟨hchains, -, hreplayed, -⟩ := recovery_event_chain hreach
  exact ⟨c, by simpa using hsequences, (hchains _ (.inl rfl)).2, hreplayed⟩

end MediaSync.Recovery
