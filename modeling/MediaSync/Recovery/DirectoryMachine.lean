import MediaSync.Recovery.StoredRows

/-! The public mutators of the directory store on one connection. -/
namespace MediaSync.Recovery
open Text Transition

variable {py : PythonLibrary}

def DirectoryRecoveryKind.Ended (kind : DirectoryRecoveryKind) (state : DirectoryRecoveryState) :
    Prop := state = kind.terminalState ∨ state = kind.conflictState

structure DirectoryRecoveryKind.Follows (kind : DirectoryRecoveryKind)
    (state next : DirectoryRecoveryState) : Prop where
  running : ¬ kind.Ended state
  next : next = kind.conflictState ∨ kind.advances state next = true

def DirectoryRecoveryKind.rank (kind : DirectoryRecoveryKind) (state : DirectoryRecoveryState) :
    Nat := kind.successPath.findIdx fun passed => passed.value == state.value

theorem DirectoryRecoveryKind.rank_lt_of_advances {kind : DirectoryRecoveryKind}
    {state next : DirectoryRecoveryState} (h : kind.advances state next = true) :
    kind.rank state < kind.rank next := by
  obtain ⟨edge, hedge, hmatch⟩ := List.any_eq_true.mp h
  rw [Bool.and_eq_true, beq_iff_eq, beq_iff_eq] at hmatch
  obtain ⟨hstate, rfl⟩ := hmatch
  rw [rank, rank, ← hstate]
  cases kind
  all_goals
    simp only [successPath, List.tail_cons, List.zip_cons_cons, List.zip_nil_right, List.mem_cons,
      List.not_mem_nil, or_false] at hedge
    rcases hedge with rfl | rfl | rfl | rfl | rfl | hedge
    all_goals first
      | decide
      | (subst hedge
         decide)

theorem DirectoryRecoveryKind.rank_conflictState (kind : DirectoryRecoveryKind) :
    kind.rank kind.conflictState = kind.successPath.length := by
  cases kind <;> decide

variable {operation : DirectoryRecoveryOperation} {transition : DirectoryRecoveryTransition}

theorem validateDirectoryRecoveryTransition_iff :
    validateDirectoryRecoveryTransition py operation transition = .ok () ↔
      ValidDirectory py operation ∧ transition.recoveryId = operation.recoveryId ∧
        transition.expectedState = operation.state ∧
        trimmed transition.processInstanceId = true ∧
        Json.finiteFields transition.payload = true ∧
        directoryRecoveryIsTerminal operation = false ∧
        if transition.nextState = operation.kind.conflictState then
          transition.lastErrorCode.any trimmed = true
        else operation.kind.advances operation.state transition.nextState = true := by
  unfold validateDirectoryRecoveryTransition canonicalDirectoryRecoveryPayload
  constructor
  · intro h
    obtain ⟨_, hvalid, h⟩ := except_bind_ok h
    simp only [requireThat_bind_eq_ok, beq_iff_eq] at h
    obtain ⟨hid, hexpected, hprocess, h⟩ := h
    obtain ⟨_, hpayload, h⟩ := except_bind_ok h
    simp only [requireThat_bind_eq_ok, Bool.not_eq_true'] at h
    refine ⟨validateDirectoryRecoveryOperation_iff.mp hvalid, hid, hexpected, hprocess, ?_, h.1, ?_⟩
    · split_ifs at hpayload with hfinite
      exact hfinite
    · obtain ⟨-, h⟩ := h
      split_ifs with hconflict
      · rw [if_pos hconflict] at h
        exact requireThat_eq_ok.mp h
      · rw [if_neg hconflict] at h
        exact requireThat_eq_ok.mp h
  · rintro ⟨hvalid, hid, hexpected, hprocess, hfinite, hterminal, hnext⟩
    rw [validateDirectoryRecoveryOperation_iff.mpr hvalid, hfinite]
    show (requireThat _ _ >>= _) = _
    simp only [requireThat_bind_eq_ok, beq_iff_eq]
    refine ⟨hid, hexpected, hprocess, ?_⟩
    show (requireThat _ _ >>= _) = _
    simp only [requireThat_bind_eq_ok, hterminal, Bool.not_false, true_and]
    split_ifs at hnext with hconflict
    · rw [if_pos hconflict]
      exact requireThat_eq_ok.mpr hnext
    · rw [if_neg hconflict]
      exact requireThat_eq_ok.mpr hnext

theorem running_of_transition (h : directoryRecoveryIsTerminal operation = false) :
    ¬ operation.kind.Ended operation.state := by
  intro hended
  have hterminal : directoryRecoveryIsTerminal operation = true := by
    unfold directoryRecoveryIsTerminal
    rcases hended with hstate | hstate
    · simp [hstate]
    · simp [hstate]
  rw [h] at hterminal
  cases hterminal

theorem follows_of_transition
    (h : validateDirectoryRecoveryTransition py operation transition = .ok ()) :
    operation.kind.Follows operation.state transition.nextState := by
  obtain ⟨-, -, -, -, -, hterminal, hnext⟩ := validateDirectoryRecoveryTransition_iff.mp h
  refine ⟨running_of_transition hterminal, ?_⟩
  split_ifs at hnext with hconflict
  · exact .inl hconflict
  · exact .inr hnext

theorem rank_lt_of_follows {next : DirectoryRecoveryState} (hvalid : ValidDirectory py operation)
    (hterminal : directoryRecoveryIsTerminal operation = false)
    (h : operation.kind.Follows operation.state next) :
    operation.kind.rank operation.state < operation.kind.rank next := by
  rcases h.next with hconflict | hadvances
  · rw [hconflict, operation.kind.rank_conflictState]
    refine List.findIdx_lt_length.mpr ?_
    have hstate := hvalid.state
    rw [List.any_cons, Bool.or_eq_true] at hstate
    rcases hstate with hended | hpath
    · unfold directoryRecoveryIsTerminal at hterminal
      simp only [List.any_cons, List.any_nil, hended, Bool.or_false, Bool.or_true] at hterminal
      cases hterminal
    · exact List.any_eq_true.mp hpath
  · exact operation.kind.rank_lt_of_advances hadvances

def plannedEvent (row : DirectoryRecoveryOperation) (processInstanceId payloadJson : String) :
    DirectoryRecoveryEvent :=
  DirectoryTables.nextEvent row none row.state processInstanceId payloadJson

def recordedRow (row : DirectoryRecoveryOperation) (event : DirectoryRecoveryEvent) :
    DirectoryRecoveryOperation :=
  { row with
    eventSequence := 1
    eventHash := some event.eventHash }

inductive DirectoryStep (py : PythonLibrary) (t : DirectoryTables) : DirectoryTables → Prop
  | same : DirectoryStep py t t
  /-- The row of a lifecycle whose first event could not be written. -/
  | inserted (row : DirectoryRecoveryOperation) (hfresh : t.row row.recoveryId = none)
      (hvalid : ValidDirectory py row) (hstate : row.state = row.kind.initialState)
      (hsequence : row.eventSequence = 0) :
      DirectoryStep py t { t with operations := Table.insert t.operations row }
  | recorded (row : DirectoryRecoveryOperation) (processInstanceId payloadJson : String)
      (hfresh : t.row row.recoveryId = none) (hvalid : ValidDirectory py row)
      (hstate : row.state = row.kind.initialState) (hsequence : row.eventSequence = 0) :
      DirectoryStep py t
        ⟨Table.insert t.operations
          (recordedRow row (plannedEvent row processInstanceId payloadJson)),
          t.events ++ [plannedEvent row processInstanceId payloadJson]⟩
  | moved (row : DirectoryRecoveryOperation) (transition : DirectoryRecoveryTransition)
      (managedObjectId lastErrorCode : Option String) (payloadJson : String)
      (hrow : t.row row.recoveryId = some row)
      (hvalid : validateDirectoryRecoveryTransition py row transition = .ok ())
      (hmanaged : normalizedEvidence row.managedObjectId transition.managedObjectId =
        .ok managedObjectId)
      (herror : normalizedEvidence row.lastErrorCode transition.lastErrorCode = .ok lastErrorCode)
      (event : DirectoryRecoveryEvent)
      (hevent : event = DirectoryTables.nextEvent row (some row.state) transition.nextState
        transition.processInstanceId payloadJson) :
      DirectoryStep py t
        (t.write (transitionedRow row transition event managedObjectId lastErrorCode) event)

variable {t : DirectoryTables} {recoveryId : String}

theorem load_none (h : t.load py recoveryId = .ok none) : t.row recoveryId = none := by
  unfold DirectoryTables.load at h
  split at h
  · assumption
  · split at h <;> cases h

theorem directoryStep_of_record {processInstanceId : String} {payload : Option Payload}
    (hcheck : recordDirectoryPrecheck py operation processInstanceId = .ok ()) :
    DirectoryStep py t (recordDirectoryBody py operation processInstanceId payload t).2 := by
  obtain ⟨_, hoperation, hcheck⟩ := except_bind_ok hcheck
  have hvalid := validateDirectoryRecoveryOperation_iff.mp hoperation
  have hplanned : operation.state = operation.kind.initialState ∧ operation.eventSequence = 0 := by
    split_ifs at hcheck with hprocess hinsert
    simp only [Bool.or_eq_true, not_or, bne_iff_ne, ne_eq, not_not] at hinsert
    exact ⟨hinsert.1.1.1.1.1, hinsert.1.1.1.1.2⟩
  obtain ⟨hstate, hsequence⟩ := hplanned
  unfold recordDirectoryBody
  split
  · exact .same
  · split_ifs
    · exact .same
    · exact .same
  · rename_i hload
    have hfresh := load_none hload
    split_ifs
    · exact .same
    · dsimp only
      split
      · exact .inserted operation hfresh hvalid hstate hsequence
      · rename_i payloadJson _
        split_ifs
        · exact .inserted operation hfresh hvalid hstate hsequence
        · have hstep := DirectoryStep.recorded operation processInstanceId payloadJson hfresh hvalid
            hstate hsequence
          split
          all_goals
            unfold DirectoryTables.write
            dsimp only
            rw [overwrite_insert ?_ hfresh]
            · exact hstep
            · rfl

theorem directoryStep_of_transition :
    DirectoryStep py t (transitionDirectoryBody py transition t).2 := by
  unfold transitionDirectoryBody
  split
  · exact .same
  · exact .same
  · rename_i current hload
    obtain ⟨hrow, -⟩ := load_row hload
    split_ifs with hnext hfits hexpected
    · split
      · exact .same
      · exact .same
    · split
      · exact .same
      · exact .same
    · exact .same
    · unfold advanceDirectoryBody
      split
      · exact .same
      · rename_i hvalid
        split
        · rename_i managedObjectId lastErrorCode payloadJson hmanaged herror hpayload
          dsimp only
          split_ifs
          · exact .same
          · have hstep := DirectoryStep.moved current transition managedObjectId lastErrorCode
              payloadJson (Table.lookup_key hrow ▸ hrow) hvalid hmanaged herror _ rfl
            split
            all_goals exact hstep
        · exact .same
        · exact .same
        · exact .same

theorem directoryStep_of_body {call : DirectoryCall} (hcheck : call.precheck py = .ok ()) :
    DirectoryStep py t (call.body py t).2 := by
  cases call with
  | record operation processInstanceId payload => exact directoryStep_of_record hcheck
  | transition requested => exact directoryStep_of_transition

/-- The columns of `directory_recovery_events` that carry the chain. -/
def directoryChaining : Chaining DirectoryRecoveryEvent String where
  first := 1
  sequence event := event.eventSequence.toNat
  previous := DirectoryRecoveryEvent.previousEventHash
  hash := DirectoryRecoveryEvent.eventHash

def lifecycleEvents (t : DirectoryTables) (recoveryId : String) : List DirectoryRecoveryEvent :=
  t.events.filter fun event => event.recoveryId = recoveryId

def DirectoryRecoveryEvent.columnsHash (event : DirectoryRecoveryEvent) : String :=
  DirectoryTables.eventHash event.recoveryId event.eventSequence event.fromState event.toState
    event.processInstanceId event.payloadJson event.previousEventHash

inductive DirectoryRecoveryKind.Leads (kind : DirectoryRecoveryKind) :
    List DirectoryRecoveryEvent → DirectoryRecoveryState → Prop
  | planned : kind.Leads [] kind.initialState
  | recorded (event : DirectoryRecoveryEvent) (hfrom : event.fromState = none)
      (hto : event.toState = kind.initialState) : kind.Leads [event] kind.initialState
  | moved {events : List DirectoryRecoveryEvent} {state : DirectoryRecoveryState}
      (hevents : kind.Leads events state) (event : DirectoryRecoveryEvent)
      (hfrom : event.fromState = some state) (hfollows : kind.Follows state event.toState) :
      kind.Leads (events ++ [event]) event.toState

structure DirectoryTrail (row : DirectoryRecoveryOperation)
    (events : List DirectoryRecoveryEvent) : Prop where
  /-- Numbered from one without a gap, each event with the hash of the one before it. -/
  chain : HashChain directoryChaining events
  hashed : ∀ event ∈ events, event.eventHash = event.columnsHash
  positive : ∀ event ∈ events, 1 ≤ event.eventSequence
  sequence : row.eventSequence = events.length
  last : row.eventHash = events.getLast?.map DirectoryRecoveryEvent.eventHash
  leads : row.kind.Leads events row.state

structure DirectoriesChained (py : PythonLibrary) (t : DirectoryTables) : Prop where
  valid : ∀ recoveryId row, t.row recoveryId = some row → ValidDirectory py row
  trails : ∀ recoveryId row, t.row recoveryId = some row →
    DirectoryTrail row (lifecycleEvents t recoveryId)
  unknown : ∀ recoveryId, t.row recoveryId = none → lifecycleEvents t recoveryId = []

theorem lifecycleEvents_append (operations operations' : List DirectoryRecoveryOperation)
    (events : List DirectoryRecoveryEvent) (event : DirectoryRecoveryEvent) (recoveryId : String) :
    lifecycleEvents ⟨operations, events ++ [event]⟩ recoveryId =
      if event.recoveryId = recoveryId then lifecycleEvents
        ⟨operations', events⟩ recoveryId ++ [event]
      else lifecycleEvents ⟨operations', events⟩ recoveryId := by
  by_cases h : event.recoveryId = recoveryId
  · simp [lifecycleEvents, h]
  · simp [lifecycleEvents, h]

variable {row : DirectoryRecoveryOperation}

theorem DirectoryTrail.planned (hstate : row.state = row.kind.initialState)
    (hsequence : row.eventSequence = 0) (hhash : row.eventHash = none) : DirectoryTrail row [] where
  chain := .nil
  hashed := fun _ hmem => absurd hmem List.not_mem_nil
  positive := fun _ hmem => absurd hmem List.not_mem_nil
  sequence := hsequence
  last := hhash
  leads := hstate ▸ .planned

theorem DirectoryTrail.recorded (hstate : row.state = row.kind.initialState)
    (hsequence : row.eventSequence = 0) (hhash : row.eventHash = none)
    (processInstanceId payloadJson : String) :
    DirectoryTrail (recordedRow row (plannedEvent row processInstanceId payloadJson))
      [plannedEvent row processInstanceId payloadJson] := by
  have hone : (plannedEvent row processInstanceId payloadJson).eventSequence = 1 := by
    rw [plannedEvent, DirectoryTables.nextEvent, hsequence]
    rfl
  refine ⟨?_, fun event hmem => ?_, fun event hmem => ?_, rfl, rfl, ?_⟩
  · refine HashChain.snoc (HashChain.nil : HashChain directoryChaining []) ?_ hhash
    show Int.toNat _ = 1
    rw [hone]
    rfl
  · rw [List.mem_singleton.mp hmem]
    rfl
  · rw [List.mem_singleton.mp hmem, hone]
  · have hleads : row.kind.Leads _ _ := .recorded
      (plannedEvent row processInstanceId payloadJson) rfl hstate
    rw [← hstate] at hleads
    exact hleads

variable {event : DirectoryRecoveryEvent}

theorem DirectoryTrail.moved {events : List DirectoryRecoveryEvent} (h : DirectoryTrail row events)
    (hvalid : validateDirectoryRecoveryTransition py row transition = .ok ())
    (managedObjectId lastErrorCode : Option String) {payloadJson : String}
    (hevent : event = DirectoryTables.nextEvent row (some row.state) transition.nextState
      transition.processInstanceId payloadJson) :
    DirectoryTrail (transitionedRow row transition event managedObjectId lastErrorCode)
      (events ++ [event]) := by
  have hsequence : event.eventSequence = events.length + 1 := by
    rw [hevent, DirectoryTables.nextEvent, h.sequence]
  refine ⟨.snoc h.chain ?_ ?_, fun other hmem => ?_, fun other hmem => ?_, ?_, ?_, ?_⟩
  · show event.eventSequence.toNat = 1 + events.length
    omega
  · rw [hevent]
    exact h.last
  · rcases List.mem_append.mp hmem with hold | hnew
    · exact h.hashed other hold
    · rw [List.mem_singleton.mp hnew, hevent]
      rfl
  · rcases List.mem_append.mp hmem with hold | hnew
    · exact h.positive other hold
    · rw [List.mem_singleton.mp hnew]
      omega
  · rw [List.length_append, List.length_singleton, transitionedRow]
    have hrow := h.sequence
    push_cast
    omega
  · rw [List.getLast?_concat]
    rfl
  · have hfollows := follows_of_transition hvalid
    have hleads := DirectoryRecoveryKind.Leads.moved h.leads event (hevent ▸ rfl)
      (by rw [hevent]; exact hfollows)
    rw [hevent] at hleads ⊢
    exact hleads

theorem row_insert (row : DirectoryRecoveryOperation) (hfresh : t.row row.recoveryId = none)
    (events : List DirectoryRecoveryEvent) (recoveryId : String) :
    (⟨Table.insert t.operations row, events⟩ : DirectoryTables).row recoveryId =
      if row.recoveryId = recoveryId then some row else t.row recoveryId := by
  split_ifs with hid
  · subst hid
    exact Table.lookup_insert_self hfresh
  · exact Table.lookup_insert_other hid

theorem row_write {old : DirectoryRecoveryOperation} (row : DirectoryRecoveryOperation)
    (hrow : t.row row.recoveryId = some old) (event : DirectoryRecoveryEvent)
    (recoveryId : String) :
    (t.write row event).row recoveryId =
      if row.recoveryId = recoveryId then some row else t.row recoveryId := by
  split_ifs with hid
  · subst hid
    exact DirectoryTables.row_write hrow row event rfl
  · exact Table.lookup_overwrite_other hid

theorem DirectoriesChained.step {t t' : DirectoryTables} (h : DirectoriesChained py t)
    (hstep : DirectoryStep py t t') : DirectoriesChained py t' := by
  cases hstep with
  | same => exact h
  | inserted row hfresh hvalid hstate hsequence =>
    have hrow := row_insert row hfresh t.events
    refine ⟨fun recoveryId found hfound => ?_, fun recoveryId found hfound => ?_,
      fun recoveryId hnone => ?_⟩
    · rw [hrow] at hfound
      split_ifs at hfound with hid
      · cases hfound
        exact hvalid
      · exact h.valid recoveryId found hfound
    · rw [hrow] at hfound
      split_ifs at hfound with hid
      · cases hfound
        -- no event names an operation that is not stored
        have hevents : lifecycleEvents t recoveryId = [] := h.unknown recoveryId (hid ▸ hfresh)
        show DirectoryTrail row (lifecycleEvents t recoveryId)
        rw [hevents]
        exact .planned hstate hsequence (hvalid.paired.mp hsequence)
      · exact h.trails recoveryId found hfound
    · rw [hrow] at hnone
      split_ifs at hnone with hid
      exact h.unknown recoveryId hnone
  | recorded row processInstanceId payloadJson hfresh hvalid hstate hsequence =>
    have hhash := hvalid.paired.mp hsequence
    have hrow :=
      row_insert (recordedRow row (plannedEvent row processInstanceId payloadJson)) hfresh
      (t.events ++ [plannedEvent row processInstanceId payloadJson])
    -- the appended event goes to the trail of its own operation only
    have hevents := fun recoveryId => lifecycleEvents_append
      (Table.insert t.operations (recordedRow row (plannedEvent row processInstanceId payloadJson)))
      t.operations t.events (plannedEvent row processInstanceId payloadJson) recoveryId
    refine ⟨fun recoveryId found hfound => ?_, fun recoveryId found hfound => ?_,
      fun recoveryId hnone => ?_⟩
    · rw [hrow] at hfound
      split_ifs at hfound with hid
      · cases hfound
        exact hvalid.recorded _ (DirectoryTables.nextEvent_hash _ _ _ _ _)
      · exact h.valid recoveryId found hfound
    · rw [hrow] at hfound
      rw [hevents]
      split_ifs at hfound with hid
      · cases hfound
        rw [if_pos (show (plannedEvent row processInstanceId payloadJson).recoveryId =
          recoveryId from hid),
          show lifecycleEvents ⟨t.operations, t.events⟩ recoveryId = [] from
            h.unknown recoveryId (hid ▸ hfresh)]
        exact .recorded hstate hsequence hhash processInstanceId payloadJson
      · rw [if_neg (show (plannedEvent row processInstanceId payloadJson).recoveryId ≠
          recoveryId from hid)]
        exact h.trails recoveryId found hfound
    · rw [hrow] at hnone
      rw [hevents]
      split_ifs at hnone with hid
      rw [if_neg (show (plannedEvent row processInstanceId payloadJson).recoveryId ≠
        recoveryId from hid)]
      exact h.unknown recoveryId hnone
  | moved row transition managedObjectId lastErrorCode payloadJson hstored htransition hmanaged
      herror event hevent =>
    have hrow := row_write (transitionedRow row transition event managedObjectId lastErrorCode)
      hstored event
    have hevents := fun recoveryId => lifecycleEvents_append
      (Table.overwrite DirectoryRecoveryOperation.recoveryId t.operations
        (transitionedRow row transition event managedObjectId lastErrorCode)) t.operations t.events
      event recoveryId
    have hid : event.recoveryId = row.recoveryId := by
      rw [hevent]
      rfl
    refine ⟨fun recoveryId found hfound => ?_, fun recoveryId found hfound => ?_,
      fun recoveryId hnone => ?_⟩
    · rw [hrow] at hfound
      split_ifs at hfound with hsame
      · cases hfound
        exact .transitioned htransition hmanaged herror
          (hevent ▸ DirectoryTables.nextEvent_hash _ _ _ _ _)
      · exact h.valid recoveryId found hfound
    · rw [hrow] at hfound
      show DirectoryTrail found (lifecycleEvents ⟨_, t.events ++ [event]⟩ recoveryId)
      rw [hevents, hid]
      split_ifs at hfound with hsame
      · cases hfound
        rw [if_pos (show row.recoveryId = recoveryId from hsame)]
        exact (h.trails recoveryId row (hsame ▸ hstored)).moved htransition managedObjectId
          lastErrorCode hevent
      · rw [if_neg (show row.recoveryId ≠ recoveryId from hsame)]
        exact h.trails recoveryId found hfound
    · rw [hrow] at hnone
      show lifecycleEvents ⟨_, t.events ++ [event]⟩ recoveryId = []
      rw [hevents, hid]
      split_ifs at hnone with hsame
      rw [if_neg (show row.recoveryId ≠ recoveryId from hsame)]
      exact h.unknown recoveryId hnone

def MovesOn (t t' : DirectoryTables) (row : DirectoryRecoveryOperation) : Prop :=
  ∃ updated event, t'.row row.recoveryId = some updated ∧
    lifecycleEvents t' row.recoveryId = lifecycleEvents t row.recoveryId ++ [event] ∧
    event.fromState = some row.state ∧ event.toState = updated.state ∧
    updated.immutableSignature = row.immutableSignature ∧
    row.kind.Follows row.state updated.state ∧
    row.kind.rank row.state < row.kind.rank updated.state

theorem DirectoryStep.stored {t t' : DirectoryTables} (hstep : DirectoryStep py t t')
    (hrow : t.row row.recoveryId = some row) : (t'.row row.recoveryId = some row ∧
      lifecycleEvents t' row.recoveryId = lifecycleEvents t row.recoveryId) ∨ MovesOn t t' row := by
  cases hstep with
  | same => exact .inl ⟨hrow, rfl⟩
  | inserted new hfresh hvalid hstate hsequence =>
    have hne : new.recoveryId ≠ row.recoveryId := fun heq => by
      rw [heq, hrow] at hfresh
      cases hfresh
    exact .inl ⟨by rw [row_insert new hfresh, if_neg hne, hrow], rfl⟩
  | recorded new processInstanceId payloadJson hfresh hvalid hstate hsequence =>
    have hne : new.recoveryId ≠ row.recoveryId := fun heq => by
      rw [heq, hrow] at hfresh
      cases hfresh
    refine .inl ⟨?_, ?_⟩
    · rw [row_insert (recordedRow new _) hfresh]
      exact (if_neg hne).trans hrow
    · rw [lifecycleEvents_append _ t.operations]
      exact if_neg hne
  | moved old transition managedObjectId lastErrorCode payloadJson hstored htransition hmanaged
      herror event hevent =>
    have hid : event.recoveryId = old.recoveryId := by
      rw [hevent]
      rfl
    have hevents : lifecycleEvents (t.write (transitionedRow old transition event managedObjectId
        lastErrorCode) event) row.recoveryId =
          if event.recoveryId = row.recoveryId then lifecycleEvents t row.recoveryId ++ [event]
          else lifecycleEvents t row.recoveryId := lifecycleEvents_append _ t.operations _ _ _
    by_cases hsame : old.recoveryId = row.recoveryId
    · have hold : old = row := by
        rw [hsame, hrow] at hstored
        exact (Option.some.inj hstored).symm
      subst hold
      obtain ⟨hvalid, -, -, -, -, hterminal, -⟩ :=
        validateDirectoryRecoveryTransition_iff.mp htransition
      have hfollows := follows_of_transition htransition
      refine .inr
        ⟨transitionedRow old transition event managedObjectId lastErrorCode, event, ?_, ?_,
        ?_, ?_, rfl, hfollows, rank_lt_of_follows hvalid hterminal hfollows⟩
      · rw [row_write (transitionedRow old transition event managedObjectId lastErrorCode) hstored]
        exact if_pos rfl
      · rw [hevents, if_pos hid]
      · rw [hevent]
        rfl
      · rw [hevent]
        rfl
    · refine .inl ⟨?_, ?_⟩
      · rw [row_write (transitionedRow old transition event managedObjectId lastErrorCode) hstored]
        exact (if_neg hsame).trans hrow
      · rw [hevents, hid, if_neg hsame]

theorem DirectoryStep.added {t t' : DirectoryTables} (hstep : DirectoryStep py t t')
    (hnone : t.row recoveryId = none) (hrow : t'.row recoveryId = some row) :
    row.state = row.kind.initialState := by
  cases hstep with
  | same =>
    rw [hnone] at hrow
    cases hrow
  | inserted new hfresh hvalid hstate hsequence =>
    rw [row_insert new hfresh] at hrow
    split_ifs at hrow
    · cases hrow
      exact hstate
    · rw [hnone] at hrow
      cases hrow
  | recorded new processInstanceId payloadJson hfresh hvalid hstate hsequence =>
    rw [row_insert (recordedRow new _) hfresh] at hrow
    split_ifs at hrow
    · cases hrow
      exact hstate
    · rw [hnone] at hrow
      cases hrow
  | moved old transition managedObjectId lastErrorCode payloadJson hstored htransition hmanaged
      herror event hevent =>
    rw [row_write (transitionedRow old transition event managedObjectId lastErrorCode)
      hstored] at hrow
    split_ifs at hrow with hsame
    · have hold : t.row recoveryId = some old := hsame ▸ hstored
      rw [hnone] at hold
      cases hold
    · rw [hnone] at hrow
      cases hrow

structure Applied (py : PythonLibrary) (transition : DirectoryRecoveryTransition)
    (row : DirectoryRecoveryOperation) : Prop where
  state : row.state = transition.nextState
  valid : ValidDirectory py row
  validated : validateDirectoryRecoveryTransition py
    { row with state := transition.expectedState } transition = .ok ()
  managed : replayEvidenceFits row.managedObjectId transition.managedObjectId = true
  error : replayEvidenceFits row.lastErrorCode transition.lastErrorCode = true

theorem replayEvidenceFits_of_normalized {persisted requested stored : Option String}
    (h : normalizedEvidence persisted requested = .ok stored) :
    replayEvidenceFits stored requested = true := by
  unfold normalizedEvidence at h
  cases requested with
  | none => rfl
  | some value =>
    dsimp only at h
    split_ifs at h with htrimmed
    cases h
    simp only [trimmed, Bool.and_eq_true, beq_iff_eq] at htrimmed
    rw [replayEvidenceFits, Option.all_some, ← htrimmed.2, beq_self_eq_true]

theorem applied_transitionedRow {managedObjectId lastErrorCode : Option String}
    (htransition : validateDirectoryRecoveryTransition py row transition = .ok ())
    (hmanaged : normalizedEvidence row.managedObjectId transition.managedObjectId =
      .ok managedObjectId)
    (herror : normalizedEvidence row.lastErrorCode transition.lastErrorCode = .ok lastErrorCode)
    (hhash : isHash event.eventHash = true) :
    Applied py transition (transitionedRow row transition event managedObjectId lastErrorCode) := by
  have hupdated := ValidDirectory.transitioned htransition hmanaged herror hhash
  obtain ⟨hvalid, hid, hexpected, hprocess, hfinite, hterminal, hnext⟩ :=
    validateDirectoryRecoveryTransition_iff.mp htransition
  refine ⟨rfl, hupdated, ?_, replayEvidenceFits_of_normalized hmanaged,
    replayEvidenceFits_of_normalized herror⟩
  have hrunning := running_of_transition hterminal
  refine validateDirectoryRecoveryTransition_iff.mpr
    ⟨{ hupdated with state := ?_, conflict := fun hconflict => ?_ }, hid, rfl, hprocess, hfinite,
      ?_, ?_⟩
  · rw [hexpected]
    exact hvalid.state
  · rw [hexpected] at hconflict
    exact absurd (.inr hconflict) hrunning
  · rw [hexpected]
    exact hterminal
  · rw [hexpected]
    exact hnext

theorem transitionDirectoryBody_applied
    (h : (transitionDirectoryBody py transition t).1 = .ok (some row)) :
    (transitionDirectoryBody py transition t).2.row transition.recoveryId = some row ∧
      Applied py transition row := by
  unfold transitionDirectoryBody at h ⊢
  split at h
  · cases h
  · cases h
  · rename_i current hload
    obtain ⟨hrow, hvalid⟩ := load_row hload
    split_ifs at h ⊢ with hnext hfits hexpected
    · split at h
      · cases h
      · rename_i htransition
        cases h
        rw [Bool.and_eq_true] at hfits
        exact ⟨hrow, hnext, hvalid, htransition, hfits.1, hfits.2⟩
    · split at h <;> cases h
    · cases h
    · unfold advanceDirectoryBody at h ⊢
      split at h
      · cases h
      · rename_i htransition
        split at h
        · rename_i managedObjectId lastErrorCode payloadJson hmanaged herror hpayload
          dsimp only at h ⊢
          split_ifs at h ⊢ with hevent
          have happlied := applied_transitionedRow htransition hmanaged herror
            (DirectoryTables.nextEvent_hash current (some current.state) transition.nextState
              transition.processInstanceId payloadJson)
          have hstored : t.row current.recoveryId = some current :=
            Table.lookup_key hrow ▸ hrow
          have hwritten := DirectoryTables.row_write hstored (transitionedRow current transition
            (DirectoryTables.nextEvent current (some current.state) transition.nextState
              transition.processInstanceId payloadJson) managedObjectId lastErrorCode)
            (DirectoryTables.nextEvent current (some current.state) transition.nextState
              transition.processInstanceId payloadJson) rfl
          rw [DirectoryTables.load_valid hwritten happlied.valid] at h ⊢
          cases h
          exact ⟨(Table.lookup_key hrow : current.recoveryId = transition.recoveryId) ▸ hwritten,
            happlied⟩
        · cases h
        · cases h
        · cases h

theorem transitionDirectoryBody_replayed (hrow : t.row transition.recoveryId = some row)
    (h : Applied py transition row) :
    transitionDirectoryBody py transition t = (.ok (some row), t) := by
  unfold transitionDirectoryBody
  rw [DirectoryTables.load_valid hrow h.valid]
  dsimp only
  rw [if_pos h.state, h.validated]
  dsimp only
  rw [h.managed, h.error, Bool.and_self, if_pos rfl]

theorem transitionDirectoryBody_elsewhere (hrow : t.row transition.recoveryId = some row)
    (hvalid : ValidDirectory py row) (hnext : row.state ≠ transition.nextState)
    (hexpected : row.state ≠ transition.expectedState) :
    transitionDirectoryBody py transition t = (.ok none, t) := by
  unfold transitionDirectoryBody
  rw [DirectoryTables.load_valid hrow hvalid]
  dsimp only
  rw [if_neg hnext, if_pos hexpected]

def DirectoryCall.run (py : PythonLibrary) (call : DirectoryCall) (c : Connection DirectoryTables) :
    Except Raised Bool × Connection DirectoryTables :=
  (Mutation.directory call).performBounded py true c

def directoryConnection (py : PythonLibrary) :
    System (Connection DirectoryTables) DirectoryCall where
  init c := ∃ t : Tables DirectoryTables, t.directories = {} ∧ c = idle t
  step c call := some (call.run py c).2

section
variable {c : Connection DirectoryTables}

theorem statements_tables (call : DirectoryCall) (t : Tables DirectoryTables) :
    ((Mutation.directory call).bounded py true t).2 =
      { t with directories := (call.body py t.directories).2 } := by
  simp only [Mutation.bounded]
  split
  · rename_i hbody
    rw [hbody]
  · rename_i hbody
    rw [hbody]

theorem settled_run (hc : c.Settled) (call : DirectoryCall) :
    (call.run py c).2.Settled ∧
      DirectoryStep py c.current.directories (call.run py c).2.current.directories := by
  unfold DirectoryCall.run Mutation.performBounded
  split
  · exact ⟨hc, .same⟩
  · rename_i hcheck
    have hcheck : call.precheck py = .ok () := by
      simp only [Mutation.precheck] at hcheck
      split at hcheck
      · assumption
      · cases hcheck
    obtain ⟨hsettled, hbody | hkept⟩ := hc.execute ((Mutation.directory call).bounded py true)
    · refine ⟨hsettled, ?_⟩
      rw [hbody, statements_tables]
      exact directoryStep_of_body hcheck
    · rw [hkept]
      exact ⟨hc, .same⟩

theorem chained_of_reachable (h : (directoryConnection py).Reachable c) :
    c.Settled ∧ DirectoriesChained py c.current.directories := by
  refine System.ReachableWhen.invariant (P := fun s => s.Settled ∧
    DirectoriesChained py s.current.directories) (fun s hinit => ?_)
    (fun s call s' _ hs _ hstep => ?_) h
  · obtain ⟨t, hempty, rfl⟩ := hinit
    refine ⟨fun _ => rfl, ?_⟩
    show DirectoriesChained py t.directories
    rw [hempty]
    exact ⟨fun _ _ hrow => (by cases hrow), fun _ _ hrow => (by cases hrow), fun _ _ => rfl⟩
  · cases hstep
    obtain ⟨hsettled, hchange⟩ := settled_run hs.1 call
    exact ⟨hsettled, hs.2.step hchange⟩

variable {later : Connection DirectoryTables} {row : DirectoryRecoveryOperation}

theorem later_row (hc : c.Settled) (h : (directoryConnection py).Leads c later)
    (hrow : c.current.directories.row row.recoveryId = some row) :
    later.Settled ∧ ∃ found, later.current.directories.row row.recoveryId = some found ∧
      found.kind = row.kind ∧ ((found = row ∧ lifecycleEvents later.current.directories
        row.recoveryId = lifecycleEvents c.current.directories row.recoveryId) ∨
        (¬ row.kind.Ended row.state ∧ row.kind.rank row.state < row.kind.rank found.state)) := by
  induction h with
  | refl => exact ⟨hc, row, hrow, rfl, .inl ⟨rfl, rfl⟩⟩
  | @tail middle last _ hlast ih =>
    obtain ⟨hsettled, found, hfound, hkind, hahead⟩ := ih
    obtain ⟨call, hcall⟩ := hlast
    cases hcall
    obtain ⟨hsettled', hstep⟩ := settled_run hsettled call
    have hid : found.recoveryId = row.recoveryId := Table.lookup_key hfound
    refine ⟨hsettled', ?_⟩
    rcases hstep.stored (hid ▸ hfound) with ⟨hkept, hevents⟩ | hmoved
    · refine ⟨found, hid ▸ hkept, hkind, ?_⟩
      rcases hahead with ⟨rfl, hsame⟩ | hahead
      · exact .inl ⟨rfl, hevents.trans hsame⟩
      · exact .inr hahead
    · obtain ⟨updated, event, hupdated, -, -, -, hsignature, hfollows, hrank⟩ := hmoved
      have hkind' : updated.kind = found.kind :=
        (congrArg DirectoryRecoveryOperation.kind hsignature :
          updated.immutableSignature.kind = found.immutableSignature.kind)
      refine ⟨updated, hid ▸ hupdated, hkind'.trans hkind, .inr ?_⟩
      rw [hkind] at hrank hfollows
      rcases hahead with ⟨rfl, -⟩ | ⟨hrunning, hahead⟩
      · exact ⟨hfollows.running, hrank⟩
      · exact ⟨hrunning, hahead.trans hrank⟩

variable {value : Option DirectoryRecoveryOperation}

theorem run_unchanged (hc : c.Settled) (call : DirectoryCall) (hcheck : call.precheck py = .ok ())
    (hbody : call.body py c.current.directories = (.ok value, c.current.directories)) :
    call.run py c = (.ok value.isSome, c) := by
  obtain ⟨committed, current, inTransaction⟩ := c
  have hstatements : (Mutation.directory call).bounded py true current =
      (.ok value.isSome, current) := by
    simp only [Mutation.bounded]
    rw [show call.body py current.directories = (.ok value, current.directories) from hbody]
  simp only [DirectoryCall.run, Mutation.performBounded, Mutation.precheck, hcheck,
    Connection.execute,
    hstatements]
  cases inTransaction with
  | true => rfl
  | false =>
    have hsame : current = committed := hc rfl
    rw [hsame]
    rfl

variable {transition : DirectoryRecoveryTransition}

theorem run_transition_applied
    (h : (DirectoryCall.run py (.transition transition) c).1 = .ok true) :
    transitionDirectoryPrecheck transition = .ok () ∧ ∃ row,
      (DirectoryCall.run py (.transition transition) c).2.current.directories.row
        transition.recoveryId = some row ∧ Applied py transition row := by
  unfold DirectoryCall.run Mutation.performBounded at h ⊢
  simp only [Mutation.precheck, DirectoryCall.precheck] at h ⊢
  cases hcheck : transitionDirectoryPrecheck transition with
  | error raised =>
    rw [hcheck] at h
    cases h
  | ok _ =>
    rw [hcheck] at h
    obtain ⟨hresult, htables⟩ := Connection.execute_ok h
    refine ⟨rfl, ?_⟩
    rw [htables, statements_tables]
    simp only [Mutation.bounded, DirectoryCall.body] at hresult ⊢
    rcases hbody : transitionDirectoryBody py transition c.current.directories with
      ⟨raised | value, directories⟩
    · rw [hbody] at hresult
      cases hresult
    · rw [hbody] at hresult
      cases value with
      | none => cases hresult
      | some row =>
        have happlied := transitionDirectoryBody_applied (congrArg Prod.fst hbody)
        rw [hbody] at happlied
        exact ⟨row, happlied⟩

theorem replay_later (hc : (directoryConnection py).Reachable c)
    (h : (DirectoryCall.run py (.transition transition) c).1 = .ok true)
    (hlater : (directoryConnection py).Leads (DirectoryCall.run py (.transition transition) c).2
      later) : ∃ row, later.current.directories.row transition.recoveryId = some row ∧
      DirectoryCall.run py (.transition transition) later =
        (.ok (decide (row.state = transition.nextState)), later) := by
  obtain ⟨hcheck, row, hrow, happlied⟩ := run_transition_applied h
  have hreached : (directoryConnection py).Reachable
      (DirectoryCall.run py (.transition transition) c).2 := .step hc trivial rfl
  have hid : row.recoveryId = transition.recoveryId := Table.lookup_key hrow
  obtain ⟨hsettled, found, hfound, hkind, hahead⟩ :=
    later_row (chained_of_reachable hreached).1 hlater (hid ▸ hrow)
  rw [hid] at hfound
  refine ⟨found, hfound, ?_⟩
  rcases hahead with ⟨rfl, -⟩ | ⟨-, hrank⟩
  · rw [decide_eq_true happlied.state]
    exact run_unchanged hsettled (.transition transition) hcheck
      (transitionDirectoryBody_replayed hfound happlied)
  · obtain ⟨hvalid, -, -, -, -, hterminal, -⟩ :=
      validateDirectoryRecoveryTransition_iff.mp happlied.validated
    have hbehind := rank_lt_of_follows hvalid hterminal (follows_of_transition happlied.validated)
    have hnext : found.state ≠ transition.nextState := fun heq => by
      rw [heq, ← happlied.state] at hrank
      exact Nat.lt_irrefl _ hrank
    have hexpected : found.state ≠ transition.expectedState := fun heq => by
      rw [heq, happlied.state] at hrank
      exact absurd (hbehind.trans hrank) (Nat.lt_irrefl _)
    rw [decide_eq_false hnext]
    exact run_unchanged hsettled (.transition transition) hcheck
      (transitionDirectoryBody_elsewhere hfound
      ((chained_of_reachable (hlater.reachable hreached)).2.valid _ _ hfound) hnext hexpected)

/-- The events of each lifecycle are chained and lead to its state along the path of its kind; an
ended lifecycle stays, and a transition that comes again writes nothing. -/
theorem directory_machine (h : (directoryConnection py).Reachable c) :
    DirectoriesChained py c.current.directories ∧
    (∀ (call : DirectoryCall) (row : DirectoryRecoveryOperation),
      c.current.directories.row row.recoveryId = some row →
        ((call.run py c).2.current.directories.row row.recoveryId = some row ∧
          lifecycleEvents (call.run py c).2.current.directories row.recoveryId =
            lifecycleEvents c.current.directories row.recoveryId) ∨
          MovesOn c.current.directories (call.run py c).2.current.directories row) ∧
    (∀ (call : DirectoryCall) (recoveryId : String), c.current.directories.row recoveryId = none →
      ∀ row, (call.run py c).2.current.directories.row recoveryId = some row →
        row.state = row.kind.initialState) ∧
    (∀ row, c.current.directories.row row.recoveryId = some row → row.kind.Ended row.state →
      ∀ later, (directoryConnection py).Leads c later →
        later.current.directories.row row.recoveryId = some row ∧
          lifecycleEvents later.current.directories row.recoveryId =
            lifecycleEvents c.current.directories row.recoveryId) ∧
    ∀ transition, (DirectoryCall.run py (.transition transition) c).1 = .ok true → ∀ later,
      (directoryConnection py).Leads (DirectoryCall.run py (.transition transition) c).2 later →
        ∃ row, later.current.directories.row transition.recoveryId = some row ∧
          DirectoryCall.run py (.transition transition) later =
            (.ok (decide (row.state = transition.nextState)), later) := by
  obtain ⟨hsettled, hchained⟩ := chained_of_reachable h
  refine ⟨hchained, fun call row hrow => (settled_run hsettled call).2.stored hrow,
    fun call recoveryId hnone row hrow => (settled_run hsettled call).2.added hnone hrow,
    fun row hrow hended later hlater => ?_,
    fun transition htransition later hlater => replay_later h htransition hlater⟩
  obtain ⟨-, found, hfound, -, ⟨rfl, hevents⟩ | ⟨hrunning, -⟩⟩ := later_row hsettled hlater hrow
  · exact ⟨hfound, hevents⟩
  · exact absurd hended hrunning

theorem DirectoriesChained.next_free {t : DirectoryTables} (h : DirectoriesChained py t)
    (hrow : t.row row.recoveryId = some row) :
    t.hasEvent row.recoveryId (row.eventSequence + 1) = false := by
  by_contra hhas
  obtain ⟨event, hevent, hmatch⟩ := List.any_eq_true.mp (Bool.not_eq_false _ ▸ hhas)
  rw [Bool.and_eq_true, beq_iff_eq, beq_iff_eq] at hmatch
  have htrail := h.trails row.recoveryId row hrow
  have hmem : event ∈ lifecycleEvents t row.recoveryId :=
    List.mem_filter.mpr ⟨hevent, decide_eq_true hmatch.1⟩
  have hlt : event.eventSequence.toNat < 1 + (lifecycleEvents t row.recoveryId).length :=
    htrail.chain.sequence_lt hmem
  have hlength := htrail.sequence
  omega

theorem run_returned (call : DirectoryCall) {directories : DirectoryTables}
    (hcheck : call.precheck py = .ok ())
    (hbody : call.body py c.current.directories = (.ok value, directories)) :
    (call.run py c).1 = .ok value.isSome ∧ (call.run py c).2.current.directories = directories := by
  have hstatements : (Mutation.directory call).bounded py true c.current =
      (.ok value.isSome, { c.current with directories }) := by
    simp only [Mutation.bounded]
    rw [hbody]
  simp only [DirectoryCall.run, Mutation.performBounded, Mutation.precheck, hcheck,
    Connection.execute,
    hstatements]
  cases c.inTransaction with
  | true => exact ⟨rfl, rfl⟩
  | false => exact ⟨rfl, rfl⟩

theorem run_transition_moved (h : (directoryConnection py).Reachable c)
    (transition : DirectoryRecoveryTransition)
    (hrow : c.current.directories.row row.recoveryId = some row)
    (hid : transition.recoveryId = row.recoveryId)
    (hexpected : transition.expectedState = row.state)
    (hprocess : trimmed transition.processInstanceId = true) (hpayload : transition.payload = [])
    (hmanaged : transition.managedObjectId = none) (herror : transition.lastErrorCode = none)
    (hterminal : directoryRecoveryIsTerminal row = false)
    (hadvances : row.kind.advances row.state transition.nextState = true) :
    (DirectoryCall.run py (.transition transition) c).1 = .ok true ∧
      ∃ updated, (DirectoryCall.run py (.transition transition) c).2.current.directories.row
        row.recoveryId = some updated ∧ updated.kind = row.kind ∧
          updated.state = transition.nextState := by
  obtain ⟨-, hchained⟩ := chained_of_reachable h
  have hvalid := hchained.valid _ _ hrow
  have hpath : transition.nextState ≠ row.kind.conflictState := fun heq =>
    row.kind.conflictState_notMem (heq ▸ DirectoryRecoveryKind.advances_mem hadvances)
  have htransition : validateDirectoryRecoveryTransition py row transition = .ok () :=
    validateDirectoryRecoveryTransition_iff.mpr ⟨hvalid, hid, hexpected, hprocess,
      hpayload ▸ rfl, hterminal, by rw [if_neg hpath]; exact hadvances⟩
  have hne : row.state ≠ transition.nextState := fun heq => by
    have hlt := row.kind.rank_lt_of_advances hadvances
    rw [heq] at hlt
    exact Nat.lt_irrefl _ hlt
  have hcheck : (DirectoryCall.transition transition).precheck py = .ok () := by
    show transitionDirectoryPrecheck transition = .ok ()
    rw [transitionDirectoryPrecheck, hprocess]
    rfl
  have hbody := advanceDirectoryBody_outcome (hid ▸ hrow) hvalid hne hexpected.symm
  have hsame : transitionDirectoryBody py transition c.current.directories =
      advanceDirectoryBody py row transition c.current.directories := by
    unfold transitionDirectoryBody
    rw [DirectoryTables.load_valid (hid ▸ hrow) hvalid]
    dsimp only
    rw [if_neg hne, if_neg (not_not.mpr hexpected.symm)]
  rcases hended : advanceDirectoryBody py row transition c.current.directories with
    ⟨result, directories⟩
  rw [hended] at hbody hsame
  have hstored : c.current.directories.row transition.recoveryId = some row := hid ▸ hrow
  cases hbody with
  | missing hnone =>
    rw [hstored] at hnone
    cases hnone
  | elsewhere old hold _ _ hother =>
    rw [hstored] at hold
    cases hold
    exact absurd hexpected.symm hother
  | invalidRow old raised hold hinvalid =>
    rw [hstored] at hold
    cases hold
    rw [validateDirectoryRecoveryOperation_iff.mpr hvalid] at hinvalid
    cases hinvalid
  | invalidReplay old raised hold _ hnext _ =>
    rw [hstored] at hold
    cases hold
    exact absurd hnext hne
  | replayed old hold _ hnext _ =>
    rw [hstored] at hold
    cases hold
    exact absurd hnext hne
  | replayConflict old hold _ hnext _ =>
    rw [hstored] at hold
    cases hold
    exact absurd hnext hne
  | invalid old raised hold _ _ _ hinvalid =>
    rw [hstored] at hold
    cases hold
    rw [htransition] at hinvalid
    cases hinvalid
  | refused old hold _ _ _ _ hwhy =>
    rw [hstored] at hold
    cases hold
    rw [hmanaged, herror, hchained.next_free hrow] at hwhy
    simp at hwhy
  | moved old updated hold _ _ _ _ _ event hsignature hid' hstate _ _ =>
    rw [hstored] at hold
    cases hold
    obtain ⟨hresult, htables⟩ := run_returned (.transition transition) hcheck hsame
    refine ⟨hresult, updated, ?_, ?_, hstate⟩
    · rw [htables]
      exact DirectoryTables.row_write hrow updated event hid'
    · exact (congrArg DirectoryRecoveryOperation.kind hsignature :
        updated.immutableSignature.kind = row.immutableSignature.kind)

def emptyJournal : Connection DirectoryTables := idle { directories := {} }

def newDirectory : DirectoryRecoveryOperation where
  recoveryId := "directory-a"
  operationId := "operation-a"
  runId := "run-a"
  runTargetId := "run-a-target-0000"
  targetEndpointId := "target-a"
  targetEndpointRevisionId := "target-rev-a"
  ownerInstallationId := "owner-a"
  ownershipEpoch := 1
  kind := .create
  state := .directoryPlanned
  finalRelativePath := "Photos/2026"

def newTransition (expectedState nextState : DirectoryRecoveryState) :
    DirectoryRecoveryTransition where
  recoveryId := "directory-a"
  expectedState
  nextState
  processInstanceId := "process-a"
  payload := []

/-- The connection after a call. -/
def DirectoryCall.after (py : PythonLibrary) (call : DirectoryCall)
    (c : Connection DirectoryTables) : Connection DirectoryTables := (call.run py c).2

-- on concrete calls the kernel would run them to see this
theorem run_snd (py : PythonLibrary) (call : DirectoryCall) (c : Connection DirectoryTables) :
    (call.run py c).2 = call.after py c := rfl

theorem reachable_after {py : PythonLibrary} {c : Connection DirectoryTables}
    (h : (directoryConnection py).Reachable c) (call : DirectoryCall) :
    (directoryConnection py).Reachable (call.after py c) := .step h trivial rfl

def recordedJournal : Connection DirectoryTables :=
  (DirectoryCall.record newDirectory "process-a" none).after plainPython emptyJournal

theorem reachable_recordedJournal : (directoryConnection plainPython).Reachable recordedJournal :=
  reachable_after (.init ⟨_, rfl, rfl⟩) (.record newDirectory "process-a" none)

theorem recordedJournal_row : ∃ row, recordedJournal.current.directories.row "directory-a" =
    some row ∧ row.recoveryId = "directory-a" ∧ row.kind = .create ∧
      row.state = .directoryPlanned := by
  have hcheck : (DirectoryCall.record newDirectory "process-a" none).precheck plainPython =
      .ok () := by decide
  have hvalid : ValidDirectory plainPython newDirectory :=
    validateDirectoryRecoveryOperation_iff.mp (by decide)
  have houtcome : RecordOutcome plainPython newDirectory none {} _ :=
    recordDirectoryBody_outcome hvalid "process-a" none
  rcases hbody : recordDirectoryBody plainPython newDirectory "process-a" none {} with
    ⟨result, directories⟩
  rw [hbody] at houtcome
  cases houtcome with
  | invalidRow _ _ hrow _ => cases hrow
  | clash _ hrow _ _ _ => cases hrow
  | existing _ hrow _ _ => cases hrow
  | refused _ haccepts _ => exact absurd haccepts (by decide)
  | unwritable _ _ hfinite _ _ => exact absurd hfinite (by decide)
  | eventClash _ _ _ hevent _ _ => exact absurd hevent (by decide)
  | recorded hnone _ _ _ row event hid hstate hsignature _ =>
    obtain ⟨-, htables⟩ := run_returned (c := emptyJournal)
      (.record newDirectory "process-a" none) hcheck hbody
    refine ⟨row, ?_, hid, ?_, hstate⟩
    · rw [recordedJournal, ← run_snd, htables]
      have hinserted : ({ operations := Table.insert [] newDirectory } : DirectoryTables).row
          newDirectory.recoveryId = some newDirectory := Table.lookup_insert_self hnone
      exact DirectoryTables.row_write hinserted row event hid
    · exact (congrArg DirectoryRecoveryOperation.kind hsignature :
        row.immutableSignature.kind = newDirectory.immutableSignature.kind)

def validateParent : DirectoryCall :=
  .transition (newTransition .directoryPlanned .directoryParentValidated)

def recordIntent : DirectoryCall :=
  .transition (newTransition .directoryParentValidated .directoryCreateIntentRecorded)

def validatedJournal : Connection DirectoryTables :=
  validateParent.after plainPython recordedJournal

def intendedJournal : Connection DirectoryTables :=
  recordIntent.after plainPython validatedJournal

theorem reachable_validatedJournal : (directoryConnection plainPython).Reachable validatedJournal :=
  reachable_after reachable_recordedJournal validateParent

theorem reachable_intendedJournal : (directoryConnection plainPython).Reachable intendedJournal :=
  reachable_after reachable_validatedJournal recordIntent

theorem validatedJournal_row : (validateParent.run plainPython recordedJournal).1 = .ok true ∧
    ∃ row, validatedJournal.current.directories.row "directory-a" = some row ∧
      row.recoveryId = "directory-a" ∧ row.kind = .create ∧
        row.state = .directoryParentValidated := by
  obtain ⟨row, hrow, hid, hkind, hstate⟩ := recordedJournal_row
  obtain ⟨hfirst, updated, hupdated, hkind', hstate'⟩ := run_transition_moved
    reachable_recordedJournal (newTransition .directoryPlanned .directoryParentValidated)
    (hid ▸ hrow) hid.symm hstate.symm (by decide) rfl rfl rfl
    (by rw [directoryRecoveryIsTerminal, hkind, hstate]; decide)
    (by rw [hkind, hstate]; decide)
  rw [hid, run_snd] at hupdated
  exact ⟨hfirst, updated, hupdated, Table.lookup_key hupdated, hkind'.trans hkind, hstate'⟩

theorem intendedJournal_row : (recordIntent.run plainPython validatedJournal).1 = .ok true ∧
    ∃ row, intendedJournal.current.directories.row "directory-a" = some row ∧
      row.state = .directoryCreateIntentRecorded := by
  obtain ⟨-, row, hrow, hid, hkind, hstate⟩ := validatedJournal_row
  obtain ⟨hsecond, last, hlast, -, hstate'⟩ := run_transition_moved
    reachable_validatedJournal
    (newTransition .directoryParentValidated .directoryCreateIntentRecorded)
    (hid ▸ hrow) hid.symm hstate.symm (by decide) rfl rfl rfl
    (by rw [directoryRecoveryIsTerminal, hkind, hstate]; decide)
    (by rw [hkind, hstate]; decide)
  rw [hid, run_snd] at hlast
  exact ⟨hsecond, last, hlast, hstate'⟩

/-- The chain after two transitions, and every replay of the first of them. -/
theorem directory_machine_replayed :
    DirectoriesChained plainPython intendedJournal.current.directories ∧
    ∀ later, (directoryConnection plainPython).Leads validatedJournal later →
      ∃ row, later.current.directories.row "directory-a" = some row ∧
        validateParent.run plainPython later =
          (.ok (decide (row.state = .directoryParentValidated)), later) := by
  refine ⟨(directory_machine reachable_intendedJournal).1, ?_⟩
  have hreplays := (directory_machine reachable_recordedJournal).2.2.2.2
    (newTransition .directoryPlanned .directoryParentValidated) validatedJournal_row.1
  rw [run_snd] at hreplays
  exact hreplays

/-- A transition that was applied returns nothing when it comes again after the next one. -/
theorem stale_replay_returns_nothing :
    let first :=
      DirectoryCall.transition (newTransition .directoryPlanned .directoryParentValidated)
    let second := DirectoryCall.transition
      (newTransition .directoryParentValidated .directoryCreateIntentRecorded)
    (first.run plainPython recordedJournal).1 = .ok true ∧
      (second.run plainPython (first.run plainPython recordedJournal).2).1 = .ok true ∧
      (first.run plainPython
        (second.run plainPython (first.run plainPython recordedJournal).2).2).1 = .ok false := by
  dsimp only
  obtain ⟨hfirst, -⟩ := validatedJournal_row
  obtain ⟨hsecond, last, hlast, hstate⟩ := intendedJournal_row
  obtain ⟨found, hfound, hreplay⟩ := replay_later reachable_recordedJournal hfirst
    (.single ⟨recordIntent, rfl⟩)
  rw [run_snd, run_snd] at hfound hreplay ⊢
  refine ⟨hfirst, hsecond, ?_⟩
  have hsame : found = last := Option.some.inj (hfound.symm.trans hlast)
  exact (congrArg Prod.fst hreplay).trans (by rw [hsame, hstate]; decide)

end

end MediaSync.Recovery
