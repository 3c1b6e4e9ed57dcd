import MediaSync.Foundation.Transition
import MediaSync.Recovery.LeaseStore
import MediaSync.Recovery.IntentStore
import MediaSync.Recovery.OperationStore

/-! The journal under arbitrary calls of the operation store, interleaved with the lease store, the
segment store and the transactions of outer callers. -/
namespace MediaSync.Recovery
open Text Transition

variable {Dir : Type}

def trail (events : List RecoveryEvent) (key : String × String) : List RecoveryEvent :=
  events.filter fun event => event.key = key

/-- A trail that starts at `planned` and follows journal edges to `phase`. -/
inductive JournalPath : List RecoveryEvent → Phase → Prop
  | planned {event : RecoveryEvent} (hfrom : event.fromPhase = none)
      (hto : event.toPhase = .planned) : JournalPath [event] .planned
  | step {events : List RecoveryEvent} {phase : Phase} {event : RecoveryEvent}
      (hpath : JournalPath events phase) (hfrom : event.fromPhase = some phase)
      (hedge : Phase.journalEdge phase event.toPhase = true) :
      JournalPath (events ++ [event]) event.toPhase

structure PhaseSafe (t : Tables Dir) : Prop where
  /-- Each operation's events lead along journal edges to its stored phase. -/
  path : ∀ operation ∈ t.operations,
    JournalPath (trail t.events operation.key) operation.phase
  /-- At or beyond commit intent, the operation passed it and its segment is durable. -/
  intent : ∀ operation ∈ t.operations, operation.phase ∈ Phase.phasesRequiringIntent →
    (∃ event ∈ trail t.events operation.key, event.toPhase = .commitIntentRecorded) ∧
    ∃ segment ∈ t.segments, operation.intentSegmentId = some segment.segmentId ∧
      Tables.segmentBinds segment operation = true
  cleaned : ∀ event ∈ t.events, event.toPhase = .cleaned →
    event.fromPhase = some .catalogRecorded
  handoff : ∀ operation ∈ t.operations,
    operation.phase ∈ Phase.phasesRequiringCatalogHandoff →
    someNonBlank operation.catalogHandoffId = true
  terminal : ∀ event ∈ t.events, ∀ phase, event.fromPhase = some phase →
    phase ∉ Phase.terminalPhases

/-- `PhaseSafe` with the key constraints that carry it from one state to the next. -/
structure JournalInvariant (t : Tables Dir) : Prop extends PhaseSafe t where
  keys : Table.KeysUnique RecoveryOperation.key t.operations
  owned : ∀ event ∈ t.events, ∃ operation ∈ t.operations, operation.key = event.key

variable {events : List RecoveryEvent}

theorem JournalPath.passed_commitIntent {phase : Phase} (h : JournalPath events phase)
    (hp : phase ∈ Phase.phasesRequiringIntent) :
    ∃ event ∈ events, event.toPhase = .commitIntentRecorded := by
  induction h with
  | planned _ _ => exact absurd hp (by decide)
  | @step events phase event _ _ hedge ih =>
    rcases Phase.journalEdge_into_intent hedge hp with hcommit | hbefore
    · exact ⟨event, by simp, hcommit⟩
    · obtain ⟨earlier, hmem, hto⟩ := ih hbefore
      exact ⟨earlier, List.mem_append_left _ hmem, hto⟩

def SameBinding (a b : RecoveryOperation) : Prop :=
  a.intentSegmentId = b.intentSegmentId ∧
    ∀ segment, Tables.segmentBinds segment a = Tables.segmentBinds segment b

/-- The effect of a step on the operations, the events and the segments. -/
inductive Moves (t t' : Tables Dir) : Prop
  | kept (hops : t'.operations = t.operations) (hevents : t'.events = t.events)
      (hsegments : SegmentsKept t.segments t'.segments)
  | planned (operation : RecoveryOperation) (event : RecoveryEvent)
      (hfresh : Table.lookup RecoveryOperation.key t.operations operation.key = none)
      (hphase : operation.phase = .planned)
      (hops : t'.operations = Table.insert t.operations operation)
      (hevents : t'.events = t.events ++ [event]) (hsegments : t'.segments = t.segments)
      (hkey : event.key = operation.key) (hfrom : event.fromPhase = none)
      (hto : event.toPhase = .planned)
  | moved (operation updated : RecoveryOperation) (event : RecoveryEvent)
      (hmem : operation ∈ t.operations) (hsame : updated.key = operation.key)
      (hops : t'.operations = Table.overwrite RecoveryOperation.key t.operations updated)
      (hevents : t'.events = t.events ++ [event]) (hsegments : t'.segments = t.segments)
      (hkey : event.key = operation.key) (hfrom : event.fromPhase = some operation.phase)
      (hto : event.toPhase = updated.phase)
      (hedge : Phase.journalEdge operation.phase updated.phase = true)
      (hintent : updated.phase ∈ Phase.phasesRequiringIntent →
        (operation.phase ∈ Phase.phasesRequiringIntent ∧ SameBinding updated operation) ∨
        ∃ segment ∈ t.segments, updated.intentSegmentId = some segment.segmentId ∧
          Tables.segmentBinds segment updated = true)
      (hhandoff : updated.phase ∈ Phase.phasesRequiringCatalogHandoff →
        someNonBlank updated.catalogHandoffId = true)

variable {t : Tables Dir}

theorem Moves.unchanged : Moves t t := .kept rfl rfl (.refl _)

variable {segment segment' : IntentSegment} {operation : RecoveryOperation}

theorem segmentBinds_evidence (h : segment'.evidence = segment.evidence) :
    Tables.segmentBinds segment' operation = Tables.segmentBinds segment operation := by
  have hs : ∀ s : IntentSegment,
      Tables.segmentBinds s operation = Tables.segmentBinds s.evidence operation := fun _ => rfl
  rw [hs segment', hs segment, h]

theorem segmentId_evidence (h : segment'.evidence = segment.evidence) :
    segment'.segmentId = segment.segmentId := by
  simpa [IntentSegment.evidence] using congrArg IntentSegment.segmentId h

variable {event : RecoveryEvent} {key : String × String}

theorem trail_append_self (h : event.key = key) :
    trail (events ++ [event]) key = trail events key ++ [event] := by
  simp [trail, h]

theorem trail_append_other (h : event.key ≠ key) :
    trail (events ++ [event]) key = trail events key := by
  simp [trail, h]

theorem trail_fresh (hinv : JournalInvariant t)
    (h : Table.lookup RecoveryOperation.key t.operations key = none) : trail t.events key = [] := by
  rw [trail, List.filter_eq_nil_iff]
  intro event he
  obtain ⟨operation, hmem, hk⟩ := hinv.owned event he
  simp only [decide_eq_true_eq]
  intro hkey
  exact Table.lookup_none_iff.mp h operation hmem (hk.trans hkey)

theorem JournalInvariant.planned {t t' : Tables Dir} (hinv : JournalInvariant t)
    (hfresh : Table.lookup RecoveryOperation.key t.operations operation.key = none)
    (hphase : operation.phase = .planned)
    (hops : t'.operations = Table.insert t.operations operation)
    (hevents : t'.events = t.events ++ [event]) (hsegments : t'.segments = t.segments)
    (hkey : event.key = operation.key) (hfrom : event.fromPhase = none)
    (hto : event.toPhase = .planned) : JournalInvariant t' := by
  have hne : ∀ other ∈ t.operations, event.key ≠ other.key := fun other hmem heq =>
    Table.lookup_none_iff.mp hfresh other hmem (heq.symm.trans hkey)
  refine { path := ?_, intent := ?_, cleaned := ?_, handoff := ?_, terminal := ?_,
           keys := ?_, owned := ?_ }
  · intro other hother
    rw [hops] at hother
    rw [hevents]
    rcases Table.mem_insert.mp hother with hold | rfl
    · rw [trail_append_other (hne other hold)]
      exact hinv.path other hold
    · rw [trail_append_self hkey, trail_fresh hinv hfresh, hphase]
      exact .planned hfrom hto
  · intro other hother hp
    rw [hops] at hother
    rcases Table.mem_insert.mp hother with hold | rfl
    · rw [hevents, trail_append_other (hne other hold), hsegments]
      exact hinv.intent other hold hp
    · rw [hphase] at hp
      exact absurd hp (by decide)
  · intro e he hclean
    rw [hevents] at he
    rcases List.mem_append.mp he with hold | hnew
    · exact hinv.cleaned e hold hclean
    · rw [List.mem_singleton.mp hnew, hto] at hclean
      cases hclean
  · intro other hother hp
    rw [hops] at hother
    rcases Table.mem_insert.mp hother with hold | rfl
    · exact hinv.handoff other hold hp
    · rw [hphase] at hp
      exact absurd hp (by decide)
  · intro e he phase hphase'
    rw [hevents] at he
    rcases List.mem_append.mp he with hold | hnew
    · exact hinv.terminal e hold phase hphase'
    · rw [List.mem_singleton.mp hnew, hfrom] at hphase'
      cases hphase'
  · rw [hops]
    exact hinv.keys.insert hfresh
  · intro e he
    rw [hevents] at he
    rw [hops]
    rcases List.mem_append.mp he with hold | hnew
    · obtain ⟨other, hmem, hk⟩ := hinv.owned e hold
      exact ⟨other, Table.mem_insert.mpr (.inl hmem), hk⟩
    · rw [List.mem_singleton.mp hnew]
      exact ⟨operation, Table.mem_insert.mpr (.inr rfl), hkey.symm⟩

structure LegalMove (t : Tables Dir) (operation updated : RecoveryOperation) : Prop where
  same : updated.key = operation.key
  edge : Phase.journalEdge operation.phase updated.phase = true
  intent : updated.phase ∈ Phase.phasesRequiringIntent →
    (operation.phase ∈ Phase.phasesRequiringIntent ∧ SameBinding updated operation) ∨
    ∃ segment ∈ t.segments, updated.intentSegmentId = some segment.segmentId ∧
      Tables.segmentBinds segment updated = true
  handoff : updated.phase ∈ Phase.phasesRequiringCatalogHandoff →
    someNonBlank updated.catalogHandoffId = true

theorem JournalInvariant.moved {t t' : Tables Dir} (hinv : JournalInvariant t)
    {operation updated : RecoveryOperation} (hmem : operation ∈ t.operations)
    (hmove : LegalMove t operation updated)
    (hops : t'.operations = Table.overwrite RecoveryOperation.key t.operations updated)
    (hevents : t'.events = t.events ++ [event]) (hsegments : t'.segments = t.segments)
    (hkey : event.key = operation.key) (hfrom : event.fromPhase = some operation.phase)
    (hto : event.toPhase = updated.phase) : JournalInvariant t' := by
  obtain ⟨hsame, hedge, hintent, hhandoff⟩ := hmove
  have hpath : JournalPath (trail t'.events updated.key) updated.phase := by
    rw [hevents, hsame, trail_append_self hkey, ← hto]
    exact .step (hinv.path operation hmem) hfrom (hto ▸ hedge)
  -- any row of the new table is the moved one or an old one under another key
  have hrow : ∀ other ∈ t'.operations,
      other = updated ∨ (other ∈ t.operations ∧ event.key ≠ other.key) := by
    intro other hother
    rw [hops] at hother
    rcases Table.mem_overwrite hother with rfl | ⟨hold, hk⟩
    · exact .inl rfl
    · exact .inr ⟨hold, fun heq => hk (heq.symm.trans (hkey.trans hsame.symm))⟩
  refine { path := ?_, intent := ?_, cleaned := ?_, handoff := ?_, terminal := ?_,
           keys := ?_, owned := ?_ }
  · intro other hother
    rcases hrow other hother with rfl | ⟨hold, hne⟩
    · exact hpath
    · rw [hevents, trail_append_other hne]
      exact hinv.path other hold
  · intro other hother hp
    rcases hrow other hother with rfl | ⟨hold, hne⟩
    · refine ⟨hpath.passed_commitIntent hp, ?_⟩
      rw [hsegments]
      rcases hintent hp with ⟨hbefore, hbind⟩ | hnew
      · obtain ⟨segment, hs, hid, hb⟩ := (hinv.intent operation hmem hbefore).2
        exact ⟨segment, hs, hbind.1.trans hid, (hbind.2 segment).trans hb⟩
      · exact hnew
    · rw [hevents, trail_append_other hne, hsegments]
      exact hinv.intent other hold hp
  · intro e he hclean
    rw [hevents] at he
    rcases List.mem_append.mp he with hold | hnew
    · exact hinv.cleaned e hold hclean
    · rw [List.mem_singleton.mp hnew] at hclean ⊢
      rw [hto] at hclean
      rw [hclean] at hedge
      rw [hfrom, Phase.journalEdge_into_cleaned hedge]
  · intro other hother hp
    rcases hrow other hother with rfl | ⟨hold, _⟩
    · exact hhandoff hp
    · exact hinv.handoff other hold hp
  · intro e he phase hphase
    rw [hevents] at he
    rcases List.mem_append.mp he with hold | hnew
    · exact hinv.terminal e hold phase hphase
    · rw [List.mem_singleton.mp hnew, hfrom] at hphase
      cases hphase
      exact Phase.journalEdge_source hedge
  · rw [hops]
    exact hinv.keys.overwrite
  · intro e he
    rw [hevents] at he
    rw [hops]
    have hold : ∀ k, (∃ other ∈ t.operations, other.key = k) →
        ∃ other ∈ Table.overwrite RecoveryOperation.key t.operations updated, other.key = k := by
      rintro k ⟨other, hother, rfl⟩
      by_cases hk : other.key = updated.key
      · exact ⟨updated, Table.mem_overwrite_self hother hk, hk.symm⟩
      · exact ⟨other, Table.mem_overwrite_of_ne hother hk, rfl⟩
    rcases List.mem_append.mp he with hbefore | hnew
    · exact hold e.key (hinv.owned e hbefore)
    · rw [List.mem_singleton.mp hnew]
      exact hold event.key ⟨operation, hmem, hkey.symm⟩

theorem JournalInvariant.kept {t t' : Tables Dir} (hinv : JournalInvariant t)
    (hops : t'.operations = t.operations) (hevents : t'.events = t.events)
    (hsegments : SegmentsKept t.segments t'.segments) : JournalInvariant t' where
  path := by rw [hops, hevents]; exact hinv.path
  intent := by
    intro operation hmem hp
    rw [hops] at hmem
    obtain ⟨hpassed, segment, hs, hid, hb⟩ := hinv.intent operation hmem hp
    obtain ⟨segment', hs', he⟩ := hsegments segment hs
    rw [hevents]
    refine ⟨hpassed, segment', hs', ?_, (segmentBinds_evidence he).trans hb⟩
    rw [hid, segmentId_evidence he]
  cleaned := by rw [hevents]; exact hinv.cleaned
  handoff := by rw [hops]; exact hinv.handoff
  terminal := by rw [hevents]; exact hinv.terminal
  keys := by rw [hops]; exact hinv.keys
  owned := by rw [hops, hevents]; exact hinv.owned

theorem JournalInvariant.moves {t t' : Tables Dir} (hinv : JournalInvariant t)
    (h : Moves t t') : JournalInvariant t' := by
  cases h with
  | kept hops hevents hsegments => exact hinv.kept hops hevents hsegments
  | planned operation event hfresh hphase hops hevents hsegments hkey hfrom hto =>
    exact hinv.planned hfresh hphase hops hevents hsegments hkey hfrom hto
  | moved operation updated event hmem hsame hops hevents hsegments hkey hfrom hto hedge hintent
      hhandoff =>
    exact hinv.moved hmem ⟨hsame, hedge, hintent, hhandoff⟩ hops hevents hsegments hkey hfrom hto

/-- The transition that slips through: into `cleaned` from another phase than
`catalogRecorded`, for an operation that already carries an intent binding and a handoff id. -/
def CleansEarly (t : Tables Dir) (args : TransitionArgs) : Prop :=
  args.nextPhase = .cleaned ∧ args.expectedPhase ≠ .catalogRecorded ∧
    ∃ operation, t.loadOperation args.runId args.operationId = some operation ∧
      operation.phase = args.expectedPhase ∧ t.activeMatchingLease operation = true ∧
      someNonBlank operation.intentSegmentId = true ∧
      someNonBlank operation.catalogHandoffId = true

theorem loadOperation_mem {runId operationId : String}
    (h : t.loadOperation runId operationId = some operation) :
    operation ∈ t.operations := Table.lookup_mem h

/-- The spec of `operationAfterTransition`: the row that a transition writes. -/
structure TransitionSpec (py : PythonLibrary) (operation updated : RecoveryOperation)
    (args : TransitionArgs) : Prop where
  key : updated.key = operation.key
  phase : updated.phase = args.nextPhase
  valid : validateRecoveryOperation py updated = .ok ()
  lease : ∀ {Dir : Type} (t : Tables Dir),
    t.activeMatchingLease updated = t.activeMatchingLease operation
  binding : args.nextPhase ≠ .commitIntentRecorded → SameBinding updated operation
  handoff : args.nextPhase ≠ .catalogRecorded →
    updated.catalogHandoffId = operation.catalogHandoffId

theorem withMetadata_key (operation : RecoveryOperation)
    (metadata : Option RecoveryOperationMetadata) :
    (operation.withMetadata metadata).key = operation.key := by
  cases metadata <;> rfl

theorem withMetadata_phase (operation : RecoveryOperation)
    (metadata : Option RecoveryOperationMetadata) :
    (operation.withMetadata metadata).phase = operation.phase := by
  cases metadata <;> rfl

theorem withMetadata_lease (operation : RecoveryOperation)
    (metadata : Option RecoveryOperationMetadata) :
    t.activeMatchingLease (operation.withMetadata metadata) = t.activeMatchingLease operation := by
  cases metadata <;> rfl

theorem withMetadata_binding (operation : RecoveryOperation)
    (metadata : Option RecoveryOperationMetadata) :
    SameBinding (operation.withMetadata metadata) operation := by
  cases metadata <;> exact ⟨rfl, fun _ => rfl⟩

theorem withMetadata_handoff (operation : RecoveryOperation)
    (metadata : Option RecoveryOperationMetadata) :
    (operation.withMetadata metadata).catalogHandoffId = operation.catalogHandoffId := by
  cases metadata <;> rfl

theorem raiseViolation_ok {checked : Except String Unit} {u : Unit}
    (h : raiseViolation checked = .ok u) : checked = .ok () := by
  cases checked with
  | error code => simp [raiseViolation] at h
  | ok _ => rfl

variable {args : TransitionArgs}

theorem operationAfterTransition_spec {py : PythonLibrary} {operation updated : RecoveryOperation}
    (h : operationAfterTransition py operation args = .ok updated) :
    TransitionSpec py operation updated args := by
  unfold operationAfterTransition at h
  obtain ⟨moved, hmoved, h⟩ := except_bind_ok h
  obtain ⟨_, hvalid, h⟩ := except_bind_ok h
  unfold operationInPhase at hmoved
  have hvalid := raiseViolation_ok hvalid
  cases h
  by_cases hcommit : args.nextPhase = .commitIntentRecorded
  · rw [if_pos hcommit] at hmoved
    obtain ⟨_, -, hmoved⟩ := except_bind_ok hmoved
    obtain ⟨_, -, hmoved⟩ := except_bind_ok hmoved
    cases hmoved
    exact ⟨withMetadata_key _ _, withMetadata_phase _ _, hvalid, fun t => withMetadata_lease _ _,
      fun hne => absurd hcommit hne, fun _ => withMetadata_handoff _ _⟩
  · rw [if_neg hcommit] at hmoved
    by_cases hcatalog : args.nextPhase = .catalogRecorded
    · rw [if_pos hcatalog] at hmoved
      obtain ⟨_, -, hmoved⟩ := except_bind_ok hmoved
      obtain ⟨_, -, hmoved⟩ := except_bind_ok hmoved
      cases hmoved
      exact ⟨withMetadata_key _ _, withMetadata_phase _ _, hvalid,
        fun t => withMetadata_lease _ _, fun _ => withMetadata_binding _ _,
        fun hne => absurd hcatalog hne⟩
    · rw [if_neg hcatalog] at hmoved
      obtain ⟨_, -, hmoved⟩ := except_bind_ok hmoved
      obtain ⟨_, -, hmoved⟩ := except_bind_ok hmoved
      cases hmoved
      exact ⟨withMetadata_key _ _, withMetadata_phase _ _, hvalid,
        fun t => withMetadata_lease _ _, fun _ => withMetadata_binding _ _,
        fun _ => withMetadata_handoff _ _⟩

theorem matchingIntentSegment_mem (h : t.matchingIntentSegment operation = true) :
    ∃ segment ∈ t.segments, operation.intentSegmentId = some segment.segmentId ∧
      Tables.segmentBinds segment operation = true := by
  unfold Tables.matchingIntentSegment at h
  split at h
  · cases h
  · rename_i segment hload
    obtain ⟨segmentId, hid, hfind⟩ := Option.bind_eq_some_iff.mp hload
    rw [Bool.and_eq_true] at h
    exact ⟨segment, Table.lookup_mem hfind, by rw [hid, Table.lookup_key hfind], h.1⟩

theorem moves_recordChange {operation updated : RecoveryOperation} (hmem : operation ∈ t.operations)
    (hmove : LegalMove t operation updated) (processInstanceId : String)
    (payload : Option Payload) :
    Moves t (t.recordChange operation updated processInstanceId payload) := by
  obtain ⟨event, hevents, hkey, hfrom, hto⟩ := Tables.appendEvent_events
    { t with operations := Table.overwrite RecoveryOperation.key t.operations updated }
    operation.runId operation.operationId (some operation.phase) updated.phase
    processInstanceId payload
  exact .moved operation updated event hmem hmove.same rfl hevents rfl hkey hfrom hto hmove.edge
    hmove.intent hmove.handoff

theorem moves_andThen {t t' : Tables Dir} {α : Type} {value : α} {body : Body Dir Unit}
    (h : Moves t t') (hops : (body t').2.operations = t'.operations)
    (hevents : (body t').2.events = t'.events) (hsegments : (body t').2.segments = t'.segments) :
    Moves t (body.andThen value t').2 := by
  have hsame : (body.andThen value t').2 = (body t').2 := by
    unfold Body.andThen
    rcases body t' with ⟨raised | ⟨⟩, after⟩ <;> rfl
  rw [hsame]
  cases h with
  | kept ho he hs =>
    exact .kept (hops.trans ho) (hevents.trans he) (hsegments ▸ hs)
  | planned operation event hfresh hphase ho he hs hkey hfrom hto =>
    exact .planned operation event hfresh hphase (hops.trans ho) (hevents.trans he)
      (hsegments.trans hs) hkey hfrom hto
  | moved operation updated event hmem hsame ho he hs hkey hfrom hto hedge hintent hhandoff =>
    exact .moved operation updated event hmem hsame (hops.trans ho) (hevents.trans he)
      (hsegments.trans hs) hkey hfrom hto hedge hintent hhandoff

theorem recordDirectory_frame (dirs : Option (DirectoryRecoveryStore Dir))
    (operation : RecoveryOperation) (processInstanceId : String) (t : Tables Dir) :
    let t' := (recordDirectoryRecoveryIfApplicable dirs operation processInstanceId t).2
    t'.operations = t.operations ∧ t'.events = t.events ∧ t'.segments = t.segments := by
  unfold recordDirectoryRecoveryIfApplicable
  dsimp only
  split
  · split <;> exact ⟨rfl, rfl, rfl⟩
  · exact ⟨rfl, rfl, rfl⟩

theorem catalogTerminal_frame (dirs : Option (DirectoryRecoveryStore Dir))
    (operation : RecoveryOperation) (processInstanceId : String) (payload : Option Payload)
    (t : Tables Dir) :
    let t' := (recordDirectoryCatalogTerminal dirs operation processInstanceId payload t).2
    t'.operations = t.operations ∧ t'.events = t.events ∧ t'.segments = t.segments := by
  unfold recordDirectoryCatalogTerminal
  dsimp only
  split
  · split
    · exact ⟨rfl, rfl, rfl⟩
    · exact ⟨rfl, rfl, rfl⟩
    · exact ⟨rfl, rfl, rfl⟩
    · split <;> exact ⟨rfl, rfl, rfl⟩
    · exact ⟨rfl, rfl, rfl⟩
  · exact ⟨rfl, rfl, rfl⟩

theorem moves_recordPlanned (dirs : Option (DirectoryRecoveryStore Dir))
    (hphase : operation.phase = .planned) (processInstanceId : String) (payload : Option Payload)
    (t : Tables Dir) :
    Moves t (recordPlannedOperationBody dirs operation processInstanceId payload t).2 := by
  unfold recordPlannedOperationBody
  split
  · rename_i existing _
    split
    · exact .unchanged
    · obtain ⟨ho, he, hs⟩ := recordDirectory_frame dirs existing processInstanceId t
      exact moves_andThen .unchanged ho he hs
  · rename_i hfresh
    split
    · exact .unchanged
    · split
      · exact .unchanged
      · obtain ⟨event, hevents, hkey, hfrom, hto⟩ := Tables.appendEvent_events
          { t with operations := Table.insert t.operations operation }
          operation.runId operation.operationId none operation.phase processInstanceId payload
        have hinsert : Moves t (t.insertPlanned operation processInstanceId payload) :=
          .planned operation event hfresh hphase rfl hevents rfl hkey hfrom (hto.trans hphase)
        obtain ⟨ho, he, hs⟩ := recordDirectory_frame dirs operation processInstanceId
          (t.insertPlanned operation processInstanceId payload)
        exact moves_andThen hinsert ho he hs

theorem moves_recordTransition (py : PythonLibrary) (dirs : Option (DirectoryRecoveryStore Dir))
    (hcheck : Phase.validateRecoveryPhaseTransition args.expectedPhase args.nextPhase = .ok ())
    (hguard : ¬ CleansEarly t args) :
    Moves t (recordOperationPhaseTransitionBody py dirs args t).2 := by
  unfold recordOperationPhaseTransitionBody
  split
  · exact .unchanged
  · rename_i operation hload
    split
    · exact .unchanged
    · rename_i hexpected
      have hexpected : operation.phase = args.expectedPhase := not_not.mp hexpected
      split
      · exact .unchanged
      · rename_i updated hupdated
        have spec := operationAfterTransition_spec hupdated
        split
        · exact .unchanged
        · rename_i hlease
          have hlease : t.activeMatchingLease updated = true := by simpa using hlease
          split
          · exact .unchanged
          · rename_i hsegment
            have hsegment : args.nextPhase = .commitIntentRecorded →
                t.matchingIntentSegment updated = true := by
              intro hnext
              simpa [hnext] using hsegment
            split
            · exact .unchanged
            · -- entering `cleaned` from elsewhere needs the very columns the guard excludes
              have hcleaned : args.nextPhase = .cleaned →
                  args.expectedPhase = .catalogRecorded := by
                intro hnext
                by_contra hne
                have hbind := spec.binding (by rw [hnext]; decide)
                have hhand := spec.handoff (by rw [hnext]; decide)
                have hp : updated.phase = .cleaned := spec.phase.trans hnext
                have hi := validateRecoveryOperation_intent spec.valid (by rw [hp]; decide)
                have hc := validateRecoveryOperation_handoff spec.valid (by rw [hp]; decide)
                exact hguard ⟨hnext, hne, operation, hload, hexpected,
                  (spec.lease t).symm.trans hlease, hbind.1 ▸ hi.1, hhand ▸ hc⟩
              have hedge : Phase.journalEdge operation.phase updated.phase = true := by
                rw [hexpected, spec.phase]
                exact Phase.journalEdge_of_validated hcheck hcleaned
              have hmove : Moves t
                  (t.recordChange operation updated args.processInstanceId args.payload) := by
                refine moves_recordChange (loadOperation_mem hload) ⟨spec.key, hedge, ?_, ?_⟩ _ _
                · intro hp
                  by_cases hcommit : args.nextPhase = .commitIntentRecorded
                  · exact .inr (matchingIntentSegment_mem (hsegment hcommit))
                  · rcases Phase.journalEdge_into_intent hedge hp with hnow | hbefore
                    · exact absurd (spec.phase.symm.trans hnow) hcommit
                    · exact .inl ⟨hbefore, spec.binding hcommit⟩
                · exact validateRecoveryOperation_handoff spec.valid
              dsimp only
              split
              · obtain ⟨ho, he, hs⟩ := catalogTerminal_frame dirs updated args.processInstanceId
                  args.payload
                  (t.recordChange operation updated args.processInstanceId args.payload)
                exact moves_andThen hmove ho he hs
              · exact hmove

theorem moves_recordStagingFailure (py : PythonLibrary) {args : StagingFailureArgs}
    (hstaging : args.expectedPhase ∈ Phase.stagingPhases)
    (hnext : args.nextPhase = args.expectedPhase ∨ args.nextPhase = .skipped) (t : Tables Dir) :
    Moves t (recordStagingFailureBody py args t).2 := by
  have hlive : args.expectedPhase ∉ Phase.terminalPhases := by
    revert hstaging
    cases args.expectedPhase <;> decide
  have hnotIntent : args.nextPhase ∉ Phase.phasesRequiringIntent := by
    rcases hnext with h | h
    · rw [h]
      revert hstaging
      cases args.expectedPhase <;> decide
    · rw [h]; decide
  unfold recordStagingFailureBody
  split
  · exact .unchanged
  · rename_i operation hload
    split
    · exact .unchanged
    · rename_i hexpected
      have hexpected : operation.phase = args.expectedPhase :=
        not_not.mp (not_or.mp hexpected).1
      dsimp only
      split
      · exact .unchanged
      · split
        · exact .unchanged
        · split
          · exact .unchanged
          · split
            · exact .unchanged
            · have hsame : (stagingFailureRow operation args).key = operation.key := rfl
              refine moves_recordChange (loadOperation_mem hload) ⟨hsame, ?_, ?_, ?_⟩ _ _
              · change Phase.journalEdge operation.phase args.nextPhase = true
                rw [hexpected]
                rcases hnext with h | h
                · rw [h]
                  exact Phase.journalEdge_self hlive
                · rw [h]
                  revert hstaging
                  cases args.expectedPhase <;> decide
              · exact fun hp => absurd hp hnotIntent
              · intro hp
                refine absurd ?_ hnotIntent
                change args.nextPhase ∈ _ at hp
                revert hp
                cases args.nextPhase <;> decide

variable {expectedPhase : Phase}

theorem moves_recordLeaseRebound (py : PythonLibrary)
    (hpre : expectedPhase ∈ Phase.preCommitLeaseRebindPhases) (args : RebindArgs) (t : Tables Dir) :
    Moves t (recordOperationLeaseReboundBody py expectedPhase args t).2 := by
  unfold recordOperationLeaseReboundBody
  split
  · exact .unchanged
  · rename_i operation hload
    split
    · exact .unchanged
    · rename_i hexpected
      have hexpected : operation.phase = expectedPhase := not_not.mp hexpected
      have hlive : operation.phase ∉ Phase.terminalPhases := by
        rw [hexpected]
        revert hpre
        cases expectedPhase <;> decide
      have hnotIntent : operation.phase ∉ Phase.phasesRequiringIntent := by
        rw [hexpected]
        revert hpre
        cases expectedPhase <;> decide
      split
      · exact .unchanged
      · dsimp only
        split
        · exact .unchanged
        · rename_i hvalid
          split
          · exact .unchanged
          · have hsame : (underLease operation args).key = operation.key := rfl
            exact moves_recordChange (loadOperation_mem hload) ⟨hsame,
              Phase.journalEdge_self hlive, fun hp => absurd hp hnotIntent,
              validateRecoveryOperation_handoff hvalid⟩ _ _

theorem moves_recordIntentRefreshed (py : PythonLibrary)
    (hlive : expectedPhase ∉ Phase.terminalPhases) (args : RefreshArgs) (t : Tables Dir) :
    Moves t (recordIntentRefreshedBody py expectedPhase args t).2 := by
  unfold recordIntentRefreshedBody
  split
  · exact .unchanged
  · rename_i operation hload
    split
    · exact .unchanged
    · rename_i hexpected
      have hexpected : operation.phase = expectedPhase := not_not.mp hexpected
      split
      · exact .unchanged
      · dsimp only
        split
        · exact .unchanged
        · rename_i hvalid
          split
          · exact .unchanged
          · split
            · exact .unchanged
            · rename_i hsegment
              split
              · exact .unchanged
              · have hsame : (refreshedRow operation args).key = operation.key := rfl
                refine moves_recordChange (loadOperation_mem hload) ⟨hsame,
                  Phase.journalEdge_self (hexpected ▸ hlive), fun _ => .inr ?_,
                  validateRecoveryOperation_handoff hvalid⟩ _ _
                exact matchingIntentSegment_mem (by simpa using hsegment)

inductive Label (Dir : Type) where
  | call (call : Call)
  | begin
  | commit
  | rollback
  | registerLease (request : LeaseRequest)
  | releaseLease (leaseId : String)
  | reconcileLeases (resourceKey endpointId : String)
  | publishSegment (segment : IntentSegment)
  | importSegment (segment : IntentSegment)
  | transitionSegment (segmentId : String) (expectedState nextState : SegmentState)
  | finalizeSegment (segmentId : String)
  | writeDirectories (directories : Dir)

section
variable (py : PythonLibrary) (dirs : Option (DirectoryRecoveryStore Dir))

def connectionStep (c : Connection Dir) : Label Dir → Option (Connection Dir)
  | .call call => some (performCall py dirs call c).2
  | .begin => if c.inTransaction then none else some { c with inTransaction := true }
  | .commit => if c.inTransaction then some ⟨c.current, c.current, false⟩ else none
  | .rollback => some ⟨c.committed, c.committed, false⟩
  | .registerLease request =>
    some (if request.valid then (c.execute (registerAcquiredResourceLease request)).2 else c)
  | .releaseLease leaseId => some (c.execute (releaseResourceLease leaseId)).2
  | .reconcileLeases resourceKey endpointId =>
    some (c.execute (reconcileStaleActiveResourceLease resourceKey endpointId)).2
  | .publishSegment segment =>
    some (if validateRecoveryIntentSegment segment = .ok () then
      (c.execute (publishIntentSegment segment)).2 else c)
  | .importSegment segment =>
    some (if validateRecoveryIntentSegment segment = .ok () then
      (c.execute (importIntentSegment segment)).2 else c)
  | .transitionSegment segmentId expectedState nextState =>
    some (c.execute (transitionIntentSegmentState segmentId expectedState nextState)).2
  | .finalizeSegment segmentId =>
    some (c.execute (finalizeMissingTerminalIntentSegment segmentId)).2
  | .writeDirectories directories =>
    some (c.execute fun t => (.ok (), { t with directories })).2

def journal : System (Connection Dir) (Label Dir) where
  init c := ∃ directories, c = ⟨{ directories }, { directories }, false⟩
  step := connectionStep py dirs

def NoEarlyCleaning (c : Connection Dir) (label : Label Dir) : Prop :=
  ∀ args, label = .call (.recordOperationPhaseTransition args) → ¬ CleansEarly c.current args

variable {py dirs}

theorem stagingFailure_checked {args : StagingFailureArgs}
    (hcheck : (Call.recordStagingFailure args).precheck py = .ok ()) :
    args.expectedPhase ∈ Phase.stagingPhases ∧
      (args.nextPhase = args.expectedPhase ∨ args.nextPhase = .skipped) := by
  obtain ⟨_, -, hcheck⟩ := except_bind_ok hcheck
  obtain ⟨_, -, hcheck⟩ := except_bind_ok hcheck
  obtain ⟨_, -, hcheck⟩ := except_bind_ok hcheck
  obtain ⟨_, hstaging, hnext⟩ := except_bind_ok hcheck
  constructor
  · by_contra hne
    simp [raiseStoreErrorUnless, hne] at hstaging
  · by_contra hne
    rw [not_or] at hne
    simp [raiseStoreErrorUnless, hne] at hnext

theorem moves_of_call {call : Call} (hcheck : call.precheck py = .ok ())
    {t : Tables Dir}
    (hguard : ∀ args, call = .recordOperationPhaseTransition args → ¬ CleansEarly t args) :
    Moves t (call.body py dirs t).2 := by
  cases call with
  | recordPlannedOperation operation processInstanceId payload =>
    obtain ⟨_, hphase, -⟩ := except_bind_ok hcheck
    have hphase : operation.phase = .planned := by
      by_contra hne
      simp [raiseStoreErrorUnless, hne] at hphase
    exact moves_recordPlanned dirs hphase processInstanceId payload t
  | recordOperationPhaseTransition args =>
    obtain ⟨_, -, hcheck⟩ := except_bind_ok hcheck
    exact moves_recordTransition py dirs (raiseViolation_ok hcheck) (hguard args rfl)
  | recordStagingFailure args =>
    obtain ⟨hstaging, hnext⟩ := stagingFailure_checked hcheck
    exact moves_recordStagingFailure py hstaging hnext t
  | recordOperationLeaseRebound expectedPhase args =>
    obtain ⟨_, -, hpre⟩ := except_bind_ok hcheck
    have hpre : expectedPhase ∈ Phase.preCommitLeaseRebindPhases := by
      by_contra hne
      simp [raiseStoreErrorUnless, hne] at hpre
    exact moves_recordLeaseRebound py hpre args t
  | recordCommitIntentRefreshed args =>
    exact moves_recordIntentRefreshed py (by decide) args t
  | recordOldTargetPreservedCommitIntentRefreshed args =>
    exact moves_recordIntentRefreshed py (by decide) args t

theorem holds_call {call : Call} {c : Connection Dir} (hc : c.Holds JournalInvariant)
    (hguard : ∀ args, call = .recordOperationPhaseTransition args →
      ¬ CleansEarly c.current args) :
    (performCall py dirs call c).2.Holds JournalInvariant := by
  unfold performCall
  split
  · exact hc
  · rename_i hcheck
    have hnext : JournalInvariant (call.body py dirs c.current).2 :=
      hc.2.moves (moves_of_call hcheck hguard)
    exact hc.execute hnext

inductive StepCases (py : PythonLibrary) (dirs : Option (DirectoryRecoveryStore Dir))
    (c : Connection Dir) : Label Dir → Connection Dir → Prop
  | call (call : Call) : StepCases py dirs c (.call call) (performCall py dirs call c).2
  | begin (hidle : c.inTransaction = false) :
      StepCases py dirs c .begin { c with inTransaction := true }
  | commit (hopen : c.inTransaction = true) :
      StepCases py dirs c .commit ⟨c.current, c.current, false⟩
  | rollback : StepCases py dirs c .rollback ⟨c.committed, c.committed, false⟩
  | skipped {label : Label Dir} : StepCases py dirs c label c
  | neighbour {label : Label Dir} {α : Type} (body : Body Dir α)
      (hops : (body c.current).2.operations = c.current.operations)
      (hevents : (body c.current).2.events = c.current.events)
      (hsegments : SegmentsKept c.current.segments (body c.current).2.segments) :
      StepCases py dirs c label (c.execute body).2

variable {c c' : Connection Dir} {label : Label Dir}

theorem stepCases (hstep : connectionStep py dirs c label = some c') :
    StepCases py dirs c label c' := by
  cases label with
  | call call =>
    cases hstep
    exact .call call
  | begin =>
    simp only [connectionStep] at hstep
    split at hstep
    · cases hstep
    · rename_i hidle
      cases hstep
      exact .begin (by simpa using hidle)
  | commit =>
    simp only [connectionStep] at hstep
    split at hstep
    · rename_i hopen
      cases hstep
      exact .commit hopen
    · cases hstep
  | rollback =>
    cases hstep
    exact .rollback
  | registerLease request =>
    cases hstep
    split
    · refine .neighbour _ ?_ ?_ ?_ <;> unfold registerAcquiredResourceLease
      · repeat' split
        all_goals rfl
      · repeat' split
        all_goals rfl
      · repeat' split
        all_goals exact .refl _
    · exact .skipped
  | releaseLease leaseId =>
    cases hstep
    refine .neighbour _ ?_ ?_ ?_ <;> unfold releaseResourceLease <;> dsimp only
    · split <;> rfl
    · split <;> rfl
    · split <;> exact .refl _
  | reconcileLeases resourceKey endpointId =>
    cases hstep
    refine .neighbour _ ?_ ?_ ?_ <;> unfold reconcileStaleActiveResourceLease <;> dsimp only
    · split <;> rfl
    · split <;> rfl
    · split <;> exact .refl _
  | publishSegment segment =>
    cases hstep
    split
    · refine .neighbour _ ?_ ?_ (segmentsKept_publish segment _)
      · exact (insertIntentSegment_frame _ _ _ segment _).1
      · exact (insertIntentSegment_frame _ _ _ segment _).2
    · exact .skipped
  | importSegment segment =>
    cases hstep
    split
    · refine .neighbour _ ?_ ?_ (segmentsKept_import segment _)
      · exact (insertIntentSegment_frame _ _ _ segment _).1
      · exact (insertIntentSegment_frame _ _ _ segment _).2
    · exact .skipped
  | transitionSegment segmentId expectedState nextState =>
    cases hstep
    refine .neighbour _ ?_ ?_ (segmentsKept_transition segmentId expectedState nextState _)
    · unfold transitionIntentSegmentState
      dsimp only
      repeat' split
      all_goals rfl
    · unfold transitionIntentSegmentState
      dsimp only
      repeat' split
      all_goals rfl
  | finalizeSegment segmentId =>
    cases hstep
    exact .neighbour _ rfl rfl (segmentsKept_finalize segmentId _)
  | writeDirectories directories =>
    cases hstep
    exact .neighbour _ rfl rfl (.refl _)

theorem holds_step (hc : c.Holds JournalInvariant) (hguard : NoEarlyCleaning c label)
    (hstep : connectionStep py dirs c label = some c') : c'.Holds JournalInvariant := by
  cases stepCases hstep with
  | call call => exact holds_call hc fun args hargs => hguard args (by rw [hargs])
  | begin _ => exact hc
  | commit _ => exact ⟨hc.2, hc.2⟩
  | rollback => exact ⟨hc.1, hc.1⟩
  | skipped => exact hc
  | neighbour body hops hevents hsegments => exact hc.execute (hc.2.kept hops hevents hsegments)

theorem invariant_empty (directories : Dir) : JournalInvariant ({ directories } : Tables Dir) where
  path := by simp
  intent := by simp
  cleaned := by simp
  handoff := by simp
  terminal := by simp
  keys := by simp [Table.KeysUnique]
  owned := by simp

/-- In every run without an early cleaning, the journal is phase safe, on disk and as the open
transaction sees it. -/
theorem journal_phaseSafe {c : Connection Dir}
    (h : (journal py dirs).ReachableWhen NoEarlyCleaning c) :
    PhaseSafe c.committed ∧ PhaseSafe c.current := by
  have hinv : c.Holds JournalInvariant := by
    refine h.invariant ?_ ?_
    · rintro s ⟨directories, rfl⟩
      exact ⟨invariant_empty directories, invariant_empty directories⟩
    · intro s label s' _ hs hok hstep
      exact holds_step hs hok hstep
  exact ⟨hinv.1.toPhaseSafe, hinv.2.toPhaseSafe⟩

end

def plainPython : PythonLibrary := ⟨fun _ => none, fun _ => false⟩

def sampleLease : LeaseRequest where
  leaseId := "lease-a"
  resourceKey := "endpoint:target-a"
  ownerInstanceId := "owner-a"
  ownershipEpoch := 1
  runId := "run-a"
  runTargetId := "run-a-target-0000"
  endpointId := "target-a"
  endpointGeneration := some 1

def sampleSegment : IntentSegment where
  segmentId := "segment-a"
  runId := "run-a"
  runTargetId := "run-a-target-0000"
  targetEndpointId := "target-a"
  targetEndpointRevisionId := "target-rev-a"
  endpointGeneration := 1
  ownerInstallationId := "owner-a"
  ownershipEpoch := 1
  leaseId := "lease-a"
  fencingToken := 1
  segmentSequence := 0
  relativePath := "intents/segment-0.json"
  schemaVersion := 1
  operationCount := 1
  byteCount := 100
  segmentHash := "0000000000000000000000000000000000000000000000000000000000000000"

def sampleOperation : RecoveryOperation where
  runId := "run-a"
  runTargetId := "run-a-target-0000"
  operationId := "operation-a"
  targetEndpointId := "target-a"
  targetEndpointRevisionId := "target-rev-a"
  endpointGeneration := 1
  ownerInstallationId := "owner-a"
  ownershipEpoch := 1
  leaseId := "lease-a"
  leaseResourceKey := "endpoint:target-a"
  fencingToken := 1
  phase := .planned
  finalRelativePath := "Photos/2026/image.jpg"
  targetPreconditionKind := .absent

def prefilledOperation : RecoveryOperation :=
  { sampleOperation with
    intentSegmentId := some "segment-a"
    intentOrdinal := some 0
    catalogHandoffId := some "handoff-a" }

def sampleTransition (expectedPhase nextPhase : Phase) : TransitionArgs where
  runId := "run-a"
  operationId := "operation-a"
  expectedPhase := expectedPhase
  nextPhase := nextPhase
  processInstanceId := "process-a"

def earlyCleaningRun : List (Label Unit) :=
  [.registerLease sampleLease, .publishSegment sampleSegment,
    .call (.recordPlannedOperation prefilledOperation "process-a" none),
    .call (.recordOperationPhaseTransition (sampleTransition .planned .cleaned))]

def plainJournal : System (Connection Unit) (Label Unit) := journal plainPython none

def emptyConnection : Connection Unit := ⟨{ directories := () }, { directories := () }, false⟩

/-- Without the guard the claim fails: a planned operation is cleaned without a commit intent, a
filesystem step or a catalog record of its own. -/
theorem early_cleaning_unsafe : ∃ c, plainJournal.Reachable c ∧ ¬ PhaseSafe c.committed ∧
    ∃ event ∈ c.committed.events, event.fromPhase = some .planned ∧ event.toPhase = .cleaned := by
  have hrun : (plainJournal.replay emptyConnection earlyCleaningRun).any (fun c =>
      c.committed.events.any fun event =>
        event.fromPhase == some .planned && event.toPhase == .cleaned) = true := by decide
  obtain ⟨c, hc, hany⟩ := (Option.any_eq_true _ _).mp hrun
  obtain ⟨event, hmem, hevent⟩ := List.any_eq_true.mp hany
  rw [Bool.and_eq_true, beq_iff_eq, beq_iff_eq] at hevent
  have hreach : plainJournal.Reachable c :=
    System.Reachable.replay (.init ⟨(), rfl⟩) earlyCleaningRun hc
  refine ⟨c, hreach, ?_, event, hmem, hevent⟩
  intro hsafe
  have hfrom := hsafe.cleaned event hmem hevent.2
  rw [hevent.1] at hfrom
  cases hfrom

def committedPhases : List Phase :=
  [.planned, .sourceValidated, .sourceStabilityBound, .targetPreconditionValidated,
    .stagingAllocated, .transferred, .stagingDurable, .stagingVerified, .commitIntentRecorded,
    .commitPreconditionsRevalidated, .filesystemApplied, .finalDurable, .finalVerified,
    .catalogRecorded]

def committedTransitions (operationId : String) (ordinal : Int) : List TransitionArgs :=
  (committedPhases.zip committedPhases.tail).map fun phases =>
    { sampleTransition phases.1 phases.2 with
      operationId
      intentSegmentId := if phases.2 = .commitIntentRecorded then some "segment-a" else none
      intentOrdinal := if phases.2 = .commitIntentRecorded then some ordinal else none
      catalogHandoffId :=
        if phases.2 = .catalogRecorded then some ("handoff-" ++ operationId) else none }

def cleanedRun : List (Label Unit) :=
  [.registerLease sampleLease, .publishSegment sampleSegment,
    .call (.recordPlannedOperation sampleOperation "process-a" none)] ++
  (committedTransitions "operation-a" 0 ++ [sampleTransition .catalogRecorded .cleaned]).map
    fun args => .call (.recordOperationPhaseTransition args)

/-- A test for `NoEarlyCleaning`. -/
def cleansCataloged : Label Unit → Bool
  | .call (.recordOperationPhaseTransition args) =>
    args.nextPhase ≠ .cleaned || args.expectedPhase = .catalogRecorded
  | _ => true

theorem noEarlyCleaning_of_test {c : Connection Unit} {label : Label Unit}
    (h : cleansCataloged label = true) : NoEarlyCleaning c label := by
  rintro args rfl hearly
  simp [cleansCataloged, hearly.1, hearly.2.1] at h

theorem journal_phaseSafe_cleaned : ∃ c : Connection Unit,
    c.committed.operations.map RecoveryOperation.phase = [.cleaned] ∧
    c.committed.events.length = 15 ∧ PhaseSafe c.committed ∧ PhaseSafe c.current := by
  have hrun : (plainJournal.replay emptyConnection cleanedRun).any (fun c =>
      c.committed.operations.map RecoveryOperation.phase = [.cleaned] &&
        c.committed.events.length = 15) = true := by decide +kernel
  obtain ⟨c, hc, hrows⟩ := (Option.any_eq_true _ _).mp hrun
  rw [Bool.and_eq_true, decide_eq_true_eq, decide_eq_true_eq] at hrows
  have hguard : ∀ label ∈ cleanedRun, cleansCataloged label = true := by decide +kernel
  exact ⟨c, hrows.1, hrows.2, @journal_phaseSafe Unit plainPython none _
    (System.ReachableWhen.replay (.init ⟨(), rfl⟩) cleanedRun
      (fun label hlabel _ => noEarlyCleaning_of_test (hguard label hlabel)) hc)⟩

end MediaSync.Recovery
