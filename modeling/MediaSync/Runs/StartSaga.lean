import MediaSync.Runs.Receipts
import MediaSync.Runs.Start

/-! The start of runs in both databases together with the receipts of the commands. -/
namespace MediaSync.Runs
open CrossStore Transition Text

/-- The checks of `recovery_runs` on a binding: texts that are not only spaces, and a
checksum. -/
def RecoveryRunBinding.accepted (binding : RecoveryRunBinding) : Bool :=
  [binding.jobId, binding.jobRevisionId, binding.planId].all
    (fun text => text.toList.any (· ≠ ' ')) && isHash binding.planChecksum

def RunStart.sealed (start : RunStart) : Bool :=
  nonEmpty [start.runId, start.jobId, start.jobRevisionId, start.planId] &&
    isHash start.planChecksum

structure SagaState where
  start : StartState
  commands : ReceiptTables

namespace SagaState

variable (hash : RunStartPayload → String) (s : SagaState)

def ownsReceipt (idempotencyKey : String) : Bool :=
  s.start.sources.any fun source => source.evidence.payload.transitionCommandReceipt &&
    source.evidence.payload.commandReceiptId = idempotencyKey

def prepareReceipt (received : CommandReceipt) (runId : String) : Option ReceiptTables := do
  let (recorded, receipt) ← s.commands.recordReceived received
  if receipt.state ≠ .received then none
  else
    let (validated, receipt) ← recorded.move receipt .validated none none
    let (prepared, _) ← validated.move receipt .effectPrepared (some "run") (some runId)
    some prepared

/-- `_dispatch_start_run_in_transaction` with a run of its own. -/
def dispatchStartRun (received : CommandReceipt) (start : RunStart) : Option SagaState := do
  if start.sealed && nonBlank received.idempotencyKey && received.state = .received then
    let commands ← s.prepareReceipt received start.runId
    let started ← s.start.startRun hash start received.idempotencyKey true
    some { start := started, commands }
  else none

/-- The same when the command finds a run: the one under its key, or the active one of its
job, whose row names the receipt `commandReceiptId`. -/
def dispatchExistingRun (received : CommandReceipt) (runId commandReceiptId : String) :
    Option SagaState := do
  if nonBlank received.idempotencyKey && received.state = .received then
    let commands ← s.prepareReceipt received runId
    let prepared ← s.start.prepareRunStart hash runId commandReceiptId true
    some { start := prepared, commands }
  else none

def startTriggeredRun (start : RunStart) (commandReceiptId : String) : Option SagaState :=
  if start.sealed then
    (s.start.startRun hash start commandReceiptId false).map fun started =>
      { s with start := started }
  else none

def prepareTriggeredRun (runId commandReceiptId : String) : Option SagaState :=
  (s.start.prepareRunStart hash runId commandReceiptId false).map fun prepared =>
    { s with start := prepared }

def commitRecoveryPeer (runId : String) : Option SagaState := do
  let source ← loadHandoff s.start.sources (runStartHandoffId runId)
  let binding ← recoveryRunBindingFromHandoff source.evidence
  if binding.accepted then
    (s.start.commitRecoveryPeer hash runId).map fun committed => { s with start := committed }
  else none

def confirmCatalogSource (runId : String) : Option SagaState := do
  let confirmed ← s.start.confirmCatalogSource hash runId true
  let source ← loadHandoff confirmed.sources (runStartHandoffId runId)
  let commands ← s.commands.acceptRunStartReceipt source.evidence
  some { start := confirmed, commands }

def moveReceipt (idempotencyKey : String) (next : ReceiptState)
    (resultEntityType resultEntityId : Option String) : Option SagaState :=
  -- a handler moves the receipt of its own command only
  if s.ownsReceipt idempotencyKey then none
  else do
    let receipt ← s.commands.load idempotencyKey
    let (commands, _) ← s.commands.move receipt next resultEntityType resultEntityId
    some { s with commands }

def enqueueEffect (idempotencyKey : String) : Option SagaState := do
  let receipt ← s.commands.load idempotencyKey
  let message ← commandEffectOutboxMessage receipt
  let outbox ← enqueueOutboxMessage s.commands.outbox message
  some { s with commands := { s.commands with outbox } }

end SagaState

inductive SagaLabel where
  | dispatchStartRun (received : CommandReceipt) (start : RunStart)
  | dispatchExistingRun (received : CommandReceipt) (runId commandReceiptId : String)
  | startTriggeredRun (start : RunStart) (commandReceiptId : String)
  | prepareTriggeredRun (runId commandReceiptId : String)
  | commitRecoveryPeer (runId : String)
  | confirmCatalogSource (runId : String)
  | completePeer (runId : String)
  | completeSource (runId : String)
  | markAmbiguous (runId : String) (crashed : Bool)
  | reconcileDiverged (handoffId : String)
  | recordReceipt (received : CommandReceipt)
  | moveReceipt (idempotencyKey : String) (next : ReceiptState)
      (resultEntityType resultEntityId : Option String)
  | enqueueEffect (idempotencyKey : String)
  | executor (label : ExecutorLabel)

/-- The start of runs in both databases, with the commands' receipts: every label is one
transaction, so that a crash, a retry and a reconciliation are runs of these labels. -/
def startSaga (hash : RunStartPayload → String) : System SagaState SagaLabel where
  init s := s = ⟨⟨⟨⟨[], [], [], []⟩, []⟩, [], [], []⟩, ⟨[], []⟩⟩
  step s
    | .dispatchStartRun received start => s.dispatchStartRun hash received start
    | .dispatchExistingRun received runId receiptId =>
      s.dispatchExistingRun hash received runId receiptId
    | .startTriggeredRun start receiptId => s.startTriggeredRun hash start receiptId
    | .prepareTriggeredRun runId receiptId => s.prepareTriggeredRun hash runId receiptId
    | .commitRecoveryPeer runId => s.commitRecoveryPeer hash runId
    | .confirmCatalogSource runId => s.confirmCatalogSource hash runId
    | .completePeer runId =>
      (s.start.completePeer hash runId).map fun completed => { s with start := completed }
    | .completeSource runId =>
      (s.start.completeSource hash runId).map fun completed => { s with start := completed }
    | .markAmbiguous runId crashed =>
      (s.start.markAmbiguous hash runId crashed).map fun marked => { s with start := marked }
    | .reconcileDiverged handoffId =>
      (s.start.reconcileDiverged handoffId).map fun marked => { s with start := marked }
    | .recordReceipt received =>
      if received.state = .received then
        (s.commands.recordReceived received).map fun recorded => { s with commands := recorded.1 }
      else none
    | .moveReceipt key next entityType entityId => s.moveReceipt key next entityType entityId
    | .enqueueEffect key => s.enqueueEffect key
    | .executor label =>
      ((runStart hash).step s.start (.executor label)).map fun start => { s with start }

def RunRow.Sealed (run : RunRow) : Prop :=
  nonEmpty [run.id, run.jobId, run.jobRevisionId, run.planId] = true ∧
    isHash run.planChecksum = true

variable {run run' : RunRow}

theorem RunRow.Sealed.congr (h : run.Sealed) (hid : run'.identity = run.identity) :
    run'.Sealed := by
  simp only [RunRow.identity, Prod.mk.injEq] at hid
  obtain ⟨h1, h2, h3, h4, h5⟩ := hid
  unfold Sealed
  rw [h1, h2, h3, h4, h5]
  exact h

/-- The handoff is the one that starts the run. -/
structure Starts (source : RunStartHandoff) (run : RunRow) : Prop where
  describes : Describes source.evidence run
  entity : source.evidence.entityId = run.id
  kind : source.evidence.handoffType = "RUN_START" ∧
    source.evidence.direction = "CATALOG_TO_RECOVERY" ∧ source.evidence.entityType = "RUN"
  state : source.state ∈ [HandoffState.prepared, .sourceConfirmed, .completed]
  departed : source.state ≠ .prepared → run.state ≠ .created

def receiptStateOf (state : HandoffState) : ReceiptState :=
  if state = .prepared then .effectPrepared else .succeeded

/-- What holds between both stores and the receipts. -/
structure SagaInvariant (hash : RunStartPayload → String) (s : SagaState) : Prop where
  start : StartInvariant hash s.start
  commands : s.commands.Sound
  isSealed : ∀ run ∈ s.start.executor.tables.runs, run.Sealed
  sources : ∀ source ∈ s.start.sources, ∃ run ∈ s.start.executor.tables.runs, Starts source run
  bindings : ∀ binding ∈ s.start.bindings, ∃ source ∈ s.start.sources,
    recoveryRunBindingFromHandoff source.evidence = some binding
  peered : ∀ source ∈ s.start.sources, source.state ≠ .prepared →
    ∃ peer ∈ s.start.peers, peer.evidence = source.evidence
  owned : ∀ source ∈ s.start.sources, source.evidence.payload.transitionCommandReceipt = true →
    ∃ receipt ∈ s.commands.receipts, ReceiptTables.Owned receipt source.evidence ∧
      receipt.state = receiptStateOf source.state

/-- The runs are the same, and none goes back to CREATED. -/
structure RunsKept (t t' : RunTables) : Prop where
  back : ∀ run' ∈ t'.runs, ∃ run ∈ t.runs, run'.identity = run.identity
  forth : ∀ run ∈ t.runs, ∃ run' ∈ t'.runs, run'.identity = run.identity ∧
    (run.state ≠ .created → run'.state ≠ .created)

theorem RunsKept.of_eq {t t' : RunTables} (h : t'.runs = t.runs) : RunsKept t t' :=
  ⟨fun run hrun => ⟨run, h ▸ hrun, rfl⟩, fun run hrun => ⟨run, h ▸ hrun, rfl, id⟩⟩

theorem RunTables.Moves.runsKept {resolved : Prop} {released : RunRow → Prop}
    {parked : RunTargetRow → Prop} {t t' : RunTables}
    (h : RunTables.Moves resolved released parked t t') : RunsKept t t' := by
  obtain ⟨f, g, -, hg, hrows⟩ := h.rows
  refine ⟨fun run' hrun' => ?_, fun run hrun => ?_⟩
  · obtain ⟨run, hrun, rfl⟩ := List.mem_map.mp (hg ▸ hrun')
    exact ⟨run, hrun, hrows.runIdentity run⟩
  · exact ⟨g run, hg ▸ List.mem_map_of_mem hrun, hrows.runIdentity run,
      hrows.departed run hrun⟩

theorem Starts.congr {source source' : RunStartHandoff} (h : Starts source run)
    (hevidence : source'.evidence = source.evidence) (hid : run'.identity = run.identity)
    (hstate : source'.state ∈ [HandoffState.prepared, .sourceConfirmed, .completed])
    (hdeparted : source'.state ≠ .prepared → run'.state ≠ .created) : Starts source' run' := by
  have hrun : run'.id = run.id := congrArg Prod.fst hid
  refine ⟨hevidence ▸ h.describes.congr hid, ?_, hevidence ▸ h.kind, hstate, hdeparted⟩
  rw [hevidence, h.entity, hrun]

open StartState

section
variable {hash : RunStartPayload → String} {s s' : SagaState} {label : SagaLabel} {r : String}

theorem SagaInvariant.kept (h : SagaInvariant hash s) (hstart : StartInvariant hash s'.start)
    (hgrows : Grows s.start s'.start)
    (hruns : RunsKept s.start.executor.tables s'.start.executor.tables)
    (hsources : ∀ source' ∈ s'.start.sources, ∃ source ∈ s.start.sources,
      source'.evidence = source.evidence ∧
        source'.state ∈ [HandoffState.prepared, .sourceConfirmed, .completed] ∧
          (source'.state = .prepared ↔ source.state = .prepared))
    (hbindings : ∀ binding ∈ s'.start.bindings, binding ∈ s.start.bindings ∨
      ∃ source ∈ s.start.sources, recoveryRunBindingFromHandoff source.evidence = some binding)
    (hcommands : s'.commands.Sound)
    (hreceipts : ∀ source ∈ s.start.sources, ∀ receipt ∈ s.commands.receipts,
      source.evidence.payload.transitionCommandReceipt = true →
        ReceiptTables.Owned receipt source.evidence →
          receipt.state = receiptStateOf source.state → receipt ∈ s'.commands.receipts) :
    SagaInvariant hash s' := by
  refine ⟨hstart, hcommands, fun run' hrun' => ?_, fun source' hsource' => ?_,
    fun binding hbinding => ?_, fun source' hsource' hconfirmed => ?_,
    fun source' hsource' htransition => ?_⟩
  · obtain ⟨run, hrun, hid⟩ := hruns.back run' hrun'
    exact (h.isSealed run hrun).congr hid
  · obtain ⟨source, hsource, hevidence, hstate, hprepared⟩ := hsources source' hsource'
    obtain ⟨run, hrun, hstarts⟩ := h.sources source hsource
    obtain ⟨run', hrun', hid, hdeparted⟩ := hruns.forth run hrun
    exact ⟨run', hrun', hstarts.congr hevidence hid hstate fun hconfirmed =>
      hdeparted (hstarts.departed fun heq => hconfirmed (hprepared.mpr heq))⟩
  · have hread : ∃ source ∈ s.start.sources,
        recoveryRunBindingFromHandoff source.evidence = some binding := by
      rcases hbindings binding hbinding with hold | hnew
      · exact h.bindings binding hold
      · exact hnew
    obtain ⟨source, hsource, hbound⟩ := hread
    obtain ⟨kept, hkept, hevidence, -⟩ := hgrows.sources source hsource
    exact ⟨kept, hkept, hevidence ▸ hbound⟩
  · obtain ⟨source, hsource, hevidence, -, hprepared⟩ := hsources source' hsource'
    obtain ⟨peer, hpeer, heq⟩ := h.peered source hsource
      fun hstill => hconfirmed (hprepared.mpr hstill)
    obtain ⟨kept, hkept, hkeptEvidence, -⟩ := hgrows.peers peer hpeer
    exact ⟨kept, hkept, hkeptEvidence.trans (heq.trans hevidence.symm)⟩
  · obtain ⟨source, hsource, hevidence, -, hprepared⟩ := hsources source' hsource'
    rw [hevidence] at htransition ⊢
    obtain ⟨receipt, hreceipt, howned, hstate⟩ := h.owned source hsource htransition
    refine ⟨receipt,
      hreceipts source hsource receipt hreceipt htransition howned hstate, howned, ?_⟩
    rw [hstate]
    simp only [receiptStateOf, hprepared]

variable {start : StartState}

theorem SagaInvariant.same_sources (h : SagaInvariant hash s) (hstart : StartInvariant hash start)
    (hgrows : Grows s.start start) (hruns : RunsKept s.start.executor.tables start.executor.tables)
    (hsources : start.sources = s.start.sources)
    (hbindings : ∀ binding ∈ start.bindings, binding ∈ s.start.bindings ∨
      ∃ source ∈ s.start.sources, recoveryRunBindingFromHandoff source.evidence = some binding) :
    SagaInvariant hash { s with start } := by
  refine h.kept hstart hgrows hruns (fun source hsource => ?_) hbindings h.commands
    fun _ _ receipt hreceipt _ _ _ => hreceipt
  have hold : source ∈ s.start.sources := hsources ▸ hsource
  obtain ⟨run, -, hstarts⟩ := h.sources source hold
  exact ⟨source, hold, rfl, hstarts.state, Iff.rfl⟩

variable {commands : ReceiptTables}

theorem SagaInvariant.same_start (h : SagaInvariant hash s) (hcommands : commands.Sound)
    (hreceipts : ∀ source ∈ s.start.sources, ∀ receipt ∈ s.commands.receipts,
      source.evidence.payload.transitionCommandReceipt = true →
        ReceiptTables.Owned receipt source.evidence →
          receipt.state = receiptStateOf source.state → receipt ∈ commands.receipts) :
    SagaInvariant hash { s with commands } := by
  refine h.kept h.start (Grows.of_same rfl rfl rfl) (.of_eq rfl) (fun source hsource => ?_)
    (fun _ hbinding => .inl hbinding) hcommands hreceipts
  obtain ⟨run, -, hstarts⟩ := h.sources source hsource
  exact ⟨source, hsource, rfl, hstarts.state, Iff.rfl⟩

theorem executor_invariant (h : SagaInvariant hash s) {action : ExecutorLabel}
    (hstep : (runStart hash).step s.start (.executor action) = some start) :
    SagaInvariant hash { s with start } := by
  have heffect := step_effect _ h.start hstep
  simp only [runStart] at hstep
  split at hstep
  · cases hstep
  · rename_i hallowed
    obtain ⟨e, haction, rfl⟩ := Option.map_eq_some_iff.mp hstep
    refine h.same_sources heffect.invariant heffect.grows ?_ rfl fun _ hbinding => .inl hbinding
    rcases step_moves h.start.keyed haction with ⟨resolved, parked, hmoves⟩ | ⟨start, rfl, -⟩
    · exact hmoves.runsKept
    · exact absurd rfl hallowed

theorem commitRunStartPeer_bindings {bindings bindings' : List RecoveryRunBinding}
    {peers peers' : List RunStartHandoff} {binding : RecoveryRunBinding}
    {handoff : RunStartHandoff}
    (hcommit : commitRunStartPeer hash bindings peers binding handoff = some (bindings', peers')) :
    ∀ row ∈ bindings', row ∈ bindings ∨ row = binding := by
  simp only [commitRunStartPeer, bind, Option.bind_eq_some_iff] at hcommit
  obtain ⟨bound, hbound, _, -, heq⟩ := hcommit
  obtain ⟨rfl, -⟩ := Prod.mk.inj (Option.some.inj heq)
  intro row hrow
  unfold bindRecoveryRun at hbound
  split at hbound
  · split at hbound
    · cases hbound
    · obtain rfl := Option.some.inj hbound
      exact Table.mem_insert.mp hrow
  · split at hbound
    · cases hbound
    · obtain rfl := Option.some.inj hbound
      exact .inl hrow

theorem commitRecoveryPeer_spec {start start' : StartState}
    (hstep : start.commitRecoveryPeer hash r = some start') :
    start'.executor = start.executor ∧ start'.sources = start.sources ∧
      ∀ binding ∈ start'.bindings, binding ∈ start.bindings ∨
        ∃ source ∈ start.sources, recoveryRunBindingFromHandoff source.evidence = some binding := by
  simp only [StartState.commitRecoveryPeer, bind, Option.bind_eq_some_iff] at hstep
  obtain ⟨source, hload, hif⟩ := hstep
  split at hif
  · simp only [Option.bind_eq_some_iff] at hif
    obtain ⟨binding, hbinding, ⟨bindings, peers⟩, hcommit, heq⟩ := hif
    obtain rfl := Option.some.inj heq
    refine ⟨rfl, rfl, fun row hrow => ?_⟩
    rcases commitRunStartPeer_bindings hcommit row hrow with hold | rfl
    · exact .inl hold
    · exact .inr ⟨source, Table.lookup_mem hload, hbinding⟩
  · cases hif

theorem commitRecoveryPeer_invariant (h : SagaInvariant hash s)
    (hstep : s.commitRecoveryPeer hash r = some s') : SagaInvariant hash s' := by
  simp only [SagaState.commitRecoveryPeer, bind, Option.bind_eq_some_iff] at hstep
  obtain ⟨source, -, binding, -, hif⟩ := hstep
  split at hif
  · obtain ⟨start, hcommit, rfl⟩ := Option.map_eq_some_iff.mp hif
    have heffect := step_effect (.commitRecoveryPeer r) h.start hcommit
    obtain ⟨hexecutor, hsources, hbindings⟩ := commitRecoveryPeer_spec hcommit
    exact h.same_sources heffect.invariant heffect.grows
      (.of_eq (congrArg (fun e => e.tables.runs) hexecutor)) hsources hbindings
  · cases hif

theorem completePeer_invariant (h : SagaInvariant hash s)
    (hstep : s.start.completePeer hash r = some start) : SagaInvariant hash { s with start } := by
  have heffect := step_effect (.completePeer r) h.start hstep
  simp only [completePeer, bind, Option.bind_eq_some_iff] at hstep
  obtain ⟨⟨source, peer⟩, -, hif⟩ := hstep
  dsimp only at hif
  split at hif
  · obtain ⟨_, -, heq⟩ := Option.bind_eq_some_iff.mp hif
    obtain rfl := Option.some.inj heq
    exact h.same_sources heffect.invariant heffect.grows (.of_eq rfl) rfl
      fun _ hbinding => .inl hbinding
  · cases hif

theorem completeSource_invariant (h : SagaInvariant hash s)
    (hstep : s.start.completeSource hash r = some start) : SagaInvariant hash { s with start } := by
  have heffect := step_effect (.completeSource r) h.start hstep
  simp only [completeSource, bind, Option.bind_eq_some_iff] at hstep
  obtain ⟨⟨source, peer⟩, -, hif⟩ := hstep
  dsimp only at hif
  split at hif
  · obtain ⟨⟨rows, recorded⟩, htransition, heq⟩ := Option.bind_eq_some_iff.mp hif
    obtain rfl := Option.some.inj heq
    obtain ⟨f, rfl, hf⟩ := transitionHandoff_map h.start.handoffs.uniqueSources htransition
    refine h.kept heffect.invariant heffect.grows (.of_eq rfl) (fun source' hsource' => ?_)
      (fun _ hbinding => .inl hbinding) h.commands fun _ _ receipt hreceipt _ _ _ => hreceipt
    obtain ⟨row, hrow, rfl⟩ := List.mem_map.mp hsource'
    obtain ⟨run, -, hstarts⟩ := h.sources row hrow
    refine ⟨row, hrow, (hf row hrow).1, ?_⟩
    rcases (hf row hrow).2 with hsame | ⟨-, hconfirmed, hcompleted⟩
    · rw [hsame]
      exact ⟨hstarts.state, Iff.rfl⟩
    · rw [hcompleted, hconfirmed]
      decide
  · cases hif

theorem receiptState_ne_received (state : HandoffState) : receiptStateOf state ≠ .received := by
  cases state <;> decide

variable {received : CommandReceipt}

theorem recordReceipt_invariant (h : SagaInvariant hash s)
    {recorded : ReceiptTables × CommandReceipt}
    (hstep : s.commands.recordReceived received = some recorded) :
    SagaInvariant hash { s with commands := recorded.1 } := by
  obtain ⟨hsound, -, -, -, hkept, -⟩ := h.commands.record hstep
  exact h.same_start hsound fun _ _ receipt hreceipt _ _ _ => hkept receipt hreceipt

theorem moveReceipt_invariant (h : SagaInvariant hash s) {key : String} {next : ReceiptState}
    {entityType entityId : Option String}
    (hstep : s.moveReceipt key next entityType entityId = some s') : SagaInvariant hash s' := by
  unfold SagaState.moveReceipt at hstep
  split at hstep
  · cases hstep
  · rename_i hforeign
    simp only [bind, Option.bind_eq_some_iff] at hstep
    obtain ⟨receipt, hload, ⟨commands, moved⟩, hmove, heq⟩ := hstep
    obtain rfl := Option.some.inj heq
    obtain ⟨hsound, hupdate, -, hkey⟩ := h.commands.move (Table.lookup_mem hload) hmove
    refine h.same_start hsound fun source hsource other hother htransition howned _ => ?_
    have hne : other.idempotencyKey ≠ moved.idempotencyKey := by
      intro heq
      refine hforeign (List.any_eq_true.mpr ⟨source, hsource, ?_⟩)
      rw [htransition, Bool.true_and, decide_eq_true_eq, ← howned.key, heq, hkey]
      exact Table.lookup_key hload
    rw [show commands = _ from hupdate]
    exact Table.mem_overwrite_of_ne hother hne

theorem enqueueEffect_invariant (h : SagaInvariant hash s) {key : String}
    (hstep : s.enqueueEffect key = some s') : SagaInvariant hash s' := by
  simp only [SagaState.enqueueEffect, bind, Option.bind_eq_some_iff] at hstep
  obtain ⟨receipt, hload, message, heffect, outbox, henqueue, heq⟩ := hstep
  obtain rfl := Option.some.inj heq
  obtain ⟨outbox', henqueue', hsound⟩ := h.commands.enqueue (Table.lookup_mem hload) heffect
  obtain rfl := Option.some.inj (henqueue'.symm.trans henqueue)
  exact h.same_start hsound fun _ _ receipt hreceipt _ _ _ => hreceipt

theorem prepareReceipt_spec (h : s.commands.Sound) {runId : String}
    (hprepare : s.prepareReceipt received runId = some commands) : commands.Sound ∧
      (∃ receipt ∈ commands.receipts, receipt.idempotencyKey = received.idempotencyKey ∧
        receipt.state = .effectPrepared ∧ receipt.resultEntityType.isSome = true ∧
          receipt.resultEntityId = some runId) ∧
        ∀ other ∈ s.commands.receipts, other.state ≠ .received → other ∈ commands.receipts := by
  simp only [SagaState.prepareReceipt, bind, Option.bind_eq_some_iff] at hprepare
  obtain ⟨⟨recorded, receipt⟩, hrecord, hif⟩ := hprepare
  dsimp only at hif
  split at hif
  · cases hif
  · rename_i hreceived
    have hreceived : receipt.state = .received := not_not.mp hreceived
    simp only [Option.bind_eq_some_iff] at hif
    obtain ⟨⟨validated, first⟩, hvalidate, ⟨prepared, second⟩, hmove, heq⟩ := hif
    obtain rfl := Option.some.inj heq
    obtain ⟨hrecorded, hmem, hkey, -, hold, -⟩ := h.record hrecord
    obtain ⟨hvalidated, hfirstUpdate, hfirstMem, hfirstKey⟩ := hrecorded.move hmem hvalidate
    obtain ⟨hprepared, hsecondUpdate, hsecondMem, hsecondKey⟩ := hvalidated.move hfirstMem hmove
    have hfirstState : first.state = .validated := by
      obtain ⟨row, hrow, hpair⟩ := Option.map_eq_some_iff.mp hvalidate
      obtain ⟨-, rfl⟩ := Prod.mk.inj hpair
      exact (ReceiptTables.transitionCommandReceipt_some hrow).2.1
    obtain ⟨row, hrow, hpair⟩ := Option.map_eq_some_iff.mp hmove
    obtain ⟨-, rfl⟩ := Prod.mk.inj hpair
    simp only [transitionCommandReceipt, hfirstState] at hrow
    obtain rfl := Option.some.inj hrow
    refine ⟨hprepared, ⟨_, hsecondMem, hsecondKey.trans (hfirstKey.trans hkey), rfl, rfl, rfl⟩,
      fun other hother hpast => ?_⟩
    -- the rows that are rewritten are those of the recorded receipt
    have hne : other.idempotencyKey ≠ receipt.idempotencyKey := fun hsame =>
      hpast (Table.key_injOn hrecorded.receipts (hold other hother) hmem hsame ▸ hreceived)
    rw [show prepared = _ from hsecondUpdate, show validated = _ from hfirstUpdate]
    exact Table.mem_overwrite_of_ne (Table.mem_overwrite_of_ne (hold other hother)
      (by rw [hfirstKey]; exact hne)) (by rw [hsecondKey, hfirstKey]; exact hne)

variable {transition : Bool} {started : StartState}

theorem startRun_spec (h : SagaInvariant hash s) {start : RunStart} {receiptId : String}
    (hstep : s.start.startRun hash start receiptId transition = some started) :
    ∃ tables, RunTables.SavedRows { start with deferUntilRecoveryBound := true }
        s.start.executor.tables tables ∧
      started = { s.start with
        executor := { s.start.executor with tables }
        sources := Table.insert s.start.sources (runStartSourceHandoff hash
          (startedRunFromPlan { start with deferUntilRecoveryBound := true })
          (tables.loadTargets start.runId) receiptId transition) } := by
  unfold startRun at hstep
  split at hstep
  · cases hstep
  · rename_i tables hsave
    have hrows := RunTables.saveStartedRun_rows hsave
    obtain ⟨run, rows, recorded, hload, rfl, hrecord⟩ := prepareRunStart_spec hstep
    have hkeyed : tables.Keyed := h.start.keyed.save hrows
    have hnew : startedRunFromPlan { start with deferUntilRecoveryBound := true } ∈ tables.runs :=
      hrows.runs ▸ List.mem_append_right _ (List.mem_singleton.mpr rfl)
    obtain rfl := Table.key_injOn hkeyed.runs (Table.lookup_mem hload) hnew
      (Table.lookup_key hload)
    refine ⟨tables, hrows, ?_⟩
    obtain ⟨-, hevidence, hmem, hsame | ⟨-, rfl⟩⟩ := recordHandoff_rows hrecord
    · -- a stored source of this id would belong to a stored run
      obtain ⟨run, hrun, hstarts⟩ := h.sources recorded (hsame ▸ hmem)
      have hid : run.id = start.runId := by
        refine (runStartHandoffId_injective ?_).symm
        rw [← hstarts.describes.id, hevidence]
        rfl
      exact absurd hid (hrows.freshRun run hrun)
    · rfl

theorem startRun_invariant (h : SagaInvariant hash s) {start : RunStart} {receiptId : String}
    (hsealed : start.sealed = true)
    (hstep : s.start.startRun hash start receiptId transition = some started)
    (hcommands : commands.Sound)
    (hkept : ∀ other ∈ s.commands.receipts, other.state ≠ .received → other ∈ commands.receipts)
    (hprepared : transition = true → nonBlank receiptId = true ∧
      ∃ receipt ∈ commands.receipts, receipt.idempotencyKey = receiptId ∧
        receipt.state = .effectPrepared ∧ receipt.resultEntityType.isSome = true ∧
          receipt.resultEntityId = some start.runId) :
    SagaInvariant hash { start := started, commands } := by
  have heffect := step_effect (.startRun start receiptId transition) h.start hstep
  obtain ⟨tables, hrows, rfl⟩ := startRun_spec h hstep
  refine ⟨heffect.invariant, hcommands, fun run hrun => ?_, fun source hsource => ?_,
    fun binding hbinding => ?_, fun source hsource hconfirmed => ?_,
    fun source hsource htransition => ?_⟩
  · rcases List.mem_append.mp (hrows.runs ▸ hrun) with hold | hnew
    · exact h.isSealed run hold
    · rw [List.mem_singleton.mp hnew]
      unfold RunStart.sealed at hsealed
      rw [Bool.and_eq_true] at hsealed
      exact hsealed
  · rcases Table.mem_insert.mp hsource with hold | rfl
    · obtain ⟨run, hrun, hstarts⟩ := h.sources source hold
      exact ⟨run, hrows.runs ▸ List.mem_append_left _ hrun, hstarts⟩
    · refine ⟨_, hrows.runs ▸ List.mem_append_right _ (List.mem_singleton.mpr rfl),
        runStartSourceHandoff_describes hash _ _ _ _, rfl, ⟨rfl, rfl, rfl⟩, ?_, ?_⟩
      · exact List.mem_cons_self
      · intro hconfirmed
        exact absurd rfl hconfirmed
  · obtain ⟨source, hsource, hread⟩ := h.bindings binding hbinding
    exact ⟨source, Table.mem_insert.mpr (.inl hsource), hread⟩
  · rcases Table.mem_insert.mp hsource with hold | rfl
    · exact h.peered source hold hconfirmed
    · exact absurd rfl hconfirmed
  · rcases Table.mem_insert.mp hsource with hold | rfl
    · obtain ⟨receipt, hreceipt, howned, hstate⟩ := h.owned source hold htransition
      refine ⟨receipt, hkept receipt hreceipt ?_, howned, hstate⟩
      rw [hstate]
      exact receiptState_ne_received _
    · obtain ⟨hkeyed, receipt, hreceipt, hkey, hstate, htype, hid⟩ := hprepared htransition
      exact ⟨receipt, hreceipt, ⟨hkey, hkey.symm ▸ hkeyed, htype, hid⟩, hstate⟩

variable {runId receiptId : String}

theorem prepareRunStart_same (h : SagaInvariant hash s)
    (hstep : s.start.prepareRunStart hash runId receiptId transition = some start) :
    start = s.start := by
  obtain ⟨run, rows, recorded, hload, rfl, hrecord⟩ := prepareRunStart_spec hstep
  obtain ⟨source, hsource, hdescribes⟩ := h.start.described run (Table.lookup_mem hload)
  obtain ⟨-, -, -, rfl | ⟨hnone, -⟩⟩ := recordHandoff_rows hrecord
  · rfl
  · exact absurd hdescribes.id (Table.lookup_none_iff.mp hnone source hsource)

theorem dispatchStartRun_invariant (h : SagaInvariant hash s) {start : RunStart}
    (hstep : s.dispatchStartRun hash received start = some s') : SagaInvariant hash s' := by
  unfold SagaState.dispatchStartRun at hstep
  split at hstep
  · rename_i hguard
    simp only [Bool.and_eq_true, decide_eq_true_eq] at hguard
    simp only [bind, Option.bind_eq_some_iff] at hstep
    obtain ⟨commands, hprepare, started, hstart, heq⟩ := hstep
    obtain rfl := Option.some.inj heq
    obtain ⟨hsound, hreceipt, hkept⟩ := prepareReceipt_spec h.commands hprepare
    exact startRun_invariant h hguard.1.1 hstart hsound hkept fun _ => ⟨hguard.1.2, hreceipt⟩
  · cases hstep

theorem dispatchExistingRun_invariant (h : SagaInvariant hash s)
    (hstep : s.dispatchExistingRun hash received runId receiptId = some s') :
    SagaInvariant hash s' := by
  unfold SagaState.dispatchExistingRun at hstep
  split at hstep
  · simp only [bind, Option.bind_eq_some_iff] at hstep
    obtain ⟨commands, hprepare, prepared, hstart, heq⟩ := hstep
    obtain rfl := Option.some.inj heq
    obtain rfl := prepareRunStart_same h hstart
    obtain ⟨hsound, -, hkept⟩ := prepareReceipt_spec h.commands hprepare
    refine h.same_start hsound fun source _ receipt hreceipt _ _ hstate => hkept receipt hreceipt ?_
    rw [hstate]
    exact receiptState_ne_received _
  · cases hstep

theorem source_of_receipt (h : SagaInvariant hash s) {source other : RunStartHandoff}
    {receipt : CommandReceipt} (hsource : source ∈ s.start.sources)
    (hother : other ∈ s.start.sources) (howned : ReceiptTables.Owned receipt source.evidence)
    (hotherOwned : ReceiptTables.Owned receipt other.evidence) : source = other := by
  obtain ⟨run, -, hstarts⟩ := h.sources source hsource
  obtain ⟨otherRun, -, hotherStarts⟩ := h.sources other hother
  have hentity : source.evidence.entityId = other.evidence.entityId :=
    Option.some.inj (howned.entityId.symm.trans hotherOwned.entityId)
  have hruns : run.id = otherRun.id := by rw [← hstarts.entity, hentity, hotherStarts.entity]
  refine Table.key_injOn h.start.handoffs.uniqueSources hsource hother ?_
  show source.evidence.handoffId = other.evidence.handoffId
  rw [hstarts.describes.id, hotherStarts.describes.id, hruns]

theorem accept_spec (h : SagaInvariant hash s) {source : RunStartHandoff}
    (hsource : source ∈ s.start.sources) :
    ∃ commands, s.commands.acceptRunStartReceipt source.evidence = some commands ∧
      commands.Sound ∧
      (∀ receipt ∈ s.commands.receipts,
        source.evidence.payload.transitionCommandReceipt = true →
          ReceiptTables.Owned receipt source.evidence →
            { receipt with state := .succeeded } ∈ commands.receipts) ∧
      ∀ other ∈ s.start.sources, other ≠ source → ∀ receipt ∈ s.commands.receipts,
        other.evidence.payload.transitionCommandReceipt = true →
          ReceiptTables.Owned receipt other.evidence → receipt ∈ commands.receipts := by
  cases htransition : source.evidence.payload.transitionCommandReceipt with
  | false =>
    refine ⟨s.commands, ?_, h.commands, fun _ _ heq => (by cases heq),
      fun _ _ _ receipt hreceipt _ _ => hreceipt⟩
    rw [ReceiptTables.acceptRunStartReceipt, if_pos htransition]
  | true =>
    obtain ⟨own, hown, howned, hstate⟩ := h.owned source hsource htransition
    have hstates : own.state = .effectPrepared ∨ own.state = .succeeded := by
      rw [hstate]
      cases source.state <;> decide
    obtain ⟨commands, haccept, hsound, hsucceeded, hothers⟩ :=
      ReceiptTables.acceptRunStartReceipt_owned h.commands hown howned hstates
    refine ⟨commands, haccept, hsound, fun receipt hreceipt _ hreceiptOwned => ?_,
      fun other hother hne receipt hreceipt _ hreceiptOwned => hothers receipt hreceipt ?_⟩
    · obtain rfl := Table.key_injOn h.commands.receipts hreceipt hown
        (hreceiptOwned.key.trans howned.key.symm)
      exact hsucceeded htransition
    · intro hsame
      obtain rfl := Table.key_injOn h.commands.receipts hreceipt hown hsame
      exact hne (source_of_receipt h hother hsource hreceiptOwned howned)

variable {source peer : RunStartHandoff}

theorem matchingHandoffs_of_mem (h : Handoffs hash start) (hsource : source ∈ start.sources)
    (hpeer : peer ∈ start.peers) (hid : source.id = runStartHandoffId r)
    (heq : peer.evidence = source.evidence) :
    start.matchingHandoffs hash r = some (source, peer) := by
  have hpeerId : peer.id = source.id := congrArg HandoffEvidence.handoffId heq
  simp only [matchingHandoffs, bind, loadHandoff_of_mem h.uniqueSources hsource hid,
    Option.bind_some, loadHandoff_of_mem h.uniquePeers hpeer hpeerId,
    mismatch_none_iff.mpr ⟨heq.symm, h.decoded source hsource⟩]
  simp

theorem releaseCreatedRun_of_mem {t : RunTables} (hk : t.Keyed) {run : RunRow}
    (hrun : run ∈ t.runs) :
    ∃ t' run', t.releaseCreatedRun run.id = some t' ∧ t'.loadStartedRun run.id = some run' ∧
      run'.identity = run.identity ∧ run'.state ≠ .created := by
  have hkeyed : (t.updateRuns run.id (·.state = .created) ({ · with state := .queued })).Keyed :=
    hk.updateRuns fun _ => rfl
  -- the row of the run after the update, by the state it was in
  have hrow : ∃ run' ∈ (t.updateRuns run.id (·.state = .created)
      ({ · with state := .queued })).runs, run'.identity = run.identity ∧
        run'.state ≠ .created := by
    by_cases hcreated : run.state = .created
    · exact ⟨_, RunTables.mem_updateRuns_of_mem hrun rfl (by simpa using hcreated), rfl,
        fun heq => by cases heq⟩
    · refine ⟨run, Table.mem_updateWhere.mpr ⟨run, hrun, ?_⟩, rfl, hcreated⟩
      rw [if_neg (by simp [hcreated])]
  obtain ⟨run', hrun', hid, hdeparted⟩ := hrow
  have hrunId : run'.id = run.id := congrArg Prod.fst hid
  have hload : (t.updateRuns run.id (·.state = .created)
      ({ · with state := .queued })).loadStartedRun run.id = some run' := by
    have hself := Table.lookup_of_mem hkeyed.runs hrun'
    rwa [hrunId] at hself
  refine ⟨_, run', ?_, hload, hid, hdeparted⟩
  unfold RunTables.releaseCreatedRun
  simp only [hload]
  rw [if_neg (by simp [hdeparted])]

/-- The source is confirmed, and nothing else has changed. -/
structure Confirmed (hash : RunStartPayload → String) (s : SagaState) (source : RunStartHandoff)
    (s' : SagaState) : Prop where
  invariant : SagaInvariant hash s'
  peers : s'.start.peers = s.start.peers
  source : ∃ confirmed ∈ s'.start.sources, confirmed.evidence = source.evidence ∧
    confirmed.state = (if source.state = .prepared then .sourceConfirmed else source.state)
  ids : s'.start.sources.map CrossStoreHandoff.id = s.start.sources.map CrossStoreHandoff.id

theorem confirmed_again (h : SagaInvariant hash s) {source : RunStartHandoff}
    (hsource : source ∈ s.start.sources) (hpast : source.state ≠ .prepared) :
    ∃ commands, s.commands.acceptRunStartReceipt source.evidence = some commands ∧
      Confirmed hash s source { s with commands } := by
  obtain ⟨commands, haccept, hsound, hown, hothers⟩ := accept_spec h hsource
  refine ⟨commands, haccept, ?_, rfl, ⟨source, hsource, rfl, by rw [if_neg hpast]⟩, rfl⟩
  refine h.same_start hsound fun other hother receipt hreceipt htransition howned hstate => ?_
  by_cases hsame : other = source
  · subst hsame
    have hsucceeded : receipt.state = .succeeded := by
      rw [hstate, receiptStateOf, if_neg hpast]
    have hkept := hown receipt hreceipt htransition howned
    rwa [← hsucceeded] at hkept
  · exact hothers other hother hsame receipt hreceipt htransition howned

theorem confirmed_first (h : SagaInvariant hash s) (hsource : source ∈ s.start.sources)
    (hpeer : peer ∈ s.start.peers) (hid : source.id = runStartHandoffId r)
    (heq : peer.evidence = source.evidence) (hprepared : source.state = .prepared) :
    ∃ start commands, s.start.confirmCatalogSource hash r true = some start ∧
      s.commands.acceptRunStartReceipt source.evidence = some commands ∧
        Confirmed hash s source { start, commands } := by
  obtain ⟨run, hrun, hstarts⟩ := h.sources source hsource
  obtain rfl : run.id = r := runStartHandoffId_injective (hstarts.describes.id.symm.trans hid)
  obtain ⟨tables, run', hrelease, hload, hrunIdentity, hdeparted⟩ :=
    releaseCreatedRun_of_mem h.start.keyed hrun
  obtain ⟨updated, htransition, hevidence, hstate⟩ := transitionHandoff_of_mem
    .sourceConfirmed h.start.handoffs.uniqueSources hsource hprepared (by decide)
    (by decide)
  obtain ⟨commands, haccept, hsound, hown, hothers⟩ := accept_spec h hsource
  have hupdatedId : updated.id = source.id := congrArg HandoffEvidence.handoffId hevidence
  have hconfirm : s.start.confirmCatalogSource hash run.id true = some { s.start with
      executor := { s.start.executor with tables }
      sources := Table.overwrite CrossStoreHandoff.id s.start.sources updated } := by
    simp only [StartState.confirmCatalogSource, bind,
      matchingHandoffs_of_mem h.start.handoffs hsource hpeer hid heq, Option.bind_some]
    rw [if_neg (not_not.mpr (h.start.handoffs.peerStates peer hpeer))]
    simp only [releasePrepared, if_pos hprepared, bind, hrelease, hload, htransition,
      Option.bind_some, if_neg hdeparted]
    simp
  -- the invariant of the new state: only this source and its receipt have moved
  have heffect := step_effect (.confirmCatalogSource run.id true) h.start hconfirm
  have hkept := (RunTables.releaseCreatedRun_moves hrelease).runsKept
  have hmem : updated ∈ Table.overwrite CrossStoreHandoff.id s.start.sources updated :=
    Table.mem_overwrite_self hsource hupdatedId.symm
  refine ⟨_, commands, hconfirm, haccept, ⟨heffect.invariant, hsound, fun other hother => ?_,
    fun other hother => ?_, fun binding hbinding => ?_, fun other hother hpast => ?_,
    fun other hother hmoves => ?_⟩, rfl,
      ⟨updated, hmem, hevidence, by rw [if_pos hprepared, hstate]⟩,
    Table.map_key_overwrite⟩
  · obtain ⟨old, hold, hidentity⟩ := hkept.back other hother
    exact (h.isSealed old hold).congr hidentity
  · rcases Table.mem_overwrite hother with rfl | ⟨hold, -⟩
    · refine ⟨run', Table.lookup_mem hload, hstarts.congr hevidence hrunIdentity ?_
        fun _ => hdeparted⟩
      rw [hstate]
      decide
    · obtain ⟨oldRun, holdRun, holdStarts⟩ := h.sources other hold
      obtain ⟨keptRun, hkeptRun, hidentity, hstays⟩ := hkept.forth oldRun holdRun
      exact ⟨keptRun, hkeptRun, holdStarts.congr rfl hidentity holdStarts.state
        fun hpast => hstays (holdStarts.departed hpast)⟩
  · obtain ⟨old, hold, hread⟩ := h.bindings binding hbinding
    obtain ⟨kept, hkeptMem, hkeptEvidence, -⟩ := heffect.grows.sources old hold
    exact ⟨kept, hkeptMem, hkeptEvidence ▸ hread⟩
  · rcases Table.mem_overwrite hother with rfl | ⟨hold, -⟩
    · exact ⟨peer, hpeer, heq.trans hevidence.symm⟩
    · exact h.peered other hold hpast
  · rcases Table.mem_overwrite hother with rfl | ⟨hold, hne⟩
    · rw [hevidence] at hmoves ⊢
      obtain ⟨receipt, hreceipt, howned, -⟩ := h.owned source hsource hmoves
      refine ⟨_, hown receipt hreceipt hmoves howned,
        ⟨howned.key, howned.keyed, howned.entityType, howned.entityId⟩, ?_⟩
      rw [hstate]
      rfl
    · obtain ⟨receipt, hreceipt, howned, hreceiptState⟩ := h.owned other hold hmoves
      refine ⟨receipt, hothers other hold (fun hsame => hne ?_) receipt hreceipt hmoves howned,
        howned, hreceiptState⟩
      rw [hsame, hupdatedId]

theorem confirmCatalogSource_spec (h : SagaInvariant hash s) (hsource : source ∈ s.start.sources)
    (hpeer : peer ∈ s.start.peers) (hid : source.id = runStartHandoffId r)
    (heq : peer.evidence = source.evidence) :
    ∃ s', s.confirmCatalogSource hash r = some s' ∧ Confirmed hash s source s' := by
  by_cases hprepared : source.state = .prepared
  · obtain ⟨start, commands, hconfirm, haccept, hconfirmed⟩ :=
      confirmed_first h hsource hpeer hid heq hprepared
    obtain ⟨confirmed, hmem, hevidence, -⟩ := hconfirmed.source
    have hload : loadHandoff start.sources (runStartHandoffId r) = some confirmed :=
      loadHandoff_of_mem hconfirmed.invariant.start.handoffs.uniqueSources hmem
        ((congrArg HandoffEvidence.handoffId hevidence).trans hid)
    refine ⟨_, ?_, hconfirmed⟩
    simp only [SagaState.confirmCatalogSource, bind, hconfirm, Option.bind_some, hload, hevidence,
      haccept]
  · obtain ⟨commands, haccept, hconfirmed⟩ := confirmed_again h hsource hprepared
    have hconfirm : s.start.confirmCatalogSource hash r true = some s.start := by
      simp only [StartState.confirmCatalogSource, bind,
        matchingHandoffs_of_mem h.start.handoffs hsource hpeer hid heq, Option.bind_some]
      rw [if_neg (not_not.mpr (h.start.handoffs.peerStates peer hpeer))]
      simp only [releasePrepared, if_neg hprepared, Option.bind_some]
      simp
    refine ⟨_, ?_, hconfirmed⟩
    simp only [SagaState.confirmCatalogSource, bind, hconfirm, Option.bind_some,
      loadHandoff_of_mem h.start.handoffs.uniqueSources hsource hid, haccept]

theorem confirmCatalogSource_invariant (h : SagaInvariant hash s)
    (hstep : s.confirmCatalogSource hash r = some s') : SagaInvariant hash s' := by
  have hparts : ∃ source peer, s.start.matchingHandoffs hash r = some (source, peer) := by
    simp only [SagaState.confirmCatalogSource, StartState.confirmCatalogSource, bind,
      Option.bind_eq_some_iff] at hstep
    obtain ⟨_, ⟨pair, hmatch, -⟩, -⟩ := hstep
    exact ⟨pair.1, pair.2, hmatch⟩
  obtain ⟨source, peer, hmatch⟩ := hparts
  obtain ⟨hsource, hpeer, hid, heq⟩ := matchingHandoffs_spec hmatch
  obtain ⟨_, hconfirm, hconfirmed⟩ := confirmCatalogSource_spec h hsource hpeer hid heq.symm
  obtain rfl := Option.some.inj (hconfirm.symm.trans hstep)
  exact hconfirmed.invariant

theorem sagaInvariant_reachable (h : (startSaga hash).Reachable s) : SagaInvariant hash s := by
  refine System.ReachableWhen.invariant (P := SagaInvariant hash) (fun s hs => ?_)
    (fun s label s' _ hinv _ hstep => ?_) h
  · obtain rfl : s = _ := hs
    exact ⟨startInvariant_reachable (.init rfl), ⟨List.nodup_nil, List.nodup_nil, by simp⟩,
      by simp, by simp, by simp, by simp, by simp⟩
  · cases label with
    | dispatchStartRun received start => exact dispatchStartRun_invariant hinv hstep
    | dispatchExistingRun received runId receiptId => exact dispatchExistingRun_invariant hinv hstep
    | startTriggeredRun start receiptId =>
      simp only [startSaga, SagaState.startTriggeredRun] at hstep
      split at hstep
      · rename_i hsealed
        obtain ⟨started, hstart, rfl⟩ := Option.map_eq_some_iff.mp hstep
        exact startRun_invariant hinv hsealed hstart hinv.commands (fun _ hreceipt _ => hreceipt)
          fun htransition => by cases htransition
      · cases hstep
    | prepareTriggeredRun runId receiptId =>
      obtain ⟨prepared, hprepare, rfl⟩ := Option.map_eq_some_iff.mp hstep
      obtain rfl := prepareRunStart_same hinv hprepare
      exact hinv
    | commitRecoveryPeer runId => exact commitRecoveryPeer_invariant hinv hstep
    | confirmCatalogSource runId => exact confirmCatalogSource_invariant hinv hstep
    | completePeer runId =>
      obtain ⟨start, hcomplete, rfl⟩ := Option.map_eq_some_iff.mp hstep
      exact completePeer_invariant hinv hcomplete
    | completeSource runId =>
      obtain ⟨start, hcomplete, rfl⟩ := Option.map_eq_some_iff.mp hstep
      exact completeSource_invariant hinv hcomplete
    | markAmbiguous runId crashed =>
      obtain ⟨start, hmark, rfl⟩ := Option.map_eq_some_iff.mp hstep
      rw [markAmbiguous_none hinv.start.handoffs crashed] at hmark
      cases hmark
    | reconcileDiverged handoffId =>
      obtain ⟨start, hmark, rfl⟩ := Option.map_eq_some_iff.mp hstep
      rw [reconcileDiverged_none hinv.start.handoffs handoffId] at hmark
      cases hmark
    | recordReceipt received =>
      simp only [startSaga] at hstep
      split at hstep
      · obtain ⟨recorded, hrecord, rfl⟩ := Option.map_eq_some_iff.mp hstep
        exact recordReceipt_invariant hinv hrecord
      · cases hstep
    | moveReceipt key next entityType entityId => exact moveReceipt_invariant hinv hstep
    | enqueueEffect key => exact enqueueEffect_invariant hinv hstep
    | executor action =>
      obtain ⟨start, haction, rfl⟩ := Option.map_eq_some_iff.mp hstep
      exact executor_invariant hinv haction

end

end MediaSync.Runs
