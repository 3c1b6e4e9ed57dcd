import MediaSync.Runs.Handoff

/-! A command that starts a run has a receipt in the catalog. -/
namespace MediaSync.Runs
open CrossStore Text

inductive ReceiptState where
  | received
  | validated
  | effectPrepared
  | accepted
  | running
  | succeeded
  | rejected
  | failed
  | cancelled
  deriving DecidableEq

def ReceiptState.allowed : ReceiptState → List ReceiptState
  | .received => [.validated, .rejected]
  | .validated => [.effectPrepared, .rejected]
  | .effectPrepared => [.accepted, .failed]
  | .accepted => [.running, .succeeded, .failed, .cancelled]
  | .running => [.succeeded, .failed, .cancelled]
  | _ => []

structure CommandReceipt where
  idempotencyKey : String
  requestId : String
  commandName : String
  state : ReceiptState
  resultEntityType : Option String
  resultEntityId : Option String
  deriving DecidableEq

def transitionCommandReceipt (receipt : CommandReceipt) (next : ReceiptState)
    (resultEntityType resultEntityId : Option String) : Option CommandReceipt :=
  if receipt.state = next then some receipt
  else if !receipt.state.allowed.contains next then none
  else some { receipt with
    state := next
    resultEntityType := resultEntityType.or receipt.resultEntityType
    resultEntityId := resultEntityId.or receipt.resultEntityId }

structure CommandEffect where
  commandName : String
  idempotencyKey : String
  requestId : String
  resultEntityId : String
  resultEntityType : String
  deriving DecidableEq

structure OutboxMessage where
  idempotencyKey : String
  payload : CommandEffect
  deriving DecidableEq

def commandEffectOutboxMessage (receipt : CommandReceipt) : Option OutboxMessage :=
  if receipt.state ≠ .succeeded then none
  else
    match receipt.resultEntityType, receipt.resultEntityId with
    | some resultEntityType, some resultEntityId =>
      some {
        idempotencyKey := "command-effect:" ++ receipt.idempotencyKey
        payload := {
          commandName := receipt.commandName
          idempotencyKey := receipt.idempotencyKey
          requestId := receipt.requestId
          resultEntityId
          resultEntityType } }
    | _, _ => none

def enqueueOutboxMessage (outbox : List OutboxMessage) (message : OutboxMessage) :
    Option (List OutboxMessage) :=
  match Table.lookup OutboxMessage.idempotencyKey outbox message.idempotencyKey with
  | none => some (Table.insert outbox message)
  | some existing => if existing.payload ≠ message.payload then none else some outbox

structure ReceiptTables where
  receipts : List CommandReceipt
  outbox : List OutboxMessage

namespace ReceiptTables

variable (t : ReceiptTables)

def load (idempotencyKey : String) : Option CommandReceipt :=
  Table.lookup CommandReceipt.idempotencyKey t.receipts idempotencyKey

def update (receipt : CommandReceipt) : ReceiptTables :=
  { t with receipts := Table.overwrite CommandReceipt.idempotencyKey t.receipts receipt }

def recordReceived (receipt : CommandReceipt) : Option (ReceiptTables × CommandReceipt) :=
  match t.load receipt.idempotencyKey with
  | some existing => if existing.commandName ≠ receipt.commandName then none else some (t, existing)
  | none => some ({ t with receipts := Table.insert t.receipts receipt }, receipt)

/-- `transition_command_receipt` and `update_command_receipt`. -/
def move (receipt : CommandReceipt) (next : ReceiptState)
    (resultEntityType resultEntityId : Option String) : Option (ReceiptTables × CommandReceipt) :=
  (transitionCommandReceipt receipt next resultEntityType resultEntityId).map fun moved =>
    (t.update moved, moved)

/-- The two transitions of `_accept_run_start_receipt`, each from its own state. -/
def succeed (receipt : CommandReceipt) : Option (ReceiptTables × CommandReceipt) := do
  let (t, receipt) ←
    if receipt.state = .effectPrepared then t.move receipt .accepted none none
    else some (t, receipt)
  if receipt.state = .accepted then t.move receipt .succeeded none none else some (t, receipt)

def acceptRunStartReceipt (evidence : RunStartEvidence) : Option ReceiptTables :=
  if evidence.payload.transitionCommandReceipt = false then some t
  else if !nonBlank evidence.payload.commandReceiptId then none
  else do
    let receipt ← t.load evidence.payload.commandReceiptId
    let (t, receipt) ← t.succeed receipt
    if receipt.state ≠ .succeeded then none
    else if receipt.resultEntityId ≠ some evidence.entityId then none
    else
      let message ← commandEffectOutboxMessage receipt
      let outbox ← enqueueOutboxMessage t.outbox message
      some { t with outbox }

end ReceiptTables

namespace ReceiptTables

variable {t t' : ReceiptTables} {receipt moved : CommandReceipt}

/-- Receipts and messages are unique, and each message is the effect of a receipt. -/
structure Sound (t : ReceiptTables) : Prop where
  receipts : Table.KeysUnique CommandReceipt.idempotencyKey t.receipts
  outbox : Table.KeysUnique OutboxMessage.idempotencyKey t.outbox
  effects : ∀ message ∈ t.outbox, ∃ receipt ∈ t.receipts,
    commandEffectOutboxMessage receipt = some message

variable {message : OutboxMessage}

theorem commandEffectOutboxMessage_some (h : commandEffectOutboxMessage receipt = some message) :
    receipt.state = .succeeded ∧
      message.idempotencyKey = "command-effect:" ++ receipt.idempotencyKey := by
  unfold commandEffectOutboxMessage at h
  split at h
  · cases h
  · rename_i hstate
    split at h
    · obtain rfl := Option.some.inj h
      exact ⟨not_not.mp hstate, rfl⟩
    · cases h

theorem transitionCommandReceipt_some {next : ReceiptState} {entityType entityId : Option String}
    (h : transitionCommandReceipt receipt next entityType entityId = some moved) :
    moved.idempotencyKey = receipt.idempotencyKey ∧ moved.state = next ∧
      (moved = receipt ∨ next ∈ receipt.state.allowed) := by
  unfold transitionCommandReceipt at h
  split at h
  · rename_i hstate
    obtain rfl := Option.some.inj h
    exact ⟨rfl, hstate, .inl rfl⟩
  · split at h
    · cases h
    · rename_i hallowed
      obtain rfl := Option.some.inj h
      exact ⟨rfl, rfl, .inr (by simpa using hallowed)⟩

theorem Sound.update (h : t.Sound) (hmem : receipt ∈ t.receipts)
    (hkey : moved.idempotencyKey = receipt.idempotencyKey)
    (hkeep : receipt.state = .succeeded → moved = receipt) : (t.update moved).Sound := by
  refine ⟨h.receipts.overwrite, h.outbox, fun message hmessage => ?_⟩
  obtain ⟨other, hother, heffect⟩ := h.effects message hmessage
  by_cases hsame : other.idempotencyKey = moved.idempotencyKey
  · obtain rfl := Table.key_injOn h.receipts hother hmem (hsame.trans hkey)
    obtain rfl := hkeep (commandEffectOutboxMessage_some heffect).1
    exact ⟨_, Table.mem_overwrite_self hmem rfl, heffect⟩
  · exact ⟨other, Table.mem_overwrite_of_ne hother hsame, heffect⟩

theorem Sound.move (h : t.Sound) {next : ReceiptState} {entityType entityId : Option String}
    (hmem : receipt ∈ t.receipts)
    (hmove : t.move receipt next entityType entityId = some (t', moved)) :
    t'.Sound ∧ t' = t.update moved ∧ moved ∈ t'.receipts ∧
      moved.idempotencyKey = receipt.idempotencyKey := by
  obtain ⟨row, hrow, heq⟩ := Option.map_eq_some_iff.mp hmove
  obtain ⟨rfl, rfl⟩ := Prod.mk.inj heq
  obtain ⟨hkey, -, hsame⟩ := transitionCommandReceipt_some hrow
  refine ⟨h.update hmem hkey fun hsucceeded => ?_, rfl, Table.mem_overwrite_self hmem hkey.symm,
    hkey⟩
  rcases hsame with hsame | hallowed
  · exact hsame
  · rw [hsucceeded] at hallowed
    cases hallowed

variable {received : CommandReceipt}

theorem recordReceived_cases (hrecord : t.recordReceived received = some (t', receipt)) :
    (t' = t ∧ receipt ∈ t.receipts ∧ receipt.idempotencyKey = received.idempotencyKey) ∨
      (t.load received.idempotencyKey = none ∧ receipt = received ∧
        t' = { t with receipts := Table.insert t.receipts received }) := by
  unfold recordReceived at hrecord
  split at hrecord
  · rename_i existing hload
    split at hrecord
    · cases hrecord
    · obtain ⟨rfl, rfl⟩ := Prod.mk.inj (Option.some.inj hrecord)
      exact .inl ⟨rfl, Table.lookup_mem hload, Table.lookup_key hload⟩
  · rename_i hload
    obtain ⟨rfl, rfl⟩ := Prod.mk.inj (Option.some.inj hrecord)
    exact .inr ⟨hload, rfl, rfl⟩

theorem Sound.record (h : t.Sound) (hrecord : t.recordReceived received = some (t', receipt)) :
    t'.Sound ∧ receipt ∈ t'.receipts ∧ receipt.idempotencyKey = received.idempotencyKey ∧
      t'.outbox = t.outbox ∧ (∀ row ∈ t.receipts, row ∈ t'.receipts) ∧
        ∀ row ∈ t'.receipts, row ∈ t.receipts ∨ row = receipt := by
  rcases recordReceived_cases hrecord with ⟨rfl, hmem, hkey⟩ | ⟨hnone, rfl, rfl⟩
  · exact ⟨h, hmem, hkey, rfl, fun _ hrow => hrow, fun _ hrow => .inl hrow⟩
  · refine ⟨⟨h.receipts.insert hnone, h.outbox, fun message hmessage => ?_⟩,
      Table.mem_insert.mpr (.inr rfl), rfl, rfl, fun row hrow => Table.mem_insert.mpr (.inl hrow),
      fun row hrow => Table.mem_insert.mp hrow⟩
    obtain ⟨row, hrow, heffect⟩ := h.effects message hmessage
    exact ⟨row, Table.mem_insert.mpr (.inl hrow), heffect⟩

theorem Sound.enqueue (h : t.Sound) (hmem : receipt ∈ t.receipts)
    (heffect : commandEffectOutboxMessage receipt = some message) :
    ∃ outbox, enqueueOutboxMessage t.outbox message = some outbox ∧
      ({ t with outbox } : ReceiptTables).Sound := by
  unfold enqueueOutboxMessage
  cases hload : Table.lookup OutboxMessage.idempotencyKey t.outbox message.idempotencyKey with
  | none =>
    refine ⟨_, rfl, h.receipts, h.outbox.insert hload, fun other hother => ?_⟩
    rcases Table.mem_insert.mp hother with hold | rfl
    · exact h.effects other hold
    · exact ⟨receipt, hmem, heffect⟩
  | some existing =>
    obtain ⟨other, hother, hotherEffect⟩ := h.effects existing (Table.lookup_mem hload)
    have hkeys : "command-effect:" ++ other.idempotencyKey =
        "command-effect:" ++ receipt.idempotencyKey := by
      rw [← (commandEffectOutboxMessage_some hotherEffect).2,
        ← (commandEffectOutboxMessage_some heffect).2]
      exact Table.lookup_key hload
    obtain rfl := Table.key_injOn h.receipts hother hmem ((String.append_right_inj _).mp hkeys)
    obtain rfl := Option.some.inj (hotherEffect.symm.trans heffect)
    exact ⟨t.outbox, if_neg (by simp), h⟩

/-- The receipt is the one that the evidence was made for. -/
structure Owned (receipt : CommandReceipt) (evidence : RunStartEvidence) : Prop where
  key : receipt.idempotencyKey = evidence.payload.commandReceiptId
  keyed : nonBlank receipt.idempotencyKey = true
  entityType : receipt.resultEntityType.isSome = true
  entityId : receipt.resultEntityId = some evidence.entityId

variable {evidence : RunStartEvidence}

theorem Owned.effect (h : Owned receipt evidence) (hstate : receipt.state = .succeeded) :
    ∃ message, commandEffectOutboxMessage receipt = some message := by
  obtain ⟨entityType, htype⟩ := Option.isSome_iff_exists.mp h.entityType
  unfold commandEffectOutboxMessage
  rw [if_neg (by simp [hstate]), htype, h.entityId]
  exact ⟨_, rfl⟩

theorem succeed_owned (h : t.Sound) (hmem : receipt ∈ t.receipts)
    (hstate : receipt.state = .effectPrepared ∨ receipt.state = .succeeded) :
    ∃ t', t.succeed receipt = some (t', { receipt with state := .succeeded }) ∧ t'.Sound ∧
      t'.outbox = t.outbox ∧ { receipt with state := .succeeded } ∈ t'.receipts ∧
        ∀ other ∈ t.receipts, other.idempotencyKey ≠ receipt.idempotencyKey →
          other ∈ t'.receipts := by
  rcases hstate with hprepared | hsucceeded
  · -- the receipt passes through ACCEPTED
    have haccept : ({ receipt with state := .accepted } : CommandReceipt) ∈
        (t.update { receipt with state := .accepted }).receipts :=
      Table.mem_overwrite_self hmem rfl
    have hsound : (t.update { receipt with state := .accepted }).Sound :=
      h.update hmem rfl fun hsucceeded => by rw [hprepared] at hsucceeded; cases hsucceeded
    refine ⟨(t.update { receipt with state := .accepted }).update
      { receipt with state := .succeeded }, ?_, ?_, rfl, Table.mem_overwrite_self haccept rfl,
      fun other hother hne => ?_⟩
    · simp [succeed, move, transitionCommandReceipt, hprepared, ReceiptState.allowed]
    · exact hsound.update haccept rfl fun hsucceeded => by cases hsucceeded
    · exact Table.mem_overwrite_of_ne (Table.mem_overwrite_of_ne hother hne) hne
  · have hsame : ({ receipt with state := .succeeded } : CommandReceipt) = receipt := by
      rw [← hsucceeded]
    refine ⟨t, ?_, h, rfl, hsame.symm ▸ hmem, fun other hother _ => hother⟩
    rw [hsame]
    simp [succeed, hsucceeded]

theorem acceptRunStartReceipt_owned (h : t.Sound) (hmem : receipt ∈ t.receipts)
    (howned : Owned receipt evidence)
    (hstate : receipt.state = .effectPrepared ∨ receipt.state = .succeeded) :
    ∃ t', t.acceptRunStartReceipt evidence = some t' ∧ t'.Sound ∧
      (evidence.payload.transitionCommandReceipt = true →
        { receipt with state := .succeeded } ∈ t'.receipts) ∧
      ∀ other ∈ t.receipts, other.idempotencyKey ≠ receipt.idempotencyKey →
        other ∈ t'.receipts := by
  unfold acceptRunStartReceipt
  cases htransition : evidence.payload.transitionCommandReceipt with
  | false => exact ⟨t, rfl, h, fun heq => (by cases heq), fun other hother _ => hother⟩
  | true =>
    obtain ⟨t', hsucceed, hsound, houtbox, hrow, hothers⟩ := succeed_owned h hmem hstate
    have howned' : Owned { receipt with state := .succeeded } evidence :=
      ⟨howned.key, howned.keyed, howned.entityType, howned.entityId⟩
    obtain ⟨message, heffect⟩ := howned'.effect rfl
    obtain ⟨outbox, henqueue, hsound'⟩ := hsound.enqueue hrow heffect
    have hload : t.load evidence.payload.commandReceiptId = some receipt := by
      rw [load, ← howned.key]
      exact Table.lookup_of_mem h.receipts hmem
    have hkeyed : nonBlank evidence.payload.commandReceiptId = true := howned.key ▸ howned.keyed
    refine ⟨{ t' with outbox }, ?_, hsound', fun _ => hrow, hothers⟩
    rw [if_neg (by simp), hkeyed, hload]
    simp only [Bool.not_true, Bool.false_eq_true, if_false, bind, Option.bind_eq_some_iff]
    refine ⟨receipt, rfl, (t', _), hsucceed, ?_⟩
    rw [if_neg (by simp), if_neg (by simp [howned.entityId])]
    exact Option.bind_eq_some_iff.mpr ⟨message, heffect,
      Option.bind_eq_some_iff.mpr ⟨outbox, henqueue, rfl⟩⟩

end ReceiptTables

end MediaSync.Runs
