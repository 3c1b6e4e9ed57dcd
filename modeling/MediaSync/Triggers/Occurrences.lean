import MediaSync.Foundation.Json
import MediaSync.Foundation.Sha256
import MediaSync.Foundation.Table

/-! A scheduled trigger may reach the engine in many deliveries. -/
namespace MediaSync.Triggers
open Text

inductive TriggerKind where
  | scheduledTime
  | logon
  | startup
  | event
  | volumeConnected
  | manualLocalPreview
  deriving DecidableEq

def TriggerKind.value : TriggerKind → String
  | .scheduledTime => "SCHEDULED_TIME"
  | .logon => "LOGON"
  | .startup => "STARTUP"
  | .event => "EVENT"
  | .volumeConnected => "VOLUME_CONNECTED"
  | .manualLocalPreview => "MANUAL_LOCAL_PREVIEW"

inductive TriggerOccurrenceState where
  | received
  | waitingForRecovery
  | runEnqueued
  | succeeded
  | rejected
  | failed
  | cancelled
  deriving DecidableEq

def terminalTriggerOccurrenceStates : List TriggerOccurrenceState :=
  [.succeeded, .rejected, .failed, .cancelled]

def TriggerOccurrenceState.isTerminal (state : TriggerOccurrenceState) : Bool :=
  terminalTriggerOccurrenceStates.contains state

structure TriggerDeliveryContext where
  deliveryId : String
  observedStartUtc : String
  triggerKind : TriggerKind
  taskDefinitionHash : String
  taskInstanceId : Option String := none
  scheduledSlotUtc : Option String := none
  eventIdentity : Option String := none
  deriving DecidableEq

structure EnqueueTriggerOccurrenceCommand where
  requestId : String
  idempotencyKey : String
  scheduleId : String
  scheduleRevisionHash : String
  delivery : TriggerDeliveryContext
  deriving DecidableEq

structure TriggerOccurrence where
  occurrenceId : String
  scheduleId : String
  scheduleRevisionHash : String
  jobId : String
  occurrenceKey : String
  deduplicationKey : String
  firstDeliveryId : String
  triggerType : TriggerKind
  payloadHash : String
  occurrenceSlotUtc : Option String := none
  sourceInstanceKey : Option String := none
  state : TriggerOccurrenceState := .received
  runId : Option String := none
  terminalEffectHash : Option String := none
  deriving DecidableEq

structure TriggerOccurrenceRegistration where
  occurrence : TriggerOccurrence
  deduplicated : Bool
  compacted : Bool := false
  deriving DecidableEq

/-- A character of `IDENTIFIER_PATTERN`; the punctuation may not come first. -/
def isIdentifierChar (first : Bool) (c : Char) : Bool :=
  isAsciiLetter c || ('0' ≤ c && c ≤ '9') || (!first && ['_', '.', ':', '-'].contains c)

def isIdentifier (value : String) : Bool :=
  match value.toList with
  | [] => false
  | c :: rest => isIdentifierChar true c && rest.all (isIdentifierChar false) && rest.length ≤ 127

def requiredIdentifier (value fieldName : String) : Except String String := do
  check (nonBlank value) ("ENQUEUE_TRIGGER_REQUIRES_" ++ upper fieldName)
  check (isIdentifier (strip value)) ("ENQUEUE_TRIGGER_INVALID_" ++ upper fieldName)
  return strip value

/-- An optional text that is not empty, as `or` reads it. -/
def truthy (value : Option String) : Option String := value.filter (· ≠ "")

structure LogicalKeyContext where
  keyMaterial : String
  occurrenceSlotUtc : Option String
  sourceInstanceKey : Option String

def logicalKeyContext (delivery : TriggerDeliveryContext) : LogicalKeyContext :=
  match delivery.triggerKind with
  | .scheduledTime =>
    let slot := (truthy delivery.scheduledSlotUtc).getD delivery.observedStartUtc
    ⟨"slot:" ++ slot, some slot, delivery.taskInstanceId⟩
  | .manualLocalPreview =>
    ⟨"delivery:" ++ delivery.deliveryId, some delivery.observedStartUtc, some delivery.deliveryId⟩
  | _ =>
    let source := ((truthy delivery.eventIdentity).or (truthy delivery.taskInstanceId)).getD
      ("observed:" ++ delivery.observedStartUtc)
    ⟨"source:" ++ source, delivery.scheduledSlotUtc, some source⟩

def sha256Hex (payload : List (String × Json)) : String :=
  Sha256.hexdigest (Json.obj payload).dump

def optionalText : Option String → Json
  | some text => .str text
  | none => .null

def occurrenceKeyOf (delivery : TriggerDeliveryContext) : String :=
  delivery.triggerKind.value ++ ":" ++ (logicalKeyContext delivery).keyMaterial

def deduplicationKeyOf (installationId : String) (command : EnqueueTriggerOccurrenceCommand) :
    String :=
  sha256Hex [
    ("installation_id", .str installationId),
    ("occurrence_key", .str (occurrenceKeyOf command.delivery)),
    ("schedule_id", .str command.scheduleId),
    ("schedule_revision_hash", .str command.scheduleRevisionHash)]

def logicalPayloadHash (jobId : String) (command : EnqueueTriggerOccurrenceCommand) : String :=
  sha256Hex [
    ("job_id", .str jobId),
    ("occurrence_key", .str (occurrenceKeyOf command.delivery)),
    ("schedule_id", .str command.scheduleId),
    ("schedule_revision_hash", .str command.scheduleRevisionHash),
    ("source_instance_key", optionalText (logicalKeyContext command.delivery).sourceInstanceKey),
    ("task_definition_hash", .str command.delivery.taskDefinitionHash),
    ("trigger_type", .str command.delivery.triggerKind.value)]

def occurrenceIdOf (deduplicationKey : String) : String := "trigger:" ++ deduplicationKey

def buildTriggerOccurrence (installationId jobId : String)
    (command : EnqueueTriggerOccurrenceCommand) : Except String TriggerOccurrence := do
  let installationId ← requiredIdentifier installationId "installation_id"
  let jobId ← requiredIdentifier jobId "job_id"
  let context := logicalKeyContext command.delivery
  return {
    occurrenceId := occurrenceIdOf (deduplicationKeyOf installationId command)
    scheduleId := command.scheduleId
    scheduleRevisionHash := command.scheduleRevisionHash
    jobId
    occurrenceKey := occurrenceKeyOf command.delivery
    deduplicationKey := deduplicationKeyOf installationId command
    firstDeliveryId := command.delivery.deliveryId
    occurrenceSlotUtc := context.occurrenceSlotUtc
    sourceInstanceKey := context.sourceInstanceKey
    triggerType := command.delivery.triggerKind
    payloadHash := logicalPayloadHash jobId command }

def ensureTriggerOccurrenceCompatible (existing incoming : TriggerOccurrence) :
    Except String TriggerOccurrence := do
  let conflict := fun field => "TRIGGER_OCCURRENCE_CONFLICT:" ++ field
  check (existing.scheduleId = incoming.scheduleId) (conflict "schedule_id")
  check (existing.scheduleRevisionHash = incoming.scheduleRevisionHash)
    (conflict "schedule_revision_hash")
  check (existing.jobId = incoming.jobId) (conflict "job_id")
  check (existing.occurrenceKey = incoming.occurrenceKey) (conflict "occurrence_key")
  check (existing.triggerType = incoming.triggerType) (conflict "trigger_type")
  check (existing.payloadHash = incoming.payloadHash) (conflict "payload_hash")
  return existing

/-- The occurrences agree in what a repeated trigger must not change. -/
structure TriggerOccurrence.Same (existing incoming : TriggerOccurrence) : Prop where
  scheduleId : existing.scheduleId = incoming.scheduleId
  scheduleRevisionHash : existing.scheduleRevisionHash = incoming.scheduleRevisionHash
  jobId : existing.jobId = incoming.jobId
  occurrenceKey : existing.occurrenceKey = incoming.occurrenceKey
  triggerType : existing.triggerType = incoming.triggerType
  payloadHash : existing.payloadHash = incoming.payloadHash

theorem ensureTriggerOccurrenceCompatible_eq_ok {existing incoming found : TriggerOccurrence} :
    ensureTriggerOccurrenceCompatible existing incoming = .ok found ↔
      existing.Same incoming ∧ found = existing := by
  simp only [ensureTriggerOccurrenceCompatible, check_bind_eq_ok, decide_eq_true_eq, pure,
    Except.pure, Except.ok.injEq]
  constructor
  · rintro ⟨h₁, h₂, h₃, h₄, h₅, h₆, h₇⟩
    exact ⟨⟨h₁, h₂, h₃, h₄, h₅, h₆⟩, h₇.symm⟩
  · rintro ⟨⟨h₁, h₂, h₃, h₄, h₅, h₆⟩, h₇⟩
    exact ⟨h₁, h₂, h₃, h₄, h₅, h₆, h₇.symm⟩

/-- A tombstone of kind `trigger`. -/
structure TriggerTombstone where
  deduplicationKey : String
  payloadHash : String
  terminalState : TriggerOccurrenceState
  effectEntityId : String
  terminalEffectHash : String
  deriving DecidableEq

structure TriggerTables where
  occurrences : List TriggerOccurrence
  tombstones : List TriggerTombstone

namespace TriggerTables

variable (t : TriggerTables)

def loadTriggerOccurrence (occurrenceId : String) : Option TriggerOccurrence :=
  Table.lookup TriggerOccurrence.occurrenceId t.occurrences occurrenceId

def load (deduplicationKey : String) : Option TriggerOccurrence :=
  Table.lookup TriggerOccurrence.deduplicationKey t.occurrences deduplicationKey

def loadTombstone (deduplicationKey : String) : Option TriggerTombstone :=
  Table.lookup TriggerTombstone.deduplicationKey t.tombstones deduplicationKey

def recordReceived (occurrence : TriggerOccurrence) :
    Except String (TriggerTables × TriggerOccurrenceRegistration) :=
  match t.load occurrence.deduplicationKey, t.loadTombstone occurrence.deduplicationKey with
  | some existing, tombstone =>
    match ensureTriggerOccurrenceCompatible existing occurrence with
    | .error _ => .error "TRIGGER_OCCURRENCE_CONFLICT"
    | .ok existing =>
      if tombstone.any (·.payloadHash ≠ existing.payloadHash) then
        .error "TRIGGER_OCCURRENCE_CONFLICT"
      else .ok (t, { occurrence := existing, deduplicated := true })
  | none, some tombstone =>
    if tombstone.payloadHash ≠ occurrence.payloadHash then .error "TRIGGER_OCCURRENCE_CONFLICT"
    else .ok (t, {
      occurrence := { occurrence with
        state := tombstone.terminalState
        terminalEffectHash := some tombstone.terminalEffectHash }
      deduplicated := true
      compacted := true })
  | none, none =>
    if (t.loadTriggerOccurrence occurrence.occurrenceId).isSome then
      .error "TRIGGER_OCCURRENCE_RECORD_FAILED"
    else .ok ({ t with occurrences := Table.insert t.occurrences occurrence },
      { occurrence, deduplicated := false })

def rewrite (occurrence : TriggerOccurrence) : TriggerTables :=
  { t with occurrences :=
      Table.overwrite TriggerOccurrence.deduplicationKey t.occurrences occurrence }

def markRunEnqueued (deduplicationKey runId : String) : Except String TriggerTables :=
  match t.load deduplicationKey with
  | some occurrence =>
    if (occurrence.state = .received ∨ occurrence.state = .runEnqueued) ∧
        (occurrence.runId = none ∨ occurrence.runId = some runId) then
      .ok (t.rewrite { occurrence with state := .runEnqueued, runId := some runId })
    else .error "TRIGGER_OCCURRENCE_RUN_ENQUEUE_CONFLICT"
  | none => .error "TRIGGER_OCCURRENCE_RUN_ENQUEUE_CONFLICT"

def markTerminal (deduplicationKey : String) (state : TriggerOccurrenceState)
    (terminalEffectHash : String) (runId : Option String) : Except String TriggerTables :=
  if !state.isTerminal then .error "TRIGGER_OCCURRENCE_TERMINAL_STATE_REQUIRED"
  else if terminalEffectHash.length ≠ 64 then .error "TRIGGER_OCCURRENCE_TERMINAL_HASH_REQUIRED"
  else
    match t.load deduplicationKey with
    | some occurrence => .ok (t.rewrite { occurrence with
        state
        runId := runId.or occurrence.runId
        terminalEffectHash := some terminalEffectHash })
    | none => .error "TRIGGER_OCCURRENCE_NOT_FOUND"

/-- `list_run_enqueued_trigger_occurrences`, without the check of the limit. -/
def listRunEnqueued (limit : Nat) : List TriggerOccurrence :=
  ((t.occurrences.filter fun occurrence =>
    occurrence.state = .runEnqueued && occurrence.runId.isSome).insertionSort
      fun a b => a.occurrenceId ≤ b.occurrenceId).take limit

def compactTerminal (deduplicationKey : String) : Except String TriggerTables :=
  match t.load deduplicationKey with
  | none =>
    match t.loadTombstone deduplicationKey with
    | none => .error "TRIGGER_OCCURRENCE_NOT_FOUND"
    | some _ => .error "TRIGGER_OCCURRENCE_ALREADY_COMPACTED"
  | some occurrence =>
    if !occurrence.state.isTerminal then
      .error "TRIGGER_OCCURRENCE_COMPACTION_REQUIRES_TERMINAL"
    else
      match occurrence.terminalEffectHash with
      | none => .error "TRIGGER_OCCURRENCE_COMPACTION_REQUIRES_EFFECT_HASH"
      | some terminalEffectHash =>
        if (t.loadTombstone occurrence.deduplicationKey).isSome then
          .error "TRIGGER_OCCURRENCE_COMPACTION_FAILED"
        else .ok {
          occurrences := t.occurrences.filter (·.deduplicationKey ≠ deduplicationKey)
          tombstones := Table.insert t.tombstones {
            deduplicationKey := occurrence.deduplicationKey
            payloadHash := occurrence.payloadHash
            terminalState := occurrence.state
            effectEntityId := occurrence.occurrenceId
            terminalEffectHash } }

def outcome (deduplicationKey : String) : Option (TriggerOccurrenceState × Option String) :=
  match t.load deduplicationKey, t.loadTombstone deduplicationKey with
  | some occurrence, _ =>
    if occurrence.state.isTerminal then some (occurrence.state, occurrence.terminalEffectHash)
    else none
  | none, some tombstone => some (tombstone.terminalState, some tombstone.terminalEffectHash)
  | none, none => none

def payloadHash (deduplicationKey : String) : Option String :=
  match t.load deduplicationKey, t.loadTombstone deduplicationKey with
  | some occurrence, _ => some occurrence.payloadHash
  | none, some tombstone => some tombstone.payloadHash
  | none, none => none

/-- Unique keys, ids derived from them, a row or a tombstone but not both, and an effect hash
with each terminal state. -/
structure Sound (t : TriggerTables) : Prop where
  keys : Table.KeysUnique TriggerOccurrence.deduplicationKey t.occurrences
  tombstoneKeys : Table.KeysUnique TriggerTombstone.deduplicationKey t.tombstones
  ids : ∀ occurrence ∈ t.occurrences,
    occurrence.occurrenceId = occurrenceIdOf occurrence.deduplicationKey
  apart : ∀ occurrence ∈ t.occurrences, t.loadTombstone occurrence.deduplicationKey = none
  compacted : ∀ tombstone ∈ t.tombstones, tombstone.terminalState.isTerminal = true

variable {t t' : TriggerTables} {occurrence incoming : TriggerOccurrence} {key : String}

theorem load_key (h : t.load key = some occurrence) : occurrence.deduplicationKey = key :=
  Table.lookup_key h

theorem load_mem (h : t.load key = some occurrence) : occurrence ∈ t.occurrences :=
  Table.lookup_mem h

theorem Sound.load_of_mem (h : t.Sound) (hmem : occurrence ∈ t.occurrences) :
    t.load occurrence.deduplicationKey = some occurrence := Table.lookup_of_mem h.keys hmem

theorem Sound.tombstone_none (h : t.Sound) (hload : t.load key = some occurrence) :
    t.loadTombstone key = none := load_key hload ▸ h.apart occurrence (load_mem hload)

theorem recordReceived_cases {registration : TriggerOccurrenceRegistration}
    (h : t.recordReceived incoming = .ok (t', registration)) :
    (∃ existing, t.load incoming.deduplicationKey = some existing ∧ existing.Same incoming ∧
        t' = t ∧ registration = { occurrence := existing, deduplicated := true }) ∨
      (∃ tombstone, t.load incoming.deduplicationKey = none ∧
        t.loadTombstone incoming.deduplicationKey = some tombstone ∧
        tombstone.payloadHash = incoming.payloadHash ∧ t' = t ∧
        registration = {
          occurrence := { incoming with
            state := tombstone.terminalState
            terminalEffectHash := some tombstone.terminalEffectHash }
          deduplicated := true
          compacted := true }) ∨
      (t.load incoming.deduplicationKey = none ∧
        t.loadTombstone incoming.deduplicationKey = none ∧
        t' = { t with occurrences := Table.insert t.occurrences incoming } ∧
        registration = { occurrence := incoming, deduplicated := false }) := by
  unfold recordReceived at h
  split at h
  · rename_i existing hload
    split at h
    · cases h
    · rename_i found hcompatible
      obtain ⟨hsame, rfl⟩ := ensureTriggerOccurrenceCompatible_eq_ok.mp hcompatible
      split at h
      · cases h
      · obtain ⟨rfl, rfl⟩ := Prod.mk.inj (Except.ok.inj h)
        exact .inl ⟨_, hload, hsame, rfl, rfl⟩
  · rename_i tombstone hload htombstone
    split at h
    · cases h
    · rename_i hpayload
      obtain ⟨rfl, rfl⟩ := Prod.mk.inj (Except.ok.inj h)
      exact .inr (.inl ⟨tombstone, hload, htombstone, not_not.mp hpayload, rfl, rfl⟩)
  · rename_i hload htombstone
    split at h
    · cases h
    · obtain ⟨rfl, rfl⟩ := Prod.mk.inj (Except.ok.inj h)
      exact .inr (.inr ⟨hload, htombstone, rfl, rfl⟩)

theorem Sound.recordReceived_same (h : t.Sound) {existing : TriggerOccurrence}
    (hload : t.load incoming.deduplicationKey = some existing) (hsame : existing.Same incoming) :
    t.recordReceived incoming =
      .ok (t, { occurrence := existing, deduplicated := true }) := by
  have htombstone := h.tombstone_none hload
  have hcompatible : ensureTriggerOccurrenceCompatible existing incoming = .ok existing :=
    ensureTriggerOccurrenceCompatible_eq_ok.mpr ⟨hsame, rfl⟩
  unfold recordReceived
  rw [hload, htombstone]
  simp only [hcompatible, Option.any_none, Bool.false_eq_true, if_false]

theorem recordReceived_compacted {tombstone : TriggerTombstone}
    (hload : t.load incoming.deduplicationKey = none)
    (htombstone : t.loadTombstone incoming.deduplicationKey = some tombstone)
    (hpayload : tombstone.payloadHash = incoming.payloadHash) :
    t.recordReceived incoming = .ok (t, {
      occurrence := { incoming with
        state := tombstone.terminalState
        terminalEffectHash := some tombstone.terminalEffectHash }
      deduplicated := true
      compacted := true }) := by
  unfold recordReceived
  rw [hload, htombstone]
  exact if_neg (not_not.mpr hpayload)

theorem load_insert_self (hload : t.load incoming.deduplicationKey = none) :
    ({ t with occurrences := Table.insert t.occurrences incoming } : TriggerTables).load
      incoming.deduplicationKey = some incoming := Table.lookup_insert_self hload

theorem load_insert_other (hkey : incoming.deduplicationKey ≠ key) :
    ({ t with occurrences := Table.insert t.occurrences incoming } : TriggerTables).load key =
      t.load key := Table.lookup_insert_other hkey

variable {row : TriggerOccurrence}

theorem load_rewrite_other (hkey : row.deduplicationKey ≠ key) :
    (t.rewrite row).load key = t.load key := Table.lookup_overwrite_other hkey

theorem markRunEnqueued_cases {runId : String} (h : t.markRunEnqueued key runId = .ok t') :
    ∃ occurrence, t.load key = some occurrence ∧ occurrence.state.isTerminal = false ∧
      t' = t.rewrite { occurrence with state := .runEnqueued, runId := some runId } := by
  unfold markRunEnqueued at h
  split at h
  · rename_i occurrence hload
    split at h
    · rename_i hguard
      refine ⟨occurrence, hload, ?_, (Except.ok.inj h).symm⟩
      rcases hguard.1 with hstate | hstate <;> rw [hstate] <;> rfl
    · cases h
  · cases h

theorem markTerminal_cases {state : TriggerOccurrenceState} {hash : String}
    {runId : Option String} (h : t.markTerminal key state hash runId = .ok t') :
    state.isTerminal = true ∧ ∃ occurrence, t.load key = some occurrence ∧
      t' = t.rewrite { occurrence with
        state
        runId := runId.or occurrence.runId
        terminalEffectHash := some hash } := by
  unfold markTerminal at h
  split at h
  · cases h
  · rename_i hstate
    split at h
    · cases h
    · split at h
      · rename_i occurrence hload
        exact ⟨by simpa using hstate, occurrence, hload, (Except.ok.inj h).symm⟩
      · cases h

theorem compactTerminal_cases (h : t.compactTerminal key = .ok t') :
    ∃ occurrence hash, t.load key = some occurrence ∧ occurrence.state.isTerminal = true ∧
      occurrence.terminalEffectHash = some hash ∧ t.loadTombstone key = none ∧
      t' = {
        occurrences := t.occurrences.filter (·.deduplicationKey ≠ key)
        tombstones := Table.insert t.tombstones {
          deduplicationKey := key
          payloadHash := occurrence.payloadHash
          terminalState := occurrence.state
          effectEntityId := occurrence.occurrenceId
          terminalEffectHash := hash } } := by
  unfold compactTerminal at h
  split at h
  · split at h <;> cases h
  · rename_i occurrence hload
    have hkey := load_key hload
    split at h
    · cases h
    · rename_i hterminal
      split at h
      · cases h
      · rename_i hash hhash
        split at h
        · cases h
        · rename_i htombstone
          subst hkey
          exact ⟨occurrence, hash, hload, by simpa using hterminal, hhash,
            by simpa using htombstone, (Except.ok.inj h).symm⟩

theorem Sound.insert (h : t.Sound) (hload : t.load incoming.deduplicationKey = none)
    (htombstone : t.loadTombstone incoming.deduplicationKey = none)
    (hid : incoming.occurrenceId = occurrenceIdOf incoming.deduplicationKey) :
    ({ t with occurrences := Table.insert t.occurrences incoming } : TriggerTables).Sound := by
  refine ⟨h.keys.insert hload, h.tombstoneKeys, fun row hrow => ?_, fun row hrow => ?_,
    h.compacted⟩
  · rcases Table.mem_insert.mp hrow with hold | rfl
    · exact h.ids row hold
    · exact hid
  · rcases Table.mem_insert.mp hrow with hold | rfl
    · exact h.apart row hold
    · exact htombstone

theorem Sound.rewrite (h : t.Sound) (hload : t.load row.deduplicationKey = some occurrence)
    (hid : row.occurrenceId = occurrence.occurrenceId) : (t.rewrite row).Sound := by
  have hkey : occurrence.deduplicationKey = row.deduplicationKey := load_key hload
  refine ⟨h.keys.overwrite, h.tombstoneKeys, fun other hother => ?_, fun other hother => ?_,
    h.compacted⟩
  · rcases Table.mem_overwrite hother with rfl | ⟨hold, -⟩
    · rw [hid, h.ids occurrence (load_mem hload), hkey]
    · exact h.ids other hold
  · rcases Table.mem_overwrite hother with rfl | ⟨hold, -⟩
    · rw [← hkey]
      exact h.apart occurrence (load_mem hload)
    · exact h.apart other hold

theorem Sound.compact (h : t.Sound) (hcompact : t.compactTerminal key = .ok t') :
    t'.Sound ∧ (∀ k, t'.outcome k = t.outcome k) ∧
      (∀ k, k ≠ key → t'.load k = t.load k ∧ t'.loadTombstone k = t.loadTombstone k) ∧
        t'.load key = none ∧ ∃ occurrence tombstone, t.load key = some occurrence ∧
          t'.loadTombstone key = some tombstone ∧
            tombstone.payloadHash = occurrence.payloadHash := by
  obtain ⟨occurrence, hash, hload, hterminal, hhash, htombstone, rfl⟩ :=
    compactTerminal_cases hcompact
  set row : TriggerTombstone := {
    deduplicationKey := key
    payloadHash := occurrence.payloadHash
    terminalState := occurrence.state
    effectEntityId := occurrence.occurrenceId
    terminalEffectHash := hash } with hrow
  set t' : TriggerTables := {
    occurrences := t.occurrences.filter (·.deduplicationKey ≠ key)
    tombstones := Table.insert t.tombstones row } with ht'
  have hgone : t'.load key = none := by
    refine Table.lookup_none_iff.mpr fun other hother => ?_
    simpa using (List.mem_filter.mp hother).2
  have hothers : ∀ k, k ≠ key →
      t'.load k = t.load k ∧ t'.loadTombstone k = t.loadTombstone k := by
    intro k hk
    refine ⟨?_, Table.lookup_insert_other (Ne.symm hk)⟩
    exact Table.lookup_filter_of_imp fun other hother => by simpa [hother] using hk
  have hleft : t'.loadTombstone key = some row := Table.lookup_insert_self htombstone
  refine ⟨⟨?_, h.tombstoneKeys.insert htombstone, fun other hother => ?_, fun other hother => ?_,
    fun other hother => ?_⟩, fun k => ?_, hothers, hgone, occurrence, row, hload, hleft, rfl⟩
  · exact h.keys.filter
  · exact h.ids other (List.mem_filter.mp hother).1
  · obtain ⟨hold, hne⟩ := List.mem_filter.mp hother
    rw [(hothers other.deduplicationKey (by simpa using hne)).2]
    exact h.apart other hold
  · rcases Table.mem_insert.mp hother with hold | rfl
    · exact h.compacted other hold
    · exact hterminal
  · by_cases hk : k = key
    · subst hk
      unfold outcome
      rw [hgone, hleft, hload]
      simp [hterminal, hhash, hrow]
    · unfold outcome
      rw [(hothers k hk).1, (hothers k hk).2]

theorem outcome_insert (hload : t.load incoming.deduplicationKey = none)
    (htombstone : t.loadTombstone incoming.deduplicationKey = none)
    (hstate : incoming.state.isTerminal = false) (k : String) :
    ({ t with occurrences := Table.insert t.occurrences incoming } : TriggerTables).outcome k =
      t.outcome k := by
  by_cases hk : incoming.deduplicationKey = k
  · subst hk
    unfold outcome
    rw [load_insert_self hload, hload, htombstone]
    simp [hstate]
  · unfold outcome
    rw [load_insert_other hk]
    rfl

theorem outcome_rewrite_other (hkey : row.deduplicationKey ≠ key) :
    (t.rewrite row).outcome key = t.outcome key := by
  unfold outcome
  rw [load_rewrite_other hkey]
  rfl

theorem outcome_open (hload : t.load key = some occurrence)
    (hstate : occurrence.state.isTerminal = false) : t.outcome key = none := by
  unfold outcome
  rw [hload]
  simp [hstate]

end TriggerTables

end MediaSync.Triggers
