import MediaSync.StateStores.RestorePlan
import MediaSync.StateStores.SchemaMigrations

/-! Before the ordinary connections are opened, both state stores are migrated to the plans of the
running version. -/
namespace MediaSync.StateStores
open Text Killable

variable {Content : Type}

inductive StorePhase where
  | pending
  | verified
  deriving DecidableEq

def StorePhase.value : StorePhase → String
  | .pending => "PENDING"
  | .verified => "VERIFIED"

inductive BackupStatus where
  | notRequired
  | pending
  | verified
  deriving DecidableEq

def BackupStatus.value : BackupStatus → String
  | .notRequired => "NOT_REQUIRED"
  | .pending => "PENDING"
  | .verified => "VERIFIED"

structure StoreIntent where
  beforeVersion : Nat
  targetVersion : Nat
  beforeInitialized : Bool
  phase : StorePhase
  deriving DecidableEq

/-- A value for each store, in `_STORE_ORDER`. -/
structure Both (α : Type) where
  catalog : α
  recovery : α
  deriving DecidableEq

def Both.get {α : Type} (both : Both α) : SqliteStore → α
  | .catalog => both.catalog
  | .recovery => both.recovery

def Both.set {α : Type} (both : Both α) (store : SqliteStore) (value : α) : Both α :=
  match store with
  | .catalog => { both with catalog := value }
  | .recovery => { both with recovery := value }

structure MigrationIntent where
  epochId : String
  startedUtc : String
  appVersion : String
  planHash : String
  intentRevision : Nat
  layout : StateStoreLayout
  backupRequired : Bool
  backupStatus : BackupStatus
  backupRoot : String
  backupSetPath : String
  backupStateSetHash : Option String
  stores : Both StoreIntent
  deriving DecidableEq

structure CommittedMarker where
  epochId : String
  completedUtc : String
  intentHash : String
  planHash : String
  backupStateSetHash : Option String
  finalVersions : Both Nat
  deriving DecidableEq

/-- The files of a backup set. A manifest that was cut short is `some none`. -/
structure BackupSet where
  intentWritten : Bool := false
  files : BackupDir := fun _ => none
  manifest : Option (Option SqliteStateBackupManifest) := none

/-- The directory of an epoch; `found` is what the stores were when it was made, which no code
reads. -/
structure EpochDir (Content : Type) where
  epochId : String
  found : SqliteStore → StoreFile Content
  intentTemp : Bool := false
  intent : Option MigrationIntent := none
  committedTemp : Bool := false
  committed : Option CommittedMarker := none
  /-- The root for the backup set, and the set's directory. -/
  backup : Option (Option BackupSet) := none

structure StateRoot (Content : Type) where
  stores : SqliteStore → StoreFile Content
  epochs : List (EpochDir Content) := []

structure MigrationHost where
  layout : StateStoreLayout
  backupRoot : String → String
  backupSetPath : String → String

/-- The plans that a start is given, checked by `_validated_plans`. -/
structure StatePlans where
  plan : SqliteStore → SqliteMigrationPlan
  store_eq : ∀ store, (plan store).store = store

def StoreIntent.toPayload (store : SqliteStore) (intent : StoreIntent) : Json :=
  .obj [("store", .str store.value), ("before_version", .int intent.beforeVersion),
    ("target_version", .int intent.targetVersion),
    ("before_initialized", .bool intent.beforeInitialized), ("phase", .str intent.phase.value)]

def stateMigrationBackupSetId : String := "pre-migration"

def MigrationIntent.toPayload (intent : MigrationIntent) : Json :=
  .obj [("schema_version", .int 1), ("epoch_id", .str intent.epochId),
    ("started_utc", .str intent.startedUtc), ("app_version", .str intent.appVersion),
    ("plan_hash", .str intent.planHash), ("intent_revision", .int intent.intentRevision),
    ("layout", .obj [("root", .str intent.layout.root), ("catalog", .str intent.layout.catalog),
      ("recovery", .str intent.layout.recovery)]),
    ("backup", .obj [("required", .bool intent.backupRequired),
      ("status", .str intent.backupStatus.value), ("root", .str intent.backupRoot),
      ("set_id", .str stateMigrationBackupSetId), ("set_path", .str intent.backupSetPath),
      ("state_set_hash", (intent.backupStateSetHash.map Json.str).getD .null)]),
    ("stores", .arr [intent.stores.catalog.toPayload .catalog,
      intent.stores.recovery.toPayload .recovery])]

def payloadHash (payload : Json) : String := Sha256.hexdigest (Json.dump payload)

/-- The first `target` migrations. -/
def SqliteMigrationPlan.take (plan : SqliteMigrationPlan) (target : Nat) (h : ¬ target < 1) :
    SqliteMigrationPlan where
  store := plan.store
  migrations := plan.migrations.take target
  nonempty := by
    have hne := plan.nonempty
    simp only [ne_eq, List.take_eq_nil_iff, not_or]
    exact ⟨by omega, hne⟩
  contiguous := by
    rw [List.map_take, plan.contiguous, List.length_take]
    obtain hle | hle := Nat.le_total plan.migrations.length target
    · rw [List.take_range'_of_length_le hle, Nat.min_eq_right hle]
    · rw [List.take_range'_of_length_ge hle, Nat.min_eq_left hle]
  namesUnique := plan.namesUnique.sublist ((List.take_sublist _ _).map _)
  stated := fun m hm => plan.stated m (List.mem_of_mem_take hm)

def planPrefix (plan : SqliteMigrationPlan) (target : Nat) :
    Except MigrationError SqliteMigrationPlan :=
  if h : target < 1 then .error (.violation "STATE_MIGRATION_TARGET_VERSION_UNSUPPORTED")
  else if plan.migrations.length < target then
    .error (.violation "STATE_MIGRATION_TARGET_VERSION_UNSUPPORTED")
  else .ok (plan.take target h)

def planPayload (store : SqliteStore) (target : Nat) (migrations : List SqliteMigration) : Json :=
  .obj [("store", .str store.value), ("target_version", .int target),
    ("migrations", .arr (migrations.map fun migration =>
      .obj [("version", .int migration.version), ("name", .str migration.name),
        ("checksum", .str (migrationChecksum migration))]))]

def planHash (plans : StatePlans) (stores : Both StoreIntent) : Except MigrationError String := do
  let catalog ← planPrefix (plans.plan .catalog) stores.catalog.targetVersion
  let recovery ← planPrefix (plans.plan .recovery) stores.recovery.targetVersion
  .ok (payloadHash (.obj [("stores", .arr
    [planPayload .catalog stores.catalog.targetVersion catalog.migrations,
     planPayload .recovery stores.recovery.targetVersion recovery.migrations])]))

def require (test : Bool) (code : String) : Except MigrationError Unit :=
  if test then .ok () else .error (.violation code)

def validEpochId (value : String) : Bool :=
  let plain := fun c : Char => c.isAlphanum
  match value.toList with
  | [] => false
  | first :: rest => plain first && rest.length ≤ 127 &&
      rest.all fun c => plain c || c = '_' || c = '.' || c = '-'

def StoreIntent.validate (intent : StoreIntent) : Except MigrationError Unit := do
  require (1 ≤ intent.targetVersion) "STATE_MIGRATION_TARGET_VERSION_MUST_BE_POSITIVE"
  require (intent.beforeVersion ≤ intent.targetVersion)
    "STATE_MIGRATION_STORE_VERSION_RANGE_INVALID"

def loadIntent (host : MigrationHost) (plans : StatePlans) (dirName : String)
    (intent : MigrationIntent) : Except MigrationError Unit := do
  require (validEpochId intent.epochId) "STATE_MIGRATION_EPOCH_ID_INVALID"
  require (dirName = intent.epochId) "STATE_MIGRATION_INTENT_EPOCH_MISMATCH"
  require (intent.layout = host.layout) "STATE_MIGRATION_INTENT_LAYOUT_MISMATCH"
  require (intent.backupRoot = host.backupRoot dirName &&
      intent.backupSetPath = host.backupSetPath dirName) "STATE_MIGRATION_BACKUP_PATH_MISMATCH"
  require (intent.backupStateSetHash.all isHash) "STATE_MIGRATION_STATE_SET_HASH_MUST_BE_SHA256"
  require (intent.backupStatus ≠ .verified || intent.backupStateSetHash.isSome)
    "STATE_MIGRATION_BACKUP_HASH_MISSING"
  require (intent.backupStatus = .verified || intent.backupStateSetHash.isNone)
    "STATE_MIGRATION_BACKUP_HASH_UNEXPECTED"
  intent.stores.catalog.validate
  intent.stores.recovery.validate
  let hash ← planHash plans intent.stores
  require (intent.planHash = hash) "STATE_MIGRATION_PLAN_HASH_MISMATCH"
  require (intent.backupRequired =
      (intent.stores.catalog.beforeInitialized && intent.stores.recovery.beforeInitialized))
    "STATE_MIGRATION_BACKUP_REQUIREMENT_INVALID"
  require (intent.backupRequired || intent.backupStatus = .notRequired)
    "STATE_MIGRATION_BACKUP_STATUS_INVALID"
  require (nonBlank intent.startedUtc) "STATE_MIGRATION_STARTED_UTC_MUST_BE_STRING"
  require (nonBlank intent.appVersion) "STATE_MIGRATION_APP_VERSION_MUST_BE_STRING"
  require (1 ≤ intent.intentRevision) "STATE_MIGRATION_INTENT_REVISION_MUST_BE_POSITIVE"

def validateCommittedMarker (marker : CommittedMarker) (intent : MigrationIntent) :
    Except MigrationError Unit := do
  require (marker.epochId = intent.epochId) "STATE_MIGRATION_COMMITTED_EPOCH_MISMATCH"
  require (marker.intentHash = payloadHash intent.toPayload)
    "STATE_MIGRATION_COMMITTED_INTENT_HASH_MISMATCH"
  require (marker.planHash = intent.planHash) "STATE_MIGRATION_COMMITTED_PLAN_HASH_MISMATCH"
  require (nonBlank marker.completedUtc) "STATE_MIGRATION_COMPLETED_UTC_MUST_BE_STRING"
  require (intent.stores.catalog.phase = .verified && intent.stores.recovery.phase = .verified)
    "STATE_MIGRATION_COMMITTED_STORE_NOT_VERIFIED"
  require (!intent.backupRequired || intent.backupStatus = .verified)
    "STATE_MIGRATION_COMMITTED_BACKUP_NOT_VERIFIED"
  require (marker.backupStateSetHash = intent.backupStateSetHash)
    "STATE_MIGRATION_COMMITTED_BACKUP_HASH_MISMATCH"
  require (marker.finalVersions =
      ⟨intent.stores.catalog.targetVersion, intent.stores.recovery.targetVersion⟩)
    "STATE_MIGRATION_COMMITTED_STORE_VERSION_MISMATCH"

abbrev AtRoot (Content α : Type) := Killable (StateRoot Content) Cut MigrationError α

def removeUnpublishedEpoch (epoch : EpochDir Content) : AtRoot Content Unit := do
  ofExcept (require (epoch.backup.isNone && epoch.committed.isNone && !epoch.committedTemp)
    "STATE_MIGRATION_INTENT_MISSING")
  atomically fun st => { st with
    epochs := st.epochs.map fun e =>
      if e.epochId = epoch.epochId then { e with intentTemp := false } else e }
  atomically fun st => { st with epochs := st.epochs.filter fun e => e.epochId ≠ epoch.epochId }

/-- The loop of `_scan_epochs`: how many are committed, and the intents without a marker. -/
def scanEntries (host : MigrationHost) (plans : StatePlans) :
    List (EpochDir Content) → AtRoot Content (Nat × List MigrationIntent)
  | [] => pure (0, [])
  | epoch :: rest => do
    ofExcept (require (validEpochId epoch.epochId) "STATE_MIGRATION_EPOCH_ID_INVALID")
    match epoch.intent, epoch.committed with
    | none, _ => do
      removeUnpublishedEpoch epoch
      scanEntries host plans rest
    | some intent, some marker => do
      ofExcept (loadIntent host plans epoch.epochId intent)
      ofExcept (validateCommittedMarker marker intent)
      let (committed, pending) ← scanEntries host plans rest
      pure (committed + 1, pending)
    | some intent, none => do
      ofExcept (loadIntent host plans epoch.epochId intent)
      let (committed, pending) ← scanEntries host plans rest
      pure (committed, intent :: pending)

def stateMigrationEpochScanLimit : Nat := 1000

def scanEpochs (host : MigrationHost) (plans : StatePlans) :
    AtRoot Content (Nat × Option MigrationIntent) := do
  let entries ← read StateRoot.epochs
  ofExcept (require (entries.length ≤ stateMigrationEpochScanLimit)
    "STATE_MIGRATION_EPOCH_SCAN_LIMIT_EXCEEDED")
  let (committed, pending) ← scanEntries host plans entries
  ofExcept (require (pending.length ≤ 1) "STATE_MIGRATION_MULTIPLE_PENDING_EPOCHS")
  pure (committed, pending.head?)

structure Workplace (Content : Type) where
  stores : SqliteStore → StoreFile Content
  epoch : EpochDir Content

abbrev AtWork (Content α : Type) := Killable (Workplace Content) Cut MigrationError α

def Workplace.setStore (w : Workplace Content) (store : SqliteStore) (file : StoreFile Content) :
    Workplace Content := { w with stores := Function.update w.stores store file }

/-- `_atomic_write_json` of the intent file, once it is checked that it may be replaced. -/
def writeIntent (intent : MigrationIntent) : AtWork Content Unit := do
  atomically fun w => { w with epoch := { w.epoch with intentTemp := false } }
  write (fun cut w => { w with epoch := { w.epoch with intentTemp := cut "temp" } })
    fun w => { w with epoch := { w.epoch with intentTemp := true } }
  atomically fun w =>
    { w with epoch := { w.epoch with intent := some intent, intentTemp := false } }

/-- `_atomic_write_json` of the committed marker. -/
def writeCommitted (marker : CommittedMarker) : AtWork Content Unit := do
  atomically fun w => { w with epoch := { w.epoch with committedTemp := false } }
  let existing ← read fun w : Workplace Content => w.epoch.committed
  ofExcept (require existing.isNone "STATE_MIGRATION_CONTROL_FILE_ALREADY_EXISTS")
  write (fun cut w => { w with epoch := { w.epoch with committedTemp := cut "temp" } })
    fun w => { w with epoch := { w.epoch with committedTemp := true } }
  atomically fun w =>
    { w with epoch := { w.epoch with committed := some marker, committedTemp := false } }

def preflightFailed : SqliteStore → String
  | .catalog => "STATE_MIGRATION_CATALOG_PREFLIGHT_FAILED"
  | .recovery => "STATE_MIGRATION_RECOVERY_PREFLIGHT_FAILED"

def inspectStore (lib : SqliteLibrary Content) (file : StoreFile Content)
    (plan : SqliteMigrationPlan) : Except MigrationError SqliteMigrationState :=
  match file with
  | none => .ok { currentVersion := 0, targetVersion := plan.migrations.length,
                  initialized := false, checksumBackfillRequired := false }
  | some db => raisedAs (preflightFailed plan.store) (inspectSqliteMigrationState lib db plan)

def inspectAll (lib : SqliteLibrary Content) (plans : StatePlans)
    (stores : SqliteStore → StoreFile Content) :
    Except MigrationError (Both SqliteMigrationState) := do
  let catalog ← inspectStore lib (stores .catalog) (plans.plan .catalog)
  let recovery ← inspectStore lib (stores .recovery) (plans.plan .recovery)
  .ok { catalog, recovery }

/-- The body of `_all_at_target`. -/
def SqliteMigrationState.atTarget (state : SqliteMigrationState) : Bool :=
  state.currentVersion = state.targetVersion && state.initialized &&
    !state.checksumBackfillRequired

/-- The migration of the recovery store that creates `recovery_intent_segments`, which
`_target_intent_evidence` reads. -/
def intentSegmentsVersion : Nat := 4

/-- Whether a store of the version has the tables that a backup reads. -/
def HasIntents (store : SqliteStore) (version : Nat) : Prop :=
  store = .recovery → intentSegmentsVersion ≤ version

/-- What `sqlite3.Connection.backup` makes of a database. A copy of a recovery store without
`recovery_intent_segments` does not yield the evidence that is read from it. -/
def Database.copy (lib : SqliteLibrary Content) (db : Database Content) : SqliteFile where
  sizeBytes := lib.sizeBytes db
  sha256 := lib.sha256 db
  content :=
    if db.identity.join = some .recovery ∧
        (historyOf (some db)).projected.length < intentSegmentsVersion then none
    else some { lib.evidence db.content with
        identity := db.identity.join.map SqliteStore.value
        quickCheck := "ok"
        foreignKeyViolations := 0
        schemaVersion :=
          ((historyOf (some db)).projected.getLast?.map MigrationRow.version).getD 0
        migrationCount := (historyOf (some db)).projected.length }

def Workplace.mapSet (w : Workplace Content) (f : BackupSet → BackupSet) : Workplace Content :=
  { w with epoch := { w.epoch with backup := w.epoch.backup.map (Option.map f) } }

def BackupSet.addCopy (set : BackupSet) (store : SqliteStore) (file : SqliteFile) : BackupSet :=
  { set with files := Function.update set.files (backupFileName store) (some file) }

/-- `_backup_sqlite_database` and `_inspect_backup_file` for one store. A copy that is cut short is
a file that cannot be read. -/
def backupSqliteDatabase (lib : SqliteLibrary Content) (store : SqliteStore) :
    AtWork Content SqliteStateStoreBackup := do
  let file ← read fun w : Workplace Content => w.stores store
  match file with
  | none => fail (.violation "STATE_MIGRATION_BACKUP_FAILED")
  | some db => do
    let partially : SqliteFile := { sizeBytes := 0, sha256 := "", content := none }
    write (fun cut w =>
        if cut (backupFileName store) then w.mapSet fun set => set.addCopy store partially else w)
      fun w => w.mapSet fun set => set.addCopy store (db.copy lib)
    ofExcept (raisedAs "STATE_MIGRATION_BACKUP_FAILED"
      (inspectBackupFile store (backupFileName store) (db.copy lib)))

def EpochDir.backupSet (epoch : EpochDir Content) : Option BackupSet := epoch.backup.join

def createEpochBackup (lib : SqliteLibrary Content) (intent : MigrationIntent) :
    AtWork Content SqliteStateBackupManifest := do
  let existing ← read fun w : Workplace Content => w.epoch.backupSet
  ofExcept (require existing.isNone "STATE_MIGRATION_BACKUP_FAILED")
  atomically fun w =>
    { w with epoch := { w.epoch with backup := w.epoch.backup <|> some none } }
  atomically fun w => { w with epoch := { w.epoch with backup := some (some {}) } }
  write (fun cut w => w.mapSet fun set => { set with intentWritten := cut "intent" })
    fun w => w.mapSet fun set => { set with intentWritten := true }
  let catalog ← backupSqliteDatabase lib .catalog
  let recovery ← backupSqliteDatabase lib .recovery
  let manifest : SqliteStateBackupManifest := {
    backupSetId := stateMigrationBackupSetId
    createdUtc := intent.startedUtc
    stateSetHash := stateSetHash stateMigrationBackupSetId intent.startedUtc [catalog, recovery]
    stores := [catalog, recovery] }
  write (fun cut w => if cut "manifest" then w.mapSet fun set => { set with manifest := some none }
      else w)
    fun w => w.mapSet fun set => { set with manifest := some (some manifest) }
  let set ← read fun w : Workplace Content => w.epoch.backupSet.getD {}
  ofExcept (raisedAs "STATE_MIGRATION_BACKUP_FAILED"
    (verifySqliteStateBackupSet set.files (.ok manifest)))

def verifyEpochBackup : AtWork Content SqliteStateBackupManifest := do
  let set ← read fun w : Workplace Content => w.epoch.backupSet.getD {}
  match set.manifest with
  | none => fail (.violation "STATE_MIGRATION_BACKUP_INVALID")
  | some none => fail .jsonDecodeError
  | some (some manifest) =>
    ofExcept (raisedAs "STATE_MIGRATION_BACKUP_INVALID"
      (verifySqliteStateBackupSet set.files (.ok manifest)))

def removeIncompleteBackupRoot : AtWork Content Unit :=
  write (fun cut w =>
      if cut "set" then
        w.mapSet fun set =>
          { set with files := fun name => if cut name then set.files name else none }
      else { w with epoch := { w.epoch with backup := w.epoch.backup.map fun _ => none } })
    fun w => { w with epoch := { w.epoch with backup := none } }

def validateCurrentVersions (intent : StoreIntent) (state : SqliteMigrationState) :
    Except MigrationError Unit := do
  require (intent.beforeVersion ≤ state.currentVersion) "STATE_MIGRATION_VERSION_REGRESSED"
  require (state.currentVersion ≤ intent.targetVersion)
    "STATE_MIGRATION_VERSION_EXCEEDS_EPOCH_TARGET"

def MigrationIntent.withBackup (intent : MigrationIntent) (manifest : SqliteStateBackupManifest) :
    MigrationIntent :=
  { intent with
    backupStatus := .verified
    backupStateSetHash := some manifest.stateSetHash
    intentRevision := intent.intentRevision + 1 }

/-- The branch of `_ensure_backup` on what an interrupted start left of the backup set. -/
def reuseOrCreateBackup (lib : SqliteLibrary Content) (intent : MigrationIntent)
    (epoch : EpochDir Content) : AtWork Content SqliteStateBackupManifest :=
  if epoch.backup.isSome then
    if (epoch.backupSet.bind BackupSet.manifest).isSome then verifyEpochBackup
    else do
      removeIncompleteBackupRoot
      createEpochBackup lib intent
  else createEpochBackup lib intent

def ensureBackup (lib : SqliteLibrary Content) (intent : MigrationIntent)
    (states : Both SqliteMigrationState) : AtWork Content MigrationIntent := do
  match intent.backupRequired, intent.backupStatus with
  | false, status => do
    ofExcept (require (status = .notRequired) "STATE_MIGRATION_BACKUP_STATUS_INVALID")
    pure intent
  | true, .verified => do
    let manifest ← verifyEpochBackup
    ofExcept (require (some manifest.stateSetHash = intent.backupStateSetHash)
      "STATE_MIGRATION_BACKUP_HASH_MISMATCH")
    pure intent
  | true, .notRequired => fail (.violation "STATE_MIGRATION_BACKUP_STATUS_INVALID")
  | true, .pending => do
    ofExcept (require (states.catalog.currentVersion = intent.stores.catalog.beforeVersion &&
      states.recovery.currentVersion = intent.stores.recovery.beforeVersion)
      "STATE_MIGRATION_BACKUP_NOT_VERIFIED")
    let epoch ← read Workplace.epoch
    let manifest ← reuseOrCreateBackup lib intent epoch
    writeIntent (intent.withBackup manifest)
    pure (intent.withBackup manifest)

def validateStoreResumeState (intent : StoreIntent) (state : SqliteMigrationState) :
    Except MigrationError Unit := do
  require (intent.beforeVersion ≤ state.currentVersion) "STATE_MIGRATION_STORE_VERSION_REGRESSED"
  require (state.currentVersion ≤ intent.targetVersion) "STATE_MIGRATION_STORE_VERSION_TOO_NEW"
  require (intent.phase ≠ .verified || (state.initialized &&
      state.currentVersion = intent.targetVersion && !state.checksumBackfillRequired))
    "STATE_MIGRATION_VERIFIED_STORE_DRIFT"

def verifyStoreTarget (lib : SqliteLibrary Content) (file : StoreFile Content)
    (plan : SqliteMigrationPlan) (target : Nat) : Except MigrationError Unit := do
  let state ← inspectStore lib file plan
  require (state.initialized && state.currentVersion = target && !state.checksumBackfillRequired)
    "STATE_MIGRATION_STORE_VERIFY_FAILED"

/-- The intent that `_mark_store_verified` writes. -/
def MigrationIntent.markVerified (intent : MigrationIntent) (store : SqliteStore) :
    MigrationIntent :=
  { intent with
    stores := intent.stores.set store { intent.stores.get store with phase := .verified }
    intentRevision := intent.intentRevision + 1 }

/-- The branch of `_execute_epoch` on what is left to apply to a store. -/
def bringToTarget (lib : SqliteLibrary Content) (store : SqliteStore) (plan : SqliteMigrationPlan)
    (target : Nat) (state : SqliteMigrationState) : AtWork Content Unit :=
  if state.currentVersion < target || state.checksumBackfillRequired || !state.initialized then
    onPart (fun w : Workplace Content => w.stores store) (fun w file => w.setStore store file)
      (migrateOneStore lib plan)
  else pure ()

/-- The loop of `_execute_epoch` for one store. -/
def executeStore (lib : SqliteLibrary Content) (plans : StatePlans) (store : SqliteStore)
    (intent : MigrationIntent) : AtWork Content MigrationIntent := do
  let file ← read fun w : Workplace Content => w.stores store
  let state ← ofExcept (inspectStore lib file (plans.plan store))
  ofExcept (validateStoreResumeState (intent.stores.get store) state)
  if (intent.stores.get store).phase = .verified then pure intent
  else do
    let target := (intent.stores.get store).targetVersion
    let plan ← ofExcept (planPrefix (plans.plan store) target)
    bringToTarget lib store plan target state
    let migrated ← read fun w : Workplace Content => w.stores store
    ofExcept (verifyStoreTarget lib migrated plan target)
    writeIntent (intent.markVerified store)
    pure (intent.markVerified store)

def committedMarker (intent : MigrationIntent) (completedUtc : String)
    (states : Both SqliteMigrationState) : CommittedMarker where
  epochId := intent.epochId
  completedUtc
  intentHash := payloadHash intent.toPayload
  planHash := intent.planHash
  backupStateSetHash := intent.backupStateSetHash
  finalVersions := ⟨states.catalog.currentVersion, states.recovery.currentVersion⟩

/-- The check of one store at the end of `_execute_epoch`. -/
def validateFinal (intent : StoreIntent) (state : SqliteMigrationState) :
    Except MigrationError Unit := do
  require (state.currentVersion = intent.targetVersion) "STATE_MIGRATION_FINAL_VERSION_MISMATCH"
  require (!state.checksumBackfillRequired && state.initialized)
    "STATE_MIGRATION_FINAL_STATE_INVALID"

def executeEpoch (lib : SqliteLibrary Content) (plans : StatePlans) (completedUtc : String)
    (intent : MigrationIntent) : AtWork Content Unit := do
  let stores ← read Workplace.stores
  let current ← ofExcept (inspectAll lib plans stores)
  ofExcept (validateCurrentVersions intent.stores.catalog current.catalog)
  ofExcept (validateCurrentVersions intent.stores.recovery current.recovery)
  let intent ← ensureBackup lib intent current
  let intent ← executeStore lib plans .catalog intent
  let intent ← executeStore lib plans .recovery intent
  let stores ← read Workplace.stores
  let final ← ofExcept (inspectAll lib plans stores)
  ofExcept (validateFinal intent.stores.catalog final.catalog)
  ofExcept (validateFinal intent.stores.recovery final.recovery)
  ofExcept (require (nonBlank completedUtc) "STATE_MIGRATION_COMPLETED_UTC_INVALID")
  writeCommitted (committedMarker intent completedUtc final)

def StateRoot.epochDir (st : StateRoot Content) (epochId : String) : EpochDir Content :=
  (st.epochs.find? fun e => e.epochId = epochId).getD { epochId, found := st.stores }

def StateRoot.workplace (epochId : String) (st : StateRoot Content) : Workplace Content :=
  { stores := st.stores, epoch := st.epochDir epochId }

def StateRoot.setWorkplace (epochId : String) (st : StateRoot Content) (w : Workplace Content) :
    StateRoot Content where
  stores := w.stores
  epochs := st.epochs.map fun e => if e.epochId = epochId then w.epoch else e

def inEpoch {α : Type} (epochId : String) (p : AtWork Content α) : AtRoot Content α :=
  onPart (StateRoot.workplace epochId) (StateRoot.setWorkplace epochId) p

/-- What a start is called with. The ids come from `uuid4`. -/
structure MigrationCall where
  plans : StatePlans
  appVersion : String
  startedUtc : String
  completedUtc : String
  makeEpochId : Nat → String

/-- `_StoreIntent` of a new epoch. -/
def newStoreIntent (state : SqliteMigrationState) : StoreIntent where
  beforeVersion := state.currentVersion
  targetVersion := state.targetVersion
  beforeInitialized := state.initialized
  phase :=
    if state.currentVersion = state.targetVersion && !state.checksumBackfillRequired then .verified
    else .pending

def newIntent (host : MigrationHost) (call : MigrationCall) (states : Both SqliteMigrationState)
    (epochId planHash : String) : MigrationIntent where
  epochId
  startedUtc := call.startedUtc
  appVersion := call.appVersion
  planHash
  intentRevision := 1
  layout := host.layout
  backupRequired := states.catalog.initialized && states.recovery.initialized
  backupStatus :=
    if states.catalog.initialized && states.recovery.initialized then .pending else .notRequired
  backupRoot := host.backupRoot epochId
  backupSetPath := host.backupSetPath epochId
  backupStateSetHash := none
  stores := ⟨newStoreIntent states.catalog, newStoreIntent states.recovery⟩

def createEpochIntent (host : MigrationHost) (call : MigrationCall)
    (states : Both SqliteMigrationState) (epochId : String) : AtRoot Content MigrationIntent := do
  ofExcept (require (validEpochId epochId) "STATE_MIGRATION_EPOCH_ID_INVALID")
  ofExcept (require (nonBlank call.appVersion && nonBlank call.startedUtc)
    "STATE_MIGRATION_METADATA_INVALID")
  ofExcept (require (states.catalog.initialized = states.recovery.initialized)
    "STATE_MIGRATION_PARTIAL_INITIALIZATION_WITHOUT_EPOCH")
  let epochs ← read fun st : StateRoot Content => st.epochs
  ofExcept (require (!epochs.any fun e => e.epochId = epochId)
    "STATE_MIGRATION_EPOCH_ALREADY_EXISTS")
  atomically fun st => { st with epochs := st.epochs ++ [{ epochId, found := st.stores }] }
  let hash ← ofExcept (planHash call.plans
    ⟨newStoreIntent states.catalog, newStoreIntent states.recovery⟩)
  inEpoch epochId (writeIntent (newIntent host call states epochId hash))
  pure (newIntent host call states epochId hash)

/-- The counts of `SqliteStateMigrationReport`, and the states at the end. -/
structure MigrationReport where
  resumedEpochCount : Nat
  createdEpochCount : Nat
  committedEpochIds : List String
  finalStates : Both SqliteMigrationState
  deriving DecidableEq

/-- The loop of `migrate_sqlite_state_stores`, with the passes that are left of it. -/
def migrateChain (lib : SqliteLibrary Content) (host : MigrationHost) (call : MigrationCall)
    (resumed created : Nat) (committedIds : List String) : Nat → AtRoot Content MigrationReport
  | 0 => fail (.violation "STATE_MIGRATION_CHAIN_LIMIT_EXCEEDED")
  | passes + 1 => do
    let scan ← scanEpochs host call.plans
    match scan.2 with
    | some intent => do
      inEpoch intent.epochId (executeEpoch lib call.plans call.completedUtc intent)
      migrateChain lib host call (resumed + 1) created (committedIds ++ [intent.epochId]) passes
    | none => do
      let stores ← read StateRoot.stores
      let states ← ofExcept (inspectAll lib call.plans stores)
      if states.catalog.atTarget && states.recovery.atTarget then
        pure { resumedEpochCount := resumed, createdEpochCount := created,
               committedEpochIds := committedIds, finalStates := states }
      else do
        let intent ← createEpochIntent host call states (call.makeEpochId created)
        inEpoch intent.epochId (executeEpoch lib call.plans call.completedUtc intent)
        migrateChain lib host call resumed (created + 1) (committedIds ++ [intent.epochId]) passes

def stateMigrationChainLimit : Nat := 16

def migrateSqliteStateStores (lib : SqliteLibrary Content) (host : MigrationHost)
    (call : MigrationCall) : AtRoot Content MigrationReport := do
  let stores ← read StateRoot.stores
  let _ ← ofExcept (inspectAll lib call.plans stores)
  migrateChain lib host call 0 0 [] stateMigrationChainLimit

end MediaSync.StateStores
