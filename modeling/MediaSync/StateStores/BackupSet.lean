import MediaSync.Foundation.HighWater
import MediaSync.Recovery.Tables

/-! A backup set is a directory with a copy of each of the two databases and a manifest that records
what was read from the copies. -/
namespace MediaSync.StateStores
open Recovery Text

inductive SqliteStore where
  | catalog
  | recovery
  deriving DecidableEq

def SqliteStore.value : SqliteStore → String
  | .catalog => "catalog"
  | .recovery => "recovery"

def stateBackupSetStores : List SqliteStore := [.catalog, .recovery]

def backupFileName (store : SqliteStore) : String := store.value ++ ".sqlite.backup"

/-- The columns of `recovery_intent_segments` that are read here. -/
structure IntentSegmentRow where
  segmentId : String
  state : SegmentState
  updatedUtc : String
  deriving DecidableEq

/-- A row in `BUILDING` or `DURABLE`. -/
def IntentSegmentRow.unresolved (row : IntentSegmentRow) : Bool :=
  row.state = .building || row.state = .durable

structure SqliteStoreContent where
  identity : Option String
  quickCheck : String := "ok"
  foreignKeyViolations : Nat := 0
  schemaVersion : Nat
  migrationCount : Nat
  latestMigrationUtc : Option String
  pageCount : Nat
  intentSegments : List IntentSegmentRow := []
  segmentsUnique : Table.KeysUnique IntentSegmentRow.segmentId intentSegments

def SqliteStoreContent.unresolved (content : SqliteStoreContent) : List IntentSegmentRow :=
  content.intentSegments.filter IntentSegmentRow.unresolved

structure SqliteFile where
  sizeBytes : Nat
  sha256 : String
  content : Option SqliteStoreContent

structure SqliteStateStoreBackup where
  store : SqliteStore
  fileName : String
  sizeBytes : Nat
  sha256 : String
  schemaVersion : Nat
  migrationCount : Nat
  latestMigrationUtc : Option String
  pageCount : Nat
  quickCheck : String
  foreignKeyViolations : Nat
  unresolvedTargetIntentCount : Nat := 0
  targetIntentHighWaterUtc : Option String := none
  deriving DecidableEq

structure SqliteStateBackupManifest where
  backupSetId : String
  createdUtc : String
  stateSetHash : String
  stores : List SqliteStateStoreBackup
  deriving DecidableEq

def targetIntentEvidence (content : SqliteStoreContent) (store : SqliteStore) :
    Nat × Option String :=
  if store = .recovery then
    (content.unresolved.length, highWater (content.unresolved.map IntentSegmentRow.updatedUtc))
  else (0, none)

def inspectBackupFile (store : SqliteStore) (fileName : String) (file : SqliteFile) :
    Except String SqliteStateStoreBackup :=
  match file.content with
  | none => .error "STATE_BACKUP_SQLITE_EVIDENCE_UNREADABLE"
  | some content => do
    check (content.identity = some store.value) "STATE_BACKUP_STORE_IDENTITY_MISMATCH"
    check (content.quickCheck.toLower = "ok") "STATE_BACKUP_SQLITE_QUICK_CHECK_FAILED"
    check (content.foreignKeyViolations = 0) "STATE_BACKUP_SQLITE_FOREIGN_KEY_CHECK_FAILED"
    let evidence := targetIntentEvidence content store
    .ok {
      store
      fileName
      sizeBytes := file.sizeBytes
      sha256 := file.sha256
      schemaVersion := content.schemaVersion
      migrationCount := content.migrationCount
      latestMigrationUtc := content.latestMigrationUtc
      pageCount := content.pageCount
      quickCheck := content.quickCheck
      foreignKeyViolations := content.foreignKeyViolations
      unresolvedTargetIntentCount := evidence.1
      targetIntentHighWaterUtc := evidence.2 }

def validateManifestStoreSet (stores : List SqliteStateStoreBackup) : Except String Unit := do
  check (stores.map SqliteStateStoreBackup.store = stateBackupSetStores)
    "STATE_BACKUP_INCOMPLETE_STORE_SET"
  check (stores.all fun entry => entry.fileName = backupFileName entry.store)
    "STATE_BACKUP_FILE_NAME_MISMATCH"

def SqliteStateStoreBackup.toPayload (entry : SqliteStateStoreBackup) : Json :=
  let optional := fun value : Option String => (value.map Json.str).getD .null
  .obj [("store", .str entry.store.value), ("file_name", .str entry.fileName),
    ("size_bytes", .int entry.sizeBytes), ("sha256", .str entry.sha256),
    ("schema_version", .int entry.schemaVersion), ("migration_count", .int entry.migrationCount),
    ("latest_migration_utc", optional entry.latestMigrationUtc),
    ("page_count", .int entry.pageCount), ("quick_check", .str entry.quickCheck),
    ("foreign_key_violations", .int entry.foreignKeyViolations),
    ("unresolved_target_intent_count", .int entry.unresolvedTargetIntentCount),
    ("target_intent_high_water_utc", optional entry.targetIntentHighWaterUtc)]

def stateSetHash (backupSetId createdUtc : String) (stores : List SqliteStateStoreBackup) :
    String :=
  Sha256.hexdigest (Json.dump (.obj [("backup_set_id", .str backupSetId),
    ("created_utc", .str createdUtc),
    ("stores", .arr (stores.map SqliteStateStoreBackup.toPayload))]))

abbrev BackupDir := String → Option SqliteFile

def verifyEntry (backupDir : BackupDir) (entry : SqliteStateStoreBackup) :
    Except String SqliteStateStoreBackup :=
  match backupDir entry.fileName with
  | none => .error "STATE_BACKUP_FILE_MISSING"
  | some file => do
    check (file.sizeBytes = entry.sizeBytes) "STATE_BACKUP_SIZE_MISMATCH"
    check (file.sha256 = entry.sha256) "STATE_BACKUP_CHECKSUM_MISMATCH"
    let inspected ← inspectBackupFile entry.store entry.fileName file
    check (inspected = entry) "STATE_BACKUP_SQLITE_EVIDENCE_MISMATCH"
    .ok inspected

/-- `verify_sqlite_state_backup_set`; `loaded` is the manifest passed in or read from its file. -/
def verifySqliteStateBackupSet (backupDir : BackupDir)
    (loaded : Except String SqliteStateBackupManifest) :
    Except String SqliteStateBackupManifest := do
  let manifest ← loaded
  validateManifestStoreSet manifest.stores
  check (manifest.stateSetHash =
      stateSetHash manifest.backupSetId manifest.createdUtc manifest.stores)
    "STATE_BACKUP_STATE_SET_HASH_MISMATCH"
  let stores ← manifest.stores.mapM (verifyEntry backupDir)
  .ok { manifest with stores }

def targetIntentEvidenceFromManifest (manifest : SqliteStateBackupManifest) :
    Except String (Nat × Option String) :=
  match manifest.stores.find? fun entry => entry.store = .recovery with
  | none => .error "STATE_BACKUP_RECOVERY_STORE_MISSING"
  | some entry => .ok (entry.unresolvedTargetIntentCount, entry.targetIntentHighWaterUtc)

def backedUpRecovery (backupDir : BackupDir) : Option SqliteStoreContent :=
  (backupDir (backupFileName .recovery)).bind SqliteFile.content

section
variable {backupDir : BackupDir} {loaded : Except String SqliteStateBackupManifest}
  {verified : SqliteStateBackupManifest} {entry inspected : SqliteStateStoreBackup}
  {file : SqliteFile} {store : SqliteStore} {fileName : String}

theorem inspectBackupFile_ok (h : inspectBackupFile store fileName file = .ok inspected) :
    ∃ content, file.content = some content ∧ inspected.store = store ∧
      (inspected.unresolvedTargetIntentCount, inspected.targetIntentHighWaterUtc) =
        targetIntentEvidence content store := by
  unfold inspectBackupFile at h
  split at h
  · cases h
  · rename_i content hcontent
    simp only [check_bind_eq_ok] at h
    obtain ⟨-, -, -, hinspected⟩ := h
    obtain rfl := Except.ok.inj hinspected
    exact ⟨content, hcontent, rfl, rfl⟩

theorem verifyEntry_ok (h : verifyEntry backupDir entry = .ok inspected) :
    inspected = entry ∧ ∃ file, backupDir entry.fileName = some file ∧
      inspectBackupFile entry.store entry.fileName file = .ok entry := by
  unfold verifyEntry at h
  split at h
  · cases h
  · rename_i file hfile
    simp only [check_bind_eq_ok] at h
    obtain ⟨-, -, hrest⟩ := h
    obtain ⟨found, hfound, hlast⟩ := except_bind_ok hrest
    rw [check_bind_eq_ok, decide_eq_true_eq] at hlast
    obtain ⟨rfl, hinspected⟩ := hlast
    obtain rfl := Except.ok.inj hinspected
    exact ⟨rfl, file, hfile, hfound⟩

theorem verified_stores {stores stores' : List SqliteStateStoreBackup}
    (h : stores.mapM (verifyEntry backupDir) = .ok stores') : stores' = stores ∧
      ∀ entry ∈ stores, ∃ file, backupDir entry.fileName = some file ∧
        inspectBackupFile entry.store entry.fileName file = .ok entry := by
  induction stores generalizing stores' with
  | nil =>
    obtain rfl := Except.ok.inj h
    exact ⟨rfl, nofun⟩
  | cons entry stores ih =>
    rw [List.mapM_cons] at h
    obtain ⟨first, hfirst, hrest⟩ := except_bind_ok h
    obtain ⟨rest, hmapped, hlast⟩ := except_bind_ok hrest
    obtain rfl := Except.ok.inj hlast
    obtain ⟨rfl, hentry⟩ := verifyEntry_ok hfirst
    obtain ⟨rfl, hothers⟩ := ih hmapped
    exact ⟨rfl, List.forall_mem_cons.mpr ⟨hentry, hothers⟩⟩

theorem verify_of_entries {manifest : SqliteStateBackupManifest}
    (hset : validateManifestStoreSet manifest.stores = .ok ())
    (hhash : manifest.stateSetHash =
      stateSetHash manifest.backupSetId manifest.createdUtc manifest.stores)
    (hentries : manifest.stores.mapM (verifyEntry backupDir) = .ok manifest.stores) :
    verifySqliteStateBackupSet backupDir (.ok manifest) = .ok manifest := by
  show (do
    validateManifestStoreSet manifest.stores
    check (manifest.stateSetHash =
      stateSetHash manifest.backupSetId manifest.createdUtc manifest.stores) _
    let stores ← manifest.stores.mapM (verifyEntry backupDir)
    Except.ok { manifest with stores }) = _
  rw [hset, hentries, decide_eq_true hhash]
  rfl

theorem verify_recovery (h : verifySqliteStateBackupSet backupDir loaded = .ok verified) :
    ∃ content, backedUpRecovery backupDir = some content ∧
      targetIntentEvidenceFromManifest verified = .ok (targetIntentEvidence content .recovery) := by
  unfold verifySqliteStateBackupSet at h
  obtain ⟨manifest, -, h⟩ := except_bind_ok h
  obtain ⟨_, hset, h⟩ := except_bind_ok h
  rw [check_bind_eq_ok] at h
  obtain ⟨-, h⟩ := h
  obtain ⟨stores, hmapped, hlast⟩ := except_bind_ok h
  obtain rfl := Except.ok.inj hlast
  obtain ⟨rfl, hentries⟩ := verified_stores hmapped
  unfold validateManifestStoreSet at hset
  simp only [check_bind_eq_ok, check_eq_ok, decide_eq_true_eq, List.all_eq_true] at hset
  obtain ⟨hstores, hnames⟩ := hset
  unfold targetIntentEvidenceFromManifest
  cases hfind : manifest.stores.find? fun entry => entry.store = .recovery with
  | none =>
    have hmem : SqliteStore.recovery ∈ manifest.stores.map SqliteStateStoreBackup.store := by
      rw [hstores]
      exact List.mem_cons_of_mem _ List.mem_cons_self
    obtain ⟨entry, hentry, hstore⟩ := List.mem_map.mp hmem
    exact absurd (decide_eq_true hstore) (List.find?_eq_none.mp hfind entry hentry)
  | some entry =>
    have hentry := List.mem_of_find?_eq_some hfind
    have htest := List.find?_some hfind
    have hstore : entry.store = .recovery := of_decide_eq_true htest
    obtain ⟨file, hfile, hinspected⟩ := hentries entry hentry
    obtain ⟨content, hcontent, -, hevidence⟩ := inspectBackupFile_ok hinspected
    refine ⟨content, ?_, ?_⟩
    · unfold backedUpRecovery
      rw [← hstore, ← hnames entry hentry, hfile]
      exact hcontent
    · rw [← hstore, ← hevidence]

end

end MediaSync.StateStores
