import MediaSync.StateStores.TargetIntents

/-! A restore puts older stores back. -/
namespace MediaSync.StateStores
open Text

structure StateStoreLayout where
  root : String
  catalog : String
  recovery : String
  deriving DecidableEq

def sourcePath (layout : StateStoreLayout) : SqliteStore → String
  | .catalog => layout.catalog
  | .recovery => layout.recovery

structure SqliteStateRestoreFile where
  entry : SqliteStateStoreBackup
  targetPath : String
  deriving DecidableEq

structure SqliteStateRestorePlan where
  backupSetId : String
  stateSetHash : String
  targetLayout : StateStoreLayout
  restoreFiles : List SqliteStateRestoreFile
  backupUnresolvedTargetIntentCount : Nat
  backupTargetIntentHighWaterUtc : Option String
  currentUnresolvedTargetIntentCount : Nat
  currentTargetIntentHighWaterUtc : Option String
  currentTargetSideIntentMarkerCount : Nat
  currentTargetSideIntentMarkerHighWaterUtc : Option String
  deriving DecidableEq

def hasNewerUnresolvedTargetIntents (backupCount : Nat) (backupHighWater : Option String)
    (currentCount : Nat) (currentHighWater : Option String) : Bool :=
  match currentHighWater with
  | none => false
  | some current =>
    if currentCount = 0 then false
    else
      match backupHighWater with
      | none => true
      | some backup =>
        if backupCount = 0 then true
        else backup < current || (current = backup && backupCount < currentCount)

section
variable (py : PythonLibrary) (lib : PlaceLibrary)

def validateLocalAbsolutePath (path fieldName : String) : Except String Unit := do
  check (lib.isAbsolute path) (fieldName ++ "_MUST_BE_ABSOLUTE")
  check (path.toList.take 2 ≠ ['\\', '\\']) (fieldName ++ "_MUST_BE_LOCAL")

def validateStateStoreLayout (layout : StateStoreLayout) (fieldName : String) :
    Except String Unit := do
  validateLocalAbsolutePath lib layout.root (fieldName ++ "_ROOT")
  validateLocalAbsolutePath lib layout.catalog (fieldName ++ "_CATALOG")
  validateLocalAbsolutePath lib layout.recovery (fieldName ++ "_RECOVERY")
  check (layout.catalog ≠ layout.recovery) (fieldName ++ "_STORES_MUST_BE_SEPARATE_FILES")

structure RestoreRequest where
  backupDir : BackupDir
  manifest : Except String SqliteStateBackupManifest
  targetLayout : StateStoreLayout
  currentLayout : Option StateStoreLayout := none
  around : StateStoreLayout → TargetSurroundings

namespace RestoreRequest

variable (request : RestoreRequest)

def current : TargetSurroundings := request.around (request.currentLayout.getD request.targetLayout)

def validateLayouts : Except String Unit := do
  validateStateStoreLayout lib request.targetLayout "STATE_RESTORE_TARGET"
  match request.currentLayout with
  | none => .ok ()
  | some layout => validateStateStoreLayout lib layout "STATE_RESTORE_CURRENT"

def planSqliteStateRestore : Except String SqliteStateRestorePlan := do
  request.validateLayouts lib
  let verified ← verifySqliteStateBackupSet request.backupDir request.manifest
  let backup ← targetIntentEvidenceFromManifest verified
  let evidence ← currentTargetIntentEvidence py lib request.current
  check (!hasNewerUnresolvedTargetIntents backup.1 backup.2 evidence.unresolvedCount
    evidence.highWaterUtc) "STATE_RESTORE_BLOCKED_BY_NEWER_TARGET_INTENTS"
  .ok {
    backupSetId := verified.backupSetId
    stateSetHash := verified.stateSetHash
    targetLayout := request.targetLayout
    restoreFiles := verified.stores.map fun entry =>
      { entry, targetPath := sourcePath request.targetLayout entry.store }
    backupUnresolvedTargetIntentCount := backup.1
    backupTargetIntentHighWaterUtc := backup.2
    currentUnresolvedTargetIntentCount := evidence.unresolvedCount
    currentTargetIntentHighWaterUtc := evidence.highWaterUtc
    currentTargetSideIntentMarkerCount := evidence.targetSideMarkerCount
    currentTargetSideIntentMarkerHighWaterUtc := evidence.targetSideMarkerHighWaterUtc }

def recorded : List IntentSegmentRow :=
  ((backedUpRecovery request.backupDir).map SqliteStoreContent.unresolved).getD []

def readable : Bool :=
  (request.validateLayouts lib).isOk &&
    (verifySqliteStateBackupSet request.backupDir request.manifest).isOk &&
    (currentTargetIntentEvidence py lib request.current).isOk

end RestoreRequest

end

/-- A segment is unresolved now that the backup does not record, and yet nothing that is unresolved
now is later than the backup, nor as late and more. -/
structure Overlooked (recorded : List IntentSegmentRow) (now : List IntentSegmentSummary) :
    Prop where
  missing : ∃ segment ∈ now, ∀ row ∈ recorded, row.segmentId ≠ segment.segmentId
  notEmpty : recorded ≠ []
  notLater : ∀ segment ∈ now, ∃ row ∈ recorded, segment.updatedUtc ≤ row.updatedUtc
  notMore : (∃ segment ∈ now, ∀ row ∈ recorded, row.updatedUtc ≤ segment.updatedUtc) →
    (now.map IntentSegmentSummary.segmentId).dedup.length ≤ recorded.length

section
variable {recorded : List IntentSegmentRow} {now : List IntentSegmentSummary}

theorem hasNewer_eq_false (hnow : now ≠ []) :
    hasNewerUnresolvedTargetIntents recorded.length
        (highWater (recorded.map IntentSegmentRow.updatedUtc))
        (now.map IntentSegmentSummary.segmentId).dedup.length
        (highWater (now.map IntentSegmentSummary.updatedUtc)) = false ↔
      recorded ≠ [] ∧ (∀ segment ∈ now, ∃ row ∈ recorded, segment.updatedUtc ≤ row.updatedUtc) ∧
        ((∃ segment ∈ now, ∀ row ∈ recorded, row.updatedUtc ≤ segment.updatedUtc) →
          (now.map IntentSegmentSummary.segmentId).dedup.length ≤ recorded.length) := by
  have hmarks : now.map IntentSegmentSummary.updatedUtc ≠ [] := by simpa using hnow
  obtain ⟨current, hcurrent⟩ := exists_highWater hmarks
  obtain ⟨hmem, hle⟩ := highWater_eq_some.mp hcurrent
  have hcount : (now.map IntentSegmentSummary.segmentId).dedup.length ≠ 0 := by
    simpa [List.dedup_eq_nil] using hnow
  unfold hasNewerUnresolvedTargetIntents
  rw [hcurrent]
  simp only [if_neg hcount]
  by_cases hrecorded : recorded = []
  · subst hrecorded
    exact ⟨nofun, fun h => absurd rfl h.1⟩
  · have hbackups : recorded.map IntentSegmentRow.updatedUtc ≠ [] := by simpa using hrecorded
    obtain ⟨backup, hbackup⟩ := exists_highWater hbackups
    obtain ⟨hbackupMem, hbackupLe⟩ := highWater_eq_some.mp hbackup
    rw [hbackup]
    simp only [if_neg (mt List.length_eq_zero_iff.mp hrecorded), Bool.or_eq_false_iff,
      decide_eq_false_iff_not, Bool.and_eq_false_imp, decide_eq_true_eq, not_lt]
    obtain ⟨segment, hsegment, rfl⟩ := List.mem_map.mp hmem
    obtain ⟨row, hrow, rfl⟩ := List.mem_map.mp hbackupMem
    constructor
    · rintro ⟨hnotLater, hnotMore⟩
      refine ⟨hrecorded, fun other hother => ⟨row, hrow, ?_⟩, fun hlate => hnotMore ?_⟩
      · exact String.le_trans (hle _ (List.mem_map_of_mem hother)) hnotLater
      · obtain ⟨late, hlateMem, hlate⟩ := hlate
        exact String.le_antisymm hnotLater (String.le_trans (hlate row hrow)
          (hle _ (List.mem_map_of_mem hlateMem)))
    · rintro ⟨-, hnotLater, hnotMore⟩
      obtain ⟨other, hother, hreached⟩ := hnotLater segment hsegment
      have hsegmentLe : segment.updatedUtc ≤ row.updatedUtc :=
        String.le_trans hreached (hbackupLe _ (List.mem_map_of_mem hother))
      refine ⟨hsegmentLe, fun heq => hnotMore ⟨segment, hsegment, fun other hother => ?_⟩⟩
      exact heq ▸ hbackupLe _ (List.mem_map_of_mem hother)

end

section
variable {py : PythonLibrary} {lib : PlaceLibrary} {request : RestoreRequest}

theorem planned_iff : (∃ plan, request.planSqliteStateRestore py lib = .ok plan) ↔
    request.readable py lib = true ∧ hasNewerUnresolvedTargetIntents request.recorded.length
      (highWater (request.recorded.map IntentSegmentRow.updatedUtc))
      ((request.current.unresolved py lib).map IntentSegmentSummary.segmentId).dedup.length
      (highWater ((request.current.unresolved py lib).map IntentSegmentSummary.updatedUtc)) =
        false := by
  have hrecorded : ∀ verified content,
      verifySqliteStateBackupSet request.backupDir request.manifest = .ok verified →
      backedUpRecovery request.backupDir = some content →
      targetIntentEvidence content .recovery = (request.recorded.length,
        highWater (request.recorded.map IntentSegmentRow.updatedUtc)) := by
    intro verified content _ hcontent
    unfold RestoreRequest.recorded
    rw [hcontent]
    rfl
  constructor
  · rintro ⟨plan, hplan⟩
    unfold RestoreRequest.planSqliteStateRestore at hplan
    obtain ⟨_, hlayouts, hplan⟩ := except_bind_ok hplan
    obtain ⟨verified, hverified, hplan⟩ := except_bind_ok hplan
    obtain ⟨backup, hbackup, hplan⟩ := except_bind_ok hplan
    obtain ⟨evidence, hevidence, hplan⟩ := except_bind_ok hplan
    rw [check_bind_eq_ok, Bool.not_eq_true'] at hplan
    obtain ⟨content, hcontent, hread⟩ := verify_recovery hverified
    obtain ⟨hcount, hmark⟩ := currentTargetIntentEvidence_ok hevidence
    rw [hrecorded verified content hverified hcontent, hbackup] at hread
    obtain rfl := Except.ok.inj hread
    refine ⟨?_, hcount ▸ hmark ▸ hplan.1⟩
    unfold RestoreRequest.readable
    rw [hlayouts, hverified, hevidence]
    rfl
  · rintro ⟨hreadable, hnewer⟩
    unfold RestoreRequest.readable at hreadable
    simp only [Bool.and_eq_true] at hreadable
    obtain ⟨⟨hlayouts, hverified⟩, hevidence⟩ := hreadable
    obtain ⟨u, hlayouts⟩ := except_isOk hlayouts
    obtain ⟨verified, hverified⟩ := except_isOk hverified
    obtain ⟨evidence, hevidence⟩ := except_isOk hevidence
    obtain ⟨content, hcontent, hbackup⟩ := verify_recovery hverified
    obtain ⟨hcount, hmark⟩ := currentTargetIntentEvidence_ok hevidence
    rw [hrecorded verified content hverified hcontent] at hbackup
    unfold RestoreRequest.planSqliteStateRestore
    simp only [hlayouts, hverified, hbackup, hevidence, hcount, hmark, hnewer, bind, Except.bind,
      check, Bool.not_false, if_true]
    exact ⟨_, rfl⟩

/-- A plan covers every unresolved intent, unless the backup set, the current stores and the
markers can be read and the comparison overlooks one. -/
theorem restore_covers_iff :
    (∀ plan, request.planSqliteStateRestore py lib = .ok plan →
      ∀ segment ∈ request.current.unresolved py lib,
        ∃ row ∈ request.recorded, row.segmentId = segment.segmentId) ↔
      ¬ (request.readable py lib = true ∧
        Overlooked request.recorded (request.current.unresolved py lib)) := by
  constructor
  -- the check looks at the greatest time and the count, which an overlooked segment passes
  · rintro hcovers ⟨hreadable, hoverlooked⟩
    obtain ⟨segment, hsegment, hmissing⟩ := hoverlooked.missing
    have hnewer := (hasNewer_eq_false (List.ne_nil_of_mem hsegment)).mpr
      ⟨hoverlooked.notEmpty, hoverlooked.notLater, hoverlooked.notMore⟩
    obtain ⟨plan, hplan⟩ := planned_iff.mpr ⟨hreadable, hnewer⟩
    obtain ⟨row, hrow, hid⟩ := hcovers plan hplan segment hsegment
    exact hmissing row hrow hid
  · intro hnot plan hplan segment hsegment
    by_contra hmissing
    obtain ⟨hreadable, hnewer⟩ := planned_iff.mp ⟨plan, hplan⟩
    obtain ⟨hnotEmpty, hnotLater, hnotMore⟩ :=
      (hasNewer_eq_false (List.ne_nil_of_mem hsegment)).mp hnewer
    refine hnot ⟨hreadable, ⟨segment, hsegment, fun row hrow hid => ?_⟩, hnotEmpty, hnotLater,
      hnotMore⟩
    exact hmissing ⟨row, hrow, hid⟩

end

section

def sampleSegment (segmentId updatedUtc : String) : IntentSegmentRow :=
  { segmentId, state := .durable, updatedUtc }

def sampleRecovery (segmentId updatedUtc : String) : SqliteStoreContent where
  identity := some "recovery"
  schemaVersion := 1
  migrationCount := 1
  latestMigrationUtc := none
  pageCount := 1
  intentSegments := [sampleSegment segmentId updatedUtc]
  segmentsUnique := List.nodup_singleton _

def sampleCatalog : SqliteStoreContent where
  identity := some "catalog"
  schemaVersion := 1
  migrationCount := 1
  latestMigrationUtc := none
  pageCount := 1
  intentSegments := []
  segmentsUnique := List.nodup_nil

def sampleFile (content : SqliteStoreContent) : SqliteFile :=
  { sizeBytes := 1, sha256 := "", content := some content }

def sampleBackupDir : BackupDir := fun fileName =>
  if fileName = "catalog.sqlite.backup" then some (sampleFile sampleCatalog)
  else if fileName = "recovery.sqlite.backup" then
    some (sampleFile (sampleRecovery "first" "2024-03-01T12:00:00Z"))
  else none

def sampleEntries : List SqliteStateStoreBackup :=
  [{ store := .catalog, fileName := "catalog.sqlite.backup", sizeBytes := 1, sha256 := "",
     schemaVersion := 1, migrationCount := 1, latestMigrationUtc := none, pageCount := 1,
     quickCheck := "ok", foreignKeyViolations := 0 },
   { store := .recovery, fileName := "recovery.sqlite.backup", sizeBytes := 1, sha256 := "",
     schemaVersion := 1, migrationCount := 1, latestMigrationUtc := none, pageCount := 1,
     quickCheck := "ok", foreignKeyViolations := 0, unresolvedTargetIntentCount := 1,
     targetIntentHighWaterUtc := some "2024-03-01T12:00:00Z" }]

def sampleManifest : SqliteStateBackupManifest where
  backupSetId := "set"
  createdUtc := "2024-03-01T12:00:01Z"
  stateSetHash := stateSetHash "set" "2024-03-01T12:00:01Z" sampleEntries
  stores := sampleEntries

def plainPlaces : PlaceLibrary where
  urlparse value := { scheme := "file", netloc := "", path := value }
  unquote := id
  path := id
  isAbsolute _ := true
  uuidHex _ := none
  windows := false

def setBack : RestoreRequest where
  backupDir := sampleBackupDir
  manifest := .ok sampleManifest
  targetLayout := { root := "/state", catalog := "/state/catalog", recovery := "/state/recovery" }
  around _ :=
    { recovery := .readable (sampleRecovery "second" "2024-03-01T11:30:00Z")
      catalog := .absent
      targets := fun _ _ => .absent }

def anyPython : PythonLibrary where
  jsonLoads _ := none
  fromIsoformat _ := false

theorem setBack_verified :
    verifySqliteStateBackupSet setBack.backupDir setBack.manifest = .ok sampleManifest := by
  have hset : validateManifestStoreSet sampleManifest.stores = .ok () := by decide +kernel
  have hentries : sampleManifest.stores.mapM (verifyEntry sampleBackupDir) =
      .ok sampleManifest.stores := by decide +kernel
  exact verify_of_entries hset rfl hentries

/-- The restore is planned although the second segment is unresolved and not in the backup. -/
theorem restore_forgets : ¬ ∀ (py : PythonLibrary) (lib : PlaceLibrary) (request : RestoreRequest)
    (plan : SqliteStateRestorePlan), request.planSqliteStateRestore py lib = .ok plan →
      ∀ segment ∈ request.current.unresolved py lib,
        ∃ row ∈ request.recorded, row.segmentId = segment.segmentId := by
  intro h
  have hreadable : setBack.readable anyPython plainPlaces = true := by
    unfold RestoreRequest.readable
    rw [setBack_verified]
    decide +kernel
  obtain ⟨plan, hplan⟩ := planned_iff.mpr ⟨hreadable, by decide +kernel⟩
  obtain ⟨row, hrow, hid⟩ := h anyPython plainPlaces setBack plan hplan
    { segmentId := "second", updatedUtc := "2024-03-01T11:30:00Z" } (by decide +kernel)
  have hrecorded : setBack.recorded = [sampleSegment "first" "2024-03-01T12:00:00Z"] := by
    decide +kernel
  rw [hrecorded, List.mem_singleton] at hrow
  rw [hrow] at hid
  exact absurd hid (by decide)

end

end MediaSync.StateStores
