import MediaSync.StateStores.BackupSet
import Mathlib.Data.List.Dedup

/-! Before a restore the current recovery store is read, and the known targets are scanned for
intent markers, whose first line is a header. -/
namespace MediaSync.StateStores
open Text

/-- `urlparse(value)`. -/
structure ParsedUri where
  scheme : String
  netloc : String
  path : String

/-- The functions of the library on paths, addresses and identifiers. -/
structure PlaceLibrary where
  urlparse : String → ParsedUri
  unquote : String → String
  path : String → String
  isAbsolute : String → Bool
  uuidHex : String → Option String
  windows : Bool

structure MarkerFile where
  name : String
  isFile : Bool := true
  lines : List String

structure RunDir where
  name : String
  markers : List MarkerFile
  distinct : Table.KeysUnique MarkerFile.name markers

inductive RecoveryRoot where
  | absent
  | notDirectory
  | directory (runs : List RunDir) (distinct : Table.KeysUnique RunDir.name runs)

def RecoveryRoot.runs : RecoveryRoot → List RunDir
  | .directory runs _ => runs
  | _ => []

structure MarkerPath where
  root : String
  owner : String
  run : String
  file : String
  deriving DecidableEq

structure IntentSegmentSummary where
  segmentId : String
  updatedUtc : String
  markerPath : Option MarkerPath := none
  deriving DecidableEq

def markerScanLimit : Nat := 10000

def markerHeaderBytes : Nat := 65536

section
variable (payload : List (String × Json)) (fieldName : String)

def fieldInvalid : String := "STATE_BACKUP_" ++ upper fieldName ++ "_INVALID"

def strField : Except String String :=
  match Json.get payload fieldName with
  | some (.str value) => if value = "" then .error (fieldInvalid fieldName) else .ok value
  | _ => .error (fieldInvalid fieldName)

def intField : Except String Int :=
  match Json.get payload fieldName with
  | some (.int value) => .ok value
  | _ => .error (fieldInvalid fieldName)

/-- `_int_field` with a lower bound: `_non_negative_int_field`, `_positive_int_field`. -/
def boundedIntField (bound : Int) : Except String Int := do
  let value ← intField payload fieldName
  if value < bound then .error (fieldInvalid fieldName) else .ok value

def hexField : Except String String := do
  let value ← strField payload fieldName
  if isHash value then .ok value else .error (fieldInvalid fieldName)

end

def safeFileName (value : String) : Except String String :=
  if value.toList.any (fun c => c = '/' || c = '\\') || value = "" || value = "." ||
    value = ".." then
    .error "STATE_BACKUP_FILE_NAME_INVALID"
  else .ok value

section
variable (lib : PlaceLibrary)

def isSafePathComponent (value : String) : Bool :=
  let alphanumeric := fun c : Char => isAsciiLetter c || ('0' ≤ c && c ≤ '9')
  match value.toList with
  | [] => false
  | c :: rest => alphanumeric c && rest.length ≤ 127 &&
    rest.all fun d => alphanumeric d || d = '_' || d = '.' || d = '-'

def safePathComponent (value : String) : String :=
  if isSafePathComponent value then value
  else String.ofList ((Sha256.hexdigest value).toList.take 16)

def recoveryIntentInstallationNamespace (ownerInstallationId : String) : String :=
  match lib.uuidHex ownerInstallationId with
  | some hex => String.ofList (hex.toList.take 12)
  | none => safePathComponent ownerInstallationId

def localPathFromFileUri (rootUri : String) : Except String String := do
  let parsed := lib.urlparse rootUri
  check (parsed.scheme.toLower = "file") "STATE_RESTORE_ENDPOINT_ROOT_URI_UNSUPPORTED"
  check (parsed.netloc = "" || parsed.netloc = "localhost")
    "STATE_RESTORE_ENDPOINT_ROOT_URI_NOT_LOCAL"
  let pathText := (lib.unquote parsed.path).toList
  let pathText := if lib.windows && pathText[0]? = some '/' && pathText[2]? = some ':' then
    pathText.drop 1 else pathText
  let path := lib.path (String.ofList pathText)
  check (lib.isAbsolute path) "STATE_RESTORE_ENDPOINT_ROOT_URI_NOT_ABSOLUTE"
  .ok path

end

section
variable (py : PythonLibrary) (lib : PlaceLibrary)

/-- `_read_target_side_intent_marker_header`: the first line that is not blank. -/
def readMarkerHeader : List String → Except String (List (String × Json))
  | [] => .error "STATE_RESTORE_TARGET_INTENT_HEADER_MISSING"
  | line :: rest =>
    if !nonBlank line then readMarkerHeader rest
    else if markerHeaderBytes < line.utf8ByteSize then
      .error "STATE_RESTORE_TARGET_INTENT_HEADER_TOO_LARGE"
    else
      match py.jsonLoads line with
      | none => .error "STATE_RESTORE_TARGET_INTENT_HEADER_INVALID_JSON"
      | some (.obj payload) => .ok payload
      | some _ => .error "STATE_RESTORE_TARGET_INTENT_HEADER_NOT_OBJECT"

/-- The path of a marker under `.mediasync`. -/
def MarkerPath.relative (path : MarkerPath) : String :=
  "installations/" ++ path.owner ++ "/recovery/" ++ path.run ++ "/" ++ path.file

def markerFields (path : MarkerPath) (payload : List (String × Json)) :
    Except String (String × String) := do
  let schemaVersion ← intField payload "schema_version"
  check (schemaVersion = 1) "STATE_RESTORE_TARGET_INTENT_SCHEMA_UNSUPPORTED"
  let state ← strField payload "state"
  check (state = "BUILDING" || state = "DURABLE") "STATE_RESTORE_TARGET_INTENT_STATE_UNSUPPORTED"
  let durabilityState ← strField payload "durability_state"
  check (durabilityState = "DURABLE") "STATE_RESTORE_TARGET_INTENT_NOT_DURABLE"
  let segmentId ← strField payload "segment_id"
  let segmentId ← safeFileName segmentId
  for fieldName in ["run_id", "run_target_id", "target_endpoint_id", "target_endpoint_revision_id",
      "owner_installation_id", "lease_id"] do
    let _ ← strField payload fieldName
  for fieldName in ["endpoint_generation", "ownership_epoch", "fencing_token"] do
    let _ ← boundedIntField payload fieldName 1
  let _ ← boundedIntField payload "segment_sequence" 0
  let _ ← boundedIntField payload "operation_count" 1
  let _ ← boundedIntField payload "byte_count" 0
  let _ ← hexField payload "segment_hash"
  match Json.get payload "previous_segment_hash" with
  | none | some .null => pure ()
  | some _ =>
    let _ ← hexField payload "previous_segment_hash"
  let relativePath ← strField payload "relative_path"
  check (relativePath.map (fun c => if c = '\\' then '/' else c) = path.relative)
    "STATE_RESTORE_TARGET_INTENT_PATH_MISMATCH"
  let updatedUtc ← strField payload "updated_utc"
  .ok (segmentId, updatedUtc)

def markerSummary (path : MarkerPath) (fields : String × String) : IntentSegmentSummary where
  segmentId := fields.1
  updatedUtc := fields.2
  markerPath := some path

def markerFromPath (path : MarkerPath) (file : MarkerFile) : Except String IntentSegmentSummary :=
  if !file.isFile then .error "STATE_RESTORE_TARGET_INTENT_MARKER_NOT_FILE"
  else do
    let payload ← readMarkerHeader py file.lines
    (markerFields path payload).map (markerSummary path)

structure MarkerScan where
  scanned : Nat := 0
  markers : List IntentSegmentSummary := []

/-- `segments[segment.segment_id] = segment`. -/
def putSegment (segments : List IntentSegmentSummary) (segment : IntentSegmentSummary) :
    List IntentSegmentSummary :=
  match Table.lookup IntentSegmentSummary.segmentId segments segment.segmentId with
  | some _ => Table.overwrite IntentSegmentSummary.segmentId segments segment
  | none => Table.insert segments segment

def scanMarker (root owner run : String) (scan : MarkerScan) (file : MarkerFile) :
    Except String MarkerScan := do
  check (scan.scanned + 1 ≤ markerScanLimit) "STATE_RESTORE_TARGET_INTENT_SCAN_LIMIT"
  let marker ← markerFromPath py { root, owner, run, file := file.name } file
  check ((Table.lookup IntentSegmentSummary.segmentId scan.markers marker.segmentId).all
    fun existing => existing.markerPath = marker.markerPath) "STATE_RESTORE_TARGET_INTENT_DUPLICATE"
  .ok { scanned := scan.scanned + 1, markers := putSegment scan.markers marker }

def scanRun (root owner : String) (scan : MarkerScan) (run : RunDir) : Except String MarkerScan :=
  run.markers.foldlM (scanMarker py root owner run.name) scan

abbrev Targets := String → String → RecoveryRoot

structure EndpointRevisionRow where
  rootUri : String
  ownerInstallationId : Option String
  deriving DecidableEq

def scanTarget (targets : Targets) (scan : MarkerScan) (target : String × String) :
    Except String MarkerScan := do
  let root ← localPathFromFileUri lib target.1
  let owner := recoveryIntentInstallationNamespace lib target.2
  match targets root owner with
  | .absent => .ok scan
  | .notDirectory => .error "STATE_RESTORE_TARGET_INTENT_ROOT_NOT_DIRECTORY"
  | .directory runs _ => runs.foldlM (scanRun py root owner) scan

def knownTargets (rows : List EndpointRevisionRow) : List (String × String) :=
  (rows.filterMap fun row => row.ownerInstallationId.map fun owner => (row.rootUri, owner)).dedup

inductive CurrentStore (Rows : Type) where
  | absent
  | unreadable
  | readable (rows : Rows)

def targetSideIntentMarkerSegments (targets : Targets)
    (catalog : CurrentStore (List EndpointRevisionRow)) :
    Except String (List IntentSegmentSummary) :=
  match catalog with
  | .absent => .ok []
  | .unreadable => .error "STATE_RESTORE_CURRENT_CATALOG_UNREADABLE"
  | .readable rows =>
    MarkerScan.markers <$> (knownTargets rows).foldlM (scanTarget py lib targets) {}

def currentTargetIntentSegments (recovery : CurrentStore SqliteStoreContent) :
    Except String (List IntentSegmentSummary) :=
  match recovery with
  | .absent => .ok []
  | .unreadable => .error "STATE_RESTORE_CURRENT_RECOVERY_UNREADABLE"
  | .readable content => do
    check (content.identity = some SqliteStore.recovery.value)
      "STATE_RESTORE_CURRENT_RECOVERY_MISMATCH"
    .ok (content.unresolved.map fun row =>
      { segmentId := row.segmentId, updatedUtc := row.updatedUtc })

structure TargetSurroundings where
  recovery : CurrentStore SqliteStoreContent
  catalog : CurrentStore (List EndpointRevisionRow)
  targets : Targets

structure TargetIntentEvidence where
  unresolvedCount : Nat
  highWaterUtc : Option String
  targetSideMarkerCount : Nat
  targetSideMarkerHighWaterUtc : Option String

def combineMarker (segments : List IntentSegmentSummary) (marker : IntentSegmentSummary) :
    List IntentSegmentSummary :=
  match Table.lookup IntentSegmentSummary.segmentId segments marker.segmentId with
  | none => putSegment segments marker
  | some existing =>
    if existing.updatedUtc < marker.updatedUtc then putSegment segments marker else segments

def currentTargetIntentEvidence (around : TargetSurroundings) :
    Except String TargetIntentEvidence := do
  let segments ← currentTargetIntentSegments around.recovery
  let markers ← targetSideIntentMarkerSegments py lib around.targets around.catalog
  let combined := markers.foldl combineMarker segments
  .ok {
    unresolvedCount := combined.length
    highWaterUtc := highWater (combined.map IntentSegmentSummary.updatedUtc)
    targetSideMarkerCount := markers.length
    targetSideMarkerHighWaterUtc := highWater (markers.map IntentSegmentSummary.updatedUtc) }

def runMarkers (root owner : String) (run : RunDir) : List IntentSegmentSummary :=
  run.markers.filterMap fun file =>
    (markerFromPath py { root, owner, run := run.name, file := file.name } file).toOption

def markersAt (targets : Targets) (target : String × String) : List IntentSegmentSummary :=
  match localPathFromFileUri lib target.1 with
  | .error _ => []
  | .ok root =>
    let owner := recoveryIntentInstallationNamespace lib target.2
    (targets root owner).runs.flatMap (runMarkers py root owner)

def CurrentStore.rows {Rows Row : Type} (read : Rows → List Row) : CurrentStore Rows → List Row
  | .readable rows => read rows
  | _ => []

def TargetSurroundings.markers (around : TargetSurroundings) : List IntentSegmentSummary :=
  (knownTargets (around.catalog.rows id)).flatMap (markersAt py lib around.targets)

def TargetSurroundings.unresolved (around : TargetSurroundings) : List IntentSegmentSummary :=
  ((around.recovery.rows SqliteStoreContent.unresolved).map fun row =>
    { segmentId := row.segmentId, updatedUtc := row.updatedUtc }) ++ around.markers py lib

end

section
variable {py : PythonLibrary} {lib : PlaceLibrary} {targets : Targets} {scan scan' : MarkerScan}
  {marker : IntentSegmentSummary} {file : MarkerFile}
  {segments present : List IntentSegmentSummary}

def Located (targets : Targets) (path : MarkerPath) (file : MarkerFile) : Prop :=
  ∃ run ∈ (targets path.root path.owner).runs, run.name = path.run ∧
    file ∈ run.markers ∧ file.name = path.file

def ReadFrom (py : PythonLibrary) (targets : Targets) (marker : IntentSegmentSummary) : Prop :=
  ∃ path file, Located targets path file ∧ markerFromPath py path file = .ok marker ∧
    marker.markerPath = some path

variable {path : MarkerPath}

theorem Located.unique {file' : MarkerFile} (h : Located targets path file)
    (h' : Located targets path file') : file = file' := by
  obtain ⟨run, hrun, hname, hfile, hfileName⟩ := h
  obtain ⟨run', hrun', hname', hfile', hfileName'⟩ := h'
  have hdistinct : Table.KeysUnique RunDir.name (targets path.root path.owner).runs := by
    cases targets path.root path.owner with
    | absent => exact List.Pairwise.nil
    | notDirectory => exact List.Pairwise.nil
    | directory runs distinct => exact distinct
  obtain rfl : run = run' := Table.key_injOn hdistinct hrun hrun' (hname.trans hname'.symm)
  exact Table.key_injOn run.distinct hfile hfile' (hfileName.trans hfileName'.symm)

theorem ReadFrom.unique {marker' : IntentSegmentSummary} (h : ReadFrom py targets marker)
    (h' : ReadFrom py targets marker') (hpath : marker.markerPath = marker'.markerPath) :
    marker = marker' := by
  obtain ⟨path, file, hlocated, hread, hnamed⟩ := h
  obtain ⟨path', file', hlocated', hread', hnamed'⟩ := h'
  obtain rfl : path = path' := by
    rw [hnamed, hnamed'] at hpath
    exact Option.some.inj hpath
  obtain rfl := hlocated.unique hlocated'
  exact Except.ok.inj (hread.symm.trans hread')

theorem mem_putSegment : marker ∈ putSegment segments marker := by
  unfold putSegment
  split
  · rename_i existing hexisting
    exact Table.mem_overwrite_self (Table.lookup_mem hexisting) (Table.lookup_key hexisting)
  · exact Table.mem_insert.mpr (.inr rfl)

theorem keysUnique_putSegment (h : Table.KeysUnique IntentSegmentSummary.segmentId segments) :
    Table.KeysUnique IntentSegmentSummary.segmentId (putSegment segments marker) := by
  unfold putSegment
  split
  · exact h.overwrite
  · rename_i hfresh
    exact h.insert hfresh

variable {other : IntentSegmentSummary}

theorem putSegment_cases (h : other ∈ putSegment segments marker) :
    other = marker ∨ (other ∈ segments ∧ other.segmentId ≠ marker.segmentId) := by
  unfold putSegment at h
  split at h
  · exact (Table.mem_overwrite h).imp_right fun hold => ⟨hold.1, hold.2⟩
  · rename_i hfresh
    rcases Table.mem_insert.mp h with hold | rfl
    · exact .inr ⟨hold, Table.lookup_none_iff.mp hfresh other hold⟩
    · exact .inl rfl

theorem mem_putSegment_of_ne (h : other ∈ segments) (hne : other.segmentId ≠ marker.segmentId) :
    other ∈ putSegment segments marker := by
  unfold putSegment
  split
  · exact Table.mem_overwrite_of_ne h hne
  · exact Table.mem_insert.mpr (.inl h)

/-- Each marker was read, and its segment is there. -/
structure MarkerScan.Sound (py : PythonLibrary) (targets : Targets)
    (present : List IntentSegmentSummary) (scan : MarkerScan) : Prop where
  unique : Table.KeysUnique IntentSegmentSummary.segmentId scan.markers
  read : ∀ marker ∈ scan.markers, ReadFrom py targets marker
  there : ∀ marker ∈ scan.markers, marker ∈ present

theorem markerFromPath_path (h : markerFromPath py path file = .ok marker) :
    marker.markerPath = some path := by
  unfold markerFromPath at h
  split at h
  · cases h
  · obtain ⟨payload, -, hfields⟩ := except_bind_ok h
    obtain ⟨fields, -, rfl⟩ := except_map_ok hfields
    rfl

theorem scanMarker_ok {root owner run : String} (hscan : scan.Sound py targets present)
    (hlocated : Located targets { root, owner, run, file := file.name } file)
    (hpresent : ∀ marker, markerFromPath py { root, owner, run, file := file.name } file =
      .ok marker → marker ∈ present)
    (h : scanMarker py root owner run scan file = .ok scan') : scan'.Sound py targets present ∧
      (∀ marker, markerFromPath py { root, owner, run, file := file.name } file = .ok marker →
        marker ∈ scan'.markers) ∧ ∀ marker, marker ∈ scan.markers → marker ∈ scan'.markers := by
  unfold scanMarker at h
  rw [check_bind_eq_ok] at h
  obtain ⟨marker, hmarker, hrest⟩ := except_bind_ok h.2
  rw [check_bind_eq_ok] at hrest
  obtain ⟨hsame, hlast⟩ := hrest
  obtain rfl := Except.ok.inj hlast
  have hread : ReadFrom py targets marker :=
    ⟨_, file, hlocated, hmarker, markerFromPath_path hmarker⟩
  refine ⟨⟨keysUnique_putSegment hscan.unique, fun other hother => ?_, fun other hother => ?_⟩,
    fun other hother => ?_, fun other hother => ?_⟩
  · rcases putSegment_cases hother with rfl | ⟨hold, -⟩
    · exact hread
    · exact hscan.read other hold
  · rcases putSegment_cases hother with rfl | ⟨hold, -⟩
    · exact hpresent _ hmarker
    · exact hscan.there other hold
  · obtain rfl := Except.ok.inj (hmarker.symm.trans hother)
    exact mem_putSegment
  · by_cases hid : other.segmentId = marker.segmentId
    · -- an entry of the same segment was read at the same path
      have hfound := Table.lookup_of_mem hscan.unique hother
      rw [hid] at hfound
      rw [hfound] at hsame
      have hpath : other.markerPath = marker.markerPath := by simpa using hsame
      obtain rfl := (hscan.read other hother).unique hread hpath
      exact mem_putSegment
    · exact mem_putSegment_of_ne hother hid

variable {root owner : String}

theorem mem_runMarkers {run : RunDir} :
    marker ∈ runMarkers py root owner run ↔ ∃ file ∈ run.markers,
      markerFromPath py { root, owner, run := run.name, file := file.name } file = .ok marker := by
  unfold runMarkers
  rw [List.mem_filterMap]
  refine exists_congr fun file => and_congr_right fun _ => ?_
  cases markerFromPath py { root, owner, run := run.name, file := file.name } file with
  | error code => exact ⟨nofun, nofun⟩
  | ok found =>
    exact ⟨fun h => congrArg _ (Option.some.inj h), fun h => congrArg _ (Except.ok.inj h)⟩

theorem scanRun_ok {run : RunDir} (hscan : scan.Sound py targets present)
    (hrun : run ∈ (targets root owner).runs)
    (hpresent : ∀ marker ∈ runMarkers py root owner run, marker ∈ present)
    (h : scanRun py root owner scan run = .ok scan') : scan'.Sound py targets present ∧
      (∀ marker, marker ∈ runMarkers py root owner run → marker ∈ scan'.markers) ∧
        ∀ marker, marker ∈ scan.markers → marker ∈ scan'.markers := by
  have hstep : ∀ b file b', file ∈ run.markers → b.Sound py targets present →
      scanMarker py root owner run.name b file = .ok b' → b'.Sound py targets present ∧
        (∀ marker, markerFromPath py { root, owner, run := run.name, file := file.name } file =
          .ok marker → marker ∈ b'.markers) ∧ ∀ marker, marker ∈ b.markers →
            marker ∈ b'.markers := by
    intro b file b' hfile hb hscanned
    refine scanMarker_ok hb ⟨run, hrun, rfl, hfile, rfl⟩ (fun marker hread => ?_) hscanned
    exact hpresent marker (mem_runMarkers.mpr ⟨file, hfile, hread⟩)
  obtain ⟨hsound, hdone, hkept⟩ := foldlM_covers hstep hscan h
  refine ⟨hsound, fun marker hmarker => ?_, hkept⟩
  obtain ⟨file, hfile, hread⟩ := mem_runMarkers.mp hmarker
  exact hdone file hfile marker hread

theorem scanTarget_ok {target : String × String} (hscan : scan.Sound py targets present)
    (hpresent : ∀ marker ∈ markersAt py lib targets target, marker ∈ present)
    (h : scanTarget py lib targets scan target = .ok scan') : scan'.Sound py targets present ∧
      (∀ marker, marker ∈ markersAt py lib targets target → marker ∈ scan'.markers) ∧
        ∀ marker, marker ∈ scan.markers → marker ∈ scan'.markers := by
  unfold scanTarget at h
  obtain ⟨root, hroot, hrest⟩ := except_bind_ok h
  have hmarkers : markersAt py lib targets target =
      (targets root (recoveryIntentInstallationNamespace lib target.2)).runs.flatMap
        (runMarkers py root (recoveryIntentInstallationNamespace lib target.2)) := by
    unfold markersAt
    rw [hroot]
  rw [hmarkers] at hpresent ⊢
  simp only at hrest
  split at hrest
  · rename_i habsent
    obtain rfl := Except.ok.inj hrest
    rw [habsent]
    exact ⟨hscan, fun _ hmarker => absurd hmarker List.not_mem_nil, fun _ hmarker => hmarker⟩
  · cases hrest
  · rename_i runs distinct hruns
    have hlisted :
        (targets root (recoveryIntentInstallationNamespace lib target.2)).runs = runs := by
      rw [hruns]
      rfl
    rw [hlisted] at hpresent ⊢
    obtain ⟨hsound, hdone, hkept⟩ := foldlM_covers
      (fun b run b' hrun hb hscanned => scanRun_ok hb (hlisted ▸ hrun)
        (fun marker hmarker =>
          hpresent marker (List.mem_flatMap.mpr ⟨run, hrun, hmarker⟩)) hscanned)
      hscan hrest
    refine ⟨hsound, fun marker hmarker => ?_, hkept⟩
    obtain ⟨run, hrun, hin⟩ := List.mem_flatMap.mp hmarker
    exact hdone run hrun marker hin

variable {around : TargetSurroundings}

theorem targetSideIntentMarkerSegments_ok
    (h : targetSideIntentMarkerSegments py lib around.targets around.catalog = .ok segments) :
    Table.KeysUnique IntentSegmentSummary.segmentId segments ∧
      ∀ marker, marker ∈ segments ↔ marker ∈ around.markers py lib := by
  unfold targetSideIntentMarkerSegments at h
  unfold TargetSurroundings.markers
  split at h
  · rename_i hcatalog
    obtain rfl := Except.ok.inj h
    rw [hcatalog]
    exact ⟨List.nodup_nil, fun marker => ⟨nofun, fun hmarker => absurd hmarker List.not_mem_nil⟩⟩
  · cases h
  · rename_i rows hcatalog
    rw [hcatalog]
    obtain ⟨scan, hscan, rfl⟩ := except_map_ok h
    have hempty : ({} : MarkerScan).Sound py around.targets
        ((knownTargets rows).flatMap (markersAt py lib around.targets)) :=
      ⟨List.nodup_nil, nofun, nofun⟩
    obtain ⟨hsound, hdone, -⟩ := foldlM_covers
      (fun b target b' htarget hb hscanned => scanTarget_ok hb
        (fun marker hmarker => List.mem_flatMap.mpr ⟨target, htarget, hmarker⟩) hscanned)
      hempty hscan
    refine ⟨hsound.unique, fun marker => ⟨hsound.there marker, fun hmarker => ?_⟩⟩
    obtain ⟨target, htarget, hin⟩ := List.mem_flatMap.mp hmarker
    exact hdone target htarget marker hin

/-- For each segment its latest summary. -/
structure Combined (all combined : List IntentSegmentSummary) : Prop where
  unique : Table.KeysUnique IntentSegmentSummary.segmentId combined
  there : ∀ segment ∈ combined, segment ∈ all
  reached : ∀ segment ∈ all, ∃ kept ∈ combined, kept.segmentId = segment.segmentId ∧
    segment.updatedUtc ≤ kept.updatedUtc

variable {all combined : List IntentSegmentSummary}

theorem Combined.put (h : Combined all combined)
    (hlater : ∀ kept ∈ combined, kept.segmentId = marker.segmentId →
      kept.updatedUtc ≤ marker.updatedUtc) :
    Combined (all ++ [marker]) (putSegment combined marker) := by
  refine ⟨keysUnique_putSegment h.unique, fun segment hsegment => ?_, fun segment hsegment => ?_⟩
  · rcases putSegment_cases hsegment with rfl | ⟨hold, -⟩
    · exact List.mem_append_right _ (List.mem_singleton.mpr rfl)
    · exact List.mem_append_left _ (h.there segment hold)
  · rcases List.mem_append.mp hsegment with hold | hnew
    · obtain ⟨kept, hkept, hid, hle⟩ := h.reached segment hold
      by_cases hsame : kept.segmentId = marker.segmentId
      · exact ⟨marker, mem_putSegment, hsame.symm.trans hid,
          String.le_trans hle (hlater kept hkept hsame)⟩
      · exact ⟨kept, mem_putSegment_of_ne hkept hsame, hid, hle⟩
    · obtain rfl := List.mem_singleton.mp hnew
      exact ⟨segment, mem_putSegment, rfl, String.le_refl _⟩

theorem Combined.combine (h : Combined all combined) :
    Combined (all ++ [marker]) (combineMarker combined marker) := by
  unfold combineMarker
  split
  · rename_i hfresh
    exact h.put fun kept hkept hid => absurd hid (Table.lookup_none_iff.mp hfresh kept hkept)
  · rename_i existing hexisting
    have hmem := Table.lookup_mem hexisting
    have hid := Table.lookup_key hexisting
    have hone : ∀ kept ∈ combined, kept.segmentId = marker.segmentId → kept = existing :=
      fun kept hkept hkey => Table.key_injOn h.unique hkept hmem (hkey.trans hid.symm)
    split
    · rename_i hlt
      refine h.put fun kept hkept hkey => ?_
      rw [hone kept hkept hkey]
      exact Std.le_of_lt hlt
    · rename_i hnot
      refine ⟨h.unique, fun segment hsegment => List.mem_append_left _ (h.there segment hsegment),
        fun segment hsegment => ?_⟩
      rcases List.mem_append.mp hsegment with hold | hnew
      · exact h.reached segment hold
      · obtain rfl := List.mem_singleton.mp hnew
        exact ⟨existing, hmem, hid, String.not_lt.mp hnot⟩

theorem Combined.markers (h : Combined all combined) (markers : List IntentSegmentSummary) :
    Combined (all ++ markers) (markers.foldl combineMarker combined) := by
  induction markers generalizing all combined with
  | nil =>
    rw [List.append_nil]
    exact h
  | cons marker markers ih =>
    rw [List.foldl_cons, List.append_cons]
    exact ih h.combine

theorem Combined.evidence {all all' combined : List IntentSegmentSummary}
    (h : Combined all combined)
    (hall : ∀ segment, segment ∈ all ↔ segment ∈ all') :
    combined.length = (all'.map IntentSegmentSummary.segmentId).dedup.length ∧
      highWater (combined.map IntentSegmentSummary.updatedUtc) =
        highWater (all'.map IntentSegmentSummary.updatedUtc) := by
  refine ⟨?_, highWater_congr (fun utc hutc => ?_) fun utc hutc => ?_⟩
  · have hperm : (combined.map IntentSegmentSummary.segmentId).Perm
        (all'.map IntentSegmentSummary.segmentId).dedup := by
      refine (List.perm_ext_iff_of_nodup h.unique (List.nodup_dedup _)).mpr fun segmentId => ?_
      rw [List.mem_dedup, List.mem_map, List.mem_map]
      constructor
      · rintro ⟨segment, hsegment, rfl⟩
        exact ⟨segment, (hall segment).mp (h.there segment hsegment), rfl⟩
      · rintro ⟨segment, hsegment, rfl⟩
        obtain ⟨kept, hkept, hid, -⟩ := h.reached segment ((hall segment).mpr hsegment)
        exact ⟨kept, hkept, hid⟩
    simpa using hperm.length_eq
  · obtain ⟨segment, hsegment, rfl⟩ := List.mem_map.mp hutc
    exact ⟨segment.updatedUtc,
      List.mem_map_of_mem ((hall segment).mp (h.there segment hsegment)), String.le_refl _⟩
  · obtain ⟨segment, hsegment, rfl⟩ := List.mem_map.mp hutc
    obtain ⟨kept, hkept, -, hle⟩ := h.reached segment ((hall segment).mpr hsegment)
    exact ⟨kept.updatedUtc, List.mem_map_of_mem hkept, hle⟩

theorem currentTargetIntentSegments_ok {recovery : CurrentStore SqliteStoreContent}
    (h : currentTargetIntentSegments recovery = .ok segments) :
    segments = (recovery.rows SqliteStoreContent.unresolved).map (fun row =>
      { segmentId := row.segmentId, updatedUtc := row.updatedUtc }) ∧
      Table.KeysUnique IntentSegmentSummary.segmentId segments := by
  unfold currentTargetIntentSegments at h
  split at h
  · obtain rfl := Except.ok.inj h
    exact ⟨rfl, List.nodup_nil⟩
  · cases h
  · rename_i content
    rw [check_bind_eq_ok] at h
    obtain rfl := Except.ok.inj h.2
    refine ⟨rfl, ?_⟩
    unfold Table.KeysUnique
    rw [List.map_map]
    exact content.segmentsUnique.filter

theorem currentTargetIntentEvidence_ok {evidence : TargetIntentEvidence}
    (h : currentTargetIntentEvidence py lib around = .ok evidence) : evidence.unresolvedCount =
        ((around.unresolved py lib).map IntentSegmentSummary.segmentId).dedup.length ∧
      evidence.highWaterUtc =
        highWater ((around.unresolved py lib).map IntentSegmentSummary.updatedUtc) := by
  unfold currentTargetIntentEvidence at h
  obtain ⟨segments, hsegments, h⟩ := except_bind_ok h
  obtain ⟨markers, hmarkers, h⟩ := except_bind_ok h
  obtain rfl := Except.ok.inj h
  obtain ⟨hrows, hunique⟩ := currentTargetIntentSegments_ok hsegments
  have hfirst : Combined segments segments :=
    ⟨hunique, fun _ hsegment => hsegment, fun segment hsegment =>
      ⟨segment, hsegment, rfl, String.le_refl _⟩⟩
  refine (hfirst.markers markers).evidence fun segment => ?_
  unfold TargetSurroundings.unresolved
  rw [List.mem_append, List.mem_append, ← hrows,
    (targetSideIntentMarkerSegments_ok hmarkers).2 segment]

end

end MediaSync.StateStores
