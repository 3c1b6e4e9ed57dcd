import MediaSync.Foundation.Keyset
import MediaSync.Foundation.SortKeys
import MediaSync.Foundation.Text
import Mathlib.Algebra.GroupWithZero.Nat
import Mathlib.Algebra.Ring.Int.Defs

/-! The timeline shows controls and backups, the latest first. -/
namespace MediaSync.History
open Text Keyset

inductive ActivityKind where
  | control
  | backup
  deriving DecidableEq

def ActivityKind.value : ActivityKind → String
  | .control => "CONTROL"
  | .backup => "BACKUP"

inductive ActivityFilter where
  | all
  | controls
  | backups
  deriving DecidableEq

structure HistoryCursor where
  startedUtc : String
  activityKind : ActivityKind
  activityId : String
  deriving DecidableEq

structure CursorDict where
  cursorVersion : Int
  startedUtc : String
  activityKind : String
  activityId : String

def HistoryCursor.toDict (cursor : HistoryCursor) : CursorDict where
  cursorVersion := 1
  startedUtc := cursor.startedUtc
  activityKind := cursor.activityKind.value
  activityId := cursor.activityId

def requiredText (value : String) : Option String :=
  if strip value = "" then none else some (strip value)

/-- `HistoryActivityKind(text)`. -/
def ActivityKind.parse (text : String) : Option ActivityKind :=
  [ActivityKind.control, .backup].find? fun kind => kind.value = text

/-- `_normalize_cursor` of a dictionary. -/
def normalizeCursor (value : CursorDict) : Except String HistoryCursor := do
  check (value.cursorVersion = 1) "HISTORY_TIMELINE_CURSOR_VERSION_INVALID"
  match requiredText value.startedUtc, requiredText value.activityId,
      requiredText value.activityKind with
  | some startedUtc, some activityId, some kindText =>
    check
      (startedUtc.length ≤ 64 && activityId.length ≤ 256) "HISTORY_TIMELINE_CURSOR_VALUE_INVALID"
    match ActivityKind.parse kindText with
    | some activityKind => return { startedUtc, activityKind, activityId }
    | none => throw "HISTORY_TIMELINE_CURSOR_KIND_INVALID"
  | _, _, _ => throw "HISTORY_TIMELINE_CURSOR_VALUE_INVALID"

def normalizeActivityFilter (value : Option String) : Except String ActivityFilter :=
  match value with
  | none => .ok .all
  | some value =>
    if upper (strip value) = "ALL" then .ok .all
    else if upper (strip value) = "CONTROLS" then .ok .controls
    else if upper (strip value) = "BACKUPS" then .ok .backups
    else .error "HISTORY_TIMELINE_FILTER_INVALID"

def normalizeJobId (value : Option String) : Except String (Option String) :=
  match value with
  | none => .ok none
  | some value =>
    if strip value = "" || 256 < (strip value).length then
      .error "HISTORY_TIMELINE_JOB_FILTER_INVALID"
    else .ok (some (strip value))

def normalizeBounds (limit offset : Option Int) : Except String (Int × Int) := do
  let pageLimit := limit.getD 10
  let pageOffset := offset.getD 0
  check (1 ≤ pageLimit && pageLimit ≤ 25) "HISTORY_TIMELINE_LIMIT_OUT_OF_RANGE"
  check (0 ≤ pageOffset) "HISTORY_TIMELINE_OFFSET_OUT_OF_RANGE"
  check (pageOffset ≤ 10000) "HISTORY_TIMELINE_OFFSET_OUT_OF_RANGE"
  return (pageLimit, pageOffset)

/-- A row of `initial_backup_plan_materializations`. -/
structure MaterializationRow where
  materializationId : String
  jobId : String
  jobRevisionId : String
  analysisId : Option String
  planId : Option String
  state : String
  startedUtc : String
  completedUtc : String
  operationCount : Int
  plannedBytes : Int

structure RequestRow where
  requestId : String
  jobId : String
  jobRevisionId : String
  state : String
  requestedUtc : String
  startedUtc : Option String
  completedUtc : Option String
  analysisId : Option String
  planId : Option String
  operationCount : Int
  plannedBytes : Int

structure RunRow where
  id : String
  jobId : String
  jobRevisionId : String
  planId : String
  triggerType : String
  state : String
  startedUtc : String
  finishedUtc : Option String
  warningCount : Int
  errorCount : Int
  plannedOperations : Int
  plannedBytes : Int

/-- A row of `standard_backup_job_revision_details`. -/
structure RevisionRow where
  jobId : String
  jobRevisionId : String
  sourceName : String

/-- A row of `snapshots`, and one of `snapshot_issues`. -/
structure SnapshotRow where
  id : String
  analysisId : String

structure IssueRow where
  snapshotId : String
  blocksDestructiveActions : Bool

structure HistoryTarget where
  endpointId : String
  endpointRevisionId : String
  state : String
  plannedOperations : Int
  completedOperations : Int
  plannedBytes : Int
  completedBytes : Int
  warningCount : Int
  errorCount : Int
  deriving DecidableEq

structure RunTargetRow extends HistoryTarget where
  id : String
  runId : String

/-- A row of `standard_backup_job_endpoint_bindings`. -/
structure BindingRow where
  jobId : String
  jobRevisionId : String
  role : String
  ordinal : Int
  endpointId : String
  endpointRevisionId : String
  registrationState : String

structure HistoryTables where
  materializations : List MaterializationRow
  requests : List RequestRow
  runs : List RunRow
  revisions : List RevisionRow
  snapshots : List SnapshotRow
  issues : List IssueRow
  runTargets : List RunTargetRow
  bindings : List BindingRow

structure HistoryRow where
  activityKind : ActivityKind
  activityId : String
  jobId : String
  jobRevisionId : String
  jobTitle : String
  runId : Option String
  analysisId : Option String
  planId : Option String
  state : String
  startedUtc : String
  finishedUtc : Option String
  plannedOperations : Int
  plannedBytes : Int
  warningCount : Int
  errorCount : Int
  triggerType : String
  deriving DecidableEq

def HistoryTables.issueCount (tables : HistoryTables) (analysisId : Option String)
    (blocking : Bool) : Int :=
  (tables.issues.map fun issue => tables.snapshots.countP fun snapshot =>
    snapshot.id = issue.snapshotId ∧ some snapshot.analysisId = analysisId ∧
      issue.blocksDestructiveActions = blocking).sum

def HistoryTables.details (tables : HistoryTables) (jobId jobRevisionId : String) :
    List RevisionRow :=
  tables.revisions.filter fun details =>
    details.jobId = jobId && details.jobRevisionId = jobRevisionId

/-- The rows of `_list_initial_control_rows`: first checks that no request stands for. -/
def initialControlRows (tables : HistoryTables) : List HistoryRow :=
  (tables.materializations.filter fun materialization =>
      !(tables.requests.any fun request =>
        request.analysisId.isSome && request.analysisId = materialization.analysisId)).flatMap
    fun materialization =>
      (tables.details materialization.jobId materialization.jobRevisionId).map fun details =>
        { activityKind := .control
          activityId := materialization.analysisId.getD
            ("control:" ++ materialization.jobId ++ ":" ++ materialization.jobRevisionId)
          jobId := materialization.jobId
          jobRevisionId := materialization.jobRevisionId
          jobTitle := details.sourceName
          runId := none
          analysisId := materialization.analysisId
          planId := materialization.planId
          state := materialization.state
          startedUtc := materialization.startedUtc
          finishedUtc := some materialization.completedUtc
          plannedOperations := materialization.operationCount
          plannedBytes := materialization.plannedBytes
          warningCount := tables.issueCount materialization.analysisId false
          errorCount := tables.issueCount materialization.analysisId true
          triggerType := "INITIAL_JOB_SETUP" }

/-- The rows of `_list_requested_control_rows`. -/
def requestedControlRows (tables : HistoryTables) : List HistoryRow :=
  tables.requests.flatMap fun request =>
    (tables.details request.jobId request.jobRevisionId).map fun details =>
      { activityKind := .control
        activityId := request.requestId
        jobId := request.jobId
        jobRevisionId := request.jobRevisionId
        jobTitle := details.sourceName
        runId := none
        analysisId := request.analysisId
        planId := request.planId
        state := request.state
        startedUtc := request.startedUtc.getD request.requestedUtc
        finishedUtc := request.completedUtc
        plannedOperations := request.operationCount
        plannedBytes := request.plannedBytes
        warningCount := tables.issueCount request.analysisId false
        errorCount := tables.issueCount request.analysisId true
        triggerType := "MANUAL_BACKUP_CHECK" }

/-- The rows of `_list_backup_rows`. -/
def backupRows (tables : HistoryTables) : List HistoryRow :=
  tables.runs.flatMap fun run =>
    (tables.details run.jobId run.jobRevisionId).map fun details =>
      { activityKind := .backup
        activityId := run.id
        jobId := run.jobId
        jobRevisionId := run.jobRevisionId
        jobTitle := details.sourceName
        runId := some run.id
        analysisId := none
        planId := some run.planId
        state := run.state
        startedUtc := run.startedUtc
        finishedUtc := run.finishedUtc
        plannedOperations := run.plannedOperations
        plannedBytes := run.plannedBytes
        warningCount := run.warningCount
        errorCount := run.errorCount
        triggerType := run.triggerType }

/-- `DESC` of a text. -/
def descending {α : Type} (text : α → String) (a b : α) : Ordering := compareOn text b a

instance {α : Type} (text : α → String) : Std.TransCmp (descending text) :=
  inferInstanceAs (Std.TransCmp fun a b => compareOn text b a)

/-- The order of the activities in Python: start, kind and id, the greatest first. -/
instance : Ord HistoryCursor where
  compare := compareLex (descending HistoryCursor.startedUtc) (compareLex
    (descending fun cursor => cursor.activityKind.value) (descending HistoryCursor.activityId))

instance : Std.TransOrd HistoryCursor :=
  inferInstanceAs (Std.TransCmp (compareLex (descending HistoryCursor.startedUtc) (compareLex
    (descending fun cursor => cursor.activityKind.value) (descending HistoryCursor.activityId))))

def HistoryRow.cursor (row : HistoryRow) : HistoryCursor where
  startedUtc := row.startedUtc
  activityKind := row.activityKind
  activityId := row.activityId

abbrev timelineOrder : HistoryRow → HistoryRow → Ordering := compareOn HistoryRow.cursor

abbrev sourceOrder : HistoryRow → HistoryRow → Ordering :=
  compareLex (descending HistoryRow.startedUtc) (descending HistoryRow.activityId)

def historyScope (kind : ActivityKind) (after : Option HistoryCursor) (jobId : Option String)
    (row : HistoryRow) : Bool :=
  jobId.all (fun jobId => row.jobId = jobId) &&
    after.all fun after =>
      if kind = after.activityKind then
        row.startedUtc < after.startedUtc ||
          (row.startedUtc = after.startedUtc && row.activityId < after.activityId)
      else if kind.value < after.activityKind.value then row.startedUtc ≤ after.startedUtc
      else row.startedUtc < after.startedUtc

def selectRows (kind : ActivityKind) (limit : Int) (after : Option HistoryCursor)
    (jobId : Option String) (rows : List HistoryRow) : List HistoryRow :=
  (orderBy sourceOrder (rows.filter (historyScope kind after jobId))).take limit.toNat

structure HistoryActivity extends HistoryRow where
  completedOperations : Int
  completedBytes : Int
  targets : List HistoryTarget
  deriving DecidableEq

def HistoryTables.targets (tables : HistoryTables) (row : HistoryRow) : List HistoryTarget :=
  if row.activityKind = .backup then
    (orderBy (compareOn RunTargetRow.id) (tables.runTargets.filter fun target =>
      target.runId = row.activityId)).map RunTargetRow.toHistoryTarget
  else
    (orderBy (compareOn BindingRow.ordinal) (tables.bindings.filter fun binding =>
      binding.jobId = row.jobId && binding.jobRevisionId = row.jobRevisionId &&
        binding.role = "TARGET")).map fun binding =>
      { endpointId := binding.endpointId
        endpointRevisionId := binding.endpointRevisionId
        state := binding.registrationState
        plannedOperations := 0
        completedOperations := 0
        plannedBytes := 0
        completedBytes := 0
        warningCount := 0
        errorCount := if binding.registrationState = "BLOCKED" then 1 else 0 }

def HistoryTables.activity (tables : HistoryTables) (row : HistoryRow) : HistoryActivity where
  toHistoryRow := row
  completedOperations := ((tables.targets row).map HistoryTarget.completedOperations).sum
  completedBytes := ((tables.targets row).map HistoryTarget.completedBytes).sum
  targets := tables.targets row

def selectedRows (tables : HistoryTables) (filter : ActivityFilter)
    (select : ActivityKind → List HistoryRow → List HistoryRow) : List HistoryRow :=
  (if filter = .backups then []
    else select .control (initialControlRows tables) ++
      select .control (requestedControlRows tables)) ++
    if filter = .controls then [] else select .backup (backupRows tables)

def listRecentHistoryActivities (tables : HistoryTables) (limit : Int)
    (after : Option HistoryCursor) (offset : Int) (filter : ActivityFilter)
    (jobId : Option String) : Except String (List HistoryActivity) := do
  check (!(limit < 1 || offset < 0)) "HISTORY_QUERY_BOUNDS_INVALID"
  let rows := orderBy timelineOrder (selectedRows tables filter fun kind rows =>
    selectRows kind (limit + offset) after jobId rows)
  return ((rows.drop offset.toNat).take limit.toNat).map tables.activity

structure HistoryTimelinePage where
  limit : Int
  offset : Int
  hasMore : Bool
  readModelAvailable : Bool
  activityFilter : ActivityFilter
  jobId : Option String
  nextCursor : Option HistoryCursor
  activities : List HistoryActivity

def queryHistoryTimeline (store : Option HistoryTables) (limit : Option Int)
    (after : Option CursorDict) (offset : Option Int) (filter jobId : Option String) :
    Except String HistoryTimelinePage := do
  let (pageLimit, pageOffset) ← normalizeBounds limit offset
  let normalizedAfter ← after.mapM normalizeCursor
  check (!(normalizedAfter.isSome && offset.isSome)) "HISTORY_TIMELINE_CURSOR_OFFSET_AMBIGUOUS"
  let activityFilter ← normalizeActivityFilter filter
  let normalizedJobId ← normalizeJobId jobId
  match store with
  | none =>
    return {
      limit := pageLimit, offset := pageOffset, hasMore := false, readModelAvailable := false
      activityFilter, jobId := normalizedJobId, nextCursor := none, activities := [] }
  | some tables =>
    let rows ← listRecentHistoryActivities tables (pageLimit + 1) normalizedAfter pageOffset
      activityFilter normalizedJobId
    let activities := rows.take pageLimit.toNat
    let hasMore := decide (pageLimit < rows.length)
    return {
      limit := pageLimit, offset := pageOffset, hasMore, readModelAvailable := true
      activityFilter, jobId := normalizedJobId
      nextCursor := if hasMore then activities.getLast?.map fun activity =>
        activity.toHistoryRow.cursor else none
      activities }

def timeline (tables : HistoryTables) (filter : ActivityFilter) (jobId : Option String) :
    List HistoryRow :=
  (selectedRows tables filter fun _ rows => rows).filter fun row =>
    jobId.all fun jobId => row.jobId = jobId

def pastCursor (after : HistoryCursor) (row : HistoryRow) : Bool :=
  historyScope row.activityKind (some after) none row

theorem ActivityKind.value_inj {a b : ActivityKind} (h : a.value = b.value) : a = b := by
  cases a <;> cases b <;> first | rfl | simp [ActivityKind.value] at h

theorem descending_eq_lt {α : Type} {text : α → String} {a b : α} :
    descending text a b = .lt ↔ text b < text a := text_compare_eq_lt

theorem descending_eq_eq {α : Type} {text : α → String} {a b : α} :
    descending text a b = .eq ↔ text a = text b :=
  text_compare_eq_eq.trans eq_comm

variable {a b : HistoryCursor}

theorem compare_eq_lt : compare a b = .lt ↔
    b.startedUtc < a.startedUtc ∨ a.startedUtc = b.startedUtc ∧
      (b.activityKind.value < a.activityKind.value ∨ a.activityKind.value = b.activityKind.value ∧
        b.activityId < a.activityId) := by
  rw [show compare a b = ((descending HistoryCursor.startedUtc a b).then
    ((descending (fun cursor => cursor.activityKind.value) a b).then
      (descending HistoryCursor.activityId a b))) from rfl]
  simp only [Ordering.then_eq_lt, descending_eq_lt, descending_eq_eq]

theorem compare_eq_eq (h : compare a b = .eq) : a = b := by
  rw [show compare a b = ((descending HistoryCursor.startedUtc a b).then
    ((descending (fun cursor => cursor.activityKind.value) a b).then
      (descending HistoryCursor.activityId a b))) from rfl] at h
  simp only [Ordering.then_eq_eq, descending_eq_eq] at h
  obtain ⟨hstarted, hkind, hid⟩ := h
  have hkind := ActivityKind.value_inj hkind
  cases a
  cases b
  simp_all

theorem sourceOrder_eq {a b : HistoryRow} (h : a.activityKind = b.activityKind) :
    sourceOrder a b = timelineOrder a b := by
  have hkind : descending (fun cursor : HistoryCursor => cursor.activityKind.value)
      a.cursor b.cursor = .eq := descending_eq_eq.mpr (congrArg ActivityKind.value h)
  rw [show timelineOrder a b = ((descending HistoryCursor.startedUtc a.cursor b.cursor).then
    ((descending (fun cursor => cursor.activityKind.value) a.cursor b.cursor).then
      (descending HistoryCursor.activityId a.cursor b.cursor))) from rfl, hkind]
  rfl

theorem pastCursor_iff {after : HistoryCursor} {row : HistoryRow} :
    pastCursor after row = true ↔ compare after row.cursor = .lt := by
  rw [compare_eq_lt, pastCursor, historyScope]
  simp only [Option.all_none, Bool.true_and, Option.all_some, HistoryRow.cursor]
  by_cases hkind : row.activityKind = after.activityKind
  · have hvalue : ¬ row.activityKind.value < after.activityKind.value := by
      rw [hkind]
      exact String.lt_irrefl _
    rw [if_pos hkind]
    simp only [Bool.or_eq_true, Bool.and_eq_true, decide_eq_true_eq, hkind, true_and,
      String.lt_irrefl, false_or]
    exact or_congr_right (and_congr_left' eq_comm)
  · have hne : after.activityKind.value ≠ row.activityKind.value := fun h =>
      hkind (ActivityKind.value_inj h).symm
    rw [if_neg hkind]
    by_cases hlt : row.activityKind.value < after.activityKind.value
    · rw [if_pos hlt]
      simp only [decide_eq_true_eq, hlt, true_or, and_true]
      constructor
      · intro hle
        rcases SortKeys.text_trichotomy row.startedUtc after.startedUtc with hlt | heq | hgt
        · exact .inl hlt
        · exact .inr heq.symm
        · exact absurd hgt (String.not_lt.mpr hle)
      · rintro (hlt | heq)
        · exact String.not_lt.mp (String.lt_asymm hlt)
        · exact String.not_lt.mp (heq ▸ String.lt_irrefl _)
    · rw [if_neg hlt]
      simp [hlt, hne]

theorem pastCursor_mono {after : HistoryCursor} {a b : HistoryRow} (h : precedes timelineOrder a b)
    (ha : pastCursor after a = true) : pastCursor after b = true :=
  pastCursor_iff.mpr (Std.TransCmp.lt_of_lt_of_isLE (pastCursor_iff.mp ha) h)

theorem initialControlRows_kind {tables : HistoryTables} {row : HistoryRow}
    (h : row ∈ initialControlRows tables) : row.activityKind = .control := by
  obtain ⟨_, -, hrow⟩ := List.mem_flatMap.mp h
  obtain ⟨_, -, rfl⟩ := List.mem_map.mp hrow
  rfl

theorem requestedControlRows_kind {tables : HistoryTables} {row : HistoryRow}
    (h : row ∈ requestedControlRows tables) : row.activityKind = .control := by
  obtain ⟨_, -, hrow⟩ := List.mem_flatMap.mp h
  obtain ⟨_, -, rfl⟩ := List.mem_map.mp hrow
  rfl

theorem backupRows_kind {tables : HistoryTables} {row : HistoryRow}
    (h : row ∈ backupRows tables) : row.activityKind = .backup := by
  obtain ⟨_, -, hrow⟩ := List.mem_flatMap.mp h
  obtain ⟨_, -, rfl⟩ := List.mem_map.mp hrow
  rfl

def inScope (after : Option HistoryCursor) (jobId : Option String) (row : HistoryRow) : Bool :=
  jobId.all (fun jobId => row.jobId = jobId) && after.all fun after => pastCursor after row

theorem agree_selectRows {kind : ActivityKind} {limit : Int} {after : Option HistoryCursor}
    {jobId : Option String} {rows : List HistoryRow}
    (hkind : ∀ row ∈ rows, row.activityKind = kind) :
    Agree timelineOrder limit.toNat (selectRows kind limit after jobId rows)
      (rows.filter (inScope after jobId)) := by
  have hfilter : rows.filter (historyScope kind after jobId) =
      rows.filter (inScope after jobId) := by
    refine List.filter_congr fun row hrow => ?_
    rw [← hkind row hrow]
    rfl
  have horder : orderBy sourceOrder (rows.filter (inScope after jobId)) =
      orderBy timelineOrder (rows.filter (inScope after jobId)) := by
    refine orderBy_congr fun a ha b hb => sourceOrder_eq ?_
    rw [hkind a (List.mem_of_mem_filter ha), hkind b (List.mem_of_mem_filter hb)]
  rw [selectRows, hfilter, horder]
  exact Agree.take _ _

theorem agree_selected {tables : HistoryTables} {filter : ActivityFilter} {limit : Int}
    {after : Option HistoryCursor} {jobId : Option String} :
    Agree timelineOrder limit.toNat
      (selectedRows tables filter fun kind rows => selectRows kind limit after jobId rows)
      ((timeline tables filter jobId).filter fun row =>
        after.all fun after => pastCursor after row) := by
  have hinitial := @agree_selectRows .control limit after jobId _
    fun _ => @initialControlRows_kind tables _
  have hrequested := @agree_selectRows .control limit after jobId _
    fun _ => @requestedControlRows_kind tables _
  have hbackup := @agree_selectRows .backup limit after jobId _
    fun _ => @backupRows_kind tables _
  have hscope : (fun row => (after.all fun after => pastCursor after row) &&
      jobId.all fun jobId => row.jobId = jobId) = inScope after jobId :=
    funext fun row => Bool.and_comm _ _
  rw [timeline, List.filter_filter, hscope]
  cases filter with
  | all =>
    simp only [selectedRows, reduceCtorEq, if_false, List.filter_append]
    exact (hinitial.append hrequested).append hbackup
  | controls =>
    simp only [selectedRows, reduceCtorEq, if_false, if_true, List.append_nil, List.filter_append]
    exact hinitial.append hrequested
  | backups =>
    simp only [selectedRows, reduceCtorEq, if_false, if_true, List.nil_append]
    exact hbackup

def rowsBehind (tables : HistoryTables) (filter : ActivityFilter) (jobId : Option String) :
    Option HistoryCursor → Except String (List HistoryRow) :=
  rowsPast timelineOrder (timeline tables filter jobId)
    (fun cursor => normalizeCursor cursor.toDict) pastCursor

def timelinePages (tables : HistoryTables) (limit : Int) (filter jobId : Option String)
    (after : Option HistoryCursor) : Except String (List HistoryActivity × Option HistoryCursor) :=
  (queryHistoryTimeline (some tables) (some limit) (after.map HistoryCursor.toDict) none filter
    jobId).map fun page => (page.activities, page.nextCursor)

theorem listRecentHistoryActivities_eq {tables : HistoryTables} {limit : Int}
    {after : Option HistoryCursor} {filter : ActivityFilter} {jobId : Option String}
    (hlimit : 1 ≤ limit) :
    listRecentHistoryActivities tables limit after 0 filter jobId =
      .ok (((orderBy timelineOrder ((timeline tables filter jobId).filter fun row =>
        after.all fun after => pastCursor after row)).take limit.toNat).map tables.activity) := by
  have hbounds : (!(decide (limit < 1) || decide ((0 : Int) < 0))) = true := by
    simp only [Bool.not_eq_true', Bool.or_eq_false_iff, decide_eq_false_iff_not]
    omega
  have hagree := @agree_selected tables filter (limit + 0) after jobId
  rw [Agree, Int.add_zero] at hagree
  rw [listRecentHistoryActivities, hbounds, Int.add_zero, ← hagree]
  rfl

variable {tables : HistoryTables} {filterText jobText : Option String} {filter : ActivityFilter}
  {jobId : Option String}

theorem queryHistoryTimeline_eq {limit : Int} (hlimit : 1 ≤ limit ∧ limit ≤ 25)
    (hfilter : normalizeActivityFilter filterText = .ok filter)
    (hjob : normalizeJobId jobText = .ok jobId) {dict : Option CursorDict}
    {after : Option HistoryCursor} (hafter : dict.mapM normalizeCursor = .ok after)
    {rows : List HistoryRow} (hrows : orderBy timelineOrder ((timeline tables filter jobId).filter
      fun row => after.all fun after => pastCursor after row) = rows) :
    (queryHistoryTimeline (some tables) (some limit) dict none filterText jobText).map
        (fun page => (page.activities, page.nextCursor)) =
      .ok ((cut HistoryRow.cursor limit.toNat (rows.take (limit.toNat + 1))).1.map tables.activity,
        (cut HistoryRow.cursor limit.toNat (rows.take (limit.toNat + 1))).2) := by
  have hbounds : normalizeBounds (some limit) none = .ok (limit, 0) := by
    simp [normalizeBounds, hlimit.1, hlimit.2, check]
    rfl
  have hlist := @listRecentHistoryActivities_eq tables (limit + 1) after filter jobId (by omega)
  have htoNat : (limit + 1).toNat = limit.toNat + 1 := by omega
  rw [hrows, htoNat] at hlist
  have hmore : (limit < (((rows.take (limit.toNat + 1)).map tables.activity).length : Int)) ↔
      limit.toNat < (rows.take (limit.toNat + 1)).length := by
    rw [List.length_map]
    omega
  rw [queryHistoryTimeline, hbounds]
  simp only [hafter, hfilter, hjob, hlist, bind, Except.bind, pure, Except.pure, Except.map,
    Option.isSome_none, Bool.and_false, Bool.not_false, check, if_true]
  rw [cut, ← List.map_take]
  by_cases hlong : limit.toNat < (rows.take (limit.toNat + 1)).length
  · rw [if_pos hlong, decide_eq_true (hmore.mpr hlong), if_pos rfl, List.getLast?_map,
      Option.map_map]
    rfl
  · rw [if_neg hlong, decide_eq_false fun h => hlong (hmore.mp h), if_neg Bool.false_ne_true]

theorem timelinePages_eq {limit : Int} (hlimit : 1 ≤ limit ∧ limit ≤ 25)
    (hfilter : normalizeActivityFilter filterText = .ok filter)
    (hjob : normalizeJobId jobText = .ok jobId) : timelinePages tables limit filterText jobText =
      mapPage tables.activity (page (rowsBehind tables filter jobId) HistoryRow.cursor
        limit.toNat) := by
  have hbounds : normalizeBounds (some limit) none = .ok (limit, 0) := by
    simp [normalizeBounds, hlimit.1, hlimit.2, check]
    rfl
  funext after
  cases after with
  | none =>
    rw [timelinePages, queryHistoryTimeline_eq hlimit hfilter hjob rfl rfl]
    simp only [Option.all_none, List.filter_true]
    rfl
  | some cursor =>
    cases hcursor : normalizeCursor cursor.toDict with
    | error code =>
      have hafter : (some cursor.toDict).mapM normalizeCursor = .error code := by
        rw [Option.mapM_some, hcursor]
        rfl
      rw [timelinePages, queryHistoryTimeline, hbounds, mapPage, page, rowsBehind, rowsPast,
        hcursor, Option.map_some]
      simp only [hafter, bind, Except.bind, Except.map]
    | ok normalized =>
      have hafter : (some cursor.toDict).mapM normalizeCursor = .ok (some normalized) := by
        rw [Option.mapM_some, hcursor]
        rfl
      rw [timelinePages, Option.map_some, queryHistoryTimeline_eq hlimit hfilter hjob hafter rfl,
        mapPage, page, rowsBehind, rowsPast, hcursor]
      rfl

end MediaSync.History
