import MediaSync.Plans.Paging
import MediaSync.Snapshots.Sealing

/-! Entries, directory coverage, issues and filter decisions of a stored snapshot, read page by
page. -/
namespace MediaSync.Snapshots
open Text Keyset Plans

structure CollisionMemberRow where
  groupId : String
  fileEntryId : String
  deriving DecidableEq

structure SnapshotIssueRow extends SnapshotIssue where
  id : Int
  deriving DecidableEq

structure FilterDecisionRow extends SnapshotFilterDecision where
  id : Int
  deriving DecidableEq

structure StoredSnapshot where
  snapshotId : String
  entries : List SnapshotFileEntry
  members : List CollisionMemberRow
  coverage : List SnapshotDirectoryCoverage
  issues : List SnapshotIssueRow
  filterDecisions : List FilterDecisionRow
  entryIds : (entries.map SnapshotFileEntry.entryId).Nodup
  oneGroup : (members.map CollisionMemberRow.fileEntryId).Nodup
  coveragePaths : (coverage.map SnapshotDirectoryCoverage.relativePath).Nodup
  issueIds : (issues.map SnapshotIssueRow.id).Nodup
  decisionIds : (filterDecisions.map FilterDecisionRow.id).Nodup
  entriesValid : ∀ entry ∈ entries, nonBlank entry.entryId = true ∧
    validSnapshotPath entry.relativePath = true ∧ nonBlank entry.comparisonKey = true
  coverageValid : ∀ item ∈ coverage,
    validCoveragePath item.relativePath = true ∧ nonBlank item.comparisonKey = true
  issuesValid : ∀ issue ∈ issues, 0 < issue.id ∧
    validCoveragePath issue.relativePath = true ∧ nonBlank issue.issueType = true
  decisionsValid : ∀ decision ∈ filterDecisions, 0 < decision.id ∧
    validSnapshotPath decision.relativePath = true

/-- `SnapshotEntryReadModel`: an entry with the group that it is joined with. -/
structure EntryReadModel where
  entryId : String
  relativePath : String
  comparisonKey : String
  objectType : String
  sizeBytes : Option Int
  birthtimeNs : Option Int
  caseCollisionGroupId : Option String
  deriving DecidableEq

def SnapshotFileEntry.readModel (entry : SnapshotFileEntry) (groupId : Option String) :
    EntryReadModel where
  entryId := entry.entryId
  relativePath := entry.relativePath
  comparisonKey := entry.comparisonKey
  objectType := entry.objectType
  sizeBytes := entry.sizeBytes
  birthtimeNs := entry.birthtimeNs
  caseCollisionGroupId := groupId

def joinGroups (members : List CollisionMemberRow) (entry : SnapshotFileEntry) :
    List EntryReadModel :=
  match members.filter (·.fileEntryId = entry.entryId) with
  | [] => [entry.readModel none]
  | joined => joined.map fun member => entry.readModel (some member.groupId)

structure SnapshotEntryCursor where
  comparisonKey : String
  relativePath : String
  entryId : String

structure SnapshotCoverageCursor where
  comparisonKey : String
  relativePath : String

structure SnapshotIssueCursor where
  relativePath : String
  issueType : String
  issueId : Int

structure SnapshotFilterDecisionCursor where
  relativePath : String
  decisionId : Int

def EntryReadModel.cursor (entry : EntryReadModel) : SnapshotEntryCursor :=
  ⟨entry.comparisonKey, entry.relativePath, entry.entryId⟩

def SnapshotDirectoryCoverage.cursor (item : SnapshotDirectoryCoverage) : SnapshotCoverageCursor :=
  ⟨item.comparisonKey, item.relativePath⟩

def SnapshotIssueRow.cursor (issue : SnapshotIssueRow) : SnapshotIssueCursor :=
  ⟨issue.relativePath, issue.issueType, issue.id⟩

def FilterDecisionRow.cursor (decision : FilterDecisionRow) : SnapshotFilterDecisionCursor :=
  ⟨decision.relativePath, decision.id⟩

/-- The cursor clause of `_snapshot_entry_page_sql`. -/
def afterEntry (after : SnapshotEntryCursor) (entry : EntryReadModel) : Bool :=
  after.comparisonKey < entry.comparisonKey ||
    (entry.comparisonKey = after.comparisonKey && after.relativePath < entry.relativePath) ||
    (entry.comparisonKey = after.comparisonKey && entry.relativePath = after.relativePath &&
      after.entryId < entry.entryId)

/-- The cursor clause of `_snapshot_coverage_page_sql`. -/
def afterCoverage (after : SnapshotCoverageCursor) (item : SnapshotDirectoryCoverage) : Bool :=
  after.comparisonKey < item.comparisonKey ||
    (item.comparisonKey = after.comparisonKey && after.relativePath < item.relativePath)

/-- The cursor clause of `_snapshot_issue_page_sql`. -/
def afterIssue (after : SnapshotIssueCursor) (issue : SnapshotIssueRow) : Bool :=
  after.relativePath < issue.relativePath ||
    (issue.relativePath = after.relativePath && after.issueType < issue.issueType) ||
    (issue.relativePath = after.relativePath && issue.issueType = after.issueType &&
      after.issueId < issue.id)

/-- The cursor clause of `_snapshot_filter_decision_page_sql`. -/
def afterFilterDecision (after : SnapshotFilterDecisionCursor) (decision : FilterDecisionRow) :
    Bool :=
  after.relativePath < decision.relativePath ||
    (decision.relativePath = after.relativePath && after.decisionId < decision.id)

/-- `ORDER BY comparison_key, relative_path, id`. -/
abbrev entryOrder : EntryReadModel → EntryReadModel → Ordering :=
  compareLex (compareOn EntryReadModel.comparisonKey)
    (compareLex (compareOn EntryReadModel.relativePath) (compareOn EntryReadModel.entryId))

/-- `ORDER BY comparison_key, relative_path`. -/
abbrev coverageOrder : SnapshotDirectoryCoverage → SnapshotDirectoryCoverage → Ordering :=
  compareLex (compareOn SnapshotDirectoryCoverage.comparisonKey)
    (compareOn SnapshotDirectoryCoverage.relativePath)

/-- `ORDER BY relative_path, issue_type, id`. -/
abbrev issueOrder : SnapshotIssueRow → SnapshotIssueRow → Ordering :=
  compareLex (compareOn fun issue => issue.relativePath)
    (compareLex (compareOn fun issue => issue.issueType) (compareOn SnapshotIssueRow.id))

/-- `ORDER BY relative_path, id`. -/
abbrev filterDecisionOrder : FilterDecisionRow → FilterDecisionRow → Ordering :=
  compareLex (compareOn fun decision => decision.relativePath) (compareOn FilterDecisionRow.id)

structure SnapshotEntryPageQuery where
  snapshotId : String
  limit : Int
  after : Option SnapshotEntryCursor := none

structure SnapshotCoveragePageQuery where
  snapshotId : String
  limit : Int
  after : Option SnapshotCoverageCursor := none
  coverageStates : List String := []

structure SnapshotIssuePageQuery where
  snapshotId : String
  limit : Int
  after : Option SnapshotIssueCursor := none
  blockingOnly : Bool := false

structure SnapshotFilterDecisionPageQuery where
  snapshotId : String
  limit : Int
  after : Option SnapshotFilterDecisionCursor := none
  decisionStates : List String := []

def validateSnapshotPage (read snapshotId : String) (limit : Int) : Except String Unit := do
  check (nonBlank snapshotId) (read ++ "_REQUIRES_SNAPSHOT_ID")
  check (0 < limit) (read ++ "_LIMIT_MUST_BE_POSITIVE")
  check (limit ≤ 1000) (read ++ "_LIMIT_TOO_LARGE")

def validateSnapshotEntryPageQuery (query : SnapshotEntryPageQuery) : Except String Unit := do
  validateSnapshotPage "SNAPSHOT_READ" query.snapshotId query.limit
  check (query.after.all fun after => nonBlank after.comparisonKey)
    "SNAPSHOT_READ_CURSOR_REQUIRES_COMPARISON_KEY"
  check (query.after.all fun after => validSnapshotPath after.relativePath)
    "SNAPSHOT_READ_CURSOR_REQUIRES_RELATIVE_PATH"
  check (query.after.all fun after => nonBlank after.entryId)
    "SNAPSHOT_READ_CURSOR_REQUIRES_ENTRY_ID"

def validateCoverageStates : List String → List String → Except String Unit
  | _, [] => .ok ()
  | seen, state :: rest => do
    check (coverageStates.contains state) "SNAPSHOT_COVERAGE_READ_STATE_UNKNOWN"
    check (!seen.contains state) "SNAPSHOT_COVERAGE_READ_STATES_MUST_BE_UNIQUE"
    validateCoverageStates (state :: seen) rest

def validateSnapshotCoveragePageQuery (query : SnapshotCoveragePageQuery) :
    Except String Unit := do
  validateSnapshotPage "SNAPSHOT_COVERAGE_READ" query.snapshotId query.limit
  validateCoverageStates [] query.coverageStates
  check (query.after.all fun after => nonBlank after.comparisonKey)
    "SNAPSHOT_COVERAGE_READ_CURSOR_REQUIRES_COMPARISON_KEY"
  check (query.after.all fun after => validCoveragePath after.relativePath)
    "SNAPSHOT_COVERAGE_READ_CURSOR_REQUIRES_RELATIVE_PATH"

def validateSnapshotIssuePageQuery (query : SnapshotIssuePageQuery) : Except String Unit := do
  validateSnapshotPage "SNAPSHOT_ISSUE_READ" query.snapshotId query.limit
  check (query.after.all fun after => validCoveragePath after.relativePath)
    "SNAPSHOT_ISSUE_READ_CURSOR_REQUIRES_RELATIVE_PATH"
  check (query.after.all fun after => nonBlank after.issueType)
    "SNAPSHOT_ISSUE_READ_CURSOR_REQUIRES_TYPE"
  check (query.after.all fun after => 0 < after.issueId)
    "SNAPSHOT_ISSUE_READ_CURSOR_REQUIRES_POSITIVE_ID"

def filterDecisionStates : List String := ["INCLUDED", "EXCLUDED", "ERROR"]

def validateSnapshotFilterDecisionPageQuery (query : SnapshotFilterDecisionPageQuery) :
    Except String Unit := do
  validateSnapshotPage "SNAPSHOT_FILTER_READ" query.snapshotId query.limit
  check query.decisionStates.Nodup "SNAPSHOT_FILTER_READ_STATES_MUST_BE_UNIQUE"
  check (query.decisionStates.all filterDecisionStates.contains)
    "SNAPSHOT_FILTER_READ_STATE_UNKNOWN"
  check (query.after.all fun after => validSnapshotPath after.relativePath)
    "SNAPSHOT_FILTER_READ_CURSOR_REQUIRES_PATH"
  check (query.after.all fun after => 0 < after.decisionId)
    "SNAPSHOT_FILTER_READ_CURSOR_REQUIRES_POSITIVE_ID"

structure SnapshotPage (Row Cursor : Type) extends Page Row Cursor where
  snapshotId : String

def pageRows {Row Cursor : Type} (order : Row → Row → Ordering) (cursor : Row → Cursor)
    (past : Cursor → Row → Bool) (limit : Int) (after : Option Cursor) (rows : List Row) :
    Page Row Cursor :=
  fetchPage cursor limit (orderBy order (rows.filter fun row => after.all fun after =>
    past after row))

/-- The rows of `file_entries` with a snapshot's id, joined with their groups. -/
def entryRows (snapshots : List StoredSnapshot) (snapshotId : String) : List EntryReadModel :=
  (snapshots.filter (·.snapshotId = snapshotId)).flatMap fun snapshot =>
    snapshot.entries.flatMap (joinGroups snapshot.members)

def tableRows {Row : Type} (table : StoredSnapshot → List Row) (selected : Row → Bool)
    (snapshots : List StoredSnapshot) (snapshotId : String) : List Row :=
  ((snapshots.filter (·.snapshotId = snapshotId)).flatMap table).filter selected

def pageSnapshotEntries (snapshots : List StoredSnapshot) (query : SnapshotEntryPageQuery) :
    Except String (SnapshotPage EntryReadModel SnapshotEntryCursor) := do
  validateSnapshotEntryPageQuery query
  return {
    toPage := pageRows entryOrder EntryReadModel.cursor afterEntry query.limit query.after
      (entryRows snapshots query.snapshotId)
    snapshotId := query.snapshotId }

/-- The filter clause of `_snapshot_coverage_page_sql`. -/
def coverageFilter (query : SnapshotCoveragePageQuery) (item : SnapshotDirectoryCoverage) : Bool :=
  query.coverageStates.isEmpty || query.coverageStates.contains item.coverageState

def pageSnapshotDirectoryCoverage (snapshots : List StoredSnapshot)
    (query : SnapshotCoveragePageQuery) :
    Except String (SnapshotPage SnapshotDirectoryCoverage SnapshotCoverageCursor) := do
  validateSnapshotCoveragePageQuery query
  return {
    toPage := pageRows coverageOrder SnapshotDirectoryCoverage.cursor afterCoverage query.limit
      query.after (tableRows StoredSnapshot.coverage (coverageFilter query) snapshots
        query.snapshotId)
    snapshotId := query.snapshotId }

/-- The filter clause of `_snapshot_issue_page_sql`. -/
def issueFilter (query : SnapshotIssuePageQuery) (issue : SnapshotIssueRow) : Bool :=
  !query.blockingOnly || issue.blocksDestructiveActions

def pageSnapshotIssues (snapshots : List StoredSnapshot) (query : SnapshotIssuePageQuery) :
    Except String (SnapshotPage SnapshotIssueRow SnapshotIssueCursor) := do
  validateSnapshotIssuePageQuery query
  return {
    toPage := pageRows issueOrder SnapshotIssueRow.cursor afterIssue query.limit query.after
      (tableRows StoredSnapshot.issues (issueFilter query) snapshots query.snapshotId)
    snapshotId := query.snapshotId }

/-- The filter clause of `_snapshot_filter_decision_page_sql`. -/
def filterDecisionFilter (query : SnapshotFilterDecisionPageQuery) (decision : FilterDecisionRow) :
    Bool :=
  query.decisionStates.isEmpty || query.decisionStates.contains decision.decisionState

def pageSnapshotFilterDecisions (snapshots : List StoredSnapshot)
    (query : SnapshotFilterDecisionPageQuery) :
    Except String (SnapshotPage FilterDecisionRow SnapshotFilterDecisionCursor) := do
  validateSnapshotFilterDecisionPageQuery query
  return {
    toPage := pageRows filterDecisionOrder FilterDecisionRow.cursor afterFilterDecision query.limit
      query.after (tableRows StoredSnapshot.filterDecisions (filterDecisionFilter query) snapshots
        query.snapshotId)
    snapshotId := query.snapshotId }

theorem afterEntry_cursor {entry other : EntryReadModel} :
    afterEntry entry.cursor other = true ↔ entryOrder entry other = .lt := by
  rw [show entryOrder entry other = ((compare entry.comparisonKey other.comparisonKey).then
    ((compare entry.relativePath other.relativePath).then (compare entry.entryId other.entryId)))
    from rfl]
  simp only [afterEntry, Bool.or_eq_true, Bool.and_eq_true, decide_eq_true_eq,
    Ordering.then_eq_lt, text_compare_eq_lt, text_compare_eq_eq]
  simp only [EntryReadModel.cursor, @eq_comm _ other.comparisonKey, @eq_comm _ other.relativePath]
  tauto

theorem afterCoverage_cursor {item other : SnapshotDirectoryCoverage} :
    afterCoverage item.cursor other = true ↔ coverageOrder item other = .lt := by
  rw [show coverageOrder item other = ((compare item.comparisonKey other.comparisonKey).then
    (compare item.relativePath other.relativePath)) from rfl]
  simp only [afterCoverage, Bool.or_eq_true, Bool.and_eq_true, decide_eq_true_eq,
    Ordering.then_eq_lt, text_compare_eq_lt, text_compare_eq_eq]
  simp only [SnapshotDirectoryCoverage.cursor, @eq_comm _ other.comparisonKey]

theorem afterIssue_cursor {issue other : SnapshotIssueRow} :
    afterIssue issue.cursor other = true ↔ issueOrder issue other = .lt := by
  rw [show issueOrder issue other = ((compare issue.relativePath other.relativePath).then
    ((compare issue.issueType other.issueType).then (compare issue.id other.id))) from rfl]
  simp only [afterIssue, Bool.or_eq_true, Bool.and_eq_true, decide_eq_true_eq,
    Ordering.then_eq_lt, text_compare_eq_lt, text_compare_eq_eq, Int.compare_eq_lt]
  simp only [SnapshotIssueRow.cursor, @eq_comm _ other.relativePath, @eq_comm _ other.issueType]
  tauto

theorem afterFilterDecision_cursor {decision other : FilterDecisionRow} :
    afterFilterDecision decision.cursor other = true ↔
      filterDecisionOrder decision other = .lt := by
  rw [show filterDecisionOrder decision other =
    ((compare decision.relativePath other.relativePath).then (compare decision.id other.id))
    from rfl]
  simp only [afterFilterDecision, Bool.or_eq_true, Bool.and_eq_true, decide_eq_true_eq,
    Ordering.then_eq_lt, text_compare_eq_lt, text_compare_eq_eq, Int.compare_eq_lt]
  simp only [FilterDecisionRow.cursor, @eq_comm _ other.relativePath]

theorem entryOrder_eq_eq {a b : EntryReadModel} (h : entryOrder a b = .eq) :
    a.entryId = b.entryId :=
  text_compare_eq_eq.mp (Ordering.then_eq_eq.mp (Ordering.then_eq_eq.mp h).2).2

theorem coverageOrder_eq_eq {a b : SnapshotDirectoryCoverage} (h : coverageOrder a b = .eq) :
    a.relativePath = b.relativePath :=
  text_compare_eq_eq.mp (Ordering.then_eq_eq.mp h).2

theorem issueOrder_eq_eq {a b : SnapshotIssueRow} (h : issueOrder a b = .eq) : a.id = b.id :=
  Int.compare_eq_eq.mp (Ordering.then_eq_eq.mp (Ordering.then_eq_eq.mp h).2).2

theorem filterDecisionOrder_eq_eq {a b : FilterDecisionRow}
    (h : filterDecisionOrder a b = .eq) : a.id = b.id :=
  Int.compare_eq_eq.mp (Ordering.then_eq_eq.mp h).2

theorem joinGroups_entryId {members : List CollisionMemberRow}
    (h : (members.map CollisionMemberRow.fileEntryId).Nodup) (entry : SnapshotFileEntry) :
    ∃ groupId, joinGroups members entry = [entry.readModel groupId] := by
  cases hjoined : members.filter (·.fileEntryId = entry.entryId) with
  | nil => exact ⟨none, by rw [joinGroups, hjoined]⟩
  | cons member rest =>
    cases rest with
    | nil => exact ⟨some member.groupId, by rw [joinGroups, hjoined]; rfl⟩
    | cons other rest =>
      -- two rows for one entry repeat its id
      have hsame : ∀ row ∈ member :: other :: rest, row.fileEntryId = entry.entryId := by
        intro row hrow
        rw [← hjoined] at hrow
        simpa using List.of_mem_filter hrow
      have hnodup := (hjoined ▸ List.filter_sublist : (member :: other :: rest).Sublist members).map
        CollisionMemberRow.fileEntryId |>.nodup h
      rw [List.map_cons, List.map_cons, hsame member List.mem_cons_self,
        hsame other (List.mem_cons_of_mem _ List.mem_cons_self)] at hnodup
      simp at hnodup

namespace StoredSnapshot

variable (snapshot : StoredSnapshot)

def entryModels : List EntryReadModel := snapshot.entries.flatMap (joinGroups snapshot.members)

theorem entryModels_ids :
    snapshot.entryModels.map EntryReadModel.entryId =
      snapshot.entries.map SnapshotFileEntry.entryId := by
  rw [entryModels]
  induction snapshot.entries with
  | nil => rfl
  | cons entry rest ih =>
    obtain ⟨groupId, hjoined⟩ := joinGroups_entryId snapshot.oneGroup entry
    rw [List.flatMap_cons, hjoined, List.map_append, ih]
    rfl

theorem entryModels_valid {row : EntryReadModel} (h : row ∈ snapshot.entryModels) :
    nonBlank row.entryId = true ∧ validSnapshotPath row.relativePath = true ∧
      nonBlank row.comparisonKey = true := by
  obtain ⟨entry, hentry, hrow⟩ := List.mem_flatMap.mp h
  obtain ⟨groupId, hjoined⟩ := joinGroups_entryId snapshot.oneGroup entry
  obtain rfl := List.mem_singleton.mp (hjoined ▸ hrow)
  exact snapshot.entriesValid entry hentry

end StoredSnapshot

section
variable {snapshots : List StoredSnapshot} {snapshot : StoredSnapshot}

theorem enumerates_pageRows {Row Cursor : Type} {order : Row → Row → Ordering}
    [Std.TransCmp order] {cursor : Row → Cursor} {past : Cursor → Row → Bool} {limit : Int}
    {rows : List Row} (validate : Option Cursor → Except String Unit) (hlimit : 1 ≤ limit)
    (hdistinct : Distinct order rows) (hfirst : validate none = .ok ())
    (hcursor : ∀ row ∈ rows, validate (some (cursor row)) = .ok ())
    (hpast : ∀ {row other}, past (cursor row) other = true ↔ order row other = .lt)
    {method : Option Cursor → Except String (List Row × Option Cursor)}
    (hmethod : ∀ after, method after = (validate after).map fun _ =>
      ((pageRows order cursor past limit after rows).rows,
        (pageRows order cursor past limit after rows).nextCursor)) :
    Enumerates method none (orderBy order rows) := by
  rw [← List.map_id (orderBy order rows)]
  refine enumerates_method validate past cursor hlimit hdistinct hfirst
    (fun row hrow => ⟨hcursor row hrow, fun _ _ => hpast⟩) fun after => ?_
  simp only [hmethod, pageRows, List.map_id]

theorem validateSnapshotPage_limit {read snapshotId : String} {limit : Int}
    (h : validateSnapshotPage read snapshotId limit = .ok ()) : 1 ≤ limit := by
  simp only [validateSnapshotPage, unit_bind_eq_ok, check_eq_ok, decide_eq_true_eq] at h
  exact h.2.1

theorem tableRows_eq {Row : Type} (table : StoredSnapshot → List Row) {selected : Row → Bool}
    {snapshotId : String} (hstored : snapshots.filter (·.snapshotId = snapshotId) = [snapshot]) :
    tableRows table selected snapshots snapshotId = (table snapshot).filter selected := by
  rw [tableRows, hstored, List.flatMap_cons, List.flatMap_nil, List.append_nil]

def entryPages (snapshots : List StoredSnapshot) (query : SnapshotEntryPageQuery)
    (after : Option SnapshotEntryCursor) :
    Except String (List EntryReadModel × Option SnapshotEntryCursor) :=
  (pageSnapshotEntries snapshots { query with after }).map fun page => (page.rows, page.nextCursor)

theorem entries_enumerated {query : SnapshotEntryPageQuery}
    (hstored : snapshots.filter (·.snapshotId = query.snapshotId) = [snapshot])
    (hquery : validateSnapshotEntryPageQuery { query with after := none } = .ok ()) :
    Enumerates (entryPages snapshots query) none (orderBy entryOrder snapshot.entryModels) := by
  have hchecked := hquery
  simp only [validateSnapshotEntryPageQuery, unit_bind_eq_ok, check_eq_ok, Option.all_none,
    and_true] at hchecked
  have hids : (snapshot.entryModels.map EntryReadModel.entryId).Nodup := by
    rw [snapshot.entryModels_ids]
    exact snapshot.entryIds
  refine enumerates_pageRows
    (fun after => validateSnapshotEntryPageQuery { query with after })
    (validateSnapshotPage_limit hchecked) (Distinct.of_nodup hids fun _ _ => entryOrder_eq_eq)
    hquery (fun row hrow => ?_) afterEntry_cursor fun after => ?_
  · obtain ⟨hid, hpath, hkey⟩ := snapshot.entryModels_valid hrow
    simp only [validateSnapshotEntryPageQuery, unit_bind_eq_ok, check_eq_ok, Option.all_some]
    exact ⟨hchecked, hkey, hpath, hid⟩
  · have hrows : entryRows snapshots query.snapshotId = snapshot.entryModels := by
      rw [entryRows, hstored, List.flatMap_cons, List.flatMap_nil, List.append_nil]
      rfl
    rw [← hrows, entryPages, pageSnapshotEntries]
    cases hvalid : validateSnapshotEntryPageQuery { query with after } <;> rfl

def coveragePages (snapshots : List StoredSnapshot) (query : SnapshotCoveragePageQuery)
    (after : Option SnapshotCoverageCursor) :
    Except String (List SnapshotDirectoryCoverage × Option SnapshotCoverageCursor) :=
  (pageSnapshotDirectoryCoverage snapshots { query with after }).map fun page =>
    (page.rows, page.nextCursor)

theorem coverage_enumerated {query : SnapshotCoveragePageQuery}
    (hstored : snapshots.filter (·.snapshotId = query.snapshotId) = [snapshot])
    (hquery : validateSnapshotCoveragePageQuery { query with after := none } = .ok ()) :
    Enumerates (coveragePages snapshots query) none
      (orderBy coverageOrder (snapshot.coverage.filter (coverageFilter query))) := by
  have hchecked := hquery
  simp only [validateSnapshotCoveragePageQuery, unit_bind_eq_ok, check_eq_ok, Option.all_none,
    and_true] at hchecked
  refine enumerates_pageRows
    (fun after => validateSnapshotCoveragePageQuery { query with after })
    (validateSnapshotPage_limit hchecked.1)
    ((Distinct.of_nodup snapshot.coveragePaths fun _ _ => coverageOrder_eq_eq).filter _)
    hquery (fun row hrow => ?_) afterCoverage_cursor fun after => ?_
  · obtain ⟨hpath, hkey⟩ := snapshot.coverageValid row (List.mem_of_mem_filter hrow)
    simp only [validateSnapshotCoveragePageQuery, unit_bind_eq_ok, check_eq_ok, Option.all_some]
    exact ⟨hchecked.1, hchecked.2, hkey, hpath⟩
  · rw [← tableRows_eq StoredSnapshot.coverage hstored, coveragePages,
      pageSnapshotDirectoryCoverage]
    cases hvalid : validateSnapshotCoveragePageQuery { query with after } <;> rfl

def issuePages (snapshots : List StoredSnapshot) (query : SnapshotIssuePageQuery)
    (after : Option SnapshotIssueCursor) :
    Except String (List SnapshotIssueRow × Option SnapshotIssueCursor) :=
  (pageSnapshotIssues snapshots { query with after }).map fun page => (page.rows, page.nextCursor)

theorem issues_enumerated {query : SnapshotIssuePageQuery}
    (hstored : snapshots.filter (·.snapshotId = query.snapshotId) = [snapshot])
    (hquery : validateSnapshotIssuePageQuery { query with after := none } = .ok ()) :
    Enumerates (issuePages snapshots query) none
      (orderBy issueOrder (snapshot.issues.filter (issueFilter query))) := by
  have hchecked := hquery
  simp only [validateSnapshotIssuePageQuery, unit_bind_eq_ok, check_eq_ok, Option.all_none,
    and_true] at hchecked
  refine enumerates_pageRows
    (fun after => validateSnapshotIssuePageQuery { query with after })
    (validateSnapshotPage_limit hchecked)
    ((Distinct.of_nodup snapshot.issueIds fun _ _ => issueOrder_eq_eq).filter _)
    hquery (fun row hrow => ?_) afterIssue_cursor fun after => ?_
  · obtain ⟨hid, hpath, htype⟩ := snapshot.issuesValid row (List.mem_of_mem_filter hrow)
    simp only [validateSnapshotIssuePageQuery, unit_bind_eq_ok, check_eq_ok, Option.all_some]
    exact ⟨hchecked, hpath, htype, decide_eq_true hid⟩
  · rw [← tableRows_eq StoredSnapshot.issues hstored, issuePages, pageSnapshotIssues]
    cases hvalid : validateSnapshotIssuePageQuery { query with after } <;> rfl

def filterDecisionPages (snapshots : List StoredSnapshot) (query : SnapshotFilterDecisionPageQuery)
    (after : Option SnapshotFilterDecisionCursor) :
    Except String (List FilterDecisionRow × Option SnapshotFilterDecisionCursor) :=
  (pageSnapshotFilterDecisions snapshots { query with after }).map fun page =>
    (page.rows, page.nextCursor)

theorem filterDecisions_enumerated {query : SnapshotFilterDecisionPageQuery}
    (hstored : snapshots.filter (·.snapshotId = query.snapshotId) = [snapshot])
    (hquery : validateSnapshotFilterDecisionPageQuery { query with after := none } = .ok ()) :
    Enumerates (filterDecisionPages snapshots query) none (orderBy filterDecisionOrder
      (snapshot.filterDecisions.filter (filterDecisionFilter query))) := by
  have hchecked := hquery
  simp only [validateSnapshotFilterDecisionPageQuery, unit_bind_eq_ok, check_eq_ok,
    Option.all_none, and_true] at hchecked
  refine enumerates_pageRows
    (fun after => validateSnapshotFilterDecisionPageQuery { query with after })
    (validateSnapshotPage_limit hchecked.1)
    ((Distinct.of_nodup snapshot.decisionIds fun _ _ => filterDecisionOrder_eq_eq).filter _)
    hquery (fun row hrow => ?_) afterFilterDecision_cursor fun after => ?_
  · obtain ⟨hid, hpath⟩ := snapshot.decisionsValid row (List.mem_of_mem_filter hrow)
    simp only [validateSnapshotFilterDecisionPageQuery, unit_bind_eq_ok, check_eq_ok,
      Option.all_some]
    exact ⟨hchecked.1, hchecked.2.1, hchecked.2.2, hpath, decide_eq_true hid⟩
  · rw [← tableRows_eq StoredSnapshot.filterDecisions hstored, filterDecisionPages,
      pageSnapshotFilterDecisions]
    cases hvalid : validateSnapshotFilterDecisionPageQuery { query with after } <;> rfl

end

end MediaSync.Snapshots
