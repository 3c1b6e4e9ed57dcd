import MediaSync.History.TimelinePages
import MediaSync.Snapshots.Paging

/-! Plans, snapshots and the timeline are all read by following cursors. -/
namespace MediaSync.History
open Text Keyset Plans Snapshots

structure PlanPagesExact (store : PlanStore) (plan : PlanRecord) : Prop where
  operations : ∀ query : PlanOperationPageQuery, query.planId = plan.planId →
    validatePlanOperationPageQuery { query with after := none } = .ok () →
      Enumerates (operationPages store query) none (listedOperations store query plan)
  endpoints : ∀ query : PlanEndpointPageQuery, query.planId = plan.planId →
    validatePlanEndpointPageQuery { query with after := none } = .ok () →
      Enumerates (endpointPages store query) none (orderBy endpointPageOrder plan.endpoints)

structure SnapshotPagesExact (snapshots : List StoredSnapshot) (snapshot : StoredSnapshot) :
    Prop where
  entries : ∀ query : SnapshotEntryPageQuery, query.snapshotId = snapshot.snapshotId →
    validateSnapshotEntryPageQuery { query with after := none } = .ok () →
      Enumerates (entryPages snapshots query) none (orderBy entryOrder snapshot.entryModels)
  coverage : ∀ query : SnapshotCoveragePageQuery, query.snapshotId = snapshot.snapshotId →
    validateSnapshotCoveragePageQuery { query with after := none } = .ok () →
      Enumerates (coveragePages snapshots query) none
        (orderBy coverageOrder (snapshot.coverage.filter (coverageFilter query)))
  issues : ∀ query : SnapshotIssuePageQuery, query.snapshotId = snapshot.snapshotId →
    validateSnapshotIssuePageQuery { query with after := none } = .ok () →
      Enumerates (issuePages snapshots query) none
        (orderBy issueOrder (snapshot.issues.filter (issueFilter query)))
  filterDecisions : ∀ query : SnapshotFilterDecisionPageQuery,
    query.snapshotId = snapshot.snapshotId →
    validateSnapshotFilterDecisionPageQuery { query with after := none } = .ok () →
      Enumerates (filterDecisionPages snapshots query) none (orderBy filterDecisionOrder
        (snapshot.filterDecisions.filter (filterDecisionFilter query)))

theorem snapshotPagesExact {snapshots : List StoredSnapshot} {snapshot : StoredSnapshot}
    (hstored : snapshots.filter (·.snapshotId = snapshot.snapshotId) = [snapshot]) :
    SnapshotPagesExact snapshots snapshot where
  entries query hid := entries_enumerated (by rw [hid, hstored])
  coverage query hid := coverage_enumerated (by rw [hid, hstored])
  issues query hid := issues_enumerated (by rw [hid, hstored])
  filterDecisions query hid := filterDecisions_enumerated (by rw [hid, hstored])

theorem planPagesExact_iff {interpreter : Interpreter} {request : PlanRequest} {plan : PlanRecord}
    {store : PlanStore} (hsealed : sealPlan interpreter request = .ok plan)
    (hstored : store.withId plan.planId = [plan]) :
    PlanPagesExact store plan ↔ RiskSummaryReadable plan := by
  constructor
  · intro h
    have hid : nonBlank plan.planId = true := by
      obtain ⟨hidentity, -, -, -, rfl⟩ := sealPlan_eq_ok.mp hsealed
      simp only [validatePlanIdentity, unit_bind_eq_ok, check_eq_ok] at hidentity
      exact hidentity.1
    have hquery :
        validatePlanOperationPageQuery { planId := plan.planId, limit := 1 } = .ok () := by
      simp [validatePlanOperationPageQuery, unit_bind_eq_ok, hid]
    exact (planOperations_enumerated_iff hsealed hstored hquery).mp
      (h.operations { planId := plan.planId, limit := 1 } rfl hquery)
  · intro h
    exact ⟨fun query hid hquery =>
        (planOperations_enumerated_iff hsealed (by rw [hid, hstored]) hquery).mpr h,
      fun query hid hquery => planEndpoints_enumerated hsealed (by rw [hid, hstored]) hquery⟩

/-- Following the cursors reads every row once, in order, exactly where the risk summary of the plan
can be read and the timeline is pageable. -/
theorem pages_exact_iff {interpreter : Interpreter} {request : PlanRequest} {plan : PlanRecord}
    {store : PlanStore} {snapshots : List StoredSnapshot} {snapshot : StoredSnapshot}
    {tables : HistoryTables} {filterText jobText : Option String} {filter : ActivityFilter}
    {jobId : Option String} (hsealed : sealPlan interpreter request = .ok plan)
    (hplan : store.withId plan.planId = [plan])
    (hsnapshot : snapshots.filter (·.snapshotId = snapshot.snapshotId) = [snapshot])
    (hfilter : normalizeActivityFilter filterText = .ok filter)
    (hjob : normalizeJobId jobText = .ok jobId) :
    (PlanPagesExact store plan ∧ SnapshotPagesExact snapshots snapshot ∧
      ∀ limit : Int, 1 ≤ limit → limit ≤ 25 →
        Enumerated tables limit filterText jobText (timeline tables filter jobId)) ↔
      RiskSummaryReadable plan ∧ Pageable (timeline tables filter jobId) := by
  rw [planPagesExact_iff hsealed hplan, enumerated_iff_pageable hfilter hjob]
  exact and_congr_right fun _ => and_iff_right (snapshotPagesExact hsnapshot)

def photosHistory : HistoryTables where
  materializations := [
    { materializationId := "plan-materialization:1", jobId := "job-1"
      jobRevisionId := "revision-1", analysisId := none, planId := none, state := "BLOCKED"
      startedUtc := "2026-03-01T10:00:00Z", completedUtc := "2026-03-01T10:00:00Z"
      operationCount := 0, plannedBytes := 0 }]
  requests := [
    { requestId := "request-1", jobId := "job-1", jobRevisionId := "revision-1"
      state := "SUCCEEDED", requestedUtc := "2026-03-01T11:00:00Z"
      startedUtc := some "2026-03-01T11:00:01Z", completedUtc := some "2026-03-01T11:00:05Z"
      analysisId := none, planId := some "plan-1", operationCount := 2, plannedBytes := 10 }]
  runs := [
    { id := "run-1", jobId := "job-1", jobRevisionId := "revision-1", planId := "plan-1"
      triggerType := "MANUAL_LOCAL_PREVIEW", state := "COMPLETED"
      startedUtc := "2026-03-01T11:00:01Z", finishedUtc := none, warningCount := 0
      errorCount := 0, plannedOperations := 2, plannedBytes := 10 }]
  revisions := [
    { jobId := "job-1", jobRevisionId := "revision-1", sourceName := "Photos" }]
  snapshots := []
  issues := []
  runTargets := []
  bindings := []

def photosSnapshot : StoredSnapshot where
  snapshotId := "snapshot-1"
  entries := [
    { entryId := "entry-1", relativePath := "a.jpg", comparisonKey := "a.jpg"
      objectType := "file" }]
  members := []
  coverage := []
  issues := []
  filterDecisions := []
  entryIds := by decide
  oneGroup := by decide
  coveragePaths := by decide
  issueIds := by decide
  decisionIds := by decide
  entriesValid := by decide +kernel
  coverageValid := by decide
  issuesValid := by decide
  decisionsValid := by decide

theorem photosHistory_pageable : Pageable (timeline photosHistory .all none) where
  distinct := by
    unfold Distinct
    decide +kernel
  readBack := by
    have hkept : ∀ row ∈ timeline photosHistory .all none,
        normalizeCursor row.cursor.toDict = .ok row.cursor := by
      decide +kernel
    exact fun row hrow _ => ⟨row.cursor, hkept row hrow, fun _ _ => Iff.rfl⟩

theorem pages_exact_photos : ∃ plan : PlanRecord,
    PlanPagesExact ⟨[plan], [], []⟩ plan ∧ SnapshotPagesExact [photosSnapshot] photosSnapshot ∧
      ∀ limit : Int, 1 ≤ limit → limit ≤ 25 →
        Enumerated photosHistory limit none none (timeline photosHistory .all none) := by
  obtain ⟨plan, hplan⟩ : Sealable ⟨⟨fun _ => none, fun _ => false⟩,
      following [] List.nodup_nil, 1000⟩ (lineOf 2).withoutDependencies :=
    lineOf_sealable (by decide) (by decide)
  have hsummary : RiskSummaryReadable plan := by
    obtain ⟨-, -, -, -, rfl⟩ := sealPlan_eq_ok.mp hplan
    exact riskSummary_readable _ rfl
  have hstored : (⟨[plan], [], []⟩ : PlanStore).withId plan.planId = [plan] := by
    simp [PlanStore.withId]
  exact ⟨plan, (pages_exact_iff hplan hstored (List.filter_eq_self.mpr (by simp)) rfl
    rfl).mpr
    ⟨hsummary, photosHistory_pageable⟩⟩

def tiedChecks : HistoryTables where
  materializations := [
    { materializationId := "plan-materialization:1", jobId := "job-1"
      jobRevisionId := "revision-1", analysisId := none, planId := none, state := "BLOCKED"
      startedUtc := "2026-03-01T10:00:00Z", completedUtc := "2026-03-01T10:00:00Z"
      operationCount := 0, plannedBytes := 0 },
    { materializationId := "plan-materialization:2", jobId := "job-1"
      jobRevisionId := "revision-1", analysisId := none, planId := none, state := "FAILED"
      startedUtc := "2026-03-01T10:00:00Z", completedUtc := "2026-03-01T10:00:00Z"
      operationCount := 0, plannedBytes := 0 }]
  requests := []
  runs := []
  revisions := [
    { jobId := "job-1", jobRevisionId := "revision-1", sourceName := "Photos" }]
  snapshots := []
  issues := []
  runTargets := []
  bindings := []

/-- One of the two checks is never listed. -/
theorem tied_checks_lose_one :
    ¬ Enumerated tiedChecks 1 none none (timeline tiedChecks .all none) := by
  intro h
  have htied : ¬ Distinct timelineOrder (timeline tiedChecks .all none) := by
    unfold Distinct
    decide +kernel
  exact htied (pageable_of_enumerated_one rfl rfl h).distinct

end MediaSync.History
