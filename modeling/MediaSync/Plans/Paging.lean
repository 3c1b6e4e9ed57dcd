import MediaSync.Foundation.Keyset
import MediaSync.Plans.Checksum
import Mathlib.Order.Compare

/-! The operations and the endpoints of a stored plan, read page by page. -/
namespace MediaSync.Plans
open Text Keyset

structure PlanOperationCursor where
  executionPhase : Int
  stableOrderKey : String
  operationId : String
  deriving DecidableEq

/-- The filter and the limit of a `PlanOperationPageQuery`. -/
structure PlanOperationPageQuery where
  planId : String
  limit : Int
  after : Option PlanOperationCursor := none
  targetEndpointId : Option String := none
  riskLevels : List RiskLevel := []
  duplicateGroupId : Option String := none

def validatePlanOperationPageQuery (query : PlanOperationPageQuery) : Except String Unit := do
  check (nonBlank query.planId) "PLAN_OPERATION_READ_REQUIRES_PLAN_ID"
  check (1 ≤ query.limit) "PLAN_OPERATION_READ_LIMIT_MUST_BE_POSITIVE"
  check (query.limit ≤ 1000) "PLAN_OPERATION_READ_LIMIT_TOO_LARGE"
  check (query.targetEndpointId.all nonBlank) "PLAN_OPERATION_READ_TARGET_MUST_NOT_BE_BLANK"
  check (query.duplicateGroupId.all fun group => nonBlank group && group.length ≤ 512)
    "PLAN_OPERATION_READ_DUPLICATE_GROUP_INVALID"
  check (query.riskLevels.length ≤ 4) "PLAN_OPERATION_READ_RISK_FILTER_TOO_LARGE"
  check query.riskLevels.Nodup "PLAN_OPERATION_READ_RISK_FILTER_DUPLICATED"
  check (query.after.all fun after => 0 ≤ after.executionPhase)
    "PLAN_OPERATION_READ_CURSOR_PHASE_MUST_BE_NON_NEGATIVE"
  check (query.after.all fun after => nonBlank after.stableOrderKey)
    "PLAN_OPERATION_READ_CURSOR_REQUIRES_STABLE_ORDER_KEY"
  check (query.after.all fun after => nonBlank after.operationId)
    "PLAN_OPERATION_READ_CURSOR_REQUIRES_OPERATION_ID"

structure PlanEndpointCursor where
  role : EndpointRole
  targetOrdinal : Option Int
  endpointId : String
  deriving DecidableEq

structure PlanEndpointPageQuery where
  planId : String
  limit : Int
  after : Option PlanEndpointCursor := none

def validatePlanEndpointPageQuery (query : PlanEndpointPageQuery) : Except String Unit := do
  check (nonBlank query.planId) "PLAN_ENDPOINT_READ_REQUIRES_PLAN_ID"
  check (1 ≤ query.limit) "PLAN_ENDPOINT_READ_LIMIT_MUST_BE_POSITIVE"
  check (query.limit ≤ 100) "PLAN_ENDPOINT_READ_LIMIT_TOO_LARGE"
  check (query.after.all fun after => after.targetOrdinal.all fun ordinal => 0 ≤ ordinal)
    "PLAN_ENDPOINT_READ_CURSOR_TARGET_ORDINAL_MUST_BE_NON_NEGATIVE"
  check (query.after.all fun after => nonBlank after.endpointId)
    "PLAN_ENDPOINT_READ_CURSOR_REQUIRES_ENDPOINT_ID"

structure DuplicateGroupRow where
  id : String
  analysisId : String

structure DuplicateMemberRow where
  groupId : String
  endpointId : String
  relativePath : String

structure PlanStore where
  plans : List PlanRecord
  duplicateGroups : List DuplicateGroupRow := []
  duplicateMembers : List DuplicateMemberRow := []

namespace PlanStore

variable (store : PlanStore)

def withId (planId : String) : List PlanRecord := store.plans.filter (·.planId = planId)

def inDuplicateGroup (plan : PlanRecord) (groupId : String) (operation : PlanOperation) : Bool :=
  store.duplicateGroups.any fun group =>
    group.analysisId = plan.analysisId && group.id = groupId &&
      store.duplicateMembers.any fun member =>
        member.groupId = group.id &&
          ((operation.targetEndpointId = some member.endpointId &&
              operation.targetRelativePath = some member.relativePath) ||
            (operation.sourceRelativePath = some member.relativePath &&
              plan.endpoints.any fun endpoint =>
                endpoint.role = .source && endpoint.endpointId = member.endpointId))

/-- The filter clauses of `_plan_operation_page_sql`. -/
def operationFilter (query : PlanOperationPageQuery) (plan : PlanRecord)
    (operation : PlanOperation) : Bool :=
  query.targetEndpointId.all (fun endpointId => operation.targetEndpointId = some endpointId) &&
    (query.riskLevels.isEmpty || query.riskLevels.contains operation.riskLevel) &&
    query.duplicateGroupId.all fun groupId => store.inDuplicateGroup plan groupId operation

end PlanStore

/-- The cursor clause of `_plan_operation_page_sql`. -/
def afterOperation (after : PlanOperationCursor) (operation : PlanOperation) : Bool :=
  after.executionPhase < operation.executionPhase ||
    (operation.executionPhase = after.executionPhase &&
      after.stableOrderKey < operation.stableOrderKey) ||
    (operation.executionPhase = after.executionPhase &&
      operation.stableOrderKey = after.stableOrderKey &&
      after.operationId < operation.operationId)

/-- `ORDER BY execution_phase, stable_order_key, operation_id`. -/
abbrev operationPageOrder : PlanOperation → PlanOperation → Ordering :=
  compareLex (compareOn PlanOperation.executionPhase)
    (compareLex (compareOn PlanOperation.stableOrderKey) (compareOn PlanOperation.operationId))

/-- The ordinal that the cursor clause compares: `COALESCE(target_ordinal, -1)`. -/
def coalesceOrdinal (ordinal : Option Int) : Int := ordinal.getD (-1)

/-- The cursor clause of `_plan_endpoint_page_sql`. -/
def afterEndpoint (after : PlanEndpointCursor) (endpoint : PlanEndpoint) : Bool :=
  after.role.value < endpoint.role.value ||
    (endpoint.role.value = after.role.value &&
      coalesceOrdinal after.targetOrdinal < coalesceOrdinal endpoint.targetOrdinal) ||
    (endpoint.role.value = after.role.value &&
      coalesceOrdinal endpoint.targetOrdinal = coalesceOrdinal after.targetOrdinal &&
      after.endpointId < endpoint.endpointId)

/-- `ORDER BY role, target_ordinal, endpoint_id`; rows without an ordinal come first. -/
abbrev endpointPageOrder : PlanEndpoint → PlanEndpoint → Ordering :=
  compareLex (compareOn fun endpoint => endpoint.role.value)
    (compareLex (compareOn PlanEndpoint.targetOrdinal) (compareOn PlanEndpoint.endpointId))

structure PlanOperationReadModel where
  operationId : String
  operationType : OperationType
  sequenceNo : Int
  executionPhase : Int
  stableOrderKey : String
  targetPreconditionKind : PreconditionKind
  reasonCode : String
  riskLevel : RiskLevel
  targetRelativePath : Option String
  plannedBytes : Int
  targetEndpointId : Option String
  deferredOperationType : Option OperationType
  deriving DecidableEq

def PlanOperation.readModel (operation : PlanOperation) : PlanOperationReadModel where
  operationId := operation.operationId
  operationType := operation.operationType
  sequenceNo := operation.sequenceNo
  executionPhase := operation.executionPhase
  stableOrderKey := operation.stableOrderKey
  targetPreconditionKind := operation.targetPreconditionKind
  reasonCode := operation.reasonCode
  riskLevel := operation.riskLevel
  targetRelativePath := operation.targetRelativePath
  plannedBytes := operation.plannedBytes
  targetEndpointId := operation.targetEndpointId
  deferredOperationType := operation.deferredOperationType

def PlanOperation.cursor (operation : PlanOperation) : PlanOperationCursor where
  executionPhase := operation.executionPhase
  stableOrderKey := operation.stableOrderKey
  operationId := operation.operationId

def PlanEndpoint.cursor (endpoint : PlanEndpoint) : PlanEndpointCursor where
  role := endpoint.role
  targetOrdinal := endpoint.targetOrdinal
  endpointId := endpoint.endpointId

/-- `PlanRiskLevel(text)`. -/
def RiskLevel.parse (text : String) : Option RiskLevel :=
  [RiskLevel.low, .medium, .high, .blocked].find? fun risk => risk.value = text

def riskCount (counts : Payload) (risk : RiskLevel) : Except String (String × Int) :=
  match Json.get counts risk.value with
  | none => .ok (risk.value, 0)
  | some (.int value) =>
    if value < 0 then .error "SEALED_PLAN_RISK_SUMMARY_INVALID" else .ok (risk.value, value)
  | some _ => .error "SEALED_PLAN_RISK_SUMMARY_INVALID"

def loadPlanRiskSummary (plans : List PlanRecord) :
    Except String (List (String × Int) × Option RiskLevel) :=
  match plans.head? with
  | none => .ok ([], none)
  | some plan => do
    match Json.get plan.riskSummary.fields "counts" with
    | some (.obj rawCounts) =>
      let counts ← [RiskLevel.low, .medium, .high, .blocked].mapM (riskCount rawCounts)
      match Json.get plan.riskSummary.fields "highest" with
      | some (.str text) =>
        match RiskLevel.parse text with
        | some highest => return (counts, some highest)
        | none => throw "SEALED_PLAN_RISK_SUMMARY_INVALID"
      | _ => throw "SEALED_PLAN_RISK_SUMMARY_INVALID"
    | _ => throw "SEALED_PLAN_RISK_SUMMARY_INVALID"

structure PlanOperationPage where
  planId : String
  operations : List PlanOperationReadModel
  nextCursor : Option PlanOperationCursor
  hasMore : Bool
  riskCounts : List (String × Int)
  highestRisk : Option RiskLevel
  targetEndpointIds : List String

structure PlanEndpointPage where
  planId : String
  endpoints : List PlanEndpoint
  nextCursor : Option PlanEndpointCursor
  hasMore : Bool

def PlanStore.operationsAfter (store : PlanStore) (query : PlanOperationPageQuery) :
    List PlanOperation :=
  orderBy operationPageOrder ((store.withId query.planId).flatMap fun plan =>
    plan.operations.filter fun operation =>
      store.operationFilter query plan operation &&
        query.after.all fun after => afterOperation after operation)

def pagePlanOperations (store : PlanStore) (query : PlanOperationPageQuery) :
    Except String PlanOperationPage := do
  validatePlanOperationPageQuery query
  let page := fetchPage PlanOperation.cursor query.limit (store.operationsAfter query)
  let (riskCounts, highestRisk) ← loadPlanRiskSummary (store.withId query.planId)
  let targets := (store.withId query.planId).flatMap fun plan =>
    plan.endpoints.filter (·.role = .targetWritable)
  return {
    planId := query.planId
    operations := page.rows.map PlanOperation.readModel
    nextCursor := page.nextCursor
    hasMore := page.hasMore
    riskCounts
    highestRisk
    targetEndpointIds := (orderBy (compareLex (compareOn PlanEndpoint.targetOrdinal)
      (compareOn PlanEndpoint.endpointId)) targets).map PlanEndpoint.endpointId }

def PlanStore.endpointsAfter (store : PlanStore) (query : PlanEndpointPageQuery) :
    List PlanEndpoint :=
  orderBy endpointPageOrder ((store.withId query.planId).flatMap fun plan =>
    plan.endpoints.filter fun endpoint =>
      query.after.all fun after => afterEndpoint after endpoint)

def pagePlanEndpoints (store : PlanStore) (query : PlanEndpointPageQuery) :
    Except String PlanEndpointPage := do
  validatePlanEndpointPageQuery query
  let page := fetchPage PlanEndpoint.cursor query.limit (store.endpointsAfter query)
  return {
    planId := query.planId
    endpoints := page.rows
    nextCursor := page.nextCursor
    hasMore := page.hasMore }

variable {a b : PlanOperation}

theorem operationPageOrder_eq_lt : operationPageOrder a b = .lt ↔
    a.executionPhase < b.executionPhase ∨ a.executionPhase = b.executionPhase ∧
      (a.stableOrderKey < b.stableOrderKey ∨ a.stableOrderKey = b.stableOrderKey ∧
        a.operationId < b.operationId) := by
  rw [show operationPageOrder a b = ((compare a.executionPhase b.executionPhase).then
    ((compare a.stableOrderKey b.stableOrderKey).then (compare a.operationId b.operationId)))
    from rfl]
  simp only [Ordering.then_eq_lt, text_compare_eq_lt, text_compare_eq_eq, Int.compare_eq_lt,
    Int.compare_eq_eq]

theorem afterOperation_cursor {operation other : PlanOperation} :
    afterOperation operation.cursor other = true ↔ operationPageOrder operation other = .lt := by
  rw [operationPageOrder_eq_lt]
  simp only [afterOperation, Bool.or_eq_true, Bool.and_eq_true, decide_eq_true_eq]
  simp only [PlanOperation.cursor]
  constructor
  · rintro ((hphase | ⟨hphase, hkey⟩) | ⟨⟨hphase, hkey⟩, hid⟩)
    · exact .inl hphase
    · exact .inr ⟨hphase.symm, .inl hkey⟩
    · exact .inr ⟨hphase.symm, .inr ⟨hkey.symm, hid⟩⟩
  · rintro (hphase | ⟨hphase, hkey | ⟨hkey, hid⟩⟩)
    · exact .inl (.inl hphase)
    · exact .inl (.inr ⟨hphase.symm, hkey⟩)
    · exact .inr ⟨⟨hphase.symm, hkey.symm⟩, hid⟩

theorem endpointPageOrder_eq_lt {a b : PlanEndpoint} : endpointPageOrder a b = .lt ↔
    a.role.value < b.role.value ∨ a.role.value = b.role.value ∧
      (compare a.targetOrdinal b.targetOrdinal = .lt ∨ a.targetOrdinal = b.targetOrdinal ∧
        a.endpointId < b.endpointId) := by
  rw [show endpointPageOrder a b = ((compare a.role.value b.role.value).then
    ((compare a.targetOrdinal b.targetOrdinal).then (compare a.endpointId b.endpointId)))
    from rfl]
  simp only [Ordering.then_eq_lt, text_compare_eq_lt, Std.LawfulEqCmp.compare_eq_iff_eq]

def OrdinalValid (ordinal : Option Int) : Prop := ordinal.all (fun ordinal => 0 ≤ ordinal) = true

theorem coalesceOrdinal_lt {a b : Option Int} (ha : OrdinalValid a) (hb : OrdinalValid b) :
    coalesceOrdinal a < coalesceOrdinal b ↔ compare a b = .lt := by
  cases a with
  | none =>
    cases b with
    | none => simp [coalesceOrdinal, compare]
    | some b =>
      have hb : 0 ≤ b := by simpa [OrdinalValid] using hb
      simp [coalesceOrdinal, compare]
      omega
  | some a =>
    have ha : 0 ≤ a := by simpa [OrdinalValid] using ha
    cases b with
    | none =>
      simp [coalesceOrdinal, compare]
      omega
    | some b =>
      simp only [coalesceOrdinal, Option.getD_some]
      exact Int.compare_eq_lt.symm

theorem coalesceOrdinal_inj {a b : Option Int} (ha : OrdinalValid a) (hb : OrdinalValid b) :
    coalesceOrdinal a = coalesceOrdinal b ↔ a = b := by
  cases a <;> cases b <;> simp_all [coalesceOrdinal, OrdinalValid] <;> omega

theorem afterEndpoint_cursor {endpoint other : PlanEndpoint}
    (hendpoint : OrdinalValid endpoint.targetOrdinal) (hother : OrdinalValid other.targetOrdinal) :
    afterEndpoint endpoint.cursor other = true ↔ endpointPageOrder endpoint other = .lt := by
  rw [endpointPageOrder_eq_lt]
  simp only [afterEndpoint, Bool.or_eq_true, Bool.and_eq_true, decide_eq_true_eq]
  simp only [PlanEndpoint.cursor, coalesceOrdinal_lt hendpoint hother,
    coalesceOrdinal_inj hother hendpoint]
  constructor
  · rintro ((hrole | ⟨hrole, hordinal⟩) | ⟨⟨hrole, hordinal⟩, hid⟩)
    · exact .inl hrole
    · exact .inr ⟨hrole.symm, .inl hordinal⟩
    · exact .inr ⟨hrole.symm, .inr ⟨hordinal.symm, hid⟩⟩
  · rintro (hrole | ⟨hrole, hordinal | ⟨hordinal, hid⟩⟩)
    · exact .inl (.inl hrole)
    · exact .inl (.inr ⟨hrole.symm, hordinal⟩)
    · exact .inr ⟨⟨hrole.symm, hordinal.symm⟩, hid⟩

theorem operationPageOrder_eq_eq (h : operationPageOrder a b = .eq) :
    a.operationId = b.operationId := by
  rw [show operationPageOrder a b = ((compare a.executionPhase b.executionPhase).then
    ((compare a.stableOrderKey b.stableOrderKey).then (compare a.operationId b.operationId)))
    from rfl] at h
  exact text_compare_eq_eq.mp (Ordering.then_eq_eq.mp (Ordering.then_eq_eq.mp h).2).2

theorem endpointPageOrder_eq_eq {a b : PlanEndpoint} (h : endpointPageOrder a b = .eq) :
    a.endpointId = b.endpointId := by
  rw [show endpointPageOrder a b = ((compare a.role.value b.role.value).then
    ((compare a.targetOrdinal b.targetOrdinal).then (compare a.endpointId b.endpointId)))
    from rfl] at h
  exact text_compare_eq_eq.mp (Ordering.then_eq_eq.mp (Ordering.then_eq_eq.mp h).2).2

def operationPages (store : PlanStore) (query : PlanOperationPageQuery)
    (after : Option PlanOperationCursor) :
    Except String (List PlanOperationReadModel × Option PlanOperationCursor) :=
  (pagePlanOperations store { query with after }).map fun page =>
    (page.operations, page.nextCursor)

def endpointPages (store : PlanStore) (query : PlanEndpointPageQuery)
    (after : Option PlanEndpointCursor) :
    Except String (List PlanEndpoint × Option PlanEndpointCursor) :=
  (pagePlanEndpoints store { query with after }).map fun page => (page.endpoints, page.nextCursor)

def listedOperations (store : PlanStore) (query : PlanOperationPageQuery) (plan : PlanRecord) :
    List PlanOperationReadModel :=
  (orderBy operationPageOrder (plan.operations.filter (store.operationFilter query plan))).map
    PlanOperation.readModel

/-- `_load_plan_risk_summary` reads the summary of the plan. -/
def RiskSummaryReadable (plan : PlanRecord) : Prop :=
  ∃ summary, loadPlanRiskSummary [plan] = .ok summary

section
variable {interpreter : Interpreter} {request : PlanRequest} {plan : PlanRecord}
  {store : PlanStore}

variable {query : PlanOperationPageQuery}

theorem validate_operationCursor {operation : PlanOperation}
    (hquery : validatePlanOperationPageQuery { query with after := none } = .ok ())
    (hphase : 0 ≤ operation.executionPhase) (hkey : nonBlank operation.stableOrderKey = true)
    (hid : nonBlank operation.operationId = true) :
    validatePlanOperationPageQuery { query with after := some operation.cursor } = .ok () := by
  simp only [validatePlanOperationPageQuery, unit_bind_eq_ok, check_eq_ok, Option.all_none,
    and_true] at hquery
  simp only [validatePlanOperationPageQuery, unit_bind_eq_ok, check_eq_ok, Option.all_some,
    PlanOperation.cursor]
  obtain ⟨hplan, hpositive, hmax, htarget, hgroup, hlevels, hnodup⟩ := hquery
  exact ⟨hplan, hpositive, hmax, htarget, hgroup, hlevels, hnodup, by simpa using hphase, hkey,
    hid⟩

theorem operationsAfter_eq (hstored : store.withId query.planId = [plan])
    (after : Option PlanOperationCursor) : store.operationsAfter { query with after } =
      orderBy operationPageOrder ((plan.operations.filter (store.operationFilter query plan)).filter
        fun operation => after.all fun after => afterOperation after operation) := by
  rw [PlanStore.operationsAfter, hstored, List.filter_filter]
  simp only [List.flatMap_cons, List.flatMap_nil, List.append_nil]
  congr 1
  exact List.filter_congr fun operation _ => Bool.and_comm _ _

theorem planOperations_enumerated_iff (hsealed : sealPlan interpreter request = .ok plan)
    (hstored : store.withId query.planId = [plan])
    (hquery : validatePlanOperationPageQuery { query with after := none } = .ok ()) :
    Enumerates (operationPages store query) none (listedOperations store query plan) ↔
      RiskSummaryReadable plan := by
  constructor
  · intro h
    cases hsummary : loadPlanRiskSummary [plan] with
    | ok summary => exact ⟨summary, hsummary⟩
    | error code =>
      refine absurd h (not_enumerates_of_error (e := code) ?_ _)
      simp only [operationPages, pagePlanOperations, hquery, hstored, hsummary, bind, Except.bind,
        Except.map]
  · rintro ⟨⟨counts, highest⟩, hsummary⟩
    have hlimit : 1 ≤ query.limit := by
      simp only [validatePlanOperationPageQuery, unit_bind_eq_ok, check_eq_ok] at hquery
      simpa using hquery.2.1
    have hdistinct := (Distinct.of_nodup (wellFormed_of_sealPlan hsealed).uniqueIds
      fun _ _ => operationPageOrder_eq_eq).filter (store.operationFilter query plan)
    refine enumerates_method
      (fun after => validatePlanOperationPageQuery { query with after }) afterOperation
      PlanOperation.cursor hlimit hdistinct hquery
      (fun operation hmem => ⟨?_, fun other _ => afterOperation_cursor⟩) fun after => ?_
    · have hchecked := operationChecked_of_sealPlan hsealed (List.mem_of_mem_filter hmem)
      exact validate_operationCursor hquery hchecked.executionPhase hchecked.stableOrderKey
        hchecked.operationId
    · rw [← operationsAfter_eq hstored, operationPages, pagePlanOperations]
      cases hvalid : validatePlanOperationPageQuery { query with after } with
      | error code => rfl
      | ok _ =>
        simp only [hstored, hsummary, bind, Except.bind, pure, Except.pure, Except.map]

theorem endpointChecked_of_sealPlan (h : sealPlan interpreter request = .ok plan) :
    (∀ endpoint ∈ plan.endpoints, EndpointChecked endpoint) ∧
      (plan.endpoints.map PlanEndpoint.endpointId).Nodup := by
  obtain ⟨-, hendpoints, -, -, rfl⟩ := sealPlan_eq_ok.mp h
  obtain ⟨hchecked, hids, -⟩ := validateEndpoints_eq_ok.mp hendpoints
  exact ⟨hchecked, hids⟩

variable {endpoint : PlanEndpoint}

theorem EndpointChecked.ordinalValid (h : EndpointChecked endpoint) :
    OrdinalValid endpoint.targetOrdinal := by
  by_cases hrole : endpoint.role = .targetWritable
  · have hwritable := h.writable hrole
    simp only [validateWritableTargetEndpoint, unit_bind_eq_ok, check_eq_ok] at hwritable
    have hordinal := hwritable.1
    cases hvalue : endpoint.targetOrdinal with
    | none => rfl
    | some ordinal => simpa [hvalue, OrdinalValid] using hordinal
  · exact h.other hrole

theorem validate_endpointCursor {query : PlanEndpointPageQuery}
    (hquery : validatePlanEndpointPageQuery { query with after := none } = .ok ())
    (hendpoint : EndpointChecked endpoint) :
    validatePlanEndpointPageQuery { query with after := some endpoint.cursor } = .ok () := by
  simp only [validatePlanEndpointPageQuery, unit_bind_eq_ok, check_eq_ok, Option.all_none,
    and_true] at hquery
  simp only [validatePlanEndpointPageQuery, unit_bind_eq_ok, check_eq_ok, Option.all_some,
    PlanEndpoint.cursor]
  obtain ⟨hplan, hpositive, hmax⟩ := hquery
  exact ⟨hplan, hpositive, hmax, hendpoint.ordinalValid, hendpoint.endpointId⟩

theorem planEndpoints_enumerated {query : PlanEndpointPageQuery}
    (hsealed : sealPlan interpreter request = .ok plan)
    (hstored : store.withId query.planId = [plan])
    (hquery : validatePlanEndpointPageQuery { query with after := none } = .ok ()) :
    Enumerates (endpointPages store query) none (orderBy endpointPageOrder plan.endpoints) := by
  obtain ⟨hchecked, hids⟩ := endpointChecked_of_sealPlan hsealed
  have hlimit : 1 ≤ query.limit := by
    simp only [validatePlanEndpointPageQuery, unit_bind_eq_ok, check_eq_ok] at hquery
    simpa using hquery.2.1
  rw [← List.map_id (orderBy endpointPageOrder plan.endpoints)]
  refine enumerates_method
    (fun after => validatePlanEndpointPageQuery { query with after }) afterEndpoint
    PlanEndpoint.cursor hlimit (Distinct.of_nodup hids fun _ _ => endpointPageOrder_eq_eq) hquery
    (fun endpoint hmem => ⟨validate_endpointCursor hquery (hchecked endpoint hmem),
      fun other hother => afterEndpoint_cursor (hchecked endpoint hmem).ordinalValid
        (hchecked other hother).ordinalValid⟩) fun after => ?_
  have hafter : store.endpointsAfter { query with after } =
      orderBy endpointPageOrder (plan.endpoints.filter fun endpoint =>
        after.all fun after => afterEndpoint after endpoint) := by
    rw [PlanStore.endpointsAfter, hstored]
    simp only [List.flatMap_cons, List.flatMap_nil, List.append_nil]
  rw [← hafter, endpointPages, pagePlanEndpoints]
  cases hvalid : validatePlanEndpointPageQuery { query with after } with
  | error code => rfl
  | ok _ => simp only [bind, Except.bind, pure, Except.pure, Except.map, List.map_id]

@[simp] theorem RiskLevel.parse_value (risk : RiskLevel) :
    RiskLevel.parse risk.value = some risk := by
  cases risk <;> rfl

def riskCounts (operations : List PlanOperation) : Payload :=
  [RiskLevel.low, .medium, .high, .blocked].map fun risk =>
    (risk.value, .int (operations.countP (·.riskLevel = risk)))

theorem riskCount_riskCounts (operations : List PlanOperation) (risk : RiskLevel) :
    riskCount (riskCounts operations) risk =
      .ok (risk.value, (operations.countP (·.riskLevel = risk) : Int)) := by
  have hget : Json.get (riskCounts operations) risk.value =
      some (.int (operations.countP (·.riskLevel = risk))) := by
    cases risk <;> rfl
  rw [riskCount, hget]
  exact if_neg (by omega)

theorem riskSummary_readable (operations : List PlanOperation)
    (h : plan.riskSummary = riskSummary operations) : RiskSummaryReadable plan := by
  have hcounts : Json.get (riskSummary operations).fields "counts" =
      some (.obj (riskCounts operations)) := rfl
  obtain ⟨highest, hhighest⟩ : ∃ highest : RiskLevel,
      Json.get (riskSummary operations).fields "highest" = some (.str highest.value) := ⟨_, rfl⟩
  simp only [RiskSummaryReadable, loadPlanRiskSummary, List.head?_cons, h, hcounts, hhighest,
    RiskLevel.parse_value, List.mapM_cons, List.mapM_nil, riskCount_riskCounts]
  exact ⟨_, rfl⟩

end

end MediaSync.Plans
