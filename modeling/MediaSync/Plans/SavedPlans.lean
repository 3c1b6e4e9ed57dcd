import MediaSync.Plans.Store

/-! A sealed plan that is saved is loaded with every column it was saved with, and its checksum
verifies. -/
namespace MediaSync.Plans
open Text

section

theorem foldl_map_insert {Item Row : Type} (statement : Item → PlanInsert) (row : Item → Row)
    (put : PlanTables → List Row → PlanTables) (hnil : ∀ tables, put tables [] = tables)
    (hput : ∀ tables item rows,
      put (tables.insert (statement item)) rows = put tables (row item :: rows))
    (items : List Item) (tables : PlanTables) :
    (items.map statement).foldl PlanTables.insert tables = put tables (items.map row) := by
  induction items generalizing tables with
  | nil => exact (hnil tables).symm
  | cons item rest ih => rw [List.map_cons, List.foldl_cons, ih, hput, List.map_cons]

variable (plan : PlanRecord) (tables : PlanTables)

def PlanRecord.saved : PlanTables where
  plans := tables.plans ++ [⟨plan.planId, plan.analysisId⟩]
  plannedOperations := tables.plannedOperations ++
    plan.operations.map (PlanOperation.plannedRow plan.planId)
  operationDependencies := tables.operationDependencies ++
    plan.dependencies.map (PlanDependency.row plan.planId)
  planEndpoints := tables.planEndpoints ++
    plan.endpoints.map (PlanEndpoint.row plan.planId plan.analysisId)
  operationDetails := tables.operationDetails ++
    plan.operations.map (PlanOperation.detailRow plan.planId)
  sealDetails := tables.sealDetails ++ [plan.sealRow]

theorem foldl_inserts : plan.inserts.foldl PlanTables.insert tables = plan.saved tables := by
  have hoperations := foldl_map_insert
    (fun operation : PlanOperation => .operation (operation.plannedRow plan.planId))
    (PlanOperation.plannedRow plan.planId)
    (fun tables rows => { tables with plannedOperations := tables.plannedOperations ++ rows })
    (by simp) (by simp [PlanTables.insert])
  have hdependencies := foldl_map_insert
    (fun dependency : PlanDependency => .dependency (dependency.row plan.planId))
    (PlanDependency.row plan.planId)
    (fun tables rows =>
      { tables with operationDependencies := tables.operationDependencies ++ rows })
    (by simp) (by simp [PlanTables.insert])
  have hendpoints := foldl_map_insert
    (fun endpoint : PlanEndpoint => .endpoint (endpoint.row plan.planId plan.analysisId))
    (PlanEndpoint.row plan.planId plan.analysisId)
    (fun tables rows => { tables with planEndpoints := tables.planEndpoints ++ rows })
    (by simp) (by simp [PlanTables.insert])
  have hdetails := foldl_map_insert
    (fun operation : PlanOperation => .detail (operation.detailRow plan.planId))
    (PlanOperation.detailRow plan.planId)
    (fun tables rows => { tables with operationDetails := tables.operationDetails ++ rows })
    (by simp) (by simp [PlanTables.insert])
  simp only [PlanRecord.inserts, List.foldl_append, List.foldl_cons, List.foldl_nil, hoperations,
    hdependencies, hendpoints, hdetails]
  rfl

end

section
variable {plan : PlanRecord} {tables : PlanTables}

theorem mapM_load {Row Item : Type} {load : Row → Except LoadRaised Item} {row : Item → Row}
    {items : List Item} (h : ∀ item ∈ items, load (row item) = .ok item) :
    (items.map row).mapM load = .ok items := by
  induction items with
  | nil => rfl
  | cons item rest ih =>
    obtain ⟨hfirst, hrest⟩ := List.forall_mem_cons.mp h
    rw [List.map_cons, List.mapM_cons, hfirst, ih hrest]
    rfl

theorem filter_saved {Row Item : Type} {planId : Row → String} {id : String} {rows : List Row}
    {row : Item → Row} (hnone : rows.filter (planId · = id) = [])
    (hrow : ∀ item, planId (row item) = id)
    (items : List Item) : (rows ++ items.map row).filter (planId · = id) = items.map row := by
  rw [List.filter_append, hnone, List.nil_append]
  refine List.filter_eq_self.mpr fun added hadded => ?_
  obtain ⟨item, -, rfl⟩ := List.mem_map.mp hadded
  exact decide_eq_true (hrow item)

theorem OperationType.load_value (operationType : OperationType) :
    OperationType.load operationType.value = .ok operationType := by
  cases operationType <;> decide

theorem PreconditionKind.load_value (kind : PreconditionKind) :
    PreconditionKind.load kind.value = .ok kind := by
  cases kind <;> decide

theorem RiskLevel.load_value (risk : RiskLevel) : RiskLevel.load risk.value = .ok risk := by
  cases risk <;> decide

theorem EndpointRole.load_value (role : EndpointRole) :
    EndpointRole.load role.value = .ok role := by
  cases role <;> decide

theorem load_endpointRow (planId analysisId : String) (endpoint : PlanEndpoint) :
    (endpoint.row planId analysisId).load = .ok endpoint := by
  simp only [PlanEndpointRow.load, PlanEndpoint.row, EndpointRole.load_value]
  rfl

theorem loadOperation_rows (planId : String) (operation : PlanOperation) :
    loadOperation (operation.detailRow planId, operation.plannedRow planId) = .ok operation := by
  have hdeferred : (operation.deferredOperationType.map OperationType.value).mapM
      OperationType.load = Except.ok operation.deferredOperationType := by
    cases operation.deferredOperationType with
    | none => rfl
    | some operationType =>
      simp only [Option.map_some, Option.mapM_some, OperationType.load_value]
      rfl
  simp only [loadOperation, PlanOperation.detailRow, PlanOperation.plannedRow,
    OperationType.load_value, PreconditionKind.load_value, RiskLevel.load_value, hdeferred]
  rfl

theorem filter_operationId {operations : List PlanOperation}
    (hunique : (operations.map PlanOperation.operationId).Nodup) {operation : PlanOperation}
    (hmem : operation ∈ operations) :
    operations.filter (fun other => decide (other.operationId = operation.operationId)) =
      [operation] := by
  have hnodup : operations.Nodup := List.Nodup.of_map _ hunique
  refine List.perm_singleton.mp ((List.perm_ext_iff_of_nodup (hnodup.filter _)
    (List.nodup_singleton operation)).mpr fun other => ?_)
  rw [List.mem_filter, List.mem_singleton, decide_eq_true_eq]
  constructor
  · rintro ⟨hother, heq⟩
    exact List.inj_on_of_nodup_map hunique hother hmem heq
  · rintro rfl
    exact ⟨hmem, rfl⟩

theorem joinedOperations_saved (hunique : (plan.operations.map PlanOperation.operationId).Nodup)
    (hdetails : tables.operationDetails.filter (·.planId = plan.planId) = [])
    (hplanned : tables.plannedOperations.filter (·.planId = plan.planId) = []) :
    (plan.saved tables).joinedOperations plan.planId = plan.operations.map fun operation =>
      (operation.detailRow plan.planId, operation.plannedRow plan.planId) := by
  have hjoin : ∀ operation ∈ plan.operations,
      (plan.saved tables).joinOperation (operation.detailRow plan.planId) =
        [(operation.detailRow plan.planId, operation.plannedRow plan.planId)] := by
    intro operation hmem
    have hold : (tables.plannedOperations.filter fun other =>
        decide (other.planId = plan.planId) && decide (other.id = operation.operationId)) = [] := by
      refine List.filter_eq_nil_iff.mpr fun other hother hboth => ?_
      exact List.filter_eq_nil_iff.mp hplanned other hother (Bool.and_eq_true_iff.mp hboth).1
    have hnew : ((plan.operations.map (PlanOperation.plannedRow plan.planId)).filter fun other =>
        decide (other.planId = plan.planId) && decide (other.id = operation.operationId)) =
        [operation.plannedRow plan.planId] := by
      rw [List.filter_map, show ((fun other : PlannedOperationRow =>
          decide (other.planId = plan.planId) && decide (other.id = operation.operationId)) ∘
            PlanOperation.plannedRow plan.planId) =
          fun other => decide (other.operationId = operation.operationId) from
        funext fun other => (congrArg (· && decide (other.operationId = operation.operationId))
          (decide_eq_true rfl)).trans (Bool.true_and _), filter_operationId hunique hmem]
      rfl
    show ((tables.plannedOperations ++ plan.operations.map
      (PlanOperation.plannedRow plan.planId)).filter fun other =>
        decide (other.planId = plan.planId) && decide (other.id = operation.operationId)).map
          (Prod.mk (operation.detailRow plan.planId)) = _
    rw [List.filter_append, hold, hnew]
    rfl
  have hrows : (plan.saved tables).operationDetails.filter (·.planId = plan.planId) =
      plan.operations.map (PlanOperation.detailRow plan.planId) :=
    filter_saved hdetails (fun _ => rfl) plan.operations
  rw [PlanTables.joinedOperations, hrows, List.flatMap_map]
  exact (List.flatMap_congr hjoin).trans List.map_eq_flatMap.symm

structure PlanRecord.Ordered (plan : PlanRecord) : Prop where
  endpoints : plan.endpoints.Pairwise endpointOrder
  operations : plan.operations.Pairwise operationOrder
  dependencies : plan.dependencies.Pairwise dependencyOrder
  ordinals : ∀ endpoint ∈ plan.endpoints,
    endpoint.targetOrdinal.all (fun ordinal => 0 ≤ ordinal) = true

theorem endpointRowOrder_row {planId analysisId : String} {a b : PlanEndpoint}
    (ha : a.targetOrdinal.all (fun ordinal => 0 ≤ ordinal) = true)
    (h : endpointOrder a b) :
    endpointRowOrder (a.row planId analysisId) (b.row planId analysisId) := by
  rcases h with hrole | ⟨hrole, hordinal⟩
  · exact .inl hrole
  refine .inr ⟨hrole, ?_⟩
  simp only [ordinalKey, PlanEndpoint.row] at hordinal ⊢
  cases hfirst : a.targetOrdinal with
  | none =>
    cases hsecond : b.targetOrdinal with
    | none =>
      rw [hfirst, hsecond] at hordinal
      exact .inr ⟨rfl, hordinal.elim (fun hlt => absurd hlt (Int.lt_irrefl _)) And.right⟩
    | some ordinal => exact .inl trivial
  | some ordinal =>
    rw [hfirst] at ha hordinal
    cases hsecond : b.targetOrdinal with
    | none =>
      rw [hsecond] at hordinal
      simp only [Option.all_some, decide_eq_true_eq, Option.getD_some, Option.getD_none]
        at ha hordinal
      omega
    | some other =>
      rw [hsecond] at hordinal
      exact hordinal.imp id fun h => ⟨congrArg some h.1, h.2⟩

theorem jsonObject_jsonDump (summary : Json.Mapping) : ∃ loaded : Json.Mapping,
    jsonObject (jsonDump summary) = .ok loaded ∧
      Json.obj loaded.fields = (Json.obj summary.fields).canonical := by
  have hread : Json.loads (jsonDump summary) = some (.obj
      ((Json.sortedFields summary.fields).map fun field => (field.1, field.2.canonical))) := by
    rw [jsonDump, ← Json.dumpWith_escape,
      Json.loads_dumpWith Json.escape_escapes summary.distinct, Json.canonical_obj]
  refine ⟨⟨_, Json.distinct_of_loads hread⟩, ?_, (Json.canonical_obj _).symm⟩
  unfold jsonObject
  split
  · rename_i fields hfields
    have heq := Json.obj.inj (Option.some.inj (hfields.symm.trans hread))
    subst heq
    rfl
  · rename_i hother
    exact absurd hread (hother _)

/-- `load_sealed_plan` returns the plan with every column, and its checksum verifies. -/
def PlanRecord.LoadsFrom (plan : PlanRecord) (tables : PlanTables) : Prop :=
  ∃ loaded, loadSealedPlan tables plan.planId = .ok (some loaded) ∧ plan.Same loaded ∧
    loaded.planChecksum = plan.planChecksum ∧ verifyPlanChecksum loaded = true

theorem loadsFrom_saved (htables : tables.Consistent)
    (hnew : plan.planId ∉ tables.plans.map PlanRow.id) (hordered : plan.Ordered)
    (hunique : (plan.operations.map PlanOperation.operationId).Nodup)
    (himmutable : plan.immutable = true) (hverified : plan.planChecksum = plan.checksum) :
    plan.LoadsFrom (plan.saved tables) := by
  obtain ⟨riskSummary, hsummary, hcanonical⟩ := jsonObject_jsonDump plan.riskSummary
  have hfound : (plan.saved tables).sealDetails.find? (·.planId = plan.planId) =
      some plan.sealRow := by
    have hnone := List.find?_eq_none.mpr (List.filter_eq_nil_iff.mp
      (filter_eq_nil_of_new htables.sealings hnew))
    rw [PlanRecord.saved, List.find?_append, hnone, Option.none_or]
    refine List.find?_cons_of_pos ?_
    exact decide_eq_true (rfl : plan.sealRow.planId = plan.planId)
  have hendpoints : loadEndpoints (plan.saved tables) plan.planId = .ok plan.endpoints := by
    have hrows : (plan.saved tables).planEndpoints.filter (·.planId = plan.planId) =
        plan.endpoints.map (PlanEndpoint.row plan.planId plan.analysisId) :=
      filter_saved (filter_eq_nil_of_new htables.endpoints hnew) (fun _ => rfl) plan.endpoints
    have hsorted : (plan.endpoints.map (PlanEndpoint.row plan.planId plan.analysisId)).Pairwise
        endpointRowOrder :=
      List.pairwise_map.mpr (hordered.endpoints.imp_of_mem fun ha _ hab =>
        endpointRowOrder_row (hordered.ordinals _ ha) hab)
    rw [loadEndpoints, hrows, hsorted.insertionSort_eq]
    exact mapM_load fun endpoint _ => load_endpointRow plan.planId plan.analysisId endpoint
  have hoperations : loadOperations (plan.saved tables) plan.planId = .ok plan.operations := by
    have hsorted : (plan.operations.map fun operation =>
        (operation.detailRow plan.planId, operation.plannedRow plan.planId)).Pairwise
          joinedOrder := List.pairwise_map.mpr (hordered.operations.imp id)
    rw [loadOperations, joinedOperations_saved hunique
        (filter_eq_nil_of_new htables.details hnew)
        (filter_eq_nil_of_new htables.operations hnew), hsorted.insertionSort_eq]
    exact mapM_load fun operation _ => loadOperation_rows plan.planId operation
  have hdependencies : loadDependencies (plan.saved tables) plan.planId = plan.dependencies := by
    have hrows : (plan.saved tables).operationDependencies.filter (·.planId = plan.planId) =
        plan.dependencies.map (PlanDependency.row plan.planId) :=
      filter_saved (filter_eq_nil_of_new htables.dependencies hnew) (fun _ => rfl)
        plan.dependencies
    have hsorted : (plan.dependencies.map (PlanDependency.row plan.planId)).Pairwise
        dependencyRowOrder := List.pairwise_map.mpr (hordered.dependencies.imp id)
    rw [loadDependencies, hrows, hsorted.insertionSort_eq, List.map_map]
    exact List.map_id _
  have hrisk : (Json.obj plan.riskSummary.fields).canonical =
      (Json.obj riskSummary.fields).canonical :=
    Json.dumpWith_injective Json.escape_escapes plan.riskSummary.distinct riskSummary.distinct
      (by rw [hcanonical, Json.dumpWith_canonical])
  have hsame : plan.Same { plan with riskSummary } := by
    constructor <;> first | rfl | exact hrisk
  refine ⟨{ plan with riskSummary }, ?_, hsame, rfl, ?_⟩
  · unfold loadSealedPlan
    rw [hfound]
    simp only [PlanRecord.sealRow, hsummary, hendpoints, hoperations, hdependencies]
    show Except.ok (some { plan with riskSummary, immutable := decide ((1 : Int) ≠ 0) }) = _
    rw [show decide ((1 : Int) ≠ 0) = plan.immutable from himmutable.symm]
  · rw [verifyPlanChecksum, decide_eq_true_eq, ← hsame.checksum]
    exact hverified

end

theorem ordered_of_sealPlan {interpreter : Interpreter} {request : PlanRequest} {plan : PlanRecord}
    (h : sealPlan interpreter request = .ok plan) : plan.Ordered := by
  obtain ⟨-, hendpoints, -, -, rfl⟩ := sealPlan_eq_ok.mp h
  refine ⟨List.pairwise_insertionSort endpointOrder _, List.pairwise_insertionSort operationOrder _,
    List.pairwise_insertionSort dependencyOrder _, fun endpoint hmem => ?_⟩
  have hchecked := (validateEndpoints_eq_ok.mp hendpoints).1 endpoint hmem
  by_cases hrole : endpoint.role = .targetWritable
  · have hwritable := hchecked.writable hrole
    simp only [validateWritableTargetEndpoint, unit_bind_eq_ok, check_eq_ok] at hwritable
    have hany := hwritable.1
    cases hordinal : endpoint.targetOrdinal with
    | none => rfl
    | some ordinal =>
      rw [hordinal] at hany
      exact hany
  · exact hchecked.other hrole

structure SavesExactly (keys : ReferencedKeys) (tables : PlanTables) (plan : PlanRecord) :
    Prop where
  loads : ∀ faults saved after,
    saveSealedPlan keys faults plan ⟨tables, saved⟩ = (.ok (), after) →
      plan.LoadsFrom after.current
  restores : ∀ faults raised after,
    saveSealedPlan keys faults plan ⟨tables, none⟩ = (.error raised, after) → after = ⟨tables, none⟩

section
variable {keys : ReferencedKeys} {tables : PlanTables} {plan : PlanRecord} {faults : Faults}

def savedStatements (keys : ReferencedKeys) (faults : Faults) (plan : PlanRecord)
    (idle : Bool) : Procedure PlanTables SaveRaised Unit := do
  boundary (idle && faults.beginning)
  executeAll keys faults.statement 0 plan.inserts
  boundary (idle && faults.commit)

theorem saveSealedPlan_eq (c : Session PlanTables) : saveSealedPlan keys faults plan c =
    Session.immediate SaveRaised.caught (savedStatements keys faults plan c.saved.isNone) c := rfl

theorem boundary_run (fails : Bool) (tables : PlanTables) :
    boundary fails tables = (if fails then .error .persistenceFailed else .ok (), tables) := by
  cases fails <;> rfl

theorem saved_of_ok {idle : Bool} {after : PlanTables}
    (h : savedStatements keys faults plan idle tables = (.ok (), after)) :
    Admitted keys tables plan.inserts ∧ after = plan.saved tables := by
  rcases Procedure.bind_cases (boundary (idle && faults.beginning)) (fun _ =>
    executeAll keys faults.statement 0 plan.inserts >>= fun _ =>
      boundary (idle && faults.commit)) tables with
    ⟨raised, m, -, hbind⟩ | ⟨⟨⟩, m, hfirst, hbind⟩
  · rw [savedStatements, hbind] at h
    cases h
  rw [savedStatements, hbind] at h
  obtain rfl : m = tables := by rw [boundary_run] at hfirst; exact (congrArg Prod.snd hfirst).symm
  rcases Procedure.bind_cases (executeAll keys faults.statement 0 plan.inserts)
    (fun _ => boundary (idle && faults.commit)) m with
    ⟨raised, m', -, hbind⟩ | ⟨⟨⟩, m', hrun, hbind⟩
  · rw [hbind] at h
    cases h
  rw [hbind, boundary_run] at h
  obtain rfl : m' = after := congrArg Prod.snd h
  obtain ⟨hadmitted, hafter⟩ := executeAll_ok hrun
  exact ⟨hadmitted, hafter.trans (foldl_inserts plan m)⟩

theorem savedStatements_overflow {idle : Bool}
    (h : (savedStatements keys faults plan idle tables).1 = .error .overflow) :
    Overflows keys tables plan.inserts := by
  rcases Procedure.bind_cases (boundary (idle && faults.beginning)) (fun _ =>
    executeAll keys faults.statement 0 plan.inserts >>= fun _ =>
      boundary (idle && faults.commit)) tables with
    ⟨raised, m, hfirst, hbind⟩ | ⟨⟨⟩, m, hfirst, hbind⟩
  · rw [savedStatements, hbind] at h
    rw [boundary_run] at hfirst
    split at hfirst <;> cases hfirst
    cases h
  rw [savedStatements, hbind] at h
  obtain rfl : m = tables := by rw [boundary_run] at hfirst; exact (congrArg Prod.snd hfirst).symm
  rcases Procedure.bind_cases (executeAll keys faults.statement 0 plan.inserts)
    (fun _ => boundary (idle && faults.commit)) m with
    ⟨raised, m', hrun, hbind⟩ | ⟨⟨⟩, m', hrun, hbind⟩
  · rw [hbind] at h
    exact @overflows_of_raised keys faults.statement plan.inserts 0 m (by rw [hrun]; exact h)
  · rw [hbind, boundary_run] at h
    split at h <;> cases h

theorem raises_of_overflows (h : Overflows keys tables plan.inserts) :
    ∃ after, saveSealedPlan keys {} plan ⟨tables, none⟩ =
      (.error .overflow, ⟨after, some tables⟩) := by
  have hrun := raised_of_overflows (n := 0) h
  rcases hexecuted : executeAll keys (fun _ => false) 0 plan.inserts tables with ⟨outcome, after⟩
  rw [hexecuted] at hrun
  obtain rfl : outcome = .error .overflow := hrun
  have hstatements : savedStatements keys {} plan true tables = (.error .overflow, after) := by
    rw [savedStatements, Procedure.bind_ok (boundary_run _ _)]
    exact Procedure.bind_error hexecuted
  refine ⟨after, ?_⟩
  show Session.immediate SaveRaised.caught (savedStatements keys {} plan true) ⟨tables, none⟩ = _
  simp [Session.immediate, hstatements, SaveRaised.caught]

end

/-- Of a sealed plan, everything that is saved is loaded as it was sealed and verifies. -/
theorem savesExactly_iff {interpreter : Interpreter} {request : PlanRequest} {plan : PlanRecord}
    (hsealed : sealPlan interpreter request = .ok plan) {keys : ReferencedKeys}
    {tables : PlanTables} (htables : tables.Consistent) :
    SavesExactly keys tables plan ↔ ¬ Overflows keys tables plan.inserts := by
  have hverified : plan.planChecksum = plan.checksum ∧ plan.immutable = true := by
    obtain ⟨-, -, -, -, rfl⟩ := sealPlan_eq_ok.mp hsealed
    exact ⟨rfl, rfl⟩
  constructor
  · intro hsaves hoverflows
    obtain ⟨after, hraised⟩ := raises_of_overflows hoverflows
    cases hsaves.restores {} _ _ hraised
  · intro hfits
    constructor
    · intro faults saved after hsaved
      rw [saveSealedPlan_eq] at hsaved
      have hreturned : (savedStatements keys faults plan saved.isNone tables).1 = .ok () := by
        rw [← @Session.immediate_fst _ _ _ _ SaveRaised.caught ⟨tables, saved⟩, hsaved]
      have hrun : savedStatements keys faults plan saved.isNone tables =
          (.ok (), after.current) := by
        rcases @Session.immediate_effect _ _ _
          (savedStatements keys faults plan saved.isNone) SaveRaised.caught ⟨tables, saved⟩ with
          hafter | ⟨⟨raised, hraised⟩, -⟩
        · rw [hsaved] at hafter
          exact Prod.ext hreturned hafter.symm
        · rw [hreturned] at hraised
          cases hraised
      obtain ⟨hadmitted, hafter⟩ := saved_of_ok hrun
      rw [hafter]
      refine loadsFrom_saved htables (fun hold => ?_) (ordered_of_sealPlan hsealed)
        (wellFormed_of_sealPlan hsealed).uniqueIds hverified.2 hverified.1
      -- the row of `plans` is the first that is inserted
      have hfirst := hadmitted.1
      simp only [accepts, Bool.and_eq_true, List.all_eq_true, decide_eq_true_eq] at hfirst
      obtain ⟨row, hmem, heq⟩ := List.mem_map.mp hold
      exact hfirst.1 row hmem heq
    · intro faults raised after hraised
      have hcaught : ∀ raised, (savedStatements keys faults plan true tables).1 = .error raised →
          raised.caught = true := by
        intro raised hraised
        cases raised with
        | persistenceFailed => rfl
        | overflow => exact absurd (savedStatements_overflow hraised) hfits
      rw [saveSealedPlan_eq] at hraised
      have hstopped : (savedStatements keys faults plan true tables).1 = .error raised := by
        rw [← @Session.immediate_fst _ _ _ _ SaveRaised.caught ⟨tables, none⟩]
        exact congrArg Prod.fst hraised
      have hrestored := Session.immediate_caught (c := ⟨tables, none⟩) rfl hstopped
        (hcaught raised hstopped)
      exact (congrArg Prod.snd hraised).symm.trans hrestored

def lineKeys : ReferencedKeys where
  analyses := ["analysis"]
  jobRevisions := [("job", "revision")]
  analysisTargets := []
  endpointRevisions := []
  snapshots := []

theorem two_operations_saved : ∃ plan,
    sealPlan ⟨⟨fun _ => none, fun _ => false⟩, following [] List.nodup_nil, 1000⟩
      (lineOf 2).withoutDependencies = .ok plan ∧
    SavesExactly lineKeys {} plan := by
  obtain ⟨plan, hplan⟩ := lineOf_sealable (by decide : 0 < 2) (by decide : 1 ≤ 1000)
  refine ⟨plan, hplan, (savesExactly_iff hplan ?_).mpr ?_⟩
  · constructor <;> simp
  · obtain ⟨-, -, -, -, rfl⟩ := sealPlan_eq_ok.mp hplan
    rintro ⟨before, statement, after, hsplit, hunfit, -⟩
    have hbinds : (PlanRecord.inserts { (lineOf 2).withoutDependencies.unsigned with
        planChecksum := (lineOf 2).withoutDependencies.unsigned.checksum }).all
          PlanInsert.binds = true := rfl
    rw [hsplit, List.all_append, List.all_cons, hunfit, Bool.false_and, Bool.and_false] at hbinds
    cases hbinds

def largeRequest : PlanRequest :=
  { lineOf 1 with operations := [{ lineOperation 0 with plannedBytes := 2 ^ 63 }] }

/-- The save of a sealed plan that raises, and leaves rows of it in an open transaction. -/
theorem large_plan_left_open : ∃ plan after,
    sealPlan ⟨⟨fun _ => none, fun _ => false⟩, following [] List.nodup_nil, 1000⟩ largeRequest =
      .ok plan ∧
    saveSealedPlan lineKeys {} plan ⟨{}, none⟩ = (.error .overflow, after) ∧
    after.current.plans = [⟨plan.planId, plan.analysisId⟩] ∧ after.saved = some {} ∧
    ¬ SavesExactly lineKeys {} plan := by
  have hsealed : sealPlan ⟨⟨fun _ => none, fun _ => false⟩, following [] List.nodup_nil, 1000⟩
      largeRequest = .ok { largeRequest.unsigned with
        planChecksum := largeRequest.unsigned.checksum } :=
    sealPlan_eq_ok.mpr ⟨by rfl, by rfl, by rfl, by rfl, rfl⟩
  refine ⟨_, _, hsealed, rfl, rfl, rfl, fun hsaves => ?_⟩
  cases hsaves.restores {} .overflow _ rfl

end MediaSync.Plans
