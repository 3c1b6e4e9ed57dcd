import MediaSync.Foundation.JsonRoundTrip
import MediaSync.Foundation.Sha256Bytes
import MediaSync.Foundation.SortKeys
import MediaSync.Plans.Dependencies

/-! Sealing sorts what it is given by keys that the accepted operations, endpoints and dependencies
do not share, so the order in which they come does not matter. -/
namespace MediaSync.Plans
open Text

structure EndpointChecked (endpoint : PlanEndpoint) : Prop where
  endpointId : nonBlank endpoint.endpointId = true
  endpointRevisionId : nonBlank endpoint.endpointRevisionId = true
  snapshotId : nonBlank endpoint.snapshotId = true
  capabilitiesHash : nonBlank endpoint.capabilitiesHash = true
  rootCaseContextHash : nonBlank endpoint.rootCaseContextHash = true
  plannedOperations : 0 ≤ endpoint.plannedOperations
  plannedBytes : 0 ≤ endpoint.plannedBytes
  endpointGeneration : 1 ≤ endpoint.endpointGeneration
  writable : endpoint.role = .targetWritable → validateWritableTargetEndpoint endpoint [] = .ok ()
  other : endpoint.role ≠ .targetWritable →
    endpoint.targetOrdinal.all (fun ordinal => 0 ≤ ordinal) = true

def writableOrdinals (endpoints : List PlanEndpoint) : List Int :=
  (endpoints.filter (·.role = .targetWritable)).flatMap (·.targetOrdinal.toList)

theorem validateWritableTargetEndpoint_eq_ok {endpoint : PlanEndpoint} {ordinals : List Int} :
    validateWritableTargetEndpoint endpoint ordinals = .ok () ↔
      validateWritableTargetEndpoint endpoint [] = .ok () ∧
        ∀ ordinal ∈ endpoint.targetOrdinal.toList, ordinal ∉ ordinals := by
  simp only [validateWritableTargetEndpoint, unit_bind_eq_ok, check_eq_ok]
  cases endpoint.targetOrdinal with
  | none => simp
  | some ordinal =>
    simp only [Option.any_some, Option.all_some, Option.toList_some, List.mem_singleton,
      forall_eq, List.contains_eq_mem, Bool.not_eq_true', decide_eq_false_iff_not,
      List.not_mem_nil, not_false_eq_true, true_and]
    tauto

variable {endpoints : List PlanEndpoint}

theorem validateEndpointsFrom_eq_ok : ∀ {ids : List String} {ordinals : List Int},
    validateEndpointsFrom ids ordinals endpoints = .ok () ↔
      (∀ endpoint ∈ endpoints, EndpointChecked endpoint) ∧
      (endpoints.map PlanEndpoint.endpointId).Nodup ∧ (writableOrdinals endpoints).Nodup ∧
      (∀ endpoint ∈ endpoints, endpoint.endpointId ∉ ids) ∧
      ∀ ordinal ∈ writableOrdinals endpoints, ordinal ∉ ordinals := by
  induction endpoints with
  | nil => simp [validateEndpointsFrom, writableOrdinals]
  | cons endpoint rest ih =>
    intro ids ordinals
    rw [validateEndpointsFrom]
    simp only [unit_bind_eq_ok, check_eq_ok, Bool.not_eq_true', List.contains_eq_mem,
      decide_eq_true_eq, decide_eq_false_iff_not, List.forall_mem_cons, List.map_cons,
      List.nodup_cons, List.mem_map, not_exists, not_and]
    by_cases hrole : endpoint.role = .targetWritable
    · have hordinals : writableOrdinals (endpoint :: rest) =
          endpoint.targetOrdinal.toList ++ writableOrdinals rest := by
        rw [writableOrdinals, List.filter_cons_of_pos (by simpa using hrole), List.flatMap_cons]
        rfl
      have hone : endpoint.targetOrdinal.toList.Nodup := by
        cases endpoint.targetOrdinal with
        | none => exact List.nodup_nil
        | some ordinal => exact List.nodup_singleton ordinal
      rw [if_pos hrole, unit_bind_eq_ok, ih, validateWritableTargetEndpoint_eq_ok, hordinals,
        List.nodup_append]
      simp only [List.mem_cons, List.mem_append, not_or]
      constructor
      · rintro ⟨hid, hrevision, hsnapshot, hcapabilities, hcase, hnew, hoperations, hbytes,
          hgeneration, ⟨hwritable, hfresh⟩, hchecked, hids, hnodup, hapart, hordinal⟩
        exact ⟨⟨⟨hid, hrevision, hsnapshot, hcapabilities, hcase, hoperations, hbytes, hgeneration,
            fun _ => hwritable, fun hother => absurd hrole hother⟩, hchecked⟩,
          ⟨fun other hother => (hapart other hother).1, hids⟩,
          ⟨hone, hnodup, fun a ha b hb heq => (hordinal b hb).1 (heq ▸ ha)⟩,
          ⟨hnew, fun other hother => (hapart other hother).2⟩,
          fun ordinal hmem => hmem.elim (hfresh ordinal) fun hold => (hordinal ordinal hold).2⟩
      · rintro ⟨⟨hfirst, hchecked⟩, ⟨hnew', hids⟩, ⟨-, hnodup, hdisjoint⟩, ⟨hnew, hapart⟩,
          hordinal⟩
        exact ⟨hfirst.endpointId, hfirst.endpointRevisionId, hfirst.snapshotId,
          hfirst.capabilitiesHash, hfirst.rootCaseContextHash, hnew, hfirst.plannedOperations,
          hfirst.plannedBytes, hfirst.endpointGeneration,
          ⟨hfirst.writable hrole, fun ordinal hmem => hordinal ordinal (.inl hmem)⟩, hchecked,
          hids, hnodup, fun other hother => ⟨hnew' other hother, hapart other hother⟩,
          fun ordinal hmem => ⟨fun hfirst => hdisjoint ordinal hfirst ordinal hmem rfl,
            hordinal ordinal (.inr hmem)⟩⟩
    · have hordinals : writableOrdinals (endpoint :: rest) = writableOrdinals rest := by
        rw [writableOrdinals, List.filter_cons_of_neg (by simpa using hrole)]
        rfl
      rw [if_neg hrole, unit_bind_eq_ok, check_eq_ok, ih, hordinals]
      simp only [List.mem_cons, not_or]
      constructor
      · rintro ⟨hid, hrevision, hsnapshot, hcapabilities, hcase, hnew, hoperations, hbytes,
          hgeneration, hother, hchecked, hids, hnodup, hapart, hordinal⟩
        exact ⟨⟨⟨hid, hrevision, hsnapshot, hcapabilities, hcase, hoperations, hbytes, hgeneration,
            fun hwritable => absurd hwritable hrole, fun _ => hother⟩, hchecked⟩,
          ⟨fun other hother => (hapart other hother).1, hids⟩, hnodup,
          ⟨hnew, fun other hother => (hapart other hother).2⟩, hordinal⟩
      · rintro ⟨⟨hfirst, hchecked⟩, ⟨hnew', hids⟩, hnodup, ⟨hnew, hapart⟩, hordinal⟩
        exact ⟨hfirst.endpointId, hfirst.endpointRevisionId, hfirst.snapshotId,
          hfirst.capabilitiesHash, hfirst.rootCaseContextHash, hnew, hfirst.plannedOperations,
          hfirst.plannedBytes, hfirst.endpointGeneration, hfirst.other hrole, hchecked, hids,
          hnodup, fun other hother => ⟨hnew' other hother, hapart other hother⟩, hordinal⟩

theorem validateEndpoints_eq_ok : validateEndpoints endpoints = .ok () ↔
      (∀ endpoint ∈ endpoints, EndpointChecked endpoint) ∧
      (endpoints.map PlanEndpoint.endpointId).Nodup ∧ (writableOrdinals endpoints).Nodup := by
  rw [validateEndpoints, validateEndpointsFrom_eq_ok]
  simp

section

instance : Std.Total endpointOrder := ⟨fun a b => by
  rcases SortKeys.text_trichotomy a.role.value b.role.value with hrole | hrole | hrole
  · exact .inl (.inl hrole)
  · rcases lt_trichotomy (ordinalKey a) (ordinalKey b) with hordinal | hordinal | hordinal
    · exact .inl (.inr ⟨hrole, .inl hordinal⟩)
    · rcases String.le_total a.endpointId b.endpointId with hid | hid
      · exact .inl (.inr ⟨hrole, .inr ⟨hordinal, hid⟩⟩)
      · exact .inr (.inr ⟨hrole.symm, .inr ⟨hordinal.symm, hid⟩⟩)
    · exact .inr (.inr ⟨hrole.symm, .inl hordinal⟩)
  · exact .inr (.inl hrole)⟩

instance : IsTrans PlanEndpoint endpointOrder := ⟨fun a b c hab hbc => by
  rcases hab with hab | ⟨hab, hab'⟩
  · rcases hbc with hbc | ⟨hbc, -⟩
    · exact .inl (String.lt_trans hab hbc)
    · exact .inl (hbc ▸ hab)
  · rcases hbc with hbc | ⟨hbc, hbc'⟩
    · exact .inl (hab ▸ hbc)
    · refine .inr ⟨hab.trans hbc, ?_⟩
      rcases hab' with hlt | ⟨heq, hid⟩
      · exact .inl (hbc'.elim (hlt.trans ·) fun h => h.1 ▸ hlt)
      · exact hbc'.imp (heq ▸ ·) fun h => ⟨heq.trans h.1, String.le_trans hid h.2⟩⟩

instance : Std.Total dependencyOrder := ⟨fun a b => by
  rcases SortKeys.text_trichotomy a.beforeOperationId b.beforeOperationId with hlt | heq | hgt
  · exact .inl (.inl hlt)
  · exact (String.le_total a.afterOperationId b.afterOperationId).imp (fun h => .inr ⟨heq, h⟩)
      fun h => .inr ⟨heq.symm, h⟩
  · exact .inr (.inl hgt)⟩

instance : IsTrans PlanDependency dependencyOrder := ⟨fun a b c hab hbc => by
  rcases hab with hab | ⟨hab, hab'⟩
  · rcases hbc with hbc | ⟨hbc, -⟩
    · exact .inl (String.lt_trans hab hbc)
    · exact .inl (hbc ▸ hab)
  · rcases hbc with hbc | ⟨hbc, hbc'⟩
    · exact .inl (hab ▸ hbc)
    · exact .inr ⟨hab.trans hbc, String.le_trans hab' hbc'⟩⟩

instance : Std.Total operationOrder := ⟨fun a b => Int.le_total a.sequenceNo b.sequenceNo⟩

instance : IsTrans PlanOperation operationOrder := ⟨fun _ _ _ => Int.le_trans⟩

theorem endpointId_eq_of_order {a b : PlanEndpoint} (hab : endpointOrder a b)
    (hba : endpointOrder b a) : a.endpointId = b.endpointId := by
  rcases hab with hrole | ⟨hrole, hab⟩
  · rcases hba with hrole' | ⟨hrole', -⟩
    · exact absurd hrole' (String.lt_asymm hrole)
    · exact absurd (hrole' ▸ hrole) (String.lt_irrefl _)
  · rcases hba with hrole' | ⟨-, hba⟩
    · exact absurd (hrole ▸ hrole') (String.lt_irrefl _)
    · rcases hab with hlt | ⟨heq, hid⟩
      · rcases hba with hgt | ⟨heq, -⟩ <;> omega
      · rcases hba with hgt | ⟨-, hid'⟩
        · omega
        · exact String.le_antisymm hid hid'

theorem eq_of_dependencyOrder {a b : PlanDependency} (hab : dependencyOrder a b)
    (hba : dependencyOrder b a) : a = b := by
  obtain ⟨before, after⟩ := a
  obtain ⟨before', after'⟩ := b
  rcases hab with hlt | ⟨heq, hid⟩
  · rcases hba with hgt | ⟨heq, -⟩
    · exact absurd hgt (String.lt_asymm hlt)
    · exact absurd (heq ▸ hlt) (String.lt_irrefl _)
  · rcases hba with hgt | ⟨-, hid'⟩
    · exact absurd (heq ▸ hgt) (String.lt_irrefl _)
    · obtain rfl : before = before' := heq
      exact congrArg (PlanDependency.mk before) (String.le_antisymm hid hid')

theorem insertionSort_eq_of_perm {α : Type} {order : α → α → Prop} [DecidableRel order]
    [Std.Total order] [IsTrans α order] {items items' : List α} (hperm : items.Perm items')
    (hkeys : ∀ a ∈ items, ∀ b ∈ items, order a b → order b a → a = b) :
    items.insertionSort order = items'.insertionSort order := by
  refine List.Perm.eq_of_pairwise (fun a b ha hb => ?_) (List.pairwise_insertionSort order items)
    (List.pairwise_insertionSort order items') ?_
  · exact hkeys a ((List.mem_insertionSort order).mp ha) b
      (hperm.mem_iff.mpr ((List.mem_insertionSort order).mp hb))
  · exact (List.perm_insertionSort order items).trans
      (hperm.trans (List.perm_insertionSort order items').symm)

end

structure PlanRequest.Permuted (request other : PlanRequest) : Prop where
  operations : request.operations.Perm other.operations
  endpoints : request.endpoints.Perm other.endpoints
  dependencies : request.dependencies.Perm other.dependencies
  rest : { request with operations := [], endpoints := [], dependencies := [] } =
    { other with operations := [], endpoints := [], dependencies := [] }

variable {request other : PlanRequest}

theorem PlanRequest.Permuted.ordered {library : PythonLibrary} (h : request.Permuted other)
    (hother : OtherwiseValid library request) : request.orderedEndpoints = other.orderedEndpoints ∧
      request.orderedOperations = other.orderedOperations ∧
      request.orderedDependencies = other.orderedDependencies := by
  obtain ⟨-, hendpoints, hoperations⟩ := hother
  have hends : request.orderedEndpoints = other.orderedEndpoints := by
    have hnodup := (validateEndpoints_eq_ok.mp hendpoints).2.1
    have hids : (request.endpoints.map PlanEndpoint.endpointId).Nodup :=
      ((List.perm_insertionSort endpointOrder request.endpoints).map _).nodup_iff.mp hnodup
    exact insertionSort_eq_of_perm h.endpoints fun a ha b hb hab hba =>
      List.inj_on_of_nodup_map hids ha hb (endpointId_eq_of_order hab hba)
  refine ⟨hends, ?_, insertionSort_eq_of_perm h.dependencies fun a _ b _ =>
    eq_of_dependencyOrder⟩
  have hbound : (bindSingleTargetOperations request.operations request.orderedEndpoints).Perm
      (bindSingleTargetOperations other.operations other.orderedEndpoints) := by
    rw [hends]
    unfold bindSingleTargetOperations
    split
    · exact h.operations.map _
    · exact h.operations
  have hnumbers : ((bindSingleTargetOperations request.operations request.orderedEndpoints).map
      PlanOperation.sequenceNo).Nodup :=
    ((List.perm_insertionSort operationOrder _).map _).nodup_iff.mp
      (validateOperations_eq_ok.mp hoperations).2.2.2
  exact insertionSort_eq_of_perm hbound fun a ha b hb hab hba =>
    List.inj_on_of_nodup_map hnumbers ha hb (Int.le_antisymm hab hba)

theorem sealPlan_of_permuted {interpreter : Interpreter} (h : request.Permuted other)
    {plan : PlanRecord} (hplan : sealPlan interpreter request = .ok plan) :
    sealPlan interpreter other = .ok plan := by
  obtain ⟨hidentity, hendpoints, hoperations, hdependencies, rfl⟩ := sealPlan_eq_ok.mp hplan
  obtain ⟨hends, hops, hdeps⟩ := h.ordered ⟨hidentity, hendpoints, hoperations⟩
  have hrest := PlanRequest.mk.inj h.rest
  have hunsigned : request.unsigned = other.unsigned := by
    simp only [PlanRequest.unsigned, hends, hops, hdeps, hrest]
  refine sealPlan_eq_ok.mpr ⟨?_, hends ▸ hendpoints, hends ▸ hops ▸ hoperations,
    hops ▸ hdeps ▸ hdependencies, by rw [hunsigned]⟩
  simpa only [validatePlanIdentity, hrest] using hidentity

section

theorem OperationType.value_inj {a b : OperationType} : a.value = b.value ↔ a = b := by
  cases a <;> cases b <;> decide

theorem PreconditionKind.value_inj {a b : PreconditionKind} : a.value = b.value ↔ a = b := by
  cases a <;> cases b <;> decide

theorem RiskLevel.value_inj {a b : RiskLevel} : a.value = b.value ↔ a = b := by
  cases a <;> cases b <;> decide

theorem EndpointRole.value_inj {a b : EndpointRole} : a.value = b.value ↔ a = b := by
  cases a <;> cases b <;> decide

theorem canonical_jsonText (value : Option String) :
    (jsonText value).canonical = jsonText value := by
  cases value <;> simp [jsonText, Json.canonical]

theorem canonical_jsonInt (value : Option Int) : (jsonInt value).canonical = jsonInt value := by
  cases value <;> simp [jsonInt, Json.canonical]

theorem jsonText_inj {a b : Option String} : jsonText a = jsonText b ↔ a = b := by
  cases a <;> cases b <;> simp [jsonText]

theorem jsonInt_inj {a b : Option Int} : jsonInt a = jsonInt b ↔ a = b := by
  cases a <;> cases b <;> simp [jsonInt]

theorem distinct_jsonText (value : Option String) : (jsonText value).distinct = true := by
  cases value <;> simp [jsonText, Json.distinct]

theorem distinct_jsonInt (value : Option Int) : (jsonInt value).distinct = true := by
  cases value <;> simp [jsonInt, Json.distinct]

theorem str_inj {a b : String} (h : (Json.str a).canonical = (Json.str b).canonical) : a = b := by
  simpa [Json.canonical] using h

theorem int_inj {a b : Int} (h : (Json.int a).canonical = (Json.int b).canonical) : a = b := by
  simpa [Json.canonical] using h

theorem arr_inj {α : Type} {payload : α → Json}
    (hpayload : ∀ a b, (payload a).canonical = (payload b).canonical → a = b)
    {items others : List α}
    (h : (Json.arr (items.map payload)).canonical = (Json.arr (others.map payload)).canonical) :
    items = others := by
  simp only [Json.canonical, Json.canonicalItems_eq_map, List.map_map, Json.arr.injEq] at h
  exact List.map_injective_iff.mpr hpayload h

theorem deferred_inj {a b : Option OperationType} :
    a.map OperationType.value = b.map OperationType.value ↔ a = b := by
  cases a <;> cases b <;> simp [OperationType.value_inj]

theorem dependencyPayload_injective {a b : PlanDependency}
    (h : (dependencyPayload a).canonical = (dependencyPayload b).canonical) : a = b := by
  have hfields := Json.canonical_obj_eq h rfl (by simp only [List.map_cons, List.map_nil]; decide)
  simp only [List.map_cons, List.map_nil, List.cons.injEq, and_true, Json.canonical,
    Json.str.injEq] at hfields
  obtain ⟨before, after⟩ := a
  obtain ⟨before', after'⟩ := b
  simp only at hfields
  rw [hfields.1, hfields.2]

theorem endpointPayload_injective {a b : PlanEndpoint}
    (h : (endpointPayload a).canonical = (endpointPayload b).canonical) : a = b := by
  have hfields := Json.canonical_obj_eq h rfl (by simp only [List.map_cons, List.map_nil]; decide)
  simp only [List.map_cons, List.map_nil, List.cons.injEq, and_true, Json.canonical,
    canonical_jsonText, canonical_jsonInt, jsonText_inj, jsonInt_inj, EndpointRole.value_inj,
    Json.str.injEq, Json.int.injEq] at hfields
  obtain ⟨_, _, _, _, _, _, _, _, _, _, _, _, _⟩ := a
  obtain ⟨_, _, _, _, _, _, _, _, _, _, _, _, _⟩ := b
  simp only at hfields
  simp only [PlanEndpoint.mk.injEq]
  tauto

theorem operationPayload_injective {a b : PlanOperation}
    (h : (operationPayload a 4).canonical = (operationPayload b 4).canonical) : a = b := by
  have hnames : ∀ operation, ∃ fields, operationPayload operation 4 = .obj fields ∧
      fields.map Prod.fst = ["execution_phase", "operation_id", "operation_type", "planned_bytes",
        "reason_code", "risk_level", "sequence_no", "stable_order_key",
        "target_precondition_kind", "target_relative_path", "target_endpoint_id",
        "source_relative_path", "source_precondition_json", "deferred_operation_type"] :=
    fun operation => ⟨_, rfl, rfl⟩
  have hfields := Json.canonical_obj_eq h rfl (by
    obtain ⟨fields, hpayload, hfields⟩ := hnames a
    rw [Json.obj.inj hpayload, hfields]
    decide)
  simp only [if_pos (by decide : (2 : Int) ≤ 4),
    if_pos (by decide : (3 : Int) ≤ 4), if_pos (by decide : (4 : Int) ≤ 4), List.cons_append,
    List.nil_append, List.map_cons, List.map_nil, List.cons.injEq, and_true, Json.canonical,
    canonical_jsonText, jsonText_inj, deferred_inj, OperationType.value_inj, RiskLevel.value_inj,
    PreconditionKind.value_inj, Json.str.injEq, Json.int.injEq] at hfields
  obtain ⟨_, _, _, _, _, _, _, _, _, _, _, _, _, _⟩ := a
  obtain ⟨_, _, _, _, _, _, _, _, _, _, _, _, _, _⟩ := b
  simp only at hfields
  simp only [PlanOperation.mk.injEq]
  tauto

theorem distinct_dependencyPayload (dependency : PlanDependency) :
    (dependencyPayload dependency).distinct = true := by
  simp only [dependencyPayload, Json.distinct, Json.distinctFields, List.map_cons, List.map_nil,
    Bool.and_true, decide_eq_true_eq]
  decide

theorem distinct_endpointPayload (endpoint : PlanEndpoint) :
    (endpointPayload endpoint).distinct = true := by
  simp only [endpointPayload, Json.distinct, Json.distinctFields, List.map_cons, List.map_nil,
    distinct_jsonText, distinct_jsonInt, Bool.and_true, decide_eq_true_eq]
  decide

theorem distinct_operationPayload (operation : PlanOperation) (version : Int) :
    (operationPayload operation version).distinct = true := by
  unfold operationPayload
  split_ifs
  all_goals
    simp only [List.append_nil, List.cons_append, List.nil_append, Json.distinct,
      Json.distinctFields, List.map_cons, List.map_nil, distinct_jsonText, Bool.and_true,
      decide_eq_true_eq]
    decide

theorem distinct_canonicalPayload (plan : PlanRecord) :
    (canonicalPayload plan).distinct = true := by
  have hdependencies : Json.distinctItems (plan.dependencies.map dependencyPayload) = true :=
    Json.distinctItems_iff.mpr (by simp [distinct_dependencyPayload])
  have hendpoints : Json.distinctItems (plan.endpoints.map endpointPayload) = true :=
    Json.distinctItems_iff.mpr (by simp [distinct_endpointPayload])
  have hoperations : Json.distinctItems (plan.operations.map fun operation =>
      operationPayload operation plan.operationSchemaVersion) = true :=
    Json.distinctItems_iff.mpr (by simp [distinct_operationPayload])
  have hrisk := plan.riskSummary.distinct
  rw [Json.distinct, Bool.and_eq_true] at hrisk
  simp only [canonicalPayload, Json.distinct, Json.distinctFields, List.map_cons, List.map_nil,
    distinct_jsonText, hdependencies, hendpoints, hoperations, hrisk.1, hrisk.2, Bool.and_true,
    decide_eq_true_eq]
  decide

structure PlanRecord.Same (plan other : PlanRecord) : Prop where
  planId : plan.planId = other.planId
  analysisId : plan.analysisId = other.analysisId
  jobId : plan.jobId = other.jobId
  jobRevisionId : plan.jobRevisionId = other.jobRevisionId
  endpoints : plan.endpoints = other.endpoints
  operations : plan.operations = other.operations
  dependencies : plan.dependencies = other.dependencies
  plannerVersion : plan.plannerVersion = other.plannerVersion
  planSchemaVersion : plan.planSchemaVersion = other.planSchemaVersion
  operationSchemaVersion : plan.operationSchemaVersion = other.operationSchemaVersion
  executionPolicy : plan.executionPolicy = other.executionPolicy
  checksumAlgorithm : plan.checksumAlgorithm = other.checksumAlgorithm
  serializerVersion : plan.serializerVersion = other.serializerVersion
  riskSummary : (Json.obj plan.riskSummary.fields).canonical =
    (Json.obj other.riskSummary.fields).canonical
  operationCount : plan.operationCount = other.operationCount
  plannedBytes : plan.plannedBytes = other.plannedBytes
  immutable : plan.immutable = other.immutable
  parentPlanId : plan.parentPlanId = other.parentPlanId

variable {plan other : PlanRecord}

theorem same_of_canonicalPayload (hversion : plan.operationSchemaVersion = 4)
    (h : (canonicalPayload plan).canonical = (canonicalPayload other).canonical) :
    plan.Same other := by
  have hfields := Json.canonical_obj_eq h rfl (by simp only [List.map_cons, List.map_nil]; decide)
  simp only [List.map_cons, List.map_nil, List.cons.injEq, and_true] at hfields
  obtain ⟨hanalysis, halgorithm, hdependencies, hpolicy, himmutable, hjob, hrevision, hcount,
    hschema, hendpoints, hoperations, hparent, hbytes, hplan, hplanSchema, hplanner, hrisk,
    hserializer⟩ := hfields
  have hschema := int_inj hschema
  rw [← hschema, hversion] at hoperations
  rw [canonical_jsonText, canonical_jsonText, jsonText_inj] at hparent
  exact ⟨str_inj hplan, str_inj hanalysis, str_inj hjob, str_inj hrevision,
    arr_inj (fun _ _ => endpointPayload_injective) hendpoints,
    arr_inj (fun _ _ => operationPayload_injective) hoperations,
    arr_inj (fun _ _ => dependencyPayload_injective) hdependencies, str_inj hplanner,
    int_inj hplanSchema, hschema, str_inj hpolicy, str_inj halgorithm, str_inj hserializer, hrisk,
    int_inj hcount, int_inj hbytes, by simpa [Json.canonical] using himmutable, hparent⟩

theorem PlanRecord.Same.canonicalPayload (h : plan.Same other) :
    (canonicalPayload plan).canonical = (Plans.canonicalPayload other).canonical := by
  obtain ⟨hplan, hanalysis, hjob, hrevision, hendpoints, hoperations, hdependencies, hplanner,
    hplanSchema, hschema, hpolicy, halgorithm, hserializer, hrisk, hcount, hbytes, himmutable,
    hparent⟩ := h
  unfold Plans.canonicalPayload
  rw [Json.canonical, Json.canonical, Json.canonicalFields_eq_map, Json.canonicalFields_eq_map]
  simp only [List.map_cons, List.map_nil, hplan, hanalysis, hjob, hrevision, hendpoints,
    hoperations, hdependencies, hplanner, hplanSchema, hschema, hpolicy, halgorithm, hserializer,
    hrisk, hcount, hbytes, himmutable, hparent]

end

/-- SHA-256 does not collide on the canonical texts of the two plans. -/
def NoCollision (plan other : PlanRecord) : Prop :=
  Sha256.hexdigest (Json.dumpUnicode (canonicalPayload plan)) =
      Sha256.hexdigest (Json.dumpUnicode (canonicalPayload other)) →
    Json.dumpUnicode (canonicalPayload plan) = Json.dumpUnicode (canonicalPayload other)

theorem PlanRecord.Same.checksum {plan other : PlanRecord} (h : plan.Same other) :
    plan.checksum = other.checksum := by
  have htext : Json.dumpUnicode (Plans.canonicalPayload plan) =
      Json.dumpUnicode (Plans.canonicalPayload other) := by
    rw [Json.dumpUnicode, ← Json.dumpWith_canonical, h.canonicalPayload,
      Json.dumpWith_canonical, Json.dumpUnicode]
  exact congrArg Sha256.hexdigest htext

theorem checksum_eq_iff {plan other : PlanRecord} (hversion : plan.operationSchemaVersion = 4)
    (hsha : NoCollision plan other) : plan.checksum = other.checksum ↔ plan.Same other := by
  constructor
  · intro heq
    exact same_of_canonicalPayload hversion (Json.dumpWith_injective Json.escapeUnicode_escapes
      (distinct_canonicalPayload plan) (distinct_canonicalPayload other) (hsha heq))
  · exact PlanRecord.Same.checksum

/-- The order of what is sealed does not matter, and the checksum of a sealed plan verifies the
sealed columns alone. -/
theorem sealing_checksum {interpreter : Interpreter} {request : PlanRequest} {plan : PlanRecord}
    (h : sealPlan interpreter request = .ok plan) :
    (∀ other : PlanRequest, request.Permuted other → sealPlan interpreter other = .ok plan) ∧
    ∀ other : PlanRecord, NoCollision plan other → other.planChecksum = plan.planChecksum →
      (verifyPlanChecksum other = true ↔ plan.Same other) := by
  refine ⟨fun other hpermuted => sealPlan_of_permuted hpermuted h, fun other hsha hkept => ?_⟩
  have hversion : plan.operationSchemaVersion = 4 ∧ plan.planChecksum = plan.checksum := by
    obtain ⟨-, -, -, -, rfl⟩ := sealPlan_eq_ok.mp h
    exact ⟨rfl, rfl⟩
  rw [verifyPlanChecksum, decide_eq_true_eq, hkept, hversion.2]
  exact checksum_eq_iff hversion.1 hsha

/-- The plan of one operation with other bytes planned, under the checksum of `plan`. -/
def PlanRecord.withEditedBytes (plan : PlanRecord) : PlanRecord :=
  { plan with operations := [{ lineOperation 0 with plannedBytes := 1 }] }

theorem edited_noCollision {plan : PlanRecord}
    (hplan : plan = { (lineOf 1).withoutDependencies.unsigned with
      planChecksum := (lineOf 1).withoutDependencies.unsigned.checksum }) :
    NoCollision plan plan.withEditedBytes := by
  subst hplan
  rintro heq
  refine absurd ?_
    (by decide : ¬ "fd33e82ef6137c51ff22b47d24eaf7bf3af842e16bd256df79e5b7900ab9d563" =
    "9d017c33933c35b646d69deb6533ce43d26da990d8a1c298bccd0e516e2b2ebc")
  rw [Sha256.hexdigest_pack rfl, Sha256.hexdigest_pack rfl] at heq
  refine Eq.trans ?_ (heq.trans ?_)
  all_goals decide +kernel

theorem two_operations_sealed : (∃ plan,
    sealPlan ⟨⟨fun _ => none, fun _ => false⟩, following [] List.nodup_nil, 1000⟩
      (lineOf 2).withoutDependencies = .ok plan ∧
    sealPlan ⟨⟨fun _ => none, fun _ => false⟩, following [] List.nodup_nil, 1000⟩
      { (lineOf 2).withoutDependencies with operations := [lineOperation 1, lineOperation 0] } =
        .ok plan ∧
    verifyPlanChecksum plan = true) ∧
    ∃ plan, sealPlan ⟨⟨fun _ => none, fun _ => false⟩, following [] List.nodup_nil, 1000⟩
      (lineOf 1).withoutDependencies = .ok plan ∧
    verifyPlanChecksum plan.withEditedBytes = false := by
  constructor
  · obtain ⟨plan, hplan⟩ := lineOf_sealable (by decide : 0 < 2) (by decide : 1 ≤ 1000)
    obtain ⟨hpermuted, hverified⟩ := sealing_checksum hplan
    refine ⟨plan, hplan, hpermuted _ ⟨?_, List.Perm.refl _, List.Perm.refl _, rfl⟩,
      (hverified plan (fun _ => rfl) rfl).mpr ?_⟩
    · exact List.Perm.swap (lineOperation 1) (lineOperation 0) []
    · constructor <;> rfl
  · obtain ⟨plan, hplan⟩ := lineOf_sealable (by decide : 0 < 1) (by decide : 1 ≤ 1000)
    obtain ⟨-, hverified⟩ := sealing_checksum hplan
    refine ⟨plan, hplan, Bool.eq_false_iff.mpr fun haccepted => ?_⟩
    obtain ⟨-, -, -, -, rfl⟩ := sealPlan_eq_ok.mp hplan
    have hsame := (hverified _ (edited_noCollision rfl) rfl).mp haccepted
    exact absurd (congrArg (List.map PlanOperation.plannedBytes) hsame.operations) (by decide)

end MediaSync.Plans
