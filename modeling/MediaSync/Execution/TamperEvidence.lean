import MediaSync.Execution.IntentRoundTrip

/-! Two intent documents with one segment hash. -/
namespace MediaSync.Execution
open Text Recovery StateStores

/-- What the segment hash of a document is taken of. -/
def IntentDocument.material (document : IntentDocument) : Json :=
  hashMaterial (segmentBinding document.segment) document.operationPayloads
    (some document.planChecksum)

/-- The fields have distinct names and are in their canonical order. -/
structure Canonical (payload : Payload) : Prop where
  distinct : (Json.obj payload).distinct = true
  canonical : (Json.obj payload).canonical = .obj payload

section
variable {lib lib' : PlaceLibrary} {binding : SegmentBinding} {payloads : List Payload}
  {document document' : List Char} {parsed parsed' : IntentDocument}

theorem Canonical.of_parsed {line : List Char} {payload : Payload} {code : String}
    (h : parseCanonicalObject line code = .ok payload) : Canonical payload := by
  obtain ⟨hdistinct, hline⟩ := parseCanonicalObject_eq_ok h
  refine ⟨hdistinct, ?_⟩
  unfold parseCanonicalObject at h
  split at h
  · rename_i read hread
    split_ifs at h
    cases h
    rw [← hline] at hread
    exact Option.some.inj ((Json.loads_line hdistinct).symm.trans hread)
  · cases h

theorem Canonical.of_operationLines {ordinal : Nat} {lines : List (List Char)}
    (h : parseOperationLines ordinal lines = .ok payloads) :
    ∀ payload ∈ payloads, Canonical payload := by
  induction lines generalizing ordinal payloads with
  | nil =>
    cases h
    exact nofun
  | cons line rest ih =>
    obtain ⟨payload, hpayload, h⟩ := except_bind_ok h
    obtain ⟨others, hothers, h⟩ := except_bind_ok h
    cases h
    exact List.forall_mem_cons.mpr ⟨.of_parsed (parseOperationLine_eq_ok hpayload).read, ih hothers⟩

theorem distinct_hashMaterial {planChecksum : Option String}
    (h : ∀ payload ∈ payloads, Canonical payload) :
    (hashMaterial binding payloads planChecksum).distinct = true := by
  have hitems : Json.distinctItems (payloads.map Json.obj) = true :=
    Json.distinctItems_iff.mpr fun item hitem => by
      obtain ⟨payload, hpayload, rfl⟩ := List.mem_map.mp hitem
      exact (h payload hpayload).distinct
  rw [hashMaterial, Json.distinct, Bool.and_eq_true]
  refine ⟨rfl, ?_⟩
  simp only [Json.distinctFields, Json.distinct, Plans.distinct_jsonText, hitems, Bool.and_true]

theorem canonical_hashMaterial {planChecksum : Option String}
    (h : ∀ payload ∈ payloads, Canonical payload) :
    (hashMaterial binding payloads planChecksum).canonical =
      hashMaterial binding payloads planChecksum := by
  have hitems : Json.canonicalItems (payloads.map Json.obj) = payloads.map Json.obj := by
    rw [Json.canonicalItems_eq_map, List.map_map]
    exact List.map_congr_left fun payload hpayload => (h payload hpayload).canonical
  refine Json.canonical_of_sorted (by simp only [List.map]; decide) fun field hfield => ?_
  simp only [List.mem_cons, List.not_mem_nil, or_false] at hfield
  rcases hfield with h | h | h | h | h | h | h | h | h | h | h
  all_goals
    rw [h]
    simp only [Plans.canonical_jsonText, Json.canonical, hitems]

theorem DocumentRead.hash {first : List Char} {rest : List (List Char)}
    (h : DocumentRead lib first rest parsed) :
    parsed.segment.segmentHash = Sha256.hexdigest (Json.dump parsed.material) := by
  have hbinding := h.binding
  simp only [requireSegmentDocumentBinding, check_bind_eq_ok, check_eq_ok, decide_eq_true_eq]
    at hbinding
  exact hbinding.2.2.2.symm

/-- Documents with one segment hash agree in the run, the target, the endpoint and its revision, the
owner, the lease and its token, the plan and all operations, unless their materials collide. -/
theorem same_hash_same_binding
    (h : parseTargetRecoveryIntentSegmentDocument lib document = .ok parsed)
    (h' : parseTargetRecoveryIntentSegmentDocument lib' document' = .ok parsed')
    (hhash : parsed.segment.segmentHash = parsed'.segment.segmentHash)
    (hcollision : Sha256.hexdigest (Json.dump parsed.material) =
      Sha256.hexdigest (Json.dump parsed'.material) →
        Json.dump parsed.material = Json.dump parsed'.material) :
    segmentBinding parsed.segment = segmentBinding parsed'.segment ∧
      parsed.planChecksum = parsed'.planChecksum ∧
      parsed.operationPayloads = parsed'.operationPayloads := by
  obtain ⟨_, _, -, hread⟩ := parseDocument_eq_ok h
  obtain ⟨_, _, -, hread'⟩ := parseDocument_eq_ok h'
  have hpayloads := Canonical.of_operationLines hread.operations
  have hpayloads' := Canonical.of_operationLines hread'.operations
  have htext := hcollision (by rw [← hread.hash, ← hread'.hash, hhash])
  rw [← Json.dumpWith_escape, ← Json.dumpWith_escape] at htext
  have hmaterial := Json.dumpWith_injective Json.escape_escapes
    (distinct_hashMaterial hpayloads) (distinct_hashMaterial hpayloads') htext
  rw [canonical_hashMaterial hpayloads, canonical_hashMaterial hpayloads'] at hmaterial
  simp only [hashMaterial, Plans.jsonText, Option.elim, Json.obj.injEq, List.cons.injEq,
    Prod.mk.injEq, Json.str.injEq, Json.int.injEq, Json.arr.injEq, true_and, and_true] at hmaterial
  obtain ⟨hendpoint, hrevision, htoken, hlease, hoperations, howner, hepoch, hplan, hrun,
    htarget⟩ := hmaterial
  refine ⟨?_, hplan, List.map_injective_iff.mpr (fun _ _ => Json.obj.inj) hoperations⟩
  unfold segmentBinding
  rw [SegmentBinding.mk.injEq]
  exact ⟨hrun, htarget, hendpoint, hrevision, howner, hepoch, hlease, htoken⟩

/-- The hash leaves the endpoint's generation open. -/
theorem regenerated_image_binding : ∃ document document' parsed parsed',
    parseTargetRecoveryIntentSegmentDocument noPlaces document = .ok parsed ∧
      parseTargetRecoveryIntentSegmentDocument noPlaces document' = .ok parsed' ∧
      parsed.segment.endpointGeneration ≠ parsed'.segment.endpointGeneration ∧
      segmentBinding parsed.segment = segmentBinding parsed'.segment ∧
      parsed.operationPayloads = parsed'.operationPayloads := by
  have hread : ∀ generation : Int, 1 ≤ generation →
      (Json.dump (.int generation)).toList.length ≤ 1202 → ∃ document,
        parseTargetRecoveryIntentSegmentDocument noPlaces document =
          .ok ⟨imageSegment "photos/image.jpg" generation, imageChecksum,
            intentOperationPayloads [imageOperation "photos/image.jpg" generation],
            "2026-01-01T00:00:00Z", "2026-01-01T00:00:00Z"⟩ := by
    intro generation hgeneration hdigits
    obtain ⟨document, hbuilt⟩ := buildIntentDocument_image
      (by decide : "photos/image.jpg".toList.length ≤ 100) hgeneration hdigits
    refine ⟨document, (buildIntentDocument_eq_ok hbuilt).parse_iff.mpr fun operation hmem => ?_⟩
    rw [List.mem_singleton.mp hmem]
    exact readable_imageOperation (validateEndpointRelativePath_eq_ok.mp (by decide))
  obtain ⟨document, hone⟩ := hread 1 (by decide) (by decide)
  obtain ⟨document', htwo⟩ := hread 2 (by decide) (by decide)
  obtain ⟨hbinding, -, hoperations⟩ := same_hash_same_binding hone htwo rfl fun _ => rfl
  exact ⟨document, document', _, _, hone, htwo, (by decide : (1 : Int) ≠ 2), hbinding, hoperations⟩

end

end MediaSync.Execution
