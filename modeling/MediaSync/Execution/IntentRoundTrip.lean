import MediaSync.Execution.IntentDocuments

/-! The segment builder and the document builder, one after the other, and the parser on what they
write. -/
namespace MediaSync.Execution
open Text Recovery StateStores

def MutationPermit.binding (permit : MutationPermit) : SegmentBinding where
  runId := permit.runId
  runTargetId := permit.runTargetId
  endpointId := permit.endpointId
  endpointRevisionId := permit.endpointRevisionId
  ownerInstallationId := permit.ownerInstallationId
  ownershipEpoch := permit.ownershipEpoch
  leaseId := permit.leaseId
  fencingToken := permit.fencingToken

/-- The segment that `build_run_target_recovery_intent_segment` checks. -/
def runTargetIntentSegment (lib : PlaceLibrary) (permit : MutationPermit)
    (first : RecoveryOperation) (operations : List RecoveryOperation) (segmentSequence : Int)
    (previousSegmentHash planChecksum : Option String) : IntentSegment where
  segmentId := permit.runTargetId ++ "-intent-" ++ sixDigits segmentSequence
  runId := permit.runId
  runTargetId := permit.runTargetId
  targetEndpointId := permit.endpointId
  targetEndpointRevisionId := permit.endpointRevisionId
  endpointGeneration := first.endpointGeneration
  ownerInstallationId := permit.ownerInstallationId
  ownershipEpoch := permit.ownershipEpoch
  leaseId := permit.leaseId
  fencingToken := permit.fencingToken
  segmentSequence
  relativePath := intentSegmentRelativePath lib permit.ownerInstallationId permit.runId
    segmentSequence
  schemaVersion := 1
  operationCount := operations.length
  byteCount := ((intentOperationPayloads operations).map fun payload =>
    (canonicalJsonLine payload).length).sum
  segmentHash := intentSegmentHash permit.binding (intentOperationPayloads operations) planChecksum
  previousSegmentHash

def buildRunTargetRecoveryIntentSegment (lib : PlaceLibrary) (permit : MutationPermit)
    (operations : List RecoveryOperation) (segmentSequence : Int)
    (previousSegmentHash planChecksum : Option String) : Except String IntentSegment :=
  match operations with
  | [] => .error "IndexError"
  | first :: rest => do
    let segment := runTargetIntentSegment lib permit first (first :: rest) segmentSequence
      previousSegmentHash planChecksum
    validateRecoveryIntentSegment segment
    return segment

def buildIntentDocument (lib : PlaceLibrary) (permit : MutationPermit)
    (operations : List RecoveryOperation) (segmentSequence : Int)
    (previousSegmentHash : Option String) (planChecksum createdUtc : String) :
    Except String (IntentSegment × List Char) := do
  let segment ← buildRunTargetRecoveryIntentSegment lib permit operations segmentSequence
    previousSegmentHash (some planChecksum)
  let document ← buildTargetRecoveryIntentSegmentDocument lib segment operations planChecksum
    createdUtc
  return (segment, document)

section
variable {payload : Payload}

theorem requireExactKeys_self {keys : List String} (code : String)
    (h : payload.map Prod.fst = keys) :
    requireExactKeys payload keys code = .ok () := by
  have hall : keys.all keys.contains = true := by
    simp [List.all_eq_true]
  rw [requireExactKeys, h, check_eq_ok, hall]
  rfl

theorem parseCanonicalObject_line (code : String) (hdistinct : (Json.obj payload).distinct = true)
    (hcanonical : (Json.obj payload).canonical = .obj payload) :
    parseCanonicalObject (canonicalJsonLine payload) code = .ok payload := by
  have hascii : (canonicalJsonLine payload).all (fun c => c.toNat < 128) = true := by
    refine List.all_eq_true.mpr fun c hc => ?_
    rcases List.mem_append.mp hc with htext | hend
    · have hprint := Json.printable_dump hdistinct c htext
      simp only [Json.isPrintable, Bool.and_eq_true, decide_eq_true_eq] at hprint ⊢
      omega
    · rw [List.mem_singleton.mp hend]
      rfl
  unfold parseCanonicalObject
  rw [show canonicalJsonLine payload = Json.line (.obj payload) from rfl,
    Json.loads_line hdistinct, hcanonical]
  rw [show canonicalJsonLine payload = Json.line (.obj payload) from rfl] at hascii
  simp only [hascii, canonicalJsonLine, decide_true, Bool.and_self, if_true]

variable {i : Nat} {field text : String}

theorem requiredText_of_getElem? (hnames : (payload.map Prod.fst).Nodup)
    (h : payload[i]? = some (field, .str text)) : requiredText payload field =
      if nonBlank text then .ok text else .error "TARGET_RECOVERY_INTENT_FIELD_INVALID" := by
  rw [requiredText, Json.get_of_getElem? hnames h]

theorem requiredInt_of_getElem? (hnames : (payload.map Prod.fst).Nodup) {field : String}
    {n minimum : Int} (h : payload[i]? = some (field, .int n)) (hn : minimum ≤ n) :
    requiredInt payload field minimum = .ok n := by
  rw [requiredInt, Json.get_of_getElem? hnames h]
  simp only
  rw [if_neg (by omega)]

theorem nonBlank_of_isHash {text : String} (h : isHash text = true) : nonBlank text = true := by
  simp only [isHash, Bool.and_eq_true, beq_iff_eq, List.all_eq_true] at h
  obtain ⟨c, rest, hcons⟩ := List.exists_cons_of_ne_nil
    (by rintro hnil; rw [hnil] at h; cases h.1 : text.toList ≠ [])
  have hmem : c ∈ text.toList := hcons ▸ List.mem_cons_self
  refine List.any_eq_true.mpr ⟨c, hmem, ?_⟩
  have hhex := h.2 c hmem
  by_contra hspace
  have hc : isSpace c = true := by simpa using hspace
  have hbound : 48 ≤ c.toNat ∧ c.toNat ≤ 102 := by
    simp only [isLowerHex, Bool.or_eq_true, Bool.and_eq_true, decide_eq_true_eq] at hhex
    rcases hhex with ⟨hlow, hhigh⟩ | ⟨hlow, hhigh⟩
    · exact ⟨hlow, Nat.le_trans hhigh (by decide)⟩
    · exact ⟨Nat.le_trans (by decide) hlow, hhigh⟩
  simp only [isSpace, Bool.or_eq_true, Bool.and_eq_true, decide_eq_true_eq, beq_iff_eq] at hc
  omega

theorem requiredHash_of_getElem? (hnames : (payload.map Prod.fst).Nodup)
    (h : payload[i]? = some (field, .str text)) (hhash : isHash text = true) :
    requiredHash payload field = .ok text := by
  rw [requiredHash, requiredText_of_getElem? hnames h, if_pos (nonBlank_of_isHash hhash)]
  show (check (isHash text) _ >>= fun _ => pure text) = _
  rw [hhash]
  rfl

end

/-- The parser accepts the id and the paths of the operation. -/
structure Readable (operation : RecoveryOperation) : Prop where
  operationId : nonBlank operation.operationId = true
  finalPath : ∀ part ∈ components operation.finalRelativePath, PortableName part
  sourcePath : ∀ path, operation.sourceRelativePath = some path →
    ∀ part ∈ components path, PortableName part

section
variable (operation : RecoveryOperation) (ordinal : Nat)

theorem names_intentOperationPayload :
    (intentOperationPayload operation ordinal).map Prod.fst = operationKeys := rfl

theorem nodup_operationKeys : operationKeys.Nodup := by
  unfold operationKeys
  decide

theorem distinct_intentOperationPayload :
    (Json.obj (intentOperationPayload operation ordinal)).distinct = true := by
  rw [Json.distinct, names_intentOperationPayload, Bool.and_eq_true, decide_eq_true_eq]
  refine ⟨nodup_operationKeys, ?_⟩
  simp only [intentOperationPayload, Json.distinctFields, Json.distinct, Plans.distinct_jsonText,
    Bool.and_true]

theorem canonical_intentOperationPayload :
    (Json.obj (intentOperationPayload operation ordinal)).canonical =
      .obj (intentOperationPayload operation ordinal) := by
  refine Json.canonical_of_sorted ?_ fun field hfield => ?_
  · rw [names_intentOperationPayload, operationKeys]
    decide
  · simp only [intentOperationPayload, List.mem_cons, List.not_mem_nil, or_false] at hfield
    rcases hfield with h | h | h | h | h | h | h | h | h | h | h | h | h | h | h | h | h | h | h |
      h | h | h | h | h | h | h | h
    all_goals
      rw [h]
      simp only [Plans.canonical_jsonText, Json.canonical]

theorem nonBlank_of_portable {path : String}
    (h : ∀ part ∈ components path, PortableName part) : nonBlank path = true := by
  have hvalid := validSnapshotPath_of_portable h
  simp only [validSnapshotPath, nonBlank_forwardSlashes, Bool.and_eq_true] at hvalid
  exact hvalid.1.1.1

theorem parseOperationLine_iff {payload : Payload} :
    parseOperationLine ordinal (canonicalJsonLine (intentOperationPayload operation ordinal)) =
        .ok payload ↔
      payload = intentOperationPayload operation ordinal ∧ Readable operation := by
  have hnodup : ((intentOperationPayload operation ordinal).map Prod.fst).Nodup :=
    nodup_operationKeys
  have hread := parseCanonicalObject_line "TARGET_RECOVERY_INTENT_OPERATION_INVALID"
    (distinct_intentOperationPayload operation ordinal)
    (canonical_intentOperationPayload operation ordinal)
  have hid := requiredText_of_getElem? hnodup
    (rfl : (intentOperationPayload operation ordinal)[9]? = some ("operation_id", _))
  have hfinal := requiredText_of_getElem? hnodup
    (rfl : (intentOperationPayload operation ordinal)[8]? = some ("final_relative_path", _))
  have hsource := Json.get_of_getElem? hnodup
    (rfl : (intentOperationPayload operation ordinal)[23]? = some ("source_relative_path", _))
  constructor
  · intro h
    have hline := parseOperationLine_eq_ok h
    have hpayload : payload = intentOperationPayload operation ordinal :=
      Except.ok.inj (hline.read.symm.trans hread)
    subst hpayload
    refine ⟨rfl, ?_, ?_, fun path hpath => ?_⟩
    · obtain ⟨operationId, hoperationId⟩ := hline.operationId
      rw [hid] at hoperationId
      split_ifs at hoperationId with hblank
      exact hblank
    · obtain ⟨path, hpath, hparsed⟩ := hline.finalPath
      rw [hfinal] at hpath
      split_ifs at hpath
      cases hpath
      exact parses_iff.mp hparsed
    · refine parses_iff.mp (hline.sourcePath path ?_)
      rw [hsource, hpath]
      rfl
  · rintro ⟨rfl, hreadable⟩
    obtain ⟨parsed, hparsed⟩ := parses_iff.mpr hreadable.finalPath
    have hnumber : fieldIsNumber (intentOperationPayload operation ordinal) "ordinal" ordinal =
        true := by
      rw [fieldIsNumber, Json.get_of_getElem? hnodup
        (rfl : (intentOperationPayload operation ordinal)[11]? = some ("ordinal", _))]
      simp
    have htype : fieldIsText (intentOperationPayload operation ordinal) "record_type" "OPERATION" =
        true := by
      rw [fieldIsText, Json.get_of_getElem? hnodup
        (rfl : (intentOperationPayload operation ordinal)[14]? = some ("record_type", _))]
      rfl
    rw [if_pos hreadable.operationId] at hid
    rw [if_pos (nonBlank_of_portable hreadable.finalPath)] at hfinal
    unfold parseOperationLine
    simp only [hread, requireExactKeys_self _ (names_intentOperationPayload operation ordinal),
      htype, hnumber, hid, hfinal, hparsed, hsource, Bool.and_self, check, if_true, bind,
      Except.bind, pure, Except.pure]
    cases hpath : operation.sourceRelativePath with
    | none => rfl
    | some path =>
      obtain ⟨source, hsourceParsed⟩ := parses_iff.mpr (hreadable.sourcePath path hpath)
      simp only [Plans.jsonText, Option.elim, hsourceParsed]

end

theorem parseOperationLines_iff {operations : List RecoveryOperation} :
    ∀ {ordinal : Nat} {payloads : List Payload},
    parseOperationLines ordinal ((operations.mapIdx fun i operation =>
        intentOperationPayload operation (ordinal + i)).map canonicalJsonLine) = .ok payloads ↔
      (payloads = operations.mapIdx fun i operation =>
        intentOperationPayload operation (ordinal + i)) ∧
      ∀ operation ∈ operations, Readable operation := by
  induction operations with
  | nil =>
    intro ordinal payloads
    simp [parseOperationLines, eq_comm]
  | cons operation rest ih =>
    intro ordinal payloads
    have hshift : (rest.mapIdx fun i operation =>
        intentOperationPayload operation (ordinal + (i + 1))) =
          rest.mapIdx fun i operation => intentOperationPayload operation (ordinal + 1 + i) := by
      refine congrArg (List.mapIdx · rest) (funext fun i => funext fun operation => ?_)
      rw [Nat.add_assoc, Nat.add_comm 1 i]
    rw [List.mapIdx_cons, List.map_cons, Nat.add_zero, hshift, parseOperationLines,
      List.forall_mem_cons]
    constructor
    · intro h
      obtain ⟨payload, hpayload, h⟩ := except_bind_ok h
      obtain ⟨others, hothers, h⟩ := except_bind_ok h
      cases h
      obtain ⟨rfl, hreadable⟩ := (parseOperationLine_iff operation ordinal).mp hpayload
      obtain ⟨rfl, hrest⟩ := ih.mp hothers
      exact ⟨rfl, hreadable, hrest⟩
    · rintro ⟨rfl, hreadable, hrest⟩
      rw [(parseOperationLine_iff operation ordinal).mpr ⟨rfl, hreadable⟩]
      show (parseOperationLines _ _ >>= _) = _
      rw [ih.mpr ⟨rfl, hrest⟩]
      rfl

theorem parseOperationLines_payloads {operations : List RecoveryOperation}
    {payloads : List Payload} :
    parseOperationLines 0 ((intentOperationPayloads operations).map canonicalJsonLine) =
        .ok payloads ↔
      payloads = intentOperationPayloads operations ∧
      ∀ operation ∈ operations, Readable operation := by
  have hlines := @parseOperationLines_iff operations 0 payloads
  simp only [Nat.zero_add] at hlines
  exact hlines

section
variable (segment : IntentSegment) (planChecksum createdUtc : String)

theorem names_headerPayload :
    (headerPayload segment planChecksum createdUtc).map Prod.fst = headerKeys := rfl

theorem nodup_headerKeys : headerKeys.Nodup := by
  unfold headerKeys
  decide

theorem distinct_headerPayload :
    (Json.obj (headerPayload segment planChecksum createdUtc)).distinct = true := by
  rw [Json.distinct, names_headerPayload, Bool.and_eq_true, decide_eq_true_eq]
  refine ⟨nodup_headerKeys, ?_⟩
  simp only [headerPayload, Json.distinctFields, Json.distinct, Plans.distinct_jsonText,
    Bool.and_true]

theorem canonical_headerPayload :
    (Json.obj (headerPayload segment planChecksum createdUtc)).canonical =
      .obj (headerPayload segment planChecksum createdUtc) := by
  refine Json.canonical_of_sorted ?_ fun field hfield => ?_
  · rw [names_headerPayload, headerKeys]
    decide
  · simp only [headerPayload, List.mem_cons, List.not_mem_nil, or_false] at hfield
    rcases hfield with h | h | h | h | h | h | h | h | h | h | h | h | h | h | h | h | h | h | h |
      h | h | h | h
    all_goals
      rw [h]
      simp only [Plans.canonical_jsonText, Json.canonical]

variable {segment}

theorem segmentFromHeader_headerPayload (hvalid : validateRecoveryIntentSegment segment = .ok ())
    (hschema : segment.schemaVersion = 1) :
    segmentFromHeader (headerPayload segment planChecksum createdUtc) = .ok segment := by
  have hnodup : ((headerPayload segment planChecksum createdUtc).map Prod.fst).Nodup :=
    nodup_headerKeys
  have hchecked := hvalid
  simp only [validateRecoveryIntentSegment, check_bind_eq_ok, check_eq_ok, nonEmpty,
    List.all_cons, List.all_nil, Bool.and_true, Bool.and_eq_true, decide_eq_true_eq] at hchecked
  obtain ⟨⟨hid, hrun, htarget, hendpoint, hrevision, howner, hlease⟩, hpath,
    ⟨⟨⟨⟨hgeneration, hepoch⟩, htoken⟩, hsequence⟩, -⟩, ⟨hcount, -⟩, ⟨hbytes, -⟩, hhash, hprevious,
    hstate, hdurability⟩ := hchecked
  have hpathBlank : nonBlank segment.relativePath = true := by
    simp only [validRelativePath, Bool.and_eq_true] at hpath
    exact hpath.1.1.1
  have htext : ∀ {i : Nat} {field text : String},
      (headerPayload segment planChecksum createdUtc)[i]? = some (field, .str text) →
        nonBlank text = true →
        requiredText (headerPayload segment planChecksum createdUtc) field = .ok text :=
    fun hget hblank => by rw [requiredText_of_getElem? hnodup hget, if_pos hblank]
  have htype : ∀ {i : Nat} {field text : String},
      (headerPayload segment planChecksum createdUtc)[i]? = some (field, .str text) →
        fieldIsText (headerPayload segment planChecksum createdUtc) field text = true :=
    fun hget => by
      rw [fieldIsText, Json.get_of_getElem? hnodup hget]
      simp
  have hversion : fieldIsNumber (headerPayload segment planChecksum createdUtc) "schema_version" 1 =
      true := by
    rw [fieldIsNumber, Json.get_of_getElem? hnodup
      (rfl : (headerPayload segment planChecksum createdUtc)[15]? = some ("schema_version", _))]
    simp [hschema]
  have hlast : optionalHash (headerPayload segment planChecksum createdUtc)
      "previous_segment_hash" = .ok segment.previousSegmentHash := by
    have hget : (headerPayload segment planChecksum createdUtc)[10]? =
        some ("previous_segment_hash", Plans.jsonText segment.previousSegmentHash) := rfl
    rw [optionalHash, Json.get_of_getElem? hnodup hget]
    cases hsome : segment.previousSegmentHash with
    | none => rfl
    | some last =>
      rw [hsome] at hget hprevious
      rw [requiredHash_of_getElem? hnodup hget hprevious]
      rfl
  have hrecord : ({
      segmentId := segment.segmentId
      runId := segment.runId
      runTargetId := segment.runTargetId
      targetEndpointId := segment.targetEndpointId
      targetEndpointRevisionId := segment.targetEndpointRevisionId
      endpointGeneration := segment.endpointGeneration
      ownerInstallationId := segment.ownerInstallationId
      ownershipEpoch := segment.ownershipEpoch
      leaseId := segment.leaseId
      fencingToken := segment.fencingToken
      segmentSequence := segment.segmentSequence
      relativePath := segment.relativePath
      schemaVersion := segment.schemaVersion
      operationCount := segment.operationCount
      byteCount := segment.byteCount
      segmentHash := segment.segmentHash
      previousSegmentHash := segment.previousSegmentHash } : IntentSegment) = segment := by
    obtain ⟨_, _, _, _, _, _, _, _, _, _, _, _, _, _, _, _, _, _, _⟩ := segment
    simp only at hstate hdurability
    rw [hstate, hdurability]
  have hstateText : (headerPayload segment planChecksum createdUtc)[19]? =
      some ("state", .str "DURABLE") := by
    rw [← show segmentStateText segment.state = "DURABLE" by rw [hstate]; rfl]
    rfl
  have hdurabilityText : (headerPayload segment planChecksum createdUtc)[2]? =
      some ("durability_state", .str "DURABLE") := by
    rw [← show durabilityText segment.durabilityState = "DURABLE" by rw [hdurability]; rfl]
    rfl
  unfold segmentFromHeader
  have hstart :
      (fieldIsText (headerPayload segment planChecksum createdUtc) "record_type" "HEADER" &&
      fieldIsText (headerPayload segment planChecksum createdUtc) "durability_state" "DURABLE" &&
      fieldIsText (headerPayload segment planChecksum createdUtc) "state" "DURABLE" &&
      fieldIsNumber (headerPayload segment planChecksum createdUtc) "schema_version" 1) = true := by
    rw [htype (i := 11) rfl, htype hstateText, htype hdurabilityText, hversion]
    rfl
  rw [hstart, htext (i := 17) rfl hid, htext (i := 13) rfl hrun, htext (i := 14) rfl htarget,
    htext (i := 20) rfl hendpoint, htext (i := 21) rfl hrevision,
    requiredInt_of_getElem? hnodup (i := 3) rfl hgeneration, htext (i := 7) rfl howner,
    requiredInt_of_getElem? hnodup (i := 8) rfl hepoch, htext (i := 5) rfl hlease,
    requiredInt_of_getElem? hnodup (i := 4) rfl htoken,
    requiredInt_of_getElem? hnodup (i := 18) rfl hsequence, htext (i := 12) rfl hpathBlank,
    requiredInt_of_getElem? hnodup (i := 15) rfl (by omega : 1 ≤ segment.schemaVersion),
    requiredInt_of_getElem? hnodup (i := 6) rfl hcount,
    requiredInt_of_getElem? hnodup (i := 0) rfl hbytes,
    requiredHash_of_getElem? hnodup (i := 16) rfl hhash, hlast]
  simp only [check, if_true, bind, Except.bind, pure, Except.pure]
  rw [hrecord, hvalid]

end

section
variable {lib : PlaceLibrary} {permit : MutationPermit} {operations : List RecoveryOperation}
  {segmentSequence : Int} {previousSegmentHash : Option String} {planChecksum createdUtc : String}
  {segment : IntentSegment} {document : List Char}

/-- What the builder has checked of a document. -/
structure Built (lib : PlaceLibrary) (operations : List RecoveryOperation)
    (planChecksum createdUtc : String) (segment : IntentSegment) (document : List Char) : Prop where
  segmentValid : validateRecoveryIntentSegment segment = .ok ()
  schemaVersion : segment.schemaVersion = 1
  checksumValid : isHash planChecksum = true
  createdValid : nonBlank createdUtc = true
  binding : requireSegmentDocumentBinding lib segment (intentOperationPayloads operations)
    planChecksum = .ok ()
  headerFits : (canonicalJsonLine (headerPayload segment planChecksum createdUtc)).length ≤
    headerBytes
  written : document = canonicalJsonLine (headerPayload segment planChecksum createdUtc) ++
    (intentOperationPayloads operations).flatMap canonicalJsonLine
  documentFits : document.length ≤ documentBytes

theorem buildIntentDocument_eq_ok
    (h : buildIntentDocument lib permit operations segmentSequence previousSegmentHash planChecksum
      createdUtc = .ok (segment, document)) :
    Built lib operations planChecksum createdUtc segment document := by
  unfold buildIntentDocument at h
  obtain ⟨built, hbuilt, h⟩ := except_bind_ok h
  obtain ⟨text, htext, h⟩ := except_bind_ok h
  cases h
  unfold buildTargetRecoveryIntentSegmentDocument at htext
  obtain ⟨hchecksum, htext⟩ := check_bind_eq_ok.mp htext
  obtain ⟨hcreated, htext⟩ := check_bind_eq_ok.mp htext
  obtain ⟨hbinding, htext⟩ := Plans.unit_bind_eq_ok.mp htext
  obtain ⟨hheader, htext⟩ := check_bind_eq_ok.mp htext
  obtain ⟨hdocument, htext⟩ := check_bind_eq_ok.mp htext
  have hwritten := Except.ok.inj htext
  subst hwritten
  cases operations with
  | nil => cases hbuilt
  | cons first rest =>
    rw [buildRunTargetRecoveryIntentSegment] at hbuilt
    obtain ⟨hvalid, hbuilt⟩ := Plans.unit_bind_eq_ok.mp hbuilt
    cases hbuilt
    exact ⟨hvalid, rfl, hchecksum, hcreated, hbinding, of_decide_eq_true hheader, rfl,
      of_decide_eq_true hdocument⟩

namespace Built

variable (hbuilt : Built lib operations planChecksum createdUtc segment document)
include hbuilt

theorem splitLines : Json.splitLines document =
    canonicalJsonLine (headerPayload segment planChecksum createdUtc) ::
      (intentOperationPayloads operations).map canonicalJsonLine := by
  have hlines := Json.splitLines_flatMap_line
    (fun (value : Json) (hvalue : value ∈ (intentOperationPayloads operations).map .obj) => by
      obtain ⟨payload, hpayload, rfl⟩ := List.mem_map.mp hvalue
      rw [intentOperationPayloads] at hpayload
      obtain ⟨i, hi, rfl⟩ := List.mem_mapIdx.mp hpayload
      exact distinct_intentOperationPayload _ _)
  rw [List.flatMap_map, List.map_map] at hlines
  have hfirst := Json.splitLines_line (distinct_headerPayload segment planChecksum createdUtc)
    ((intentOperationPayloads operations).flatMap fun payload => Json.line (.obj payload))
  rw [hlines] at hfirst
  rw [hbuilt.written]
  exact hfirst

theorem readable_of_parsed {parsed : IntentDocument}
    (h : parseTargetRecoveryIntentSegmentDocument lib document = .ok parsed) :
    ∀ operation ∈ operations, Readable operation := by
  obtain ⟨first, rest, hsplit, hread⟩ := parseDocument_eq_ok h
  rw [hbuilt.splitLines] at hsplit
  obtain ⟨-, rfl⟩ := List.cons.inj hsplit
  exact (parseOperationLines_payloads.mp hread.operations).2

theorem parse_iff : parseTargetRecoveryIntentSegmentDocument lib document =
      .ok ⟨segment, planChecksum, intentOperationPayloads operations, createdUtc, createdUtc⟩ ↔
    ∀ operation ∈ operations, Readable operation := by
  constructor
  · exact fun h => hbuilt.readable_of_parsed h
  · intro hreadable
    have h := parseOperationLines_payloads.mpr ⟨rfl, hreadable⟩
    have hchecks := hbuilt.binding
    simp only [requireSegmentDocumentBinding, check_bind_eq_ok, check_eq_ok,
      decide_eq_true_eq] at hchecks
    obtain ⟨-, hcount, hbytes, -⟩ := hchecks
    have hnodup : ((headerPayload segment planChecksum createdUtc).map Prod.fst).Nodup :=
      nodup_headerKeys
    have hfilled : (document.isEmpty || documentBytes < document.length) = false := by
      rw [Bool.or_eq_false_iff]
      refine ⟨?_, decide_eq_false (Nat.not_lt.mpr hbuilt.documentFits)⟩
      rw [hbuilt.written, canonicalJsonLine, Json.line]
      simp
    have hended : ((canonicalJsonLine (headerPayload segment planChecksum createdUtc) ::
        (intentOperationPayloads operations).map canonicalJsonLine).all fun line =>
          line.getLast? = some '\n') = true := by
      simp [canonicalJsonLine, Json.line]
    have hheader := parseCanonicalObject_line "TARGET_RECOVERY_INTENT_HEADER_INVALID"
      (distinct_headerPayload segment planChecksum createdUtc)
      (canonical_headerPayload segment planChecksum createdUtc)
    have hsegment := segmentFromHeader_headerPayload planChecksum createdUtc hbuilt.segmentValid
      hbuilt.schemaVersion
    unfold parseTargetRecoveryIntentSegmentDocument
    rw [hfilled, hbuilt.splitLines]
    simp only [hended, Bool.false_eq_true, if_false, Bool.not_true]
    have hsum : (((intentOperationPayloads operations).map canonicalJsonLine).map
        List.length).sum = segment.byteCount := by
      rw [List.map_map]
      exact hbytes
    have hkeys := requireExactKeys_self "TARGET_RECOVERY_INTENT_HEADER_INVALID"
      (names_headerPayload segment planChecksum createdUtc)
    have hchecksum := requiredHash_of_getElem? hnodup (i := 9) rfl hbuilt.checksumValid
    have hcreated : requiredText (headerPayload segment planChecksum createdUtc) "created_utc" =
        .ok createdUtc := by
      rw [requiredText_of_getElem? hnodup (i := 1) rfl, if_pos hbuilt.createdValid]
    have hupdated : requiredText (headerPayload segment planChecksum createdUtc) "updated_utc" =
        .ok createdUtc := by
      rw [requiredText_of_getElem? hnodup (i := 22) rfl, if_pos hbuilt.createdValid]
    unfold parseLines
    simp only [hheader, h, decide_eq_true hbuilt.headerFits, hkeys, hsegment, hchecksum, hcreated,
      hupdated, hcount, hsum, hbuilt.binding, check, if_true, bind, Except.bind, pure, Except.pure,
      decide_true]

end Built

/-- The document of a segment is read as the segment and the payloads that were written when every
operation can be read, and only then. -/
theorem buildIntentDocument_roundTrip
    (h : buildIntentDocument lib permit operations segmentSequence previousSegmentHash planChecksum
      createdUtc = .ok (segment, document)) :
    parseTargetRecoveryIntentSegmentDocument lib document =
        .ok ⟨segment, planChecksum, intentOperationPayloads operations, createdUtc, createdUtc⟩ ↔
      ∀ operation ∈ operations, Readable operation :=
  (buildIntentDocument_eq_ok h).parse_iff

end

section

theorem buildIntentDocument_of_checks {lib : PlaceLibrary} {permit : MutationPermit}
    {first : RecoveryOperation} {rest : List RecoveryOperation} {segmentSequence : Int}
    {previousSegmentHash : Option String} {planChecksum createdUtc : String}
    {segment : IntentSegment} (hsegment : segment = runTargetIntentSegment lib permit first
      (first :: rest) segmentSequence previousSegmentHash (some planChecksum))
    (hvalid : validateRecoveryIntentSegment segment = .ok ())
    (hchecksum : isHash planChecksum = true) (hcreated : nonBlank createdUtc = true)
    (hpath : forwardSlashes segment.relativePath = segment.relativePath)
    (hheader : (canonicalJsonLine (headerPayload segment planChecksum createdUtc)).length ≤
      headerBytes) :
    ∃ document, buildIntentDocument lib permit (first :: rest) segmentSequence previousSegmentHash
      planChecksum createdUtc = .ok (segment, document) := by
  have hbinding : requireSegmentDocumentBinding lib segment
      (intentOperationPayloads (first :: rest)) planChecksum = .ok () := by
    have hcount : (intentOperationPayloads (first :: rest)).length = (first :: rest).length := by
      rw [intentOperationPayloads, List.length_mapIdx]
    simp only [requireSegmentDocumentBinding, check_bind_eq_ok, check_eq_ok, decide_eq_true_eq,
      hpath, hcount]
    rw [hsegment]
    exact ⟨rfl, rfl, rfl, rfl⟩
  have hbytes : (((intentOperationPayloads (first :: rest)).flatMap canonicalJsonLine).length :
      Int) = segment.byteCount := by
    rw [hsegment, List.length_flatMap]
    rfl
  have hchecked := hvalid
  simp only [validateRecoveryIntentSegment, check_bind_eq_ok, check_eq_ok, Bool.and_eq_true,
    decide_eq_true_eq] at hchecked
  obtain ⟨-, -, -, -, ⟨-, hlimit⟩, -⟩ := hchecked
  have hfits : (canonicalJsonLine (headerPayload segment planChecksum createdUtc) ++
      (intentOperationPayloads (first :: rest)).flatMap canonicalJsonLine).length ≤
        documentBytes := by
    rw [List.length_append]
    unfold documentBytes
    omega
  refine ⟨canonicalJsonLine (headerPayload segment planChecksum createdUtc) ++
    (intentOperationPayloads (first :: rest)).flatMap canonicalJsonLine, ?_⟩
  unfold buildIntentDocument buildRunTargetRecoveryIntentSegment
    buildTargetRecoveryIntentSegmentDocument
  simp only [← hsegment, hvalid, hchecksum, hcreated, hbinding, decide_eq_true hheader,
    decide_eq_true hfits, check, if_true, bind, Except.bind, pure, Except.pure]

def noPlaces : PlaceLibrary where
  urlparse _ := ⟨"", "", ""⟩
  unquote value := value
  path value := value
  isAbsolute _ := false
  uuidHex _ := none
  windows := true

def imagePermit : MutationPermit where
  leaseId := "lease-a"
  resourceKey := "endpoint:target-a"
  ownerInstallationId := "owner-a"
  ownershipEpoch := 1
  fencingToken := 1
  runId := "run-a"
  runTargetId := "run-a-target-0000"
  endpointId := "target-a"
  endpointRevisionId := "target-rev-a"
  endpointGeneration := 1

def imageOperation (finalRelativePath : String) (endpointGeneration : Int) : RecoveryOperation where
  runId := "run-a"
  runTargetId := "run-a-target-0000"
  operationId := "operation-a"
  targetEndpointId := "target-a"
  targetEndpointRevisionId := "target-rev-a"
  endpointGeneration
  ownerInstallationId := "owner-a"
  ownershipEpoch := 1
  leaseId := "lease-a"
  leaseResourceKey := "endpoint:target-a"
  fencingToken := 1
  phase := .stagingVerified
  finalRelativePath
  targetPreconditionKind := .absent

def imageChecksum : String := "0000000000000000000000000000000000000000000000000000000000000000"

def imageSegment (finalRelativePath : String) (endpointGeneration : Int) : IntentSegment :=
  runTargetIntentSegment noPlaces imagePermit (imageOperation finalRelativePath endpointGeneration)
    [imageOperation finalRelativePath endpointGeneration] 0 none (some imageChecksum)

theorem byteCount_imageSegment {finalRelativePath : String} {endpointGeneration : Int}
    (hpath : finalRelativePath.toList.length ≤ 100) :
    ∃ n : Nat, (imageSegment finalRelativePath endpointGeneration).byteCount = n ∧ n ≤ 50000 := by
  have hshort : ∀ text : String, text.toList.length ≤ 100 →
      (Json.dump (.str text)).toList.length ≤ 1202 := fun text htext =>
    Json.length_dump_str_le htext
  have hnull : (Json.dump .null).toList.length ≤ 1202 := by decide
  have hzero : (Json.dump (.int 0)).toList.length ≤ 1202 := by decide
  have hdumps : ∀ field ∈ intentOperationPayload (imageOperation finalRelativePath
      endpointGeneration) 0, (Json.dump field.2).toList.length ≤ 1202 := by
    simp only [intentOperationPayload, List.forall_mem_cons, List.not_mem_nil, false_implies,
      implies_true, and_true]
    exact ⟨hnull, hnull, hnull, hnull, hnull, hnull, hnull, hnull, hshort _ hpath,
      hshort "operation-a" (by decide), hshort "COPY_NEW" (by decide), hzero, hzero, hzero,
      hshort _ (by decide), hnull, hnull, hnull, hnull, hnull, hnull, hnull, hnull, hnull, hnull,
      hnull, hshort "ABSENT" (by decide)⟩
  have hnames : ∀ name ∈ operationKeys, name.toList.length ≤ 40 := by decide
  have hline := Json.length_dump_obj_le (m := 40) (fun field hfield => hnames field.1
    (names_intentOperationPayload (imageOperation finalRelativePath endpointGeneration) 0 ▸
      List.mem_map_of_mem hfield)) hdumps
  refine ⟨_, rfl, ?_⟩
  show (Json.line (.obj (intentOperationPayload (imageOperation finalRelativePath
    endpointGeneration) 0))).length + 0 ≤ 50000
  rw [Json.line, List.length_append, List.length_singleton]
  rw [show (intentOperationPayload (imageOperation finalRelativePath endpointGeneration) 0).length =
    27 from rfl] at hline
  omega

variable {finalRelativePath : String} {endpointGeneration : Int}

theorem buildIntentDocument_image (hpath : finalRelativePath.toList.length ≤ 100)
    (hgeneration : 1 ≤ endpointGeneration)
    (hdigits : (Json.dump (.int endpointGeneration)).toList.length ≤ 1202) :
    ∃ document, buildIntentDocument noPlaces imagePermit
      [imageOperation finalRelativePath endpointGeneration] 0 none imageChecksum
      "2026-01-01T00:00:00Z" = .ok
        (imageSegment finalRelativePath endpointGeneration, document) := by
  obtain ⟨bytes, hbytes, hlimit⟩ :=
    @byteCount_imageSegment finalRelativePath endpointGeneration hpath
  have hhash : isHash (imageSegment finalRelativePath endpointGeneration).segmentHash = true :=
    Sha256.isHash_hexdigest _
  have hslashes : forwardSlashes (imageSegment finalRelativePath endpointGeneration).relativePath =
      (imageSegment finalRelativePath endpointGeneration).relativePath := by
    show forwardSlashes (intentSegmentRelativePath noPlaces "owner-a" "run-a" 0) =
      intentSegmentRelativePath noPlaces "owner-a" "run-a" 0
    decide
  have hvalidPath : validRelativePath
      (imageSegment finalRelativePath endpointGeneration).relativePath = true := by
    show validRelativePath (intentSegmentRelativePath noPlaces "owner-a" "run-a" 0) = true
    decide
  refine buildIntentDocument_of_checks rfl ?_ (by decide) (by decide) hslashes ?_
  · simp only [validateRecoveryIntentSegment, check_bind_eq_ok, check_eq_ok, hhash, hvalidPath,
      Bool.and_eq_true, decide_eq_true_eq, true_and]
    refine ⟨?_, ⟨⟨⟨⟨hgeneration, Int.le_refl 1⟩, Int.le_refl 1⟩, Int.le_refl 0⟩, Int.le_refl 1⟩,
      ⟨Int.le_refl 1, (by decide : (1 : Int) ≤ 10000)⟩, ⟨Int.natCast_nonneg _, ?_⟩, rfl, rfl,
      rfl⟩
    · show nonEmpty ["run-a-target-0000" ++ "-intent-" ++ sixDigits 0, "run-a",
        "run-a-target-0000", "target-a", "target-rev-a", "owner-a", "lease-a"] = true
      decide
    · rw [hbytes]
      omega
  · have hlong : (imageSegment finalRelativePath endpointGeneration).segmentHash.toList.length =
        64 := by
      simp only [isHash, Bool.and_eq_true, beq_iff_eq] at hhash
      exact hhash.1
    have hdump : (Json.dump (.obj (headerPayload (imageSegment finalRelativePath
        endpointGeneration) imageChecksum "2026-01-01T00:00:00Z"))).toList.length ≤
          23 * (12 * 30 + 1202 + 4) + 2 := by
      refine Json.length_dump_obj_le (fun field hfield => ?_) fun field hfield => ?_
      · have hnames : ∀ name ∈ headerKeys, name.toList.length ≤ 30 := by decide
        exact hnames field.1 (names_headerPayload (imageSegment finalRelativePath
          endpointGeneration) imageChecksum "2026-01-01T00:00:00Z" ▸ List.mem_map_of_mem hfield)
      · have hshort : ∀ text : String, text.toList.length ≤ 100 →
            (Json.dump (.str text)).toList.length ≤ 1202 := fun text htext =>
          Json.length_dump_str_le htext
        have hcountText : (Json.dump (.int (imageSegment finalRelativePath
            endpointGeneration).byteCount)).toList.length ≤ 1202 := by
          rw [hbytes]
          exact Nat.le_trans (Json.length_dump_nat_le (k := 5) (by decide) (by omega)) (by decide)
        have hone : (Json.dump (.int 1)).toList.length ≤ 1202 := by decide
        have hzero : (Json.dump (.int 0)).toList.length ≤ 1202 := by decide
        have hnull : (Json.dump .null).toList.length ≤ 1202 := by decide
        have hdumps : ∀ field ∈ headerPayload (imageSegment finalRelativePath endpointGeneration)
            imageChecksum "2026-01-01T00:00:00Z", (Json.dump field.2).toList.length ≤ 1202 := by
          simp only [headerPayload, List.forall_mem_cons, List.not_mem_nil, false_implies,
            implies_true, and_true]
          exact ⟨hcountText, hshort _ (by decide), hshort "DURABLE" (by decide), hdigits,
            hone, hshort "lease-a" (by decide), hone, hshort "owner-a" (by decide), hone,
            hshort imageChecksum (by decide), hnull, hshort _ (by decide),
            hshort (intentSegmentRelativePath noPlaces "owner-a" "run-a" 0) (by decide),
            hshort "run-a" (by decide), hshort "run-a-target-0000" (by decide), hone,
            hshort _ (by omega), hshort ("run-a-target-0000" ++ "-intent-" ++ sixDigits 0)
              (by decide), hzero, hshort "DURABLE" (by decide), hshort "target-a" (by decide),
            hshort "target-rev-a" (by decide), hshort _ (by decide)⟩
        exact hdumps field hfield
    rw [canonicalJsonLine, Json.line, List.length_append, List.length_singleton]
    unfold headerBytes
    omega

theorem readable_imageOperation (h : ∀ part ∈ components finalRelativePath, PortableName part) :
    Readable (imageOperation finalRelativePath endpointGeneration) :=
  ⟨(by decide : nonBlank "operation-a" = true), h, fun path hpath => by cases hpath⟩

theorem image_intent_roundTrip : ∃ segment document,
    buildIntentDocument noPlaces imagePermit [imageOperation "photos/image.jpg" 1] 0 none
        imageChecksum "2026-01-01T00:00:00Z" = .ok (segment, document) ∧
      parseTargetRecoveryIntentSegmentDocument noPlaces document =
        .ok ⟨segment, imageChecksum, intentOperationPayloads [imageOperation "photos/image.jpg" 1],
          "2026-01-01T00:00:00Z", "2026-01-01T00:00:00Z"⟩ := by
  obtain ⟨document, hbuilt⟩ := buildIntentDocument_image
    (by decide : "photos/image.jpg".toList.length ≤ 100) (Int.le_refl 1) (by decide)
  refine ⟨_, document, hbuilt, (buildIntentDocument_roundTrip hbuilt).mpr fun operation hmem => ?_⟩
  rw [List.mem_singleton.mp hmem]
  exact readable_imageOperation (validateEndpointRelativePath_eq_ok.mp (by decide))

/-- The builders take a path, and the store of operations too, that the parser rejects. -/
theorem device_intent_rejected : ∃ segment document,
    buildIntentDocument noPlaces imagePermit [imageOperation "photos/CON" 1] 0 none
        imageChecksum "2026-01-01T00:00:00Z" = .ok (segment, document) ∧
      validRelativePath "photos/CON" = true ∧
      ∀ parsed, parseTargetRecoveryIntentSegmentDocument noPlaces document ≠ .ok parsed := by
  obtain ⟨document, hbuilt⟩ := buildIntentDocument_image
    (by decide : "photos/CON".toList.length ≤ 100) (Int.le_refl 1) (by decide)
  refine ⟨_, document, hbuilt, by decide, fun parsed hparsed => ?_⟩
  have hreadable := (buildIntentDocument_eq_ok hbuilt).readable_of_parsed hparsed _
    List.mem_cons_self
  have hdevice := validatePart_eq_ok.mpr (hreadable.finalPath "CON" (by decide))
  exact absurd hdevice.1 (by decide)

end

end MediaSync.Execution
