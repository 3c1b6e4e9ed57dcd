import MediaSync.Snapshots.Sealing
import MediaSync.Foundation.JsonLines

/-! Sealing orders the rows by keys that no two accepted entries, directories or decisions share;
two issues share theirs only where one has an empty text and the other none. -/
namespace MediaSync.Snapshots
open Text SortKeys
open Plans (jsonText jsonInt canonical_jsonText canonical_jsonInt jsonText_inj jsonInt_inj
  distinct_jsonText distinct_jsonInt)

theorem nodup_of_seen {α β : Type} {key : α → β} (Accepts : List β → List α → Prop)
    (hstep : ∀ seen item rest, Accepts seen (item :: rest) →
      key item ∉ seen ∧ Accepts (key item :: seen) rest) {items : List α} :
    ∀ {seen : List β}, Accepts seen items →
      (items.map key).Nodup ∧ ∀ item ∈ items, key item ∉ seen := by
  induction items with
  | nil => exact fun _ => ⟨List.nodup_nil, fun _ hitem => absurd hitem List.not_mem_nil⟩
  | cons first rest ih =>
    intro seen h
    obtain ⟨hnew, hrest⟩ := hstep seen first rest h
    obtain ⟨hnodup, hapart⟩ := ih hrest
    refine ⟨?_, List.forall_mem_cons.mpr ⟨hnew, fun item hitem hseen =>
      hapart item hitem (List.mem_cons_of_mem _ hseen)⟩⟩
    rw [List.map_cons, List.nodup_cons]
    refine ⟨fun hmem => ?_, hnodup⟩
    obtain ⟨item, hitem, heq⟩ := List.mem_map.mp hmem
    exact hapart item hitem (heq ▸ List.mem_cons_self)

theorem validateEntries_nodup {entries : List SnapshotFileEntry}
    (h : validateEntries [] [] entries = .ok ()) :
    (entries.map SnapshotFileEntry.relativePath).Nodup := by
  refine (nodup_of_seen (fun paths entries =>
    ∃ ids, validateEntries ids paths entries = .ok ()) ?_ ⟨[], h⟩).1
  rintro paths entry rest ⟨ids, haccepts⟩
  simp only [validateEntries, check_bind_eq_ok] at haccepts
  exact ⟨by simpa using haccepts.2.2.2.1, _, haccepts.2.2.2.2.2.2.2.2.2⟩

theorem validateDirectoryCoverage_nodup {coverage : List SnapshotDirectoryCoverage}
    (h : validateDirectoryCoverage [] coverage = .ok ()) :
    (coverage.map SnapshotDirectoryCoverage.relativePath).Nodup := by
  refine (nodup_of_seen (fun paths coverage =>
    validateDirectoryCoverage paths coverage = .ok ()) ?_ h).1
  intro paths item rest haccepts
  simp only [validateDirectoryCoverage, check_bind_eq_ok] at haccepts
  exact ⟨by simpa using haccepts.2.1, haccepts.2.2.2.2.2.2.2⟩

theorem validateSnapshotFilterDecisions_nodup {decisions : List SnapshotFilterDecision}
    (h : validateSnapshotFilterDecisions [] decisions = .ok ()) :
    (decisions.map SnapshotFilterDecision.relativePath).Nodup := by
  refine (nodup_of_seen (fun paths decisions =>
    validateSnapshotFilterDecisions paths decisions = .ok ()) ?_ h).1
  intro paths item rest haccepts
  simp only [validateSnapshotFilterDecisions, check_bind_eq_ok] at haccepts
  exact ⟨by simpa using haccepts.2.1, haccepts.2.2.2.2.2.2.2⟩

theorem validateSnapshotBatchSummaries_nodup {batches : List SnapshotBatchSummary}
    (h : validateSnapshotBatchSummaries batches = .ok ()) :
    (batches.map SnapshotBatchSummary.sequenceNo).Nodup := by
  obtain ⟨hnumbers, -⟩ := check_bind_eq_ok.mp h
  rw [beq_iff_eq.mp hnumbers]
  exact List.Nodup.map (fun _ _ heq => Int.ofNat.inj heq) List.nodup_range

/-- No two rows of a kind have the same sort key. -/
structure DistinctRows (rows : SnapshotRows) : Prop where
  entries : (rows.entries.map SnapshotFileEntry.relativePath).Nodup
  coverage : (rows.coverage.map SnapshotDirectoryCoverage.relativePath).Nodup
  filterDecisions : (rows.filterDecisions.map SnapshotFilterDecision.relativePath).Nodup
  batches : (rows.batches.map SnapshotBatchSummary.sequenceNo).Nodup

theorem distinctRows_of_validate {rows : SnapshotRows}
    (h : validateSnapshotSealInputs rows = .ok ()) : DistinctRows rows := by
  obtain ⟨-, h⟩ := check_bind_eq_ok.mp h
  obtain ⟨-, h⟩ := check_bind_eq_ok.mp h
  obtain ⟨-, -, h⟩ := except_bind_ok h
  obtain ⟨-, h⟩ := check_bind_eq_ok.mp h
  obtain ⟨-, h⟩ := check_bind_eq_ok.mp h
  obtain ⟨⟨⟩, hrows, h⟩ := except_bind_ok h
  obtain ⟨⟨⟩, hbatches, -⟩ := except_bind_ok h
  obtain ⟨-, hrows⟩ := check_bind_eq_ok.mp hrows
  obtain ⟨⟨⟩, hentries, hrows⟩ := except_bind_ok hrows
  obtain ⟨⟨⟩, hcoverage, hrows⟩ := except_bind_ok hrows
  obtain ⟨⟨⟩, -, hdecisions⟩ := except_bind_ok hrows
  exact ⟨validateEntries_nodup hentries, validateDirectoryCoverage_nodup hcoverage,
    validateSnapshotFilterDecisions_nodup hdecisions,
    validateSnapshotBatchSummaries_nodup hbatches⟩

/-- The same rows in another order. -/
structure SnapshotRows.Permuted (rows other : SnapshotRows) : Prop where
  entries : rows.entries.Perm other.entries
  coverage : rows.coverage.Perm other.coverage
  issues : rows.issues.Perm other.issues
  filterDecisions : rows.filterDecisions.Perm other.filterDecisions
  batches : rows.batches.Perm other.batches
  snapshotId : rows.snapshotId = other.snapshotId
  caseCollisionGroupCount : rows.caseCollisionGroupCount = other.caseCollisionGroupCount
  snapshotSchemaVersion : rows.snapshotSchemaVersion = other.snapshotSchemaVersion

instance : Std.Total fun a b : SnapshotBatchSummary => a.sequenceNo ≤ b.sequenceNo :=
  ⟨fun a b => Int.le_total a.sequenceNo b.sequenceNo⟩

instance : IsTrans SnapshotBatchSummary fun a b => a.sequenceNo ≤ b.sequenceNo :=
  ⟨fun _ _ _ => Int.le_trans⟩

variable {rows other : SnapshotRows}

theorem SnapshotRows.Permuted.ordered (h : rows.Permuted other)
    (hdistinct : DistinctRows rows.ordered)
    (hissues : KeysDiffer snapshotIssueSortKey rows.issues) :
    rows.ordered = other.ordered := by
  have hentries : KeysDiffer entrySortKey rows.entries :=
    .of_nodup ((perm_sortByKey rows.entries).map _ |>.nodup_iff.mp hdistinct.entries)
      fun _ _ heq => (List.cons.inj heq).1
  have hcoverage : KeysDiffer coverageSortKey rows.coverage :=
    .of_nodup ((perm_sortByKey rows.coverage).map _ |>.nodup_iff.mp hdistinct.coverage)
      fun _ _ heq => (List.cons.inj heq).1
  have hdecisions : KeysDiffer snapshotFilterDecisionSortKey rows.filterDecisions :=
    .of_nodup ((perm_sortByKey rows.filterDecisions).map _ |>.nodup_iff.mp
      hdistinct.filterDecisions) fun _ _ heq => (List.cons.inj heq).1
  have hnumbers : (rows.batches.map SnapshotBatchSummary.sequenceNo).Nodup :=
    (List.perm_insertionSort (fun a b : SnapshotBatchSummary => a.sequenceNo ≤ b.sequenceNo)
      rows.batches).map _ |>.nodup_iff.mp hdistinct.batches
  have hbatches : sortBatches rows.batches = sortBatches other.batches :=
    Plans.insertionSort_eq_of_perm h.batches fun a ha b hb hab hba =>
      List.inj_on_of_nodup_map hnumbers ha hb (Int.le_antisymm hab hba)
  simp only [SnapshotRows.ordered, sortByKey_eq_of_perm h.entries hentries,
    sortByKey_eq_of_perm h.coverage hcoverage, sortByKey_eq_of_perm h.issues hissues,
    sortByKey_eq_of_perm h.filterDecisions hdecisions, hbatches, h.snapshotId,
    h.caseCollisionGroupCount, h.snapshotSchemaVersion]

variable {snapshot : SealedSnapshot}

theorem snapshotSeal_eq_ok {rows : SnapshotRows} : snapshotSeal rows = .ok snapshot ↔
      validateSnapshotSealInputs rows.ordered = .ok () ∧
        ∃ version, snapshotSerializerVersion rows.ordered.snapshotSchemaVersion = .ok version ∧
          validateSealedSnapshot (sealedSnapshot rows.ordered version) = .ok () ∧
          snapshot = sealedSnapshot rows.ordered version := by
  constructor
  · intro h
    obtain ⟨⟨⟩, hinputs, h⟩ := except_bind_ok h
    obtain ⟨version, hversion, h⟩ := except_bind_ok h
    obtain ⟨⟨⟩, hsealed, h⟩ := except_bind_ok h
    cases h
    exact ⟨hinputs, version, hversion, hsealed, rfl⟩
  · rintro ⟨hinputs, version, hversion, hsealed, rfl⟩
    have hversion : snapshotSerializerVersion rows.snapshotSchemaVersion = .ok version := hversion
    simp only [snapshotSeal, hinputs, hversion, hsealed, bind, Except.bind]
    rfl

theorem snapshotSeal_of_permuted (h : snapshotSeal rows = .ok snapshot)
    (hpermuted : rows.Permuted other) (hissues : KeysDiffer snapshotIssueSortKey rows.issues) :
    snapshotSeal other = .ok snapshot := by
  rw [snapshotSeal_eq_ok] at h ⊢
  rwa [← hpermuted.ordered (distinctRows_of_validate h.1) hissues]

theorem verify_of_permuted (h : snapshotSeal rows = .ok snapshot) (hpermuted : rows.Permuted other)
    (hissues : KeysDiffer snapshotIssueSortKey rows.issues) :
    verifySnapshotChecksum snapshot other.entries other.coverage other.issues other.batches
      other.filterDecisions = true := by
  have hother := snapshotSeal_of_permuted h hpermuted hissues
  obtain ⟨-, version, -, -, hsnapshot⟩ := snapshotSeal_eq_ok.mp h
  have hrows : other = {
      snapshotId := snapshot.snapshotId, entries := other.entries, coverage := other.coverage
      issues := other.issues, filterDecisions := other.filterDecisions, batches := other.batches
      caseCollisionGroupCount := snapshot.caseCollisionGroupCount
      snapshotSchemaVersion := snapshot.snapshotSchemaVersion } := by
    rw [hsnapshot]
    obtain ⟨-, -, -, -, -, hid, hgroups, hschema⟩ := hpermuted
    cases other
    simp only [sealedSnapshot, SnapshotRows.ordered] at hid hgroups hschema ⊢
    rw [hid, hgroups, hschema]
  have hopen : (snapshot.complete && snapshot.immutable) = true := by
    rw [hsnapshot]
    rfl
  rw [verifySnapshotChecksum, if_pos hopen, ← hrows, hother]
  simp

def SnapshotFileEntry.atVersion (version : Int) (entry : SnapshotFileEntry) : SnapshotFileEntry :=
  { entry with
    identityFingerprintHash := if 2 ≤ version then entry.identityFingerprintHash else none
    birthtimeNs := if 3 ≤ version then entry.birthtimeNs else none }

def SnapshotBatchSummary.atVersion (version : Int) (batch : SnapshotBatchSummary) :
    SnapshotBatchSummary :=
  { batch with filterDecisionCount := if 4 ≤ version then batch.filterDecisionCount else 0 }

/-- The rows agree in what is sealed of them. -/
structure SnapshotRows.AgreeUpTo (rows other : SnapshotRows) : Prop where
  snapshotId : rows.snapshotId = other.snapshotId
  snapshotSchemaVersion : rows.snapshotSchemaVersion = other.snapshotSchemaVersion
  caseCollisionGroupCount : rows.caseCollisionGroupCount = other.caseCollisionGroupCount
  entries : (rows.entries.map (SnapshotFileEntry.atVersion rows.snapshotSchemaVersion)).Perm
    (other.entries.map (SnapshotFileEntry.atVersion rows.snapshotSchemaVersion))
  coverage : rows.coverage.Perm other.coverage
  issues : rows.issues.Perm other.issues
  batches : (rows.batches.map (SnapshotBatchSummary.atVersion rows.snapshotSchemaVersion)).Perm
    (other.batches.map (SnapshotBatchSummary.atVersion rows.snapshotSchemaVersion))
  filterDecisions : 4 ≤ rows.snapshotSchemaVersion →
    rows.filterDecisions.Perm other.filterDecisions

section
variable {version : Int}

theorem map_eq_of_arr {α β : Type} {payload : α → Json} {view : α → β}
    (hpayload : ∀ a b, (payload a).canonical = (payload b).canonical → view a = view b)
    {items others : List α}
    (h : (Json.arr (items.map payload)).canonical = (Json.arr (others.map payload)).canonical) :
    items.map view = others.map view := by
  simp only [Json.canonical, Json.canonicalItems_eq_map, List.map_map, Json.arr.injEq] at h
  induction items generalizing others with
  | nil =>
    cases others with
    | nil => rfl
    | cons => cases h
  | cons item rest ih =>
    cases others with
    | nil => cases h
    | cons other more =>
      obtain ⟨hfirst, hrest⟩ := List.cons.inj h
      rw [List.map_cons, List.map_cons, hpayload item other hfirst, ih hrest]

theorem snapshotEntryPayload_injective {a b : SnapshotFileEntry}
    (h : (snapshotEntryPayload version a).canonical = (snapshotEntryPayload version b).canonical) :
    a.atVersion version = b.atVersion version := by
  unfold snapshotEntryPayload at h
  unfold SnapshotFileEntry.atVersion
  split_ifs at h ⊢
  all_goals
    have hfields := Json.canonical_obj_eq h rfl (by
      simp only [List.cons_append, List.nil_append, List.append_nil, List.map_cons, List.map_nil]
      decide)
    simp only [List.cons_append, List.nil_append, List.append_nil, List.map_cons, List.map_nil,
      List.cons.injEq, and_true, Json.canonical, canonical_jsonText, canonical_jsonInt,
      jsonText_inj, jsonInt_inj, Json.str.injEq] at hfields
    simp only [SnapshotFileEntry.mk.injEq]
    tauto

theorem batchPayload_injective {a b : SnapshotBatchSummary}
    (h : (batchPayload version a).canonical = (batchPayload version b).canonical) :
    a.atVersion version = b.atVersion version := by
  unfold batchPayload at h
  unfold SnapshotBatchSummary.atVersion
  split_ifs at h ⊢
  all_goals
    have hfields := Json.canonical_obj_eq h rfl (by
      simp only [List.cons_append, List.nil_append, List.append_nil, List.map_cons, List.map_nil]
      decide)
    simp only [List.cons_append, List.nil_append, List.append_nil, List.map_cons, List.map_nil,
      List.cons.injEq, and_true, Json.canonical, Json.int.injEq, Json.str.injEq] at hfields
    simp only [SnapshotBatchSummary.mk.injEq]
    tauto

theorem directoryCoveragePayload_injective {a b : SnapshotDirectoryCoverage}
    (h : (directoryCoveragePayload a).canonical = (directoryCoveragePayload b).canonical) :
    a = b := by
  have hfields := Json.canonical_obj_eq h rfl (by simp only [List.map_cons, List.map_nil]; decide)
  simp only [List.map_cons, List.map_nil, List.cons.injEq, and_true, Json.canonical,
    canonical_jsonText, jsonText_inj, Json.str.injEq] at hfields
  obtain ⟨_, _, _, _, _, _, _⟩ := a
  obtain ⟨_, _, _, _, _, _, _⟩ := b
  simp only at hfields
  simp only [SnapshotDirectoryCoverage.mk.injEq]
  tauto

theorem snapshotIssuePayload_injective {a b : SnapshotIssue}
    (h : (snapshotIssuePayload a).canonical = (snapshotIssuePayload b).canonical) : a = b := by
  have hfields := Json.canonical_obj_eq h rfl (by simp only [List.map_cons, List.map_nil]; decide)
  simp only [List.map_cons, List.map_nil, List.cons.injEq, and_true, Json.canonical,
    canonical_jsonText, jsonText_inj, Json.str.injEq, Json.bool.injEq] at hfields
  obtain ⟨_, _, _, _, _⟩ := a
  obtain ⟨_, _, _, _, _⟩ := b
  simp only at hfields
  simp only [SnapshotIssue.mk.injEq]
  tauto

theorem snapshotFilterDecisionPayload_injective {a b : SnapshotFilterDecision}
    (h : (snapshotFilterDecisionPayload a).canonical =
      (snapshotFilterDecisionPayload b).canonical) : a = b := by
  have hfields := Json.canonical_obj_eq h rfl (by simp only [List.map_cons, List.map_nil]; decide)
  simp only [List.map_cons, List.map_nil, List.cons.injEq, and_true, Json.canonical,
    canonical_jsonText, jsonText_inj, Json.str.injEq] at hfields
  obtain ⟨_, _, _, _, _, _⟩ := a
  obtain ⟨_, _, _, _, _, _⟩ := b
  simp only at hfields
  simp only [SnapshotFilterDecision.mk.injEq]
  tauto

theorem distinct_snapshotEntryPayload (entry : SnapshotFileEntry) :
    (snapshotEntryPayload version entry).distinct = true := by
  unfold snapshotEntryPayload
  split_ifs
  all_goals
    simp only [List.cons_append, List.nil_append, List.append_nil, Json.distinct,
      Json.distinctFields, List.map_cons, List.map_nil, distinct_jsonText, distinct_jsonInt,
      Bool.and_true, decide_eq_true_eq]
    decide

theorem distinct_batchPayload (batch : SnapshotBatchSummary) :
    (batchPayload version batch).distinct = true := by
  unfold batchPayload
  split_ifs
  all_goals
    simp only [List.cons_append, List.nil_append, List.append_nil, Json.distinct,
      Json.distinctFields, List.map_cons, List.map_nil, Bool.and_true, decide_eq_true_eq]
    decide

theorem distinct_directoryCoveragePayload (coverage : SnapshotDirectoryCoverage) :
    (directoryCoveragePayload coverage).distinct = true := by
  simp only [directoryCoveragePayload, Json.distinct, Json.distinctFields, List.map_cons,
    List.map_nil, distinct_jsonText, Bool.and_true, decide_eq_true_eq]
  decide

theorem distinct_snapshotIssuePayload (issue : SnapshotIssue) :
    (snapshotIssuePayload issue).distinct = true := by
  simp only [snapshotIssuePayload, Json.distinct, Json.distinctFields, List.map_cons,
    List.map_nil, distinct_jsonText, Bool.and_true, decide_eq_true_eq]
  decide

theorem distinct_snapshotFilterDecisionPayload (decision : SnapshotFilterDecision) :
    (snapshotFilterDecisionPayload decision).distinct = true := by
  simp only [snapshotFilterDecisionPayload, Json.distinct, Json.distinctFields, List.map_cons,
    List.map_nil, distinct_jsonText, Bool.and_true, decide_eq_true_eq]
  decide

theorem snapshotPayload_fields (rows : SnapshotRows) (serializer : String) :
    ∃ fields, snapshotPayload rows serializer = .obj fields ∧
      (fields.map Prod.fst).Nodup ∧ (Json.obj fields).distinct = true ∧
      fields[15]? = some ("snapshot_schema_version", .int rows.snapshotSchemaVersion) := by
  have hentries : Json.distinctItems (rows.entries.map
      (snapshotEntryPayload rows.snapshotSchemaVersion)) = true :=
    Json.distinctItems_iff.mpr (by simp [distinct_snapshotEntryPayload])
  have hbatches : Json.distinctItems (rows.batches.map
      (batchPayload rows.snapshotSchemaVersion)) = true :=
    Json.distinctItems_iff.mpr (by simp [distinct_batchPayload])
  have hcoverage : Json.distinctItems (rows.coverage.map directoryCoveragePayload) = true :=
    Json.distinctItems_iff.mpr (by simp [distinct_directoryCoveragePayload])
  have hissues : Json.distinctItems (rows.issues.map snapshotIssuePayload) = true :=
    Json.distinctItems_iff.mpr (by simp [distinct_snapshotIssuePayload])
  have hdecisions : Json.distinctItems (rows.filterDecisions.map
      snapshotFilterDecisionPayload) = true :=
    Json.distinctItems_iff.mpr (by simp [distinct_snapshotFilterDecisionPayload])
  refine ⟨_, rfl, ?_, ?_, rfl⟩
  · split_ifs
    all_goals
      simp only [List.cons_append, List.nil_append, List.append_nil, List.map_cons, List.map_nil]
      decide
  · split_ifs
    all_goals
      simp only [List.cons_append, List.nil_append, List.append_nil, Json.distinct,
        Json.distinctFields, List.map_cons, List.map_nil, hentries, hbatches, hcoverage, hissues,
        hdecisions, Bool.and_true, decide_eq_true_eq]
      decide

theorem distinct_snapshotPayload (rows : SnapshotRows) (serializer : String) :
    (snapshotPayload rows serializer).distinct = true := by
  obtain ⟨fields, hfields, -, hdistinct, -⟩ := snapshotPayload_fields rows serializer
  rwa [hfields]

variable {rows other : SnapshotRows} {serializer serializer' : String}

theorem schemaVersion_of_snapshotPayload (h : (snapshotPayload rows serializer).canonical =
      (snapshotPayload other serializer').canonical) :
    rows.snapshotSchemaVersion = other.snapshotSchemaVersion := by
  obtain ⟨fields, hfields, hnames, -, hversion⟩ := snapshotPayload_fields rows serializer
  obtain ⟨others, hothers, hnames', -, hversion'⟩ := snapshotPayload_fields other serializer'
  rw [hfields, hothers, Json.canonical_readBack, Json.canonical_readBack] at h
  have hget := Json.get_readBack hnames hversion
  rw [Json.obj.inj h, Json.get_readBack hnames' hversion'] at hget
  simpa [Json.canonical] using hget.symm

theorem agreeUpTo_of_snapshotPayload (h : (snapshotPayload rows serializer).canonical =
      (snapshotPayload other serializer').canonical) :
    rows.AgreeUpTo other ∧ serializer = serializer' ∧
      totalBytes rows.entries = totalBytes other.entries := by
  have hversion := schemaVersion_of_snapshotPayload h
  obtain ⟨fields, hfields, hnodup, -⟩ := snapshotPayload_fields rows serializer
  have hnames : fields.map Prod.fst = _ := congrArg (List.map Prod.fst) (Json.obj.inj hfields).symm
  unfold snapshotPayload at h
  rw [← hversion] at h
  have hvalues := Json.canonical_obj_eq h (by split_ifs <;> rfl) (hnames ▸ hnodup)
  rw [List.map_append, List.map_append] at hvalues
  -- the fields of every version, and those of the fourth
  obtain ⟨hvalues, hlater⟩ := List.append_inj hvalues rfl
  simp only [List.map_cons, List.map_nil, List.cons.injEq, and_true] at hvalues
  obtain ⟨-, hbatches, hgroups, -, -, hcoverage, -, hentries, -, -, -, hissues, -, hserializer, hid,
    -, htotal⟩ := hvalues
  refine ⟨⟨Plans.str_inj hid, hversion, Plans.int_inj hgroups,
    .of_eq (map_eq_of_arr (fun _ _ => snapshotEntryPayload_injective) hentries),
    .of_eq (Plans.arr_inj (fun _ _ => directoryCoveragePayload_injective) hcoverage),
    .of_eq (Plans.arr_inj (fun _ _ => snapshotIssuePayload_injective) hissues),
    .of_eq (map_eq_of_arr (fun _ _ => batchPayload_injective) hbatches), fun hfour => ?_⟩,
    Plans.str_inj hserializer, Plans.int_inj htotal⟩
  rw [if_pos hfour, if_pos hfour] at hlater
  simp only [List.map_cons, List.map_nil, List.cons.injEq, and_true] at hlater
  exact .of_eq (Plans.arr_inj (fun _ _ => snapshotFilterDecisionPayload_injective) hlater.2)

end

theorem validateSealedSnapshot_sealedSnapshot {rows : SnapshotRows} {version : String}
    (h : validateSnapshotSealInputs rows = .ok ())
    (hversion : snapshotSerializerVersion rows.snapshotSchemaVersion = .ok version) :
    validateSealedSnapshot (sealedSnapshot rows version) = .ok () := by
  obtain ⟨hid, h⟩ := check_bind_eq_ok.mp h
  obtain ⟨hgroups, h⟩ := check_bind_eq_ok.mp h
  obtain ⟨-, -, h⟩ := except_bind_ok h
  obtain ⟨-, h⟩ := check_bind_eq_ok.mp h
  obtain ⟨-, h⟩ := check_bind_eq_ok.mp h
  obtain ⟨⟨⟩, hrows, h⟩ := except_bind_ok h
  obtain ⟨⟨⟩, -, h⟩ := except_bind_ok h
  obtain ⟨hbytes, -⟩ := check_bind_eq_ok.mp hrows
  obtain ⟨-, h⟩ := check_bind_eq_ok.mp h
  obtain ⟨-, h⟩ := check_bind_eq_ok.mp h
  obtain ⟨-, h⟩ := check_bind_eq_ok.mp h
  obtain ⟨-, h⟩ := check_bind_eq_ok.mp h
  obtain ⟨hcoverage, -⟩ := check_bind_eq_ok.mp h
  have hschema : 1 ≤ rows.snapshotSchemaVersion := by
    unfold snapshotSerializerVersion at hversion
    split_ifs at hversion <;> omega
  have hcovered : 0 < rows.coverage.length := by
    rw [List.length_pos_iff]
    rintro hnil
    rw [hnil] at hcoverage
    cases hcoverage
  have hblocking : blockingIssueCount rows.issues ≤ rows.issues.length := List.countP_le_length
  have hread : snapshotSerializerVersion (sealedSnapshot rows version).snapshotSchemaVersion =
      .ok version := hversion
  refine check_bind_eq_ok.mpr ⟨hid, check_bind_eq_ok.mpr ⟨decide_eq_true hschema,
    check_bind_eq_ok.mpr ⟨rfl, ?_⟩⟩⟩
  rw [hread]
  refine check_bind_eq_ok.mpr ⟨beq_self_eq_true version,
    check_bind_eq_ok.mpr ⟨Sha256.isHash_hexdigest _,
    check_bind_eq_ok.mpr ⟨decide_eq_true (Int.natCast_nonneg _),
    check_bind_eq_ok.mpr ⟨hbytes, check_bind_eq_ok.mpr ⟨decide_eq_true (Int.natCast_nonneg _),
    check_bind_eq_ok.mpr ⟨decide_eq_true ?_,
    check_bind_eq_ok.mpr ⟨decide_eq_true (Int.natCast_nonneg _),
    check_bind_eq_ok.mpr ⟨decide_eq_true (Int.natCast_nonneg _),
    check_bind_eq_ok.mpr ⟨decide_eq_true (Int.ofNat_le.mpr hblocking),
    check_bind_eq_ok.mpr ⟨hgroups, check_bind_eq_ok.mpr ⟨decide_eq_true (Int.natCast_nonneg _),
    rfl⟩⟩⟩⟩⟩⟩⟩⟩⟩⟩⟩
  exact Int.ofNat_le.mpr hcovered

/-- SHA-256 does not collide on the texts of the two snapshots. -/
def NoSnapshotCollision (rows other : SnapshotRows) : Prop :=
  ∀ serializer serializer' : String,
    snapshotSerializerVersion rows.snapshotSchemaVersion = .ok serializer →
    snapshotSerializerVersion other.snapshotSchemaVersion = .ok serializer' →
    Sha256.hexdigest (snapshotText rows.ordered serializer) =
        Sha256.hexdigest (snapshotText other.ordered serializer') →
      snapshotText rows.ordered serializer = snapshotText other.ordered serializer'

theorem SnapshotRows.AgreeUpTo.of_ordered (h : rows.ordered.AgreeUpTo other.ordered) :
    rows.AgreeUpTo other where
  snapshotId := h.snapshotId
  snapshotSchemaVersion := h.snapshotSchemaVersion
  caseCollisionGroupCount := h.caseCollisionGroupCount
  entries := ((perm_sortByKey rows.entries).symm.map _).trans
    (h.entries.trans ((perm_sortByKey other.entries).map _))
  coverage := (perm_sortByKey rows.coverage).symm.trans
    (h.coverage.trans (perm_sortByKey other.coverage))
  issues := (perm_sortByKey rows.issues).symm.trans (h.issues.trans (perm_sortByKey other.issues))
  batches := ((List.perm_insertionSort _ rows.batches).symm.map _).trans
    (h.batches.trans ((List.perm_insertionSort _ other.batches).map _))
  filterDecisions hfour := (perm_sortByKey rows.filterDecisions).symm.trans
    ((h.filterDecisions hfour).trans (perm_sortByKey other.filterDecisions))

theorem agree_of_snapshotChecksum {snapshot snapshot' : SealedSnapshot}
    (h : snapshotSeal rows = .ok snapshot) (h' : snapshotSeal other = .ok snapshot')
    (hsha : NoSnapshotCollision rows other)
    (hchecksum : snapshot.snapshotChecksum = snapshot'.snapshotChecksum) : rows.AgreeUpTo other ∧
      { snapshot with filterDecisionCount := snapshot'.filterDecisionCount } = snapshot' ∧
      (4 ≤ snapshot.snapshotSchemaVersion → snapshot = snapshot') := by
  obtain ⟨-, version, hserializer, -, rfl⟩ := snapshotSeal_eq_ok.mp h
  obtain ⟨-, version', hserializer', -, rfl⟩ := snapshotSeal_eq_ok.mp h'
  have htext := hsha version version' hserializer hserializer' hchecksum
  rw [snapshotText, snapshotText, ← Json.dumpWith_escape, ← Json.dumpWith_escape] at htext
  obtain ⟨hagree, hversion, hbytes⟩ := agreeUpTo_of_snapshotPayload
    (Json.dumpWith_injective Json.escape_escapes (distinct_snapshotPayload _ _)
      (distinct_snapshotPayload _ _) htext)
  have hentries : rows.ordered.entries.length = other.ordered.entries.length := by
    simpa using hagree.entries.length_eq
  have hbatches : rows.ordered.batches.length = other.ordered.batches.length := by
    simpa using hagree.batches.length_eq
  have hblocking : blockingIssueCount rows.ordered.issues =
      blockingIssueCount other.ordered.issues := hagree.issues.countP_eq _
  have hsame : { sealedSnapshot rows.ordered version with
      filterDecisionCount := (sealedSnapshot other.ordered version').filterDecisionCount } =
        sealedSnapshot other.ordered version' := by
    unfold sealedSnapshot
    rw [SealedSnapshot.mk.injEq]
    refine ⟨hagree.snapshotId, hagree.snapshotSchemaVersion, rfl, hversion, hchecksum,
      congrArg Int.ofNat hentries, hbytes, congrArg Int.ofNat hbatches,
      congrArg Int.ofNat hagree.coverage.length_eq, congrArg Int.ofNat hagree.issues.length_eq,
      congrArg Int.ofNat hblocking, hagree.caseCollisionGroupCount, rfl, rfl, rfl⟩
  refine ⟨hagree.of_ordered, hsame, fun hfour => ?_⟩
  have hdecisions : (sealedSnapshot rows.ordered version).filterDecisionCount =
      (sealedSnapshot other.ordered version').filterDecisionCount :=
    congrArg Int.ofNat (hagree.filterDecisions hfour).length_eq
  rw [← hsame, ← hdecisions]

/-- Sealing and verification do not depend on the order of the rows where the keys of different
issues differ, and the checksum determines what the schema version covers. -/
theorem sealing_snapshot {rows : SnapshotRows} {snapshot : SealedSnapshot}
    (h : snapshotSeal rows = .ok snapshot) :
    (KeysDiffer snapshotIssueSortKey rows.issues → ∀ other, rows.Permuted other →
      snapshotSeal other = .ok snapshot ∧
        verifySnapshotChecksum snapshot other.entries other.coverage other.issues other.batches
          other.filterDecisions = true) ∧
    ∀ other snapshot', snapshotSeal other = .ok snapshot' → NoSnapshotCollision rows other →
      snapshot.snapshotChecksum = snapshot'.snapshotChecksum →
        rows.AgreeUpTo other ∧
          { snapshot with filterDecisionCount := snapshot'.filterDecisionCount } = snapshot' ∧
          (4 ≤ snapshot.snapshotSchemaVersion → snapshot = snapshot') :=
  ⟨fun hissues _ hpermuted => ⟨snapshotSeal_of_permuted h hpermuted hissues,
      verify_of_permuted h hpermuted hissues⟩,
    fun _ _ h' hsha hchecksum => agree_of_snapshotChecksum h h' hsha hchecksum⟩

def emptyRows (filterDecisions : List SnapshotFilterDecision) : SnapshotRows where
  snapshotId := "snapshot"
  entries := []
  coverage := [{
    relativePath := ".", comparisonKey := ".", coverageState := "COMPLETE"
    caseMode := "CASE_SENSITIVE", caseModeEvidence := "probe"
    caseContextHash := String.ofList (List.replicate 64 '0') }]
  issues := []
  filterDecisions
  batches := [{
    sequenceNo := 0, payloadHash := String.ofList (List.replicate 64 '0'), entryCount := 0
    coverageUpdateCount := 1, issueCount := 0, approximateBytes := 0
    filterDecisionCount := filterDecisions.length }]
  caseCollisionGroupCount := 0
  snapshotSchemaVersion := 3

theorem snapshotSeal_of_validate (rows : SnapshotRows) {version : String}
    (h : validateSnapshotSealInputs rows.ordered = .ok ())
    (hversion : snapshotSerializerVersion rows.ordered.snapshotSchemaVersion = .ok version) :
    snapshotSeal rows = .ok (sealedSnapshot rows.ordered version) :=
  snapshotSeal_eq_ok.mpr ⟨h, version, hversion, validateSealedSnapshot_sealedSnapshot h hversion,
    rfl⟩

def excludedDecision : SnapshotFilterDecision where
  relativePath := "a.tmp"
  objectType := "file"
  decisionState := "EXCLUDED"
  reasonCode := "FILTER_RULE_EXCLUDED"
  matchedRuleId := none
  evaluationStage := "PRE_METADATA"

def tripRows : SnapshotRows :=
  { emptyRows [excludedDecision] with
    entries := [
      { entryId := "folder", relativePath := "Trip", comparisonKey := "trip"
        objectType := "directory", birthtimeNs := some 1 },
      { entryId := "picture", relativePath := "Trip/a.jpg", comparisonKey := "trip/a.jpg"
        objectType := "file", sizeBytes := some 7, birthtimeNs := some 2
        identityFingerprintHash := some (String.ofList (List.replicate 64 '1')) }]
    issues := [
      { relativePath := "Trip", issueType := "CHANGED", blocksDestructiveActions := false },
      { relativePath := "Trip", issueType := "SLOW", blocksDestructiveActions := false
        errorCode := some "RETRIED" }]
    batches := [{
      sequenceNo := 0, payloadHash := String.ofList (List.replicate 64 '0'), entryCount := 2
      coverageUpdateCount := 1, issueCount := 2, approximateBytes := 7
      filterDecisionCount := 1 }]
    snapshotSchemaVersion := 4 }

def swappedRows : SnapshotRows :=
  { tripRows with
    entries := tripRows.entries.reverse
    issues := tripRows.issues.reverse }

theorem tripRows_sealed : ∃ snapshot, snapshotSeal tripRows = .ok snapshot ∧
    snapshotSeal swappedRows = .ok snapshot ∧
    verifySnapshotChecksum snapshot swappedRows.entries tripRows.coverage swappedRows.issues
      tripRows.batches tripRows.filterDecisions = true ∧ tripRows.AgreeUpTo swappedRows := by
  have hsealed := snapshotSeal_of_validate tripRows (by rfl) rfl
  obtain ⟨hpermuted, hsame⟩ := sealing_snapshot hsealed
  have hdiffer : ∀ a ∈ tripRows.issues, ∀ b ∈ tripRows.issues,
      snapshotIssueSortKey a = snapshotIssueSortKey b → a = b := by decide
  obtain ⟨hswapped, hverified⟩ := hpermuted hdiffer swappedRows
    ⟨(List.reverse_perm _).symm, .refl _, (List.reverse_perm _).symm, .refl _, .refl _, rfl, rfl,
      rfl⟩
  refine ⟨_, hsealed, hswapped, hverified, (hsame swappedRows _ hswapped ?_ rfl).1⟩
  intro serializer serializer' hserializer hserializer' _
  cases hserializer.symm.trans hserializer'
  exact congrArg (snapshotText · serializer) (by rfl : tripRows.ordered = swappedRows.ordered)

/-- Snapshots of the third schema with one checksum that differ in a count. -/
theorem decisions_not_covered : ∃ snapshot snapshot',
    snapshotSeal (emptyRows []) = .ok snapshot ∧
      snapshotSeal (emptyRows [excludedDecision]) = .ok snapshot' ∧
      snapshot.snapshotChecksum = snapshot'.snapshotChecksum ∧
      snapshot.filterDecisionCount ≠ snapshot'.filterDecisionCount := by
  refine ⟨_, _, snapshotSeal_of_validate (emptyRows []) (by rfl) rfl,
    snapshotSeal_of_validate (emptyRows [excludedDecision]) (by rfl) rfl, ?_, ?_⟩
  · exact congrArg Sha256.hexdigest (congrArg Json.dump rfl)
  · decide

end MediaSync.Snapshots
