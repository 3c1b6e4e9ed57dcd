import MediaSync.Foundation.SafePaths
import MediaSync.Plans.Checksum
import MediaSync.Plans.InitialBackup

/-! The operations of a plan, traced back to a target and an entry of the source. -/
namespace MediaSync.Plans
open Text Recovery Snapshots Jobs

inductive Planned (policy : AutomationPolicy) (operation : PlanOperation) : Prop where
  | blocked (operationType : operation.operationType = .blockEndpointCapabilitiesUnknown)
      (risk : operation.riskLevel = .blocked)
  | deferred (operationType : operation.operationType = .deferAutomationPolicy)
      (risk : operation.riskLevel ≠ .blocked)
  | directory (allowed : policy ≠ .analyzeOnly)
      (operationType : operation.operationType = .createDirectory)
      (precondition : operation.targetPreconditionKind = .absent)
      (risk : operation.riskLevel = .low)
  | copy (allowed : policy ≠ .analyzeOnly) (operationType : operation.operationType = .copyNew)
      (precondition : operation.targetPreconditionKind = .absent)
      (reason : operation.reasonCode = "COPY_NEW") (risk : operation.riskLevel = .low)
  | replacement (allowed : policy = .newAndChangedWithVersions)
      (operationType : operation.operationType = .copyNew)
      (precondition : operation.targetPreconditionKind = .matchFingerprint)
      (reason : operation.reasonCode = "REPLACE_WITH_VERSION")
      (risk : operation.riskLevel = .medium)

structure Placed (slot : EntrySlot) (operation : PlanOperation) : Prop where
  endpoint : operation.targetEndpointId = some slot.targetEndpointId
  path : operation.targetRelativePath = some slot.entry.relativePath
  sequenceNo : operation.sequenceNo = slot.sequenceNo

/-- What becomes of an entry of the source on one target, under a policy. -/
inductive Decided (policy : AutomationPolicy) (slot : EntrySlot) (side : TargetSide) :
    Option PlanOperation → Prop where
  | present {target : SnapshotFileEntry} (found : side.entry = some target)
      (source : slot.entry.objectType = "directory") (there : target.objectType = "directory") :
      Decided policy slot side none
  | same {target : SnapshotFileEntry} (found : side.entry = some target)
      (source : slot.entry.objectType = "file") (there : target.objectType = "file")
      (equal : sameContent side slot.entry target = true) : Decided policy slot side none
  | blocked {operation : PlanOperation} (placed : Placed slot operation)
      (block : operation.operationType = .blockEndpointCapabilitiesUnknown)
      (risk : operation.riskLevel = .blocked) : Decided policy slot side (some operation)
  | deferred {operation : PlanOperation} (placed : Placed slot operation)
      (deferral : operation.operationType = .deferAutomationPolicy)
      (risk : operation.riskLevel ≠ .blocked)
      (directory : slot.entry.objectType = "directory" → policy = .analyzeOnly) :
      Decided policy slot side (some operation)
  | directory {operation : PlanOperation} (placed : Placed slot operation)
      (allowed : policy ≠ .analyzeOnly) (missing : side.entry = none)
      (source : slot.entry.objectType = "directory")
      (creation : operation.operationType = .createDirectory)
      (kind : operation.targetPreconditionKind = .absent) (risk : operation.riskLevel = .low) :
      Decided policy slot side (some operation)
  | copy {operation : PlanOperation} (placed : Placed slot operation)
      (allowed : policy ≠ .analyzeOnly) (missing : side.entry = none)
      (source : slot.entry.objectType = "file") (copying : operation.operationType = .copyNew)
      (kind : operation.targetPreconditionKind = .absent)
      (reason : operation.reasonCode = "COPY_NEW") (risk : operation.riskLevel = .low)
      (content : operation.sourceRelativePath = some slot.entry.relativePath) :
      Decided policy slot side (some operation)
  | replacement {operation : PlanOperation} {target : SnapshotFileEntry}
      (placed : Placed slot operation) (allowed : policy = .newAndChangedWithVersions)
      (found : side.entry = some target) (source : slot.entry.objectType = "file")
      (there : target.objectType = "file") (gate : side.destructiveBlockReason = none)
      (copying : operation.operationType = .copyNew)
      (kind : operation.targetPreconditionKind = .matchFingerprint)
      (reason : operation.reasonCode = "REPLACE_WITH_VERSION")
      (risk : operation.riskLevel = .medium)
      (content : operation.sourceRelativePath = some slot.entry.relativePath) :
      Decided policy slot side (some operation)

section
variable {policy : AutomationPolicy} {slot : EntrySlot} {side : TargetSide}
  {operation : PlanOperation}

theorem plannedOperation_ok {operationType : OperationType} {kind : PreconditionKind}
    {reasonCode : String} {riskLevel : RiskLevel} {plannedBytes : Int}
    {sourceSnapshotId : Option String}
    (h : plannedOperation slot operationType kind reasonCode riskLevel plannedBytes
      sourceSnapshotId = .ok operation) :
    Placed slot operation ∧ operation.operationType = operationType ∧
      operation.targetPreconditionKind = kind ∧ operation.reasonCode = reasonCode ∧
      operation.riskLevel = riskLevel ∧ (operationType = .copyNew →
        operation.sourceRelativePath = some slot.entry.relativePath) := by
  obtain ⟨source, hsource, hoperation⟩ := except_bind_ok h
  cases hoperation
  refine ⟨⟨rfl, rfl, rfl⟩, rfl, rfl, rfl, rfl, fun hcopy => ?_⟩
  unfold plannedSource at hsource
  rw [if_pos hcopy] at hsource
  split at hsource
  · dsimp only at hsource
    split at hsource
    · cases hsource
      rfl
    · cases hsource
  · cases hsource

theorem Decided.of_blocked {reasonCode : String}
    (h : blockedOperation slot reasonCode = .ok operation) :
    Decided policy slot side (some (applyAutomationPolicy policy operation)) := by
  obtain ⟨hplaced, htype, -, -, hrisk, -⟩ := plannedOperation_ok h
  rw [applyAutomationPolicy, if_pos hrisk]
  exact .blocked hplaced htype hrisk

theorem Decided.of_policy (hplaced : Placed slot operation)
    (hrisk : operation.riskLevel ≠ .blocked)
    (hallowed : automationPolicyAllows policy operation = true →
      Decided policy slot side (some operation))
    (hdirectory : automationPolicyAllows policy operation ≠ true →
      slot.entry.objectType = "directory" → policy = .analyzeOnly) :
    Decided policy slot side (some (applyAutomationPolicy policy operation)) := by
  rw [applyAutomationPolicy, if_neg hrisk]
  by_cases hallows : automationPolicyAllows policy operation = true
  · rw [if_pos hallows]
    exact hallowed hallows
  · rw [if_neg hallows]
    exact .deferred ⟨hplaced.endpoint, hplaced.path, hplaced.sequenceNo⟩ rfl hrisk
      (hdirectory hallows)

theorem automationPolicyAllows_policy (h : automationPolicyAllows policy operation = true) :
    policy ≠ .analyzeOnly := by
  rintro rfl
  simp [automationPolicyAllows] at h

theorem Decided.of_planEntry {outcome : Option PlanOperation}
    (h : planEntry slot side = .ok outcome) :
    Decided policy slot side (outcome.map (applyAutomationPolicy policy)) := by
  have hsome : ∀ {x : Except PlanningRaised PlanOperation},
      some <$> x = .ok outcome → ∃ planned, outcome = some planned ∧ x = .ok planned := by
    intro x hx
    cases x with
    | error raised => cases hx
    | ok planned => exact ⟨planned, (Except.ok.inj hx).symm, rfl⟩
  unfold planEntry at h
  split at h
  -- a directory of the source
  · rename_i hsource
    cases hentry : side.entry with
    | none =>
      rw [hentry] at h
      obtain ⟨planned, rfl, hplanned⟩ := hsome h
      obtain ⟨hplaced, htype, hkind, -, hrisk, -⟩ := plannedOperation_ok hplanned
      refine .of_policy hplaced (by rw [hrisk]; decide) (fun hallows => ?_) fun hrefused _ => ?_
      · exact .directory hplaced (automationPolicyAllows_policy hallows) hentry hsource htype hkind
          hrisk
      · by_contra hpolicy
        exact hrefused (by simp [automationPolicyAllows, hpolicy, htype, hrisk])
    | some target =>
      rw [hentry] at h
      dsimp only at h
      split at h
      · rename_i htarget
        cases h
        exact .present hentry hsource htarget
      · obtain ⟨planned, rfl, hplanned⟩ := hsome h
        exact .of_blocked hplanned
  rename_i hdirectory
  split at h
  · obtain ⟨planned, rfl, hplanned⟩ := hsome h
    exact .of_blocked hplanned
  -- a file of the source
  rename_i hfile
  have hsource : slot.entry.objectType = "file" := not_not.mp hfile
  cases hentry : side.entry with
  | none =>
    rw [hentry] at h
    obtain ⟨planned, rfl, hplanned⟩ := hsome h
    obtain ⟨hplaced, htype, hkind, hreason, hrisk, hcontent⟩ := plannedOperation_ok hplanned
    refine .of_policy hplaced (by rw [hrisk]; decide) (fun hallows => ?_)
      fun _ h => absurd h hdirectory
    exact .copy hplaced (automationPolicyAllows_policy hallows) hentry hsource htype hkind hreason
      hrisk (hcontent rfl)
  | some target =>
    rw [hentry] at h
    dsimp only at h
    split at h
    · rename_i htarget
      split at h
      · rename_i hequal
        cases h
        exact .same hentry hsource htarget hequal
      -- the target has another file there: it is replaced behind the gate, or blocked
      · obtain ⟨planned, rfl, hplanned⟩ := hsome h
        unfold replacementOperation at hplanned
        split at hplanned
        · exact .of_blocked hplanned
        · rename_i hgate
          obtain ⟨hplaced, htype, hkind, hreason, hrisk, hcontent⟩ :=
            plannedOperation_ok hplanned
          refine .of_policy hplaced (by rw [hrisk]; decide) (fun hallows => ?_)
            fun _ h => absurd h hdirectory
          have hpolicy : policy = .newAndChangedWithVersions := by
            have hpolicy := automationPolicyAllows_policy hallows
            simpa [automationPolicyAllows, hpolicy, htype, hkind, hreason, hrisk] using hallows
          exact .replacement hplaced hpolicy hentry hsource htarget hgate htype hkind hreason
            hrisk (hcontent rfl)
    split at h
    · obtain ⟨planned, rfl, hplanned⟩ := hsome h
      unfold replacementOperation at hplanned
      split at hplanned
      · exact .of_blocked hplanned
      · obtain ⟨hplaced, htype, hkind, -, hrisk, -⟩ := plannedOperation_ok hplanned
        refine .of_policy hplaced (by rw [hrisk]; decide)
          (fun hallows => ?_) fun _ h => absurd h hdirectory
        have hpolicy := automationPolicyAllows_policy hallows
        simp [automationPolicyAllows, hpolicy, htype, hkind, hrisk] at hallows
    · obtain ⟨planned, rfl, hplanned⟩ := hsome h
      exact .of_blocked hplanned

end

section
variable {folding : CaseFolding} {policy : AutomationPolicy}
  {source target : InitialBackupPlanningEndpoint} {operations : List PlanOperation}

def InitialBackupPlanningEndpoint.key (folding : CaseFolding)
    (target : InitialBackupPlanningEndpoint) (entry : SnapshotFileEntry) : String :=
  targetComparisonKey folding entry.relativePath target.rootCaseMode

/-- The slot of an entry that so many operations precede. -/
def TargetContext.slot (folding : CaseFolding) (context : TargetContext)
    (entry : SnapshotFileEntry) (count : Nat) : EntrySlot where
  planId := context.planId
  targetEndpointId := context.target.endpointId
  targetOrdinal := context.target.targetOrdinal
  entry
  targetComparisonKey := context.target.key folding entry
  sequenceNo := context.firstSequenceNo + count

/-- What the loop over the entries emits, from a number of operations on. -/
inductive Emits (folding : CaseFolding) (context : TargetContext) :
    Nat → List SnapshotFileEntry → List PlanOperation → Prop where
  | nil {count : Nat} : Emits folding context count [] []
  | cons {count : Nat} {entry : SnapshotFileEntry} {rest : List SnapshotFileEntry}
      {outcome : Option PlanOperation} {operations : List PlanOperation}
      (decided : Decided context.automationPolicy (context.slot folding entry count)
        (context.side entry (context.target.key folding entry)) outcome)
      (others : Emits folding context (count + outcome.toList.length) rest operations) :
      Emits folding context count (entry :: rest) (outcome.toList ++ operations)

/-- The directories that the operations create, under their keys on the target. -/
def createdDirectories (folding : CaseFolding) (target : InitialBackupPlanningEndpoint)
    (operations : List PlanOperation) : List (String × String) :=
  (operations.filter (·.operationType = .createDirectory)).filterMap fun operation =>
    operation.targetRelativePath.map fun path =>
      (targetComparisonKey folding path target.rootCaseMode, operation.operationId)

theorem Decided.planned {slot : EntrySlot} {side : TargetSide} {operation : PlanOperation}
    (h : Decided policy slot side (some operation)) : Planned policy operation := by
  cases h with
  | blocked _ htype hrisk => exact .blocked htype hrisk
  | deferred _ htype hrisk _ => exact .deferred htype hrisk
  | directory _ hallowed _ _ htype hkind hrisk => exact .directory hallowed htype hkind hrisk
  | copy _ hallowed _ _ htype hkind hreason hrisk _ =>
    exact .copy hallowed htype hkind hreason hrisk
  | replacement _ hallowed _ _ _ _ htype hkind hreason hrisk _ =>
    exact .replacement hallowed htype hkind hreason hrisk

theorem Decided.placed {slot : EntrySlot} {side : TargetSide} {operation : PlanOperation}
    (h : Decided policy slot side (some operation)) : Placed slot operation := by
  cases h <;> assumption

theorem Planned.not_blocked {operation : PlanOperation} (h : Planned policy operation)
    (hcreation : operation.operationType = .createDirectory) :
    operation.riskLevel ≠ .blocked := by
  cases h with
  | blocked htype _ => exact absurd (htype.symm.trans hcreation) (by decide)
  | deferred _ hrisk => exact hrisk
  | directory _ _ _ hrisk | copy _ _ _ _ hrisk | replacement _ _ _ _ hrisk =>
    rw [hrisk]
    decide

theorem emits_of_planEntries {context : TargetContext} {entries : List SnapshotFileEntry}
    {operations' : List PlanOperation} {directories directories' : List (String × String)}
    (h : planEntriesFrom folding context operations directories entries =
      .ok (operations', directories')) :
    ∃ planned, operations' = operations ++ planned ∧
      Emits folding context operations.length entries planned ∧
      directories' =
        (createdDirectories folding context.target planned).reverse ++ directories := by
  induction entries generalizing operations directories with
  | nil =>
    cases h
    exact ⟨[], (List.append_nil _).symm, .nil, rfl⟩
  | cons entry rest ih =>
    obtain ⟨outcome, hentry, hrest⟩ := except_bind_ok h
    have hdecided : Decided context.automationPolicy _ _ _ := .of_planEntry hentry
    cases outcome with
    | none =>
      obtain ⟨planned, hoperations, hplanned, hdirectories⟩ := ih hrest
      exact ⟨planned, hoperations, .cons hdecided hplanned, hdirectories⟩
    | some proposed =>
      obtain ⟨planned, hoperations, hplanned, hdirectories⟩ := ih hrest
      rw [List.length_append] at hplanned
      refine ⟨[applyAutomationPolicy context.automationPolicy proposed] ++ planned, ?_,
        .cons hdecided hplanned, ?_⟩
      · rw [hoperations, List.append_assoc]
      · have hcreated := hdecided.planned.not_blocked
        have hpath := hdecided.placed.path
        rw [hdirectories]
        by_cases htype : (applyAutomationPolicy context.automationPolicy proposed).operationType =
            .createDirectory
        · rw [if_pos (by simpa [htype] using hcreated htype)]
          simp [createdDirectories, htype, hpath]
        · rw [if_neg (by simp [htype])]
          simp [createdDirectories, htype]

theorem Emits.createdKeys {context : TargetContext} {count : Nat}
    {entries : List SnapshotFileEntry} (h : Emits folding context count entries operations) :
    ((createdDirectories folding context.target operations).map Prod.fst).Sublist
      (entries.map (context.target.key folding)) := by
  induction h with
  | nil => exact .slnil
  | @cons _ entry _ outcome operations decided _ ih =>
    cases outcome with
    | none => exact ih.cons _
    | some planned =>
      by_cases htype : planned.operationType = .createDirectory
      · have hpath : planned.targetRelativePath = some entry.relativePath := decided.placed.path
        have hcreated : createdDirectories folding context.target
            ((some planned).toList ++ operations) =
              (context.target.key folding entry, planned.operationId) ::
                createdDirectories folding context.target operations := by
          simp [createdDirectories, htype, hpath, InitialBackupPlanningEndpoint.key]
        rw [hcreated, List.map_cons, List.map_cons]
        exact ih.cons_cons _
      · simpa [createdDirectories, htype] using ih.cons _

theorem lookup_of_nodup {items : List (String × String)} {key value : String}
    (hkeys : (items.map Prod.fst).Nodup) (hmem : (key, value) ∈ items) :
    items.lookup key = some value := by
  induction items with
  | nil => cases hmem
  | cons first rest ih =>
    rw [List.map_cons, List.nodup_cons] at hkeys
    rw [List.lookup_cons]
    rcases List.mem_cons.mp hmem with rfl | hrest
    · rw [beq_self_eq_true]
    · have hne : key ≠ first.1 := fun heq =>
        hkeys.1 (heq ▸ List.mem_map.mpr ⟨(key, value), hrest, rfl⟩)
      rw [beq_false_of_ne hne]
      exact ih hkeys.2 hrest

/-- The indices under which a target's operations are planned. -/
structure ContextOf (folding : CaseFolding) (source target : InitialBackupPlanningEndpoint)
    (policy : AutomationPolicy) (context : TargetContext) : Prop where
  fromSource : context.source = source
  onTarget : context.target = target
  underPolicy : context.automationPolicy = policy
  sourceKeys : (source.entries.map (target.key folding)).Nodup
  targetKeys : context.targetEntries = target.entries.map fun entry =>
    (target.key folding entry, entry)
  sourceHashes : context.sourceHashEvidence = source.hashEvidence.map fun evidence =>
    (evidence.entryId, evidence)
  targetHashes : context.targetHashEvidence = target.hashEvidence.map fun evidence =>
    (evidence.entryId, evidence)

/-- Whatever is planned inside a directory that is created depends on its creation. -/
def ChildrenWait (folding : CaseFolding) (target : InitialBackupPlanningEndpoint)
    (operations : List PlanOperation) (dependencies : List PlanDependency) : Prop :=
  ∀ parent ∈ operations, ∀ child ∈ operations, ∀ path inside,
    parent.operationType = .createDirectory → parent.targetRelativePath = some path →
    child.targetRelativePath = some inside →
    parentComparisonKey folding inside target.rootCaseMode =
      some (targetComparisonKey folding path target.rootCaseMode) →
    parent.operationId ≠ child.operationId →
    ⟨parent.operationId, child.operationId⟩ ∈ dependencies

theorem ChildrenWait.mono {dependencies dependencies' : List PlanDependency}
    (h : ChildrenWait folding target operations dependencies)
    (hsubset : dependencies ⊆ dependencies') :
    ChildrenWait folding target operations dependencies' :=
  fun parent hparent child hchild path inside htype hpath hinside hkey hne =>
    hsubset (h parent hparent child hchild path inside htype hpath hinside hkey hne)

def PlannedFor (folding : CaseFolding) (source : InitialBackupPlanningEndpoint)
    (policy : AutomationPolicy) (firstSequenceNo : Int) (target : InitialBackupPlanningEndpoint)
    (operations : List PlanOperation) : Prop :=
  ∃ context, ContextOf folding source target policy context ∧
    context.firstSequenceNo = firstSequenceNo ∧
    Emits folding context 0 (source.entries.insertionSort entryOrder) operations

theorem entriesByComparisonKeyFrom_ok {role caseMode : String} {entries : List SnapshotFileEntry}
    {result result' : List (String × SnapshotFileEntry)}
    (h : entriesByComparisonKeyFrom folding role caseMode result entries = .ok result') :
    let keyed := entries.map fun entry =>
      (targetComparisonKey folding entry.relativePath caseMode, entry)
    result' = result ++ keyed ∧ (keyed.map Prod.fst).Nodup ∧
      ∀ key ∈ keyed.map Prod.fst, key ∉ result.map Prod.fst := by
  induction entries generalizing result with
  | nil =>
    cases h
    exact ⟨(List.append_nil _).symm, List.nodup_nil, nofun⟩
  | cons entry rest ih =>
    unfold entriesByComparisonKeyFrom at h
    dsimp only at h
    split at h
    · cases h
    · rename_i hfresh
      obtain ⟨hresult, hnodup, hapart⟩ := ih h
      have hnew : targetComparisonKey folding entry.relativePath caseMode ∉
          result.map Prod.fst := by
        simpa [List.mem_map] using hfresh
      refine ⟨by rw [hresult, List.append_assoc]; rfl, List.nodup_cons.mpr ⟨?_, hnodup⟩, ?_⟩
      · intro hmem
        exact hapart _ hmem (by simp)
      · intro key hkey
        rcases List.mem_cons.mp hkey with rfl | hrest
        · exact hnew
        · exact fun hold => hapart key hrest (by simp [List.mem_map.mp hold])

theorem hashEvidenceByEntryIdFrom_ok {evidence : List CurrentReadHashEvidence}
    {result result' : List (String × CurrentReadHashEvidence)}
    (h : hashEvidenceByEntryIdFrom target result evidence = .ok result') :
    result' = result ++ evidence.map fun evidence => (evidence.entryId, evidence) := by
  induction evidence generalizing result with
  | nil =>
    cases h
    exact (List.append_nil _).symm
  | cons first rest ih =>
    unfold hashEvidenceByEntryIdFrom at h
    split at h
    · cases h
    · rw [ih h, List.append_assoc]
      rfl

theorem plannedFor_of_planTarget {planId : String} {firstSequenceNo : Int}
    {dependencies : List PlanDependency}
    (h : planTarget folding planId source target firstSequenceNo policy =
      .ok (operations, dependencies)) :
    PlannedFor folding source policy firstSequenceNo target operations ∧
      ChildrenWait folding target operations dependencies := by
  unfold planTarget at h
  split at h
  · cases h
  obtain ⟨sourceEntries, hsource, h⟩ := except_bind_ok h
  obtain ⟨targetEntries, htarget, h⟩ := except_bind_ok h
  obtain ⟨sourceHashes, hsourceHashes, h⟩ := except_bind_ok h
  obtain ⟨targetHashes, htargetHashes, h⟩ := except_bind_ok h
  obtain ⟨⟨planned, directories⟩, hentries, h⟩ := except_bind_ok h
  cases h
  obtain ⟨planned, rfl, hplanned, hdirectories⟩ := emits_of_planEntries hentries
  have hkeys := (entriesByComparisonKeyFrom_ok hsource).2.1
  rw [List.map_map] at hkeys
  refine ⟨⟨_, ⟨rfl, rfl, rfl, hkeys, (entriesByComparisonKeyFrom_ok htarget).1,
    hashEvidenceByEntryIdFrom_ok hsourceHashes, hashEvidenceByEntryIdFrom_ok htargetHashes⟩, rfl,
    hplanned⟩, ?_⟩
  intro parent hparent child hchild path inside htype hpath hinside hkey hne
  have hcreated : (targetComparisonKey folding path target.rootCaseMode, parent.operationId) ∈
      directories := by
    rw [hdirectories, List.append_nil, List.mem_reverse]
    exact List.mem_filterMap.mpr ⟨parent, List.mem_filter.mpr ⟨hparent, by simpa using htype⟩,
      by rw [hpath]; rfl⟩
  have hdistinct : (directories.map Prod.fst).Nodup := by
    rw [hdirectories, List.append_nil, List.map_reverse, List.nodup_reverse]
    exact hplanned.createdKeys.nodup
      (((List.perm_insertionSort entryOrder source.entries).map _).nodup_iff.mpr hkeys)
  have hlookup := lookup_of_nodup hdistinct hcreated
  refine (List.mem_insertionSort _).mpr (List.mem_dedup.mpr
    (List.mem_filterMap.mpr ⟨child, hchild, ?_⟩))
  obtain ⟨first, others, hcomponents⟩ := List.exists_cons_of_ne_nil (components_ne_nil inside)
  rw [hinside, Option.bind_some, hkey, hcomponents, List.length_cons, nearestDirectory, hlookup,
    Option.filter_some, if_pos (by simpa using hne)]

end

section
variable {folding : CaseFolding} {context : TargetContext} {count : Nat}
  {entries : List SnapshotFileEntry} {operations : List PlanOperation} {operation : PlanOperation}

theorem Emits.sequenceNo (h : Emits folding context count entries operations) {i : Nat}
    (hget : operations[i]? = some operation) :
    operation.sequenceNo = context.firstSequenceNo + (count + i : Nat) := by
  induction h generalizing i with
  | nil => cases hget
  | @cons count entry rest outcome _ decided _ ih =>
    cases outcome with
    | none => exact ih hget
    | some planned =>
      cases i with
      | zero =>
        obtain rfl : planned = operation := Option.some.inj hget
        exact decided.placed.sequenceNo
      | succ i =>
        rw [ih hget, Option.toList_some, List.length_singleton, Nat.add_assoc, Nat.add_comm 1 i]

theorem Emits.decided (h : Emits folding context count entries operations)
    (hmem : operation ∈ operations) :
    ∃ entry ∈ entries, ∃ n, Decided context.automationPolicy (context.slot folding entry n)
      (context.side entry (context.target.key folding entry)) (some operation) := by
  induction h with
  | nil => cases hmem
  | @cons count entry rest outcome _ decided _ ih =>
    rcases List.mem_append.mp hmem with hhere | hrest
    · rw [Option.mem_toList.mp hhere] at decided
      exact ⟨entry, List.mem_cons_self, count, decided⟩
    · obtain ⟨other, hother, hdecided⟩ := ih hrest
      exact ⟨other, List.mem_cons_of_mem _ hother, hdecided⟩

theorem Emits.outcome (h : Emits folding context count entries operations)
    {entry : SnapshotFileEntry} (hentry : entry ∈ entries) :
    ∃ n outcome, Decided context.automationPolicy (context.slot folding entry n)
      (context.side entry (context.target.key folding entry)) outcome ∧
        ∀ operation, outcome = some operation → operation ∈ operations := by
  induction h with
  | nil => cases hentry
  | @cons count _ _ outcome _ decided _ ih =>
    rcases List.mem_cons.mp hentry with heq | hrest
    · subst heq
      exact ⟨count, outcome, decided, fun operation heq =>
        List.mem_append_left _ (Option.mem_toList.mpr heq)⟩
    · obtain ⟨n, outcome, hdecided, hmem⟩ := ih hrest
      exact ⟨n, outcome, hdecided, fun operation heq =>
        List.mem_append_right _ (hmem operation heq)⟩

theorem Emits.paths (h : Emits folding context count entries operations) :
    (operations.map PlanOperation.targetRelativePath).Sublist
      (entries.map fun entry => some entry.relativePath) := by
  induction h with
  | nil => exact .slnil
  | @cons _ _ _ outcome _ decided _ ih =>
    cases outcome with
    | none => exact ih.cons _
    | some planned =>
      rw [Option.toList_some, List.singleton_append, List.map_cons, List.map_cons,
        decided.placed.path]
      exact ih.cons_cons _

end

def Numbered (operations : List PlanOperation) : Prop :=
  ∀ (i : Nat) operation, operations[i]? = some operation → operation.sequenceNo = (i + 1 : Nat)

section
variable {folding : CaseFolding} {interpreter : Interpreter} {request : InitialBackupPlanRequest}
  {source : InitialBackupPlanningEndpoint} {policy : AutomationPolicy}
  {build : InitialBackupPlanBuild}

theorem Numbered.append {target : InitialBackupPlanningEndpoint}
    {operations planned : List PlanOperation} (h : Numbered operations)
    (hplanned : PlannedFor folding source policy (operations.length + 1) target planned) :
    Numbered (operations ++ planned) := by
  obtain ⟨context, -, hfirst, hemits⟩ := hplanned
  intro i operation hget
  rcases Nat.lt_or_ge i operations.length with hlt | hge
  · rw [List.getElem?_append_left hlt] at hget
    exact h i operation hget
  · rw [List.getElem?_append_right hge] at hget
    rw [hemits.sequenceNo hget, hfirst]
    omega

theorem Numbered.ordered {operations : List PlanOperation} (h : Numbered operations) :
    operations.Pairwise operationOrder := by
  rw [List.pairwise_iff_getElem]
  intro i j hi hj hlt
  show operations[i].sequenceNo ≤ operations[j].sequenceNo
  rw [h i _ (List.getElem?_eq_getElem hi), h j _ (List.getElem?_eq_getElem hj)]
  omega

abbrev TargetPart := InitialBackupPlanningEndpoint × List PlanOperation

def TargetPart.endpoint (part : TargetPart) : PlanEndpoint :=
  let mutating := part.2.filter fun operation =>
    operation.mutating && operation.riskLevel ≠ .blocked
  planEndpoint part.1 mutating.length (mutating.map PlanOperation.plannedBytes).sum

theorem parts_of_targets {planId : String} {targets : List InitialBackupPlanningEndpoint}
    {operations operations' : List PlanOperation} {dependencies dependencies' : List PlanDependency}
    {endpoints endpoints' : List PlanEndpoint}
    (h : planTargetsFrom folding planId source policy operations dependencies endpoints targets =
      .ok (operations', dependencies', endpoints')) (hnumbered : Numbered operations) :
    ∃ parts : List TargetPart, parts.map Prod.fst = targets ∧
      operations' = operations ++ parts.flatMap Prod.snd ∧
      endpoints' = endpoints ++ parts.map TargetPart.endpoint ∧ Numbered operations' ∧
      (∀ part ∈ parts, (∃ n, PlannedFor folding source policy n part.1 part.2) ∧
        ChildrenWait folding part.1 part.2 dependencies') ∧ dependencies ⊆ dependencies' := by
  induction targets generalizing operations dependencies endpoints with
  | nil =>
    cases h
    exact ⟨[], rfl, (List.append_nil _).symm, (List.append_nil _).symm, hnumbered,
      List.forall_mem_nil _, List.Subset.refl _⟩
  | cons target rest ih =>
    obtain ⟨⟨planned, waits⟩, htarget, hrest⟩ := except_bind_ok h
    obtain ⟨hplanned, hwaits⟩ := plannedFor_of_planTarget htarget
    obtain ⟨parts, htargets, hoperations, hendpoints, hall, hparts, hsubset⟩ :=
      ih hrest (hnumbered.append hplanned)
    refine ⟨(target, planned) :: parts, by rw [List.map_cons, htargets], ?_, ?_, hall, ?_,
      fun _ hold => hsubset (List.mem_append_left _ hold)⟩
    · rw [hoperations, List.append_assoc]
      rfl
    · rw [hendpoints, List.append_assoc]
      rfl
    · intro part hpart
      rcases List.mem_cons.mp hpart with rfl | hold
      · exact ⟨⟨_, hplanned⟩, hwaits.mono fun _ hnew => hsubset (List.mem_append_right _ hnew)⟩
      · exact hparts part hold

/-- How a build is put together of the operations for each writable target. -/
structure BuiltFrom (folding : CaseFolding) (request : InitialBackupPlanRequest)
    (build : InitialBackupPlanBuild) (source : InitialBackupPlanningEndpoint)
    (parts : List TargetPart) : Prop where
  single : request.endpoints.filter (·.role = .source) = [source]
  targets : (parts.map Prod.fst).Perm (request.endpoints.filter (·.role = .targetWritable))
  planned : ∀ part ∈ parts, ∃ n, PlannedFor folding source request.automationPolicy n part.1 part.2
  operations : build.plan.elim [] PlanRecord.operations = parts.flatMap Prod.snd
  numbered : Numbered (parts.flatMap Prod.snd)
  endpoints : ∀ plan, build.plan = some plan →
    plan.endpoints.Perm (planEndpoint source :: parts.map TargetPart.endpoint)
  distinct : ∀ plan, build.plan = some plan → (plan.endpoints.map PlanEndpoint.endpointId).Nodup
  waits : ∀ plan, build.plan = some plan → ∀ part ∈ parts,
    ChildrenWait folding part.1 part.2 plan.dependencies
  sealed : ∀ plan, build.plan = some plan →
    plan.executionPolicy = policyValue request.automationPolicy ∧
      plan.riskSummary = riskSummary plan.operations

theorem endpoint_of_part {parts : List TargetPart}
    (hplanned : ∀ part ∈ parts, ∃ n, PlannedFor folding source policy n part.1 part.2)
    {operation : PlanOperation} (hmem : operation ∈ parts.flatMap Prod.snd) :
    ∃ part ∈ parts, operation ∈ part.2 ∧ operation.targetEndpointId = some part.1.endpointId := by
  obtain ⟨part, hpart, hmem⟩ := List.mem_flatMap.mp hmem
  obtain ⟨n, context, hcontext, -, hemits⟩ := hplanned part hpart
  obtain ⟨entry, -, n, hdecided⟩ := hemits.decided hmem
  refine ⟨part, hpart, hmem, ?_⟩
  rw [hdecided.placed.endpoint, ← hcontext.onTarget]
  rfl

theorem bindSingleTargetOperations_bound {operations : List PlanOperation}
    {endpoints : List PlanEndpoint}
    (h : ∀ operation ∈ operations, operation.targetEndpointId.isSome = true) :
    bindSingleTargetOperations operations endpoints = operations := by
  unfold bindSingleTargetOperations
  split
  · rw [List.map_congr_left fun operation hmem => if_pos (h operation hmem), List.map_id']
  · rfl

theorem builtFrom_of_build (h : buildInitialBackupPlan folding interpreter request = .ok build) :
    ∃ source parts, BuiltFrom folding request build source parts := by
  unfold buildInitialBackupPlan at h
  split at h
  · rename_i source hsource
    dsimp only at h
    split at h
    · cases h
    obtain ⟨⟨operations, dependencies, endpoints⟩, htargets, h⟩ := except_bind_ok h
    obtain ⟨parts, hparts, hoperations, hendpoints, hnumbered, hall, -⟩ :=
      parts_of_targets htargets fun _ _ hget => absurd hget (Option.some_ne_none _).symm
    obtain rfl : operations = parts.flatMap Prod.snd := hoperations
    have hplanned := fun part hpart => (hall part hpart).1
    have hperm : (parts.map Prod.fst).Perm
        (request.endpoints.filter (·.role = .targetWritable)) := by
      rw [hparts]
      exact List.perm_insertionSort _ _
    dsimp only at h
    split at h
    · rename_i hempty
      cases h
      refine ⟨source, parts, hsource, hperm, hplanned, (List.isEmpty_iff.mp hempty).symm, hnumbered,
        ?_, ?_, ?_, ?_⟩ <;> rintro _ ⟨⟩
    · split at h
      · rename_i sealed hsealed
        cases h
        obtain ⟨-, hvalid, -, -, rfl⟩ := sealPlan_eq_ok.mp hsealed
        refine ⟨source, parts, hsource, hperm, hplanned, ?_, hnumbered, ?_, ?_, ?_, ?_⟩
        · show List.insertionSort operationOrder _ = _
          rw [bindSingleTargetOperations_bound, hnumbered.ordered.insertionSort_eq]
          intro operation hmem
          obtain ⟨part, -, -, hendpoint⟩ := endpoint_of_part hplanned hmem
          rw [hendpoint]
          rfl
        · rintro _ ⟨⟩
          exact (List.perm_insertionSort _ _).trans (.of_eq hendpoints)
        · rintro _ ⟨⟩
          exact (validateEndpoints_eq_ok.mp hvalid).2.1
        · rintro _ ⟨⟩ part hpart
          exact (hall part hpart).2.mono fun _ => (List.mem_insertionSort _).mpr
        · rintro _ ⟨⟩
          exact ⟨rfl, rfl⟩
      · cases h
  · cases h

theorem planned_of_build {plan : PlanRecord}
    (h : buildInitialBackupPlan folding interpreter request = .ok build)
    (hplan : build.plan = some plan) :
    plan.executionPolicy = policyValue request.automationPolicy ∧
      plan.riskSummary = riskSummary plan.operations ∧
      ∀ operation ∈ plan.operations, Planned request.automationPolicy operation := by
  obtain ⟨source, parts, hbuilt⟩ := builtFrom_of_build h
  obtain ⟨hpolicy, hsummary⟩ := hbuilt.sealed plan hplan
  refine ⟨hpolicy, hsummary, fun operation hmem => ?_⟩
  have hoperations := hbuilt.operations
  rw [hplan, Option.elim_some] at hoperations
  rw [hoperations] at hmem
  obtain ⟨part, hpart, hmem⟩ := List.mem_flatMap.mp hmem
  obtain ⟨_, context, hcontext, -, hemits⟩ := hbuilt.planned part hpart
  obtain ⟨entry, -, n, hdecided⟩ := hemits.decided hmem
  exact hcontext.underPolicy ▸ hdecided.planned

end

end MediaSync.Plans
