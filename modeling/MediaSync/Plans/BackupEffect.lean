import MediaSync.Jobs.AutomaticStart
import Mathlib.Logic.Function.Basic

/-! The operations for a target are applied one after the other to what its snapshot shows. -/
namespace MediaSync.Plans
open Text Recovery Snapshots Jobs

/-- What stands under a key; a file by the snapshot and path that its content is from. -/
inductive TreeObject where
  | directory
  | file (snapshotId relativePath : String)
  | other
  deriving DecidableEq

def TreeObject.of (snapshotId : String) (entry : SnapshotFileEntry) : TreeObject :=
  if entry.objectType = "directory" then .directory
  else if entry.objectType = "file" then .file snapshotId entry.relativePath
  else .other

abbrev TargetTree := String → Option TreeObject

section
variable (folding : CaseFolding) (source target : InitialBackupPlanningEndpoint)

def InitialBackupPlanningEndpoint.tree : TargetTree := fun key =>
  (target.entries.find? (target.key folding · = key)).map (.of target.snapshotId)

def operationEffect (key : String) (tree : TargetTree) (operation : PlanOperation) :
    Option TargetTree :=
  match operation.operationType, operation.targetPreconditionKind, tree key with
  | .createDirectory, .absent, none => some (Function.update tree key (some .directory))
  | .copyNew, .absent, none | .copyNew, .matchFingerprint, some (.file _ _) =>
    operation.sourceRelativePath.map fun content =>
      Function.update tree key (some (.file source.snapshotId content))
  | _, _, _ => none

/-- The effect of an operation; none where its precondition fails or its parent is missing. -/
def applyOperation (tree : TargetTree) (operation : PlanOperation) : Option TargetTree :=
  operation.targetRelativePath.bind fun path =>
    if (parentComparisonKey folding path target.rootCaseMode).all fun parent =>
        tree parent = some .directory then
      operationEffect source (targetComparisonKey folding path target.rootCaseMode) tree operation
    else none

def InitialBackupPlanningEndpoint.ParentsPresent : Prop :=
  ∀ entry ∈ source.entries, ∀ parent, parentPath entry.relativePath = some parent →
    ∃ directory ∈ source.entries,
      directory.relativePath = parent ∧ directory.objectType = "directory"

/-- The target has the directory, or a file that was read with the same content. -/
def UpToDate (entry : SnapshotFileEntry) : Prop :=
  ∃ there ∈ target.entries, target.key folding there = target.key folding entry ∧
    (entry.objectType = "directory" ∧ there.objectType = "directory" ∨
      entry.objectType = "file" ∧ there.objectType = "file" ∧
        entry.sizeBytes = there.sizeBytes ∧ ∃ read ∈ source.hashEvidence,
          ∃ found ∈ target.hashEvidence, read.entryId = entry.entryId ∧
            found.entryId = there.entryId ∧ read.contentHash = found.contentHash)

def Deferred (operations : List PlanOperation) (entry : SnapshotFileEntry) : Prop :=
  ∃ operation ∈ operations, operation.targetRelativePath = some entry.relativePath ∧
    operation.operationType = .deferAutomationPolicy

/-- What is found on the target after the operations for these entries of the source. -/
structure Applied (policy : AutomationPolicy) (operations : List PlanOperation)
    (entries : List SnapshotFileEntry) (before after : TargetTree) : Prop where
  directories : ∀ entry ∈ entries, entry.objectType = "directory" → policy ≠ .analyzeOnly →
    after (target.key folding entry) = some .directory
  files : ∀ entry ∈ entries, entry.objectType = "file" →
    after (target.key folding entry) = some (.file source.snapshotId entry.relativePath) ∨
      after (target.key folding entry) = before (target.key folding entry) ∧
        (UpToDate folding source target entry ∨ Deferred operations entry)
  others : ∀ key, (∀ entry ∈ entries, target.key folding entry ≠ key) → after key = before key

/-- The parents of the entries come before them. -/
def ParentsFirst : List SnapshotFileEntry → List SnapshotFileEntry → Prop
  | _, [] => True
  | done, entry :: rest =>
    (∀ parent, parentPath entry.relativePath = some parent → ∃ directory ∈ done,
      directory.relativePath = parent ∧ directory.objectType = "directory") ∧
      ParentsFirst (done ++ [entry]) rest

end

section

instance : Std.Total entryOrder := ⟨fun a b => by
  have hkeys := SortKeys.keyLE_total [a.comparisonKey, a.relativePath]
    [b.comparisonKey, b.relativePath]
  unfold entryOrder
  grind⟩

instance : IsTrans SnapshotFileEntry entryOrder := ⟨fun a b c hab hbc => by
  have hkeys := @SortKeys.keyLE_trans [a.comparisonKey, a.relativePath]
    [b.comparisonKey, b.relativePath] [c.comparisonKey, c.relativePath]
  unfold entryOrder at *
  grind⟩

theorem count_parentPath {path parent : String} (h : parentPath path = some parent) :
    parent.toList.count '/' < path.toList.count '/' := by
  unfold parentPath at h
  split at h
  · rename_i hslash
    obtain rfl := Option.some.inj h
    have hmem : '/' ∈ path.toList.reverse :=
      List.mem_reverse.mpr (by simpa using hslash)
    have hcut : path.toList.reverse.dropWhile (· ≠ '/') ≠ [] := by
      intro hnil
      simpa using List.dropWhile_eq_nil_iff.mp hnil '/' hmem
    obtain ⟨c, rest, hrest⟩ := List.exists_cons_of_ne_nil hcut
    have hc : c = '/' := by
      have hhead := List.head?_dropWhile_not (· ≠ '/') path.toList.reverse
      rw [hrest] at hhead
      simpa using hhead
    have hcount : path.toList.count '/' =
        (path.toList.reverse.takeWhile (· ≠ '/')).count '/' + (c :: rest).count '/' := by
      rw [← hrest, ← List.count_append, List.takeWhile_append_dropWhile, List.count_reverse]
    rw [String.toList_ofList, List.count_reverse, hrest, List.tail_cons, hcount, hc,
      List.count_cons_self]
    omega
  · cases h

theorem ParentsFirst.of_sorted {done entries : List SnapshotFileEntry}
    (hsorted : entries.Pairwise entryOrder)
    (hparents : ∀ entry ∈ entries, ∀ parent, parentPath entry.relativePath = some parent →
      ∃ directory ∈ done ++ entries,
        directory.relativePath = parent ∧ directory.objectType = "directory") :
    ParentsFirst done entries := by
  induction entries generalizing done with
  | nil => trivial
  | cons entry rest ih =>
    obtain ⟨hfirst, hrest⟩ := List.pairwise_cons.mp hsorted
    refine ⟨fun parent hparent => ?_, ih hrest fun other hother parent hparent => ?_⟩
    · obtain ⟨directory, hmem, hpath, htype⟩ := hparents entry List.mem_cons_self parent hparent
      have hdepth := count_parentPath hparent
      rw [← hpath] at hdepth
      rcases List.mem_append.mp hmem with hdone | hlater
      · exact ⟨directory, hdone, hpath, htype⟩
      rcases List.mem_cons.mp hlater with rfl | hlater
      · omega
      · have horder := hfirst directory hlater
        unfold entryOrder at horder
        simp only [htype, if_true] at horder
        omega
    · simpa using hparents other (List.mem_cons_of_mem _ hother) parent hparent

end

section
variable {folding : CaseFolding} {policy : AutomationPolicy}
  {source target : InitialBackupPlanningEndpoint} {all : List PlanOperation}
  {done : List SnapshotFileEntry} {before tree : TargetTree} {entry : SnapshotFileEntry}
  {operation : PlanOperation} {context : TargetContext}

theorem Applied.keep (h : Applied folding source target policy all done before tree)
    (hfresh : ∀ other ∈ done, target.key folding other ≠ target.key folding entry)
    (hdirectory : entry.objectType = "directory" → policy ≠ .analyzeOnly →
      before (target.key folding entry) = some .directory)
    (hfile : entry.objectType = "file" →
      UpToDate folding source target entry ∨ Deferred all entry) :
    Applied folding source target policy all (done ++ [entry]) before tree := by
  have hhere := h.others _ hfresh
  refine ⟨fun other hother htype hpolicy => ?_, fun other hother htype => ?_, fun key hkey => ?_⟩
  · rcases List.mem_append.mp hother with hdone | hnew
    · exact h.directories other hdone htype hpolicy
    · obtain rfl := List.mem_singleton.mp hnew
      exact hhere.trans (hdirectory htype hpolicy)
  · rcases List.mem_append.mp hother with hdone | hnew
    · exact h.files other hdone htype
    · obtain rfl := List.mem_singleton.mp hnew
      exact .inr ⟨hhere, hfile htype⟩
  · exact h.others key fun other hdone => hkey other (List.mem_append_left _ hdone)

theorem Applied.write (h : Applied folding source target policy all done before tree)
    (hfresh : ∀ other ∈ done, target.key folding other ≠ target.key folding entry)
    {object : TreeObject} (hdirectory : entry.objectType = "directory" → object = .directory)
    (hfile : entry.objectType = "file" → object = .file source.snapshotId entry.relativePath) :
    Applied folding source target policy all (done ++ [entry]) before
      (Function.update tree (target.key folding entry) (some object)) := by
  have hold : ∀ other ∈ done,
      Function.update tree (target.key folding entry) (some object) (target.key folding other) =
        tree (target.key folding other) :=
    fun other hdone => Function.update_of_ne (hfresh other hdone) _ _
  refine ⟨fun other hother htype hpolicy => ?_, fun other hother htype => ?_, fun key hkey => ?_⟩
  · rcases List.mem_append.mp hother with hdone | hnew
    · rw [hold other hdone]
      exact h.directories other hdone htype hpolicy
    · obtain rfl := List.mem_singleton.mp hnew
      rw [Function.update_self, hdirectory htype]
  · rcases List.mem_append.mp hother with hdone | hnew
    · rw [hold other hdone]
      exact h.files other hdone htype
    · obtain rfl := List.mem_singleton.mp hnew
      exact .inl (by rw [Function.update_self, hfile htype])
  · rw [Function.update_of_ne (hkey entry (by simp)).symm]
    exact h.others key fun other hdone => hkey other (List.mem_append_left _ hdone)

theorem lookup_keyed {α : Type} (key : α → String) (items : List α) (wanted : String) :
    (items.map fun item => (key item, item)).lookup wanted = items.find? (key · = wanted) := by
  induction items with
  | nil => rfl
  | cons item rest ih =>
    rw [List.map_cons, List.lookup_cons, List.find?_cons, ih]
    by_cases h : wanted = key item
    · simp [h]
    · rw [beq_false_of_ne h]
      simp [Ne.symm h]

theorem side_entry (hcontext : ContextOf folding source target policy context) :
    (context.side entry (target.key folding entry)).entry =
      target.entries.find? (target.key folding · = target.key folding entry) := by
  show context.targetEntries.lookup _ = _
  rw [hcontext.targetKeys, lookup_keyed]

theorem tree_of_side (hcontext : ContextOf folding source target policy context) :
    target.tree folding (target.key folding entry) =
      (context.side entry (target.key folding entry)).entry.map (.of target.snapshotId) := by
  rw [side_entry hcontext]
  rfl

theorem upToDate_of_same (hcontext : ContextOf folding source target policy context)
    {there : SnapshotFileEntry}
    (hfound : (context.side entry (target.key folding entry)).entry = some there)
    (hsource : entry.objectType = "file") (hthere : there.objectType = "file")
    (h : sameContent (context.side entry (target.key folding entry)) entry there = true) :
    UpToDate folding source target entry := by
  have hentry := hfound
  rw [side_entry hcontext] at hentry
  refine ⟨there, List.mem_of_find?_eq_some hentry,
    by simpa using List.find?_some hentry, .inr ⟨hsource, hthere, ?_⟩⟩
  unfold sameContent at h
  obtain ⟨size, hsize, h⟩ := (Option.any_eq_true _ _).mp h
  simp only [Bool.and_eq_true, decide_eq_true_eq] at h
  obtain ⟨⟨hsizes, hcompatible⟩, hhashes⟩ := h
  obtain ⟨read, hread, hhashes⟩ := (Option.any_eq_true _ _).mp hhashes
  obtain ⟨found, hfoundHash, hhashes⟩ := (Option.any_eq_true _ _).mp hhashes
  have hreadMem : read ∈ source.hashEvidence := by
    change context.sourceHashEvidence.lookup entry.entryId = some read at hread
    rw [hcontext.sourceHashes, lookup_keyed] at hread
    exact List.mem_of_find?_eq_some hread
  have hfoundMem : found ∈ target.hashEvidence := by
    change ((context.side entry (target.key folding entry)).entry.bind fun there =>
      context.targetHashEvidence.lookup there.entryId) = some found at hfoundHash
    rw [hfound, Option.bind_some, hcontext.targetHashes, lookup_keyed] at hfoundHash
    exact List.mem_of_find?_eq_some hfoundHash
  rw [hread, hfoundHash] at hcompatible
  simp only [compatibleCurrentReadHashes, Bool.and_eq_true, decide_eq_true_eq] at hcompatible
  refine ⟨hsizes, read, hreadMem, found, hfoundMem, ?_, ?_, by simpa using hhashes⟩
  · exact hcompatible.1.1.1.1.1.1.1.1.1.1.2
  · exact hcompatible.1.1.1.1.1.1.1.1.2

theorem applyOperation_of_parent {path : String} (hpath : operation.targetRelativePath = some path)
    (hparent : ∀ parent, parentPath path = some parent →
      tree (targetComparisonKey folding parent target.rootCaseMode) = some .directory) :
    applyOperation folding source target tree operation = operationEffect source
      (targetComparisonKey folding path target.rootCaseMode) tree operation := by
  have hstands : (parentComparisonKey folding path target.rootCaseMode).all (fun parent =>
      tree parent = some .directory) = true := by
    unfold parentComparisonKey
    cases hfound : parentPath path with
    | none => rfl
    | some parent => simpa using hparent parent hfound
  rw [applyOperation, hpath, Option.bind_some, if_pos hstands]

theorem Emits.applied {entries : List SnapshotFileEntry} {operations : List PlanOperation}
    {count : Nat} (h : Emits folding context count entries operations)
    (hcontext : ContextOf folding source target policy context)
    (hclear : ∀ operation ∈ operations, operation.riskLevel ≠ .blocked)
    (hall : ∀ operation ∈ operations, operation ∈ all)
    (hkeys : ((done ++ entries).map (target.key folding)).Nodup)
    (hparents : ParentsFirst done entries)
    (hdone : Applied folding source target policy all done (target.tree folding) tree) :
    ∃ after, (operations.filter PlanOperation.mutating).foldlM
        (applyOperation folding source target) tree = some after ∧
      Applied folding source target policy all (done ++ entries) (target.tree folding) after := by
  induction h generalizing done tree with
  | nil => exact ⟨tree, rfl, by rwa [List.append_nil]⟩
  | @cons count entry rest outcome operations decided _ ih =>
    have hfresh : ∀ other ∈ done, target.key folding other ≠ target.key folding entry := by
      intro other hother
      rw [List.map_append, List.nodup_append] at hkeys
      exact hkeys.2.2 _ (List.mem_map_of_mem hother) _ (by simp)
    have hclear' : ∀ other ∈ operations, other.riskLevel ≠ .blocked :=
      fun other hmem => hclear other (List.mem_append_right _ hmem)
    have hall' : ∀ other ∈ operations, other ∈ all :=
      fun other hmem => hall other (List.mem_append_right _ hmem)
    rw [hcontext.onTarget, hcontext.underPolicy] at decided
    have hsplit : done ++ entry :: rest = (done ++ [entry]) ++ rest := by simp
    rw [hsplit] at hkeys ⊢
    have hthere : tree (target.key folding entry) = (context.side entry
        (target.key folding entry)).entry.map (.of target.snapshotId) := by
      rw [← tree_of_side hcontext]
      exact hdone.others _ hfresh
    cases outcome with
    | none =>
      refine ih hclear' hall' hkeys hparents.2 ?_
      cases decided with
      | @present there found hsource hisDirectory =>
        have hsource : entry.objectType = "directory" := hsource
        refine hdone.keep hfresh (fun _ _ => ?_) fun hfile =>
          absurd (hfile.symm.trans hsource) (by decide)
        rw [tree_of_side hcontext, found, Option.map_some, TreeObject.of, if_pos hisDirectory]
      | same found hsource hisFile hequal =>
        refine hdone.keep hfresh (fun hdirectory _ => ?_) fun _ => ?_
        · exact absurd (hdirectory.symm.trans hsource) (by decide)
        · exact .inl (upToDate_of_same hcontext found hsource hisFile hequal)
    | some operation =>
      have hhere : operation ∈ (some operation).toList ++ operations := List.mem_cons_self
      have hmoves : ∀ tree', operation.mutating = true →
          applyOperation folding source target tree operation = some tree' →
          Applied folding source target policy all (done ++ [entry]) (target.tree folding) tree' →
          ∃ after, (((some operation).toList ++ operations).filter PlanOperation.mutating).foldlM
              (applyOperation folding source target) tree = some after ∧
            Applied folding source target policy all ((done ++ [entry]) ++ rest)
              (target.tree folding) after := by
        intro tree' hmutating happlied hnext
        obtain ⟨after, hafter, hresult⟩ := ih hclear' hall' hkeys hparents.2 hnext
        refine ⟨after, ?_, hresult⟩
        rw [Option.toList_some, List.singleton_append, List.filter_cons_of_pos hmutating,
          List.foldlM_cons, happlied]
        exact hafter
      -- an operation that is allowed finds the parent of its entry created
      have heffect : operation.targetRelativePath = some entry.relativePath →
          policy ≠ .analyzeOnly → applyOperation folding source target tree operation =
            operationEffect source (target.key folding entry) tree operation := by
        intro hpath hpolicy
        refine applyOperation_of_parent hpath fun parent hparent => ?_
        obtain ⟨directory, hmem, rfl, htype⟩ := hparents.1 parent hparent
        exact hdone.directories directory hmem htype hpolicy
      cases decided with
      | blocked _ _ hrisk => exact absurd hrisk (hclear operation hhere)
      | deferred hplaced hdeferral _ hdirectory =>
        have hstill : operation.mutating = false := by
          rw [PlanOperation.mutating, hdeferral]
          rfl
        rw [Option.toList_some, List.singleton_append,
          List.filter_cons_of_neg (Bool.eq_false_iff.mp hstill)]
        exact ih hclear' hall' hkeys hparents.2 (hdone.keep hfresh
          (fun htype hpolicy => absurd (hdirectory htype) hpolicy)
          fun _ => .inr ⟨operation, hall operation hhere, hplaced.path, hdeferral⟩)
      | directory hplaced hpolicy hmissing hsource hcreation hkind _ =>
        have hsource : entry.objectType = "directory" := hsource
        refine hmoves _ (by rw [PlanOperation.mutating, hcreation]; rfl) ?_
          (hdone.write hfresh (fun _ => rfl)
            fun hfile => absurd (hfile.symm.trans hsource) (by decide))
        rw [hmissing, Option.map_none] at hthere
        rw [heffect hplaced.path hpolicy]
        simp only [operationEffect, hcreation, hkind, hthere]
      | copy hplaced hpolicy hmissing hsource hcopying hkind _ _ hcontent =>
        refine hmoves _ (by rw [PlanOperation.mutating, hcopying]; rfl) ?_
          (hdone.write hfresh (fun htype => absurd (htype.symm.trans hsource) (by decide))
            fun _ => rfl)
        rw [hmissing, Option.map_none] at hthere
        rw [heffect hplaced.path hpolicy]
        simp only [operationEffect, hcopying, hkind, hthere, hcontent, Option.map_some]
        rfl
      | replacement hplaced hpolicy hfound hsource hfile _ hcopying hkind _ _ hcontent =>
        refine hmoves _ (by rw [PlanOperation.mutating, hcopying]; rfl) ?_
          (hdone.write hfresh (fun htype => absurd (htype.symm.trans hsource) (by decide))
            fun _ => rfl)
        rw [hfound, Option.map_some, TreeObject.of, if_neg (by rw [hfile]; decide),
          if_pos hfile] at hthere
        rw [heffect hplaced.path (by rw [hpolicy]; decide)]
        simp only [operationEffect, hcopying, hkind, hthere, hcontent, Option.map_some]
        rfl

end

def PlanRecord.operationsOn (plan : PlanRecord) (target : InitialBackupPlanningEndpoint) :
    List PlanOperation :=
  plan.operations.filter (·.targetEndpointId = some target.endpointId)

def picture (entryId relativePath : String) (sizeBytes : Int) : SnapshotFileEntry where
  entryId
  relativePath
  comparisonKey := "photos/a.jpg"
  objectType := "file"
  sizeBytes := some sizeBytes
  identityFingerprintHash := some (String.ofList (List.replicate 64 '0'))

def photosFolder : SnapshotFileEntry where
  entryId := "folder"
  relativePath := "Photos"
  comparisonKey := "photos"
  objectType := "directory"

def editedSource : InitialBackupPlanningEndpoint :=
  Jobs.backupSide "source" .source [photosFolder, picture "edited" "Photos/a.jpg" 2]

def olderTarget : InitialBackupPlanningEndpoint :=
  Jobs.backupSide "target" .targetWritable [photosFolder, picture "older" "photos/A.jpg" 1]

/-- The picture has changed on the source. -/
def editedBackup : InitialBackupPlanRequest :=
  { Jobs.photosBackup with
    endpoints := [editedSource, olderTarget]
    automationPolicy := .newAndChangedWithVersions }

def editedInterpreter : Interpreter :=
  let fields : Payload := [
    ("identity_fingerprint_hash", .str (String.ofList (List.replicate 64 '0'))),
    ("object_type", .str "file"), ("relative_path", .str "Photos/a.jpg"),
    ("schema_version", .int 1), ("size_bytes", .int 2), ("snapshot_entry_id", .str "edited"),
    ("snapshot_id", .str "snapshot-source")]
  Execution.interpreterFor (Json.dump (.obj fields)) fields

theorem plan_of_any (request : InitialBackupPlanRequest) (test : PlanRecord → Bool)
    (h : (buildInitialBackupPlan asciiFolding editedInterpreter request).toOption.any
      (fun build => build.plan.any test) = true) : ∃ build plan,
        buildInitialBackupPlan asciiFolding editedInterpreter request = .ok build ∧
          build.plan = some plan ∧ test plan = true := by
  obtain ⟨build, hbuild, hrun⟩ := (Option.any_eq_true _ _).mp h
  obtain ⟨plan, hplan, htest⟩ := (Option.any_eq_true _ _).mp hrun
  refine ⟨build, plan, ?_, hplan, htest⟩
  cases hresult : buildInitialBackupPlan asciiFolding editedInterpreter request with
  | error raised =>
    rw [hresult] at hbuild
    cases hbuild
  | ok found =>
    rw [hresult] at hbuild
    exact congrArg _ (Option.some.inj hbuild)

theorem editedBackup_plan : ∃ build plan, buildInitialBackupPlan asciiFolding
      editedInterpreter editedBackup = .ok build ∧ build.plan = some plan ∧
    (∀ operation ∈ plan.operations, operation.riskLevel ≠ .blocked) ∧
    ∃ operation ∈ plan.operations, operation.mutating = true ∧
      operation.targetPreconditionKind ≠ .absent := by
  obtain ⟨build, plan, hbuild, hplan, htests⟩ := plan_of_any editedBackup (fun plan =>
    plan.operations.all (·.riskLevel ≠ .blocked) && plan.operations.any fun operation =>
      operation.mutating && operation.targetPreconditionKind ≠ .absent) (by decide +kernel)
  exact ⟨build, plan, hbuild, hplan, by simpa using htests⟩

def emptyTarget : InitialBackupPlanningEndpoint := Jobs.backupSide "target" .targetWritable []

/-- Neither the folder nor the picture is on the target. -/
def firstBackup : InitialBackupPlanRequest :=
  { editedBackup with endpoints := [editedSource, emptyTarget] }

theorem firstBackup_plan : ∃ build plan parent child,
    buildInitialBackupPlan asciiFolding editedInterpreter firstBackup = .ok build ∧
      build.plan = some plan ∧ plan.operationsOn emptyTarget = [parent, child] ∧
      (parent.operationType, parent.targetRelativePath) = (.createDirectory, some "Photos") ∧
      child.targetRelativePath = some "Photos/a.jpg" ∧ parent.operationId ≠ child.operationId ∧
      ∃ endpoint ∈ plan.endpoints, endpoint.role = .targetWritable ∧
        (endpoint.plannedOperations, endpoint.plannedBytes) = (2, 2) := by
  obtain ⟨build, plan, hbuild, hplan, htests⟩ := plan_of_any firstBackup (fun plan =>
    plan.endpoints.any (fun endpoint => endpoint.role = .targetWritable &&
        (endpoint.plannedOperations, endpoint.plannedBytes) = (2, 2)) &&
      ((plan.operationsOn emptyTarget).map fun operation =>
        (operation.operationType, operation.targetRelativePath)) =
          [(.createDirectory, some "Photos"), (.copyNew, some "Photos/a.jpg")] &&
      ((plan.operationsOn emptyTarget).map PlanOperation.operationId).Nodup) (by decide +kernel)
  simp only [Bool.and_eq_true, decide_eq_true_eq, List.any_eq_true] at htests
  obtain ⟨⟨hendpoint, htypes⟩, hids⟩ := htests
  obtain ⟨parent, rest, hoperations, hparent, hrest⟩ := List.map_eq_cons_iff.mp htypes
  obtain ⟨child, none, rfl, hchild, hnone⟩ := List.map_eq_cons_iff.mp hrest
  obtain rfl := List.map_eq_nil_iff.mp hnone
  rw [hoperations] at hids
  exact ⟨build, plan, parent, child, hbuild, hplan, hoperations, hparent,
    congrArg Prod.snd hchild, by simpa using hids, hendpoint⟩

theorem editedSource_parents : editedSource.ParentsPresent := by
  intro entry hentry parent hparent
  rcases List.mem_cons.mp hentry with rfl | hentry
  · have hnone : parentPath photosFolder.relativePath = none := by decide
    rw [hnone] at hparent
    cases hparent
  · obtain rfl := List.mem_singleton.mp hentry
    obtain rfl : parent = "Photos" :=
      Option.some.inj (hparent.symm.trans (by decide : parentPath "Photos/a.jpg" = some "Photos"))
    exact ⟨photosFolder, List.mem_cons_self, rfl, rfl⟩

theorem editedSource_mem : editedSource ∈ editedBackup.endpoints := List.mem_cons_self

theorem olderTarget_mem : olderTarget ∈ editedBackup.endpoints :=
  List.mem_cons_of_mem _ List.mem_cons_self

section
variable {folding : CaseFolding} {interpreter : Interpreter} {request : InitialBackupPlanRequest}
  {source target : InitialBackupPlanningEndpoint} {build : InitialBackupPlanBuild}
  {plan : PlanRecord} {parts : List TargetPart}

theorem filter_parts {part : TargetPart}
    (hids : (parts.map fun part : TargetPart => part.1.endpointId).Nodup)
    (hown : ∀ part ∈ parts, ∀ operation ∈ part.2,
      operation.targetEndpointId = some part.1.endpointId) (hpart : part ∈ parts) :
    (parts.flatMap Prod.snd).filter (·.targetEndpointId = some part.1.endpointId) = part.2 := by
  induction parts with
  | nil => cases hpart
  | cons first rest ih =>
    rw [List.map_cons, List.nodup_cons] at hids
    have hrest : ∀ part ∈ rest, part.1.endpointId ≠ first.1.endpointId :=
      fun part hmem heq => hids.1 (List.mem_map.mpr ⟨part, hmem, heq⟩)
    rw [List.flatMap_cons, List.filter_append]
    rcases List.mem_cons.mp hpart with rfl | hmem
    · rw [List.filter_eq_self.mpr, List.filter_eq_nil_iff.mpr, List.append_nil]
      · intro operation hoperation
        obtain ⟨other, hother, hoperation⟩ := List.mem_flatMap.mp hoperation
        simpa [hown other (List.mem_cons_of_mem _ hother) operation hoperation] using
          hrest other hother
      · intro operation hoperation
        simpa using hown part List.mem_cons_self operation hoperation
    · rw [ih hids.2 (fun other hother => hown other (List.mem_cons_of_mem _ hother)) hmem,
        List.filter_eq_nil_iff.mpr, List.nil_append]
      intro operation hoperation
      simpa [hown first List.mem_cons_self operation hoperation] using (hrest part hmem).symm

theorem BuiltFrom.source_eq (hbuilt : BuiltFrom folding request build source parts)
    {other : InitialBackupPlanningEndpoint} (hother : other ∈ request.endpoints)
    (hrole : other.role = .source) : other = source := by
  have hmem : other ∈ request.endpoints.filter (·.role = .source) :=
    List.mem_filter.mpr ⟨hother, by simpa using hrole⟩
  rw [hbuilt.single] at hmem
  exact List.mem_singleton.mp hmem

theorem BuiltFrom.part (hbuilt : BuiltFrom folding request build source parts)
    (htarget : target ∈ request.endpoints) (hrole : target.role = .targetWritable) :
    ∃ operations, (target, operations) ∈ parts := by
  have hmem : target ∈ parts.map Prod.fst :=
    hbuilt.targets.mem_iff.mpr (List.mem_filter.mpr ⟨htarget, by simpa using hrole⟩)
  obtain ⟨⟨_, operations⟩, hpart, rfl⟩ := List.mem_map.mp hmem
  exact ⟨operations, hpart⟩

theorem BuiltFrom.operationsOn (hbuilt : BuiltFrom folding request build source parts)
    (hplan : build.plan = some plan) {operations : List PlanOperation}
    (hpart : (target, operations) ∈ parts) : plan.operationsOn target = operations := by
  have hids := ((hbuilt.endpoints plan hplan).map PlanEndpoint.endpointId).nodup_iff.mp
    (hbuilt.distinct plan hplan)
  rw [List.map_cons, List.map_map] at hids
  have hoperations := hbuilt.operations
  rw [hplan, Option.elim_some] at hoperations
  rw [PlanRecord.operationsOn, hoperations]
  refine filter_parts (List.nodup_cons.mp hids).2 (fun part hmem operation hoperation => ?_) hpart
  obtain ⟨_, context, hcontext, -, hemits⟩ := hbuilt.planned part hmem
  obtain ⟨entry, -, n, hdecided⟩ := hemits.decided hoperation
  rw [hdecided.placed.endpoint, ← hcontext.onTarget]
  rfl

/-- Applied to what the target's snapshot shows, the operations of a plan without blocks find their
preconditions and parents in place, and what the source has is there in the end, unless its
operation is deferred. -/
theorem backup_plan_applies (h : buildInitialBackupPlan folding interpreter request = .ok build)
    (hplan : build.plan = some plan)
    (hclear : ∀ operation ∈ plan.operations, operation.riskLevel ≠ .blocked)
    (hsource : source ∈ request.endpoints) (hsourceRole : source.role = .source)
    (hparents : source.ParentsPresent) (htarget : target ∈ request.endpoints)
    (htargetRole : target.role = .targetWritable) :
    ∃ after, ((plan.operationsOn target).filter PlanOperation.mutating).foldlM
        (applyOperation folding source target) (target.tree folding) = some after ∧
      Applied folding source target request.automationPolicy (plan.operationsOn target)
        source.entries (target.tree folding) after := by
  obtain ⟨source', parts, hbuilt⟩ := builtFrom_of_build h
  obtain rfl := hbuilt.source_eq hsource hsourceRole
  obtain ⟨operations, hpart⟩ := hbuilt.part htarget htargetRole
  have hon := hbuilt.operationsOn hplan hpart
  obtain ⟨_, context, hcontext, -, hemits⟩ := hbuilt.planned _ hpart
  have hperm := List.perm_insertionSort entryOrder source.entries
  have hclear' : ∀ operation ∈ operations, operation.riskLevel ≠ .blocked := by
    intro operation hmem
    rw [← hon] at hmem
    exact hclear operation (List.mem_of_mem_filter hmem)
  have hfirst : ParentsFirst [] (source.entries.insertionSort entryOrder) := by
    refine .of_sorted (List.pairwise_insertionSort _ _) fun entry hentry parent hparent => ?_
    obtain ⟨directory, hmem, hdirectory⟩ := hparents entry (hperm.mem_iff.mp hentry) parent hparent
    exact ⟨directory, hperm.mem_iff.mpr hmem, hdirectory⟩
  obtain ⟨after, hafter, happlied⟩ := hemits.applied hcontext hclear' (fun _ hmem => hmem)
    ((hperm.map _).nodup_iff.mpr hcontext.sourceKeys) hfirst
    ⟨nofun, nofun, fun _ _ => rfl⟩
  refine ⟨after, hon ▸ hafter, ?_⟩
  rw [hon]
  exact ⟨fun entry hentry => happlied.directories entry (hperm.mem_iff.mpr hentry),
    fun entry hentry => happlied.files entry (hperm.mem_iff.mpr hentry),
    fun key hkey => happlied.others key fun entry hentry => hkey entry (hperm.mem_iff.mp hentry)⟩

theorem edited_backup_applies : ∃ (plan : PlanRecord) (after : TargetTree),
    ((plan.operationsOn olderTarget).filter PlanOperation.mutating).foldlM
        (applyOperation asciiFolding editedSource olderTarget) (olderTarget.tree asciiFolding) =
      some after ∧ Applied asciiFolding editedSource olderTarget editedBackup.automationPolicy
        (plan.operationsOn olderTarget) editedSource.entries (olderTarget.tree asciiFolding)
        after := by
  obtain ⟨build, plan, hbuild, hplan, hclear, -⟩ := editedBackup_plan
  exact ⟨plan, backup_plan_applies hbuild hplan hclear editedSource_mem rfl editedSource_parents
    olderTarget_mem rfl⟩

/-- An entry that gets no operation on a target is up to date there; any other gets one. -/
theorem backup_plan_covers (h : buildInitialBackupPlan folding interpreter request = .ok build)
    (hsource : source ∈ request.endpoints) (hsourceRole : source.role = .source)
    (htarget : target ∈ request.endpoints) (htargetRole : target.role = .targetWritable) :
    (∀ entry ∈ source.entries, UpToDate folding source target entry ∨
      ∃ plan, build.plan = some plan ∧ ∃ operation ∈ plan.operationsOn target,
        operation.targetRelativePath = some entry.relativePath) ∧
    ∀ plan, build.plan = some plan →
      ((plan.operationsOn target).map PlanOperation.targetRelativePath).Nodup ∧
      ∀ operation ∈ plan.operationsOn target, ∃ entry ∈ source.entries,
        operation.targetRelativePath = some entry.relativePath := by
  obtain ⟨source', parts, hbuilt⟩ := builtFrom_of_build h
  obtain rfl := hbuilt.source_eq hsource hsourceRole
  obtain ⟨operations, hpart⟩ := hbuilt.part htarget htargetRole
  obtain ⟨_, context, hcontext, -, hemits⟩ := hbuilt.planned _ hpart
  have hperm := List.perm_insertionSort entryOrder source.entries
  refine ⟨fun entry hentry => ?_, fun plan hplan => ?_⟩
  · obtain ⟨n, outcome, hdecided, hmem⟩ := hemits.outcome (hperm.mem_iff.mpr hentry)
    rw [hcontext.onTarget] at hdecided
    cases outcome with
    | none =>
      cases hdecided with
      | @present there found hentryType hthere =>
        rw [side_entry hcontext] at found
        exact .inl ⟨there, List.mem_of_find?_eq_some found, by simpa using List.find?_some found,
          .inl ⟨hentryType, hthere⟩⟩
      | same found hentryType hthere hequal =>
        exact .inl (upToDate_of_same hcontext found hentryType hthere hequal)
    | some operation =>
      have hoperation : operation ∈ build.plan.elim [] PlanRecord.operations := by
        rw [hbuilt.operations]
        exact List.mem_flatMap.mpr ⟨_, hpart, hmem operation rfl⟩
      cases hplan : build.plan with
      | none =>
        rw [hplan] at hoperation
        cases hoperation
      | some plan =>
        refine .inr ⟨plan, rfl, operation, ?_, hdecided.placed.path⟩
        rw [hbuilt.operationsOn hplan hpart]
        exact hmem operation rfl
  · rw [hbuilt.operationsOn hplan hpart]
    refine ⟨hemits.paths.nodup ?_, fun operation hmem => ?_⟩
    · have hkeys : (source.entries.map SnapshotFileEntry.relativePath).Nodup := by
        refine List.Nodup.of_map (targetComparisonKey folding · target.rootCaseMode) ?_
        rw [List.map_map]
        exact hcontext.sourceKeys
      have hsome := hkeys.map (Option.some_injective String)
      rw [List.map_map] at hsome
      exact ((hperm.map _).nodup_iff).mpr hsome
    · obtain ⟨entry, hentry, n, hdecided⟩ := hemits.decided hmem
      exact ⟨entry, hperm.mem_iff.mp hentry, hdecided.placed.path⟩

theorem edited_backup_covers : ∃ build : InitialBackupPlanBuild,
    ∀ entry ∈ editedSource.entries, UpToDate asciiFolding editedSource olderTarget entry ∨
      ∃ plan, build.plan = some plan ∧ ∃ operation ∈ plan.operationsOn olderTarget,
        operation.targetRelativePath = some entry.relativePath := by
  obtain ⟨build, -, hbuild, -⟩ := editedBackup_plan
  exact ⟨build, (backup_plan_covers hbuild editedSource_mem rfl olderTarget_mem rfl).1⟩

theorem evidence_of_gate (h : destructiveBlockReason source target = none) :
    source.destructiveEvidence = ⟨true, true⟩ ∧ target.destructiveEvidence = ⟨true, true⟩ := by
  unfold destructiveBlockReason at h
  rcases hsource : source.destructiveEvidence with ⟨coverage, identity⟩
  rcases htarget : target.destructiveEvidence with ⟨coverage', identity'⟩
  rw [hsource, htarget] at h
  cases coverage <;> cases identity <;> cases coverage' <;> cases identity' <;> first
    | exact ⟨rfl, rfl⟩
    | cases h

/-- What a plan replaces is a file that the source has too, under a policy that keeps versions, and
only where both snapshots are complete and of the endpoints they claim. -/
theorem replacements_gated {operation : PlanOperation}
    (h : buildInitialBackupPlan folding interpreter request = .ok build)
    (hplan : build.plan = some plan) (hmem : operation ∈ plan.operations)
    (hmutating : operation.mutating = true) (hkind : operation.targetPreconditionKind ≠ .absent) :
    request.automationPolicy = .newAndChangedWithVersions ∧
      operation.targetPreconditionKind = .matchFingerprint ∧
      ∃ source ∈ request.endpoints, ∃ target ∈ request.endpoints, source.role = .source ∧
        target.role = .targetWritable ∧ operation.targetEndpointId = some target.endpointId ∧
        source.destructiveEvidence = ⟨true, true⟩ ∧ target.destructiveEvidence = ⟨true, true⟩ ∧
        ∃ entry ∈ source.entries, ∃ there ∈ target.entries,
          operation.targetRelativePath = some entry.relativePath ∧
          target.key folding there = target.key folding entry ∧ entry.objectType = "file" ∧
          there.objectType = "file" := by
  obtain ⟨source, parts, hbuilt⟩ := builtFrom_of_build h
  have hoperations := hbuilt.operations
  rw [hplan, Option.elim_some] at hoperations
  rw [hoperations] at hmem
  obtain ⟨⟨target, operations⟩, hpart, hmem⟩ := List.mem_flatMap.mp hmem
  obtain ⟨_, context, hcontext, -, hemits⟩ := hbuilt.planned _ hpart
  obtain ⟨entry, hentry, n, hdecided⟩ := hemits.decided hmem
  have hsource : source ∈ request.endpoints.filter (·.role = .source) := by
    rw [hbuilt.single]
    exact List.mem_singleton_self source
  have htarget := hbuilt.targets.mem_iff.mp (List.mem_map_of_mem hpart)
  obtain ⟨hsourceMem, hsourceRole⟩ := List.mem_filter.mp hsource
  obtain ⟨htargetMem, htargetRole⟩ := List.mem_filter.mp htarget
  have hplaced := hdecided.placed
  rw [hcontext.onTarget, hcontext.underPolicy] at hdecided
  cases hdecided with
  | blocked _ htype | deferred _ htype =>
    rw [PlanOperation.mutating, htype] at hmutating
    cases hmutating
  | directory _ _ _ _ _ habsent | copy _ _ _ _ _ habsent => exact absurd habsent hkind
  | @replacement _ there _ hpolicy hfound hfile hthere hgate _ hmatch _ _ _ =>
    rw [side_entry hcontext] at hfound
    have hgate : destructiveBlockReason context.source context.target = none := hgate
    rw [hcontext.fromSource, hcontext.onTarget] at hgate
    obtain ⟨hsourceEvidence, htargetEvidence⟩ := evidence_of_gate hgate
    refine ⟨hpolicy, hmatch, source, hsourceMem, target, htargetMem, by simpa using hsourceRole,
      by simpa using htargetRole, ?_, hsourceEvidence, htargetEvidence, entry,
      (List.perm_insertionSort entryOrder source.entries).mem_iff.mp hentry, there,
      List.mem_of_find?_eq_some hfound, hplaced.path, by simpa using List.find?_some hfound, hfile,
      hthere⟩
    rw [hplaced.endpoint]
    exact congrArg (fun endpoint => some endpoint.endpointId) hcontext.onTarget

theorem edited_backup_gated : ∃ plan : PlanRecord, ∃ operation ∈ plan.operations,
    operation.mutating = true ∧ operation.targetPreconditionKind = .matchFingerprint := by
  obtain ⟨build, plan, hbuild, hplan, -, operation, hmem, hmutating, hkind⟩ := editedBackup_plan
  have hgated := replacements_gated hbuild hplan hmem hmutating hkind
  exact ⟨plan, operation, hmem, hmutating, hgated.2.1⟩

/-- The counts of an endpoint are those of its operations, which are numbered from one on. -/
theorem planned_counts_agree (h : buildInitialBackupPlan folding interpreter request = .ok build)
    (hplan : build.plan = some plan) :
    Numbered plan.operations ∧ ∀ endpoint ∈ plan.endpoints, endpoint.role = .targetWritable →
      ∃ target ∈ request.endpoints, target.endpointId = endpoint.endpointId ∧
        endpoint.plannedOperations =
          ((plan.operationsOn target).filter PlanOperation.mutating).length ∧
        endpoint.plannedBytes = (((plan.operationsOn target).filter PlanOperation.mutating).map
          PlanOperation.plannedBytes).sum := by
  obtain ⟨-, -, hplanned⟩ := planned_of_build h hplan
  obtain ⟨source, parts, hbuilt⟩ := builtFrom_of_build h
  have hoperations := hbuilt.operations
  rw [hplan, Option.elim_some] at hoperations
  refine ⟨hoperations ▸ hbuilt.numbered, fun endpoint hendpoint hrole => ?_⟩
  rcases List.mem_cons.mp ((hbuilt.endpoints plan hplan).mem_iff.mp hendpoint) with rfl | hmem
  · have hsource : source ∈ request.endpoints.filter (·.role = .source) := by
      rw [hbuilt.single]
      exact List.mem_singleton_self source
    have hsourceRole : source.role = .source := by simpa using (List.mem_filter.mp hsource).2
    exact absurd (hsourceRole.symm.trans hrole) (by decide)
  obtain ⟨⟨target, operations⟩, hpart, rfl⟩ := List.mem_map.mp hmem
  have htarget := hbuilt.targets.mem_iff.mp (List.mem_map_of_mem hpart)
  have hmutating : operations.filter (fun operation =>
      operation.mutating && operation.riskLevel ≠ .blocked) =
        operations.filter PlanOperation.mutating := by
    refine List.filter_congr fun operation hmem => ?_
    have hmem : operation ∈ plan.operations :=
      hoperations ▸ List.mem_flatMap.mpr ⟨_, hpart, hmem⟩
    cases hplanned operation hmem with
    | blocked htype => simp [PlanOperation.mutating, htype, mutatingOperationTypes]
    | deferred _ hrisk => simp [hrisk]
    | directory _ _ _ hrisk | copy _ _ _ _ hrisk | replacement _ _ _ _ hrisk => simp [hrisk]
  refine ⟨target, (List.mem_filter.mp htarget).1, rfl, ?_⟩
  rw [hbuilt.operationsOn hplan hpart, ← hmutating]
  exact ⟨rfl, rfl⟩

theorem first_backup_counts : ∃ plan : PlanRecord, Numbered plan.operations ∧
    ∃ target ∈ firstBackup.endpoints,
      ((plan.operationsOn target).filter PlanOperation.mutating).length = 2 ∧
        (((plan.operationsOn target).filter PlanOperation.mutating).map
          PlanOperation.plannedBytes).sum = 2 := by
  obtain ⟨build, plan, -, -, hbuild, hplan, -, -, -, -, endpoint, hmem, hrole, hcounts⟩ :=
    firstBackup_plan
  obtain ⟨hnumbered, hcounted⟩ := planned_counts_agree hbuild hplan
  obtain ⟨target, htarget, -, hoperations, hbytes⟩ := hcounted endpoint hmem hrole
  obtain ⟨htwo, htwoBytes⟩ := Prod.mk.inj hcounts
  exact ⟨plan, hnumbered, target, htarget, by omega, by omega⟩

/-- The operations inside a directory that a plan creates depend on its creation. -/
theorem created_parents_awaited
    (h : buildInitialBackupPlan folding interpreter request = .ok build)
    (hplan : build.plan = some plan) (htarget : target ∈ request.endpoints)
    (hrole : target.role = .targetWritable) :
    ChildrenWait folding target (plan.operationsOn target) plan.dependencies := by
  obtain ⟨source, parts, hbuilt⟩ := builtFrom_of_build h
  obtain ⟨operations, hpart⟩ := hbuilt.part htarget hrole
  rw [hbuilt.operationsOn hplan hpart]
  exact hbuilt.waits plan hplan _ hpart

theorem first_backup_awaits : ∃ (plan : PlanRecord) (parent child : PlanOperation),
    plan.operationsOn emptyTarget = [parent, child] ∧ parent.operationType = .createDirectory ∧
      ⟨parent.operationId, child.operationId⟩ ∈ plan.dependencies := by
  obtain ⟨build, plan, parent, child, hbuild, hplan, hoperations, hparent, hchild, hne, -⟩ :=
    firstBackup_plan
  obtain ⟨htype, hpath⟩ := Prod.mk.inj hparent
  have hwait := created_parents_awaited hbuild hplan
    (List.mem_cons_of_mem _ List.mem_cons_self : emptyTarget ∈ firstBackup.endpoints) rfl
  rw [hoperations] at hwait
  refine ⟨plan, parent, child, hoperations, htype, hwait parent List.mem_cons_self child
    (List.mem_cons_of_mem _ List.mem_cons_self) _ _ htype hpath hchild ?_ hne⟩
  decide

end

end MediaSync.Plans
