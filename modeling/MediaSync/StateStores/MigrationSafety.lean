import MediaSync.StateStores.MigrationEpochs

/-! A pending epoch keeps each store between the version it found and the one it aims at, has a
verified copy of both stores before it changes one that held data, and can be read again after a
kill, unless the kill left the metadata of a store or the manifest of the backup set incomplete. -/
namespace MediaSync.StateStores
open Text Killable

variable {Content : Type}

section
variable {test : Bool} {code : String}

@[simp] theorem require_eq_ok {u : Unit} : require test code = .ok u ↔ test = true := by
  unfold require
  split <;> simp_all

@[simp] theorem require_bind_eq_ok {α : Type} {k : Unit → Except MigrationError α} {a : α} :
    (require test code >>= k) = .ok a ↔ test = true ∧ k () = .ok a := by
  unfold require
  cases test with
  | true => exact ⟨fun h => ⟨rfl, h⟩, fun h => h.2⟩
  | false => exact ⟨nofun, fun h => absurd h.1 nofun⟩

end

/-- The store has run the first `target` migrations, and every row has its checksum. -/
def DoneAt (plan : SqliteMigrationPlan) (target : Nat) (file : StoreFile Content) : Prop :=
  ∃ rows content, file = some ⟨some (some plan.store), some ⟨true, rows⟩, content⟩ ∧
    FollowsPlan plan rows ∧ Checksummed rows ∧ rows.length = target

section
variable {lib : SqliteLibrary Content} {plan plan' : SqliteMigrationPlan} {n target : Nat}
  {file : StoreFile Content}

theorem DoneAt.managed (h : DoneAt plan n file) : Managed plan n file := by
  obtain ⟨rows, content, rfl, hfollows, -, hlength⟩ := h
  exact ⟨⟨true, rows⟩, content, rfl, hfollows, hlength⟩

theorem DoneAt.extend (h : DoneAt plan n file) (hstore : plan'.store = plan.store)
    (hinitial : plan.migrations <+: plan'.migrations) : DoneAt plan' n file := by
  obtain ⟨rows, content, rfl, hfollows, hchecksums, hlength⟩ := h
  exact ⟨rows, content, by rw [hstore], hfollows.extend hstore hinitial, hchecksums, hlength⟩

theorem Migrated.doneAt {h : ¬ target < 1} (hfits : target ≤ plan.migrations.length)
    (hmigrated : Migrated (plan.take target h) file) : DoneAt plan target file := by
  obtain ⟨rows, content, rfl, hfollows, hchecksums, hlength⟩ := hmigrated
  refine ⟨rows, content, rfl, hfollows.extend rfl (List.take_prefix _ _), hchecksums, ?_⟩
  rw [hlength]
  show (plan.migrations.take target).length = target
  rw [List.length_take, Nat.min_eq_left hfits]

theorem inspectStore_unmade (h : Unmade lib file) :
    inspectStore lib file plan = .ok ⟨0, plan.migrations.length, false, false⟩ := by
  cases file with
  | none => rfl
  | some db =>
    obtain ⟨hidentity, hhistory, htables⟩ := h db rfl
    obtain ⟨identity, history, content⟩ := db
    cases hidentity
    cases hhistory
    apply raisedAs_ok
    show (do
      check (!lib.tables content) _
      Except.ok (⟨0, plan.migrations.length, false, false⟩ : SqliteMigrationState)) = _
    rw [show lib.tables content = false from htables]
    rfl

theorem inspectStore_follows {history : MigrationHistory} {content : Content}
    (h : FollowsPlan plan history.projected) :
    inspectStore lib (some ⟨some (some plan.store), some history, content⟩) plan =
      .ok ⟨history.projected.length, plan.migrations.length, true,
        !history.checksumColumn || history.projected.any fun row => row.checksum.isNone⟩ := by
  have hvalid : validateMigrationHistory plan history.projected true = .ok () :=
    h.validated nofun
  apply raisedAs_ok
  show (do
    check (some plan.store = some plan.store) _
    validateMigrationHistory plan history.projected true
    Except.ok (SqliteMigrationState.mk
      ((history.projected.getLast?.map MigrationRow.version).getD 0) plan.migrations.length true
      (!history.checksumColumn || history.projected.any fun row => row.checksum.isNone))) = _
  rw [decide_eq_true rfl, hvalid, h.last]
  rfl

theorem inspectStore_managed (lib : SqliteLibrary Content) (h : Managed plan n file) :
    ∃ missing, inspectStore lib file plan = .ok ⟨n, plan.migrations.length, true, missing⟩ ∧
      (missing = false → DoneAt plan n file) := by
  obtain ⟨history, content, rfl, hfollows, rfl⟩ := h
  refine ⟨_, inspectStore_follows hfollows, ?_⟩
  intro hmissing
  rw [Bool.or_eq_false_iff, Bool.not_eq_false', List.any_eq_false] at hmissing
  obtain ⟨hcolumn, hrows⟩ := hmissing
  obtain ⟨column, rows⟩ := history
  obtain rfl : column = true := hcolumn
  refine ⟨rows, content, rfl, hfollows, ?_, rfl⟩
  intro row hrow hnone
  exact hrows row hrow (by rw [hnone]; rfl)

theorem inspectStore_done (lib : SqliteLibrary Content) (h : DoneAt plan n file) :
    inspectStore lib file plan = .ok ⟨n, plan.migrations.length, true, false⟩ := by
  obtain ⟨rows, content, rfl, hfollows, hchecksums, rfl⟩ := h
  have hnone : rows.any (fun row => row.checksum.isNone) = false := by
    rw [List.any_eq_false]
    intro row hrow hmissing
    exact hchecksums row hrow (Option.isNone_iff_eq_none.mp hmissing)
  have hread : inspectStore lib (some ⟨some (some plan.store), some ⟨true, rows⟩, content⟩) plan =
      _ := inspectStore_follows hfollows
  rw [hread]
  show Except.ok (SqliteMigrationState.mk rows.length _ true
    (!true || rows.any fun row => row.checksum.isNone)) = _
  rw [hnone]
  rfl

end

/-- The epoch's backup set is verified by `manifest` and holds both stores as the epoch found
them. -/
def BackedUp (lib : SqliteLibrary Content) (epoch : EpochDir Content)
    (manifest : SqliteStateBackupManifest) : Prop :=
  ∃ set, epoch.backup = some (some set) ∧ set.manifest = some (some manifest) ∧
    verifySqliteStateBackupSet set.files (.ok manifest) = .ok manifest ∧
    ∀ store, ∃ db, epoch.found store = some db ∧
      set.files (backupFileName store) = some (db.copy lib)

/-- The backup is pending, and a part of its manifest was written. -/
def TornManifest (epoch : EpochDir Content) : Prop :=
  (∃ intent, epoch.intent = some intent ∧ intent.backupStatus = .pending) ∧
    ∃ set, epoch.backup = some (some set) ∧ set.manifest = some none

/-- What `loadIntent` accepts. -/
structure Loads (host : MigrationHost) (plans : StatePlans) (dirName : String)
    (intent : MigrationIntent) : Prop where
  validId : validEpochId intent.epochId = true
  dirName_eq : dirName = intent.epochId
  layout : intent.layout = host.layout
  paths : intent.backupRoot = host.backupRoot dirName ∧
    intent.backupSetPath = host.backupSetPath dirName
  hash : intent.backupStateSetHash.all isHash = true
  hash_iff : intent.backupStatus = .verified ↔ intent.backupStateSetHash.isSome = true
  targets : ∀ store, 1 ≤ (intent.stores.get store).targetVersion ∧
    (intent.stores.get store).beforeVersion ≤ (intent.stores.get store).targetVersion ∧
    (intent.stores.get store).targetVersion ≤ (plans.plan store).migrations.length
  planHash : planHash plans intent.stores = .ok intent.planHash
  required : intent.backupRequired =
    (intent.stores.catalog.beforeInitialized && intent.stores.recovery.beforeInitialized)
  notRequired : intent.backupRequired = false → intent.backupStatus = .notRequired
  texts : nonBlank intent.startedUtc = true ∧ nonBlank intent.appVersion = true
  revision : 1 ≤ intent.intentRevision

section
variable {host : MigrationHost} {plans plans' : StatePlans} {dirName : String}
  {intent : MigrationIntent}

theorem forall_stores {P : SqliteStore → Prop} : (∀ store, P store) ↔ P .catalog ∧ P .recovery :=
  ⟨fun h => ⟨h _, h _⟩, fun h store => by cases store; exacts [h.1, h.2]⟩

theorem StoreIntent.validate_ok {store : StoreIntent} (htarget : 1 ≤ store.targetVersion)
    (hbefore : store.beforeVersion ≤ store.targetVersion) : store.validate = .ok () := by
  unfold StoreIntent.validate
  rw [decide_eq_true htarget, decide_eq_true hbefore]
  rfl

theorem Loads.loadIntent (h : Loads host plans dirName intent) :
    loadIntent host plans dirName intent = .ok () := by
  have hcatalog := h.targets .catalog
  have hrecovery := h.targets .recovery
  have hverified := h.hash_iff
  have hstatus := h.notRequired
  have hcatalog := StoreIntent.validate_ok hcatalog.1 hcatalog.2.1
  have hrecovery := StoreIntent.validate_ok hrecovery.1 hrecovery.2.1
  have hfound : intent.backupStatus ≠ .verified ∨ intent.backupStateSetHash.isSome = true := by
    by_cases hv : intent.backupStatus = .verified
    · exact .inr (hverified.mp hv)
    · exact .inl hv
  have hnone : intent.backupStatus = .verified ∨ intent.backupStateSetHash.isNone = true := by
    by_cases hv : intent.backupStatus = .verified
    · exact .inl hv
    · exact .inr (Option.isNone_iff_eq_none.mpr (Option.not_isSome_iff_eq_none.mp
        (mt hverified.mpr hv)))
  have hneeded : intent.backupRequired = true ∨ intent.backupStatus = .notRequired := by
    cases hrequired : intent.backupRequired with
    | true => exact .inl rfl
    | false => exact .inr (hstatus hrequired)
  have hcatalog : intent.stores.catalog.validate = .ok () := hcatalog
  have hrecovery : intent.stores.recovery.validate = .ok () := hrecovery
  unfold StateStores.loadIntent
  simp only [require_bind_eq_ok, decide_eq_true_eq, Bool.and_eq_true]
  refine ⟨h.validId, h.dirName_eq, h.layout, h.paths, h.hash, ?_, ?_, ?_⟩
  · simpa only [Bool.or_eq_true, decide_eq_true_eq] using hfound
  · simpa only [Bool.or_eq_true, decide_eq_true_eq] using hnone
  rw [hcatalog, hrecovery, h.planHash]
  show (do
    require (intent.planHash = intent.planHash) _
    require (intent.backupRequired =
      (intent.stores.catalog.beforeInitialized && intent.stores.recovery.beforeInitialized)) _
    require (intent.backupRequired || intent.backupStatus = BackupStatus.notRequired) _
    require (nonBlank intent.startedUtc) _
    require (nonBlank intent.appVersion) _
    require (1 ≤ intent.intentRevision) _) = _
  simp only [require_bind_eq_ok, require_eq_ok, decide_eq_true_eq]
  exact ⟨trivial, h.required, by simpa only [Bool.or_eq_true, decide_eq_true_eq] using hneeded,
    h.texts.1, h.texts.2, h.revision⟩

theorem planPrefix_ok {plan : SqliteMigrationPlan} {target : Nat} (hpositive : ¬ target < 1)
    (hfits : target ≤ plan.migrations.length) :
    planPrefix plan target = .ok (plan.take target hpositive) := by
  unfold planPrefix
  rw [dif_neg hpositive, if_neg (Nat.not_lt.mpr hfits)]

theorem planHash_eq {stores : Both StoreIntent} (h : ∀ store, 1 ≤ (stores.get store).targetVersion ∧
    (stores.get store).targetVersion ≤ (plans.plan store).migrations.length) :
    planHash plans stores = .ok (payloadHash (.obj [("stores", .arr
      [planPayload .catalog stores.catalog.targetVersion
        ((plans.plan .catalog).migrations.take stores.catalog.targetVersion),
       planPayload .recovery stores.recovery.targetVersion
        ((plans.plan .recovery).migrations.take stores.recovery.targetVersion)])])) := by
  have hcatalog := planPrefix_ok (Nat.not_lt.mpr (h .catalog).1) (h .catalog).2
  have hrecovery := planPrefix_ok (Nat.not_lt.mpr (h .recovery).1) (h .recovery).2
  unfold planHash
  rw [show planPrefix (plans.plan .catalog) stores.catalog.targetVersion = _ from hcatalog,
    show planPrefix (plans.plan .recovery) stores.recovery.targetVersion = _ from hrecovery]
  rfl

theorem planHash_congr {stores stores' : Both StoreIntent}
    (h : ∀ store, (stores'.get store).targetVersion = (stores.get store).targetVersion) :
    planHash plans stores' = planHash plans stores := by
  have hcatalog : stores'.catalog.targetVersion = stores.catalog.targetVersion := h .catalog
  have hrecovery : stores'.recovery.targetVersion = stores.recovery.targetVersion := h .recovery
  unfold planHash
  rw [hcatalog, hrecovery]

def StatePlans.Extends (plans' plans : StatePlans) : Prop :=
  ∀ store, (plans.plan store).migrations <+: (plans'.plan store).migrations

theorem StatePlans.Extends.store_eq (_ : plans'.Extends plans) (store : SqliteStore) :
    (plans'.plan store).store = (plans.plan store).store := by
  rw [plans'.store_eq, plans.store_eq]

theorem Loads.extend (h : Loads host plans dirName intent) (hextends : plans'.Extends plans) :
    Loads host plans' dirName intent := by
  have htargets : ∀ store, 1 ≤ (intent.stores.get store).targetVersion ∧
      (intent.stores.get store).beforeVersion ≤ (intent.stores.get store).targetVersion ∧
      (intent.stores.get store).targetVersion ≤ (plans'.plan store).migrations.length := by
    intro store
    obtain ⟨hpositive, hbefore, hfits⟩ := h.targets store
    exact ⟨hpositive, hbefore, Nat.le_trans hfits (hextends store).length_le⟩
  have htake : ∀ store,
      (plans'.plan store).migrations.take (intent.stores.get store).targetVersion =
      (plans.plan store).migrations.take (intent.stores.get store).targetVersion := by
    intro store
    obtain ⟨more, hmore⟩ := hextends store
    rw [← hmore, List.take_append_of_le_length (h.targets store).2.2]
  refine { h with targets := htargets, planHash := ?_ }
  have hhash := h.planHash
  rw [planHash_eq fun store => ⟨(h.targets store).1, (h.targets store).2.2⟩] at hhash
  rw [planHash_eq fun store => ⟨(htargets store).1, (htargets store).2.2⟩, ← hhash]
  have hcatalog : (plans'.plan .catalog).migrations.take intent.stores.catalog.targetVersion = _ :=
    htake .catalog
  have hrecovery :
      (plans'.plan .recovery).migrations.take intent.stores.recovery.targetVersion = _ :=
    htake .recovery
  rw [hcatalog, hrecovery]
  rfl

end

section
variable {lib : SqliteLibrary Content} {host : MigrationHost} {plans : StatePlans}
  {intent : MigrationIntent} {w w₀ : Workplace Content}

variable {store : SqliteStore} {fileName : String} {file : SqliteFile}

theorem verifyEntry_of_inspected {backupDir : BackupDir} {entry : SqliteStateStoreBackup}
    (h : inspectBackupFile store fileName file = .ok entry)
    (hfile : backupDir fileName = some file) :
    entry.store = store ∧ entry.fileName = fileName ∧
      verifyEntry backupDir entry = .ok entry := by
  have hinspected := h
  unfold inspectBackupFile at h
  split at h
  · cases h
  · simp only [check_bind_eq_ok] at h
    obtain ⟨-, -, -, hentry⟩ := h
    have hfields := Except.ok.inj hentry
    have hstore : entry.store = store := by rw [← hfields]
    have hname : entry.fileName = fileName := by rw [← hfields]
    have hsize : file.sizeBytes = entry.sizeBytes := by rw [← hfields]
    have hdigest : file.sha256 = entry.sha256 := by rw [← hfields]
    refine ⟨hstore, hname, ?_⟩
    unfold verifyEntry
    rw [hname, hfile]
    show (do
      check (file.sizeBytes = entry.sizeBytes) _
      check (file.sha256 = entry.sha256) _
      let inspected ← inspectBackupFile entry.store fileName file
      check (decide (inspected = entry)) _
      Except.ok inspected) = _
    rw [hstore, hinspected, decide_eq_true hsize, decide_eq_true hdigest]
    show (do
      check (decide (entry = entry)) _
      Except.ok entry) = _
    rw [decide_eq_true rfl]
    rfl

theorem inspectBackupFile_of {content : SqliteStoreContent} (hcontent : file.content = some content)
    (hidentity : content.identity = some store.value) (hquick : content.quickCheck.toLower = "ok")
    (hkeys : content.foreignKeyViolations = 0) :
    ∃ entry, inspectBackupFile store fileName file = .ok entry := by
  unfold inspectBackupFile
  rw [hcontent]
  simp only [decide_eq_true hidentity, decide_eq_true hquick, decide_eq_true hkeys]
  exact ⟨_, rfl⟩

variable {plan : SqliteMigrationPlan} {db : Database Content}

theorem inspect_copy (lib : SqliteLibrary Content) {n : Nat} (h : Managed plan n (some db))
    (hintents : HasIntents plan.store n) : ∃ entry,
      inspectBackupFile plan.store (backupFileName plan.store) (db.copy lib) = .ok entry := by
  obtain ⟨history, content, hdb, -, hlength⟩ := h
  obtain rfl := Option.some.inj hdb
  have hok : "ok".toLower = "ok" := by decide +kernel
  have hread : ¬ (some plan.store = some SqliteStore.recovery ∧
      history.projected.length < intentSegmentsVersion) := by
    rintro ⟨hrecovery, hless⟩
    exact absurd (hintents (Option.some.inj hrecovery)) (hlength ▸ Nat.not_le.mpr hless)
  exact inspectBackupFile_of (if_neg hread) rfl hok rfl

def Workplace.withBackup (w : Workplace Content) (backup : Option (Option BackupSet)) :
    Workplace Content := { w with epoch := { w.epoch with backup } }

/-- A whole manifest in `backup` is verified, and its set holds what was found. -/
def Fine (lib : SqliteLibrary Content) (found : SqliteStore → StoreFile Content)
    (backup : Option (Option BackupSet)) : Prop :=
  ∀ set manifest, backup = some (some set) → set.manifest = some (some manifest) →
    verifySqliteStateBackupSet set.files (.ok manifest) = .ok manifest ∧
      ∀ store, ∃ db, found store = some db ∧
        set.files (backupFileName store) = some (db.copy lib)

theorem Fine.of_unwritten {found : SqliteStore → StoreFile Content}
    {backup : Option (Option BackupSet)}
    (h : ∀ set, backup = some (some set) → set.manifest.join = none) : Fine lib found backup := by
  intro set manifest hset hmanifest
  have hnone := h set hset
  rw [hmanifest] at hnone
  cases hnone

/-- What may lie in the backup root while the set is made. -/
def Copying (lib : SqliteLibrary Content) (w₀ w : Workplace Content) : Prop :=
  ∃ backup, w = w₀.withBackup backup ∧ Fine lib w₀.epoch.found backup

theorem backupSqliteDatabase_survives {set : BackupSet} {n : Nat} (hplan : plan.store = store)
    (hstore : w₀.stores store = some db) (hmanaged : Managed plan n (some db))
    (hintents : HasIntents store n) (hmanifest : set.manifest = none) :
    Survives (· = w₀.withBackup (some (some set))) (backupSqliteDatabase lib store)
      (Copying lib w₀) fun entry w =>
        inspectBackupFile store (backupFileName store) (db.copy lib) = .ok entry ∧
          w = w₀.withBackup (some (some (set.addCopy store (db.copy lib)))) := by
  subst hplan
  obtain ⟨entry, hentry⟩ := inspect_copy lib hmanaged hintents
  have hunwritten : ∀ set' : BackupSet, set'.manifest = none →
      Copying lib w₀ (w₀.withBackup (some (some set'))) := by
    intro set' hnone
    refine ⟨_, rfl, Fine.of_unwritten ?_⟩
    intro other hother
    obtain rfl := Option.some.inj (Option.some.inj hother)
    rw [hnone]
    rfl
  unfold backupSqliteDatabase
  refine Survives.read_bind hstore ?_
  refine Survives.bind (Q := fun _ w =>
    w = w₀.withBackup (some (some (set.addCopy plan.store (db.copy lib)))))
    (Survives.write ?_ ?_) ?_
  · rintro w rfl
    rfl
  · rintro left w rfl
    split
    · exact hunwritten _ hmanifest
    · exact hunwritten set hmanifest
  · intro _
    apply Survives.ofExcept
    rintro w rfl
    exact ⟨entry, raisedAs_ok hentry, hentry, rfl⟩

theorem backupFileName_ne : backupFileName .catalog ≠ backupFileName .recovery := by decide

theorem addCopy_self (set : BackupSet) (store : SqliteStore) (file : SqliteFile) :
    (set.addCopy store file).files (backupFileName store) = some file := by
  simp [BackupSet.addCopy]

theorem addCopy_other (set : BackupSet) {name : String} (file : SqliteFile)
    (h : name ≠ backupFileName store) : (set.addCopy store file).files name = set.files name := by
  simp [BackupSet.addCopy, h]

theorem createEpochBackup_survives
    (hmanaged : ∀ store, ∃ n, HasIntents store n ∧
      Managed (plans.plan store) n (w₀.stores store))
    (hfound : ∀ store, w₀.stores store = w₀.epoch.found store) :
    Survives (· = w₀.withBackup none) (createEpochBackup lib intent) (Copying lib w₀)
      fun manifest w => ∃ backup, w = w₀.withBackup backup ∧ Fine lib w₀.epoch.found backup ∧
        ∃ set, backup = some (some set) ∧ set.manifest = some (some manifest) := by
  have hdatabase : ∀ store, ∃ db, w₀.stores store = some db ∧
      ∃ n, HasIntents store n ∧ Managed (plans.plan store) n (some db) := by
    intro store
    obtain ⟨n, hintents, hstore⟩ := hmanaged store
    obtain ⟨history, content, hfile, hrest⟩ := hstore
    exact ⟨_, hfile, n, hintents, history, content, rfl, hrest⟩
  obtain ⟨catalog, hcatalog, _, hcatalogIntents, hcatalogManaged⟩ := hdatabase .catalog
  obtain ⟨recovery, hrecovery, _, hrecoveryIntents, hrecoveryManaged⟩ := hdatabase .recovery
  have hunwritten : ∀ backup : Option (Option BackupSet),
      (∀ set, backup = some (some set) → set.manifest.join = none) →
        Copying lib w₀ (w₀.withBackup backup) :=
    fun backup h => ⟨backup, rfl, Fine.of_unwritten h⟩
  have hset : ∀ set : BackupSet, set.manifest.join = none →
      Copying lib w₀ (w₀.withBackup (some (some set))) := by
    intro set hnone
    apply hunwritten
    intro set' hset'
    obtain rfl := Option.some.inj (Option.some.inj hset')
    exact hnone
  unfold createEpochBackup
  refine Survives.read_bind rfl ?_
  refine Survives.ofExcept_bind (a := ()) rfl ?_
  refine Survives.bind (Q := fun _ w => w = w₀.withBackup (some none))
    (Survives.atomically ?_ ?_) ?_
  · rintro w rfl
    rfl
  · rintro w rfl
    exact hunwritten none nofun
  intro _
  refine Survives.bind (Q := fun _ w => w = w₀.withBackup (some (some {})))
    (Survives.atomically ?_ ?_) ?_
  · rintro w rfl
    rfl
  · rintro w rfl
    exact hunwritten (some none) nofun
  intro _
  refine Survives.bind (Q := fun _ w => w = w₀.withBackup (some (some { intentWritten := true })))
    (Survives.write ?_ ?_) ?_
  · rintro w rfl
    rfl
  · rintro left w rfl
    exact hset _ rfl
  intro _
  refine Survives.bind (backupSqliteDatabase_survives (plans.store_eq .catalog) hcatalog
    hcatalogManaged hcatalogIntents rfl) ?_
  intro catalogEntry
  refine Survives.given fun hcatalogEntry => ?_
  refine Survives.bind (backupSqliteDatabase_survives (plans.store_eq .recovery) hrecovery
    hrecoveryManaged hrecoveryIntents rfl) ?_
  intro recoveryEntry
  refine Survives.given fun hrecoveryEntry => ?_
  -- both copies are there, and the entries of the manifest are read from them
  let manifest : SqliteStateBackupManifest := {
    backupSetId := stateMigrationBackupSetId
    createdUtc := intent.startedUtc
    stateSetHash := stateSetHash stateMigrationBackupSetId intent.startedUtc
      [catalogEntry, recoveryEntry]
    stores := [catalogEntry, recoveryEntry] }
  let copied : BackupSet := (BackupSet.addCopy { intentWritten := true } .catalog
    (catalog.copy lib)).addCopy .recovery (recovery.copy lib)
  have hrecoveryFile : copied.files (backupFileName .recovery) = some (recovery.copy lib) :=
    addCopy_self _ _ _
  have hcatalogFile : copied.files (backupFileName .catalog) = some (catalog.copy lib) :=
    (addCopy_other _ _ backupFileName_ne).trans (addCopy_self _ _ _)
  obtain ⟨hcatalogStore, hcatalogName, hcatalogVerified⟩ :=
    verifyEntry_of_inspected hcatalogEntry hcatalogFile
  obtain ⟨hrecoveryStore, hrecoveryName, hrecoveryVerified⟩ :=
    verifyEntry_of_inspected hrecoveryEntry hrecoveryFile
  have hverified : verifySqliteStateBackupSet copied.files (.ok manifest) = .ok manifest := by
    refine verify_of_entries ?_ rfl ?_
    · unfold validateManifestStoreSet
      simp only [check_bind_eq_ok, check_eq_ok, decide_eq_true_eq]
      refine ⟨?_, ?_⟩
      · show [catalogEntry.store, recoveryEntry.store] = _
        rw [hcatalogStore, hrecoveryStore]
        rfl
      · show (decide (catalogEntry.fileName = backupFileName catalogEntry.store) &&
          (decide (recoveryEntry.fileName = backupFileName recoveryEntry.store) && true)) = true
        rw [hcatalogStore, hrecoveryStore, decide_eq_true hcatalogName,
          decide_eq_true hrecoveryName]
        rfl
    · show [catalogEntry, recoveryEntry].mapM (verifyEntry copied.files) = _
      simp only [List.mapM_cons, List.mapM_nil, hcatalogVerified, hrecoveryVerified]
      rfl
  have hfine : Fine lib w₀.epoch.found
      (some (some { copied with manifest := some (some manifest) })) := by
    intro set manifest' hset' hmanifest'
    obtain rfl := Option.some.inj (Option.some.inj hset')
    obtain rfl := Option.some.inj (Option.some.inj hmanifest')
    refine ⟨hverified, ?_⟩
    intro store
    cases store with
    | catalog => exact ⟨catalog, hfound .catalog ▸ hcatalog, hcatalogFile⟩
    | recovery => exact ⟨recovery, hfound .recovery ▸ hrecovery, hrecoveryFile⟩
  refine Survives.bind (Q := fun _ w =>
    w = w₀.withBackup (some (some { copied with manifest := some (some manifest) })))
    (Survives.write ?_ ?_) ?_
  · rintro w rfl
    rfl
  · rintro left w rfl
    split
    · exact hset _ rfl
    · exact hset copied rfl
  intro _
  refine Survives.read_bind rfl ?_
  apply Survives.ofExcept
  rintro w rfl
  exact ⟨manifest, raisedAs_ok hverified, _, rfl, hfine, _, rfl, rfl⟩

end


def Stands (lib : SqliteLibrary Content) (plan : SqliteMigrationPlan) (intent : StoreIntent)
    (file : StoreFile Content) : Prop :=
  (∃ n, Managed plan n file ∧ intent.beforeVersion ≤ n ∧ n ≤ intent.targetVersion) ∨
    (intent.beforeInitialized = false ∧ intent.beforeVersion = 0 ∧
      (Unmade lib file ∨ HalfMade file))

/-- The epoch is published and not committed. -/
structure Pending (lib : SqliteLibrary Content) (host : MigrationHost) (plans : StatePlans)
    (intent : MigrationIntent) (w : Workplace Content) : Prop where
  published : w.epoch.intent = some intent
  uncommitted : w.epoch.committed = none
  loads : Loads host plans w.epoch.epochId intent
  /-- Both stores were initialised, and a backup is required, or neither was. -/
  paired : ∀ store, (intent.stores.get store).beforeInitialized = intent.backupRequired
  foundUnmade : intent.backupRequired = false → ∀ store, Unmade lib (w.epoch.found store)
  stands : ∀ store, Stands lib (plans.plan store) (intent.stores.get store) (w.stores store)
  verified : ∀ store, (intent.stores.get store).phase = .verified →
    DoneAt (plans.plan store) (intent.stores.get store).targetVersion (w.stores store)
  statusRequired : intent.backupRequired = true → intent.backupStatus ≠ .notRequired
  /-- Before the backup set is verified the stores are as they were found. -/
  unbacked : intent.backupStatus = .pending →
    (∀ store, w.stores store = w.epoch.found store) ∧
      (∀ store, HasIntents store (intent.stores.get store).beforeVersion ∧
        Managed (plans.plan store) (intent.stores.get store).beforeVersion (w.stores store)) ∧
      Fine lib w.epoch.found w.epoch.backup
  backed : intent.backupStatus = .verified →
    ∃ manifest, BackedUp lib w.epoch manifest ∧
      intent.backupStateSetHash = some manifest.stateSetHash
  intents : ∀ store, HasIntents store (intent.stores.get store).targetVersion

def Grown (plans : StatePlans) (stores stores' : SqliteStore → StoreFile Content) : Prop :=
  ∀ store n, Managed (plans.plan store) n (stores store) →
    ∃ n', Managed (plans.plan store) n' (stores' store) ∧ n ≤ n'

/-- The same epoch later. -/
structure Onward (plans : StatePlans) (w₀ w : Workplace Content) : Prop where
  epochId : w.epoch.epochId = w₀.epoch.epochId
  found : w.epoch.found = w₀.epoch.found
  grown : Grown plans w₀.stores w.stores

def Underway (lib : SqliteLibrary Content) (host : MigrationHost) (plans : StatePlans)
    (w₀ w : Workplace Content) : Prop :=
  ∃ intent, Pending lib host plans intent w ∧ Onward plans w₀ w

/-- The epoch is pending, and its backup is there or not needed. -/
structure Ready (lib : SqliteLibrary Content) (host : MigrationHost) (plans : StatePlans)
    (targets : SqliteStore → Nat) (w₀ : Workplace Content) (intent : MigrationIntent)
    (w : Workplace Content) : Prop where
  pending : Pending lib host plans intent w
  onward : Onward plans w₀ w
  status : intent.backupStatus ≠ .pending
  whole : ∀ store, ¬ HalfMade (w.stores store)
  targets_eq : ∀ store, (intent.stores.get store).targetVersion = targets store

section
variable {lib : SqliteLibrary Content} {host : MigrationHost} {plans : StatePlans}
  {intent intent' : MigrationIntent} {w w' w₀ : Workplace Content}

theorem Grown.refl (stores : SqliteStore → StoreFile Content) : Grown plans stores stores :=
  fun _ n h => ⟨n, h, Nat.le_refl n⟩

theorem Grown.trans {stores stores' stores'' : SqliteStore → StoreFile Content}
    (h : Grown plans stores stores') (h' : Grown plans stores' stores'') :
    Grown plans stores stores'' := by
  intro store n hn
  obtain ⟨n', hn', hle⟩ := h store n hn
  obtain ⟨n'', hn'', hle'⟩ := h' store n' hn'
  exact ⟨n'', hn'', Nat.le_trans hle hle'⟩

theorem Onward.refl (w : Workplace Content) : Onward plans w w := ⟨rfl, rfl, Grown.refl _⟩

def Workplace.withTemp (w : Workplace Content) (intentTemp : Bool) : Workplace Content :=
  { w with epoch := { w.epoch with intentTemp } }

def Workplace.withIntent (w : Workplace Content) (intent : MigrationIntent) : Workplace Content :=
  { w with epoch := { w.epoch with intent := some intent, intentTemp := false } }

theorem Pending.withTemp (h : Pending lib host plans intent w) (temp : Bool) :
    Pending lib host plans intent (w.withTemp temp) :=
  ⟨h.published, h.uncommitted, h.loads, h.paired, h.foundUnmade, h.stands, h.verified,
    h.statusRequired, h.unbacked, h.backed, h.intents⟩

theorem Onward.withTemp (temp : Bool) (h : Onward plans w₀ w) :
    Onward plans w₀ (w.withTemp temp) := ⟨h.epochId, h.found, h.grown⟩

theorem writeIntent_survives (intent : MigrationIntent) (w : Workplace Content) :
    Survives (· = w) (writeIntent intent) (fun w' => ∃ temp, w' = w.withTemp temp)
      fun _ w' => w' = w.withIntent intent := by
  unfold writeIntent
  refine Survives.bind (Q := fun _ w' => w' = w.withTemp false) (Survives.atomically ?_ ?_) ?_
  · rintro w' rfl
    rfl
  · rintro w' rfl
    exact ⟨w'.epoch.intentTemp, rfl⟩
  intro _
  refine Survives.bind (Q := fun _ w' => w' = w.withTemp true) (Survives.write ?_ ?_) ?_
  · rintro w' rfl
    rfl
  · rintro left w' rfl
    exact ⟨left "temp", rfl⟩
  intro _
  refine Survives.atomically ?_ ?_
  · rintro w' rfl
    rfl
  · rintro w' rfl
    exact ⟨true, rfl⟩

theorem Pending.withBackup {backup : Option (Option BackupSet)}
    (h : Pending lib host plans intent w) (hstatus : intent.backupStatus = .pending)
    (hfine : Fine lib w.epoch.found backup) :
    Pending lib host plans intent (w.withBackup backup) := by
  obtain ⟨hfound, hbefore, -⟩ := h.unbacked hstatus
  refine ⟨h.published, h.uncommitted, h.loads, h.paired, h.foundUnmade, h.stands, h.verified,
    h.statusRequired, fun _ => ⟨hfound, hbefore, hfine⟩, ?_, h.intents⟩
  intro hverified
  rw [hstatus] at hverified
  cases hverified

variable {manifest : SqliteStateBackupManifest}

theorem isHash_of_verified {files : BackupDir}
    (h : verifySqliteStateBackupSet files (.ok manifest) = .ok manifest) :
    isHash manifest.stateSetHash = true := by
  unfold verifySqliteStateBackupSet at h
  obtain ⟨loaded, hloaded, h⟩ := except_bind_ok h
  obtain rfl := Except.ok.inj hloaded
  obtain ⟨_, -, h⟩ := except_bind_ok h
  rw [check_bind_eq_ok, decide_eq_true_eq] at h
  rw [h.1]
  exact Sha256.isHash_hexdigest _

theorem Pending.backUp (h : Pending lib host plans intent w)
    (hrequired : intent.backupRequired = true) (hbacked : BackedUp lib w.epoch manifest) :
    Pending lib host plans (intent.withBackup manifest)
      (w.withIntent (intent.withBackup manifest)) := by
  have hhash : isHash manifest.stateSetHash = true := by
    obtain ⟨set, -, -, hverified, -⟩ := hbacked
    exact isHash_of_verified hverified
  refine ⟨rfl, h.uncommitted, ?_, h.paired, h.foundUnmade, h.stands, h.verified, nofun, nofun,
    fun _ => ⟨manifest, hbacked, rfl⟩, h.intents⟩
  refine { h.loads with
    hash := hhash
    hash_iff := ⟨fun _ => rfl, fun _ => rfl⟩
    notRequired := ?_
    revision := Nat.le_add_left 1 _ }
  intro hnone
  rw [show intent.backupRequired = false from hnone] at hrequired
  cases hrequired

end

section
variable {lib : SqliteLibrary Content} {host : MigrationHost} {plans : StatePlans}
  {intent intent' : MigrationIntent} {w w₀ w₁ : Workplace Content}

theorem reuseOrCreateBackup_survives (h : Pending lib host plans intent w₁)
    (hstatus : intent.backupStatus = .pending) (htorn : ¬ TornManifest w₁.epoch) :
    Survives (· = w₁) (reuseOrCreateBackup lib intent w₁.epoch) (Copying lib w₁)
      fun manifest w => ∃ backup, w = w₁.withBackup backup ∧ Fine lib w₁.epoch.found backup ∧
        ∃ set, backup = some (some set) ∧ set.manifest = some (some manifest) := by
  obtain ⟨hfound, hbefore, hfine⟩ := h.unbacked hstatus
  have hcreate : Survives (· = w₁.withBackup none) (createEpochBackup lib intent) _ _ :=
    createEpochBackup_survives (fun store => ⟨_, hbefore store⟩) hfound
  unfold reuseOrCreateBackup
  by_cases hroot : w₁.epoch.backup.isSome
  · rw [if_pos hroot]
    by_cases hmanifest : (w₁.epoch.backupSet.bind BackupSet.manifest).isSome
    · rw [if_pos hmanifest]
      obtain ⟨written, hwritten⟩ := Option.isSome_iff_exists.mp hmanifest
      obtain ⟨set, hset, hsetManifest⟩ := Option.bind_eq_some_iff.mp hwritten
      have hbackup : w₁.epoch.backup = some (some set) := Option.join_eq_some_iff.mp hset
      -- a manifest that is there is whole
      cases written with
      | none =>
        exact absurd ⟨⟨intent, h.published, hstatus⟩, set, hbackup, hsetManifest⟩ htorn
      | some manifest =>
        obtain ⟨hverified, -⟩ := hfine set manifest hbackup hsetManifest
        unfold verifyEpochBackup
        refine Survives.read_bind (a := set) ?_ ?_
        · rw [hset]
          rfl
        rw [hsetManifest]
        apply Survives.ofExcept
        rintro w rfl
        refine ⟨manifest, raisedAs_ok hverified, w.epoch.backup, rfl, hfine, set, hbackup,
          hsetManifest⟩
    · rw [if_neg hmanifest]
      have hunwritten : ∀ set, w₁.epoch.backup = some (some set) → set.manifest = none := by
        intro set hset
        have hnone := Option.not_isSome_iff_eq_none.mp hmanifest
        unfold EpochDir.backupSet at hnone
        rw [hset] at hnone
        exact hnone
      refine Survives.bind (Q := fun _ w => w = w₁.withBackup none) (Survives.write ?_ ?_)
        fun _ => hcreate
      · rintro w rfl
        rfl
      · rintro left w rfl
        split
        · refine ⟨w.epoch.backup.map (Option.map fun set =>
            { set with files := fun name => if left name then set.files name else none }), rfl,
            Fine.of_unwritten ?_⟩
          intro set hset
          obtain ⟨inner, hinner, houter⟩ := Option.map_eq_some_iff.mp hset
          obtain ⟨old, rfl, rfl⟩ := Option.map_eq_some_iff.mp houter
          show old.manifest.join = none
          rw [hunwritten old hinner]
          rfl
        · refine ⟨w.epoch.backup.map fun _ => none, rfl, Fine.of_unwritten ?_⟩
          intro set hset
          obtain ⟨inner, -, hnone⟩ := Option.map_eq_some_iff.mp hset
          cases hnone
  · rw [if_neg hroot]
    have hnone : w₁.withBackup none = w₁ := by
      have hbackup := Option.not_isSome_iff_eq_none.mp hroot
      unfold Workplace.withBackup
      rw [← hbackup]
    rw [hnone] at hcreate
    exact hcreate

theorem ensureBackup_survives {states : Both SqliteMigrationState}
    (h : Pending lib host plans intent w₁) (honward : Onward plans w₀ w₁)
    (hwhole : ∀ store, ¬ HalfMade (w₁.stores store)) (htorn : ¬ TornManifest w₁.epoch)
    (hstates : ∀ store, inspectStore lib (w₁.stores store) (plans.plan store) =
      .ok (states.get store)) :
    Survives (· = w₁) (ensureBackup lib intent states) (Underway lib host plans w₀)
      (Ready lib host plans (fun store => (intent.stores.get store).targetVersion) w₀) := by
  unfold ensureBackup
  cases hrequired : intent.backupRequired with
  | false =>
    have hstatus := h.loads.notRequired hrequired
    refine Survives.ofExcept_bind (a := ()) (require_eq_ok.mpr (decide_eq_true hstatus)) ?_
    apply Survives.pure
    rintro w rfl
    exact ⟨h, honward, by rw [hstatus]; exact nofun, hwhole, fun _ => rfl⟩
  | true =>
    cases hstatus : intent.backupStatus with
    | notRequired => exact absurd hstatus (h.statusRequired hrequired)
    | verified =>
      obtain ⟨manifest, ⟨set, hbackup, hmanifest, hverified, hcopies⟩, hhash⟩ := h.backed hstatus
      refine Survives.bind (Q := fun read w => read = manifest ∧ w = w₁) ?_ ?_
      · unfold verifyEpochBackup
        refine Survives.read_bind (a := set) ?_ ?_
        · unfold EpochDir.backupSet
          rw [hbackup]
          rfl
        rw [hmanifest]
        apply Survives.ofExcept
        rintro w rfl
        exact ⟨manifest, raisedAs_ok hverified, rfl, rfl⟩
      intro read
      refine Survives.given fun hread => ?_
      subst hread
      refine Survives.ofExcept_bind (a := ()) (require_eq_ok.mpr (decide_eq_true hhash.symm)) ?_
      apply Survives.pure
      rintro w rfl
      exact ⟨h, honward, by rw [hstatus]; exact nofun, hwhole, fun _ => rfl⟩
    | pending =>
      obtain ⟨hfound, hbefore, -⟩ := h.unbacked hstatus
      have hversion : ∀ store, (states.get store).currentVersion =
          (intent.stores.get store).beforeVersion := by
        intro store
        obtain ⟨missing, hread, -⟩ := inspectStore_managed lib (hbefore store).2
        have heq := Except.ok.inj ((hstates store).symm.trans hread)
        rw [heq]
      refine Survives.ofExcept_bind (a := ()) (require_eq_ok.mpr ?_) ?_
      · rw [Bool.and_eq_true, decide_eq_true_eq, decide_eq_true_eq]
        exact ⟨hversion .catalog, hversion .recovery⟩
      refine Survives.read_bind rfl ?_
      have hcopying : ∀ w, Copying lib w₁ w → Underway lib host plans w₀ w := by
        rintro w ⟨backup, rfl, hfine⟩
        exact ⟨intent, h.withBackup hstatus hfine, honward.epochId, honward.found, honward.grown⟩
      refine Survives.bind ((reuseOrCreateBackup_survives h hstatus htorn).consequence (fun _ => id)
        hcopying fun _ _ => id) ?_
      intro manifest
      apply Survives.each
      rintro w ⟨backup, rfl, hfine, set, rfl, hmanifest⟩
      have hpending := h.withBackup hstatus hfine
      have hbacked : BackedUp lib (w₁.withBackup (some (some set))).epoch manifest :=
        ⟨set, rfl, hmanifest, hfine set manifest rfl hmanifest⟩
      refine Survives.bind ((writeIntent_survives (intent.withBackup manifest) _).consequence
        (fun _ => id) ?_ fun _ _ => id) ?_
      · rintro w ⟨temp, rfl⟩
        exact ⟨intent, hpending.withTemp temp, honward.epochId, honward.found, honward.grown⟩
      · intro _
        apply Survives.pure
        rintro w rfl
        exact ⟨hpending.backUp hrequired hbacked,
          ⟨honward.epochId, honward.found, honward.grown⟩, nofun, hwhole, fun _ => rfl⟩

/-- A manifest that was cut short ends the backup before its first write. -/
theorem ensureBackup_torn {states : Both SqliteMigrationState}
    (h : Pending lib host plans intent w₁) (htorn : TornManifest w₁.epoch) :
    Ends (· = w₁) (ensureBackup lib intent states) (fun _ => False) (fun _ w => w = w₁)
      fun _ _ => False := by
  obtain ⟨⟨intent', hintent, hstatus⟩, set, hbackup, hmanifest⟩ := htorn
  obtain rfl : intent' = intent := Option.some.inj (hintent.symm.trans h.published)
  have hrequired : intent'.backupRequired = true := by
    by_contra hnot
    have hnone := h.loads.notRequired (Bool.not_eq_true _ ▸ hnot)
    exact absurd (hstatus.symm.trans hnone) nofun
  have hset : w₁.epoch.backupSet = some set := Option.join_eq_some_iff.mpr hbackup
  unfold ensureBackup
  simp only [hrequired, hstatus]
  refine Ends.bind Ends.check fun _ => ?_
  refine Ends.read_bind ?_
  refine Ends.bind (Q := fun _ _ => False) ?_ fun _ _ hw => hw.elim
  unfold reuseOrCreateBackup
  rw [if_pos (by rw [hbackup]; rfl), if_pos (by rw [hset, Option.bind_some, hmanifest]; rfl)]
  unfold verifyEpochBackup
  refine Ends.read_bind ?_
  rw [hset, Option.getD_some, hmanifest]
  exact Ends.fail _ fun _ hw => hw

theorem Both.get_set {α : Type} (both : Both α) (store store' : SqliteStore) (value : α) :
    (both.set store value).get store' = if store' = store then value else both.get store' := by
  cases store <;> cases store' <;> rfl

variable {store : SqliteStore} {file : StoreFile Content}

theorem Pending.setStore (h : Pending lib host plans intent w)
    (hstatus : intent.backupStatus ≠ .pending)
    (hphase : (intent.stores.get store).phase ≠ .verified)
    (hfile : Stands lib (plans.plan store) (intent.stores.get store) file) :
    Pending lib host plans intent (w.setStore store file) := by
  refine ⟨h.published, h.uncommitted, h.loads, h.paired, h.foundUnmade, ?_, ?_, h.statusRequired,
    fun hpending => absurd hpending hstatus, h.backed, h.intents⟩
  · intro other
    show Stands lib _ _ (Function.update w.stores store file other)
    by_cases hother : other = store
    · subst hother
      rw [Function.update_self]
      exact hfile
    · rw [Function.update_of_ne hother]
      exact h.stands other
  · intro other hverified
    have hother : other ≠ store := by
      rintro rfl
      exact hphase hverified
    show DoneAt _ _ (Function.update w.stores store file other)
    rw [Function.update_of_ne hother]
    exact h.verified other hverified

theorem Onward.setStore (h : Onward plans w₀ w)
    (hgrown : ∀ n, Managed (plans.plan store) n (w.stores store) →
      ∃ n', Managed (plans.plan store) n' file ∧ n ≤ n') :
    Onward plans w₀ (w.setStore store file) := by
  refine ⟨h.epochId, h.found, h.grown.trans ?_⟩
  intro other n hn
  show ∃ n', Managed _ n' (Function.update w.stores store file other) ∧ n ≤ n'
  by_cases hother : other = store
  · subst hother
    rw [Function.update_self]
    exact hgrown n hn
  · rw [Function.update_of_ne hother]
    exact ⟨n, hn, Nat.le_refl n⟩

theorem Pending.markVerified (h : Pending lib host plans intent w)
    (hstatus : intent.backupStatus ≠ .pending)
    (hdone : DoneAt (plans.plan store) (intent.stores.get store).targetVersion (w.stores store)) :
    Pending lib host plans (intent.markVerified store)
      (w.withIntent (intent.markVerified store)) := by
  have hget : ∀ other, (((intent.markVerified store).stores.get other).beforeVersion =
        (intent.stores.get other).beforeVersion ∧
      ((intent.markVerified store).stores.get other).targetVersion =
        (intent.stores.get other).targetVersion) ∧
      ((intent.markVerified store).stores.get other).beforeInitialized =
        (intent.stores.get other).beforeInitialized := by
    intro other
    unfold MigrationIntent.markVerified
    rw [Both.get_set]
    split
    · rename_i heq
      rw [heq]
      exact ⟨⟨rfl, rfl⟩, rfl⟩
    · exact ⟨⟨rfl, rfl⟩, rfl⟩
  refine ⟨rfl, h.uncommitted, ?_, ?_, h.foundUnmade, ?_, ?_, h.statusRequired,
    fun hpending => absurd hpending hstatus, h.backed,
    fun other => (hget other).1.2 ▸ h.intents other⟩
  · refine { h.loads with
      targets := ?_
      planHash := ?_
      required := ?_
      revision := Nat.le_add_left 1 _ }
    · intro other
      rw [(hget other).1.1, (hget other).1.2]
      exact h.loads.targets other
    · exact (planHash_congr fun other => (hget other).1.2).trans h.loads.planHash
    · have hcatalog := (hget .catalog).2
      have hrecovery := (hget .recovery).2
      show intent.backupRequired = _
      rw [show (intent.markVerified store).stores.catalog.beforeInitialized = _ from hcatalog,
        show (intent.markVerified store).stores.recovery.beforeInitialized = _ from hrecovery]
      exact h.loads.required
  · intro other
    rw [(hget other).2]
    exact h.paired other
  · intro other
    show Stands lib _ _ (w.stores other)
    unfold Stands
    rw [(hget other).1.1, (hget other).1.2, (hget other).2]
    exact h.stands other
  · intro other hverified
    show DoneAt _ _ (w.stores other)
    rw [(hget other).1.2]
    by_cases hother : other = store
    · rw [hother]
      exact hdone
    · apply h.verified other
      unfold MigrationIntent.markVerified at hverified
      rw [Both.get_set, if_neg hother] at hverified
      exact hverified

variable {plan : SqliteMigrationPlan}

theorem Stands.of_moment {store : StoreIntent} {file₀ file : StoreFile Content}
    {hpositive : ¬ store.targetVersion < 1} (h : Stands lib plan store file₀)
    (hmoment : Moment lib (plan.take store.targetVersion hpositive) file₀ file)
    (hfits : store.targetVersion ≤ plan.migrations.length) :
    Stands lib plan store file ∧ ∀ n, Managed plan n file₀ →
      ∃ n', Managed plan n' file ∧ n ≤ n' := by
  have hlength : (plan.take store.targetVersion hpositive).migrations.length =
      store.targetVersion := by
    show (plan.migrations.take store.targetVersion).length = _
    rw [List.length_take, Nat.min_eq_left hfits]
  have hcut : ∀ n, n ≤ store.targetVersion → Managed plan n file₀ →
      Managed (plan.take store.targetVersion hpositive) n file₀ :=
    fun n hn hmanaged => hmanaged.shorten rfl (List.take_prefix _ _) (by rw [hlength]; exact hn)
  obtain ⟨n, hmanaged, hfloor⟩ | ⟨hnew, hshape⟩ := hmoment
  · have hfile : Managed plan n file := hmanaged.extend rfl (List.take_prefix _ _)
    have hle : n ≤ store.targetVersion := hlength ▸ hmanaged.fits
    obtain ⟨m, hm, hbefore, hmle⟩ | ⟨-, hzero, hshape⟩ := h
    · have hmn := hfloor m (hcut m hmle hm)
      refine ⟨.inl ⟨n, hfile, Nat.le_trans hbefore hmn, hle⟩, ?_⟩
      intro k hk
      exact ⟨n, hfile, hm.unique hk ▸ hmn⟩
    · refine ⟨.inl ⟨n, hfile, hzero ▸ Nat.zero_le n, hle⟩, ?_⟩
      intro k hk
      obtain hunmade | hhalf := hshape
      · exact absurd hunmade hk.not_unmade
      · exact absurd hhalf hk.not_halfMade
  · obtain ⟨m, hm, -, hmle⟩ | ⟨huninitialized, hzero, hshape₀⟩ := h
    · exact absurd (hcut m hmle hm) (hnew m)
    · refine ⟨.inr ⟨huninitialized, hzero, hshape⟩, ?_⟩
      intro k hk
      obtain hunmade | hhalf := hshape₀
      · exact absurd hunmade hk.not_unmade
      · exact absurd hhalf hk.not_halfMade

theorem Stands.inspect {store : StoreIntent} (h : Stands lib plan store file)
    (hwhole : ¬ HalfMade file) : ∃ state,
      inspectStore lib file plan = .ok state ∧ store.beforeVersion ≤ state.currentVersion ∧
        state.currentVersion ≤ store.targetVersion ∧
        ((Unmade lib file ∧ state.initialized = false) ∨
          (Managed plan state.currentVersion file ∧ (state.checksumBackfillRequired = false →
            DoneAt plan state.currentVersion file))) := by
  obtain ⟨n, hmanaged, hbefore, htarget⟩ | ⟨-, hzero, hunmade | hhalf⟩ := h
  · obtain ⟨missing, hread, hdone⟩ := inspectStore_managed lib hmanaged
    exact ⟨_, hread, hbefore, htarget, .inr ⟨hmanaged, hdone⟩⟩
  · exact ⟨_, inspectStore_unmade hunmade, Nat.le_of_eq hzero, Nat.zero_le _, .inl ⟨hunmade, rfl⟩⟩
  · exact absurd hhalf hwhole

theorem executeStore_survives {targets : SqliteStore → Nat} (store : SqliteStore)
    (hready : Ready lib host plans targets w₀ intent w₁) :
    Survives (· = w₁) (executeStore lib plans store intent) (Underway lib host plans w₀)
      fun intent' w => Ready lib host plans targets w₀ intent' w ∧
        (intent'.stores.get store).phase = .verified ∧
        ∀ other, (intent.stores.get other).phase = .verified →
          (intent'.stores.get other).phase = .verified := by
  obtain ⟨h, honward, hstatus, hwhole, htargets⟩ := hready
  obtain ⟨hpositive, -, hfits⟩ := h.loads.targets store
  have hstands := h.stands store
  obtain ⟨state, hread, hbefore, htarget, hcase⟩ := hstands.inspect (hwhole store)
  have hresume : validateStoreResumeState (intent.stores.get store) state = .ok () := by
    unfold validateStoreResumeState
    simp only [require_bind_eq_ok, require_eq_ok, decide_eq_true_eq, Bool.or_eq_true,
      Bool.and_eq_true]
    refine ⟨hbefore, htarget, ?_⟩
    by_cases hphase : (intent.stores.get store).phase = .verified
    · have hdone := inspectStore_done lib (h.verified store hphase)
      have hstate := Except.ok.inj (hread.symm.trans hdone)
      rw [hstate]
      exact .inr ⟨⟨rfl, rfl⟩, rfl⟩
    · exact .inl hphase
  unfold executeStore
  refine Survives.read_bind rfl ?_
  refine Survives.ofExcept_bind hread ?_
  refine Survives.ofExcept_bind hresume ?_
  by_cases hphase : (intent.stores.get store).phase = .verified
  · rw [if_pos hphase]
    apply Survives.pure
    rintro w rfl
    exact ⟨⟨h, honward, hstatus, hwhole, htargets⟩, hphase, fun _ => id⟩
  rw [if_neg hphase]
  have hinitial := planPrefix_ok (Nat.not_lt.mpr hpositive) hfits
  refine Survives.ofExcept_bind hinitial ?_
  -- whether or not there is something to apply, the store is at its target then
  refine Survives.bind (C := Underway lib host plans w₀) (Q := fun _ w => ∃ file,
    w = w₁.setStore store file ∧
      DoneAt (plans.plan store) (intent.stores.get store).targetVersion file ∧
      ∀ n, Managed (plans.plan store) n (w₁.stores store) →
        ∃ n', Managed (plans.plan store) n' file ∧ n ≤ n') ?_ ?_
  · unfold bringToTarget
    split
    · have hstart : Unmade lib (w₁.stores store) ∨ ∃ n, Managed ((plans.plan store).take
          (intent.stores.get store).targetVersion (Nat.not_lt.mpr hpositive)) n
            (w₁.stores store) := by
        obtain ⟨hunmade, -⟩ | ⟨hmanaged, -⟩ := hcase
        · exact .inl hunmade
        · refine .inr ⟨_, hmanaged.shorten rfl (List.take_prefix _ _) ?_⟩
          show _ ≤ ((plans.plan store).migrations.take _).length
          rw [List.length_take, Nat.min_eq_left hfits]
          exact htarget
      have hmigrate : Survives (· = w₁)
          (onPart (fun w : Workplace Content => w.stores store)
            (fun w file => w.setStore store file)
            (migrateOneStore lib ((plans.plan store).take
              (intent.stores.get store).targetVersion (Nat.not_lt.mpr hpositive)))) _ _ :=
        Survives.onPart (I := (· = w₁.stores store)) rfl (migrateOneStore_survives hstart)
      refine hmigrate.consequence (fun _ => id) ?_ ?_
      · rintro w ⟨file, rfl, hmoment⟩
        obtain ⟨hstands', hgrown⟩ := hstands.of_moment hmoment hfits
        exact ⟨intent, h.setStore hstatus hphase hstands', honward.setStore hgrown⟩
      · rintro _ w ⟨file, rfl, hmigrated⟩
        obtain ⟨-, hgrown⟩ := hstands.of_moment (Moment.of_migrated hmigrated) hfits
        exact ⟨file, rfl, hmigrated.doneAt hfits, hgrown⟩
    · rename_i hnothing
      apply Survives.pure
      rintro w rfl
      simp only [Bool.or_eq_true, decide_eq_true_eq, Bool.not_eq_true', not_or,
        Bool.not_eq_false, Bool.not_eq_true] at hnothing
      obtain ⟨⟨hreached, hchecksums⟩, hinitialized⟩ := hnothing
      obtain ⟨-, huninitialized⟩ | ⟨-, hdone⟩ := hcase
      · rw [huninitialized] at hinitialized
        cases hinitialized
      · have hversion := Nat.le_antisymm htarget (Nat.not_lt.mp hreached)
        refine ⟨w.stores store, ?_, hversion ▸ hdone hchecksums, fun n hn => ⟨n, hn, Nat.le_refl n⟩⟩
        unfold Workplace.setStore
        rw [Function.update_eq_self]
  intro _
  apply Survives.each
  rintro w ⟨file, rfl, hdone, hgrown⟩
  have hstands' : Stands lib (plans.plan store) (intent.stores.get store) file :=
    .inl ⟨_, hdone.managed, Nat.le_trans hbefore htarget, Nat.le_refl _⟩
  have hpending := h.setStore hstatus hphase hstands'
  have hnext : Onward plans w₀ (w₁.setStore store file) := honward.setStore hgrown
  have hself : (w₁.setStore store file).stores store = file := Function.update_self _ _ _
  refine Survives.read_bind hself ?_
  refine Survives.ofExcept_bind (a := ()) ?_ ?_
  · obtain ⟨rows, content, hfile, hfollows, hchecksums, hlength⟩ := hdone
    have hcut : DoneAt ((plans.plan store).take (intent.stores.get store).targetVersion
        (Nat.not_lt.mpr hpositive)) (intent.stores.get store).targetVersion file := by
      refine ⟨rows, content, hfile, hfollows.shorten rfl (List.take_prefix _ _) ?_, hchecksums,
        hlength⟩
      show _ ≤ ((plans.plan store).migrations.take _).length
      rw [List.length_take, Nat.min_eq_left hfits, hlength]
    unfold verifyStoreTarget
    rw [inspectStore_done lib hcut]
    show require (true && decide (_ = _) && !false) _ = _
    rw [decide_eq_true rfl]
    rfl
  have hdone' : DoneAt (plans.plan store) (intent.stores.get store).targetVersion
      ((w₁.setStore store file).stores store) := hself.symm ▸ hdone
  refine Survives.bind ((writeIntent_survives (intent.markVerified store) _).consequence
    (fun _ => id) ?_ fun _ _ => id) ?_
  · rintro w ⟨temp, rfl⟩
    exact ⟨intent, hpending.withTemp temp, hnext.withTemp temp⟩
  intro _
  apply Survives.pure
  rintro w rfl
  refine ⟨⟨hpending.markVerified hstatus hdone', ⟨hnext.epochId, hnext.found, hnext.grown⟩,
    hstatus, ?_, ?_⟩, ?_, ?_⟩
  · intro other
    show ¬ HalfMade (Function.update w₁.stores store file other)
    by_cases hother : other = store
    · subst hother
      rw [Function.update_self]
      exact hdone.managed.not_halfMade
    · rw [Function.update_of_ne hother]
      exact hwhole other
  · intro other
    rw [← htargets other]
    unfold MigrationIntent.markVerified
    rw [Both.get_set]
    split
    · rename_i heq
      rw [heq]
    · rfl
  · unfold MigrationIntent.markVerified
    rw [Both.get_set, if_pos rfl]
  · intro other hverified
    unfold MigrationIntent.markVerified
    rw [Both.get_set]
    split
    · rfl
    · exact hverified

theorem writeCommitted_survives {marker : CommittedMarker}
    (h : Pending lib host plans intent w) (honward : Onward plans w₀ w) :
    Survives (· = w) (writeCommitted marker) (Underway lib host plans w₀) fun _ w' => w' =
      { w with epoch := { w.epoch with committed := some marker, committedTemp := false } } := by
  have htemp : ∀ committedTemp, Underway lib host plans w₀
      { w with epoch := { w.epoch with committedTemp } } := by
    intro committedTemp
    exact ⟨intent, ⟨h.published, h.uncommitted, h.loads, h.paired, h.foundUnmade, h.stands,
      h.verified, h.statusRequired, h.unbacked, h.backed, h.intents⟩,
      honward.epochId, honward.found, honward.grown⟩
  unfold writeCommitted
  refine Survives.bind (Q := fun _ w' => w' =
    { w with epoch := { w.epoch with committedTemp := false } }) (Survives.atomically ?_ ?_) ?_
  · rintro w' rfl
    rfl
  · rintro w' rfl
    exact htemp w'.epoch.committedTemp
  intro _
  refine Survives.read_bind h.uncommitted ?_
  refine Survives.ofExcept_bind rfl ?_
  refine Survives.bind (Q := fun _ w' => w' =
    { w with epoch := { w.epoch with committedTemp := true } }) (Survives.write ?_ ?_) ?_
  · rintro w' rfl
    rfl
  · rintro left w' rfl
    exact htemp (left "temp")
  intro _
  refine Survives.atomically ?_ ?_
  · rintro w' rfl
    rfl
  · rintro w' rfl
    exact htemp true

/-- The epoch is committed. -/
structure Closed (lib : SqliteLibrary Content) (host : MigrationHost) (plans : StatePlans)
    (intent : MigrationIntent) (w : Workplace Content) : Prop where
  published : w.epoch.intent = some intent
  committed : ∃ marker, w.epoch.committed = some marker ∧
    validateCommittedMarker marker intent = .ok ()
  loads : Loads host plans w.epoch.epochId intent
  foundUnmade : intent.backupRequired = false → ∀ store, Unmade lib (w.epoch.found store)
  reached : ∀ store, ∃ n, Managed (plans.plan store) n (w.stores store) ∧
    (intent.stores.get store).targetVersion ≤ n
  backed : intent.backupRequired = true → ∃ manifest, BackedUp lib w.epoch manifest
  intents : ∀ store, HasIntents store (intent.stores.get store).targetVersion

theorem executeEpoch_torn {completedUtc : String} (h : Pending lib host plans intent w₁)
    (htorn : TornManifest w₁.epoch) :
    Ends (· = w₁) (executeEpoch lib plans completedUtc intent) (fun _ => False)
      (fun _ w => w = w₁) fun _ _ => False := by
  unfold executeEpoch
  refine Ends.read_bind ?_
  refine Ends.bind Ends.check fun current => ?_
  refine Ends.bind Ends.check fun _ => ?_
  refine Ends.bind Ends.check fun _ => ?_
  exact Ends.bind (ensureBackup_torn h htorn) fun _ _ hw => hw.elim

theorem executeEpoch_survives {completedUtc : String} (h : Pending lib host plans intent w₁)
    (hwhole : ∀ store, ¬ HalfMade (w₁.stores store)) (htorn : ¬ TornManifest w₁.epoch)
    (hcompleted : nonBlank completedUtc = true) :
    Survives (· = w₁) (executeEpoch lib plans completedUtc intent) (Underway lib host plans w₁)
      fun _ w => (∃ intent', Closed lib host plans intent' w) ∧ Onward plans w₁ w ∧
        ∀ store, DoneAt (plans.plan store) (intent.stores.get store).targetVersion
          (w.stores store) := by
  obtain ⟨catalog, hcatalog, hcatalogBefore, hcatalogTarget, -⟩ :=
    (h.stands .catalog).inspect (hwhole .catalog)
  obtain ⟨recovery, hrecovery, hrecoveryBefore, hrecoveryTarget, -⟩ :=
    (h.stands .recovery).inspect (hwhole .recovery)
  have hinspect : inspectAll lib plans w₁.stores = .ok ⟨catalog, recovery⟩ := by
    unfold inspectAll
    rw [hcatalog, hrecovery]
    rfl
  unfold executeEpoch
  refine Survives.read_bind rfl ?_
  refine Survives.ofExcept_bind hinspect ?_
  refine Survives.ofExcept_bind (a := ()) ?_ ?_
  · unfold validateCurrentVersions
    simp only [require_bind_eq_ok, require_eq_ok, decide_eq_true_eq]
    exact ⟨hcatalogBefore, hcatalogTarget⟩
  refine Survives.ofExcept_bind (a := ()) ?_ ?_
  · unfold validateCurrentVersions
    simp only [require_bind_eq_ok, require_eq_ok, decide_eq_true_eq]
    exact ⟨hrecoveryBefore, hrecoveryTarget⟩
  -- the backup, then the two stores in their order
  refine Survives.bind (ensureBackup_survives h (Onward.refl w₁) hwhole htorn
    (forall_stores.mpr ⟨hcatalog, hrecovery⟩)) ?_
  intro backedIntent
  apply Survives.each
  intro w hready
  refine Survives.bind (executeStore_survives .catalog hready) ?_
  intro catalogIntent
  apply Survives.each
  rintro w ⟨hready, hcatalogDone, -⟩
  refine Survives.bind (executeStore_survives .recovery hready) ?_
  intro finalIntent
  apply Survives.each
  rintro w ⟨⟨hpending, honward, hstatus, -, htargets⟩, hrecoveryDone, hkept⟩
  have hphases : ∀ store, (finalIntent.stores.get store).phase = .verified :=
    forall_stores.mpr ⟨hkept .catalog hcatalogDone, hrecoveryDone⟩
  have hdone := fun store => hpending.verified store (hphases store)
  -- both stores are done, so the last inspection and the marker pass their checks
  let final : Both SqliteMigrationState :=
    ⟨⟨finalIntent.stores.catalog.targetVersion, (plans.plan .catalog).migrations.length, true,
      false⟩,
     ⟨finalIntent.stores.recovery.targetVersion, (plans.plan .recovery).migrations.length, true,
      false⟩⟩
  have hfinal : inspectAll lib plans w.stores = .ok final := by
    unfold inspectAll
    rw [inspectStore_done lib (hdone .catalog), inspectStore_done lib (hdone .recovery)]
    rfl
  refine Survives.read_bind rfl ?_
  refine Survives.ofExcept_bind hfinal ?_
  have hvalid : ∀ (store : StoreIntent) (length : Nat),
      validateFinal store ⟨store.targetVersion, length, true, false⟩ = .ok () := by
    intro store length
    unfold validateFinal
    rw [decide_eq_true rfl]
    rfl
  refine Survives.ofExcept_bind (hvalid _ _) ?_
  refine Survives.ofExcept_bind (hvalid _ _) ?_
  refine Survives.ofExcept_bind (a := ()) (require_eq_ok.mpr hcompleted) ?_
  have hmarker : validateCommittedMarker (committedMarker finalIntent completedUtc final)
      finalIntent = .ok () := by
    have hcatalogPhase : finalIntent.stores.catalog.phase = .verified := hphases .catalog
    have hrecoveryPhase : finalIntent.stores.recovery.phase = .verified := hphases .recovery
    have hbacked : (!finalIntent.backupRequired ||
        finalIntent.backupStatus = BackupStatus.verified) = true := by
      cases hrequired : finalIntent.backupRequired with
      | false => rfl
      | true =>
        have hnot := hpending.statusRequired hrequired
        cases hkind : finalIntent.backupStatus with
        | notRequired => exact absurd hkind hnot
        | pending => exact absurd hkind hstatus
        | verified => rfl
    unfold validateCommittedMarker committedMarker
    simp only [require_bind_eq_ok, require_eq_ok, decide_eq_true_eq]
    refine ⟨trivial, trivial, trivial, hcompleted, ?_, hbacked, trivial, rfl⟩
    rw [hcatalogPhase, hrecoveryPhase]
    rfl
  -- the marker is the last write, and a kill before it leaves the epoch pending
  refine (writeCommitted_survives hpending honward).post ?_
  rintro _ w' rfl
  refine ⟨⟨finalIntent, hpending.published, ⟨_, rfl, hmarker⟩, hpending.loads,
    hpending.foundUnmade, ?_, ?_, hpending.intents⟩,
      ⟨honward.epochId, honward.found, honward.grown⟩,
    fun store => htargets store ▸ hdone store⟩
  · intro store
    exact ⟨_, (hdone store).managed, Nat.le_refl _⟩
  · intro hrequired
    cases hkind : finalIntent.backupStatus with
    | notRequired => exact absurd hkind (hpending.statusRequired hrequired)
    | pending => exact absurd hkind hstatus
    | verified =>
      obtain ⟨manifest, hmanifest, -⟩ := hpending.backed hkind
      exact ⟨manifest, hmanifest⟩

end
end MediaSync.StateStores
