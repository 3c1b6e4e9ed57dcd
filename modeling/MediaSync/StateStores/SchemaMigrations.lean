import MediaSync.Foundation.Crash
import MediaSync.StateStores.BackupSet

/-! The migrations of one state store: the plan, the history a database records of it, and their
application. -/
namespace MediaSync.StateStores
open Text Killable

structure SqliteMigration where
  version : Nat
  name : String
  statements : List String
  deriving DecidableEq

/-- A plan that `validate_migration_plan` accepts. -/
structure SqliteMigrationPlan where
  store : SqliteStore
  migrations : List SqliteMigration
  nonempty : migrations ≠ []
  contiguous : migrations.map SqliteMigration.version = List.range' 1 migrations.length
  namesUnique : (migrations.map SqliteMigration.name).Nodup
  stated : ∀ m ∈ migrations, m.name ≠ "" ∧ m.statements ≠ [] ∧ m.statements.all nonBlank = true

def migrationChecksum (migration : SqliteMigration) : String :=
  Sha256.hexdigest (Json.dump (.obj [("name", .str migration.name),
    ("statements", .arr (migration.statements.map .str)), ("version", .int migration.version)]))

structure MigrationRow where
  store : SqliteStore
  version : Nat
  name : String
  checksum : Option String
  deriving DecidableEq

/-- `schema_migrations`, in the order of its versions; early ones have no column of checksums. -/
structure MigrationHistory where
  checksumColumn : Bool
  rows : List MigrationRow
  deriving DecidableEq

def MigrationHistory.projected (history : MigrationHistory) : List MigrationRow :=
  if history.checksumColumn then history.rows
  else history.rows.map fun row => { row with checksum := none }

/-- A database file. `identity` and `history` are its metadata tables, the first with its row. -/
structure Database (Content : Type) where
  identity : Option (Option SqliteStore) := none
  history : Option MigrationHistory := none
  content : Content
  deriving DecidableEq

structure SqliteLibrary (Content : Type) where
  empty : Content
  /-- There is a table besides the metadata. -/
  tables : Content → Bool
  /-- The statements of a migration. -/
  run : SqliteMigration → Content → Content
  /-- What an entry of a backup set reads besides the metadata. -/
  evidence : Content → SqliteStoreContent
  sizeBytes : Database Content → Nat
  sha256 : Database Content → String
  tables_empty : tables empty = false

structure SqliteMigrationState where
  currentVersion : Nat
  targetVersion : Nat
  initialized : Bool
  checksumBackfillRequired : Bool
  deriving DecidableEq

/-- The body of the loop in `_validate_migration_history`. -/
def validateMigrationRow (allowMissingChecksums : Bool) (row : MigrationRow)
    (expected : SqliteMigration) : Except String Unit := do
  check (row.name = expected.name) "MIGRATION_HISTORY_NAME_MISMATCH"
  match row.checksum with
  | none => check allowMissingChecksums "MIGRATION_HISTORY_CHECKSUM_MISSING"
  | some checksum =>
    check (checksum = migrationChecksum expected) "MIGRATION_HISTORY_CHECKSUM_MISMATCH"

def validateMigrationHistory (plan : SqliteMigrationPlan) (rows : List MigrationRow)
    (allowMissingChecksums : Bool) : Except String Unit := do
  check (rows.all fun row => row.store = plan.store) "MIGRATION_HISTORY_FOREIGN_STORE_ROW"
  check (rows.getLast?.all fun row => row.version ≤ plan.migrations.length)
    "MIGRATION_SCHEMA_NEWER_THAN_RUNTIME"
  check (rows.map MigrationRow.version = List.range' 1 rows.length) "MIGRATION_HISTORY_GAP"
  (rows.zip plan.migrations).forM fun entry =>
    validateMigrationRow allowMissingChecksums entry.1 entry.2

variable {Content : Type}

def inspectSqliteMigrationState (lib : SqliteLibrary Content) (db : Database Content)
    (plan : SqliteMigrationPlan) : Except String SqliteMigrationState :=
  match db.identity, db.history with
  | none, none => do
    check (!lib.tables db.content) "MIGRATION_UNMANAGED_SCHEMA"
    .ok { currentVersion := 0, targetVersion := plan.migrations.length, initialized := false,
          checksumBackfillRequired := false }
  | some identity, some history => do
    check (identity = some plan.store) "MIGRATION_STORE_IDENTITY_MISMATCH"
    validateMigrationHistory plan history.projected true
    .ok {
      currentVersion := (history.projected.getLast?.map MigrationRow.version).getD 0
      targetVersion := plan.migrations.length
      initialized := true
      checksumBackfillRequired :=
        !history.checksumColumn || history.projected.any fun row => row.checksum.isNone }
  | _, _ => .error "MIGRATION_METADATA_INCOMPLETE"

abbrev Cut := String → Bool

inductive MigrationError where
  | violation (code : String)
  | jsonDecodeError
  deriving DecidableEq

def raisedAs {α : Type} (code : String) : Except String α → Except MigrationError α
  | .ok a => .ok a
  | .error _ => .error (.violation code)

def applyFailed : SqliteStore → String
  | .catalog => "STATE_MIGRATION_CATALOG_APPLY_FAILED"
  | .recovery => "STATE_MIGRATION_RECOVERY_APPLY_FAILED"

abbrev StoreFile (Content : Type) := Option (Database Content)

abbrev OnStore (Content α : Type) := Killable (StoreFile Content) Cut MigrationError α

def transact (lib : SqliteLibrary Content) (f : Database Content → Database Content) :
    OnStore Content Unit :=
  atomically fun file => some (f (file.getD { content := lib.empty }))

def historyOf (file : StoreFile Content) : MigrationHistory :=
  (file.bind Database.history).getD { checksumColumn := true, rows := [] }

/-- The checksums written by `_upgrade_and_verify_migration_history`. -/
def backfill (plan : SqliteMigrationPlan) (history : MigrationHistory) : MigrationHistory where
  checksumColumn := true
  rows := List.zipWith (fun row migration =>
    { row with checksum := row.checksum <|> some (migrationChecksum migration) })
    history.projected plan.migrations

def upgradeAndVerifyMigrationHistory (lib : SqliteLibrary Content) (plan : SqliteMigrationPlan) :
    OnStore Content Unit := do
  let history ← read historyOf
  ofExcept (raisedAs (applyFailed plan.store)
    (validateMigrationHistory plan history.projected true))
  transact lib fun db => { db with history := db.history.map (backfill plan) }
  let verified ← read historyOf
  ofExcept (raisedAs (applyFailed plan.store)
    (validateMigrationHistory plan verified.projected false))

def ensureMigrationMetadata (lib : SqliteLibrary Content) (plan : SqliteMigrationPlan) :
    OnStore Content Unit := do
  transact lib fun db => { db with identity := db.identity <|> some none }
  transact lib fun db =>
    { db with history := db.history <|> some { checksumColumn := true, rows := [] } }
  let identity ← read fun file => (file.bind Database.identity).join <|> some plan.store
  ofExcept (raisedAs (applyFailed plan.store)
    (check (identity = some plan.store) "MIGRATION_STORE_IDENTITY_MISMATCH"))
  transact lib fun db => { db with identity := some identity }
  upgradeAndVerifyMigrationHistory lib plan

def appliedRow (store : SqliteStore) (migration : SqliteMigration) : MigrationRow where
  store
  version := migration.version
  name := migration.name
  checksum := some (migrationChecksum migration)

def applyMigration (lib : SqliteLibrary Content) (store : SqliteStore)
    (migration : SqliteMigration) : OnStore Content Unit :=
  transact lib fun db =>
    { db with
      history := db.history.map fun history =>
        { history with rows := history.rows ++ [appliedRow store migration] }
      content := lib.run migration db.content }

/-- The loop of `apply_sqlite_migrations` over the rest of the plan. -/
def applyRemaining (lib : SqliteLibrary Content) (store : SqliteStore) (applied : List Nat) :
    List SqliteMigration → OnStore Content Unit
  | [] => pure ()
  | migration :: rest =>
    if applied.contains migration.version then applyRemaining lib store applied rest
    else do
      applyMigration lib store migration
      applyRemaining lib store (migration.version :: applied) rest

def applySqliteMigrations (lib : SqliteLibrary Content) (plan : SqliteMigrationPlan) :
    OnStore Content Unit := do
  ensureMigrationMetadata lib plan
  let history ← read historyOf
  ofExcept (raisedAs (applyFailed plan.store)
    (validateMigrationHistory plan history.projected false))
  applyRemaining lib plan.store (history.projected.map MigrationRow.version) plan.migrations

def migrateOneStore (lib : SqliteLibrary Content) (plan : SqliteMigrationPlan) :
    OnStore Content Unit := do
  transact lib id
  applySqliteMigrations lib plan

/-- The rows record the first migrations of the plan. -/
structure FollowsPlan (plan : SqliteMigrationPlan) (rows : List MigrationRow) : Prop where
  fits : rows.length ≤ plan.migrations.length
  stores : ∀ row ∈ rows, row.store = plan.store
  versions : rows.map MigrationRow.version = List.range' 1 rows.length
  agrees : ∀ entry ∈ rows.zip plan.migrations, entry.1.name = entry.2.name ∧
    (entry.1.checksum = none ∨ entry.1.checksum = some (migrationChecksum entry.2))

def Checksummed (rows : List MigrationRow) : Prop := ∀ row ∈ rows, row.checksum ≠ none

/-- The store has its metadata, and its first `version` migrations are recorded. -/
def Managed (plan : SqliteMigrationPlan) (version : Nat) (file : StoreFile Content) : Prop :=
  ∃ history content, file =
      some { identity := some (some plan.store), history := some history, content } ∧
    FollowsPlan plan history.projected ∧ history.projected.length = version

def Unmade (lib : SqliteLibrary Content) (file : StoreFile Content) : Prop :=
  ∀ db, file = some db → db.identity = none ∧ db.history = none ∧ lib.tables db.content = false

/-- Some of the metadata is missing: a table, or the row of the identity. -/
def HalfMade (file : StoreFile Content) : Prop :=
  ∃ db, file = some db ∧ db.identity = some none

def Migrated (plan : SqliteMigrationPlan) (file : StoreFile Content) : Prop :=
  ∃ rows content, file = some
      { identity := some (some plan.store), history := some ⟨true, rows⟩, content } ∧
    FollowsPlan plan rows ∧ Checksummed rows ∧ rows.length = plan.migrations.length


section
variable {plan plan' : SqliteMigrationPlan} {rows : List MigrationRow}

theorem forM_ok {α ε : Type} {xs : List α} {f : α → Except ε Unit} (h : ∀ x ∈ xs, f x = .ok ()) :
    xs.forM f = .ok () := by
  induction xs with
  | nil => rfl
  | cons x xs ih =>
    show (f x >>= fun _ => xs.forM f) = _
    rw [h x List.mem_cons_self]
    exact ih fun y hy => h y (List.mem_cons_of_mem x hy)

theorem FollowsPlan.last (h : FollowsPlan plan rows) :
    (rows.getLast?.map MigrationRow.version).getD 0 = rows.length := by
  rw [← List.getLast?_map, h.versions]
  cases hlength : rows.length with
  | zero => rfl
  | succ n =>
    rw [List.range'_concat, List.getLast?_append]
    show 1 + 1 * n = n + 1
    omega

theorem FollowsPlan.validated (h : FollowsPlan plan rows) {allowMissing : Bool}
    (hmissing : allowMissing = false → Checksummed rows) :
    validateMigrationHistory plan rows allowMissing = .ok () := by
  have hstores : (rows.all fun row => row.store = plan.store) = true :=
    List.all_eq_true.mpr fun row hrow => decide_eq_true (h.stores row hrow)
  have hlast : (rows.getLast?.all fun row => row.version ≤ plan.migrations.length) = true := by
    have hlength := h.last
    have hfits := h.fits
    cases hrow : rows.getLast? with
    | none => rfl
    | some row =>
      rw [hrow] at hlength
      have hversion : row.version = rows.length := hlength
      exact decide_eq_true (hversion ▸ hfits)
  have hrows : (rows.zip plan.migrations).forM (fun entry =>
      validateMigrationRow allowMissing entry.1 entry.2) = .ok () := by
    apply forM_ok
    intro entry hentry
    obtain ⟨hname, hchecksum⟩ := h.agrees entry hentry
    unfold validateMigrationRow
    rw [hname, decide_eq_true rfl]
    obtain hnone | hsome := hchecksum
    · have hmem := (List.of_mem_zip hentry).1
      rw [hnone]
      cases allowMissing with
      | true => rfl
      | false => exact absurd hnone (hmissing rfl _ hmem)
    · rw [hsome]
      show check _ _ = _
      rw [decide_eq_true rfl]
      rfl
  unfold validateMigrationHistory
  rw [hstores, hlast, decide_eq_true h.versions, hrows]
  rfl

theorem zip_append_left {α β : Type} {xs : List α} {ys zs : List β} (h : xs.length ≤ ys.length) :
    xs.zip (ys ++ zs) = xs.zip ys := by
  induction xs generalizing ys with
  | nil => rfl
  | cons x xs ih =>
    cases ys with
    | nil => exact absurd h (by simp)
    | cons y ys =>
      show (x, y) :: xs.zip (ys ++ zs) = (x, y) :: xs.zip ys
      rw [ih (Nat.le_of_succ_le_succ h)]

theorem FollowsPlan.extend (h : FollowsPlan plan rows) (hstore : plan'.store = plan.store)
    (hinitial : plan.migrations <+: plan'.migrations) : FollowsPlan plan' rows := by
  obtain ⟨more, hmore⟩ := hinitial
  refine ⟨?_, hstore ▸ h.stores, h.versions, ?_⟩
  · rw [← hmore, List.length_append]
    exact Nat.le_trans h.fits (Nat.le_add_right _ _)
  · rw [← hmore, zip_append_left h.fits]
    exact h.agrees

theorem FollowsPlan.shorten (h : FollowsPlan plan' rows) (hstore : plan'.store = plan.store)
    (hinitial : plan.migrations <+: plan'.migrations)
    (hfits : rows.length ≤ plan.migrations.length) : FollowsPlan plan rows := by
  obtain ⟨more, hmore⟩ := hinitial
  refine ⟨hfits, hstore ▸ h.stores, h.versions, ?_⟩
  have hagrees := h.agrees
  rw [← hmore, zip_append_left hfits] at hagrees
  exact hagrees

theorem FollowsPlan.nil : FollowsPlan plan [] :=
  ⟨Nat.zero_le _, nofun, rfl, nofun⟩

variable {before rest : List SqliteMigration} {migration : SqliteMigration}

theorem SqliteMigrationPlan.version_eq (plan : SqliteMigrationPlan)
    (hplan : plan.migrations = before ++ migration :: rest) :
    migration.version = before.length + 1 := by
  have hcontiguous := plan.contiguous
  rw [hplan] at hcontiguous
  have hnth := congrArg (fun versions => versions[before.length]?) hcontiguous
  simp only [List.map_append, List.map_cons, List.length_append, List.length_cons,
    List.getElem?_append_right (List.length_map _).le, List.length_map, Nat.sub_self,
    List.getElem?_cons_zero] at hnth
  rw [List.getElem?_range' (by omega)] at hnth
  have hversion := Option.some.inj hnth
  omega

theorem FollowsPlan.append (h : FollowsPlan plan rows)
    (hplan : plan.migrations = before ++ migration :: rest)
    (hlength : rows.length = before.length) :
    FollowsPlan plan (rows ++ [appliedRow plan.store migration]) := by
  have hversion : migration.version = rows.length + 1 := hlength ▸ plan.version_eq hplan
  refine ⟨?_, ?_, ?_, ?_⟩
  · rw [hplan]
    simp only [List.length_append, List.length_cons, List.length_nil]
    omega
  · intro row hrow
    obtain hold | hnew := List.mem_append.mp hrow
    · exact h.stores row hold
    · rw [List.mem_singleton.mp hnew]
      rfl
  · rw [List.map_append, h.versions, List.length_append]
    show _ ++ [migration.version] = List.range' 1 (rows.length + 1)
    rw [List.range'_concat, hversion, Nat.one_mul, Nat.add_comm 1]
  · have hagrees := h.agrees
    rw [hplan, zip_append_left (Nat.le_of_eq hlength)] at hagrees
    rw [hplan, List.zip_append hlength]
    intro entry hentry
    obtain hold | hnew := List.mem_append.mp hentry
    · exact hagrees entry hold
    · obtain rfl : entry = (appliedRow plan.store migration, migration) := by
        simpa using hnew
      exact ⟨rfl, .inr rfl⟩

end

section
variable {lib : SqliteLibrary Content} {plan plan' : SqliteMigrationPlan} {n : Nat}
  {file file₀ : StoreFile Content}

theorem Migrated.managed (h : Migrated plan file) :
    Managed plan plan.migrations.length file := by
  obtain ⟨rows, content, rfl, hfollows, -, hlength⟩ := h
  exact ⟨⟨true, rows⟩, content, rfl, hfollows, hlength⟩

theorem Managed.fits (h : Managed plan n file) : n ≤ plan.migrations.length := by
  obtain ⟨history, content, -, hfollows, rfl⟩ := h
  exact hfollows.fits

theorem Managed.extend (h : Managed plan n file) (hstore : plan'.store = plan.store)
    (hinitial : plan.migrations <+: plan'.migrations) : Managed plan' n file := by
  obtain ⟨history, content, rfl, hfollows, hlength⟩ := h
  exact ⟨history, content, by rw [hstore], hfollows.extend hstore hinitial, hlength⟩

theorem Managed.shorten (h : Managed plan' n file) (hstore : plan'.store = plan.store)
    (hinitial : plan.migrations <+: plan'.migrations) (hfits : n ≤ plan.migrations.length) :
    Managed plan n file := by
  obtain ⟨history, content, rfl, hfollows, hlength⟩ := h
  exact ⟨history, content, by rw [hstore],
    hfollows.shorten hstore hinitial (hlength ▸ hfits), hlength⟩

theorem Managed.unique {m : Nat} (h : Managed plan n file) (h' : Managed plan' m file) : m = n := by
  obtain ⟨history, content, rfl, -, rfl⟩ := h
  obtain ⟨history', content', hfile, -, rfl⟩ := h'
  obtain rfl : history = history' := congrArg historyOf hfile
  rfl

theorem Managed.not_unmade (h : Managed plan n file) : ¬ Unmade lib file := by
  obtain ⟨history, content, rfl, -⟩ := h
  intro hunmade
  exact absurd (hunmade _ rfl).1 nofun

theorem Managed.not_halfMade (h : Managed plan n file) : ¬ HalfMade file := by
  obtain ⟨history, content, rfl, -⟩ := h
  rintro ⟨db, hdb, hidentity⟩
  cases hdb
  cases hidentity

/-- Where a store is at some moment of a migration that found it at `file₀`. -/
def Moment (lib : SqliteLibrary Content) (plan : SqliteMigrationPlan)
    (file₀ file : StoreFile Content) : Prop :=
  (∃ n, Managed plan n file ∧ ∀ m, Managed plan m file₀ → m ≤ n) ∨
    ((∀ m, ¬ Managed plan m file₀) ∧ (Unmade lib file ∨ HalfMade file))

theorem Moment.of_migrated (h : Migrated plan file) : Moment lib plan file₀ file :=
  .inl ⟨_, h.managed, fun _ hm => hm.fits⟩

theorem transact_survives {f : Database Content → Database Content}
    {P C : StoreFile Content → Prop} {Q : Unit → StoreFile Content → Prop}
    (hwhole : ∀ file, P file → Q () (some (f (file.getD { content := lib.empty }))))
    (hcut : ∀ file, P file → C file) : Survives P (transact lib f) C Q :=
  Survives.atomically hwhole hcut

theorem applyRemaining_survives (file₀ : StoreFile Content) {rest : List SqliteMigration}
    (before : List SqliteMigration) (applied : List Nat)
    (hplan : plan.migrations = before ++ rest) :
    Survives (fun file => ∃ rows content, file = some
        ⟨some (some plan.store), some ⟨true, rows⟩, content⟩ ∧ FollowsPlan plan rows ∧
          Checksummed rows ∧ (∀ m, Managed plan m file₀ → m ≤ rows.length) ∧
          before.length ≤ rows.length ∧ ∀ v, v ∈ applied ↔ 1 ≤ v ∧ v ≤ rows.length)
      (applyRemaining lib plan.store applied rest) (Moment lib plan file₀)
      fun _ => Migrated plan := by
  induction rest generalizing before applied with
  | nil =>
    apply Survives.pure
    rintro file ⟨rows, content, rfl, hfollows, hchecksums, -, hlength, -⟩
    rw [List.append_nil] at hplan
    exact ⟨rows, content, rfl, hfollows, hchecksums,
      Nat.le_antisymm hfollows.fits (hplan ▸ hlength)⟩
  | cons migration rest ih =>
    have hversion := plan.version_eq hplan
    have hsplit : plan.migrations = (before ++ [migration]) ++ rest := by simpa using hplan
    unfold applyRemaining
    by_cases happlied : applied.contains migration.version
    · rw [if_pos happlied]
      have happlied := List.contains_iff_mem.mp happlied
      refine (ih (before ++ [migration]) applied hsplit).pre ?_
      rintro file ⟨rows, content, rfl, hfollows, hchecksums, hfloor, hlength, hmem⟩
      have hle := ((hmem _).mp happlied).2
      refine ⟨rows, content, rfl, hfollows, hchecksums, hfloor, ?_, hmem⟩
      simp only [List.length_append, List.length_cons, List.length_nil]
      omega
    · rw [if_neg happlied]
      have happlied := mt List.contains_iff_mem.mpr happlied
      unfold applyMigration
      refine Survives.bind (transact_survives ?_ ?_)
        fun _ => ih (before ++ [migration]) (migration.version :: applied) hsplit
      · rintro file ⟨rows, content, rfl, hfollows, hchecksums, hfloor, hlength, hmem⟩
        -- the migration was not recorded, so the rows are those of the migrations before it
        have hlast : rows.length = before.length := by
          by_contra hne
          exact happlied ((hmem _).mpr (by omega))
        refine ⟨rows ++ [appliedRow plan.store migration], lib.run migration content, rfl,
          hfollows.append hplan hlast, ?_, ?_, ?_, ?_⟩
        · intro row hrow
          obtain hold | hnew := List.mem_append.mp hrow
          · exact hchecksums row hold
          · rw [List.mem_singleton.mp hnew]
            exact Option.some_ne_none _
        · intro m hm
          have hle := hfloor m hm
          rw [List.length_append]
          exact Nat.le_add_right_of_le hle
        · simp only [List.length_append, List.length_cons, List.length_nil]
          omega
        · intro v
          simp only [List.length_append, List.length_cons, List.length_nil, List.mem_cons, hmem]
          omega
      · rintro file ⟨rows, content, rfl, hfollows, hchecksums, hfloor, hlength, hmem⟩
        exact .inl ⟨rows.length, ⟨⟨true, rows⟩, content, rfl, hfollows, rfl⟩, hfloor⟩

theorem mem_zipWith_zip {α β : Type} {f : α → β → α} {xs : List α} {ys : List β} {entry : α × β}
    (h : entry ∈ (List.zipWith f xs ys).zip ys) :
    ∃ x, (x, entry.2) ∈ xs.zip ys ∧ entry.1 = f x entry.2 := by
  induction xs generalizing ys with
  | nil => exact absurd h List.not_mem_nil
  | cons x xs ih =>
    cases ys with
    | nil => exact absurd h List.not_mem_nil
    | cons y ys =>
      obtain rfl | htail := List.mem_cons.mp h
      · exact ⟨x, List.mem_cons_self, rfl⟩
      · obtain ⟨x', hx', heq⟩ := ih htail
        exact ⟨x', List.mem_cons_of_mem _ hx', heq⟩

theorem map_zipWith_left {α β γ : Type} {f : α → β → α} {g : α → γ} (hg : ∀ x y, g (f x y) = g x)
    {xs : List α} {ys : List β} (hlength : xs.length ≤ ys.length) :
    (List.zipWith f xs ys).map g = xs.map g := by
  induction xs generalizing ys with
  | nil => rfl
  | cons x xs ih =>
    cases ys with
    | nil => exact absurd hlength (by simp)
    | cons y ys =>
      show g (f x y) :: (List.zipWith f xs ys).map g = g x :: xs.map g
      rw [hg, ih (Nat.le_of_succ_le_succ hlength)]

theorem FollowsPlan.backfill {history : MigrationHistory}
    (h : FollowsPlan plan history.projected) :
    FollowsPlan plan (backfill plan history).rows ∧ Checksummed (backfill plan history).rows ∧
      (backfill plan history).rows.length = history.projected.length := by
  have hlength : (StateStores.backfill plan history).rows.length = history.projected.length := by
    show (List.zipWith _ _ _).length = _
    rw [List.length_zipWith, Nat.min_eq_left h.fits]
  have hstores : (StateStores.backfill plan history).rows.map MigrationRow.store =
      history.projected.map MigrationRow.store := by
    refine map_zipWith_left ?_ h.fits
    exact fun _ _ => rfl
  have hversions : (StateStores.backfill plan history).rows.map MigrationRow.version =
      history.projected.map MigrationRow.version := by
    refine map_zipWith_left ?_ h.fits
    exact fun _ _ => rfl
  refine ⟨⟨?_, ?_, ?_, ?_⟩, ?_, hlength⟩
  · rw [hlength]
    exact h.fits
  · intro row hrow
    have hmem := List.mem_map_of_mem (f := MigrationRow.store) hrow
    rw [hstores] at hmem
    obtain ⟨old, hold, heq⟩ := List.mem_map.mp hmem
    exact heq ▸ h.stores old hold
  · rw [hversions, h.versions, hlength]
  · intro entry hentry
    obtain ⟨row, hrow, heq⟩ := mem_zipWith_zip hentry
    obtain ⟨hname, hchecksum⟩ := h.agrees _ hrow
    rw [heq]
    refine ⟨hname, .inr ?_⟩
    show (row.checksum <|> some (migrationChecksum entry.2)) = _
    obtain hnone | hsome := hchecksum
    · rw [show row.checksum = none from hnone]
      rfl
    · rw [show row.checksum = some (migrationChecksum entry.2) from hsome]
      rfl
  · intro row hrow
    have hmap : row ∈ List.zipWith (fun row migration => { row with
        checksum := row.checksum <|> some (migrationChecksum migration) })
        history.projected plan.migrations := hrow
    rw [← List.map_uncurry_zip_eq_zipWith] at hmap
    obtain ⟨entry, -, rfl⟩ := List.mem_map.mp hmap
    show (entry.1.checksum <|> some (migrationChecksum entry.2)) ≠ none
    cases entry.1.checksum <;> exact Option.some_ne_none _

theorem raisedAs_ok {α : Type} {code : String} {x : Except String α} {a : α} (h : x = .ok a) :
    raisedAs code x = .ok a := by
  rw [h]
  rfl

/-- A file whose history is complete, with at least `floor` rows. -/
def Complete (plan : SqliteMigrationPlan) (floor : Nat) (file : StoreFile Content) : Prop :=
  ∃ rows content, file = some ⟨some (some plan.store), some ⟨true, rows⟩, content⟩ ∧
    FollowsPlan plan rows ∧ Checksummed rows ∧ floor ≤ rows.length

theorem upgradeAndVerify_survives {floor : Nat} :
    Survives (fun file => ∃ n, Managed plan n file ∧ floor ≤ n)
      (upgradeAndVerifyMigrationHistory lib plan)
      (fun file => ∃ n, Managed plan n file ∧ floor ≤ n) fun _ => Complete plan floor := by
  unfold upgradeAndVerifyMigrationHistory
  refine Survives.bind (Q := fun history file => historyOf file = history ∧
    ∃ n, Managed plan n file ∧ floor ≤ n) (Survives.read _ fun file h => ⟨rfl, h⟩) ?_
  intro history
  refine Survives.bind (Q := fun _ file => ∃ n, Managed plan n file ∧ floor ≤ n)
    (Survives.ofExcept ?_) ?_
  · rintro file ⟨rfl, n, hmanaged, hfloor⟩
    refine ⟨(), raisedAs_ok ?_, n, hmanaged, hfloor⟩
    obtain ⟨history, content, rfl, hfollows, -⟩ := hmanaged
    exact hfollows.validated nofun
  intro _
  refine Survives.bind (Q := fun _ => Complete plan floor) (transact_survives ?_ fun _ h => h) ?_
  · rintro file ⟨n, ⟨history, content, rfl, hfollows, rfl⟩, hfloor⟩
    obtain ⟨hfollows', hchecksums, hlength⟩ := hfollows.backfill
    exact ⟨_, content, rfl, hfollows', hchecksums, hlength ▸ hfloor⟩
  intro _
  refine Survives.bind (Q := fun history file => historyOf file = history ∧
    Complete plan floor file) (Survives.read _ fun file h => ⟨rfl, h⟩) ?_
  intro verified
  apply Survives.ofExcept
  rintro file ⟨rfl, hcomplete⟩
  refine ⟨(), raisedAs_ok ?_, hcomplete⟩
  obtain ⟨rows, content, rfl, hfollows, hchecksums, -⟩ := hcomplete
  exact hfollows.validated fun _ => hchecksums

theorem ensureMetadata_survives {floor : Nat}
    (hfloor : ∀ m, Managed plan m file₀ → m ≤ floor) :
    Survives (fun file => Managed plan floor file ∨
        (∀ m, ¬ Managed plan m file₀) ∧ floor = 0 ∧ ∃ content, lib.tables content = false ∧
          file = some ⟨none, none, content⟩)
      (ensureMigrationMetadata lib plan) (Moment lib plan file₀) fun _ => Complete plan floor := by
  have hmanagedMoment : ∀ file, Managed plan floor file → Moment lib plan file₀ file :=
    fun file h => .inl ⟨floor, h, hfloor⟩
  unfold ensureMigrationMetadata
  refine Survives.bind (Q := fun _ file => Managed plan floor file ∨
    (∀ m, ¬ Managed plan m file₀) ∧ floor = 0 ∧ ∃ content, file = some ⟨some none, none, content⟩)
    (transact_survives ?_ ?_) ?_
  · rintro file (⟨history, content, rfl, hrest⟩ | ⟨hnew, hzero, content, -, rfl⟩)
    · exact .inl ⟨history, content, rfl, hrest⟩
    · exact .inr ⟨hnew, hzero, content, rfl⟩
  · rintro file (hmanaged | ⟨hnew, -, content, htables, rfl⟩)
    · exact hmanagedMoment file hmanaged
    · refine .inr ⟨hnew, .inl ?_⟩
      rintro db hdb
      cases hdb
      exact ⟨rfl, rfl, htables⟩
  intro _
  refine Survives.bind (Q := fun _ file => Managed plan floor file ∨
    (∀ m, ¬ Managed plan m file₀) ∧ floor = 0 ∧
      ∃ content, file = some ⟨some none, some ⟨true, []⟩, content⟩)
    (transact_survives ?_ ?_) ?_
  · rintro file (⟨history, content, rfl, hrest⟩ | ⟨hnew, hzero, content, rfl⟩)
    · exact .inl ⟨history, content, rfl, hrest⟩
    · exact .inr ⟨hnew, hzero, content, rfl⟩
  · rintro file (hmanaged | ⟨hnew, -, content, rfl⟩)
    · exact hmanagedMoment file hmanaged
    · exact .inr ⟨hnew, .inr ⟨_, rfl, rfl⟩⟩
  intro _
  refine Survives.bind (Q := fun identity file => identity = some plan.store ∧
    (Managed plan floor file ∨ (∀ m, ¬ Managed plan m file₀) ∧ floor = 0 ∧
      ∃ content, file = some ⟨some none, some ⟨true, []⟩, content⟩))
    (Survives.read _ ?_) ?_
  · rintro file (⟨history, content, rfl, hrest⟩ | ⟨hnew, hzero, content, rfl⟩)
    · exact ⟨rfl, .inl ⟨history, content, rfl, hrest⟩⟩
    · exact ⟨rfl, .inr ⟨hnew, hzero, content, rfl⟩⟩
  intro identity
  refine Survives.bind (Q := fun _ file => identity = some plan.store ∧
    (Managed plan floor file ∨ (∀ m, ¬ Managed plan m file₀) ∧ floor = 0 ∧
      ∃ content, file = some ⟨some none, some ⟨true, []⟩, content⟩))
    (Survives.ofExcept ?_) ?_
  · rintro file ⟨rfl, hfile⟩
    exact ⟨(), raisedAs_ok (check_eq_ok.mpr (decide_eq_true rfl)), rfl, hfile⟩
  intro _
  refine Survives.bind (Q := fun _ file => ∃ n, Managed plan n file ∧ floor ≤ n)
    (transact_survives ?_ ?_) fun _ => upgradeAndVerify_survives.consequence (fun _ => id) ?_
      fun _ _ => id
  · rintro file ⟨rfl, ⟨history, content, rfl, hrest⟩ | ⟨hnew, hzero, content, rfl⟩⟩
    · exact ⟨floor, ⟨history, content, rfl, hrest⟩, Nat.le_refl _⟩
    · exact ⟨0, ⟨⟨true, []⟩, content, rfl, FollowsPlan.nil, rfl⟩, Nat.le_of_eq hzero⟩
  · rintro file ⟨rfl, hmanaged | ⟨hnew, -, content, rfl⟩⟩
    · exact hmanagedMoment file hmanaged
    · exact .inr ⟨hnew, .inr ⟨_, rfl, rfl⟩⟩
  · rintro file ⟨n, hmanaged, hle⟩
    exact .inl ⟨n, hmanaged, fun m hm => Nat.le_trans (hfloor m hm) hle⟩

theorem migrateOneStore_survives
    (hstart : Unmade lib file₀ ∨ ∃ n, Managed plan n file₀) :
    Survives (· = file₀) (migrateOneStore lib plan) (Moment lib plan file₀)
      fun _ => Migrated plan := by
  obtain ⟨floor, hfloor, hcase⟩ : ∃ floor, (∀ m, Managed plan m file₀ → m ≤ floor) ∧
      (Managed plan floor file₀ ∨
        (∀ m, ¬ Managed plan m file₀) ∧ floor = 0 ∧ Unmade lib file₀) := by
    obtain hunmade | ⟨n, hmanaged⟩ := hstart
    · have hnew : ∀ m, ¬ Managed plan m file₀ := fun m hm => hm.not_unmade hunmade
      exact ⟨0, fun m hm => absurd hm (hnew m), .inr ⟨hnew, rfl, hunmade⟩⟩
    · exact ⟨n, fun m hm => Nat.le_of_eq (hmanaged.unique hm), .inl hmanaged⟩
  unfold migrateOneStore
  refine Survives.bind (Q := fun _ file => Managed plan floor file ∨
    (∀ m, ¬ Managed plan m file₀) ∧ floor = 0 ∧ ∃ content, lib.tables content = false ∧
      file = some ⟨none, none, content⟩) (transact_survives ?_ ?_) ?_
  · rintro file rfl
    obtain hmanaged | ⟨hnew, hzero, hunmade⟩ := hcase
    · obtain ⟨history, content, rfl, hrest⟩ := hmanaged
      exact .inl ⟨history, content, rfl, hrest⟩
    · refine .inr ⟨hnew, hzero, ?_⟩
      cases hfile : file with
      | none => exact ⟨lib.empty, lib.tables_empty, rfl⟩
      | some db =>
        obtain ⟨hidentity, hhistory, htables⟩ := hunmade db hfile
        obtain ⟨identity, history, content⟩ := db
        cases hidentity
        cases hhistory
        exact ⟨content, htables, rfl⟩
  · rintro file rfl
    obtain hmanaged | ⟨hnew, -, hunmade⟩ := hcase
    · exact .inl ⟨floor, hmanaged, hfloor⟩
    · exact .inr ⟨hnew, .inl hunmade⟩
  intro _
  unfold applySqliteMigrations
  refine Survives.bind (ensureMetadata_survives hfloor) ?_
  intro _
  refine Survives.bind (Q := fun history file => historyOf file = history ∧
    Complete plan floor file) (Survives.read _ fun file h => ⟨rfl, h⟩) ?_
  intro history
  refine Survives.bind (Q := fun _ file => historyOf file = history ∧ Complete plan floor file)
    (Survives.ofExcept ?_) ?_
  · rintro file ⟨rfl, hcomplete⟩
    refine ⟨(), raisedAs_ok ?_, rfl, hcomplete⟩
    obtain ⟨rows, content, rfl, hfollows, hchecksums, -⟩ := hcomplete
    exact hfollows.validated fun _ => hchecksums
  intro _ r hr
  -- the versions read are those of the rows of this file
  obtain ⟨hhistory, rows, content, hfile, hfollows, hchecksums, hrows⟩ := hr
  have hprojected : history.projected.map MigrationRow.version = List.range' 1 rows.length := by
    rw [← hhistory, hfile]
    exact hfollows.versions
  refine applyRemaining_survives file₀ [] _ rfl r
    ⟨rows, content, hfile, hfollows, hchecksums,
      fun m hm => Nat.le_trans (hfloor m hm) hrows, Nat.zero_le _, ?_⟩
  intro v
  rw [hprojected, List.mem_range'_1]
  omega

end

end MediaSync.StateStores
