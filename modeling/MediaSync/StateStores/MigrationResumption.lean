import MediaSync.Foundation.CrashRefinement
import MediaSync.Foundation.Sessions
import MediaSync.Plans.Sealing
import MediaSync.StateStores.SchemaMigrations

/-! `apply_sqlite_migrations` at the level of its statements: the tables of the metadata, the
backfill of checksums and each migration are transactions of their own, and the statements of a
migration run one after the other before its row is recorded. -/
namespace MediaSync.StateStores.Resumption
open Text Killable

inductive StatementKind where
  | plain
  /-- A transaction is opened before it, if there is none. -/
  | dml
  | begin
  | commit
  | rollback
  deriving DecidableEq

def StatementKind.stays : StatementKind → Bool
  | .plain | .dml => true
  | .begin | .commit | .rollback => false

structure StatementLibrary (Content : Type) where
  kind : String → StatementKind
  execute : String → Content → Except String Content

/-- What leaves an attempt: a `SqliteMigrationViolation`, or a `sqlite3.Error`. -/
inductive MigrationRaised where
  | violation (code : String)
  | sqlite (message : String)
  deriving DecidableEq

def violated {α : Type} : Except String α → Except MigrationRaised α
  | .ok a => .ok a
  | .error code => .error (.violation code)

variable {Content : Type}

abbrev OnDatabase (Content α : Type) := Killable (StoreFile Content) Cut MigrationRaised α

section
variable (lib : SqliteLibrary Content) (py : StatementLibrary Content)

/-- `connection.execute(statement)`. -/
def executeStatement (statement : String) (c : Session (Database Content)) :
    Except String (Session (Database Content)) :=
  let executed := fun saved => (py.execute statement c.current.content).map fun content =>
    ({ current := { c.current with content }, saved } : Session (Database Content))
  match py.kind statement, c.saved with
  | .begin, none => .ok ⟨c.current, some c.current⟩
  | .begin, some _ => .error "cannot start a transaction within a transaction"
  | .commit, some _ => .ok ⟨c.current, none⟩
  | .commit, none => .error "cannot commit - no transaction is active"
  | .rollback, some saved => .ok ⟨saved, none⟩
  | .rollback, none => .error "cannot rollback - no transaction is active"
  | .dml, none => executed (some c.current)
  | .dml, some saved | .plain, some saved => executed (some saved)
  | .plain, none => executed none

def durable (c : Session (Database Content)) : Database Content := c.saved.getD c.current

def change (f : Database Content → Database Content) : OnDatabase Content Unit :=
  atomically fun file => some (f (file.getD { content := lib.empty }))

def upgradeAndVerifyMigrationHistory (plan : SqliteMigrationPlan) : OnDatabase Content Unit := do
  let history ← read historyOf
  ofExcept (violated (validateMigrationHistory plan history.projected true))
  change lib fun db => { db with history := db.history.map (backfill plan) }
  let verified ← read historyOf
  ofExcept (violated (validateMigrationHistory plan verified.projected false))

def ensureMigrationMetadata (plan : SqliteMigrationPlan) : OnDatabase Content Unit := do
  change lib fun db => { db with identity := db.identity <|> some none }
  change lib fun db =>
    { db with history := db.history <|> some { checksumColumn := true, rows := [] } }
  let identity ← read fun file => (file.bind Database.identity).join <|> some plan.store
  ofExcept (violated
    (check (identity = some plan.store) "MIGRATION_STORE_IDENTITY_MISMATCH"))
  change lib fun db => { db with identity := some identity }
  upgradeAndVerifyMigrationHistory lib plan

def runStatements : List String → Session (Database Content) →
    OnDatabase Content (Except String (Session (Database Content)))
  | [], c => pure (.ok c)
  | statement :: rest, c =>
    match executeStatement py statement c with
    | .error message => pure (.error message)
    | .ok c' => do
      atomically fun _ => some (durable c')
      runStatements rest c'

def applyMigration (store : SqliteStore) (migration : SqliteMigration) :
    OnDatabase Content Unit := do
  let db ← read fun file => file.getD { content := lib.empty }
  match ← runStatements py migration.statements ⟨db, some db⟩ with
  | .error message => fail (.sqlite message)
  | .ok c => change lib fun _ =>
      { c.current with history := c.current.history.map fun history =>
          { history with rows := history.rows ++ [appliedRow store migration] } }

/-- The loop of `apply_sqlite_migrations` over the rest of the plan. -/
def applyRemaining (store : SqliteStore) (applied : List Nat) :
    List SqliteMigration → OnDatabase Content Unit
  | [] => pure ()
  | migration :: rest =>
    if applied.contains migration.version then applyRemaining store applied rest
    else do
      applyMigration lib py store migration
      applyRemaining store (migration.version :: applied) rest

def applySqliteMigrations (plan : SqliteMigrationPlan) : OnDatabase Content Unit := do
  ensureMigrationMetadata lib plan
  let history ← read historyOf
  ofExcept (violated (validateMigrationHistory plan history.projected false))
  applyRemaining lib py plan.store (history.projected.map MigrationRow.version) plan.migrations

def attempts (plan : SqliteMigrationPlan) (kills : List (Option (Kill Cut)))
    (file : StoreFile Content) : StoreFile Content :=
  kills.foldl (fun file kill => (applySqliteMigrations lib py plan ⟨file, kill⟩).2.disk) file

def recorded (file : StoreFile Content) : List MigrationRow := (historyOf file).projected

def contentOf (file : StoreFile Content) : Content := (file.map Database.content).getD lib.empty

/-- The store is nobody else's, and its history begins the plan. -/
structure Acceptable (plan : SqliteMigrationPlan) (file : StoreFile Content) : Prop where
  identity : (file.bind Database.identity).join = none ∨
    (file.bind Database.identity).join = some plan.store
  follows : FollowsPlan plan (recorded file)

def runMigrations (migrations : List SqliteMigration) (content : Content) : Except String Content :=
  (migrations.flatMap SqliteMigration.statements).foldlM
    (fun content statement => py.execute statement content) content

/-- The store records more of the plan, and holds what the migrations that are recorded since have
made of its content, each run once and in their order. -/
structure Progress (plan : SqliteMigrationPlan) (file file' : StoreFile Content) : Prop where
  acceptable : Acceptable plan file'
  grown : (recorded file).length ≤ (recorded file').length
  content : runMigrations py
    ((plan.migrations.take (recorded file').length).drop (recorded file).length)
    (contentOf lib file) = .ok (contentOf lib file')

def Complete (plan : SqliteMigrationPlan) (file : StoreFile Content) : Prop :=
  (historyOf file).rows = plan.migrations.map (appliedRow plan.store) ∧
    (historyOf file).checksumColumn = true

def Failing (plan : SqliteMigrationPlan) (file : StoreFile Content) (message : String) : Prop :=
  ∃ migration, plan.migrations[(recorded file).length]? = some migration ∧
    runMigrations py [migration] (contentOf lib file) = .error message

def StaysOpen (plan : SqliteMigrationPlan) : Prop :=
  ∀ migration ∈ plan.migrations, ∀ statement ∈ migration.statements,
    (py.kind statement).stays = true

/-- Content and history are as they were. -/
structure Untouched (file file' : StoreFile Content) : Prop where
  content : contentOf lib file' = contentOf lib file
  history : historyOf file' = historyOf file

/-- There is no table, or the metadata is there with the row of the identity. -/
def Settled (db : Database Content) : Prop :=
  (db.identity = none ∧ db.history = none ∧ lib.tables db.content = false) ∨
    (∃ store, db.identity = some (some store)) ∧ ∃ history, db.history = some history

end

section
variable {plan : SqliteMigrationPlan} {rows : List MigrationRow}

theorem mem_zip_getElem {α β : Type} {xs : List α} {ys : List β} {i : Nat} (hx : i < xs.length)
    (hy : i < ys.length) : (xs[i], ys[i]) ∈ xs.zip ys :=
  List.mem_iff_getElem.mpr ⟨i, by rw [List.length_zip]; omega, List.getElem_zip⟩

variable {allowMissing : Bool}

theorem validateMigrationRow_eq_ok {row : MigrationRow} {migration : SqliteMigration} :
    validateMigrationRow allowMissing row migration = .ok () ↔ row.name = migration.name ∧
      (row.checksum = none ∧ allowMissing = true ∨
        row.checksum = some (migrationChecksum migration)) := by
  rw [validateMigrationRow, check_bind_eq_ok, decide_eq_true_eq]
  cases row.checksum <;> simp

theorem length_le_of_last {bound : Nat}
    (hversions : rows.map MigrationRow.version = List.range' 1 rows.length)
    (hlast : (rows.getLast?.all fun row => row.version ≤ bound) = true) : rows.length ≤ bound := by
  cases hrow : rows.getLast? with
  | none => simp [List.getLast?_eq_none_iff.mp hrow]
  | some row =>
    have hversion : (rows.map MigrationRow.version).getLast? = some row.version := by
      rw [List.getLast?_map, hrow]
      rfl
    rw [hversions, List.getLast?_range'] at hversion
    rw [hrow] at hlast
    have hle : row.version ≤ bound := of_decide_eq_true hlast
    split_ifs at hversion
    have hlength := Option.some.inj hversion
    omega

theorem validateMigrationHistory_eq_ok : validateMigrationHistory plan rows allowMissing = .ok () ↔
      FollowsPlan plan rows ∧ (allowMissing = false → Checksummed rows) := by
  refine ⟨fun h => ?_, fun h => h.1.validated h.2⟩
  rw [validateMigrationHistory, check_bind_eq_ok, check_bind_eq_ok, check_bind_eq_ok,
    Plans.forM_eq_ok] at h
  obtain ⟨hstores, hlast, hversions, hrows⟩ := h
  have hversions := of_decide_eq_true hversions
  have hfits := length_le_of_last hversions hlast
  refine ⟨⟨hfits, fun row hrow => ?_, hversions, fun entry hentry => ?_⟩, fun hall row hrow => ?_⟩
  · exact of_decide_eq_true (List.all_eq_true.mp hstores row hrow)
  · obtain ⟨hname, hchecksum⟩ := validateMigrationRow_eq_ok.mp (hrows entry hentry)
    exact ⟨hname, hchecksum.imp And.left id⟩
  · obtain ⟨i, hi, rfl⟩ := List.mem_iff_getElem.mp hrow
    have hentry := mem_zip_getElem hi (Nat.lt_of_lt_of_le hi hfits)
    obtain ⟨-, hchecksum⟩ := validateMigrationRow_eq_ok.mp (hrows _ hentry)
    rcases hchecksum with ⟨-, hallowed⟩ | hsome
    · rw [hall] at hallowed
      cases hallowed
    · exact hsome ▸ Option.some_ne_none _

theorem rows_eq_of_followsPlan (h : FollowsPlan plan rows) (hchecksums : Checksummed rows)
    (hlength : rows.length = plan.migrations.length) :
    rows = plan.migrations.map (appliedRow plan.store) := by
  refine List.ext_getElem (by rw [List.length_map, hlength]) fun i hi hi' => ?_
  have hplan : i < plan.migrations.length := hlength ▸ hi
  obtain ⟨hname, hchecksum⟩ := h.agrees _ (mem_zip_getElem hi hplan)
  have hversion : rows[i].version = plan.migrations[i].version := by
    have hrow := congrArg (fun versions => versions[i]?) h.versions
    have hmigration := congrArg (fun versions => versions[i]?) plan.contiguous
    rw [hlength] at hrow
    simpa [hi, hplan] using hrow.trans hmigration.symm
  rw [List.getElem_map]
  have hstore := h.stores _ (List.getElem_mem hi)
  have hsome := hchecksum.resolve_left (hchecksums _ (List.getElem_mem hi))
  cases hrow : rows[i] with
  | mk store version name checksum =>
    simp only [hrow] at hname hversion hstore hsome
    rw [hname, hversion, hstore, hsome]
    rfl

end

section
variable {lib : SqliteLibrary Content} {py : StatementLibrary Content} {plan : SqliteMigrationPlan}
  {file₀ file file' file'' : StoreFile Content} {E : MigrationRaised → StoreFile Content → Prop}

theorem runMigrations_append (migrations more : List SqliteMigration) (content : Content) :
    runMigrations py (migrations ++ more) content =
      runMigrations py migrations content >>= runMigrations py more := by
  rw [runMigrations, List.flatMap_append, List.foldlM_append]
  rfl

theorem take_drop_split {α : Type} {items : List α} {a b c : Nat} (hab : a ≤ b) (hbc : b ≤ c)
    (hb : b ≤ items.length) :
    (items.take c).drop a = (items.take b).drop a ++ (items.take c).drop b := by
  have hsplit : items.take c = items.take b ++ (items.take c).drop b := by
    conv_lhs => rw [← List.take_append_drop b (items.take c), List.take_take, Nat.min_eq_left hbc]
  conv_lhs => rw [hsplit]
  rw [List.drop_append_of_le_length (by rw [List.length_take]; omega)]

theorem Progress.refl (h : Acceptable plan file) : Progress lib py plan file file where
  acceptable := h
  grown := Nat.le_refl _
  content := by
    rw [List.drop_eq_nil_of_le (List.length_take_le _ _)]
    rfl

theorem Progress.trans (h : Progress lib py plan file file')
    (h' : Progress lib py plan file' file'') : Progress lib py plan file file'' where
  acceptable := h'.acceptable
  grown := Nat.le_trans h.grown h'.grown
  content := by
    rw [take_drop_split h.grown h'.grown h.acceptable.follows.fits, runMigrations_append,
      h.content]
    exact h'.content

theorem Progress.moved (h : Progress lib py plan file₀ file) (hacceptable : Acceptable plan file')
    (hrows : (recorded file').length = (recorded file).length)
    (hcontent : contentOf lib file' = contentOf lib file) : Progress lib py plan file₀ file' where
  acceptable := hacceptable
  grown := hrows ▸ h.grown
  content := by
    rw [hrows, hcontent]
    exact h.content

variable {P C : StoreFile Content → Prop}

theorem change_ends {f : Database Content → Database Content} {Q : Unit → StoreFile Content → Prop}
    (hwhole : ∀ file, P file → Q () (some (f (file.getD { content := lib.empty }))))
    (hcut : ∀ file, P file → C file) : Ends P (change lib f) C E Q :=
  Ends.atomically hwhole hcut

variable {rows : List MigrationRow}

theorem checked_ends {allowMissing : Bool}
    (h : ∀ file, P file → FollowsPlan plan rows ∧ (allowMissing = false → Checksummed rows)) :
    Ends P (ofExcept (violated (validateMigrationHistory plan rows allowMissing)) :
      OnDatabase Content Unit) C E fun _ => P := by
  refine Ends.ofExcept (fun _ _ _ => id) fun error file hraised hfile => ?_
  rw [validateMigrationHistory_eq_ok.mpr (h file hfile)] at hraised
  cases hraised

def Ready (plan : SqliteMigrationPlan) (rows : List MigrationRow) (file : StoreFile Content) :
    Prop :=
  Checksummed rows ∧
    ∃ content, file = some ⟨some (some plan.store), some ⟨true, rows⟩, content⟩

theorem upgradeAndVerify_ends :
    Ends (fun file => Progress lib py plan file₀ file ∧ ∃ history content,
        file = some ⟨some (some plan.store), some history, content⟩)
      (upgradeAndVerifyMigrationHistory lib plan) (Progress lib py plan file₀) E
      fun _ file => Progress lib py plan file₀ file ∧ ∃ rows, Ready plan rows file := by
  unfold upgradeAndVerifyMigrationHistory
  refine Ends.bind (Q := fun history file => historyOf file = history ∧
    Progress lib py plan file₀ file ∧ ∃ history content,
      file = some ⟨some (some plan.store), some history, content⟩)
    (Ends.read _ fun file h => ⟨rfl, h⟩) fun history => ?_
  refine Ends.bind (checked_ends ?_) fun _ => ?_
  · rintro file ⟨rfl, hprogress, -⟩
    exact ⟨hprogress.acceptable.follows, fun hfalse => by cases hfalse⟩
  refine Ends.bind (Q := fun _ file => Progress lib py plan file₀ file ∧
    ∃ rows, Ready plan rows file) (change_ends ?_ fun file h => h.2.1) fun _ => ?_
  · rintro file ⟨-, hprogress, history, content, rfl⟩
    obtain ⟨hfollows, hchecksums, hlength⟩ := hprogress.acceptable.follows.backfill
    exact ⟨hprogress.moved ⟨.inr rfl, hfollows⟩ hlength rfl, _, hchecksums, content, rfl⟩
  refine Ends.bind (Q := fun history file => historyOf file = history ∧
    Progress lib py plan file₀ file ∧ ∃ rows, Ready plan rows file)
    (Ends.read _ fun file h => ⟨rfl, h⟩) fun verified => ?_
  refine (checked_ends ?_).consequence (fun _ => id) (fun _ h => h) (fun _ _ => id)
    fun _ _ h => h.2
  rintro file ⟨rfl, hprogress, rows, hchecksums, content, rfl⟩
  exact ⟨hprogress.acceptable.follows, fun _ => hchecksums⟩

theorem Progress.opened (h : Progress lib py plan file₀ file) :
    Progress lib py plan file₀ (some (file.getD { content := lib.empty })) := by
  cases file with
  | none => exact h.moved ⟨.inl rfl, h.acceptable.follows⟩ rfl rfl
  | some db => exact h

theorem ensureMetadata_ends : Ends (Progress lib py plan file₀) (ensureMigrationMetadata lib plan)
    (Progress lib py plan file₀) E
    fun _ file => Progress lib py plan file₀ file ∧ ∃ rows, Ready plan rows file := by
  unfold ensureMigrationMetadata
  refine Ends.bind (Q := fun _ file => Progress lib py plan file₀ file)
    (change_ends (fun file h => ?_) fun _ => id) fun _ => ?_
  · have hopened := h.opened
    generalize file.getD { content := lib.empty } = db at hopened
    obtain ⟨identity, history, content⟩ := db
    cases identity with
    | none => exact hopened.moved ⟨.inl rfl, hopened.acceptable.follows⟩ rfl rfl
    | some identity => exact hopened
  refine Ends.bind (Q := fun _ file => Progress lib py plan file₀ file ∧
      ∃ identity history content, file = some ⟨identity, some history, content⟩)
    (change_ends (fun file h => ?_) fun _ => id) fun _ => ?_
  · have hopened := h.opened
    generalize file.getD { content := lib.empty } = db at hopened
    obtain ⟨identity, history, content⟩ := db
    cases history with
    | none =>
      exact ⟨hopened.moved ⟨hopened.acceptable.identity, hopened.acceptable.follows⟩ rfl rfl,
        identity, _, content, rfl⟩
    | some history => exact ⟨hopened, identity, history, content, rfl⟩
  refine Ends.bind (Q := fun identity file => identity = some plan.store ∧
      Progress lib py plan file₀ file ∧
      ∃ identity history content, file = some ⟨identity, some history, content⟩)
    (Ends.read _ fun file h => ⟨?_, h⟩) fun identity => ?_
  · rcases h.1.acceptable.identity with hnone | hsome
    · rw [hnone]
      rfl
    · rw [hsome]
      rfl
  refine Ends.bind (Q := fun _ file => identity = some plan.store ∧
      Progress lib py plan file₀ file ∧
      ∃ identity history content, file = some ⟨identity, some history, content⟩)
    (Ends.ofExcept (fun _ _ _ => id) fun error file hraised h => ?_) fun _ => ?_
  · have hok : check (identity = some plan.store) "MIGRATION_STORE_IDENTITY_MISMATCH" = .ok () :=
      check_eq_ok.mpr (decide_eq_true h.1)
    rw [hok] at hraised
    cases hraised
  refine Ends.bind (change_ends ?_ fun file h => h.2.1) fun _ => upgradeAndVerify_ends
  rintro file ⟨rfl, hprogress, identity, history, content, rfl⟩
  exact ⟨hprogress.moved ⟨.inr rfl, hprogress.acceptable.follows⟩ rfl rfl, history, content, rfl⟩

theorem executeStatement_stays {statement : String} (hstays : (py.kind statement).stays = true)
    (db saved : Database Content) :
    executeStatement py statement ⟨db, some saved⟩ =
      (py.execute statement db.content).map fun content => ⟨{ db with content }, some saved⟩ := by
  unfold executeStatement
  cases hkind : py.kind statement with
  | plain | dml => rfl
  | begin | commit | rollback =>
    rw [hkind] at hstays
    cases hstays

theorem runStatements_ends {statements : List String}
    (hstays : ∀ statement ∈ statements, (py.kind statement).stays = true)
    (db saved : Database Content) :
    Ends (· = some saved) (runStatements py statements ⟨db, some saved⟩) (· = some saved) E
      fun outcome file => file = some saved ∧
        outcome = (statements.foldlM (fun content statement => py.execute statement content)
          db.content).map fun content => ⟨{ db with content }, some saved⟩ := by
  induction statements generalizing db with
  | nil => exact Ends.pure _ fun file hfile => ⟨hfile, rfl⟩
  | cons statement rest ih =>
    obtain ⟨hfirst, hrest⟩ := List.forall_mem_cons.mp hstays
    unfold runStatements
    rw [executeStatement_stays hfirst, List.foldlM_cons]
    cases hexecuted : py.execute statement db.content with
    | error message => exact Ends.pure _ fun file hfile => ⟨hfile, rfl⟩
    | ok content =>
      exact Ends.bind (Ends.atomically (fun file _ => rfl) fun file => id) fun _ =>
        ih hrest { db with content }

theorem runMigrations_singleton (migration : SqliteMigration) (content : Content) :
    runMigrations py [migration] content =
      migration.statements.foldlM (fun content statement => py.execute statement content)
        content := by
  rw [runMigrations, List.flatMap_cons, List.flatMap_nil, List.append_nil]

theorem applyMigration_ends {before rest : List SqliteMigration} {migration : SqliteMigration}
    (hplan : plan.migrations = before ++ migration :: rest)
    (hstays : ∀ statement ∈ migration.statements, (py.kind statement).stays = true)
    (hlength : rows.length = before.length) :
    Ends (fun file => Progress lib py plan file₀ file ∧ Ready plan rows file)
      (applyMigration lib py plan.store migration) (Progress lib py plan file₀)
      (fun raised file => Progress lib py plan file₀ file ∧
        ∃ message, raised = .sqlite message ∧ Failing lib py plan file message)
      fun _ file => Progress lib py plan file₀ file ∧
        Ready plan (rows ++ [appliedRow plan.store migration]) file := by
  unfold applyMigration
  refine Ends.each ?_
  rintro file ⟨hprogress, hchecksums, content, rfl⟩
  have hnext : plan.migrations[rows.length]? = some migration := by
    rw [hplan, hlength, List.getElem?_append_right (Nat.le_refl _), Nat.sub_self]
    rfl
  refine Ends.bind (Q := fun db file => db = ⟨some (some plan.store), some ⟨true, rows⟩, content⟩ ∧
    file = some db) (Ends.read _ fun file h => h ▸ ⟨rfl, rfl⟩) fun db => ?_
  refine Ends.each ?_
  rintro file ⟨rfl, rfl⟩
  refine Ends.bind ((runStatements_ends hstays _ _).consequence (fun _ => id) ?_
    (fun _ _ => id) fun _ _ => id) fun outcome => ?_
  · rintro file rfl
    exact hprogress
  rw [← runMigrations_singleton]
  cases hrun : runMigrations py [migration] content with
  | error message =>
    refine Ends.each ?_
    rintro file ⟨rfl, rfl⟩
    refine Ends.fail _ ?_
    rintro file rfl
    exact ⟨hprogress, message, rfl, migration, hnext, hrun⟩
  | ok content' =>
    refine Ends.each ?_
    rintro file ⟨rfl, rfl⟩
    refine change_ends ?_ ?_
    · rintro file rfl
      refine ⟨hprogress.trans ⟨⟨.inr rfl, ?_⟩, ?_, ?_⟩, ?_, content', rfl⟩
      · exact hprogress.acceptable.follows.append hplan hlength
      · show rows.length ≤ (rows ++ [appliedRow plan.store migration]).length
        rw [List.length_append]
        exact Nat.le_add_right _ _
      · have hone : (plan.migrations.take (rows ++ [appliedRow plan.store migration]).length).drop
            rows.length = [migration] := by
          rw [List.length_append, List.length_singleton, hlength, hplan, List.drop_take,
            List.drop_left, Nat.add_sub_cancel_left]
          rfl
        show runMigrations py ((plan.migrations.take
          (rows ++ [appliedRow plan.store migration]).length).drop rows.length) content = _
        rw [hone]
        exact hrun
      · intro row hrow
        rcases List.mem_append.mp hrow with hold | hnew
        · exact hchecksums row hold
        · rw [List.mem_singleton.mp hnew]
          exact Option.some_ne_none _
    · rintro file rfl
      exact hprogress

theorem applyRemaining_ends (hstays : StaysOpen py plan) {rest : List SqliteMigration}
    (before : List SqliteMigration) (applied : List Nat)
    (hplan : plan.migrations = before ++ rest) :
    Ends (fun file => Progress lib py plan file₀ file ∧ ∃ rows, Ready plan rows file ∧
        before.length ≤ rows.length ∧ ∀ v, v ∈ applied ↔ 1 ≤ v ∧ v ≤ rows.length)
      (applyRemaining lib py plan.store applied rest) (Progress lib py plan file₀)
      (fun raised file => Progress lib py plan file₀ file ∧
        ∃ message, raised = .sqlite message ∧ Failing lib py plan file message)
      fun _ file => Progress lib py plan file₀ file ∧ Complete plan file := by
  induction rest generalizing before applied with
  | nil =>
    refine Ends.pure _ ?_
    rintro file ⟨hprogress, rows, ⟨hchecksums, content, rfl⟩, hlength, -⟩
    rw [List.append_nil] at hplan
    have hfollows : FollowsPlan plan rows := hprogress.acceptable.follows
    exact ⟨hprogress, rows_eq_of_followsPlan hfollows hchecksums
      (Nat.le_antisymm hfollows.fits (hplan ▸ hlength)), rfl⟩
  | cons migration rest ih =>
    have hversion := plan.version_eq hplan
    have hsplit : plan.migrations = (before ++ [migration]) ++ rest := by simpa using hplan
    unfold applyRemaining
    by_cases happlied : applied.contains migration.version
    · rw [if_pos happlied]
      have happlied := List.contains_iff_mem.mp happlied
      refine (ih (before ++ [migration]) applied hsplit).pre ?_
      rintro file ⟨hprogress, rows, hready, hlength, hmem⟩
      have hle := ((hmem _).mp happlied).2
      refine ⟨hprogress, rows, hready, ?_, hmem⟩
      rw [List.length_append, List.length_singleton]
      omega
    · rw [if_neg happlied]
      have happlied := mt List.contains_iff_mem.mpr happlied
      refine Ends.each ?_
      rintro file ⟨hprogress, rows, hready, hlength, hmem⟩
      -- the migration was not recorded, so the rows are those of the migrations before it
      have hlast : rows.length = before.length := by
        by_contra hne
        exact happlied ((hmem _).mpr (by omega))
      have hmigration : migration ∈ plan.migrations := by
        rw [hplan]
        exact List.mem_append_right _ List.mem_cons_self
      refine Ends.bind ((applyMigration_ends hplan (hstays migration hmigration) hlast).pre ?_)
        fun _ => (ih (before ++ [migration]) (migration.version :: applied) hsplit).pre ?_
      · rintro file' rfl
        exact ⟨hprogress, hready⟩
      · rintro file' ⟨hprogress', hready'⟩
        refine ⟨hprogress', _, hready', ?_, fun v => ?_⟩
        · rw [List.length_append, List.length_append, List.length_singleton, List.length_singleton]
          omega
        · rw [List.length_append, List.length_singleton, List.mem_cons, hmem]
          omega

theorem applySqliteMigrations_ends (hstays : StaysOpen py plan) :
    Ends (Progress lib py plan file₀) (applySqliteMigrations lib py plan)
      (Progress lib py plan file₀)
      (fun raised file => Progress lib py plan file₀ file ∧
        ∃ message, raised = .sqlite message ∧ Failing lib py plan file message)
      fun _ file => Progress lib py plan file₀ file ∧ Complete plan file := by
  unfold applySqliteMigrations
  refine Ends.bind ensureMetadata_ends fun _ => ?_
  refine Ends.bind (Q := fun history file => historyOf file = history ∧
    Progress lib py plan file₀ file ∧ ∃ rows, Ready plan rows file)
    (Ends.read _ fun file h => ⟨rfl, h⟩) fun history => ?_
  refine Ends.bind (checked_ends ?_) fun _ => ?_
  · rintro file ⟨rfl, hprogress, rows, hchecksums, content, rfl⟩
    exact ⟨hprogress.acceptable.follows, fun _ => hchecksums⟩
  refine Ends.each ?_
  -- the versions read are those of the rows of this file
  rintro file ⟨rfl, hprogress, rows, hready, hfile⟩
  refine (applyRemaining_ends hstays [] _ rfl).pre ?_
  rintro file' rfl
  refine ⟨hprogress, rows, ⟨hready, hfile⟩, Nat.zero_le _, fun v => ?_⟩
  have hversions : (historyOf file').projected.map MigrationRow.version =
      List.range' 1 rows.length := by
    obtain ⟨content, rfl⟩ := hfile
    exact hprogress.acceptable.follows.versions
  rw [hversions, List.mem_range'_1]
  omega

end

section
variable {lib : SqliteLibrary Content} {py : StatementLibrary Content} {plan : SqliteMigrationPlan}
  {file₀ file : StoreFile Content}

def identityOf (file : StoreFile Content) : Option SqliteStore := (file.bind Database.identity).join

def Refused (lib : SqliteLibrary Content) (file₀ : StoreFile Content) (raised : MigrationRaised)
    (file : StoreFile Content) : Prop :=
  Untouched lib file₀ file ∧ ∃ code, raised = .violation code

variable {db : Database Content}

theorem Untouched.changed (h : Untouched lib file₀ file)
    (hcontent : db.content = (file.getD { content := lib.empty }).content)
    (hhistory : db.history.getD ⟨true, []⟩ =
      (file.getD { content := lib.empty }).history.getD ⟨true, []⟩) :
    Untouched lib file₀ (some db) := by
  cases file with
  | none => exact ⟨hcontent.trans h.content, hhistory.trans h.history⟩
  | some db => exact ⟨hcontent.trans h.content, hhistory.trans h.history⟩

theorem violated_check (test : Bool) (code : String) :
    violated (check test code) = if test then .ok () else .error (.violation code) := by
  cases test <;> rfl

theorem refused_of_not_follows {history : MigrationHistory} {allowMissing : Bool}
    (hnot : ¬FollowsPlan plan history.projected) {P : StoreFile Content → Prop}
    (hP : ∀ file, P file → Untouched lib file₀ file) {Q : Unit → StoreFile Content → Prop} :
    Ends P (ofExcept (violated (validateMigrationHistory plan history.projected allowMissing)) :
      OnDatabase Content Unit) (Untouched lib file₀) (Refused lib file₀) Q := by
  refine Ends.ofExcept (fun u file hok hfile => ?_) fun error file hraised hfile => ?_
  · cases hcheck : validateMigrationHistory plan history.projected allowMissing with
    | ok u => exact absurd (validateMigrationHistory_eq_ok.mp hcheck).1 hnot
    | error code =>
      rw [hcheck] at hok
      cases hok
  · refine ⟨hP file hfile, ?_⟩
    cases hcheck : validateMigrationHistory plan history.projected allowMissing with
    | ok u =>
      rw [hcheck] at hraised
      cases hraised
    | error code =>
      rw [hcheck] at hraised
      cases hraised
      exact ⟨code, rfl⟩

theorem applySqliteMigrations_refused (hnot : ¬Acceptable plan file₀) :
    Ends (· = file₀) (applySqliteMigrations lib py plan) (Untouched lib file₀)
      (Refused lib file₀) fun _ _ => False := by
  unfold applySqliteMigrations
  refine Ends.bind (Q := fun _ _ => False) ?_ fun _ r hr => hr.elim
  unfold ensureMigrationMetadata
  refine Ends.bind
    (Q := fun _ file => Untouched lib file₀ file ∧ identityOf file = identityOf file₀)
    (change_ends ?_ ?_) fun _ => ?_
  · rintro file rfl
    refine ⟨Untouched.changed ⟨rfl, rfl⟩ rfl rfl, ?_⟩
    rcases file with - | ⟨- | identity, history, content⟩ <;> rfl
  · rintro file rfl
    exact ⟨rfl, rfl⟩
  refine Ends.bind
    (Q := fun _ file => Untouched lib file₀ file ∧ identityOf file = identityOf file₀)
    (change_ends ?_ fun file h => h.1) fun _ => ?_
  · rintro file ⟨huntouched, hidentity⟩
    refine ⟨huntouched.changed rfl ?_, ?_⟩
    · cases (file.getD { content := lib.empty }).history <;> rfl
    · rw [← hidentity]
      cases file <;> rfl
  refine Ends.bind (Q := fun identity file => Untouched lib file₀ file ∧
      identity = (identityOf file₀ <|> some plan.store))
    (Ends.read _ fun file h => ⟨h.1, h.2 ▸ rfl⟩) fun identity => ?_
  refine Ends.each ?_
  rintro file ⟨huntouched, rfl⟩
  by_cases hidentity : (identityOf file₀ <|> some plan.store) = some plan.store
  · have hfollows : ¬FollowsPlan plan (historyOf file).projected := by
      intro hfollows
      refine hnot ⟨?_, ?_⟩
      · cases hstore : identityOf file₀ with
        | none => exact .inl hstore
        | some store =>
          rw [hstore] at hidentity
          exact .inr (hstore.trans hidentity)
      · rw [huntouched.history] at hfollows
        exact hfollows
    rw [violated_check, if_pos (decide_eq_true hidentity)]
    refine Ends.bind (Q := fun _ => Untouched lib file₀) (Ends.pure _ ?_) fun _ => ?_
    · rintro file' rfl
      exact huntouched
    refine Ends.bind (Q := fun _ => Untouched lib file₀) (change_ends (fun file' h =>
      h.changed rfl rfl) fun _ => id) fun _ => ?_
    unfold upgradeAndVerifyMigrationHistory
    refine Ends.bind
      (Q := fun history file' => history = historyOf file ∧ Untouched lib file₀ file')
      (Ends.read _ fun file' h => ⟨h.history.trans huntouched.history.symm, h⟩) fun history => ?_
    refine Ends.each ?_
    rintro file' ⟨rfl, huntouched'⟩
    refine Ends.bind (refused_of_not_follows (Q := fun _ _ => False) hfollows ?_) fun _ r hr =>
      hr.elim
    rintro file'' rfl
    exact huntouched'
  · rw [violated_check, if_neg (by simpa using hidentity)]
    refine Ends.bind (Q := fun _ _ => False) (Ends.fail _ ?_) fun _ r hr => hr.elim
    rintro file' rfl
    exact ⟨huntouched, _, rfl⟩

theorem inspect_ok_iff : (∃ state, inspectSqliteMigrationState lib db plan = .ok state) ↔
      Acceptable plan (some db) ∧ Settled lib db := by
  obtain ⟨identity, history, content⟩ := db
  cases identity with
  | none =>
    cases history with
    | none =>
      simp only [inspectSqliteMigrationState, check_bind_eq_ok, Except.ok.injEq,
        exists_and_left, exists_eq', and_true, Bool.not_eq_true']
      exact ⟨fun h => ⟨⟨.inl rfl, FollowsPlan.nil⟩, .inl ⟨rfl, rfl, h⟩⟩,
        fun h => h.2.elim (fun hnone => hnone.2.2) fun hsome => by simp at hsome⟩
    | some history => simp [inspectSqliteMigrationState, Settled]
  | some identity =>
    cases history with
    | none => simp [inspectSqliteMigrationState, Settled]
    | some history =>
      have hinspect : (∃ state, inspectSqliteMigrationState lib
          (⟨some identity, some history, content⟩ : Database Content) plan = .ok state) ↔
          identity = some plan.store ∧ FollowsPlan plan history.projected := by
        simp only [inspectSqliteMigrationState, exists_and_left, Plans.unit_bind_eq_ok,
          validateMigrationHistory_eq_ok, Except.ok.injEq, exists_eq', and_true]
        simp
      rw [hinspect]
      constructor
      · rintro ⟨rfl, hfollows⟩
        exact ⟨⟨.inr rfl, hfollows⟩, .inr ⟨⟨_, rfl⟩, _, rfl⟩⟩
      · rintro ⟨⟨hidentity, hfollows⟩, hnone | ⟨⟨store, hstore⟩, -⟩⟩
        · cases hnone.1
        · cases hstore
          exact ⟨hidentity.resolve_left (Option.some_ne_none store), hfollows⟩

theorem attempts_progress (hstays : StaysOpen py plan) (h : Acceptable plan file)
    (kills : List (Option (Kill Cut))) :
    Progress lib py plan file (attempts lib py plan kills file) := by
  have hstep : ∀ {middle} kill, Progress lib py plan file middle →
      Progress lib py plan file (applySqliteMigrations lib py plan ⟨middle, kill⟩).2.disk := by
    intro middle kill hmiddle
    rcases applySqliteMigrations_ends hstays ⟨middle, kill⟩ hmiddle with
      ⟨u, r, hrun, -, hends⟩ | ⟨r, hrun, -, hends⟩ | ⟨raised, r, hrun, hends⟩
    · rw [hrun]
      exact hends.1
    · rw [hrun]
      exact hends
    · rw [hrun]
      exact hends.1
  have hall : ∀ middle, Progress lib py plan file middle →
      Progress lib py plan file (attempts lib py plan kills middle) := by
    induction kills with
    | nil => exact fun middle => id
    | cons kill kills ih => exact fun middle hmiddle => ih _ (hstep kill hmiddle)
  exact hall file (Progress.refl h)

theorem undisturbed_attempt (hstays : StaysOpen py plan) (h : Progress lib py plan file₀ file) :
    ∃ result r, applySqliteMigrations lib py plan ⟨file, none⟩ = (result, r) ∧
      Progress lib py plan file₀ r.disk ∧ (result = .ok () ∧ Complete plan r.disk ∨
        ∃ message, result = .error (.raised (.sqlite message)) ∧
          Failing lib py plan r.disk message) := by
  rcases applySqliteMigrations_ends hstays ⟨file, none⟩ h with
    ⟨u, r, hrun, -, hprogress, hcomplete⟩ | ⟨r, -, hkill, -⟩ |
      ⟨raised, r, hrun, hprogress, message, rfl, hfailing⟩
  · exact ⟨_, r, hrun, hprogress, .inl ⟨rfl, hcomplete⟩⟩
  · exact absurd rfl hkill
  · exact ⟨_, r, hrun, hprogress, .inr ⟨message, rfl, hfailing⟩⟩

/-- Migrations are resumed where they were interrupted, each once and in its turn, and a store that
does not begin the plan is refused. -/
theorem migrations_resume (hstays : StaysOpen py plan) (file : StoreFile Content) :
    (Acceptable plan file → ∀ kills,
      Progress lib py plan file (attempts lib py plan kills file) ∧
      ∃ result r, applySqliteMigrations lib py plan
          ⟨attempts lib py plan kills file, none⟩ = (result, r) ∧
        Progress lib py plan file r.disk ∧ (result = .ok () ∧ Complete plan r.disk ∨
          ∃ message, result = .error (.raised (.sqlite message)) ∧
            Failing lib py plan r.disk message)) ∧
    (¬Acceptable plan file → ∀ kill,
      Untouched lib file (applySqliteMigrations lib py plan ⟨file, kill⟩).2.disk ∧
      (kill = none → ∃ code, (applySqliteMigrations lib py plan ⟨file, kill⟩).1 =
        .error (.raised (.violation code)))) ∧
    ∀ db, file = some db → ((∃ state, inspectSqliteMigrationState lib db plan = .ok state) ↔
      Acceptable plan file ∧ Settled lib db) := by
  refine ⟨fun h kills => ?_, fun hnot kill => ?_, fun db hdb => hdb ▸ inspect_ok_iff⟩
  -- an acceptable file only moves forward, however often it is killed
  · have hprogress := @attempts_progress _ lib _ _ _ hstays h kills
    exact ⟨hprogress, undisturbed_attempt hstays hprogress⟩
  -- any other file is refused before it is written
  · rcases @applySqliteMigrations_refused _ lib py _ _ hnot ⟨file, kill⟩ rfl with
      ⟨-, -, -, -, hfalse⟩ | ⟨r, hrun, hkill, huntouched⟩ | ⟨raised, r, hrun, huntouched, code, rfl⟩
    · exact hfalse.elim
    · rw [hrun]
      exact ⟨huntouched, fun hnone => absurd hnone hkill⟩
    · rw [hrun]
      exact ⟨huntouched, fun _ => ⟨code, rfl⟩⟩

end

section
variable {lib : SqliteLibrary Content} {py : StatementLibrary Content}
  {plan : SqliteMigrationPlan}

/-- The statements of each migration succeed and make of the content what the library says. -/
def RunsAs (lib : SqliteLibrary Content) (py : StatementLibrary Content)
    (plan : SqliteMigrationPlan) : Prop :=
  ∀ migration ∈ plan.migrations, ∀ content,
    runMigrations py [migration] content = .ok (lib.run migration content)

/-- A violation at the level of the statements, and the one of the epoch that it becomes. -/
def Reported (store : SqliteStore) (raised : MigrationRaised) (error : MigrationError) : Prop :=
  (∃ code, raised = .violation code) ∧ error = .violation (applyFailed store)

def Made (file : StoreFile Content) : Prop := file ≠ none

theorem violated_refines {α : Type} {store : SqliteStore} {P : StoreFile Content → Prop}
    (x : Except String α) :
    Refines P (ofExcept (violated x) : OnDatabase Content α)
      (ofExcept (raisedAs (applyFailed store) x)) (Reported store) fun _ => P := by
  refine Refines.ofExcept ?_ ?_
  · intro a hok
    cases x with
    | ok a' => exact congrArg Except.ok (Except.ok.inj hok)
    | error code => cases hok
  · intro error herror
    cases x with
    | ok a => cases herror
    | error code => exact ⟨_, rfl, ⟨code, (Except.error.inj herror).symm⟩, rfl⟩

theorem change_refines {store : SqliteStore} {P : StoreFile Content → Prop}
    (f : Database Content → Database Content) :
    Refines P (change lib f) (transact lib f) (Reported store) fun _ => Made :=
  Refines.atomically fun _ _ => ⟨rfl, Option.some_ne_none _⟩

theorem upgradeAndVerify_refines :
    Refines Made (upgradeAndVerifyMigrationHistory lib plan)
      (StateStores.upgradeAndVerifyMigrationHistory lib plan) (Reported plan.store)
      fun _ => Made := by
  unfold upgradeAndVerifyMigrationHistory StateStores.upgradeAndVerifyMigrationHistory
  refine Refines.bind (Refines.read _) fun history => ?_
  refine Refines.bind (violated_refines _) fun _ => ?_
  refine Refines.bind (change_refines _) fun _ => ?_
  refine Refines.bind (Refines.read _) fun verified => ?_
  exact (violated_refines _).pre fun _ h => h.2

theorem ensureMigrationMetadata_refines :
    Refines (fun _ => True) (ensureMigrationMetadata lib plan)
      (StateStores.ensureMigrationMetadata lib plan) (Reported plan.store) fun _ => Made := by
  unfold ensureMigrationMetadata StateStores.ensureMigrationMetadata
  refine Refines.bind (change_refines _) fun _ => ?_
  refine Refines.bind (change_refines _) fun _ => ?_
  refine Refines.bind (Refines.read _) fun identity => ?_
  refine Refines.bind (violated_refines _) fun _ => ?_
  exact Refines.bind (change_refines _) fun _ => upgradeAndVerify_refines

/-- The statements leave the file as it is until the row of the migration is recorded. -/
theorem applyMigration_refines {store : SqliteStore} {migration : SqliteMigration}
    (hstays : ∀ statement ∈ migration.statements, (py.kind statement).stays = true)
    (hruns : ∀ content, runMigrations py [migration] content = .ok (lib.run migration content)) :
    Refines Made (applyMigration lib py store migration)
      (StateStores.applyMigration lib store migration) (Reported plan.store) fun _ => Made := by
  refine Refines.each fun file hmade => ?_
  obtain ⟨db, rfl⟩ := Option.ne_none_iff_exists'.mp hmade
  have hcut : CutOff (StateStores.applyMigration lib store migration) (some db) (some db) :=
    ⟨some ⟨0, fun _ => false⟩, _, rfl⟩
  unfold applyMigration
  refine Refines.after (Ends.read _ fun file hfile => ⟨by rw [hfile], hfile⟩) hcut ?_
  refine Refines.after ((runStatements_ends hstays db db).consequence (fun _ => id) (fun _ => id)
    (fun _ _ => id) fun outcome file h => ⟨h.2, h.1⟩) hcut ?_
  rw [← runMigrations_singleton, hruns]
  unfold StateStores.applyMigration transact
  refine Refines.atomically ?_
  rintro _ rfl
  exact ⟨rfl, Option.some_ne_none _⟩

theorem applyRemaining_refines {store : SqliteStore} {migrations : List SqliteMigration}
    (hstays : ∀ migration ∈ migrations, ∀ statement ∈ migration.statements,
      (py.kind statement).stays = true)
    (hruns : ∀ migration ∈ migrations, ∀ content,
      runMigrations py [migration] content = .ok (lib.run migration content)) (applied : List Nat) :
    Refines Made (applyRemaining lib py store applied migrations)
      (StateStores.applyRemaining lib store applied migrations) (Reported plan.store)
      fun _ => Made := by
  induction migrations generalizing applied with
  | nil => exact Refines.pure _ fun _ h => h
  | cons migration rest ih =>
    obtain ⟨hfirst, hrest⟩ := List.forall_mem_cons.mp hstays
    obtain ⟨hrun, hrunRest⟩ := List.forall_mem_cons.mp hruns
    unfold applyRemaining StateStores.applyRemaining
    split
    · exact ih hrest hrunRest applied
    · exact Refines.bind (applyMigration_refines hfirst hrun) fun _ =>
        ih hrest hrunRest (migration.version :: applied)

/-- Where the statements of a plan stay in their transaction and succeed, each run of the migrations
statement by statement is a run in which a migration is one step, and leaves the same file. -/
theorem applySqliteMigrations_refines (hstays : StaysOpen py plan) (hruns : RunsAs lib py plan) :
    Refines (fun _ => True) (applySqliteMigrations lib py plan)
      (StateStores.applySqliteMigrations lib plan) (Reported plan.store) fun _ => Made := by
  unfold applySqliteMigrations StateStores.applySqliteMigrations
  refine Refines.bind ensureMigrationMetadata_refines fun _ => ?_
  refine Refines.bind (Refines.read _) fun history => ?_
  refine Refines.bind (violated_refines _) fun _ => ?_
  exact (applyRemaining_refines hstays hruns _).pre fun _ h => h.2

end

def listing : SqliteLibrary (List String) where
  empty := []
  tables content := !content.isEmpty
  run migration content := content ++ migration.statements
  evidence _ :=
    { identity := none, schemaVersion := 0, migrationCount := 0, latestMigrationUtc := none,
      pageCount := 1, intentSegments := [], segmentsUnique := List.nodup_nil }
  sizeBytes _ := 4096
  sha256 _ := ""
  tables_empty := rfl

def listed : StatementLibrary (List String) where
  kind statement := if statement = "COMMIT" then .commit else .dml
  execute statement content := .ok (content ++ [statement])

def planOf (statements : List String)
    (h : statements ≠ [] ∧ statements.all nonBlank = true) : SqliteMigrationPlan where
  store := .catalog
  migrations := [⟨1, "core", statements⟩]
  nonempty := List.cons_ne_nil _ _
  contiguous := rfl
  namesUnique := List.nodup_singleton _
  stated := by
    intro migration hmem
    obtain rfl := List.mem_singleton.mp hmem
    exact ⟨(by decide : "core" ≠ ""), h⟩

def jobsPlan : SqliteMigrationPlan := planOf ["CREATE TABLE jobs (id TEXT)"] (by decide +kernel)

def storesPlan : SqliteMigrationPlan where
  store := .catalog
  migrations := [⟨1, "core", ["CREATE TABLE jobs (id TEXT)", "CREATE TABLE runs (id TEXT)"]⟩,
    ⟨2, "targets", ["CREATE TABLE targets (id TEXT)"]⟩,
    ⟨3, "plans", ["CREATE TABLE plans (id TEXT)"]⟩]
  nonempty := List.cons_ne_nil _ _
  contiguous := rfl
  namesUnique := by decide
  stated := by decide +kernel

theorem storesPlan_staysOpen : StaysOpen listed storesPlan := by
  have hkinds : ∀ migration ∈ storesPlan.migrations, ∀ statement ∈ migration.statements,
      listed.kind statement = .dml := by decide
  intro migration hmigration statement hstatement
  rw [hkinds migration hmigration statement hstatement]
  decide

/-- Two starts are killed, the second in the migration where the first one stopped. -/
theorem migrations_resume_killed :
    (recorded (attempts listing listed storesPlan
      [some ⟨8, fun _ => false⟩, some ⟨5, fun _ => false⟩] none)).length = 1 ∧
    ∃ result r, applySqliteMigrations listing listed storesPlan ⟨attempts listing listed storesPlan
        [some ⟨8, fun _ => false⟩, some ⟨5, fun _ => false⟩] none, none⟩ = (result, r) ∧
      Progress listing listed storesPlan none r.disk ∧
      (result = .ok () ∧ Complete storesPlan r.disk ∨
        ∃ message, result = .error (.raised (.sqlite message)) ∧
          Failing listing listed storesPlan r.disk message) :=
  ⟨by decide +kernel, ((@migrations_resume _ listing listed storesPlan storesPlan_staysOpen none).1
    ⟨.inl rfl, FollowsPlan.nil⟩ [some ⟨8, fun _ => false⟩, some ⟨5, fun _ => false⟩]).2⟩

/-- An inspection refuses a store that an attempt has left and another one completes; and a
migration that commits by itself runs again when it is interrupted after that. -/
theorem resumption_not_exact :
    ((attempts listing listed jobsPlan [some ⟨1, fun _ => false⟩] none).any fun db =>
        (inspectSqliteMigrationState listing db jobsPlan).toOption.isNone) = true ∧
      (applySqliteMigrations listing listed jobsPlan
        ⟨attempts listing listed jobsPlan [some ⟨1, fun _ => false⟩] none, none⟩).1.toOption =
          some () ∧
      ∃ plan : SqliteMigrationPlan, contentOf listing (attempts listing listed plan
        [some ⟨6, fun _ => false⟩, none] none) =
          ["INSERT INTO jobs VALUES (1)", "INSERT INTO jobs VALUES (1)"] := by
  refine ⟨by decide +kernel, by decide +kernel,
    planOf ["INSERT INTO jobs VALUES (1)", "COMMIT"] (by decide +kernel), ?_⟩
  decide +kernel

end MediaSync.StateStores.Resumption
