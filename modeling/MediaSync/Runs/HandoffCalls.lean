import MediaSync.Runs.HandoffStore

/-! What any sequence of calls on the catalog's and the recovery store's handoffs leaves, whatever
their order and however often they are repeated. -/
namespace MediaSync.Runs.HandoffStore
open CrossStore Text

structure Stores where
  catalog : Session (List StoredHandoff)
  recovery : Session RecoveryTables

namespace Stores

def empty : Stores where
  catalog := ⟨[], none⟩
  recovery := ⟨⟨[], []⟩, none⟩

def rows (s : Stores) : HandoffTable → List StoredHandoff
  | .catalog => s.catalog.current
  | .recovery => s.recovery.current.handoffs

def runs (s : Stores) : List RecoveryRunBinding := s.recovery.current.runs

def load (s : Stores) (table : HandoffTable) (handoffId : String) : Option StoredHandoff :=
  loadHandoff (s.rows table) handoffId

def onTable {α : Type} (table : HandoffTable)
    (p : (Db : Type) → RowsIn Db → Procedure (Session Db) HandoffRaised α) :
    Procedure Stores HandoffRaised α :=
  match table with
  | .catalog => Procedure.onState catalog (fun s catalog => { s with catalog }) (p _ catalogRows)
  | .recovery =>
    Procedure.onState recovery (fun s recovery => { s with recovery }) (p _ recoveryRows)

end Stores

inductive HandoffCall where
  | record (table : HandoffTable) (handoff : StoredHandoff)
  | transition (table : HandoffTable) (handoffId : String)
      (expectedState nextState : HandoffState) (expectedPayloadHash : String)
      (lastErrorCode : Option String)
  | commitRunStartPeer (binding : RecoveryRunBinding) (handoff : StoredHandoff)

namespace HandoffCall

variable (jsonValid : String → Bool)

def run : HandoffCall → Procedure Stores HandoffRaised (Option StoredHandoff)
  | .record table handoff =>
    some <$> Stores.onTable table fun _ rowsIn => recordHandoff rowsIn jsonValid table handoff
  | .transition table handoffId expectedState nextState expectedPayloadHash lastErrorCode =>
    Stores.onTable table fun _ rowsIn =>
      transitionHandoff rowsIn handoffId expectedState nextState expectedPayloadHash lastErrorCode
  | .commitRunStartPeer binding handoff =>
    some <$> Procedure.onState Stores.recovery (fun s recovery => { s with recovery })
      (HandoffStore.commitRunStartPeer jsonValid binding handoff)

def runAll (calls : List HandoffCall) (s : Stores) : Stores :=
  calls.foldl (fun s call => (call.run jsonValid s).2) s

def table : HandoffCall → HandoffTable
  | .record table _ => table
  | .transition table .. => table
  | .commitRunStartPeer .. => .recovery

def handoffId : HandoffCall → String
  | .record _ handoff => handoff.id
  | .transition _ handoffId .. => handoffId
  | .commitRunStartPeer _ handoff => handoff.id

def Holds : HandoffCall → StoredHandoff → Prop
  | .record _ handoff, row => row.state = handoff.state ∨ row.state ∈ terminalHandoffStates
  | .transition _ _ _ nextState _ _, row => row.state = nextState
  | .commitRunStartPeer _ handoff, row =>
    row.state = handoff.state ∨ row.state ∈ terminalHandoffStates

def superseded : HandoffCall → Except HandoffRaised (Option StoredHandoff)
  | .transition .. => .ok none
  | _ => .error (.sqlite "HANDOFF_STATE_CONFLICT")

def Conflicts (s : Stores) : HandoffCall → Prop
  | .record table handoff =>
    ∃ row, s.load table handoff.id = some row ∧ row.evidence ≠ handoff.evidence
  | .transition table handoffId _ _ expectedPayloadHash _ =>
    ∃ row, s.load table handoffId = some row ∧ row.evidence.payloadHash ≠ expectedPayloadHash
  | .commitRunStartPeer binding handoff =>
    (∃ row, s.load .recovery handoff.id = some row ∧ row.evidence ≠ handoff.evidence) ∨
      ∃ stored, Table.lookup RecoveryRunBinding.runId s.runs binding.runId = some stored ∧
        stored ≠ binding

def Disciplined : HandoffCall → Prop
  | .record table handoff => table = .recovery → handoff.evidence.handoffType ≠ "RUN_START"
  | .transition .. => True
  | .commitRunStartPeer binding handoff =>
    handoff.evidence.handoffType = "RUN_START" ∧ binding.startHandoffId = handoff.id ∧
      (decodeHandoffPayload handoff.evidence).isOk = true

end HandoffCall

structure RowsStep (rows rows' : List StoredHandoff) : Prop where
  unique : Table.KeysUnique CrossStoreHandoff.id rows → Table.KeysUnique CrossStoreHandoff.id rows'
  edge : Table.KeysUnique CrossStoreHandoff.id rows → ∀ row ∈ rows, ∃ row' ∈ rows',
    row'.evidence = row.evidence ∧ (row' = row ∨ row'.state ∈ allowedTransition row.state)

theorem RowsStep.refl (rows : List StoredHandoff) : RowsStep rows rows where
  unique h := h
  edge _ row hrow := ⟨row, hrow, rfl, .inl rfl⟩

section
variable {jsonValid : String → Bool} {table : HandoffTable}

theorem recordRows_step (handoff : StoredHandoff) (rows : List StoredHandoff) :
    RowsStep rows (recordRows jsonValid table handoff rows).2 := by
  rcases recordRows_cases jsonValid table handoff rows with
    ⟨code, hrun⟩ | ⟨existing, -, -, -, hrun⟩ | ⟨hload, hrun⟩
  · rw [hrun]
    exact .refl rows
  · rw [hrun]
    exact .refl rows
  · rw [hrun]
    exact ⟨fun hunique => hunique.insert hload, fun _ row hrow =>
      ⟨row, Table.mem_insert.mpr (.inl hrow), rfl, .inl rfl⟩⟩

theorem validateTransition_ok {source target : HandoffState}
    (h : validateTransition source target = .ok ()) :
    (allowedTransition source).contains target = true := by
  unfold validateTransition at h
  split at h
  · assumption
  · cases h

variable {expected next : HandoffState}

theorem transitionRows_step (hvalid : validateTransition expected next = .ok ())
    (handoffId payloadHash : String) (code : Option String) (rows : List StoredHandoff) :
    RowsStep rows (transitionRows handoffId expected next payloadHash code rows).2 := by
  have hallowed := validateTransition_ok hvalid
  rcases h : transitionRows handoffId expected next payloadHash code rows with
    ⟨raised | recorded, rows'⟩
  · rcases transitionRows_cases handoffId expected next payloadHash code rows with
      ⟨code', hrun⟩ | hrun | ⟨current, -, -, ⟨-, hrun⟩ | ⟨-, updated, -, -, hrun⟩⟩ <;>
        rw [hrun] at h <;> cases h
    exact .refl rows
  · cases recorded with
    | none =>
        rcases transitionRows_cases handoffId expected next payloadHash code rows with
          ⟨code', hrun⟩ | hrun | ⟨current, -, -, ⟨-, hrun⟩ | ⟨-, updated, -, -, hrun⟩⟩ <;>
            rw [hrun] at h <;> cases h
        exact .refl rows
    | some recorded =>
        have hcoarse := transitionRows_coarse hallowed h
        refine ⟨fun hunique => transitionHandoff_unique hunique hcoarse, fun hunique row hrow => ?_⟩
        obtain ⟨f, rfl, hf⟩ := transitionHandoff_map hunique hcoarse
        obtain ⟨hevidence, hsame | ⟨-, hfrom, hto⟩⟩ := hf row hrow
        · exact ⟨f row, List.mem_map_of_mem hrow, hevidence, .inl hsame⟩
        · refine ⟨f row, List.mem_map_of_mem hrow, hevidence, .inr ?_⟩
          rw [hfrom, hto]
          exact List.contains_iff_mem.mp hallowed

variable {α Db : Type} {rowsIn : RowsIn Db} {check : Except HandoffRaised Unit}
  {p : Procedure (List StoredHandoff) HandoffRaised α} {c : Session Db}

theorem guarded_ok {State : Type} {q : Procedure State HandoffRaised α} {s : State} :
    guarded (.ok ()) q s = q s := rfl

theorem method_fst : (method rowsIn check p c).1 = (guarded check p (rowsIn.get c.current)).1 := by
  cases check with
  | error raised => rfl
  | ok u => exact Session.immediate_fst

theorem method_rows : rowsIn.get (method rowsIn check p c).2.current =
      (guarded check p (rowsIn.get c.current)).2 ∨
    (∃ raised, (guarded check p (rowsIn.get c.current)).1 = .error raised) ∧
      (method rowsIn check p c).2 = c := by
  cases check with
  | error raised => exact .inl rfl
  | ok u =>
      rcases @Session.immediate_effect Db _ _
        (Procedure.onState rowsIn.get rowsIn.set p) caught c with
        hafter | ⟨hraised, hsame⟩
      · exact .inl ((congrArg rowsIn.get hafter).trans (rowsIn.get_set _ _))
      · exact .inr ⟨hraised, hsame⟩

theorem method_unchanged
    (hcaught : ∀ raised, (p (rowsIn.get c.current)).1 = .error raised → caught raised = true)
    (h : (guarded check p (rowsIn.get c.current)).2 = rowsIn.get c.current) :
    (method rowsIn check p c).2 = c := by
  cases check with
  | error raised => rfl
  | ok u =>
      refine Session.immediate_unchanged hcaught ?_
      exact (congrArg (rowsIn.set c.current) h).trans (rowsIn.set_get _)

theorem method_idle (hidle : c.saved = none)
    (hcaught : ∀ raised, (p (rowsIn.get c.current)).1 = .error raised → caught raised = true) :
    (method rowsIn check p c).2.saved = none := by
  cases check with
  | error raised => exact hidle
  | ok u => exact Session.immediate_idle hidle hcaught

variable {s : Stores}

theorem onTable_fst : (s.onTable table fun _ rowsIn => method rowsIn check p).1 =
    (guarded check p (s.rows table)).1 := by
  cases table <;> exact method_fst

theorem onTable_rows : (s.onTable table fun _ rowsIn => method rowsIn check p).2.rows table =
      (guarded check p (s.rows table)).2 ∨
    (∃ raised, (guarded check p (s.rows table)).1 = .error raised) ∧
      (s.onTable table fun _ rowsIn => method rowsIn check p).2 = s := by
  cases table with
  | catalog =>
      rcases @method_rows _ _ catalogRows check p s.catalog with
        hafter | ⟨hraised, hsame⟩
      · exact .inl hafter
      · exact .inr ⟨hraised, congrArg (fun catalog => { s with catalog }) hsame⟩
  | recovery =>
      rcases @method_rows _ _ recoveryRows check p s.recovery with
        hafter | ⟨hraised, hsame⟩
      · exact .inl hafter
      · exact .inr ⟨hraised, congrArg (fun recovery => { s with recovery }) hsame⟩

theorem onTable_other {other : HandoffTable} (hother : other ≠ table) :
    (s.onTable table fun _ rowsIn => method rowsIn check p).2.rows other = s.rows other := by
  cases table <;> cases other <;> first | rfl | exact absurd rfl hother

theorem onTable_unchanged
    (hcaught : ∀ raised, (p (s.rows table)).1 = .error raised → caught raised = true)
    (h : (guarded check p (s.rows table)).2 = s.rows table) :
    (s.onTable table fun _ rowsIn => method rowsIn check p).2 = s := by
  cases table with
  | catalog =>
      exact congrArg (fun catalog => { s with catalog })
        (@method_unchanged _ _ catalogRows _ _ s.catalog hcaught h)
  | recovery =>
      exact congrArg (fun recovery => { s with recovery })
        (@method_unchanged _ _ recoveryRows _ _ s.recovery hcaught h)

theorem onTable_runs : (s.onTable table fun _ rowsIn => method rowsIn check p).2.runs = s.runs := by
  cases table with
  | catalog => rfl
  | recovery =>
      cases check with
      | error raised => rfl
      | ok u =>
          rcases @Session.immediate_effect _ _ _
            (Procedure.onState recoveryRows.get recoveryRows.set p)
            caught s.recovery with hafter | ⟨-, hsame⟩
          · exact (congrArg RecoveryTables.runs hafter :)
          · exact (congrArg (fun c : Session RecoveryTables => c.current.runs) hsame :)

theorem onTable_idle (hidle : s.recovery.saved = none)
    (hcaught : ∀ raised, (p (s.rows table)).1 = .error raised → caught raised = true) :
    (s.onTable table fun _ rowsIn => method rowsIn check p).2.recovery.saved = none := by
  cases table with
  | catalog => exact hidle
  | recovery => exact @method_idle _ _ recoveryRows _ _ _ hidle hcaught

theorem onTable_step (hstep : check = .ok () → RowsStep (s.rows table) (p (s.rows table)).2)
    (other : HandoffTable) : RowsStep (s.rows other)
      ((s.onTable table fun _ rowsIn => method rowsIn check p).2.rows other) := by
  by_cases hother : other = table
  · subst hother
    rcases @onTable_rows other _ check p s with
      hafter | ⟨-, hsame⟩
    · rw [hafter]
      cases check with
      | error raised => exact .refl _
      | ok u => exact hstep rfl
    · rw [hsame]
      exact .refl _
  · rw [onTable_other hother]
    exact .refl _

variable {raised : HandoffRaised}

theorem recordRows_caught {handoff : StoredHandoff} {rows : List StoredHandoff}
    (h : (recordRows jsonValid table handoff rows).1 = .error raised) : caught raised = true := by
  rcases recordRows_cases jsonValid table handoff rows with
    ⟨code, hrun⟩ | ⟨existing, -, -, -, hrun⟩ | ⟨-, hrun⟩ <;> rw [hrun] at h <;> cases h
  rfl

theorem transitionRows_caught {handoffId payloadHash : String} {code : Option String}
    {rows : List StoredHandoff}
    (h : (transitionRows handoffId expected next payloadHash code rows).1 = .error raised) :
    caught raised = true := by
  rcases transitionRows_cases handoffId expected next payloadHash code rows with
    ⟨code', hrun⟩ | hrun | ⟨current, -, -, ⟨-, hrun⟩ | ⟨-, updated, -, -, hrun⟩⟩ <;>
      rw [hrun] at h <;> cases h
  rfl

end

section
variable {jsonValid : String → Bool} {binding : RecoveryRunBinding} {handoff : StoredHandoff}

/-- The bindings after `binding` was found or inserted. -/
inductive Bound (binding : RecoveryRunBinding) (runs : List RecoveryRunBinding) :
    List RecoveryRunBinding → Prop
  | found (h : Table.lookup RecoveryRunBinding.runId runs binding.runId = some binding) :
      Bound binding runs runs
  | inserted (h : Table.lookup RecoveryRunBinding.runId runs binding.runId = none)
      (hfresh : ∀ row ∈ runs, row.startHandoffId ≠ binding.startHandoffId) :
      Bound binding runs (Table.insert runs binding)

theorem Bound.lookup {runs runs' : List RecoveryRunBinding} (h : Bound binding runs runs') :
    Table.lookup RecoveryRunBinding.runId runs' binding.runId = some binding := by
  cases h with
  | found h => exact h
  | inserted h _ => exact Table.lookup_insert_self h

theorem Bound.lookup_of_some {runs runs' : List RecoveryRunBinding} (h : Bound binding runs runs')
    {runId : String} {row : RecoveryRunBinding}
    (hrow : Table.lookup RecoveryRunBinding.runId runs runId = some row) :
    Table.lookup RecoveryRunBinding.runId runs' runId = some row := by
  cases h with
  | found _ => exact hrow
  | inserted _ _ => exact Table.lookup_insert_of_some hrow

theorem commitRows_cases (jsonValid : String → Bool) (binding : RecoveryRunBinding)
    (handoff : StoredHandoff) (tables : RecoveryTables) :
    (∃ code, commitRows jsonValid binding handoff tables = (.error (.sqlite code), tables)) ∨
    ∃ runs', Bound binding tables.runs runs' ∧
      commitRows jsonValid binding handoff tables =
        ((guarded (checkRecord handoff) (recordRows jsonValid .recovery handoff)
            tables.handoffs).1,
          ⟨(guarded (checkRecord handoff) (recordRows jsonValid .recovery handoff)
            tables.handoffs).2, runs'⟩) := by
  have hbind : (∃ code, bindRun binding tables.runs = (.error (.sqlite code), tables.runs)) ∨
      ∃ runs', Bound binding tables.runs runs' ∧ bindRun binding tables.runs = (.ok (), runs') := by
    unfold bindRun
    cases hload : Table.lookup RecoveryRunBinding.runId tables.runs binding.runId with
    | none =>
        dsimp only
        split_ifs with haccepted
        · refine .inr ⟨_, .inserted hload fun row hrow heq => ?_, rfl⟩
          rw [Bool.and_eq_true, Bool.not_eq_true', List.any_eq_false] at haccepted
          exact haccepted.2 row hrow (decide_eq_true heq)
        · exact .inl ⟨_, rfl⟩
    | some existing =>
        dsimp only
        split_ifs with hsame
        · exact .inl ⟨_, rfl⟩
        · obtain rfl : existing = binding := not_not.mp hsame
          exact .inr ⟨_, .found hload, rfl⟩
  rcases hbind with ⟨code, hrun⟩ | ⟨runs', hbound, hrun⟩
  · refine .inl ⟨code, ?_⟩
    have hfirst : Procedure.onState RecoveryTables.runs (fun tables runs => { tables with runs })
        (bindRun binding) tables = (.error (.sqlite code), tables) := by
      simp only [Procedure.onState, hrun]
    exact Procedure.bind_error hfirst
  · refine .inr ⟨runs', hbound, ?_⟩
    have hfirst : Procedure.onState RecoveryTables.runs (fun tables runs => { tables with runs })
        (bindRun binding) tables = (.ok (), { tables with runs := runs' }) := by
      simp only [Procedure.onState, hrun]
    exact Procedure.bind_ok hfirst

theorem commitRunStartPeer_cases (jsonValid : String → Bool) (binding : RecoveryRunBinding)
    (handoff : StoredHandoff) (c : Session RecoveryTables) :
    ((∃ raised, (commitRunStartPeer jsonValid binding handoff c).1 = .error raised) ∧
      (commitRunStartPeer jsonValid binding handoff c).2 = c) ∨
    ∃ runs', Bound binding c.current.runs runs' ∧
      ((commitRunStartPeer jsonValid binding handoff c).1,
          (commitRunStartPeer jsonValid binding handoff c).2.current) =
        ((guarded (checkRecord handoff) (recordRows jsonValid .recovery handoff)
            c.current.handoffs).1,
          ⟨(guarded (checkRecord handoff) (recordRows jsonValid .recovery handoff)
            c.current.handoffs).2, runs'⟩) := by
  have hfst : (commitRunStartPeer jsonValid binding handoff c).1 =
      (commitRows jsonValid binding handoff c.current).1 := Session.immediate_fst
  rcases commitRows_cases jsonValid binding handoff c.current with
    ⟨code, hrun⟩ | ⟨runs', hbound, hrun⟩
  · refine .inl ⟨⟨.sqlite code, by rw [hfst, hrun]⟩, ?_⟩
    refine Session.immediate_unchanged (fun raised hraised => ?_) (by rw [hrun])
    rw [hrun] at hraised
    cases hraised
    rfl
  · rcases @Session.immediate_effect _ _ _ (commitRows jsonValid binding handoff) caught c with
      hafter | ⟨⟨raised, hraised⟩, hsame⟩
    · refine .inr ⟨runs', hbound, Prod.ext ?_ ?_⟩
      · rw [hfst, hrun]
      · exact hafter.trans (by rw [hrun])
    · exact .inl ⟨⟨raised, hfst.trans hraised⟩, hsame⟩

end

namespace HandoffCall

variable {jsonValid : String → Bool} {s : Stores} {call : HandoffCall}

theorem run_commit (binding : RecoveryRunBinding) (handoff : StoredHandoff) :
    (HandoffCall.commitRunStartPeer binding handoff).run jsonValid s =
      ((HandoffStore.commitRunStartPeer jsonValid binding handoff s.recovery).1.map some,
        { s with
          recovery := (HandoffStore.commitRunStartPeer jsonValid binding handoff s.recovery).2 }) :=
  Procedure.map_run _ _ _

theorem run_record (table : HandoffTable) (handoff : StoredHandoff) :
    (HandoffCall.record table handoff).run jsonValid s =
      ((s.onTable table fun _ rowsIn => recordHandoff rowsIn jsonValid table handoff).1.map some,
        (s.onTable table fun _ rowsIn => recordHandoff rowsIn jsonValid table handoff).2) :=
  Procedure.map_run _ _ _

theorem run_step (jsonValid : String → Bool) (call : HandoffCall) (s : Stores)
    (table : HandoffTable) : RowsStep (s.rows table) ((call.run jsonValid s).2.rows table) := by
  cases call with
  | record target handoff =>
      rw [run_record]
      exact onTable_step (fun _ => recordRows_step handoff _) table
  | transition target handoffId expected next payloadHash code =>
      exact onTable_step (fun hvalid => transitionRows_step hvalid handoffId payloadHash code _)
        table
  | commitRunStartPeer binding handoff =>
      rw [run_commit]
      rcases commitRunStartPeer_cases jsonValid binding handoff s.recovery with
        ⟨-, hsame⟩ | ⟨runs', -, heq⟩
      · rw [hsame]
        exact .refl _
      · cases table with
        | catalog => exact .refl _
        | recovery =>
            have hrows := congrArg (fun result => result.2.handoffs) heq
            show RowsStep s.recovery.current.handoffs
              (HandoffStore.commitRunStartPeer jsonValid binding handoff
                s.recovery).2.current.handoffs
            rw [hrows]
            cases checkRecord handoff with
            | error raised => exact .refl _
            | ok u => exact recordRows_step handoff _

variable {binding : RecoveryRunBinding}

theorem run_lookup (jsonValid : String → Bool) (call : HandoffCall) (s : Stores) {runId : String}
    (h : Table.lookup RecoveryRunBinding.runId s.runs runId = some binding) :
    Table.lookup RecoveryRunBinding.runId (call.run jsonValid s).2.runs runId = some binding := by
  cases call with
  | record target handoff =>
      have hruns : ((HandoffCall.record target handoff).run jsonValid s).2.runs = s.runs := by
        rw [run_record]
        exact onTable_runs
      rw [hruns]
      exact h
  | transition target handoffId expected next payloadHash code =>
      have hruns : ((HandoffCall.transition target handoffId expected next payloadHash code).run
          jsonValid s).2.runs = s.runs := onTable_runs
      rw [hruns]
      exact h
  | commitRunStartPeer other handoff =>
      rw [run_commit]
      rcases commitRunStartPeer_cases jsonValid other handoff s.recovery with
        ⟨-, hsame⟩ | ⟨runs', hbound, heq⟩
      · rw [hsame]
        exact h
      · have hruns := congrArg (fun result => result.2.runs) heq
        show Table.lookup RecoveryRunBinding.runId (HandoffStore.commitRunStartPeer jsonValid other
          handoff s.recovery).2.current.runs runId = some binding
        rw [hruns]
        exact hbound.lookup_of_some h

def Fits (runs : List RecoveryRunBinding) : HandoffCall → StoredHandoff → Prop
  | .record _ handoff, row => checkRecord handoff = .ok () ∧ row.evidence = handoff.evidence
  | .transition _ _ expectedState nextState expectedPayloadHash _, row =>
    validateTransition expectedState nextState = .ok () ∧
      row.evidence.payloadHash = expectedPayloadHash ∧ nextState.Leads row.state
  | .commitRunStartPeer binding handoff, row =>
    checkRecord handoff = .ok () ∧ row.evidence = handoff.evidence ∧
      Table.lookup RecoveryRunBinding.runId runs binding.runId = some binding

theorem guarded_record_ok {table : HandoffTable} {handoff recorded : StoredHandoff}
    {rows : List StoredHandoff}
    (h : (guarded (checkRecord handoff) (recordRows jsonValid table handoff) rows).1 =
      .ok recorded) :
    checkRecord handoff = .ok () ∧ recorded.evidence = handoff.evidence ∧
      (recorded.state = handoff.state ∨ recorded.state ∈ terminalHandoffStates) ∧
      loadHandoff (guarded (checkRecord handoff) (recordRows jsonValid table handoff) rows).2
        handoff.id = some recorded := by
  cases hcheck : checkRecord handoff with
  | error raised =>
      rw [hcheck] at h
      cases h
  | ok u =>
      rw [hcheck, guarded_ok] at h
      rw [guarded_ok]
      rcases recordRows_cases jsonValid table handoff rows with
        ⟨code, hrun⟩ | ⟨existing, hload, hevidence, hsettled, hrun⟩ | ⟨hload, hrun⟩
      · rw [hrun] at h
        cases h
      · rw [hrun] at h ⊢
        cases h
        exact ⟨rfl, hevidence, hsettled, hload⟩
      · rw [hrun] at h ⊢
        cases h
        exact ⟨rfl, rfl, .inl rfl, Table.lookup_insert_self hload⟩

theorem run_applied {recorded : StoredHandoff}
    (h : (call.run jsonValid s).1 = .ok (some recorded)) :
    (call.run jsonValid s).2.load call.table call.handoffId = some recorded ∧
      call.Holds recorded ∧ call.Fits (call.run jsonValid s).2.runs recorded := by
  cases call with
  | record table handoff =>
      rw [run_record] at h ⊢
      obtain ⟨row, hrow, heq⟩ := except_map_ok h
      cases heq
      have hguarded : (guarded (checkRecord handoff) (recordRows jsonValid table handoff)
          (s.rows table)).1 = .ok recorded := onTable_fst.symm.trans hrow
      obtain ⟨hcheck, hevidence, hsettled, hload⟩ := guarded_record_ok hguarded
      refine ⟨?_, hsettled, hcheck, hevidence⟩
      rcases @onTable_rows table _ (checkRecord handoff) (recordRows jsonValid table handoff) s with
        hafter | ⟨⟨raised, hraised⟩, -⟩
      · exact (congrArg (loadHandoff · handoff.id) hafter).trans hload
      · rw [hraised] at hguarded
        cases hguarded
  | transition table handoffId expected next payloadHash code =>
      have hguarded : (guarded (validateTransition expected next)
          (transitionRows handoffId expected next payloadHash code) (s.rows table)).1 =
            .ok (some recorded) := onTable_fst.symm.trans h
      rcases @onTable_rows table _ (validateTransition expected next)
        (transitionRows handoffId expected next payloadHash code) s with
          hafter | ⟨⟨raised, hraised⟩, -⟩
      · have hload : ((HandoffCall.transition table handoffId expected next payloadHash code).run
            jsonValid s).2.load table handoffId = loadHandoff (guarded
              (validateTransition expected next)
              (transitionRows handoffId expected next payloadHash code) (s.rows table)).2
                handoffId := congrArg (loadHandoff · handoffId) hafter
        show Stores.load _ table handoffId = some recorded ∧ recorded.state = next ∧
          validateTransition expected next = .ok () ∧
            recorded.evidence.payloadHash = payloadHash ∧ next.Leads recorded.state
        rw [hload]
        cases hvalid : validateTransition expected next with
        | error raised =>
            rw [hvalid] at hguarded
            cases hguarded
        | ok u =>
            rw [hvalid, guarded_ok] at hguarded
            rw [guarded_ok]
            rcases transitionRows_cases handoffId expected next payloadHash code (s.rows table)
              with ⟨code', hrun⟩ | hrun |
                ⟨current, hcurrent, hhash, ⟨hstate, hrun⟩ |
                  ⟨-, updated, hevidence, hstate, hrun⟩⟩ <;> rw [hrun] at hguarded ⊢ <;>
              cases hguarded
            · exact ⟨hcurrent, hstate, rfl, hhash, hstate ▸ .refl⟩
            · have hid : recorded.id = current.id := congrArg HandoffEvidence.handoffId hevidence
              have hkey := hid.trans (Table.lookup_key hcurrent)
              refine ⟨?_, hstate, rfl, hevidence ▸ hhash, hstate ▸ .refl⟩
              rw [← hkey] at hcurrent ⊢
              exact Table.lookup_overwrite_self hcurrent
      · rw [hraised] at hguarded
        cases hguarded
  | commitRunStartPeer binding handoff =>
      rw [run_commit] at h ⊢
      obtain ⟨row, hrow, heq⟩ := except_map_ok h
      cases heq
      rcases commitRunStartPeer_cases jsonValid binding handoff s.recovery with
        ⟨⟨raised, hraised⟩, -⟩ | ⟨runs', hbound, heq⟩
      · rw [hraised] at hrow
        cases hrow
      · obtain ⟨hfst, hcurrent⟩ := Prod.mk.inj heq
        rw [hfst] at hrow
        obtain ⟨hcheck, hevidence, hsettled, hload⟩ := guarded_record_ok hrow
        refine ⟨?_, hsettled, hcheck, hevidence, ?_⟩
        · exact (congrArg (fun tables => loadHandoff tables.handoffs handoff.id) hcurrent).trans
            hload
        · exact (congrArg (fun tables =>
            Table.lookup RecoveryRunBinding.runId tables.runs binding.runId) hcurrent).trans
              hbound.lookup

theorem fits_run (hunique : ∀ table, Table.KeysUnique CrossStoreHandoff.id (s.rows table))
    {row : StoredHandoff} (hload : s.load call.table call.handoffId = some row)
    (hfits : call.Fits s.runs row) (other : HandoffCall) :
    ∃ row', (other.run jsonValid s).2.load call.table call.handoffId = some row' ∧
      row'.evidence = row.evidence ∧ call.Fits (other.run jsonValid s).2.runs row' := by
  have hstep := run_step jsonValid other s call.table
  obtain ⟨row', hrow', hevidence, hstate⟩ :=
    hstep.edge (hunique _) row (Table.lookup_mem hload)
  have hkey : row.id = call.handoffId := Table.lookup_key hload
  have hid : row'.id = call.handoffId :=
    (congrArg HandoffEvidence.handoffId hevidence :).trans hkey
  refine ⟨row', loadHandoff_of_mem (hstep.unique (hunique _)) hrow' hid, hevidence, ?_⟩
  cases call with
  | record table handoff => exact ⟨hfits.1, hevidence.trans hfits.2⟩
  | transition table handoffId expected next payloadHash code =>
      refine ⟨hfits.1, hevidence ▸ hfits.2.1, ?_⟩
      rcases hstate with rfl | hedge
      · exact hfits.2.2
      · exact hfits.2.2.tail hedge
  | commitRunStartPeer binding handoff =>
      exact ⟨hfits.1, hevidence.trans hfits.2.1, run_lookup jsonValid other s hfits.2.2⟩

theorem unique_run (hunique : ∀ table, Table.KeysUnique CrossStoreHandoff.id (s.rows table))
    (other : HandoffCall) (table : HandoffTable) :
    Table.KeysUnique CrossStoreHandoff.id ((other.run jsonValid s).2.rows table) :=
  (run_step jsonValid other s table).unique (hunique table)

theorem unique_runAll (later : List HandoffCall) {s : Stores}
    (hunique : ∀ table, Table.KeysUnique CrossStoreHandoff.id (s.rows table))
    (table : HandoffTable) :
    Table.KeysUnique CrossStoreHandoff.id ((runAll jsonValid later s).rows table) := by
  induction later generalizing s with
  | nil => exact hunique table
  | cons other later ih => exact ih (unique_run hunique other)

theorem fits_runAll (later : List HandoffCall) {s : Stores}
    (hunique : ∀ table, Table.KeysUnique CrossStoreHandoff.id (s.rows table))
    {row : StoredHandoff} (hload : s.load call.table call.handoffId = some row)
    (hfits : call.Fits s.runs row) :
    ∃ row', (runAll jsonValid later s).load call.table call.handoffId = some row' ∧
      row'.evidence = row.evidence ∧ call.Fits (runAll jsonValid later s).runs row' := by
  induction later generalizing s row with
  | nil => exact ⟨row, hload, rfl, hfits⟩
  | cons other later ih =>
      obtain ⟨middle, hmiddle, hevidence, hfits'⟩ :=
        @fits_run jsonValid _ _ hunique _ hload hfits other
      obtain ⟨last, hlast, hevidence', hfits''⟩ := ih (unique_run hunique other) hmiddle hfits'
      exact ⟨last, hlast, hevidence'.trans hevidence, hfits''⟩

theorem record_again {table : HandoffTable} {handoff row : StoredHandoff}
    (hcheck : checkRecord handoff = .ok ()) (hevidence : row.evidence = handoff.evidence)
    {rows : List StoredHandoff} (hload : loadHandoff rows handoff.id = some row) :
    ((row.state = handoff.state ∨ row.state ∈ terminalHandoffStates) →
      guarded (checkRecord handoff) (recordRows jsonValid table handoff) rows = (.ok row, rows)) ∧
    (¬(row.state = handoff.state ∨ row.state ∈ terminalHandoffStates) →
      guarded (checkRecord handoff) (recordRows jsonValid table handoff) rows =
        (.error (.sqlite "HANDOFF_STATE_CONFLICT"), rows)) := by
  rw [hcheck, guarded_ok, recordRows_again hcheck hload hevidence]
  exact ⟨fun h => by rw [if_pos h], fun h => by rw [if_neg h]⟩

variable {check : Except HandoffRaised Unit}

theorem onTable_of_guarded {α : Type} {table : HandoffTable}
    {p : Procedure (List StoredHandoff) HandoffRaised α} {result : Except HandoffRaised α}
    (hcaught : ∀ raised, (p (s.rows table)).1 = .error raised → caught raised = true)
    (h : guarded check p (s.rows table) = (result, s.rows table)) :
    (s.onTable table fun _ rowsIn => method rowsIn check p) = (result, s) :=
  Prod.ext (onTable_fst.trans (congrArg Prod.fst h))
    (onTable_unchanged hcaught (congrArg Prod.snd h))

variable {handoff : StoredHandoff}

theorem commit_of_guarded {result : Except HandoffRaised StoredHandoff}
    (hlookup : Table.lookup RecoveryRunBinding.runId s.runs binding.runId = some binding)
    (hcaught : ∀ raised, result = .error raised → caught raised = true)
    (h : guarded (checkRecord handoff) (recordRows jsonValid .recovery handoff)
      (s.rows .recovery) = (result, s.rows .recovery)) :
    (HandoffCall.commitRunStartPeer binding handoff).run jsonValid s = (result.map some, s) := by
  have hbind : bindRun binding s.recovery.current.runs = (.ok (), s.recovery.current.runs) := by
    unfold bindRun
    rw [show Table.lookup RecoveryRunBinding.runId s.recovery.current.runs binding.runId =
      some binding from hlookup]
    simp
  have hfirst : Procedure.onState RecoveryTables.runs (fun tables runs => { tables with runs })
      (bindRun binding) s.recovery.current = (.ok (), s.recovery.current) := by
    simp only [Procedure.onState, hbind]
  have hrows : commitRows jsonValid binding handoff s.recovery.current =
      (result, s.recovery.current) := by
    refine (Procedure.bind_ok hfirst).trans ?_
    exact Prod.ext (congrArg Prod.fst h :)
      (congrArg (fun rows => { s.recovery.current with handoffs := rows }) (congrArg Prod.snd h) :)
  rw [run_commit]
  refine Prod.ext ?_ ?_
  · exact congrArg (Except.map some) (Session.immediate_fst.trans (congrArg Prod.fst hrows))
  · refine congrArg (fun recovery => { s with recovery }) (Session.immediate_unchanged ?_ ?_)
    · intro raised hraised
      exact hcaught raised ((congrArg Prod.fst hrows).symm.trans hraised)
    · exact congrArg Prod.snd hrows

theorem run_again {row : StoredHandoff} (hload : s.load call.table call.handoffId = some row)
    (hfits : call.Fits s.runs row) :
    (call.Holds row → call.run jsonValid s = (.ok (some row), s)) ∧
      (¬call.Holds row → call.run jsonValid s = (call.superseded, s)) := by
  cases call with
  | record table handoff =>
      have hagain := @record_again jsonValid table _ _ hfits.1 hfits.2 _ hload
      have hcaught : ∀ raised, (recordRows jsonValid table handoff (s.rows table)).1 =
          .error raised → caught raised = true := fun _ => recordRows_caught
      rw [run_record]
      refine ⟨fun h => ?_, fun h => ?_⟩
      · have heq := onTable_of_guarded hcaught (hagain.1 h)
        exact Prod.ext (congrArg (fun result => result.1.map some) heq :) (congrArg Prod.snd heq :)
      · have heq := onTable_of_guarded hcaught (hagain.2 h)
        exact Prod.ext (congrArg (fun result => result.1.map some) heq :) (congrArg Prod.snd heq :)
  | transition table handoffId expected next payloadHash code =>
      obtain ⟨hvalid, hhash, hleads⟩ := hfits
      have hcaught : ∀ raised, (transitionRows handoffId expected next payloadHash code
          (s.rows table)).1 = .error raised → caught raised = true :=
        fun _ => transitionRows_caught
      have hrows : loadHandoff (s.rows table) handoffId = some row := hload
      refine ⟨fun h => onTable_of_guarded hcaught ?_, fun h => onTable_of_guarded hcaught ?_⟩
      · rw [hvalid, guarded_ok, transitionRows, hrows]
        have hnext : row.state = next := h
        simp [hhash, hnext]
      · have hnext : row.state ≠ next := h
        have hlater : next.rank < row.state.rank := hleads.rank_lt.resolve_left hnext
        have hbefore : expected.rank < next.rank := by
          have hallowed := validateTransition_ok hvalid
          revert hallowed
          cases expected <;> cases next <;> decide
        have hexpected : row.state ≠ expected := by
          rintro rfl
          omega
        rw [hvalid, guarded_ok, transitionRows, hrows]
        simp [hhash, hnext, hexpected, superseded]
  | commitRunStartPeer binding handoff =>
      have hagain := @record_again jsonValid .recovery _ _ hfits.1 hfits.2.1 _ hload
      refine ⟨fun h => ?_, fun h => ?_⟩
      · exact commit_of_guarded hfits.2.2 (fun _ hraised => by cases hraised) (hagain.1 h)
      · refine commit_of_guarded hfits.2.2 (fun _ hraised => ?_) (hagain.2 h)
        cases hraised
        rfl

variable {raised : HandoffRaised}

theorem guarded_record_error {table : HandoffTable} {rows : List StoredHandoff}
    (h : (guarded (checkRecord handoff) (recordRows jsonValid table handoff) rows).1 =
      .error raised) :
    (guarded (checkRecord handoff) (recordRows jsonValid table handoff) rows).2 = rows := by
  cases hcheck : checkRecord handoff with
  | error code => rfl
  | ok u =>
      rw [hcheck, guarded_ok] at h
      rw [guarded_ok]
      rcases recordRows_cases jsonValid table handoff rows with
        ⟨code, hrun⟩ | ⟨existing, -, -, -, hrun⟩ | ⟨-, hrun⟩
      · rw [hrun]
      · rw [hrun] at h
        cases h
      · rw [hrun] at h
        cases h

theorem run_refused (h : ∀ recorded, (call.run jsonValid s).1 ≠ .ok (some recorded))
    (hcommit : ∀ binding handoff, call ≠ .commitRunStartPeer binding handoff) :
    (call.run jsonValid s).2 = s := by
  cases call with
  | record table handoff =>
      rw [run_record] at h ⊢
      refine onTable_unchanged (fun _ => recordRows_caught) ?_
      cases hresult : (guarded (checkRecord handoff) (recordRows jsonValid table handoff)
          (s.rows table)).1 with
      | error raised => exact guarded_record_error hresult
      | ok recorded =>
          refine absurd ?_ (h recorded)
          exact (congrArg (Except.map some) (onTable_fst.trans hresult) :)
  | transition table handoffId expected next payloadHash code =>
      refine onTable_unchanged (fun _ => transitionRows_caught) ?_
      have hresult := fun recorded => fun heq => h recorded (onTable_fst.trans heq)
      cases hvalid : validateTransition expected next with
      | error raised => rfl
      | ok u =>
          rw [hvalid] at hresult
          rw [guarded_ok]
          rcases transitionRows_cases handoffId expected next payloadHash code (s.rows table) with
            ⟨code', hrun⟩ | hrun | ⟨current, -, -, ⟨-, hrun⟩ | ⟨-, updated, -, -, hrun⟩⟩
          · rw [hrun]
          · rw [hrun]
          · rw [hrun]
          · exact absurd (congrArg Prod.fst hrun) (hresult updated)
  | commitRunStartPeer binding handoff => exact absurd rfl (hcommit binding handoff)

theorem commit_refused (hidle : s.recovery.saved = none)
    (hdecodes : (decodeHandoffPayload handoff.evidence).isOk = true)
    (h : (HandoffStore.commitRunStartPeer jsonValid binding handoff s.recovery).1 =
      .error raised) :
    (HandoffStore.commitRunStartPeer jsonValid binding handoff s.recovery).2 = s.recovery := by
  have hrows : (commitRows jsonValid binding handoff s.recovery.current).1 = .error raised :=
    Session.immediate_fst.symm.trans h
  refine Session.immediate_caught hidle hrows ?_
  rcases commitRows_cases jsonValid binding handoff s.recovery.current with
    ⟨code, hrun⟩ | ⟨runs', -, hrun⟩
  · rw [hrun] at hrows
    cases hrows
    rfl
  · rw [hrun] at hrows
    cases hcheck : checkRecord handoff with
    | error code =>
        rw [hcheck] at hrows
        cases hrows
        unfold checkRecord at hcheck
        cases hpayload : decodeHandoffPayload handoff.evidence with
        | error code =>
            rw [hpayload] at hdecodes
            cases hdecodes
        | ok payload =>
            rw [hpayload] at hcheck
            dsimp only at hcheck
            split at hcheck
            · cases hcheck
              rfl
            · cases hcheck
    | ok u =>
        rw [hcheck] at hrows
        exact recordRows_caught hrows

theorem run_conflict (h : call.Conflicts s) :
    ∃ raised, (call.run jsonValid s).1 = .error raised := by
  have hrecord : ∀ {table handoff}, (∃ row, s.load table handoff.id = some row ∧
      row.evidence ≠ handoff.evidence) → ∃ raised, (guarded (checkRecord handoff)
        (recordRows jsonValid table handoff) (s.rows table)).1 = .error raised := by
    rintro table handoff ⟨row, hload, hevidence⟩
    cases hcheck : checkRecord handoff with
    | error raised => exact ⟨raised, rfl⟩
    | ok u =>
        refine ⟨.sqlite "HANDOFF_IDEMPOTENCY_CONFLICT", ?_⟩
        rw [guarded_ok, recordRows_conflict hload hevidence]
  cases call with
  | record table handoff =>
      obtain ⟨raised, hraised⟩ := hrecord h
      rw [run_record]
      exact ⟨raised, (congrArg (Except.map some) (onTable_fst.trans hraised) :)⟩
  | transition table handoffId expected next payloadHash code =>
      obtain ⟨row, hload, hhash⟩ := h
      cases hvalid : validateTransition expected next with
      | error raised => exact ⟨raised, onTable_fst.trans (by rw [hvalid]; rfl)⟩
      | ok u =>
          refine ⟨.sqlite "HANDOFF_PAYLOAD_HASH_CONFLICT", onTable_fst.trans ?_⟩
          rw [hvalid, guarded_ok, transitionRows,
            show loadHandoff (s.rows table) handoffId = some row from hload]
          simp [hhash]
  | commitRunStartPeer binding handoff =>
      rw [run_commit]
      rcases commitRunStartPeer_cases jsonValid binding handoff s.recovery with
        ⟨⟨raised, hraised⟩, -⟩ | ⟨runs', hbound, heq⟩
      · exact ⟨raised, (congrArg (Except.map some) hraised :)⟩
      · rcases h with hevidence | ⟨stored, hstored, hne⟩
        · obtain ⟨raised, hraised⟩ := hrecord hevidence
          refine ⟨raised, ?_⟩
          have hfst := (congrArg Prod.fst heq).trans hraised
          exact (congrArg (Except.map some) hfst :)
        · cases hbound with
          | found hfound => exact absurd (Option.some.inj (hstored.symm.trans hfound)) hne
          | inserted hnone _ => exact absurd (hstored.symm.trans hnone) (by simp)

def StoredStart (rows : List StoredHandoff) (handoffId : String) : Prop :=
  ∃ evidence ∈ rows.map CrossStoreHandoff.evidence,
    evidence.handoffId = handoffId ∧ evidence.handoffType = "RUN_START"

structure Linked (s : Stores) : Prop where
  idle : s.recovery.saved = none
  unique : ∀ table, Table.KeysUnique CrossStoreHandoff.id (s.rows table)
  bound : ∀ handoffId, (∃ binding ∈ s.runs, binding.startHandoffId = handoffId) ↔
    StoredStart (s.rows .recovery) handoffId

theorem linked_empty : Linked Stores.empty where
  idle := rfl
  unique table := by cases table <;> exact List.nodup_nil
  bound handoffId := by
    refine iff_of_false ?_ ?_
    · rintro ⟨binding, hbinding, -⟩
      cases hbinding
    · rintro ⟨evidence, hevidence, -⟩
      cases hevidence

theorem map_evidence_transitionRows {handoffId payloadHash : String}
    {expected next : HandoffState} {code : Option String} {rows : List StoredHandoff}
    (hunique : Table.KeysUnique CrossStoreHandoff.id rows) :
    (transitionRows handoffId expected next payloadHash code rows).2.map
      CrossStoreHandoff.evidence = rows.map CrossStoreHandoff.evidence := by
  rcases transitionRows_cases handoffId expected next payloadHash code rows with
    ⟨code', hrun⟩ | hrun |
      ⟨current, hcurrent, -, ⟨-, hrun⟩ | ⟨-, updated, hevidence, -, hrun⟩⟩ <;> rw [hrun]
  rw [Table.overwrite, List.map_map]
  refine List.map_congr_left fun row hrow => ?_
  have hid : updated.id = current.id := congrArg HandoffEvidence.handoffId hevidence
  by_cases hkey : row.id = updated.id
  · obtain rfl := Table.key_injOn hunique hrow (Table.lookup_mem hcurrent) (hkey.trans hid)
    simp [hkey, hevidence]
  · simp [hkey]

theorem storedStart_of_load {rows : List StoredHandoff} {handoffId : String} {row : StoredHandoff}
    (hload : loadHandoff rows handoffId = some row)
    (htype : row.evidence.handoffType = "RUN_START") : StoredStart rows handoffId := by
  have hid : row.id = handoffId := Table.lookup_key hload
  exact ⟨row.evidence, List.mem_map_of_mem (Table.lookup_mem hload), hid, htype⟩

theorem not_storedStart_of_load {rows : List StoredHandoff} {handoffId : String}
    (hload : loadHandoff rows handoffId = none) : ¬StoredStart rows handoffId := by
  rintro ⟨evidence, hevidence, hid, -⟩
  obtain ⟨row, hrow, rfl⟩ := List.mem_map.mp hevidence
  exact Table.lookup_none_iff.mp hload row hrow hid

theorem storedStart_insert {rows : List StoredHandoff} {handoffId : String} :
    StoredStart (Table.insert rows handoff) handoffId ↔
      StoredStart rows handoffId ∨
        handoff.id = handoffId ∧ handoff.evidence.handoffType = "RUN_START" := by
  simp only [StoredStart, Table.insert, List.map_append, List.map_cons, List.map_nil,
    List.mem_append, List.mem_singleton, or_and_right, exists_or, exists_eq_left]
  rfl

theorem Linked.of_onTable {α : Type} {table : HandoffTable}
    {p : Procedure (List StoredHandoff) HandoffRaised α} (h : Linked s)
    (hcaught : ∀ raised, (p (s.rows table)).1 = .error raised → caught raised = true)
    (hstep : ∀ other, RowsStep (s.rows other)
      ((s.onTable table fun _ rowsIn => method rowsIn check p).2.rows other))
    (hstarts : table = .recovery → ∀ handoffId,
      StoredStart (guarded check p (s.rows table)).2 handoffId ↔
        StoredStart (s.rows table) handoffId) :
    Linked (s.onTable table fun _ rowsIn => method rowsIn check p).2 where
  idle := onTable_idle h.idle hcaught
  unique other := (hstep other).unique (h.unique other)
  bound handoffId := by
    rw [onTable_runs, h.bound]
    by_cases htable : HandoffTable.recovery = table
    · subst htable
      rcases @onTable_rows .recovery _ check p s with
        hafter | ⟨-, hsame⟩
      · rw [hafter]
        exact (hstarts rfl handoffId).symm
      · rw [hsame]
    · rw [onTable_other htable]

theorem Linked.run (h : Linked s) (hcall : call.Disciplined) :
    Linked (call.run jsonValid s).2 := by
  cases call with
  | record table handoff =>
      rw [run_record]
      refine h.of_onTable (fun _ => recordRows_caught)
        (onTable_step fun _ => recordRows_step handoff _) fun htable handoffId => ?_
      subst htable
      cases checkRecord handoff with
      | error raised => rfl
      | ok u =>
          rw [guarded_ok]
          rcases recordRows_cases jsonValid .recovery handoff (s.rows .recovery) with
            ⟨code, hrun⟩ | ⟨existing, -, -, -, hrun⟩ | ⟨-, hrun⟩
          · rw [hrun]
          · rw [hrun]
          · rw [hrun, storedStart_insert]
            exact or_iff_left fun hnew => hcall rfl hnew.2
  | transition table handoffId expected next payloadHash code =>
      refine h.of_onTable (fun _ => transitionRows_caught)
        (onTable_step fun hvalid => transitionRows_step hvalid handoffId payloadHash code _)
        fun htable handoffId => ?_
      cases validateTransition expected next with
      | error raised => rfl
      | ok u => rw [guarded_ok, StoredStart, map_evidence_transitionRows (h.unique table),
          StoredStart]
  | commitRunStartPeer binding handoff =>
      obtain ⟨htype, hstart, hdecodes⟩ := hcall
      have hunique := fun table =>
        (run_step jsonValid (.commitRunStartPeer binding handoff) s table).unique (h.unique table)
      rw [run_commit] at hunique ⊢
      cases hresult : (HandoffStore.commitRunStartPeer jsonValid binding handoff s.recovery).1 with
      | error raised =>
          rw [commit_refused h.idle hdecodes hresult]
          exact h
      | ok recorded =>
          rcases commitRunStartPeer_cases jsonValid binding handoff s.recovery with
            ⟨⟨raised, hraised⟩, -⟩ | ⟨runs', hbound, heq⟩
          · rw [hresult] at hraised
            cases hraised
          obtain ⟨hfst, hcurrent⟩ := Prod.mk.inj heq
          refine ⟨?_, hunique, fun handoffId => ?_⟩
          · refine Session.immediate_idle h.idle fun raised hraised => ?_
            have hcommit : (HandoffStore.commitRunStartPeer jsonValid binding handoff
                s.recovery).1 = .error raised := Session.immediate_fst.trans hraised
            rw [hresult] at hcommit
            cases hcommit
          -- both tables change in one transaction, or neither does
          · have hrows := congrArg RecoveryTables.handoffs hcurrent
            have hruns := congrArg RecoveryTables.runs hcurrent
            show (∃ row ∈ (HandoffStore.commitRunStartPeer jsonValid binding handoff
                s.recovery).2.current.runs, row.startHandoffId = handoffId) ↔
              StoredStart (HandoffStore.commitRunStartPeer jsonValid binding handoff
                s.recovery).2.current.handoffs handoffId
            rw [hrows, hruns]
            rw [hresult] at hfst
            obtain ⟨hcheck, hevidence, -, -⟩ := guarded_record_ok hfst.symm
            dsimp only
            rw [hcheck, guarded_ok]
            have hlinked := h.bound handoff.id
            rcases recordRows_cases jsonValid .recovery handoff s.recovery.current.handoffs with
              ⟨code, hrun⟩ | ⟨existing, hload, hsame, -, hrun⟩ | ⟨hload, hrun⟩
            · rw [hcheck, guarded_ok, hrun] at hfst
              cases hfst
            · -- the handoff is stored, so its binding is
              rw [hrun]
              cases hbound with
              | found hfound => exact h.bound handoffId
              | inserted hnone hfresh =>
                  obtain ⟨row, hrow, hid⟩ :=
                    hlinked.mpr (storedStart_of_load hload (hsame ▸ htype))
                  exact absurd (hid.trans hstart.symm) (hfresh row hrow)
            · -- the handoff is new, so its binding is
              rw [hrun, storedStart_insert]
              cases hbound with
              | found hfound =>
                  refine absurd (hlinked.mp ⟨binding, Table.lookup_mem hfound, hstart⟩) ?_
                  exact not_storedStart_of_load hload
              | inserted hnone hfresh =>
                  have hold := h.bound handoffId
                  simp only [Table.insert, List.mem_append, List.mem_singleton, or_and_right,
                    exists_or, exists_eq_left, hstart, htype, and_true]
                  exact or_congr_left hold

theorem Linked.runAll (calls : List HandoffCall) {s : Stores} (h : Linked s)
    (hcalls : ∀ call ∈ calls, call.Disciplined) :
    Linked (HandoffCall.runAll jsonValid calls s) := by
  induction calls generalizing s with
  | nil => exact h
  | cons call calls ih =>
      exact ih (h.run (hcalls call List.mem_cons_self))
        fun other hother => hcalls other (List.mem_cons_of_mem _ hother)

/-- What `call` does to the stores that `earlier` left. -/
structure Governed (jsonValid : String → Bool) (earlier : List HandoffCall)
    (call : HandoffCall) (s : Stores) : Prop where
  /-- Each row stays with its evidence, in its state or in one that its state leads to. -/
  moves : ∀ table, ∀ row ∈ s.rows table, ∃ row' ∈ (call.run jsonValid s).2.rows table,
    row'.evidence = row.evidence ∧ (row' = row ∨ row'.state ∈ allowedTransition row.state)
  /-- A closed handoff is left as it is. -/
  absorbing : ∀ table, ∀ row ∈ s.rows table, row.state ∈ terminalHandoffStates →
    row ∈ (call.run jsonValid s).2.rows table
  /-- The row that a call returns is stored, and the call, repeated after any other calls,
  changes nothing: it returns the row while its handoff is as the call left it or is closed, and
  is refused once the handoff has moved on. -/
  replayed : ∀ recorded, (call.run jsonValid s).1 = .ok (some recorded) →
    (call.run jsonValid s).2.load call.table call.handoffId = some recorded ∧
      call.Holds recorded ∧ ∀ later, ∃ row,
        (runAll jsonValid later (call.run jsonValid s).2).load call.table call.handoffId =
          some row ∧ row.evidence = recorded.evidence ∧
        (call.Holds row →
          call.run jsonValid (runAll jsonValid later (call.run jsonValid s).2) =
            (.ok (some row), runAll jsonValid later (call.run jsonValid s).2)) ∧
        (¬call.Holds row →
          call.run jsonValid (runAll jsonValid later (call.run jsonValid s).2) =
            (call.superseded, runAll jsonValid later (call.run jsonValid s).2))
  /-- Other evidence than what is stored is rejected. -/
  conflicting : call.Conflicts s → ∃ raised, (call.run jsonValid s).1 = .error raised
  /-- A call that returns no row changes nothing. -/
  refused : (∀ call' ∈ earlier ++ [call], call'.Disciplined) ∨
      (∀ binding handoff, call ≠ .commitRunStartPeer binding handoff) →
    (∀ recorded, (call.run jsonValid s).1 ≠ .ok (some recorded)) → (call.run jsonValid s).2 = s
  /-- The recovery store has a binding exactly for the run-start handoffs that it has. -/
  linked : (∀ call' ∈ earlier ++ [call], call'.Disciplined) → ∀ handoffId,
    (∃ binding ∈ (call.run jsonValid s).2.runs, binding.startHandoffId = handoffId) ↔
      ∃ row ∈ (call.run jsonValid s).2.rows .recovery, row.id = handoffId ∧
        row.evidence.handoffType = "RUN_START"

/-- Any call after any other calls. -/
theorem handoff_calls_governed (jsonValid : String → Bool) (earlier : List HandoffCall)
    (call : HandoffCall) :
    Governed jsonValid earlier call (runAll jsonValid earlier Stores.empty) := by
  have hunique := @unique_runAll jsonValid earlier _ linked_empty.unique
  have hmoves := fun table => (run_step jsonValid call
    (HandoffCall.runAll jsonValid earlier Stores.empty) table).edge (hunique table)
  have hlinked : (∀ call' ∈ earlier ++ [call], call'.Disciplined) →
      Linked (HandoffCall.runAll jsonValid earlier Stores.empty) ∧ call.Disciplined := by
    intro hall
    exact ⟨linked_empty.runAll earlier fun other hother =>
      hall other (List.mem_append_left _ hother), hall call (by simp)⟩
  refine ⟨hmoves, ?_, ?_, run_conflict, ?_, ?_⟩
  · intro table row hrow hterminal
    obtain ⟨row', hrow', -, hsame | hedge⟩ := hmoves table row hrow
    · exact hsame ▸ hrow'
    · revert hterminal hedge
      cases row.state <;> simp [terminalHandoffStates, allowedTransition]
  · intro recorded hresult
    obtain ⟨hload, hholds, hfits⟩ := run_applied hresult
    refine ⟨hload, hholds, fun later => ?_⟩
    obtain ⟨row, hrow, hevidence, hfits'⟩ :=
      @fits_runAll jsonValid _ later _ (unique_run hunique call) _ hload hfits
    obtain ⟨hagain, hmoved⟩ := @run_again jsonValid _ _ _ hrow hfits'
    exact ⟨row, hrow, hevidence, hagain, hmoved⟩
  · intro hcalls hresult
    cases call with
    | record table handoff => exact run_refused hresult (by simp)
    | transition table handoffId expected next payloadHash code =>
        exact run_refused hresult (by simp)
    | commitRunStartPeer binding handoff =>
        rcases hcalls with hall | hnot
        · obtain ⟨hstores, -, -, hdecodes⟩ := hlinked hall
          rw [run_commit] at hresult ⊢
          cases hcommit : (HandoffStore.commitRunStartPeer jsonValid binding handoff
              (HandoffCall.runAll jsonValid earlier Stores.empty).recovery).1 with
          | error raised => rw [commit_refused hstores.idle hdecodes hcommit]
          | ok recorded =>
              exact absurd (congrArg (Except.map some) hcommit) (hresult recorded)
        · exact absurd rfl (hnot binding handoff)
  · intro hall handoffId
    obtain ⟨hstores, hcall⟩ := hlinked hall
    rw [(hstores.run hcall).bound handoffId]
    constructor
    · rintro ⟨evidence, hevidence, hid, htype⟩
      obtain ⟨row, hrow, rfl⟩ := List.mem_map.mp hevidence
      exact ⟨row, hrow, hid, htype⟩
    · rintro ⟨row, hrow, hid, htype⟩
      exact ⟨row.evidence, List.mem_map_of_mem hrow, hid, htype⟩

def emptyHandoff : StoredHandoff where
  evidence :=
    { handoffId := "run-start:run-1"
      handoffType := "RUN_START"
      direction := "CATALOG_TO_RECOVERY"
      payloadSchemaVersion := 1
      entityType := "RUN"
      entityId := "run-1"
      payload := "\x7b\x7d"
      payloadHash := "44136fa355b3678a1146ad16f7e8649e94fb4fc21fe77e8310c060f61caaff8a" }
  state := .prepared
  expectedPeerState := .peerCommitted
  attemptCount := 0
  lastErrorCode := none

def startBinding : RecoveryRunBinding :=
  ⟨"run-1", "job-1", "revision-1", "plan-1", String.ofList (List.replicate 64 '0'),
    "run-start:run-1"⟩

def recordedStart : Stores := runAll (fun _ => true) [record .catalog emptyHandoff] Stores.empty

def committedStart : Stores :=
  ((commitRunStartPeer startBinding emptyHandoff).run (fun _ => true) recordedStart).2

/-- The peer of a recorded run start is committed, with its binding, and again. -/
theorem handoff_calls_governed_start :
    committedStart.load .recovery "run-start:run-1" = some emptyHandoff ∧
      (∃ binding ∈ committedStart.runs, binding.startHandoffId = "run-start:run-1") ∧
      (commitRunStartPeer startBinding emptyHandoff).run (fun _ => true) committedStart =
        (.ok (some emptyHandoff), committedStart) := by
  have hgoverned := handoff_calls_governed (fun _ => true) [record .catalog emptyHandoff]
    (commitRunStartPeer startBinding emptyHandoff)
  have hreturned : ((commitRunStartPeer startBinding emptyHandoff).run (fun _ => true)
      recordedStart).1 = .ok (some emptyHandoff) := by decide +kernel
  have hdisciplined : ∀ call ∈ [record .catalog emptyHandoff] ++
      [commitRunStartPeer startBinding emptyHandoff], call.Disciplined := by
    intro call hcall
    rcases List.mem_cons.mp hcall with rfl | hcall
    · exact nofun
    · obtain rfl := List.mem_singleton.mp hcall
      exact ⟨rfl, rfl, by decide +kernel⟩
  obtain ⟨hload, hholds, hlater⟩ := hgoverned.replayed emptyHandoff hreturned
  obtain ⟨row, hrow, -, hagain, -⟩ := hlater []
  obtain rfl : emptyHandoff = row := Option.some.inj (hload.symm.trans hrow)
  refine ⟨hload, ?_, hagain hholds⟩
  refine (hgoverned.linked hdisciplined "run-start:run-1").mpr ⟨emptyHandoff, ?_, rfl, rfl⟩
  exact List.mem_of_find?_eq_some hload

/-- A record is refused when it is repeated after the source was confirmed. -/
theorem replay_after_confirmation :
    ((record .catalog emptyHandoff).run (fun _ => true) Stores.empty).1 =
        .ok (some emptyHandoff) ∧
      ((record .catalog emptyHandoff).run (fun _ => true) (runAll (fun _ => true)
        [record .catalog emptyHandoff,
          transition .catalog "run-start:run-1" .prepared .sourceConfirmed
            emptyHandoff.evidence.payloadHash none] Stores.empty)).1 =
        .error (.sqlite "HANDOFF_STATE_CONFLICT") := by
  decide +kernel

end HandoffCall

end MediaSync.Runs.HandoffStore
