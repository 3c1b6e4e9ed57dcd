import MediaSync.Jobs.Serving

/-! Archive and delete commands look at runs and pending requests when they are dispatched. -/
namespace MediaSync.Jobs
open Runs Transition Triggers JobCatalog

section
variable (host : SchedulerContext)

/-- No archive or delete command ends the job of an unfinished analysis, no command is repeated
after its rejection, and none after it deleted an archived job. -/
def Undisturbed (s : JobEngine) : JobStep → Prop
  | .lifecycle name command identity _ =>
    (Table.lookup JobReceipt.key s.desk.receipts command.idempotencyKey = none →
      s.desk.catalog.ends host name command = true →
      ∀ request, s.worker.unfinished = some request → request.jobId ≠ command.jobId) ∧
    ∀ receipt, Table.lookup JobReceipt.key s.desk.receipts command.idempotencyKey = some receipt →
      receipt.commandName = name.value → receipt.identity = identity →
      receipt.state ≠ .rejected ∧ ∀ deletion row, name = .delete →
        Table.lookup JobDeletion.commandIdempotencyKey s.desk.catalog.deletions
          command.idempotencyKey = some deletion →
        s.desk.catalog.loadJobRow deletion.jobId = some row → row.archivedUtc = none
  | _ => True

structure Receipted (d : Desk) : Prop where
  settled : ∀ key receipt name, Table.lookup JobReceipt.key d.receipts key = some receipt →
    receipt.commandName = JobLifecycleCommandName.value name →
    receipt.state = .rejected ∨ receipt.state = .succeeded ∧
      (d.catalog.storedOutcome name key).isSome = true
  stored : ∀ key name, (d.catalog.storedOutcome name key).isSome = true →
    ∃ receipt, Table.lookup JobReceipt.key d.receipts key = some receipt ∧
      receipt.state ≠ .received ∧ lifecycleCommandNames.contains receipt.commandName = true

def Answered (d : Desk) (a : LifecycleAnswer) : Prop :=
  ∃ receipt, Table.lookup JobReceipt.key d.receipts a.idempotencyKey = some receipt ∧
    receipt.commandName = a.name.value ∧ receipt.identity = a.identity ∧
    (receipt.state = .rejected ∨ receipt.state = .succeeded ∧ ∃ outcome,
      a.answer = .accepted outcome ∧ d.catalog.Retained a.name a.idempotencyKey outcome)

/-- What undisturbed runs keep. -/
structure Orderly (s : JobEngine) : Prop where
  quiet : s.desk.catalog.Quiet
  working : ∀ request, s.worker.unfinished = some request → HoldsRunning s.desk.catalog request
  concluded : s.worker.Concluded
  receipted : Receipted s.desk
  answered : ∀ a ∈ s.answers, Answered s.desk a

variable {host} {s s' : JobEngine} {d d' : Desk} {name : JobLifecycleCommandName}
  {command : ChangeJobLifecycleCommand} {identity : EnvelopeIdentity} {occurredUtc : String}
  {answer : Answer JobLifecycleTransitionOutcome}

theorem value_mem (name : JobLifecycleCommandName) :
    lifecycleCommandNames.contains name.value = true := by
  cases name <;> decide

theorem value_injective {a b : JobLifecycleCommandName} (h : a.value = b.value) : a = b := by
  revert h
  cases a <;> cases b <;> decide

theorem Receipted.serve (h : Receipted d) (hserves : Serves d d') : Receipted d' := by
  have hsame :
      ∀ name key, d'.catalog.storedOutcome name key = d.catalog.storedOutcome name key := by
    intro name key
    cases name <;>
      simp [storedOutcome, loadEventOutcome, loadDeletionOutcome, hserves.events, hserves.deletions]
  refine ⟨fun key receipt name hload hname => ?_, fun key name hstored => ?_⟩
  · rw [hsame]
    rcases hserves.others key receipt hload (hname ▸ value_mem name) with hrejected | hold
    · exact .inl hrejected
    · exact h.settled key receipt name hold hname
  · rw [hsame] at hstored
    obtain ⟨receipt, hload, hsettled, hname⟩ := h.stored key name hstored
    exact ⟨receipt, hserves.receipts key receipt hload hsettled hname, hsettled, hname⟩

theorem Answered.keep {a : LifecycleAnswer} (h : Answered d a) (hgrows : d.catalog.Grows d'.catalog)
    (hreceipts : KeepsReceipts d.receipts d'.receipts) : Answered d' a := by
  obtain ⟨receipt, hload, hname, hidentity, hstate⟩ := h
  have hsettled : receipt.state ≠ .received := by
    rcases hstate with h | ⟨h, -⟩ <;> rw [h] <;> decide
  refine ⟨receipt, hreceipts _ _ hload hsettled (hname ▸ value_mem a.name), hname, hidentity, ?_⟩
  refine hstate.imp id fun ⟨hsucceeded, outcome, hanswer, hretained⟩ => ?_
  exact ⟨hsucceeded, outcome, hanswer, hretained.grows hgrows⟩

structure Advances (s s' : JobEngine) : Prop where
  orderly : Orderly s'
  starts : ∀ run ∈ s'.desk.catalog.runs, s.desk.catalog.loadStartedRun run.runId = none →
    s.desk.catalog.isActive run.jobId = true

theorem Orderly.stay (h : Orderly s) : Advances s s :=
  ⟨h, fun _ hrun hnew => (no_start hrun hnew).elim⟩

theorem Orderly.serve (h : Orderly s) (hserves : Serves s.desk s'.desk)
    (hworking : ∀ request, s'.worker.unfinished = some request →
      HoldsRunning s'.desk.catalog request)
    (hconcluded : s'.worker.Concluded) (hanswers : s'.answers = s.answers) : Advances s s' := by
  refine ⟨⟨hserves.quiet, hworking, hconcluded, h.receipted.serve hserves, fun a ha => ?_⟩,
    hserves.starts⟩
  rw [hanswers] at ha
  exact (h.answered a ha).keep hserves.grows hserves.receipts

inductive Dispatched (host : SchedulerContext) (d : Desk) (name : JobLifecycleCommandName)
    (command : ChangeJobLifecycleCommand) (identity : EnvelopeIdentity) (occurredUtc : String) :
    Desk → Answer JobLifecycleTransitionOutcome → Prop
  | conflict {receipt} :
      Table.lookup JobReceipt.key d.receipts command.idempotencyKey = some receipt →
      Dispatched host d name command identity occurredUtc d .conflict
  | repeated {receipt stored} :
      Table.lookup JobReceipt.key d.receipts command.idempotencyKey = some receipt →
      receipt.state = .succeeded →
      d.catalog.storedOutcome name command.idempotencyKey = some stored →
      Dispatched host d name command identity occurredUtc d
        (.accepted { stored with idempotentReplay := true })
  | refused {receipts receipt outcome reason} :
      Table.lookup JobReceipt.key d.receipts command.idempotencyKey = none →
      recordReceived d.receipts (receiptFromEnvelope command.requestId command.idempotencyKey
        name.value identity) = .ok (receipts, receipt) →
      Dispatched host d name command identity occurredUtc
        (d.settle receipts (receipt.rejected reason)) (.rejected reason outcome)
  | applied {receipts receipt catalog outcome record requests} :
      Table.lookup JobReceipt.key d.receipts command.idempotencyKey = none →
      recordReceived d.receipts (receiptFromEnvelope command.requestId command.idempotencyKey
        name.value identity) = .ok (receipts, receipt) →
      Change d.catalog command occurredUtc name catalog outcome →
      (name ≠ .reactivate → d.catalog.ends host name command = true) →
      d.catalog.storedOutcome name command.idempotencyKey = none →
      outcome.record = some record →
      Desk.requestsAfter name command record occurredUtc catalog.requests = .ok requests →
      Dispatched host d name command identity occurredUtc
        (({ d with catalog := { catalog with requests } } : Desk).settle receipts
          (receipt.succeeded name.resultEntityType command.requestId)) (.accepted outcome)

variable {receipt : JobReceipt}

theorem Receipted.apply (h : Receipted d) {receipts : List JobReceipt}
    (hfresh : Table.lookup JobReceipt.key d.receipts command.idempotencyKey = none)
    (hrecord : recordReceived d.receipts (receiptFromEnvelope command.requestId
      command.idempotencyKey name.value identity) = .ok (receipts, receipt))
    (hd : d.applyJobLifecycle host name command occurredUtc receipts receipt = .ok (d', answer)) :
    Dispatched host d name command identity occurredUtc d' answer := by
  have hnone : d.catalog.storedOutcome name command.idempotencyKey = none := by
    refine Option.eq_none_iff_forall_ne_some.mpr fun stored hstored => ?_
    obtain ⟨found, hload, -, -⟩ := h.stored _ name (by rw [hstored]; rfl)
    rw [hfresh] at hload
    cases hload
  obtain ⟨⟨catalog, outcome⟩, hchange, hd⟩ := Text.except_bind_ok hd
  simp only at hd
  rcases changeLifecycle_cases hchange with ⟨rfl, hsame⟩ | ⟨-, happlied⟩
  · -- the command was refused: its outcome is not stored
    have hrefused : outcome.applied = false := by
      rcases hsame with ⟨hnot, -⟩ | ⟨stored, hstored, -⟩
      · exact hnot
      · rw [hnone] at hstored
        cases hstored
    rw [hrefused] at hd
    obtain ⟨rfl, rfl⟩ := Prod.mk.inj (Except.ok.inj hd)
    exact .refused hfresh hrecord
  · obtain ⟨hyes, -, record, hrecordSome, -⟩ := happlied.answer
    rw [hyes, hrecordSome] at hd
    obtain ⟨requests, hrequests, hd⟩ := Text.except_bind_ok hd
    obtain ⟨rfl, rfl⟩ := Prod.mk.inj (Except.ok.inj hd)
    refine .applied hfresh hrecord happlied (fun hname => ?_) hnone hrecordSome hrequests
    refine Bool.of_not_eq_false fun hends => ?_
    have hkept := changeLifecycle_of_not_ends hends hname hchange
    obtain ⟨stored, hstored, -⟩ := happlied.retained hnone
    rw [hkept, hnone] at hstored
    cases hstored

theorem Receipted.dispatch (h : Receipted d)
    (hrepeat : ∀ receipt,
      Table.lookup JobReceipt.key d.receipts command.idempotencyKey = some receipt →
      receipt.commandName = name.value → receipt.identity = identity → receipt.state ≠ .rejected)
    (hd : d.dispatchJobLifecycle host name command identity occurredUtc = .ok (d', answer)) :
    Dispatched host d name command identity occurredUtc d' answer := by
  unfold Desk.dispatchJobLifecycle at hd
  split at hd
  · rename_i hconflict
    obtain ⟨rfl, rfl⟩ := Prod.mk.inj (Except.ok.inj hd)
    obtain ⟨receipt, hload⟩ := recordReceived_conflict hconflict
    exact .conflict hload
  · rename_i receipts receipt hrecord
    rcases recordReceived_cases hrecord with ⟨-, hload, hname, hidentity⟩ | ⟨hfresh, -, rfl⟩
    · -- the receipt of an earlier delivery: it has succeeded, and its outcome is stored
      have hload : Table.lookup JobReceipt.key d.receipts command.idempotencyKey = some receipt :=
        hload
      obtain ⟨hsucceeded, hstored⟩ :=
        (h.settled _ receipt name hload hname).resolve_left (hrepeat receipt hload hname hidentity)
      obtain ⟨stored, hstored⟩ := Option.isSome_iff_exists.mp hstored
      rw [if_pos (by rw [hsucceeded]; decide)] at hd
      unfold Desk.replayJobLifecycle at hd
      rw [changeLifecycle_stored hstored] at hd
      simp only [bind, Except.bind, hsucceeded] at hd
      obtain ⟨rfl, rfl⟩ := Prod.mk.inj (Except.ok.inj hd)
      exact .repeated hload hsucceeded hstored
    · rw [if_neg (by simp [receiptFromEnvelope])] at hd
      exact h.apply hfresh hrecord hd

theorem Dispatched.receipted (hd : Dispatched host d name command identity occurredUtc d' answer)
    (h : Receipted d) : Receipted d' := by
  cases hd with
  | conflict => exact h
  | «repeated» => exact h
  | @refused receipts receipt outcome reason hfresh hrecord =>
    have hkey : (receipt.rejected reason).key = command.idempotencyKey := recordReceived_key hrecord
    refine ⟨fun key found other hload hother => ?_, fun key other hstored => ?_⟩
    · by_cases hat : command.idempotencyKey = key
      · subst hat
        have hself := lookup_settled hrecord hkey
        obtain rfl := Option.some.inj (hself.symm.trans hload)
        exact .inl rfl
      · have hold : Table.lookup JobReceipt.key d.receipts key = some found := by
          rw [← lookup_settled_other hrecord hkey hat]
          exact hload
        exact h.settled key found other hold hother
    · obtain ⟨found, hload, hsettled, hname⟩ := h.stored key other hstored
      refine ⟨found, ?_, hsettled, hname⟩
      refine KeepsReceipts.settle hrecord ?_ hkey key found hload hsettled hname
      rw [received_of_fresh hfresh hrecord]
      rfl
  | @applied receipts receipt catalog outcome record requests hfresh hrecord hchange hends hnone
      hrecordSome hrequests =>
    set settled := receipt.succeeded name.resultEntityType command.requestId with hsettledDef
    have hkey : settled.key = command.idempotencyKey := recordReceived_key hrecord
    have hself := lookup_settled hrecord hkey
    have hnameSelf : settled.commandName = name.value := recordReceived_name hrecord
    obtain ⟨stored, hstoredSelf, -⟩ := hchange.retained hnone
    refine ⟨fun key found other hload hother => ?_, fun key other hstored => ?_⟩
    · by_cases hat : command.idempotencyKey = key
      · subst hat
        obtain rfl := Option.some.inj (hself.symm.trans hload)
        obtain rfl := value_injective (hnameSelf.symm.trans hother)
        exact .inr ⟨rfl, hstoredSelf ▸ rfl⟩
      · have hold : Table.lookup JobReceipt.key d.receipts key = some found := by
          rw [← lookup_settled_other hrecord hkey hat]
          exact hload
        refine (h.settled key found other hold hother).imp id fun ⟨hsucceeded, hout⟩ => ?_
        have hsame : catalog.storedOutcome other key = d.catalog.storedOutcome other key :=
          hchange.storedOutcome_other hat other
        exact ⟨hsucceeded, hsame ▸ hout⟩
    · by_cases hat : command.idempotencyKey = key
      · subst hat
        exact ⟨settled, hself, by simp [hsettledDef, JobReceipt.succeeded],
          hnameSelf ▸ value_mem name⟩
      · have hsame : catalog.storedOutcome other key = d.catalog.storedOutcome other key :=
          hchange.storedOutcome_other hat other
        obtain ⟨found, hload, hsettled, hname⟩ := h.stored key other (hsame ▸ hstored)
        refine ⟨found, ?_, hsettled, hname⟩
        refine KeepsReceipts.settle hrecord ?_ hkey key found hload hsettled hname
        rw [received_of_fresh hfresh hrecord]
        rfl

theorem Orderly.lifecycle (h : Orderly s)
    (hok : Undisturbed host s (.lifecycle name command identity occurredUtc)) :
    Advances s (s.lifecycle host name command identity occurredUtc) := by
  unfold JobEngine.lifecycle
  split
  · exact h.stay
  · rename_i desk answer hdispatch
    have hd := h.receipted.dispatch (fun receipt hload hname hidentity =>
      (hok.2 receipt hload hname hidentity).1) hdispatch
    have hreceipted := hd.receipted h.receipted
    cases hd with
    | conflict hload =>
      refine ⟨⟨h.quiet, h.working, h.concluded, h.receipted, fun a ha => h.answered a ?_⟩,
        h.stay.starts⟩
      simpa [remember, hload] using ha
    | @«repeated» receipt stored hload hsucceeded hstored =>
      refine ⟨⟨h.quiet, h.working, h.concluded, h.receipted, fun a ha => h.answered a ?_⟩,
        h.stay.starts⟩
      simpa [remember, hload] using ha
    | @refused receipts receipt outcome reason hfresh hrecord =>
      have hkey : (receipt.rejected reason).key = command.idempotencyKey :=
        recordReceived_key hrecord
      have hkeeps : KeepsReceipts s.desk.receipts
          (Table.overwrite JobReceipt.key receipts (receipt.rejected reason)) := by
        refine KeepsReceipts.settle hrecord ?_ hkey
        rw [received_of_fresh hfresh hrecord]
        rfl
      refine ⟨⟨h.quiet, h.working, h.concluded, hreceipted, fun a ha => ?_⟩, h.stay.starts⟩
      simp only [remember, hfresh, Option.isSome_none, Bool.false_eq_true, if_false,
        List.mem_append, List.mem_singleton] at ha
      rcases ha with hold | rfl
      · exact (h.answered a hold).keep (Grows.of_same rfl rfl rfl) hkeeps
      · have hsame := received_of_fresh hfresh hrecord
        exact ⟨receipt.rejected reason, lookup_settled hrecord hkey, recordReceived_name hrecord,
          hsame ▸ rfl, .inl rfl⟩
    | @applied receipts receipt catalog outcome record requests hfresh hrecord hchange hends hnone
        hrecordSome hrequests =>
      set settled := receipt.succeeded name.resultEntityType command.requestId with hsettled
      have hkey : settled.key = command.idempotencyKey := recordReceived_key hrecord
      have hkeeps : KeepsReceipts s.desk.receipts
          (Table.overwrite JobReceipt.key receipts settled) := by
        refine KeepsReceipts.settle hrecord ?_ hkey
        rw [received_of_fresh hfresh hrecord]
        rfl
      have hgrown : Grows catalog { catalog with requests } := Grows.of_same rfl rfl rfl
      have hgrows : s.desk.catalog.Grows { catalog with requests } :=
        (Grows.change hchange).trans hgrown
      refine ⟨⟨h.quiet.afterCommand hchange hrecordSome hrequests, fun request hheld => ?_,
        h.concluded, hreceipted, fun a ha => ?_⟩, fun run hrun hnew => ?_⟩
      · exact (h.working request hheld).afterCommand hchange
          (fun hname => hok.1 hfresh (hends hname) request hheld) hrequests
      · simp only [remember, hfresh, Option.isSome_none, Bool.false_eq_true, if_false,
          List.mem_append, List.mem_singleton] at ha
        rcases ha with hold | rfl
        · exact (h.answered a hold).keep hgrows hkeeps
        · have hsame := received_of_fresh hfresh hrecord
          exact ⟨settled, lookup_settled hrecord hkey, recordReceived_name hrecord,
            by rw [hsettled, hsame]; rfl,
            .inr ⟨rfl, outcome, rfl, (hchange.retained hnone).grows hgrown⟩⟩
      · exact (no_start (hchange.effects.runs ▸ hrun) hnew).elim

theorem Orderly.saveJob {py : PathLibrary} {command : JobCommand} (h : Orderly s)
    (hstep : s.saveJob py host command = some s') : Advances s s' := by
  obtain ⟨c', hsaves, rfl⟩ : ∃ c', s.desk.catalog.Saves c' ∧
      s' = { s with desk := { s.desk with catalog := c' } } := by
    cases command with
    | create command draft ids =>
      exact ⟨_, saves_create command draft ids, (Option.some.inj hstep).symm⟩
    | edit command revisionId =>
      exact ⟨_, saves_edit command revisionId, (Option.some.inj hstep).symm⟩
    | lifecycle => cases hstep
    | elsewhere => cases hstep
  have hserves : Serves s.desk { s.desk with catalog := c' } :=
    Serves.of_catalog (h.quiet.of_same hsaves.runs hsaves.requests hsaves.active) hsaves.events
      hsaves.deletions hsaves.grows
      (fun run hrun hnew => (no_start (hsaves.runs ▸ hrun) hnew).elim) hsaves.active
  refine h.serve hserves (fun request hheld => ?_) h.concluded rfl
  obtain ⟨row, hload, hrunning, hjob⟩ := h.working request hheld
  exact ⟨row, hsaves.requests ▸ hload, hrunning, hjob⟩

theorem Orderly.atDesk {α : Type} {result : Except String (Desk × α)} (h : Orderly s)
    (hresult : ∀ d' a, result = .ok (d', a) → Serves s.desk d' ∧ KeepsRunning s.desk d') :
    Advances s (s.atDesk result) := by
  cases result with
  | error => exact h.stay
  | ok value =>
    obtain ⟨hserves, hkeeps⟩ := hresult value.1 value.2 rfl
    exact h.serve hserves (fun request hheld => hkeeps request (h.working request hheld))
      h.concluded rfl

theorem Orderly.otherReceipt (h : Orderly s) (hstep : s.otherReceipt receipt = some s') :
    Advances s s' := by
  unfold JobEngine.otherReceipt at hstep
  split at hstep
  · cases hstep
  · rename_i hother
    rw [Bool.not_eq_true] at hother
    split at hstep
    · rename_i hnone
      obtain rfl := Option.some.inj hstep
      refine h.serve ⟨h.quiet, rfl, rfl, Grows.of_same rfl rfl rfl, ?_, ?_,
        fun _ hrun hnew => (no_start hrun hnew).elim, fun _ hactive => hactive⟩ h.working
        h.concluded rfl
      · exact fun _ _ hload _ _ => Table.lookup_insert_of_some hload
      · intro key found hload hlifecycle
        by_cases hkey : receipt.key = key
        · subst hkey
          obtain rfl := Option.some.inj ((Table.lookup_insert_self hnone).symm.trans hload)
          rw [hother] at hlifecycle
          cases hlifecycle
        · exact .inr ((Table.lookup_insert_other hkey).symm.trans hload)
    · rename_i existing hexisting
      split at hstep
      · cases hstep
      · rename_i hnot
        rw [Bool.not_eq_true] at hnot
        obtain rfl := Option.some.inj hstep
        have hself : Table.lookup JobReceipt.key
            (Table.overwrite JobReceipt.key s.desk.receipts receipt) receipt.key = some receipt :=
          Table.lookup_overwrite_self hexisting
        refine h.serve ⟨h.quiet, rfl, rfl, Grows.of_same rfl rfl rfl, ?_, ?_,
          fun _ hrun hnew => (no_start hrun hnew).elim, fun _ hactive => hactive⟩ h.working
          h.concluded rfl
        · intro key found hload _ hlifecycle
          have hne : receipt.key ≠ key := by
            rintro rfl
            obtain rfl := Option.some.inj (hexisting.symm.trans hload)
            rw [hnot] at hlifecycle
            cases hlifecycle
          exact (Table.lookup_overwrite_other hne).trans hload
        · intro key found hload hlifecycle
          by_cases hkey : receipt.key = key
          · subst hkey
            obtain rfl := Option.some.inj (hself.symm.trans hload)
            rw [hother] at hlifecycle
            cases hlifecycle
          · exact .inr ((Table.lookup_overwrite_other hkey).symm.trans hload)

theorem Orderly.claim {startedUtc : String} (h : Orderly s)
    (hstep : s.claim startedUtc = some s') : Advances s s' := by
  unfold JobEngine.claim at hstep
  split at hstep
  · split at hstep
    · obtain rfl := Option.some.inj hstep
      exact h.stay
    · rename_i requests request hclaim
      obtain rfl := Option.some.inj hstep
      obtain ⟨row, hrow, -, hactive, rfl, rfl⟩ := claimNextBackupAnalysis_cases hclaim
      refine h.serve (Serves.of_requests (h.quiet.overwrite fun _ => hactive)) ?_ trivial rfl
      intro held hheld
      obtain rfl := Option.some.inj hheld
      have hload := Table.lookup_of_mem h.quiet.unique hrow
      exact ⟨_, Table.lookup_overwrite_self hload, rfl, rfl⟩
  · cases hstep

theorem completionOfActive_valid (request : BackupAnalysisRequest) (active : StartedRun) :
    (request.completionOfActive active).Valid := by
  unfold BackupAnalysisRequest.completionOfActive
  split
  · exact ⟨rfl, Int.le_refl 0, Int.le_refl 0, by simp⟩
  · exact ⟨rfl, Int.le_refl 0, Int.le_refl 0, by simp⟩

theorem Orderly.work {worker : Worker} (h : Orderly s)
    (hheld : ∀ request, worker.unfinished = some request → s.worker.unfinished = some request)
    (hconcluded : worker.Concluded) : Advances s { s with worker } :=
  h.serve (Serves.refl h.quiet) (fun request hrequest => h.working request (hheld request hrequest))
    hconcluded rfl

theorem Orderly.lookForActiveRun (h : Orderly s) (hstep : s.lookForActiveRun = some s') :
    Advances s s' := by
  unfold JobEngine.lookForActiveRun at hstep
  split at hstep
  · rename_i request hworker
    split at hstep
    · rename_i active _
      obtain rfl := Option.some.inj hstep
      exact h.work (fun held hheld => by rw [hworker]; exact hheld)
        (completionOfActive_valid request active)
    · obtain rfl := Option.some.inj hstep
      exact h.work (fun held hheld => by rw [hworker]; exact hheld) trivial
  · cases hstep

theorem Orderly.analyse {reports : Except String AnalysisReports} (h : Orderly s)
    (hstep : s.analyse reports = some s') : Advances s s' := by
  unfold JobEngine.analyse at hstep
  split at hstep
  · rename_i request error hworker
    obtain rfl := Option.some.inj hstep
    exact h.work (fun held hheld => by rw [hworker]; exact hheld) (failedCompletion_valid error)
  · rename_i request reports hworker
    split at hstep
    · obtain rfl := Option.some.inj hstep
      exact h.work (fun held hheld => by rw [hworker]; exact hheld) trivial
    · rename_i plan result _
      split at hstep
      · cases hstep
      · rename_i hjob
        obtain rfl := Option.some.inj hstep
        exact h.work (fun held hheld => by rw [hworker]; exact hheld) (not_not.mp hjob)
  · cases hstep

theorem Orderly.active_of_held (h : Orderly s) {request : BackupAnalysisRequest}
    (hheld : s.worker.unfinished = some request) :
    s.desk.catalog.isActive request.jobId = true := by
  obtain ⟨row, hload, hrunning, hjob⟩ := h.working request hheld
  rw [← hjob]
  exact h.quiet.requests row (Table.lookup_mem hload) (by rw [hrunning]; rfl)

theorem Orderly.safeStart {runId : String} {recorded advanced : Except String Unit} (h : Orderly s)
    (hstep : s.safeStart runId recorded advanced = some s') :
    Advances s s' := by
  unfold JobEngine.safeStart at hstep
  split at hstep
  · rename_i request plan result hworker
    have hplan : plan.jobId = request.jobId := by
      have hconcluded := h.concluded
      rw [hworker] at hconcluded
      exact hconcluded
    have hheld : s.worker.unfinished = some request := by rw [hworker]; rfl
    have hactive := h.active_of_held hheld
    split at hstep
    · rename_i error _
      obtain rfl := Option.some.inj hstep
      exact h.work (fun held hheld => by rw [hworker]; exact hheld) (failedCompletion_valid error)
    · rename_i catalog outcome hprepared
      obtain ⟨hserves, hkeeps⟩ := serves_prepareRun h.quiet hprepared fun found hfound _ => by
        obtain rfl := Option.some.inj hfound
        rw [hplan]
        exact hactive
      have hkept := hkeeps request (h.working request hheld)
      simp only at hstep
      split at hstep
      · rename_i error _
        obtain rfl := Option.some.inj hstep
        refine h.serve hserves (fun held hmine => ?_) (failedCompletion_valid error) rfl
        obtain rfl := Option.some.inj hmine
        exact hkept
      · obtain rfl := Option.some.inj hstep
        refine h.serve hserves (fun held hmine => ?_) trivial rfl
        obtain rfl := Option.some.inj hmine
        exact hkept
  · cases hstep

theorem Orderly.complete {completedUtc : String} (h : Orderly s)
    (hstep : s.complete completedUtc = some s') : Advances s s' := by
  unfold JobEngine.complete at hstep
  split at hstep
  · rename_i request completion guarded hworker
    split at hstep
    · rename_i requests completed hcomplete
      obtain rfl := Option.some.inj hstep
      obtain ⟨row, -, -, hterminal, hstate, -, -, -, rfl⟩ := completeBackupAnalysis_cases hcomplete
      refine h.serve (Serves.of_requests (h.quiet.overwrite fun hpending => ?_)) ?_ trivial rfl
      · rw [hstate, hterminal] at hpending
        cases hpending
      · exact fun held hheld => by cases hheld
    · rename_i error _
      split at hstep
      · obtain rfl := Option.some.inj hstep
        exact h.work (fun held hheld => by rw [hworker]; exact hheld) (failedCompletion_valid error)
      · obtain rfl := Option.some.inj hstep
        exact h.work (fun held hheld => by cases hheld) trivial
  · cases hstep

theorem Orderly.triggered (h : Orderly s) (triggers : TriggerTables) :
    Advances s { s with desk := { s.desk with triggers } } :=
  h.serve (Serves.of_triggers h.quiet) h.working h.concluded rfl

theorem Orderly.report (h : Orderly s) (hstep : s.report = some s') : Advances s s' := by
  unfold JobEngine.report at hstep
  split at hstep
  · split at hstep
    · rename_i triggers _
      obtain rfl := Option.some.inj hstep
      exact h.serve (Serves.of_triggers h.quiet) (fun _ hheld => by cases hheld) trivial rfl
    · obtain rfl := Option.some.inj hstep
      exact h.work (fun _ hheld => by cases hheld) trivial
  · cases hstep

theorem Orderly.moveRun {runId : String} {state : RunState} {targets : List RunTargetState}
    {warningCount errorCount : Int} (h : Orderly s)
    (hstep : s.moveRun runId state targets warningCount errorCount = some s') :
    Advances s s' := by
  unfold JobEngine.moveRun at hstep
  split at hstep
  · cases hstep
  · rename_i run hrun
    split at hstep
    · cases hstep
    · rename_i hbusy
      rw [Bool.not_eq_true, Bool.not_eq_false'] at hbusy
      obtain rfl := Option.some.inj hstep
      have hactive := h.quiet.runs run (Table.lookup_mem hrun) hbusy
      have hid : run.runId = runId := Table.lookup_key hrun
      set moved : StartedRun := { run with state, targets, warningCount, errorCount }
      set runs := Table.overwrite StartedRun.runId s.desk.catalog.runs moved
      have hmoved : ∀ other ∈ runs, other.jobId = run.jobId ∨ other ∈ s.desk.catalog.runs := by
        intro other hother
        rcases Table.mem_overwrite hother with rfl | ⟨hold, -⟩
        · exact .inl rfl
        · exact .inr hold
      have hquiet : ({ s.desk.catalog with runs } : JobCatalog).Quiet := by
        refine ⟨h.quiet.unique, fun other hother hblocking => ?_, h.quiet.requests⟩
        rcases hmoved other hother with hjob | hold
        · exact hjob ▸ hactive
        · exact h.quiet.runs other hold hblocking
      have hserves : Serves s.desk
          { s.desk with catalog := { s.desk.catalog with runs } } := by
        refine Serves.of_catalog hquiet rfl rfl (Grows.of_same rfl rfl rfl)
          (fun other hother hnew => ?_) fun _ hbefore => hbefore
        rcases hmoved other hother with hjob | hold
        · exact hjob ▸ hactive
        · exact (no_start hold hnew).elim
      exact h.serve hserves h.working h.concluded rfl

theorem Orderly.reconcileRun {occurrenceId : String} (h : Orderly s)
    (hstep : s.reconcileRun occurrenceId = some s') : Advances s s' := by
  unfold JobEngine.reconcileRun at hstep
  split at hstep
  · cases hstep
  · split at hstep
    · rename_i triggers _
      obtain rfl := Option.some.inj hstep
      exact h.triggered triggers
    · obtain rfl := Option.some.inj hstep
      exact h.stay

theorem Orderly.compact {deduplicationKey : String} (h : Orderly s)
    (hstep : s.compact deduplicationKey = some s') : Advances s s' := by
  unfold JobEngine.compact at hstep
  split at hstep
  · rename_i triggers _
    obtain rfl := Option.some.inj hstep
    exact h.triggered triggers
  · obtain rfl := Option.some.inj hstep
    exact h.stay

theorem Orderly.restart (h : Orderly s) : Advances s s.restart :=
  h.serve (Serves.of_requests h.quiet.requeue) (fun _ hheld => by cases hheld) trivial rfl

theorem Orderly.saveSchedules {schedules : List ScheduleDefinition} (h : Orderly s)
    (hstep : s.saveSchedules schedules = some s') : Advances s s' := by
  unfold JobEngine.saveSchedules at hstep
  split at hstep
  · cases hstep
  obtain rfl := Option.some.inj hstep
  refine h.serve ?_ h.working h.concluded rfl
  exact Serves.of_catalog (h.quiet.of_same rfl rfl fun _ hactive => hactive) rfl rfl
    (Grows.of_same rfl rfl rfl) (fun _ hrun hnew => (no_start hrun hnew).elim)
    fun _ hactive => hactive

variable {py : PathLibrary} {installationId : String} {l : JobStep}

theorem Orderly.step (h : Orderly s) (hok : Undisturbed host s l)
    (hstep : s.step py host installationId l = some s') : Advances s s' := by
  cases l with
  | lifecycle name command identity occurredUtc =>
    obtain rfl := Option.some.inj hstep
    exact h.lifecycle hok
  | gateClosed requestId idempotencyKey commandName identity =>
    obtain rfl := Option.some.inj hstep
    refine h.serve (serves_gateClosed h.quiet _) (fun request hheld => ?_) h.concluded rfl
    have hsame : ∀ incoming, (s.desk.recordGateClosed incoming).catalog = s.desk.catalog := by
      intro incoming
      unfold Desk.recordGateClosed
      split
      · rfl
      · split <;> rfl
    show HoldsRunning (s.desk.recordGateClosed _).catalog request
    rw [hsame]
    exact h.working request hheld
  | otherReceipt receipt => exact h.otherReceipt hstep
  | saveJob command => exact h.saveJob hstep
  | saveSchedules schedules => exact h.saveSchedules hstep
  | checkBackup command identity requestedUtc =>
    obtain rfl := Option.some.inj hstep
    exact h.atDesk fun d' answer hd => serves_checkBackup h.quiet hd
  | trigger command identity =>
    obtain rfl := Option.some.inj hstep
    exact h.atDesk fun d' answer hd => serves_trigger h.quiet hd
  | startRun requestId idempotencyKey planId planChecksum identity plan runId recorded =>
    obtain rfl := Option.some.inj hstep
    exact h.atDesk fun d' answer hd => serves_startRun h.quiet hd
  | claim startedUtc => exact h.claim hstep
  | lookForActiveRun => exact h.lookForActiveRun hstep
  | analyse reports => exact h.analyse hstep
  | safeStart runId recorded advanced => exact h.safeStart hstep
  | complete completedUtc => exact h.complete hstep
  | report => exact h.report hstep
  | moveRun runId state targets warningCount errorCount => exact h.moveRun hstep
  | reconcileRun occurrenceId => exact h.reconcileRun hstep
  | compact deduplicationKey => exact h.compact hstep
  | restart =>
    obtain rfl := Option.some.inj hstep
    exact h.restart

end

def Answer.unmarked : Answer JobLifecycleTransitionOutcome → Answer JobLifecycleTransitionOutcome
  | .conflict => .conflict
  | .accepted outcome => .accepted outcome.unmarked
  | .rejected reason outcome => .rejected reason outcome.unmarked

/-- What the engine promises about archived and deleted jobs, for the steps that meet `ok`: runs are
started for active jobs only, commands end idle jobs only, and a repeated command is answered as
before. -/
structure LifecycleSafe (py : PathLibrary) (host : SchedulerContext) (installationId : String)
    (ok : JobEngine → JobStep → Prop) (s : JobEngine) : Prop where
  starts : ∀ l s', ok s l → s.step py host installationId l = some s' →
    ∀ run ∈ s'.desk.catalog.runs, s.desk.catalog.loadStartedRun run.runId = none →
      s.desk.catalog.isActive run.jobId = true
  idle : ∀ name command identity occurredUtc d' outcome,
    ok s (.lifecycle name command identity occurredUtc) →
    s.desk.dispatchJobLifecycle host name command identity occurredUtc =
      .ok (d', .accepted outcome) → outcome.idempotentReplay = false →
    ∀ run ∈ s.desk.catalog.runs, run.jobId = command.jobId → run.isBlocking = false
  definite : ∀ request ∈ s.desk.catalog.requests,
    s.desk.catalog.isActive request.jobId = false → request.state.isTerminal = true
  completes : ∀ request completion completedUtc, s.worker = .completing request completion false →
    (completeBackupAnalysis s.desk.catalog.requests request.requestId completion
      completedUtc).isOk = true
  repeats : ∀ a ∈ s.answers, ∀ command occurredUtc, command.idempotencyKey = a.idempotencyKey →
    ok s (.lifecycle a.name command a.identity occurredUtc) →
    ∃ answer, s.desk.dispatchJobLifecycle host a.name command a.identity occurredUtc =
      .ok (s.desk, answer) ∧ answer.unmarked = a.answer.unmarked

section
variable {py : PathLibrary} {host : SchedulerContext} {installationId : String} {s : JobEngine}

variable {name : JobLifecycleCommandName} {command : ChangeJobLifecycleCommand}
  {occurredUtc : String}

theorem Orderly.idle (h : Orderly s) {identity : EnvelopeIdentity} {d' : Desk}
    {outcome : JobLifecycleTransitionOutcome}
    (hok : Undisturbed host s (.lifecycle name command identity occurredUtc))
    (hd : s.desk.dispatchJobLifecycle host name command identity occurredUtc =
      .ok (d', .accepted outcome)) (hfirst : outcome.idempotentReplay = false) :
    ∀ run ∈ s.desk.catalog.runs, run.jobId = command.jobId → run.isBlocking = false := by
  have hcases := h.receipted.dispatch (fun receipt hload hname hidentity =>
    (hok.2 receipt hload hname hidentity).1) hd
  intro run hrun hjob
  cases hcases with
  | «repeated» => cases hfirst
  | applied _ _ hchange =>
    have heffects := hchange.effects
    by_cases hname : name = .reactivate
    · -- an archived job has no unfinished run
      have hinactive := (heffects.reactivation hname).1
      refine Bool.eq_false_iff.mpr fun hbusy => ?_
      have hactive := h.quiet.runs run hrun hbusy
      rw [hjob, hinactive] at hactive
      cases hactive
    · exact blockingRunState_none (heffects.ending hname).1 run hrun hjob

theorem storedOutcome_shape {c : JobCatalog} {key : String} {stored : JobLifecycleTransitionOutcome}
    (h : c.storedOutcome name key = some stored) :
    stored.unmarked = stored ∧ (name = .delete → stored.withArchivedUtc none = stored) := by
  cases name with
  | archive =>
    obtain ⟨event, -, rfl⟩ := Option.map_eq_some_iff.mp h
    exact ⟨rfl, fun hname => by cases hname⟩
  | reactivate =>
    obtain ⟨event, -, rfl⟩ := Option.map_eq_some_iff.mp h
    exact ⟨rfl, fun hname => by cases hname⟩
  | delete =>
    obtain ⟨deletion, -, rfl⟩ := Option.map_eq_some_iff.mp h
    exact ⟨rfl, fun _ => rfl⟩

theorem Orderly.repeats (h : Orderly s) {a : LifecycleAnswer} (ha : a ∈ s.answers)
    (hkey : command.idempotencyKey = a.idempotencyKey)
    (hok : Undisturbed host s (.lifecycle a.name command a.identity occurredUtc)) :
    ∃ answer, s.desk.dispatchJobLifecycle host a.name command a.identity occurredUtc =
      .ok (s.desk, answer) ∧ answer.unmarked = a.answer.unmarked := by
  obtain ⟨receipt, hload, hname, hidentity, hstate⟩ := h.answered a ha
  rw [← hkey] at hload hstate
  obtain ⟨hnot, harchived⟩ := hok.2 receipt hload hname hidentity
  obtain ⟨hsucceeded, outcome, hanswer, stored, hstored, hout⟩ := hstate.resolve_left hnot
  have hfound : recordReceived s.desk.receipts (receiptFromEnvelope command.requestId
      command.idempotencyKey a.name.value a.identity) = .ok (s.desk.receipts, receipt) :=
    recordReceived_found hload hname hidentity
  refine ⟨.accepted { stored with idempotentReplay := true }, ?_, ?_⟩
  · unfold Desk.dispatchJobLifecycle Desk.replayJobLifecycle
    simp only [hfound, hsucceeded, changeLifecycle_stored hstored]
    rfl
  · obtain ⟨hunmarked, hnone⟩ := storedOutcome_shape hstored
    have hsame : outcome.unmarked = stored := by
      rcases hout with hsame | ⟨hdelete, deletion, row, hdeletion, -, hrow, hsame⟩
      · exact hsame
      · rw [hsame, harchived deletion row hdelete hdeletion hrow]
        exact hnone hdelete
    rw [hanswer]
    show Answer.accepted _ = Answer.accepted _
    rw [hsame]
    exact congrArg Answer.accepted hunmarked

/-- In every undisturbed run the engine keeps its promise about archived and deleted jobs. -/
theorem jobLifecycle_safe
    (h : (jobEngine py host installationId).ReachableWhen (Undisturbed host) s) :
    LifecycleSafe py host installationId (Undisturbed host) s := by
  -- the invariant of the engine, from which each promise is read
  have horderly : Orderly s := by
    refine h.invariant (P := Orderly) (fun s hinit => ?_) fun s l s' _ ih hok hstep => ?_
    · obtain rfl := hinit
      refine ⟨⟨List.nodup_nil, ?_, ?_⟩, (fun _ hheld => by cases hheld), trivial, ⟨?_, ?_⟩, ?_⟩
      · exact fun _ hrun => absurd hrun List.not_mem_nil
      · exact fun _ hrequest => absurd hrequest List.not_mem_nil
      · exact fun _ _ _ hload => by cases hload
      · exact fun _ name hstored => by cases name <;> cases hstored
      · exact fun _ ha => absurd ha List.not_mem_nil
    · exact (ih.step hok hstep).orderly
  exact {
    starts := fun l s' hok hstep => (horderly.step hok hstep).starts
    idle := fun _ _ _ _ _ _ hok hd hfirst => horderly.idle hok hd hfirst
    definite := fun request hrequest hinactive => by
      by_contra hpending
      rw [Bool.not_eq_true] at hpending
      rw [horderly.quiet.requests request hrequest hpending] at hinactive
      cases hinactive
    completes := fun request completion completedUtc hworker => by
      have hconcluded := horderly.concluded
      rw [hworker] at hconcluded
      obtain ⟨row, hload, hrunning, -⟩ := horderly.working request (by rw [hworker]; rfl)
      exact completeBackupAnalysis_running hconcluded hload hrunning
    repeats := fun a ha command occurredUtc hkey hok => horderly.repeats ha hkey hok }

end

def sampleIdentity (payloadHash : String) : EnvelopeIdentity where
  clientInstanceId := "client"
  principalFingerprint := "user"
  payloadHash := payloadHash
  protocolVersion := 1
  schemaVersion := 1

def samplePlan : StartablePlan where
  planId := "plan-photos"
  jobId := "job-photos"
  jobRevisionId := "revision-photos"
  planChecksum := "checksum"

def sampleReports : AnalysisReports where
  snapshot := some ⟨"SEALED", "revision-photos", "SNAPSHOT_SEALED", some "analysis"⟩
  hashEvidence := .ok ()
  plan := some ⟨"SEALED", "PLAN_SEALED", some "analysis", some "plan-photos", some "checksum", 1, 1⟩
  storedPlan := some samplePlan
  safeForAutomaticStart := true

def archiveStep (key : String) (version : Nat) : JobStep :=
  .lifecycle .archive ⟨key, key, "job-photos", "revision-photos", version⟩ (sampleIdentity key)
    "2026-08-01T00:00:00Z"

def archivedDuringAnalysis : List JobStep := [
  .saveJob (createSample "photos" "C:\\Photos" "D:\\Backup"),
  .checkBackup ⟨"check", "check", "job-photos", true⟩ (sampleIdentity "check")
    "2026-08-01T00:00:00Z",
  .claim "2026-08-01T00:00:00Z",
  .lookForActiveRun,
  .analyse (.ok sampleReports),
  archiveStep "archive" 1]

def emptyEngine : JobEngine := { desk := { catalog := {}, triggers := ⟨[], []⟩, receipts := [] } }

def sampleEngine : System JobEngine JobStep := jobEngine asciiPaths noTasks "installation"

def safeStartStep : JobStep := .safeStart "run-photos" (.ok ()) (.ok ())

def startsInactive (s : JobEngine) (l : JobStep) : Bool :=
  (sampleEngine.step s l).any fun s' => s'.desk.catalog.runs.any fun run =>
    (s.desk.catalog.loadStartedRun run.runId).isNone && !s.desk.catalog.isActive run.jobId

/-- The worker starts a run of the job that was archived under its analysis. -/
theorem archived_job_started : ¬ ∀ s, sampleEngine.Reachable s →
    LifecycleSafe asciiPaths noTasks "installation" (fun _ _ => True) s := by
  intro h
  have hrun : ((sampleEngine.replay emptyEngine archivedDuringAnalysis).any fun s =>
      startsInactive s safeStartStep) = true := by decide +kernel
  obtain ⟨s, hs, hstarts⟩ := (Option.any_eq_true _ _).mp hrun
  obtain ⟨s', hs', hany⟩ := (Option.any_eq_true _ _).mp hstarts
  obtain ⟨run, hrunMem, hnew⟩ := List.any_eq_true.mp hany
  simp only [Bool.and_eq_true, Option.isNone_iff_eq_none, Bool.not_eq_true'] at hnew
  have hreachable : sampleEngine.Reachable s :=
    System.Reachable.replay (.init rfl) archivedDuringAnalysis hs
  have hactive := (h s hreachable).starts safeStartStep s' trivial hs' run hrunMem hnew.1
  rw [hnew.2] at hactive
  cases hactive

/-- The analysis starts a run, and once that has ended the job is archived, twice with one key. -/
def archivedAfterRun : List JobStep := [
  .saveJob (createSample "photos" "C:\\Photos" "D:\\Backup"),
  .checkBackup ⟨"check", "check", "job-photos", true⟩ (sampleIdentity "check")
    "2026-08-01T00:00:00Z",
  .claim "2026-08-01T00:00:00Z",
  .lookForActiveRun,
  .analyse (.ok sampleReports),
  safeStartStep,
  .complete "2026-08-01T00:01:00Z",
  .report,
  .moveRun "run-photos" .completed [.succeeded] 0 0,
  archiveStep "archive" 1,
  archiveStep "archive" 1,
  archiveStep "again" 1]

/-- A test for `Undisturbed` on steps that delete nothing. -/
def disturbsNothing (s : JobEngine) : JobStep → Bool
  | .lifecycle name command _ _ =>
    name ≠ .delete && s.worker.unfinished.all (fun request => request.jobId ≠ command.jobId) &&
      (Table.lookup JobReceipt.key s.desk.receipts command.idempotencyKey).all fun receipt =>
        receipt.state ≠ .rejected
  | _ => true

theorem undisturbed_of_test {s : JobEngine} {l : JobStep} (h : disturbsNothing s l = true) :
    Undisturbed noTasks s l := by
  cases l with
  | lifecycle name command identity occurredUtc =>
    simp only [disturbsNothing, Bool.and_eq_true, decide_eq_true_eq, Option.all_eq_true] at h
    obtain ⟨⟨hname, hunfinished⟩, hreceipt⟩ := h
    exact ⟨fun _ _ request hrequest => hunfinished request hrequest, fun receipt hload _ _ =>
      ⟨hreceipt receipt hload, fun _ _ hdelete => absurd hdelete hname⟩⟩
  | _ => trivial

theorem jobLifecycle_safe_archived : ∃ s : JobEngine,
    s.desk.catalog.runs.map StartedRun.runId = ["run-photos"] ∧
    s.desk.receipts.map JobReceipt.key = ["check", "archive", "again"] ∧
    LifecycleSafe asciiPaths noTasks "installation" (Undisturbed noTasks) s := by
  have hrun : (sampleEngine.replayWhile disturbsNothing emptyEngine archivedAfterRun).any (fun s =>
      s.desk.catalog.runs.map StartedRun.runId = ["run-photos"] &&
        s.desk.receipts.map JobReceipt.key = ["check", "archive", "again"]) = true := by
    decide +kernel
  obtain ⟨s, hs, hrows⟩ := (Option.any_eq_true _ _).mp hrun
  rw [Bool.and_eq_true, decide_eq_true_eq, decide_eq_true_eq] at hrows
  exact ⟨s, hrows.1, hrows.2, jobLifecycle_safe (System.ReachableWhen.replayWhile
    (fun _ _ => undisturbed_of_test) (.init rfl) archivedAfterRun hs)⟩

end MediaSync.Jobs
