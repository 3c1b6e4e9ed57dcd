import MediaSync.Catalog.ExternalResources
import MediaSync.Foundation.Issuance
import MediaSync.Foundation.Transition

/-! The ledger under any interleaving of desired-state changes, claims, completions, blocks and
recoveries of claims. -/
namespace MediaSync.Catalog
open Issuance Text Transition

structure LedgerState where
  resources : List ExternalResourceRecord := []
  claims : List ExternalResourceRecord := []
  deriving DecidableEq

def ResourceCall.claims (call : ResourceCall) :
    Except String (Option ExternalResourceRecord) → List ExternalResourceRecord
  | .ok (some record) =>
    match call with
    | .claimNext .. => [record]
    | _ => []
  | .ok none | .error _ => []

def resourceLedger : System LedgerState ResourceCall where
  init s := s = {}
  step s call :=
    let next := call.perform s.resources
    some ⟨next.2, s.claims ++ call.claims next.1⟩

/-- A call that ends `claim` with the claim's own token. -/
inductive ClaimantCall (claim : ExternalResourceRecord) : ResourceCall → Prop
  | complete (token observedHash now : String) (htoken : claim.claimToken = some token) :
      ClaimantCall claim (.complete claim.key claim.desiredGeneration token observedHash now)
  | block (token errorCode : String) (htoken : claim.claimToken = some token) :
      ClaimantCall claim (.block claim.key token errorCode)
  | requeueExpired (owner token requeuedUtc : String)
      (howner : claim.claimOwnerInstanceId = some owner)
      (htoken : claim.claimToken = some token) :
      ClaimantCall claim
        (.requeueExpired claim.key owner claim.claimGeneration token requeuedUtc)

/-- Desired generations never fall, a resource in sync is observed as desired, and a claimant of
an older desired generation changes nothing. -/
structure NewestKept (s : LedgerState) : Prop where
  monotone : ∀ call s', resourceLedger.step s call = some s' → ∀ row ∈ s.resources,
    ∃ row' ∈ s'.resources, row'.key = row.key ∧ row.desiredGeneration ≤ row'.desiredGeneration
  observed : ∀ row ∈ s.resources, row.state = .inSync →
    row.observedGeneration = some row.desiredGeneration ∧ row.observedHash = some row.desiredHash
  outdated : ∀ claim ∈ s.claims, ∀ row ∈ s.resources, row.key = claim.key →
    claim.desiredGeneration < row.desiredGeneration → ∀ call, ClaimantCall claim call →
      ∃ code, call.perform s.resources = (.error code, s.resources)

def ResourceCall.claimsWith : ResourceCall → Option String
  | .claimNext _ _ token _ _ _ => some token
  | _ => none

def FreshToken (s : LedgerState) (call : ResourceCall) : Prop :=
  ∀ token, call.claimsWith = some token → ∀ claim ∈ s.claims, claim.claimToken ≠ some token

/-- What a change of a resource that is not a claim keeps. -/
structure RowKept (row row' : ExternalResourceRecord) : Prop where
  key : row'.key = row.key
  accepted : row'.accepted = true
  desired : row.desiredGeneration ≤ row'.desiredGeneration
  generation : row.claimGeneration ≤ row'.claimGeneration
  unclaimed : row'.state ≠ .claimed

/-- The rows are the same, or one is overwritten. -/
inductive Changed (t : List ExternalResourceRecord) : List ExternalResourceRecord → Prop
  | row (row row' : ExternalResourceRecord) (hmem : row ∈ t) (hkept : RowKept row row') :
      Changed t (Table.overwrite ExternalResourceRecord.key t row')

/-- The changes a call makes when it returns `answer`. -/
inductive ResourceEffect (t : List ExternalResourceRecord) :
    ResourceCall → Option ExternalResourceRecord → List ExternalResourceRecord → Prop
  | changed {call : ResourceCall} {answer : Option ExternalResourceRecord}
      {t' : List ExternalResourceRecord} (hclaims : call.claims (.ok answer) = [])
      (hchanged : Relation.ReflTransGen Changed t t') : ResourceEffect t call answer t'
  | inserted {call : ResourceCall} {answer : Option ExternalResourceRecord}
      (record : ExternalResourceRecord) (hclaims : call.claims (.ok answer) = [])
      (hfresh : loadResource t record.key = none) (haccepted : record.accepted = true)
      (hpending : record.state = .pending) :
      ResourceEffect t call answer (Table.insert t record)
  | claimed {type : ExternalResourceType} {owner token started now : String} {ttl : Int}
      (row : ExternalResourceRecord) (hmem : row ∈ t)
      (haccepted : (row.claimedBy owner token started ttl now).accepted = true) :
      ResourceEffect t (.claimNext type owner token started ttl now)
        (some (row.claimedBy owner token started ttl now))
        (Table.overwrite ExternalResourceRecord.key t
          (row.claimedBy owner token started ttl now))

variable {t t' : List ExternalResourceRecord} {key : ExternalResourceType × String}
  {record : ExternalResourceRecord}

theorem returnLoaded_ok (h : returnLoaded t key = .ok (record, t')) :
    t' = t ∧ loadResource t key = some record := by
  rw [returnLoaded] at h
  split at h
  · cases h
  · rename_i hloaded
    cases h
    exact ⟨rfl, hloaded⟩

variable {row : ExternalResourceRecord} {code : String}

theorem rowKept_requeued (haccepted : (row.requeued code).accepted = true) :
    RowKept row (row.requeued code) where
  key := rfl
  accepted := haccepted
  desired := le_refl row.desiredGeneration
  generation := by
    show row.claimGeneration ≤ row.claimGeneration + 1
    omega
  unclaimed := by
    intro hstate
    cases hstate

theorem rowKept_observed {hash now : String} (haccepted : (row.observed hash now).accepted = true) :
    RowKept row (row.observed hash now) where
  key := rfl
  accepted := haccepted
  desired := le_refl row.desiredGeneration
  generation := le_refl row.claimGeneration
  unclaimed := by
    intro hstate
    cases hstate

theorem rowKept_blockedBy (haccepted : (row.blockedBy code).accepted = true) :
    RowKept row (row.blockedBy code) where
  key := rfl
  accepted := haccepted
  desired := le_refl row.desiredGeneration
  generation := le_refl row.claimGeneration
  unclaimed := by
    intro hstate
    cases hstate

theorem rowKept_desired {generation : Int} {hash : String}
    (hnewer : row.desiredGeneration < generation)
    (haccepted : (row.desired generation hash).accepted = true) :
    RowKept row (row.desired generation hash) where
  key := rfl
  accepted := haccepted
  desired := hnewer.le
  generation := by
    show row.claimGeneration ≤ row.claimGeneration + 1
    omega
  unclaimed := by
    intro hstate
    cases hstate

variable {p : ExternalResourceRecord → Bool} {f : ExternalResourceRecord → ExternalResourceRecord}

theorem changed_of_update (hu : Table.KeysUnique ExternalResourceRecord.key t)
    {failed mismatch : String}
    (hupdate : Table.updateOne ExternalResourceRecord.accepted t p f failed mismatch = .ok t')
    (hp : ∀ row, p row = true → row.key = key) (hkeeps : ∀ row, (f row).key = row.key)
    (hf : ∀ row, (f row).accepted = true → RowKept row (f row)) : Changed t t' := by
  obtain ⟨row, hmem, _, haccepted, rfl⟩ := Table.updateOne_ok hu hupdate hp hkeeps
  exact .row row (f row) hmem (hf row haccepted)

theorem Changed.keysUnique (h : Changed t t') (hu : Table.KeysUnique ExternalResourceRecord.key t) :
    Table.KeysUnique ExternalResourceRecord.key t' := by
  cases h with
  | row row row' hmem hkept => exact hu.overwrite

theorem effect_desire {generation : Int} {hash : String} {answer : ExternalResourceRecord}
    (hok : upsertDesiredResourceState t key generation hash = .ok (answer, t')) :
    ResourceEffect t (.desire key generation hash) (some answer) t' := by
  rw [upsertDesiredResourceState] at hok
  split at hok
  · cases hok
  · split at hok
    · rename_i hfresh
      dsimp only at hok
      split at hok
      · cases hok
      · rename_i haccepted
        obtain ⟨rfl, _⟩ := returnLoaded_ok hok
        rw [Bool.not_eq_true, Bool.not_eq_false'] at haccepted
        exact .inserted _ rfl hfresh haccepted rfl
    · rename_i existing hexisting
      split at hok
      · cases hok
      · split at hok
        · cases hok
        · split at hok
          · rename_i hnewer
            dsimp only at hok
            split at hok
            · cases hok
            · rename_i haccepted
              obtain ⟨rfl, _⟩ := returnLoaded_ok hok
              rw [Bool.not_eq_true, Bool.not_eq_false'] at haccepted
              exact .changed rfl (.single (.row existing _ (Table.lookup_mem hexisting)
                (rowKept_desired hnewer haccepted)))
          · obtain ⟨rfl, _⟩ := returnLoaded_ok hok
            exact .changed rfl .refl

variable {answer : Option ExternalResourceRecord}

theorem effect_claimNextResource (hu : Table.KeysUnique ExternalResourceRecord.key t)
    {type : ExternalResourceType} {owner token started now : String} {ttl : Int}
    (hok : claimNextPendingResource t type owner token started ttl now = .ok (answer, t')) :
    ResourceEffect t (.claimNext type owner token started ttl now) answer t' := by
  rw [claimNextPendingResource] at hok
  split at hok
  · cases hok
  · dsimp only at hok
    split at hok
    · cases hok
      exact .changed rfl .refl
    · rename_i next hnext
      obtain ⟨updated, hupdate, hrest⟩ := except_bind_ok hok
      obtain ⟨⟨record, after⟩, hload, hanswer⟩ := except_bind_ok hrest
      cases hanswer
      obtain ⟨rfl, hloaded⟩ := returnLoaded_ok hload
      obtain ⟨row, hmem, hp, haccepted, rfl⟩ := Table.updateOne_ok hu hupdate
        (by intro row hp; simp only [Bool.and_eq_true, beq_iff_eq] at hp; exact hp.1.1)
        (fun _ => rfl)
      simp only [Bool.and_eq_true, beq_iff_eq] at hp
      -- the record loaded under the key is the claimed row
      have hfound := Table.lookup_of_mem hu hmem
      have hself : loadResource (Table.overwrite ExternalResourceRecord.key t
          (row.claimedBy owner token started ttl now)) row.key =
          some (row.claimedBy owner token started ttl now) := Table.lookup_overwrite_self hfound
      rw [← hp.1.1, hself, Option.some.injEq] at hloaded
      subst hloaded
      exact .claimed row hmem haccepted

theorem requeueEachResource_ok {owners : List String} {rows : List ExternalResourceRecord}
    (hu : Table.KeysUnique ExternalResourceRecord.key t)
    (hok : requeueEachResource owners rows t = .ok t') : Relation.ReflTransGen Changed t t' := by
  induction rows generalizing t with
  | nil =>
    cases hok
    exact .refl
  | cons selected rest ih =>
    obtain ⟨updated, hupdate, hrest⟩ := except_bind_ok hok
    have hchanged := changed_of_update hu hupdate
      (by intro row hp; simp only [Bool.and_eq_true, beq_iff_eq] at hp; exact hp.1.1)
      (fun _ => rfl) (fun _ => rowKept_requeued)
    exact .head hchanged (ih (hchanged.keysUnique hu) hrest)

variable {call : ResourceCall}

theorem change_of_call (hu : Table.KeysUnique ExternalResourceRecord.key t)
    (hok : call.body t = .ok (answer, t')) : ResourceEffect t call answer t' := by
  cases call with
  | desire key generation hash =>
    obtain ⟨⟨record, after⟩, hbody, hmap⟩ := except_map_ok hok
    cases hmap
    exact effect_desire hbody
  | claimNext type owner token started ttl now => exact effect_claimNextResource hu hok
  | requeueExpired key owner generation token requeuedUtc =>
    obtain ⟨⟨record, after⟩, hbody, hmap⟩ := except_map_ok hok
    cases hmap
    rw [requeueExpiredResourceClaim] at hbody
    split at hbody
    · cases hbody
    · obtain ⟨updated, hupdate, hload⟩ := except_bind_ok hbody
      obtain ⟨rfl, _⟩ := returnLoaded_ok hload
      exact .changed rfl (.single (changed_of_update hu hupdate
        (by intro row hp; simp only [Bool.and_eq_true, beq_iff_eq] at hp; exact hp.1.1.1.1)
        (fun _ => rfl) (fun _ => rowKept_requeued)))
  | complete key generation token hash now =>
    obtain ⟨⟨record, after⟩, hbody, hmap⟩ := except_map_ok hok
    cases hmap
    rw [markInSync] at hbody
    split at hbody
    · cases hbody
    · obtain ⟨updated, hupdate, hload⟩ := except_bind_ok hbody
      obtain ⟨rfl, _⟩ := returnLoaded_ok hload
      exact .changed rfl (.single (changed_of_update hu hupdate
        (by intro row hp; simp only [Bool.and_eq_true, beq_iff_eq] at hp; exact hp.1.1.1.1)
        (fun _ => rfl) (fun _ => rowKept_observed)))
  | block key token code =>
    obtain ⟨⟨record, after⟩, hbody, hmap⟩ := except_map_ok hok
    cases hmap
    rw [markBlocked] at hbody
    split at hbody
    · cases hbody
    · obtain ⟨updated, hupdate, hload⟩ := except_bind_ok hbody
      obtain ⟨rfl, _⟩ := returnLoaded_ok hload
      exact .changed rfl (.single (changed_of_update hu hupdate
        (by intro row hp; simp only [Bool.and_eq_true, beq_iff_eq] at hp; exact hp.1.1)
        (fun _ => rfl) (fun _ => rowKept_blockedBy)))
  | requeueAtStartup request =>
    obtain ⟨⟨ids, after⟩, hbody, hmap⟩ := except_map_ok hok
    cases hmap
    rw [requeueResourcesAfterStartup] at hbody
    split at hbody
    · cases hbody
    · obtain ⟨updated, heach, hanswer⟩ := except_bind_ok hbody
      cases hanswer
      exact .changed rfl (requeueEachResource_ok hu heach)

/-- The claim generation a resource has reached, `⊥` without a row. -/
def generationOf (t : List ExternalResourceRecord) (key : ExternalResourceType × String) :
    WithBot Int :=
  match loadResource t key with
  | none => ⊥
  | some row => row.claimGeneration

def ExternalResourceRecord.rank (record : ExternalResourceRecord) : WithBot Int :=
  record.claimGeneration

/-- Unique keys and accepted rows; claim generations cover the claims; and a claimed row is the
record its claim returned. -/
structure LedgerInvariant (s : LedgerState) : Prop where
  keys : Table.KeysUnique ExternalResourceRecord.key s.resources
  accepted : ∀ row ∈ s.resources, row.accepted = true
  issued : Issued ExternalResourceRecord.key ExternalResourceRecord.rank
    (generationOf s.resources) s.claims
  held : ∀ row ∈ s.resources, row.state = .claimed → row ∈ s.claims

theorem generationOf_mem {t : List ExternalResourceRecord}
    (hu : Table.KeysUnique ExternalResourceRecord.key t) (hmem : row ∈ t) :
    generationOf t row.key = row.rank := by
  have hfound : loadResource t row.key = some row := Table.lookup_of_mem hu hmem
  rw [generationOf, hfound]
  rfl

theorem generationOf_overwrite {t : List ExternalResourceRecord}
    (hu : Table.KeysUnique ExternalResourceRecord.key t) {row row' : ExternalResourceRecord}
    (hmem : row ∈ t) (hkey : row'.key = row.key)
    (hgeneration : row.claimGeneration ≤ row'.claimGeneration)
    (key : ExternalResourceType × String) :
    generationOf t key ≤ generationOf (Table.overwrite ExternalResourceRecord.key t row') key := by
  by_cases heq : key = row.key
  · rw [heq, generationOf_mem hu hmem, ← hkey, generationOf_mem hu.overwrite
      (Table.mem_overwrite_self hmem hkey.symm)]
    exact WithBot.coe_le_coe.mpr hgeneration
  · have hother : loadResource (Table.overwrite ExternalResourceRecord.key t row') key =
        loadResource t key := by
      apply Table.lookup_overwrite_other
      rw [hkey]
      exact fun h => heq h.symm
    rw [generationOf, generationOf, hother]

theorem generationOf_insert {t : List ExternalResourceRecord}
    (hfresh : loadResource t record.key = none) (key : ExternalResourceType × String) :
    generationOf t key ≤ generationOf (Table.insert t record) key := by
  by_cases heq : key = record.key
  · rw [heq, generationOf, hfresh]
    exact bot_le
  · have hother : loadResource (Table.insert t record) key = loadResource t key :=
      Table.lookup_insert_other fun h => heq h.symm
    rw [generationOf, generationOf, hother]

variable {s : LedgerState}

theorem LedgerInvariant.changed {t' : List ExternalResourceRecord} (h : LedgerInvariant s)
    (hchanged : Changed s.resources t') : LedgerInvariant { s with resources := t' } := by
  obtain ⟨row, row', hmem, hkept⟩ := hchanged
  refine ⟨h.keys.overwrite, ?_, h.issued.mono ?_, ?_⟩
  · intro r hr
    obtain rfl | ⟨hold, _⟩ := Table.mem_overwrite hr
    · exact hkept.accepted
    · exact h.accepted r hold
  · exact generationOf_overwrite h.keys hmem hkept.key hkept.generation
  · intro r hr hclaimed
    obtain rfl | ⟨hold, _⟩ := Table.mem_overwrite hr
    · exact absurd hclaimed hkept.unclaimed
    · exact h.held r hold hclaimed

theorem LedgerInvariant.changes {t' : List ExternalResourceRecord} (h : LedgerInvariant s)
    (hchanged : Relation.ReflTransGen Changed s.resources t') :
    LedgerInvariant { s with resources := t' } := by
  induction hchanged with
  | refl => exact h
  | tail _ hlast ih => exact ih.changed hlast

theorem perform_resource (call : ResourceCall) {t : List ExternalResourceRecord}
    (hu : Table.KeysUnique ExternalResourceRecord.key t) :
    (∃ code, call.perform t = (.error code, t)) ∨
    ∃ answer t', call.perform t = (.ok answer, t') ∧ ResourceEffect t call answer t' := by
  rw [ResourceCall.perform]
  cases hbody : call.body t with
  | error code => exact .inl ⟨code, rfl⟩
  | ok next => exact .inr ⟨next.1, next.2, rfl, change_of_call hu hbody⟩

theorem ledgerInvariant_step {s s' : LedgerState} (h : LedgerInvariant s)
    (hstep : resourceLedger.step s call = some s') : LedgerInvariant s' := by
  cases hstep
  obtain ⟨code, hperform⟩ | ⟨answer, t', hperform, heffect⟩ := perform_resource call h.keys
  · rw [hperform]
    simp only [ResourceCall.claims, List.append_nil]
    exact h
  · rw [hperform]
    dsimp only
    cases heffect with
    | changed hclaims hchanged =>
      rw [hclaims, List.append_nil]
      exact h.changes hchanged
    | inserted record hclaims hfresh haccepted hpending =>
      rw [hclaims, List.append_nil]
      refine ⟨h.keys.insert hfresh, ?_, h.issued.mono (generationOf_insert hfresh), ?_⟩
      · intro r hr
        rw [Table.mem_insert] at hr
        cases hr with
        | inl hold => exact h.accepted r hold
        | inr hnew => exact hnew ▸ haccepted
      · intro r hr hclaimed
        rw [Table.mem_insert] at hr
        cases hr with
        | inl hold => exact h.held r hold hclaimed
        | inr hnew =>
          rw [hnew, hpending] at hclaimed
          cases hclaimed
    | @claimed type owner token started now ttl row hmem haccepted =>
      have hkey : (row.claimedBy owner token started ttl now).key = row.key := rfl
      have hless : row.claimGeneration < row.claimGeneration + 1 := by omega
      have hnew := Table.mem_overwrite_self hmem hkey.symm
      refine ⟨h.keys.overwrite, ?_, ?_, ?_⟩
      · intro r hr
        obtain rfl | ⟨hold, _⟩ := Table.mem_overwrite hr
        · exact haccepted
        · exact h.accepted r hold
      · apply h.issued.append (generationOf_overwrite h.keys hmem hkey hless.le)
        · rw [hkey, generationOf_mem h.keys hmem]
          exact WithBot.coe_lt_coe.mpr hless
        · exact (generationOf_mem h.keys.overwrite hnew).ge
      · intro r hr hclaimed
        obtain rfl | ⟨hold, _⟩ := Table.mem_overwrite hr
        · exact List.mem_append_right _ (List.mem_singleton_self _)
        · exact List.mem_append_left _ (h.held r hold hclaimed)

theorem ledgerInvariant_reachable (h : resourceLedger.Reachable s) : LedgerInvariant s := by
  apply h.invariant
  · rintro s rfl
    exact ⟨List.nodup_nil, fun _ hmem => absurd hmem List.not_mem_nil, .nil,
      fun _ hmem => absurd hmem List.not_mem_nil⟩
  · intro s call s' _ hs _ hstep
    exact ledgerInvariant_step hs hstep

theorem tokens_distinct (h : resourceLedger.ReachableWhen FreshToken s) :
    (s.claims.map ExternalResourceRecord.claimToken).Nodup := by
  have hboth : LedgerInvariant s ∧ (s.claims.map ExternalResourceRecord.claimToken).Nodup := by
    apply h.invariant
    · rintro s rfl
      exact ⟨ledgerInvariant_reachable (.init rfl), List.nodup_nil⟩
    · intro s call s' _ hs hfresh hstep
      obtain ⟨hinv, hnodup⟩ := hs
      refine ⟨ledgerInvariant_step hinv hstep, ?_⟩
      cases hstep
      obtain ⟨code, hperform⟩ | ⟨answer, t', hperform, heffect⟩ :=
        perform_resource call hinv.keys
      · rw [hperform]
        simp only [ResourceCall.claims, List.append_nil]
        exact hnodup
      · rw [hperform]
        cases heffect with
        | changed hclaims _ =>
          dsimp only
          rw [hclaims, List.append_nil]
          exact hnodup
        | inserted record hclaims _ _ _ =>
          dsimp only
          rw [hclaims, List.append_nil]
          exact hnodup
        | @claimed type owner token started now ttl row hmem haccepted =>
          simp only [ResourceCall.claims, List.map_append, List.map_cons, List.map_nil]
          rw [List.nodup_append]
          refine ⟨hnodup, List.nodup_singleton _, ?_⟩
          intro old hold new hnew heq
          rw [List.mem_singleton] at hnew
          obtain ⟨claim, hclaim, rfl⟩ := List.mem_map.mp hold
          exact hfresh token rfl claim hclaim (heq.trans hnew)
  exact hboth.2

theorem perform_error {t : List ExternalResourceRecord} (h : call.body t = .error code) :
    call.perform t = (.error code, t) := by
  rw [ResourceCall.perform, h]

theorem refused_of_none {α : Type} {t : List ExternalResourceRecord} {valid : Bool}
    {invalid failed mismatch : String} {k : List ExternalResourceRecord → Except String α}
    (h : ∀ r ∈ t, p r = false) : ∃ code, (if !valid then .error invalid
      else Table.updateOne ExternalResourceRecord.accepted t p f failed mismatch >>= k) =
        .error code := by
  rw [Table.updateOne_none h]
  cases valid with
  | false => exact ⟨invalid, rfl⟩
  | true => exact ⟨mismatch, rfl⟩

section
variable {s : LedgerState} {claim row : ExternalResourceRecord} {token owner : String}

theorem outdated_complete (h : LedgerInvariant s) (hrow : row ∈ s.resources)
    (hkey : row.key = claim.key) (holder : claim.desiredGeneration < row.desiredGeneration)
    (observedHash now : String) : ∃ code,
    (ResourceCall.complete claim.key claim.desiredGeneration token observedHash now).perform
      s.resources = (.error code, s.resources) := by
  have hnone : ∀ r ∈ s.resources, (r.key == claim.key &&
      r.desiredGeneration == claim.desiredGeneration && r.desiredHash == observedHash &&
      r.state == .claimed && r.claimToken == some token) = false := by
    intro r hr
    by_cases hsame : r.key = claim.key
    · have hrrow : r = row := Table.key_injOn h.keys hr hrow (hsame.trans hkey.symm)
      have hne : row.desiredGeneration ≠ claim.desiredGeneration := by omega
      simp [hrrow, hne]
    · simp [hsame]
  obtain ⟨code, hcode⟩ : ∃ code, markInSync s.resources claim.key claim.desiredGeneration token
      observedHash now = .error code := refused_of_none hnone
  exact ⟨code, perform_error (by rw [ResourceCall.body, hcode]; rfl)⟩

theorem outdated_requeue (h : LedgerInvariant s) (hclaim : claim ∈ s.claims)
    (hrow : row ∈ s.resources) (hkey : row.key = claim.key)
    (holder : claim.desiredGeneration < row.desiredGeneration) (requeuedUtc : String) : ∃ code,
    (ResourceCall.requeueExpired claim.key owner claim.claimGeneration token
      requeuedUtc).perform s.resources = (.error code, s.resources) := by
  have hnone : ∀ r ∈ s.resources, (r.key == claim.key && r.state == .claimed &&
      r.claimOwnerInstanceId == some owner && r.claimGeneration == claim.claimGeneration &&
      r.claimToken == some token) = false := by
    intro r hr
    by_contra hselected
    simp only [Bool.not_eq_false, Bool.and_eq_true, beq_iff_eq] at hselected
    obtain ⟨⟨⟨⟨hsame, hclaimed⟩, _⟩, hgeneration⟩, _⟩ := hselected
    have hrank : r.rank = claim.rank := congrArg (fun n : Int => (n : WithBot Int)) hgeneration
    have hrclaim : r = claim := h.issued.eq_of_rank (h.held r hr hclaimed) hclaim hsame hrank
    have hrrow : r = row := Table.key_injOn h.keys hr hrow (hsame.trans hkey.symm)
    rw [← hrclaim, ← hrrow] at holder
    exact lt_irrefl _ holder
  obtain ⟨code, hcode⟩ : ∃ code, requeueExpiredResourceClaim s.resources claim.key owner
      claim.claimGeneration token requeuedUtc = .error code := refused_of_none hnone
  exact ⟨code, perform_error (by rw [ResourceCall.body, hcode]; rfl)⟩

theorem outdated_block (h : LedgerInvariant s)
    (htokens : (s.claims.map ExternalResourceRecord.claimToken).Nodup) (hclaim : claim ∈ s.claims)
    (htoken : claim.claimToken = some token) (hrow : row ∈ s.resources)
    (hkey : row.key = claim.key) (holder : claim.desiredGeneration < row.desiredGeneration)
    (errorCode : String) : ∃ code,
    (ResourceCall.block claim.key token errorCode).perform s.resources =
      (.error code, s.resources) := by
  have hnone : ∀ r ∈ s.resources, (r.key == claim.key && r.state == .claimed &&
      r.claimToken == some token) = false := by
    intro r hr
    by_contra hselected
    simp only [Bool.not_eq_false, Bool.and_eq_true, beq_iff_eq] at hselected
    obtain ⟨⟨hsame, hclaimed⟩, hrtoken⟩ := hselected
    have hrclaim : r = claim := List.inj_on_of_nodup_map htokens (h.held r hr hclaimed) hclaim
      (hrtoken.trans htoken.symm)
    have hrrow : r = row := Table.key_injOn h.keys hr hrow (hsame.trans hkey.symm)
    rw [← hrclaim, ← hrrow] at holder
    exact lt_irrefl _ holder
  obtain ⟨code, hcode⟩ : ∃ code, markBlocked s.resources claim.key token errorCode =
      .error code := refused_of_none hnone
  exact ⟨code, perform_error (by rw [ResourceCall.body, hcode]; rfl)⟩

end

theorem desired_overwrite {t : List ExternalResourceRecord}
    (hu : Table.KeysUnique ExternalResourceRecord.key t) {changed changed' row :
      ExternalResourceRecord} (hmem : changed ∈ t) (hkey : changed'.key = changed.key)
    (hdesired : changed.desiredGeneration ≤ changed'.desiredGeneration) (hrow : row ∈ t) :
    ∃ row' ∈ Table.overwrite ExternalResourceRecord.key t changed', row'.key = row.key ∧
      row.desiredGeneration ≤ row'.desiredGeneration := by
  by_cases hsame : row.key = changed'.key
  · have heq : row = changed := Table.key_injOn hu hrow hmem (hsame.trans hkey)
    exact ⟨changed', Table.mem_overwrite_self hrow hsame, hsame.symm, heq ▸ hdesired⟩
  · exact ⟨row, Table.mem_overwrite_of_ne hrow hsame, rfl, le_refl _⟩

theorem desired_along (hu : Table.KeysUnique ExternalResourceRecord.key t)
    (h : Relation.ReflTransGen Changed t t') (hrow : row ∈ t) :
    ∃ row' ∈ t', row'.key = row.key ∧ row.desiredGeneration ≤ row'.desiredGeneration := by
  have hboth : Table.KeysUnique ExternalResourceRecord.key t' ∧ ∃ row' ∈ t', row'.key = row.key ∧
      row.desiredGeneration ≤ row'.desiredGeneration := by
    induction h with
    | refl => exact ⟨hu, row, hrow, rfl, le_refl _⟩
    | tail _ hlast ih =>
      obtain ⟨hunique, current, hcurrent, hkey, hle⟩ := ih
      refine ⟨hlast.keysUnique hunique, ?_⟩
      obtain ⟨changed, changed', hmem, hkept⟩ := hlast
      obtain ⟨row', hrow', hkey', hle'⟩ :=
        desired_overwrite hunique hmem hkept.key hkept.desired hcurrent
      exact ⟨row', hrow', hkey'.trans hkey, hle.trans hle'⟩
  exact hboth.2

theorem desired_step {s s' : LedgerState} (h : LedgerInvariant s)
    (hstep : resourceLedger.step s call = some s') (hrow : row ∈ s.resources) :
    ∃ row' ∈ s'.resources, row'.key = row.key ∧ row.desiredGeneration ≤ row'.desiredGeneration := by
  cases hstep
  obtain ⟨code, hperform⟩ | ⟨answer, t', hperform, heffect⟩ := perform_resource call h.keys
  · rw [hperform]
    exact ⟨row, hrow, rfl, le_refl _⟩
  · rw [hperform]
    cases heffect with
    | changed _ hchanged => exact desired_along h.keys hchanged hrow
    | inserted record _ _ _ _ =>
      exact ⟨row, Table.mem_insert.mpr (.inl hrow), rfl, le_refl _⟩
    | claimed changed hmem _ => exact desired_overwrite h.keys hmem rfl (le_refl _) hrow

theorem observed_of_accepted (haccepted : row.accepted = true) (hstate : row.state = .inSync) :
    row.observedGeneration = some row.desiredGeneration ∧
      row.observedHash = some row.desiredHash := by
  simp only [ExternalResourceRecord.accepted, Bool.and_eq_true, hstate, bne_self_eq_false,
    Bool.false_or, beq_iff_eq] at haccepted
  exact haccepted.2.1

/-- Desired generations never fall, a resource in sync is observed as desired, and the claimant of
an older generation never settles the newer one. -/
theorem newest_kept {s : LedgerState} (h : resourceLedger.ReachableWhen FreshToken s) :
    NewestKept s := by
  have hinv := ledgerInvariant_reachable h.reachable
  refine ⟨?_, ?_, ?_⟩
  · intro call s' hstep row hrow
    exact desired_step hinv hstep hrow
  · intro row hrow hstate
    exact observed_of_accepted (hinv.accepted row hrow) hstate
  · intro claim hclaim row hrow hkey holder call hcall
    cases hcall with
    | complete token observedHash now htoken =>
      exact outdated_complete hinv hrow hkey holder observedHash now
    | block token errorCode htoken =>
      exact outdated_block hinv (tokens_distinct h) hclaim htoken hrow hkey holder errorCode
    | requeueExpired owner token requeuedUtc howner htoken =>
      exact outdated_requeue hinv hclaim hrow hkey holder requeuedUtc

def overtaken (token : String) : List ResourceCall :=
  let key : ExternalResourceType × String := (.taskScheduler, "schedule")
  [.desire key 1 "aaaaaaaaaaaaaaaaaaaaaaaaaaaaaaaaaaaaaaaaaaaaaaaaaaaaaaaaaaaaaaaa",
    .claimNext .taskScheduler "engine" "maint-a:0001" "2026-01-01T00:00:00Z" 30000
      "2026-01-01T00:00:00Z",
    .desire key 2 "bbbbbbbbbbbbbbbbbbbbbbbbbbbbbbbbbbbbbbbbbbbbbbbbbbbbbbbbbbbbbbbb",
    .claimNext .taskScheduler "engine" token "2026-01-01T00:00:01Z" 30000 "2026-01-01T00:00:01Z"]

def freshToken (s : LedgerState) (call : ResourceCall) : Bool :=
  call.claimsWith.all fun token => s.claims.all fun claim => claim.claimToken != some token

theorem freshToken_spec (s : LedgerState) (call : ResourceCall) (h : freshToken s call = true) :
    FreshToken s call := by
  intro token hwith claim hclaim heq
  rw [freshToken, hwith, Option.all_some, List.all_eq_true] at h
  have hne := h claim hclaim
  simp [heq] at hne

theorem newest_kept_overtaken : ∃ s, resourceLedger.replay {} (overtaken "maint-b:0001") = some s ∧
    ∃ code, (ResourceCall.block (.taskScheduler, "schedule") "maint-a:0001"
      "TASK_SCHEDULER_CLAIM_DESIRED_DRIFT").perform s.resources = (.error code, s.resources) := by
  obtain ⟨s, hwhile, hrun, claim, hclaim, row, hrow, hkey, hkey', holder, htoken⟩ :
      ∃ s, resourceLedger.replayWhile freshToken {} (overtaken "maint-b:0001") = some s ∧
      resourceLedger.replay {} (overtaken "maint-b:0001") = some s ∧
      ∃ claim ∈ s.claims, ∃ row ∈ s.resources, claim.key = (.taskScheduler, "schedule") ∧
        row.key = claim.key ∧ claim.desiredGeneration < row.desiredGeneration ∧
        claim.claimToken = some "maint-a:0001" :=
    ⟨_, rfl, rfl, by decide +kernel⟩
  have hreach : resourceLedger.ReachableWhen FreshToken s :=
    System.ReachableWhen.replayWhile freshToken_spec (.init rfl) _ hwhile
  have hcall := ClaimantCall.block "maint-a:0001" "TASK_SCHEDULER_CLAIM_DESIRED_DRIFT" htoken
  rw [hkey] at hcall
  exact ⟨s, hrun, (newest_kept hreach).outdated claim hclaim row hrow hkey' holder _ hcall⟩

/-- The pump repeats its tokens from pass to pass. -/
theorem newest_not_kept : ¬ ∀ s, resourceLedger.Reachable s → NewestKept s := by
  intro hall
  obtain ⟨s, hrun, hopen, claim, hclaim, row, hrow, hkey, holder, htoken, blocked, hmem, hstate,
      _⟩ : ∃ s, resourceLedger.replay {} (overtaken "maint-a:0001") = some s ∧
      (∀ row ∈ s.resources, row.state ≠ .blocked) ∧
      ∃ claim ∈ s.claims, ∃ row ∈ s.resources, row.key = claim.key ∧
        claim.desiredGeneration < row.desiredGeneration ∧
        claim.claimToken = some "maint-a:0001" ∧
        ∃ blocked ∈ ((ResourceCall.block claim.key "maint-a:0001"
          "TASK_SCHEDULER_CLAIM_DESIRED_DRIFT").perform s.resources).2,
          blocked.state = .blocked ∧ blocked.desiredGeneration = 2 :=
    ⟨_, rfl, by decide +kernel, by decide +kernel⟩
  have hreach : resourceLedger.Reachable s := System.Reachable.replay (.init rfl) _ hrun
  obtain ⟨code, hrefused⟩ := (hall s hreach).outdated claim hclaim row hrow hkey holder _
    (.block "maint-a:0001" "TASK_SCHEDULER_CLAIM_DESIRED_DRIFT" htoken)
  rw [hrefused] at hmem
  exact hopen blocked hmem hstate

end MediaSync.Catalog
