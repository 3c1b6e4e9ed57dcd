import MediaSync.Catalog.Outbox
import MediaSync.Foundation.Issuance
import MediaSync.Foundation.Transition

/-! The outbox under any interleaving of calls by any number of owners, with delivered rows removed
at any time. -/
namespace MediaSync.Catalog
open Issuance Text Transition

structure OutboxClaim where
  idempotencyKey : String
  messageId : String
  token : String
  ownerInstanceId : String
  generation : Int
  deriving DecidableEq

structure OutboxState where
  tables : OutboxTables := {}
  claims : List OutboxClaim := []
  deriving DecidableEq

namespace OutboxCall

def fresh (claims : List OutboxClaim) : OutboxCall → Bool
  | claimNext _ token _ _ _ => claims.all fun claim => claim.token != token
  | _ => true

def claims : OutboxCall → Except String (Option OutboxMessage) → List OutboxClaim
  | claimNext owner token _ _ _, .ok (some message) =>
    [⟨message.idempotencyKey, message.messageId, token, owner, message.claimGeneration⟩]
  | _, _ => []

def terminates : OutboxCall → Option (String × String)
  | deliver messageId token _ _ => some (messageId, token)
  | deadLetter messageId token _ => some (messageId, token)
  | _ => none

end OutboxCall

inductive OutboxLabel where
  | call (call : OutboxCall)
  | compact (messageId : String)

def outbox : System OutboxState OutboxLabel where
  init s := s = {}
  step s
    | .call call =>
      if call.fresh s.claims then
        let next := call.perform s.tables
        some ⟨next.2, s.claims ++ call.claims next.1⟩
      else none
    | .compact messageId => some { s with tables := s.tables.compact messageId }

def OutboxMessageState.terminal (state : OutboxMessageState) : Bool :=
  state == .delivered || state == .deadLetter

def OutboxState.Holds (s : OutboxState) (claim : OutboxClaim) : Prop :=
  ∃ row ∈ s.tables.messages, row.state = .claimed ∧ row.messageId = claim.messageId ∧
    row.idempotencyKey = claim.idempotencyKey ∧
    row.claimOwnerInstanceId = some claim.ownerInstanceId ∧
    row.claimToken = some claim.token ∧ row.claimGeneration = claim.generation

def OutboxTables.DeliveredWith (t : OutboxTables) (key payloadHash effectHash : String) : Prop :=
  (∃ row ∈ t.messages, row.idempotencyKey = key ∧ row.state = .delivered ∧
    row.payloadHash = payloadHash ∧ row.terminalEffectHash = some effectHash) ∨
  ((∀ row ∈ t.messages, row.idempotencyKey ≠ key) ∧ ∃ tombstone ∈ t.tombstones,
    tombstone.deduplicationKey = key ∧ tombstone.payloadHash = payloadHash ∧
      tombstone.terminalEffectHash = effectHash)

def OutboxTombstone.Records (tombstone : OutboxTombstone) (row : OutboxRow) : Prop :=
  row.state = .delivered ∧ tombstone.payloadHash = row.payloadHash ∧
    row.terminalEffectHash = some tombstone.terminalEffectHash

/-- Ids and keys are unique, and exactly the delivered rows have tombstones, with their hashes. -/
structure OutboxTables.Sound (t : OutboxTables) : Prop where
  ids : Table.KeysUnique (fun row : OutboxRow => row.messageId) t.messages
  keys : Table.KeysUnique (fun row : OutboxRow => row.idempotencyKey) t.messages
  tombstoneKeys : Table.KeysUnique OutboxTombstone.deduplicationKey t.tombstones
  recorded : ∀ tombstone ∈ t.tombstones, ∀ row ∈ t.messages,
    row.idempotencyKey = tombstone.deduplicationKey → tombstone.Records row
  delivered : ∀ row ∈ t.messages, row.state = .delivered →
    ∃ tombstone ∈ t.tombstones, tombstone.deduplicationKey = row.idempotencyKey

theorem OutboxTables.loadByIdempotencyKey_some (t : OutboxTables) {key : String} {row : OutboxRow}
    (h : t.loadByIdempotencyKey key = some row) : row ∈ t.messages ∧ row.idempotencyKey = key := by
  have hkey := Table.lookup_key h
  exact ⟨Table.lookup_mem h, hkey⟩

/-- What no call changes in a stored message. -/
structure SameMessage (row row' : OutboxRow) : Prop where
  id : row'.messageId = row.messageId
  key : row'.idempotencyKey = row.idempotencyKey
  payload : row'.payloadHash = row.payloadHash

theorem sameMessage_claimedBy (row : OutboxRow) (owner token started : String) (ttl : Int) :
    SameMessage row (row.claimedBy owner token started ttl) := ⟨rfl, rfl, rfl⟩

theorem sameMessage_deliveredAs (row : OutboxRow) (hash now : String) :
    SameMessage row (row.deliveredAs hash now) := ⟨rfl, rfl, rfl⟩

theorem sameMessage_deadLettered (row : OutboxRow) (code : String) :
    SameMessage row (row.deadLettered code) := ⟨rfl, rfl, rfl⟩

def OutboxRow.tombstone (row : OutboxRow) (terminalEffectHash : String) : OutboxTombstone where
  deduplicationKey := row.idempotencyKey
  payloadHash := row.payloadHash
  effectEntityType := row.aggregateType
  effectEntityId := row.aggregateId
  terminalEffectHash := terminalEffectHash

/-- `row` is replaced by `row'`. -/
def OutboxTables.rewrite (t : OutboxTables) (row' : OutboxRow) : OutboxTables :=
  { t with messages := Table.overwrite (fun row : OutboxRow => row.messageId) t.messages row' }

/-- One change of the tables that a call of the store makes. -/
inductive OutboxMove (t : OutboxTables) : OutboxTables → Prop
  | inserted (row : OutboxRow) (hid : t.load row.messageId = none)
      (hkey : t.loadByIdempotencyKey row.idempotencyKey = none)
      (htombstone : t.loadTombstone row.idempotencyKey = none)
      (hstate : row.state = .pending ∨ row.state = .deadLetter) :
      OutboxMove t { t with messages := Table.insert t.messages row }
  | rewritten (row row' : OutboxRow) (hmem : row ∈ t.messages) (hsame : SameMessage row row')
      (hopen : row.state.terminal = false) (hnext : row'.state ≠ .delivered)
      (hgeneration : row.claimGeneration ≤ row'.claimGeneration) : OutboxMove t (t.rewrite row')
  | delivered (row : OutboxRow) (hash now : String) (hmem : row ∈ t.messages)
      (hopen : row.state.terminal = false) :
      OutboxMove t { t.rewrite (row.deliveredAs hash now) with
        tombstones := Table.insert t.tombstones (row.tombstone hash) }
  | compacted (messageId : String) : OutboxMove t (t.compact messageId)

namespace OutboxTables.Sound

variable {t : OutboxTables} {row row' r : OutboxRow}

theorem rewrite_messages (h : t.Sound) (hmem : row ∈ t.messages) (hsame : SameMessage row row') :
    (t.rewrite row').messages =
      Table.overwrite (fun row : OutboxRow => row.idempotencyKey) t.messages row' := by
  apply List.map_congr_left
  intro x hx
  by_cases hid : x.messageId = row'.messageId
  · have hxrow : x = row := Table.key_injOn h.ids hx hmem (hid.trans hsame.id)
    rw [if_pos hid, if_pos (hxrow ▸ hsame.key.symm)]
  · have hkey : x.idempotencyKey ≠ row'.idempotencyKey := by
      intro hkey
      have hxrow : x = row := Table.key_injOn h.keys hx hmem (hkey.trans hsame.key)
      exact hid (hxrow ▸ hsame.id.symm)
    rw [if_neg hid, if_neg hkey]

theorem mem_rewrite (h : t.Sound) (hmem : row ∈ t.messages) (hsame : SameMessage row row')
    (hr : r ∈ (t.rewrite row').messages) :
    r = row' ∨ (r ∈ t.messages ∧ r.idempotencyKey ≠ row'.idempotencyKey) := by
  rw [h.rewrite_messages hmem hsame] at hr
  exact Table.mem_overwrite hr

theorem load_rewrite (h : t.Sound) (hmem : row ∈ t.messages) (hsame : SameMessage row row')
    (key : String) : (t.rewrite row').loadByIdempotencyKey key =
      if key = row'.idempotencyKey then some row' else t.loadByIdempotencyKey key := by
  rw [OutboxTables.loadByIdempotencyKey, h.rewrite_messages hmem hsame]
  by_cases hkey : key = row'.idempotencyKey
  · rw [if_pos hkey, hkey]
    have hfound := Table.lookup_of_mem h.keys hmem
    rw [← hsame.key] at hfound
    exact Table.lookup_overwrite_self hfound
  · rw [if_neg hkey]
    exact Table.lookup_overwrite_other fun heq => hkey heq.symm

theorem loadTombstone_open (h : t.Sound) (hmem : row ∈ t.messages)
    (hopen : row.state ≠ .delivered) : t.loadTombstone row.idempotencyKey = none := by
  rw [OutboxTables.loadTombstone, Table.lookup_none_iff]
  intro tombstone htombstone hkey
  exact hopen (h.recorded tombstone htombstone row hmem hkey.symm).1

end OutboxTables.Sound

namespace OutboxMove

variable {t t' : OutboxTables} {row row' : OutboxRow} {hash now key payloadHash : String}

theorem keys_rewrite (h : t.Sound) (hmem : row ∈ t.messages) (hsame : SameMessage row row') :
    Table.KeysUnique (fun row : OutboxRow => row.idempotencyKey) (t.rewrite row').messages := by
  rw [h.rewrite_messages hmem hsame]
  exact h.keys.overwrite

theorem open_ne_delivered (h : row.state.terminal = false) : row.state ≠ .delivered := by
  intro heq
  rw [heq] at h
  cases h

theorem sound (hmove : OutboxMove t t') (h : t.Sound) : t'.Sound := by
  cases hmove with
  | inserted row hid hkey htombstone hstate =>
    refine ⟨h.ids.insert hid, h.keys.insert hkey, h.tombstoneKeys, ?_, ?_⟩
    · intro tombstone hmem r hr heq
      rw [Table.mem_insert] at hr
      cases hr with
      | inl hold => exact h.recorded tombstone hmem r hold heq
      | inr hnew =>
        subst hnew
        exact absurd heq.symm (Table.lookup_none_iff.mp htombstone tombstone hmem)
    · intro r hr hdelivered
      rw [Table.mem_insert] at hr
      cases hr with
      | inl hold => exact h.delivered r hold hdelivered
      | inr hnew =>
        subst hnew
        rw [hdelivered] at hstate
        simp at hstate
  | rewritten row row' hmem hsame hopen hnext hgeneration =>
    refine ⟨h.ids.overwrite, keys_rewrite h hmem hsame, h.tombstoneKeys, ?_, ?_⟩
    · intro tombstone htombstone r hr heq
      obtain rfl | ⟨hold, _⟩ := h.mem_rewrite hmem hsame hr
      · have hrecorded := h.recorded tombstone htombstone row hmem (hsame.key.symm.trans heq)
        exact absurd hrecorded.1 (open_ne_delivered hopen)
      · exact h.recorded tombstone htombstone r hold heq
    · intro r hr hdelivered
      obtain rfl | ⟨hold, _⟩ := h.mem_rewrite hmem hsame hr
      · exact absurd hdelivered hnext
      · exact h.delivered r hold hdelivered
  | delivered row hash now hmem hopen =>
    have hsame := sameMessage_deliveredAs row hash now
    refine ⟨h.ids.overwrite, keys_rewrite h hmem hsame, ?_, ?_, ?_⟩
    · exact h.tombstoneKeys.insert (h.loadTombstone_open hmem (open_ne_delivered hopen))
    · intro tombstone htombstone r hr heq
      rw [Table.mem_insert] at htombstone
      obtain rfl | ⟨hold, hother⟩ := h.mem_rewrite hmem hsame hr
      · cases htombstone with
        | inl hmem' =>
          have hrecorded := h.recorded tombstone hmem' row hmem heq
          exact absurd hrecorded.1 (open_ne_delivered hopen)
        | inr hnew => exact hnew ▸ ⟨rfl, rfl, rfl⟩
      · cases htombstone with
        | inl hmem' => exact h.recorded tombstone hmem' r hold heq
        | inr hnew =>
          subst hnew
          exact absurd heq hother
    · intro r hr hdelivered
      obtain rfl | ⟨hold, _⟩ := h.mem_rewrite hmem hsame hr
      · exact ⟨_, Table.mem_insert.mpr (.inr rfl), rfl⟩
      · obtain ⟨tombstone, htombstone, heq⟩ := h.delivered r hold hdelivered
        exact ⟨tombstone, Table.mem_insert.mpr (.inl htombstone), heq⟩
  | compacted messageId =>
    refine ⟨?_, ?_, h.tombstoneKeys, ?_, ?_⟩
    · exact List.Nodup.sublist (List.filter_sublist.map _) h.ids
    · exact List.Nodup.sublist (List.filter_sublist.map _) h.keys
    · intro tombstone htombstone r hr
      exact h.recorded tombstone htombstone r (List.mem_filter.mp hr).1
    · intro r hr
      exact h.delivered r (List.mem_filter.mp hr).1

theorem deliveredWith (hmove : OutboxMove t t') (h : t.Sound)
    (hdelivered : t.DeliveredWith key payloadHash hash) :
    t'.DeliveredWith key payloadHash hash := by
  obtain ⟨r, hr, hkey, hstate, hpayload, heffect⟩ | ⟨hgone, tombstone, htombstone, hfields⟩ :=
    hdelivered
  · -- the row stays, unless a compaction leaves its tombstone
    cases hmove with
    | inserted row =>
      exact .inl ⟨r, Table.mem_insert.mpr (.inl hr), hkey, hstate, hpayload, heffect⟩
    | rewritten row row' hmem hsame hopen =>
      refine .inl ⟨r, Table.mem_overwrite_of_ne hr ?_, hkey, hstate, hpayload, heffect⟩
      intro heq
      have hrow : r = row := Table.key_injOn h.ids hr hmem (heq.trans hsame.id)
      exact open_ne_delivered hopen (hrow ▸ hstate)
    | delivered row hash' now hmem hopen =>
      refine .inl ⟨r, Table.mem_overwrite_of_ne hr ?_, hkey, hstate, hpayload, heffect⟩
      intro heq
      have hrow : r = row := Table.key_injOn h.ids hr hmem heq
      exact open_ne_delivered hopen (hrow ▸ hstate)
    | compacted messageId =>
      by_cases hid : r.messageId = messageId
      · right
        obtain ⟨tombstone, htombstone, heq⟩ := h.delivered r hr hstate
        have hrecords := h.recorded tombstone htombstone r hr heq.symm
        refine ⟨?_, tombstone, htombstone, heq.trans hkey, hrecords.2.1.trans hpayload, ?_⟩
        · intro x hx hxkey
          obtain ⟨hx, hkept⟩ := List.mem_filter.mp hx
          have hxr : x = r := Table.key_injOn h.keys hx hr (hxkey.trans hkey.symm)
          simp [hxr, hid, hstate] at hkept
        · have heffect' := hrecords.2.2
          rw [heffect, Option.some.injEq] at heffect'
          exact heffect'.symm
      · refine .inl ⟨r, List.mem_filter.mpr ⟨hr, ?_⟩, hkey, hstate, hpayload, heffect⟩
        simp [hid]
  · -- the tombstone stays and keeps the key from being inserted again
    cases hmove with
    | inserted row _ _ hfree _ =>
      refine .inr ⟨?_, tombstone, htombstone, hfields⟩
      intro x hx
      rw [Table.mem_insert] at hx
      cases hx with
      | inl hold => exact hgone x hold
      | inr hnew =>
        subst hnew
        intro heq
        exact Table.lookup_none_iff.mp hfree tombstone htombstone (hfields.1.trans heq.symm)
    | rewritten row row' hmem hsame _ _ _ =>
      refine .inr ⟨?_, tombstone, htombstone, hfields⟩
      intro x hx
      obtain rfl | ⟨hold, _⟩ := h.mem_rewrite hmem hsame hx
      · rw [hsame.key]
        exact hgone row hmem
      · exact hgone x hold
    | delivered row hash' now hmem hopen =>
      refine .inr ⟨?_, tombstone, Table.mem_insert.mpr (.inl htombstone), hfields⟩
      intro x hx
      obtain rfl | ⟨hold, _⟩ := h.mem_rewrite hmem (sameMessage_deliveredAs row hash' now) hx
      · exact hgone row hmem
      · exact hgone x hold
    | compacted messageId =>
      refine .inr ⟨fun x hx => hgone x (List.mem_filter.mp hx).1, tombstone, htombstone, hfields⟩

theorem deadLetter (hmove : OutboxMove t t') (h : t.Sound) (hr : row ∈ t.messages)
    (hstate : row.state = .deadLetter) : row ∈ t'.messages := by
  have hne : ∀ {changed : OutboxRow}, changed ∈ t.messages → changed.state.terminal = false →
      row.messageId ≠ changed.messageId := by
    intro changed hmem hopen heq
    have hrow : row = changed := Table.key_injOn h.ids hr hmem heq
    rw [← hrow, hstate] at hopen
    cases hopen
  cases hmove with
  | inserted row' => exact Table.mem_insert.mpr (.inl hr)
  | rewritten changed row' hmem hsame hopen =>
    exact Table.mem_overwrite_of_ne hr (hsame.id ▸ hne hmem hopen)
  | delivered changed hash now hmem hopen =>
    have hother : row.messageId ≠ changed.messageId := hne hmem hopen
    exact Table.mem_overwrite_of_ne hr hother
  | compacted messageId => exact List.mem_filter.mpr ⟨hr, by simp [hstate]⟩

end OutboxMove

/-- The claim generation of a stored row; without one, `⊤` if the key has a tombstone. -/
def generationReached : Option OutboxRow → Bool → WithBot (WithTop Int)
  | some row, _ => ((row.claimGeneration : WithTop Int) : WithBot (WithTop Int))
  | none, true => ((⊤ : WithTop Int) : WithBot (WithTop Int))
  | none, false => ⊥

def OutboxTables.reached (t : OutboxTables) (key : String) : WithBot (WithTop Int) :=
  generationReached (t.loadByIdempotencyKey key) (t.loadTombstone key).isSome

variable {row row' : OutboxRow}

theorem reached_rewrite {t : OutboxTables} (h : t.Sound) (hmem : row ∈ t.messages)
    (hsame : SameMessage row row') (hgeneration : row.claimGeneration ≤ row'.claimGeneration)
    (key : String) : t.reached key ≤ (t.rewrite row').reached key := by
  rw [OutboxTables.reached, OutboxTables.reached, h.load_rewrite hmem hsame key]
  by_cases heq : key = row'.idempotencyKey
  · have hfound : t.loadByIdempotencyKey key = some row := by
      rw [heq, hsame.key]
      exact Table.lookup_of_mem h.keys hmem
    rw [if_pos heq, hfound]
    exact WithBot.coe_le_coe.mpr (WithTop.coe_le_coe.mpr hgeneration)
  · rw [if_neg heq]
    exact le_refl _

theorem generationReached_mono (row : Option OutboxRow) {a b : Bool} (hab : a ≤ b) :
    generationReached row a ≤ generationReached row b := by
  cases row with
  | some row => exact le_refl _
  | none =>
    cases a with
    | false => exact bot_le
    | true =>
      cases b with
      | false => exact absurd hab (by decide)
      | true => exact le_refl _

variable {t t' : OutboxTables}

theorem OutboxMove.reached (hmove : OutboxMove t t') (h : t.Sound) (key : String) :
    t.reached key ≤ t'.reached key := by
  cases hmove with
  | inserted row hid hkey htombstone hstate =>
    by_cases heq : key = row.idempotencyKey
    · rw [OutboxTables.reached, heq, hkey, htombstone]
      exact bot_le
    · apply le_of_eq
      have hsame : Table.lookup (fun row : OutboxRow => row.idempotencyKey)
          (Table.insert t.messages row) key = t.loadByIdempotencyKey key :=
        Table.lookup_insert_other fun hrow => heq hrow.symm
      exact congrArg (generationReached · (t.loadTombstone key).isSome) hsame.symm
  | rewritten row row' hmem hsame hopen hnext hgeneration =>
    exact reached_rewrite h hmem hsame hgeneration key
  | delivered row hash now hmem hopen =>
    have hsame := sameMessage_deliveredAs row hash now
    have hrewritten := reached_rewrite h hmem hsame (le_refl row.claimGeneration) key
    refine hrewritten.trans (generationReached_mono _ ?_)
    show (t.loadTombstone key).isSome ≤ _
    cases hfound : t.loadTombstone key with
    | none => exact Bool.false_le _
    | some tombstone =>
      have hother : (row.tombstone hash).deduplicationKey ≠ key := by
        intro heq
        have hnone := h.loadTombstone_open hmem (OutboxMove.open_ne_delivered hopen)
        rw [show row.idempotencyKey = key from heq, hfound] at hnone
        cases hnone
      have hstays : Table.lookup OutboxTombstone.deduplicationKey
          (Table.insert t.tombstones (row.tombstone hash)) key = some tombstone :=
        (Table.lookup_insert_other hother).trans hfound
      rw [OutboxTables.loadTombstone, hstays]
  | compacted messageId =>
    cases hfound : t.loadByIdempotencyKey key with
    | none =>
      have hnone : (t.compact messageId).loadByIdempotencyKey key = none := by
        rw [OutboxTables.loadByIdempotencyKey, Table.lookup_none_iff] at hfound ⊢
        exact fun r hr => hfound r (List.mem_filter.mp hr).1
      rw [OutboxTables.reached, OutboxTables.reached, hfound, hnone]
      exact le_refl _
    | some row =>
      obtain ⟨hmem, hkey⟩ := t.loadByIdempotencyKey_some hfound
      rw [OutboxTables.reached, OutboxTables.reached, hfound]
      cases hleft : (t.compact messageId).loadByIdempotencyKey key with
      | some row' =>
        obtain ⟨hmem', hkey'⟩ := OutboxTables.loadByIdempotencyKey_some _ hleft
        have hsame : row = row' := Table.key_injOn h.keys hmem (List.mem_filter.mp hmem').1
          (hkey.trans hkey'.symm)
        rw [hsame]
        exact le_refl _
      | none =>
        -- the row went, so it was delivered and its tombstone stays
        have hstate : row.state = .delivered := by
          by_contra hne
          have hkept : row ∈ (t.compact messageId).messages :=
            List.mem_filter.mpr ⟨hmem, by simp [hne]⟩
          exact Table.lookup_none_iff.mp hleft row hkept hkey
        obtain ⟨tombstone, htombstone, heq⟩ := h.delivered row hmem hstate
        have hsome : ((t.compact messageId).loadTombstone key).isSome = true := by
          have hlookup := Table.lookup_of_mem h.tombstoneKeys htombstone
          rw [heq, hkey] at hlookup
          exact Option.isSome_iff_exists.mpr ⟨tombstone, hlookup⟩
        rw [hsome]
        exact WithBot.coe_le_coe.mpr le_top

variable {p : OutboxRow → Bool} {f : OutboxRow → OutboxRow}

theorem OutboxTables.updateOne_ok (h : t.Sound) {messageId failed mismatch : String}
    (hok : t.updateOne p f failed mismatch = .ok t')
    (hid : ∀ row, p row = true → row.messageId = messageId)
    (hkeeps : ∀ row, (f row).messageId = row.messageId) :
    ∃ row ∈ t.messages, p row = true ∧ t' = t.rewrite (f row) := by
  obtain ⟨messages, hupdate, hrows⟩ := except_map_ok hok
  subst hrows
  obtain ⟨row, hmem, hp, _, rfl⟩ := Table.updateOne_ok h.ids hupdate hid hkeeps
  exact ⟨row, hmem, hp, rfl⟩

theorem OutboxTables.load_rewritten {t : OutboxTables} (h : t.Sound) (hmem : row ∈ t.messages)
    (hid : row'.messageId = row.messageId) : (t.rewrite row').load row.messageId = some row' := by
  have hfound := Table.lookup_of_mem h.ids hmem
  rw [← hid] at hfound ⊢
  exact Table.lookup_overwrite_self hfound

variable {message : OutboxMessage}

theorem OutboxTables.updateAndLoad_ok (h : t.Sound) {messageId failed mismatch notLoaded : String}
    (hok : t.updateAndLoad messageId p f failed mismatch notLoaded = .ok (message, t'))
    (hid : ∀ row, p row = true → row.messageId = messageId)
    (hkeeps : ∀ row, (f row).messageId = row.messageId) :
    ∃ row ∈ t.messages, p row = true ∧ t' = t.rewrite (f row) ∧
      message = (f row).toOutboxMessage := by
  obtain ⟨updated, hupdate, hloaded⟩ := except_bind_ok hok
  obtain ⟨row, hmem, hp, rfl⟩ := t.updateOne_ok h hupdate hid hkeeps
  have hload := OutboxTables.load_rewritten h hmem (hkeeps row)
  rw [hid row hp] at hload
  simp only [hload, Except.ok.injEq, Prod.mk.injEq] at hloaded
  obtain ⟨rfl, rfl⟩ := hloaded
  exact ⟨row, hmem, hp, rfl, rfl⟩

/-- A claimed row goes back to pending, one generation on. -/
inductive Requeued (t : OutboxTables) : OutboxTables → Prop
  | row (row row' : OutboxRow) (hmem : row ∈ t.messages) (hsame : SameMessage row row')
      (hclaimed : row.state = .claimed) (hpending : row'.state = .pending)
      (hgeneration : row'.claimGeneration = row.claimGeneration + 1) :
      Requeued t (t.rewrite row')

/-- The changes a call makes when it returns `message`. -/
inductive OutboxEffect (t : OutboxTables) :
    OutboxCall → Option OutboxMessage → OutboxTables → Prop
  | kept {call : OutboxCall} {message : Option OutboxMessage}
      (hclaims : call.claims (.ok message) = []) (hterminates : call.terminates = none) :
      OutboxEffect t call message t
  | enqueued {message : OutboxMessage} {now : String} (hid : t.load message.messageId = none)
      (hkey : t.loadByIdempotencyKey message.idempotencyKey = none)
      (htombstone : t.loadTombstone message.idempotencyKey = none)
      (hstate : message.state = .pending ∨ message.state = .deadLetter) :
      OutboxEffect t (.enqueue message now) (some message)
        { t with messages := Table.insert t.messages (OutboxRow.enqueued message now) }
  | claimed {owner token started now : String} {ttl : Int} (row : OutboxRow)
      (hmem : row ∈ t.messages) (hpending : row.state = .pending) :
      OutboxEffect t (.claimNext owner token started ttl now)
        (some (row.claimedBy owner token started ttl).toOutboxMessage)
        (t.rewrite (row.claimedBy owner token started ttl))
  | requeued {call : OutboxCall} {message : Option OutboxMessage} {t' : OutboxTables}
      (hclaims : call.claims (.ok message) = []) (hterminates : call.terminates = none)
      (hrequeued : Relation.ReflTransGen Requeued t t') : OutboxEffect t call message t'
  | delivered {token hash now : String} (row : OutboxRow) (hmem : row ∈ t.messages)
      (hclaimed : row.state = .claimed) (htoken : row.claimToken = some token) :
      OutboxEffect t (.deliver row.messageId token hash now)
        (some (row.deliveredAs hash now).toOutboxMessage)
        { t.rewrite (row.deliveredAs hash now) with
          tombstones := Table.insert t.tombstones (row.tombstone hash) }
  | deadLettered {token code : String} (row : OutboxRow) (hmem : row ∈ t.messages)
      (hclaimed : row.state = .claimed) (htoken : row.claimToken = some token) :
      OutboxEffect t (.deadLetter row.messageId token code)
        (some (row.deadLettered code).toOutboxMessage) (t.rewrite (row.deadLettered code))

theorem Requeued.move {t t' : OutboxTables} (h : Requeued t t') : OutboxMove t t' := by
  obtain ⟨row, row', hmem, hsame, hclaimed, hpending, hgeneration⟩ := h
  apply OutboxMove.rewritten row row' hmem hsame
  · rw [hclaimed]
    rfl
  · rw [hpending]
    decide
  · omega

theorem effect_enqueue {message answer : OutboxMessage} {now : String}
    (hok : enqueueOutboxMessage t message now = .ok (answer, t')) :
    OutboxEffect t (.enqueue message now) (some answer) t' := by
  rw [enqueueOutboxMessage] at hok
  split at hok
  · -- a row under the key answers
    split at hok
    · cases hok
    · split at hok
      · cases hok
      · cases hok
        exact .kept rfl rfl
  · -- a tombstone answers
    split at hok
    · cases hok
    · cases hok
      exact .kept rfl rfl
  · rename_i hkey htombstone
    dsimp only at hok
    split at hok
    · cases hok
    · rename_i hfree
      cases hok
      simp only [Bool.or_eq_true, Option.isSome_iff_ne_none, ne_eq, not_or, not_not,
        Bool.not_eq_true, Bool.not_eq_false'] at hfree
      refine .enqueued hfree.1 hkey htombstone ?_
      -- the row checks refuse a new message that is claimed or delivered
      have hchecked := hfree.2
      cases hstate : message.state with
      | pending => exact .inl rfl
      | deadLetter => exact .inr rfl
      | claimed => simp [OutboxRow.accepted, OutboxRow.enqueued, hstate] at hchecked
      | delivered => simp [OutboxRow.accepted, OutboxRow.enqueued, hstate] at hchecked

variable {answer : Option OutboxMessage}

theorem effect_claimNext (h : t.Sound) {owner token started now : String} {ttl : Int}
    (hok : claimNextPending t owner token started ttl now = .ok (answer, t')) :
    OutboxEffect t (.claimNext owner token started ttl now) answer t' := by
  rw [claimNextPending] at hok
  split at hok
  · cases hok
  · split at hok
    · cases hok
    · dsimp only at hok
      split at hok
      · cases hok
        exact .kept rfl rfl
      · rename_i next hnext
        obtain ⟨⟨message, updated⟩, hupdate, hanswer⟩ := except_bind_ok hok
        cases hanswer
        obtain ⟨row, hmem, hp, rfl, rfl⟩ := t.updateAndLoad_ok h hupdate
          (by intro row hp; simp only [Bool.and_eq_true, beq_iff_eq] at hp; exact hp.1.1)
          (fun _ => rfl)
        simp only [Bool.and_eq_true, beq_iff_eq] at hp
        exact .claimed row hmem hp.1.2

theorem effect_requeueExpired (h : t.Sound) {messageId owner token requeuedUtc : String}
    {generation : Int} {answer : OutboxMessage}
    (hok : requeueExpiredClaim t messageId owner generation token requeuedUtc =
      .ok (answer, t')) :
    OutboxEffect t (.requeueExpired messageId owner generation token requeuedUtc)
      (some answer) t' := by
  rw [requeueExpiredClaim] at hok
  split at hok
  · cases hok
  · split at hok
    · cases hok
    · obtain ⟨row, hmem, hp, rfl, rfl⟩ := t.updateAndLoad_ok h hok
        (by intro row hp; simp only [Bool.and_eq_true, beq_iff_eq] at hp; exact hp.1.1.1.1)
        (fun _ => rfl)
      simp only [Bool.and_eq_true, beq_iff_eq] at hp
      refine .requeued rfl rfl (.single (.row row _ hmem ⟨rfl, rfl, rfl⟩ hp.1.1.1.2 rfl rfl))

theorem effect_deliver (h : t.Sound) {messageId token hash now : String} {answer : OutboxMessage}
    (hok : markDelivered t messageId token hash now = .ok (answer, t')) :
    OutboxEffect t (.deliver messageId token hash now) (some answer) t' := by
  rw [markDelivered] at hok
  split at hok
  · cases hok
  · rename_i message hmessage
    obtain ⟨updated, hupdate, hrest⟩ := except_bind_ok hok
    obtain ⟨after, hupsert, hloaded⟩ := except_bind_ok hrest
    obtain ⟨row, hmem, hp, rfl⟩ := t.updateOne_ok h hupdate
      (by intro row hp; simp only [Bool.and_eq_true, beq_iff_eq] at hp; exact hp.1.1.1)
      (fun _ => rfl)
    simp only [Bool.and_eq_true, beq_iff_eq] at hp
    obtain ⟨⟨⟨hid, hclaimed⟩, htoken⟩, _⟩ := hp
    -- the message loaded by the id is the row the update selected
    subst hid
    have hload : t.load row.messageId = some row := Table.lookup_of_mem h.ids hmem
    rw [hmessage, Option.some.injEq] at hload
    subst hload
    rw [upsertTombstone] at hupsert
    split at hupsert
    · cases hupsert
    · cases hupsert
      -- an open message has no tombstone, so the upsert inserts one
      have hnone : ((t.rewrite (message.deliveredAs hash now)).loadTombstone
          message.idempotencyKey).isSome = false := by
        have hopen := h.loadTombstone_open hmem (by rw [hclaimed]; decide)
        exact congrArg Option.isSome hopen
      have hrewritten : (t.rewrite (message.deliveredAs hash now)).load message.messageId =
          some (message.deliveredAs hash now) := OutboxTables.load_rewritten h hmem rfl
      rw [OutboxTables.load] at hrewritten
      simp only [hnone, Bool.false_eq_true, if_false, OutboxTables.load, hrewritten,
        Except.ok.injEq, Prod.mk.injEq] at hloaded
      obtain ⟨rfl, rfl⟩ := hloaded
      exact .delivered message hmem hclaimed htoken

theorem effect_deadLetter (h : t.Sound) {messageId token code : String} {answer : OutboxMessage}
    (hok : markDeadLetter t messageId token code = .ok (answer, t')) :
    OutboxEffect t (.deadLetter messageId token code) (some answer) t' := by
  obtain ⟨row, hmem, hp, rfl, rfl⟩ := t.updateAndLoad_ok h hok
    (by intro row hp; simp only [Bool.and_eq_true, beq_iff_eq] at hp; exact hp.1.1)
    (fun _ => rfl)
  simp only [Bool.and_eq_true, beq_iff_eq] at hp
  obtain ⟨⟨rfl, hclaimed⟩, htoken⟩ := hp
  exact .deadLettered row hmem hclaimed htoken

theorem requeueEach_ok {owners : List String} {now : String} {rows : List OutboxRow} (h : t.Sound)
    (hok : requeueEach owners now rows t = .ok t') : Relation.ReflTransGen Requeued t t' := by
  induction rows generalizing t with
  | nil =>
    cases hok
    exact .refl
  | cons selected rest ih =>
    obtain ⟨updated, hupdate, hrest⟩ := except_bind_ok hok
    obtain ⟨row, hmem, hp, rfl⟩ := t.updateOne_ok h hupdate
      (by intro row hp; simp only [Bool.and_eq_true, beq_iff_eq] at hp; exact hp.1.1)
      (fun _ => rfl)
    simp only [OutboxRow.ownedByOneOf, Bool.and_eq_true, beq_iff_eq] at hp
    have hrequeued : Requeued t (t.rewrite (row.requeuedAfterStartup now)) :=
      .row row _ hmem ⟨rfl, rfl, rfl⟩ hp.2.1 rfl rfl
    exact .head hrequeued (ih (hrequeued.move.sound h) hrest)

theorem effect_of_call (h : t.Sound) {call : OutboxCall} (hok : call.body t = .ok (answer, t')) :
    OutboxEffect t call answer t' := by
  cases call with
  | enqueue message now =>
    obtain ⟨⟨message', after⟩, hbody, hmap⟩ := except_map_ok hok
    cases hmap
    exact effect_enqueue hbody
  | claimNext owner token started ttl now => exact effect_claimNext h hok
  | requeueExpired messageId owner generation token requeuedUtc =>
    obtain ⟨⟨message', after⟩, hbody, hmap⟩ := except_map_ok hok
    cases hmap
    exact effect_requeueExpired h hbody
  | deliver messageId token hash now =>
    obtain ⟨⟨message', after⟩, hbody, hmap⟩ := except_map_ok hok
    cases hmap
    exact effect_deliver h hbody
  | requeueAtStartup request now =>
    obtain ⟨⟨ids, after⟩, hbody, hmap⟩ := except_map_ok hok
    cases hmap
    obtain ⟨_, _, hrest⟩ := except_bind_ok hbody
    obtain ⟨updated, heach, hanswer⟩ := except_bind_ok hrest
    cases hanswer
    exact .requeued rfl rfl (requeueEach_ok h heach)
  | deadLetter messageId token code =>
    obtain ⟨⟨message', after⟩, hbody, hmap⟩ := except_map_ok hok
    cases hmap
    exact effect_deadLetter h hbody

namespace OutboxEffect

variable {t t' : OutboxTables} {call : OutboxCall} {answer : Option OutboxMessage}
  {row row' : OutboxRow}

theorem moves (heffect : OutboxEffect t call answer t') :
    Relation.ReflTransGen OutboxMove t t' := by
  cases heffect with
  | kept _ _ => exact .refl
  | @enqueued message now hid hkey htombstone hstate =>
    exact .single (.inserted (OutboxRow.enqueued message now) hid hkey htombstone hstate)
  | claimed row hmem hpending =>
    refine .single (.rewritten row _ hmem (sameMessage_claimedBy ..) ?_ ?_ ?_)
    · rw [hpending]
      rfl
    · intro hstate
      cases hstate
    · show row.claimGeneration ≤ row.claimGeneration + 1
      omega
  | requeued _ _ hrequeued =>
    exact Relation.ReflTransGen.mono (fun _ _ hstep => Requeued.move hstep) _ _ hrequeued
  | delivered row hmem hclaimed _ =>
    refine .single (.delivered row _ _ hmem ?_)
    rw [hclaimed]
    rfl
  | deadLettered row hmem hclaimed _ =>
    refine .single (.rewritten row _ hmem (sameMessage_deadLettered ..) ?_ ?_ (le_refl _))
    · rw [hclaimed]
      rfl
    · intro hstate
      cases hstate

theorem requeued_rows (h : t.Sound) (hrequeued : Relation.ReflTransGen Requeued t t')
    (hr : row' ∈ t'.messages) : row' ∈ t.messages ∨ row'.state = .pending := by
  have hboth : t'.Sound ∧ (∀ row' ∈ t'.messages, row' ∈ t.messages ∨ row'.state = .pending) := by
    clear hr
    induction hrequeued with
    | refl => exact ⟨h, fun _ hr => .inl hr⟩
    | tail _ hlast ih =>
      obtain ⟨hsound, hrows⟩ := ih
      refine ⟨hlast.move.sound hsound, ?_⟩
      intro r hr
      obtain ⟨row, changed, hmem, hsame, _, hpending, _⟩ := hlast
      obtain rfl | ⟨hold, _⟩ := hsound.mem_rewrite hmem hsame hr
      · exact .inr hpending
      · exact hrows r hold
  exact hboth.2 row' hr

theorem claimed_row (heffect : OutboxEffect t call answer t') (h : t.Sound)
    (hr : row' ∈ t'.messages) (hclaimed : row'.state = .claimed) :
    row' ∈ t.messages ∨ ∃ owner token started ttl now,
      call = .claimNext owner token started ttl now ∧ answer = some row'.toOutboxMessage ∧
        row'.claimOwnerInstanceId = some owner ∧ row'.claimToken = some token := by
  cases heffect with
  | kept _ _ => exact .inl hr
  | enqueued _ _ _ hstate =>
    rw [Table.mem_insert] at hr
    cases hr with
    | inl hold => exact .inl hold
    | inr hnew =>
      subst hnew
      have hnever : ¬ (OutboxMessageState.claimed = .pending ∨
          OutboxMessageState.claimed = .deadLetter) := by decide
      exact absurd (hclaimed ▸ hstate) hnever
  | claimed row hmem _ =>
    obtain rfl | ⟨hold, _⟩ := h.mem_rewrite hmem (sameMessage_claimedBy ..) hr
    · exact .inr ⟨_, _, _, _, _, rfl, rfl, rfl, rfl⟩
    · exact .inl hold
  | requeued _ _ hrequeued =>
    obtain hold | hpending := requeued_rows h hrequeued hr
    · exact .inl hold
    · rw [hclaimed] at hpending
      cases hpending
  | delivered row hmem _ _ =>
    obtain rfl | ⟨hold, _⟩ := h.mem_rewrite hmem (sameMessage_deliveredAs _ _ _) hr
    · cases hclaimed
    · exact .inl hold
  | deadLettered row hmem _ _ =>
    obtain rfl | ⟨hold, _⟩ := h.mem_rewrite hmem (sameMessage_deadLettered ..) hr
    · cases hclaimed
    · exact .inl hold

theorem terminal_row (heffect : OutboxEffect t call answer t') (h : t.Sound)
    (hmem : row ∈ t.messages) (hr : row' ∈ t'.messages) (hid : row'.messageId = row.messageId)
    (hopen : row.state.terminal = false) (hterminal : row'.state.terminal = true) :
    ∃ token, call.terminates = some (row.messageId, token) ∧ row.state = .claimed ∧
      row.claimToken = some token := by
  -- a row that was there before is the open one
  have hold : row' ∉ t.messages := by
    intro hmem'
    have hsame : row' = row := Table.key_injOn h.ids hmem' hmem hid
    rw [hsame, hopen] at hterminal
    cases hterminal
  cases heffect with
  | kept _ _ => exact absurd hr hold
  | enqueued hfree _ _ _ =>
    rw [Table.mem_insert] at hr
    cases hr with
    | inl hmem' => exact absurd hmem' hold
    | inr hnew =>
      subst hnew
      exact absurd hid.symm (Table.lookup_none_iff.mp hfree row hmem)
  | claimed changed hchanged _ =>
    obtain rfl | ⟨hmem', _⟩ := h.mem_rewrite hchanged (sameMessage_claimedBy ..) hr
    · cases hterminal
    · exact absurd hmem' hold
  | requeued _ _ hrequeued =>
    obtain hmem' | hpending := requeued_rows h hrequeued hr
    · exact absurd hmem' hold
    · rw [hpending] at hterminal
      cases hterminal
  | @delivered token hash now changed hchanged hclaimed htoken =>
    obtain rfl | ⟨hmem', _⟩ :=
      h.mem_rewrite hchanged (sameMessage_deliveredAs _ _ _) hr
    · have hsame : changed = row := Table.key_injOn h.ids hchanged hmem hid
      subst hsame
      exact ⟨token, rfl, hclaimed, htoken⟩
    · exact absurd hmem' hold
  | @deadLettered token code changed hchanged hclaimed htoken =>
    obtain rfl | ⟨hmem', _⟩ := h.mem_rewrite hchanged (sameMessage_deadLettered ..) hr
    · have hsame : changed = row := Table.key_injOn h.ids hchanged hmem hid
      subst hsame
      exact ⟨token, rfl, hclaimed, htoken⟩
    · exact absurd hmem' hold

theorem terminated (heffect : OutboxEffect t call answer t') {messageId token : String}
    (hterminates : call.terminates = some (messageId, token)) :
    ∃ row ∈ t.messages, row.messageId = messageId ∧ row.state = .claimed ∧
      row.claimToken = some token := by
  cases heffect with
  | kept _ hnone => rw [hnone] at hterminates; cases hterminates
  | enqueued _ _ _ _ => cases hterminates
  | claimed _ _ _ => cases hterminates
  | requeued _ hnone _ => rw [hnone] at hterminates; cases hterminates
  | delivered row hmem hclaimed htoken =>
    cases hterminates
    exact ⟨row, hmem, rfl, hclaimed, htoken⟩
  | deadLettered row hmem hclaimed htoken =>
    cases hterminates
    exact ⟨row, hmem, rfl, hclaimed, htoken⟩

end OutboxEffect

def OutboxClaim.rank (claim : OutboxClaim) : WithBot (WithTop Int) :=
  ((claim.generation : WithTop Int) : WithBot (WithTop Int))

/-- Sound tables; claims with tokens of their own, covered by the generations of their
messages; and a claim behind every claimed row. -/
structure OutboxInvariant (s : OutboxState) : Prop where
  sound : s.tables.Sound
  tokens : (s.claims.map OutboxClaim.token).Nodup
  issued : Issued OutboxClaim.idempotencyKey OutboxClaim.rank s.tables.reached s.claims
  held : ∀ row ∈ s.tables.messages, row.state = .claimed → ∃ claim ∈ s.claims,
    row.messageId = claim.messageId ∧ row.idempotencyKey = claim.idempotencyKey ∧
    row.claimOwnerInstanceId = some claim.ownerInstanceId ∧
    row.claimToken = some claim.token ∧ row.claimGeneration = claim.generation

variable {P : OutboxTables → Prop}

theorem OutboxMove.along (hstep : ∀ {t t'}, OutboxMove t t' → t.Sound → P t → P t')
    (hmoves : Relation.ReflTransGen OutboxMove t t') (h : t.Sound) (hP : P t) :
    t'.Sound ∧ P t' := by
  induction hmoves with
  | refl => exact ⟨h, hP⟩
  | tail _ hlast ih => exact ⟨hlast.sound ih.1, hstep hlast ih.1 ih.2⟩

theorem reached_along (hmoves : Relation.ReflTransGen OutboxMove t t') (h : t.Sound)
    (key : String) :
    t.reached key ≤ t'.reached key := by
  have halong := OutboxMove.along (P := fun after => t.reached key ≤ after.reached key)
    (fun hmove hsound hle => hle.trans (hmove.reached hsound key)) hmoves h (le_refl _)
  exact halong.2

theorem perform_cases (call : OutboxCall) {t : OutboxTables} (h : t.Sound) :
    (∃ code, call.perform t = (.error code, t)) ∨
    ∃ answer t', call.perform t = (.ok answer, t') ∧ OutboxEffect t call answer t' := by
  rw [OutboxCall.perform]
  cases hbody : call.body t with
  | error code => exact .inl ⟨code, rfl⟩
  | ok next => exact .inr ⟨next.1, next.2, rfl, effect_of_call h hbody⟩

theorem claims_eq_nil_or (call : OutboxCall) (answer : Option OutboxMessage) :
    call.claims (.ok answer) = [] ∨ ∃ owner token started ttl now message,
      call = .claimNext owner token started ttl now ∧ answer = some message := by
  cases call with
  | claimNext owner token started ttl now =>
    cases answer with
    | none => exact .inl rfl
    | some message => exact .inr ⟨_, _, _, _, _, _, rfl, rfl⟩
  | _ => exact .inl rfl

theorem OutboxInvariant.call {s : OutboxState} (h : OutboxInvariant s) {call : OutboxCall}
    (hfresh : call.fresh s.claims = true) :
    OutboxInvariant ⟨(call.perform s.tables).2,
      s.claims ++ call.claims (call.perform s.tables).1⟩ := by
  obtain ⟨code, hperform⟩ | ⟨answer, t', hperform, heffect⟩ := perform_cases call h.sound
  · have hnone : call.claims (.error code) = [] := by cases call <;> rfl
    rw [hperform]
    dsimp only
    rw [hnone, List.append_nil]
    exact h
  · have hsound : t'.Sound :=
      (OutboxMove.along (fun hmove hsound _ => hmove.sound hsound) heffect.moves h.sound
        h.sound).2
    have hreached := reached_along heffect.moves h.sound
    rw [hperform]
    obtain hnone | ⟨owner, token, started, ttl, now, message, rfl, rfl⟩ :=
      claims_eq_nil_or call answer
    · rw [hnone, List.append_nil]
      refine ⟨hsound, h.tokens, h.issued.mono hreached, ?_⟩
      intro row hr hclaimed
      obtain hold | ⟨owner, token, started, ttl, now, rfl, rfl, _⟩ :=
        heffect.claimed_row h.sound hr hclaimed
      · exact h.held row hold hclaimed
      · cases hnone
    · cases heffect with
      | kept hclaims _ => cases hclaims
      | requeued hclaims _ _ => cases hclaims
      | claimed row hmem hpending =>
        have hsame := sameMessage_claimedBy row owner token started ttl
        refine ⟨hsound, ?_, ?_, ?_⟩
        · -- the new token is fresh
          simp only [OutboxCall.claims, List.map_append, List.map_cons, List.map_nil]
          rw [List.nodup_append]
          refine ⟨h.tokens, List.nodup_singleton _, ?_⟩
          intro old hold new hnew heq
          rw [List.mem_singleton] at hnew
          obtain ⟨claim, hclaim, rfl⟩ := List.mem_map.mp hold
          have hne := List.all_eq_true.mp hfresh claim hclaim
          simp [heq, hnew] at hne
        · have hfound : s.tables.loadByIdempotencyKey row.idempotencyKey = some row :=
            Table.lookup_of_mem h.sound.keys hmem
          apply h.issued.append hreached
          · show s.tables.reached row.idempotencyKey < _
            rw [OutboxTables.reached, hfound]
            apply WithBot.coe_lt_coe.mpr
            apply WithTop.coe_lt_coe.mpr
            show row.claimGeneration < row.claimGeneration + 1
            omega
          · show _ ≤ OutboxTables.reached _ row.idempotencyKey
            rw [OutboxTables.reached, h.sound.load_rewrite hmem hsame, if_pos hsame.key.symm]
            exact le_refl _
        · intro r hr hclaimed
          obtain rfl | ⟨hold, _⟩ := h.sound.mem_rewrite hmem hsame hr
          · exact ⟨_, List.mem_append_right _ (List.mem_singleton_self _), rfl, rfl, rfl, rfl,
              rfl⟩
          · obtain ⟨claim, hclaim, hfields⟩ := h.held r hold hclaimed
            exact ⟨claim, List.mem_append_left _ hclaim, hfields⟩

theorem OutboxInvariant.compact {s : OutboxState} (h : OutboxInvariant s) (messageId : String) :
    OutboxInvariant { s with tables := s.tables.compact messageId } where
  sound := (OutboxMove.compacted messageId).sound h.sound
  tokens := h.tokens
  issued := h.issued.mono ((OutboxMove.compacted messageId).reached h.sound)
  held := fun row hr => h.held row (List.mem_filter.mp hr).1

variable {s s' : OutboxState} {label : OutboxLabel}

theorem outboxInvariant_step (h : OutboxInvariant s) (hstep : outbox.step s label = some s') :
    OutboxInvariant s' := by
  cases label with
  | call call =>
    simp only [outbox] at hstep
    split at hstep
    · rename_i hfresh
      cases hstep
      exact h.call hfresh
    · cases hstep
  | compact messageId =>
    cases hstep
    exact h.compact messageId

theorem outboxInvariant_reachable {s : OutboxState} (h : outbox.Reachable s) :
    OutboxInvariant s := by
  apply h.invariant
  · rintro s rfl
    have hsound : OutboxTables.Sound {} := ⟨List.nodup_nil, List.nodup_nil, List.nodup_nil,
      fun _ hmem => absurd hmem List.not_mem_nil, fun _ hmem => absurd hmem List.not_mem_nil⟩
    exact ⟨hsound, List.nodup_nil, .nil, fun _ hmem => absurd hmem List.not_mem_nil⟩
  · intro s label s' _ hs _ hstep
    exact outboxInvariant_step hs hstep

theorem step_moves (h : OutboxInvariant s) (hstep : outbox.step s label = some s') :
    Relation.ReflTransGen OutboxMove s.tables s'.tables := by
  cases label with
  | call call =>
    simp only [outbox] at hstep
    split at hstep
    · cases hstep
      obtain ⟨code, hperform⟩ | ⟨answer, t', hperform, heffect⟩ := perform_cases call h.sound
      · rw [hperform]
      · rw [hperform]
        exact heffect.moves
    · cases hstep
  | compact messageId =>
    cases hstep
    exact .single (.compacted messageId)

theorem keeps_along (hkeeps : ∀ {t t'}, OutboxMove t t' → t.Sound → P t → P t')
    (h : OutboxInvariant s) (hrun : outbox.Leads s s') (hP : P s.tables) : P s'.tables := by
  have hboth : OutboxInvariant s' ∧ P s'.tables := by
    induction hrun with
    | refl => exact ⟨h, hP⟩
    | tail _ hlast ih =>
      obtain ⟨label, hstep⟩ := hlast
      exact ⟨outboxInvariant_step ih.1 hstep,
        (OutboxMove.along hkeeps (step_moves ih.1 hstep) ih.1.sound ih.2).2⟩
  exact hboth.2

variable {claim : OutboxClaim}

theorem holds_before (h : OutboxInvariant s) (hstep : outbox.step s label = some s')
    (hclaim : claim ∈ s.claims) (hholds : s'.Holds claim) : s.Holds claim := by
  obtain ⟨row, hr, hclaimed, hid, hkey, howner, htoken, hgeneration⟩ := hholds
  cases label with
  | call call =>
    simp only [outbox] at hstep
    split at hstep
    · rename_i hfresh
      cases hstep
      obtain ⟨code, hperform⟩ | ⟨answer, t', hperform, heffect⟩ := perform_cases call h.sound
      · rw [hperform] at hr
        exact ⟨row, hr, hclaimed, hid, hkey, howner, htoken, hgeneration⟩
      · rw [hperform] at hr
        obtain hold | ⟨owner, token, started, ttl, now, rfl, _, _, hnew⟩ :=
          heffect.claimed_row h.sound hr hclaimed
        · exact ⟨row, hold, hclaimed, hid, hkey, howner, htoken, hgeneration⟩
        · -- a row claimed by this call has a token no earlier claim has
          rw [htoken, Option.some.injEq] at hnew
          have hne := List.all_eq_true.mp hfresh claim hclaim
          simp [hnew] at hne
    · cases hstep
  | compact messageId =>
    cases hstep
    exact ⟨row, (List.mem_filter.mp hr).1, hclaimed, hid, hkey, howner, htoken, hgeneration⟩

theorem claims_step (hstep : outbox.step s label = some s') (hclaim : claim ∈ s.claims) :
    claim ∈ s'.claims := by
  cases label with
  | call call =>
    simp only [outbox] at hstep
    split at hstep
    · cases hstep
      exact List.mem_append_left _ hclaim
    · cases hstep
  | compact messageId =>
    cases hstep
    exact hclaim

theorem holds_earlier (h : OutboxInvariant s) (hrun : outbox.Leads s s') (hclaim : claim ∈ s.claims)
    (hholds : s'.Holds claim) : s.Holds claim := by
  have hback : OutboxInvariant s' ∧ claim ∈ s'.claims ∧ (s'.Holds claim → s.Holds claim) := by
    clear hholds
    induction hrun with
    | refl => exact ⟨h, hclaim, id⟩
    | tail _ hlast ih =>
      obtain ⟨label, hstep⟩ := hlast
      obtain ⟨hinv, hmem, himp⟩ := ih
      exact ⟨outboxInvariant_step hinv hstep, claims_step hstep hmem,
        fun hholds => himp (holds_before hinv hstep hmem hholds)⟩
  exact hback.2.2 hholds

theorem OutboxInvariant.latest {s : OutboxState} (h : OutboxInvariant s) {claim other : OutboxClaim}
    (hholds : s.Holds claim) (hother : other ∈ s.claims)
    (hkey : other.idempotencyKey = claim.idempotencyKey) : other.generation ≤ claim.generation := by
  obtain ⟨row, hr, _, _, hrow, _, _, hgeneration⟩ := hholds
  have hcurrent : s.tables.reached claim.idempotencyKey ≤ claim.rank := by
    have hfound : s.tables.loadByIdempotencyKey row.idempotencyKey = some row :=
      Table.lookup_of_mem h.sound.keys hr
    rw [← hrow, OutboxTables.reached, hfound, OutboxClaim.rank, ← hgeneration]
    exact le_refl _
  have hle := h.issued.le_of_current hother hkey hcurrent
  exact WithTop.coe_le_coe.mp (WithBot.coe_le_coe.mp hle)

theorem OutboxInvariant.terminated {s : OutboxState} (h : OutboxInvariant s) {call : OutboxCall}
    (hok : (call.perform s.tables).1 = .ok answer) {messageId token : String}
    (hterminates : call.terminates = some (messageId, token)) :
    ∃ claim ∈ s.claims, claim.messageId = messageId ∧ claim.token = token ∧ s.Holds claim := by
  obtain ⟨code, hperform⟩ | ⟨answer', t', hperform, heffect⟩ := perform_cases call h.sound
  · rw [hperform] at hok
    cases hok
  · obtain ⟨row, hr, hid, hclaimed, htoken⟩ := heffect.terminated hterminates
    obtain ⟨claim, hclaim, hfields⟩ := h.held row hr hclaimed
    refine ⟨claim, hclaim, hfields.1.symm.trans hid, ?_, row, hr, hclaimed, hfields⟩
    have hsame := hfields.2.2.2.1
    rw [htoken, Option.some.injEq] at hsame
    exact hsame.symm

theorem enqueue_delivered {t : OutboxTables} (h : t.Sound) {key payloadHash effectHash : String}
    (hdelivered : t.DeliveredWith key payloadHash effectHash) (hkey : message.idempotencyKey = key)
    (now : String) : (message.payloadHash = payloadHash → ∃ answer,
      (OutboxCall.enqueue message now).perform t = (.ok (some answer), t) ∧
        answer.state = .delivered ∧ answer.terminalEffectHash = some effectHash) ∧
    (message.payloadHash ≠ payloadHash →
      (OutboxCall.enqueue message now).perform t = (.error "OUTBOX_IDEMPOTENCY_CONFLICT", t)) := by
  obtain ⟨row, hr, hrow, hstate, rfl, heffect⟩ | ⟨hgone, tombstone, htombstone, hdedup, rfl, rfl⟩ :=
    hdelivered
  · have hfound : t.loadByIdempotencyKey message.idempotencyKey = some row := by
      rw [hkey, ← hrow]
      exact Table.lookup_of_mem h.keys hr
    -- a tombstone beside the row has the row's payload
    have hagrees : (t.loadTombstone message.idempotencyKey).any
        (fun stone => stone.payloadHash != row.payloadHash) = false := by
      cases hstone : t.loadTombstone message.idempotencyKey with
      | none => rfl
      | some stone =>
        have hdedup : stone.deduplicationKey = message.idempotencyKey := Table.lookup_key hstone
        have hrecords := h.recorded stone (Table.lookup_mem hstone) row hr
          (hrow.trans (hkey.symm.trans hdedup.symm))
        simp [hrecords.2.1]
    refine ⟨fun hsame => ⟨row.toOutboxMessage, ?_, hstate, heffect⟩, fun hdiffers => ?_⟩
    · simp [OutboxCall.perform, OutboxCall.body, enqueueOutboxMessage, hfound, hagrees, hsame,
        Except.map]
    · have hne : row.payloadHash ≠ message.payloadHash := fun heq => hdiffers heq.symm
      simp [OutboxCall.perform, OutboxCall.body, enqueueOutboxMessage, hfound, hne, Except.map]
  · have hnone : t.loadByIdempotencyKey message.idempotencyKey = none := by
      rw [hkey]
      exact Table.lookup_none_iff.mpr hgone
    have hfound : t.loadTombstone message.idempotencyKey = some tombstone := by
      rw [hkey, ← hdedup]
      exact Table.lookup_of_mem h.tombstoneKeys htombstone
    refine ⟨fun hsame => ⟨deliveredMessageFromTombstone message tombstone.terminalEffectHash, ?_,
      rfl, rfl⟩, fun hdiffers => ?_⟩
    · simp [OutboxCall.perform, OutboxCall.body, enqueueOutboxMessage, hnone, hfound, hsame,
        Except.map]
    · have hne : tombstone.payloadHash ≠ message.payloadHash := fun heq => hdiffers heq.symm
      simp [OutboxCall.perform, OutboxCall.body, enqueueOutboxMessage, hnone, hfound, hne,
        Except.map]

theorem terminal_step (h : OutboxInvariant s) (hstep : outbox.step s label = some s')
    (hmem : row ∈ s.tables.messages) (hr : row' ∈ s'.tables.messages)
    (hid : row'.messageId = row.messageId) (hopen : row.state.terminal = false)
    (hterminal : row'.state.terminal = true) :
    ∃ call token, label = .call call ∧ call.terminates = some (row.messageId, token) ∧
      row.state = .claimed ∧ row.claimToken = some token := by
  -- a row that is still there unchanged is open
  have hkept : row' ∉ s.tables.messages := by
    intro hmem'
    have hsame : row' = row := Table.key_injOn h.sound.ids hmem' hmem hid
    rw [hsame, hopen] at hterminal
    cases hterminal
  cases label with
  | call call =>
    simp only [outbox] at hstep
    split at hstep
    · cases hstep
      obtain ⟨code, hperform⟩ | ⟨answer, t', hperform, heffect⟩ := perform_cases call h.sound
      · rw [hperform] at hr
        exact absurd hr hkept
      · rw [hperform] at hr
        obtain ⟨token, hfields⟩ := heffect.terminal_row h.sound hmem hr hid hopen hterminal
        exact ⟨call, token, rfl, hfields⟩
    · cases hstep
  | compact messageId =>
    cases hstep
    exact absurd (List.mem_filter.mp hr).1 hkept

/-- In every state of every interleaving with fresh claim tokens, a message ends once and stays as
it has ended; only the claim that holds it ends it; the generations claimed for it increase; and an
enqueue after its delivery reports it, or is refused where the payload differs. -/
theorem outbox_delivery_discipline {s : OutboxState} (h : outbox.Reachable s) :
    (∀ s', outbox.Leads s s' → ∀ key payloadHash effectHash,
      s.tables.DeliveredWith key payloadHash effectHash →
        s'.tables.DeliveredWith key payloadHash effectHash) ∧
    (∀ s', outbox.Leads s s' → ∀ row ∈ s.tables.messages, row.state = .deadLetter →
      row ∈ s'.tables.messages) ∧
    (∀ call answer, (OutboxCall.perform call s.tables).1 = .ok answer →
      ∀ messageId token, call.terminates = some (messageId, token) →
        ∃ claim ∈ s.claims, claim.messageId = messageId ∧ claim.token = token ∧ s.Holds claim ∧
          ∀ other ∈ s.claims, other.idempotencyKey = claim.idempotencyKey →
            other.generation ≤ claim.generation) ∧
    (∀ s', outbox.Leads s s' → ∀ claim ∈ s.claims, s'.Holds claim → s.Holds claim) ∧
    (∀ label s', outbox.step s label = some s' → ∀ row ∈ s.tables.messages,
      ∀ row' ∈ s'.tables.messages, row'.messageId = row.messageId →
        row.state.terminal = false → row'.state.terminal = true →
          ∃ call token, label = .call call ∧ call.terminates = some (row.messageId, token) ∧
            row.state = .claimed ∧ row.claimToken = some token) ∧
    (s.claims.Pairwise fun earlier later =>
      earlier.idempotencyKey = later.idempotencyKey → earlier.generation < later.generation) ∧
    Table.KeysUnique (fun row : OutboxRow => row.idempotencyKey) s.tables.messages ∧
    (∀ key payloadHash effectHash, s.tables.DeliveredWith key payloadHash effectHash →
      ∀ message : OutboxMessage, message.idempotencyKey = key → ∀ now,
        (message.payloadHash = payloadHash → ∃ answer,
          (OutboxCall.enqueue message now).perform s.tables = (.ok (some answer), s.tables) ∧
            answer.state = .delivered ∧ answer.terminalEffectHash = some effectHash) ∧
        (message.payloadHash ≠ payloadHash →
          (OutboxCall.enqueue message now).perform s.tables =
            (.error "OUTBOX_IDEMPOTENCY_CONFLICT", s.tables))) := by
  have hinv := outboxInvariant_reachable h
  refine ⟨?_, ?_, ?_, ?_, ?_, ?_, hinv.sound.keys, ?_⟩
  -- a delivery stays known, as a row or as a tombstone
  · intro s' hrun key payloadHash effectHash hdelivered
    exact keeps_along (P := fun t => t.DeliveredWith key payloadHash effectHash)
      (fun hmove hsound => hmove.deliveredWith hsound) hinv hrun hdelivered
  · intro s' hrun row hr hstate
    exact keeps_along (P := fun t => row ∈ t.messages)
      (fun hmove hsound hmem => hmove.deadLetter hsound hmem hstate) hinv hrun hr
  -- a call that ends a message was made with its latest claim
  · intro call answer hok messageId token hterminates
    obtain ⟨claim, hclaim, hid, htoken, hholds⟩ := hinv.terminated hok hterminates
    exact ⟨claim, hclaim, hid, htoken, hholds, fun other => hinv.latest hholds⟩
  · intro s' hrun claim hclaim hholds
    exact holds_earlier hinv hrun hclaim hholds
  · intro label s' hstep row hmem row' hr hid hopen hterminal
    exact terminal_step hinv hstep hmem hr hid hopen hterminal
  -- generations are compared as they were issued
  · apply hinv.issued.increasing.imp
    intro earlier later hless hkey
    exact WithTop.coe_lt_coe.mp (WithBot.coe_lt_coe.mp (hless hkey))
  · intro key payloadHash effectHash hdelivered message hkey now
    exact enqueue_delivered hinv.sound hdelivered hkey now

def sampleMessage (payloadHash : String) : OutboxMessage where
  messageId := "m"
  messageType := "COMMAND_EFFECT_ACCEPTED"
  aggregateType := "run"
  aggregateId := "r"
  idempotencyKey := "k"
  payloadJson := "null"
  payloadHash := payloadHash

def sampleHash : String := "aaaaaaaaaaaaaaaaaaaaaaaaaaaaaaaaaaaaaaaaaaaaaaaaaaaaaaaaaaaaaaaa"

def deliveryLabels : List OutboxLabel :=
  [.call (.enqueue (sampleMessage sampleHash) "2026-01-01T00:00:00Z"),
    .call (.claimNext "engine-1" "token-1" "2026-01-01T00:00:00Z" 1000 "2026-01-01T00:00:00Z"),
    .call (.requeueExpired "m" "engine-1" 1 "token-1" "2026-01-01T00:00:01Z"),
    .call (.claimNext "engine-2" "token-2" "2026-01-01T00:00:02Z" 1000 "2026-01-01T00:00:02Z"),
    .call (.deliver "m" "token-1" sampleHash "2026-01-01T00:00:03Z"),
    .call (.deliver "m" "token-2" sampleHash "2026-01-01T00:00:04Z"), .compact "m"]

theorem outbox_delivery_discipline_replayed :
    ∃ s, outbox.replay {} deliveryLabels = some s ∧ s.tables.messages = [] ∧
      s.claims.map OutboxClaim.generation = [1, 3] ∧
      (OutboxCall.enqueue (sampleMessage "other") "2026-01-01T00:00:05Z").perform s.tables =
        (.error "OUTBOX_IDEMPOTENCY_CONFLICT", s.tables) := by
  obtain ⟨s, hrun, hrows, hclaims, hrecorded⟩ : ∃ s, outbox.replay {} deliveryLabels = some s ∧
      s.tables.messages = [] ∧ s.claims.map OutboxClaim.generation = [1, 3] ∧
      ∃ tombstone ∈ s.tables.tombstones, tombstone.deduplicationKey = "k" ∧
        tombstone.payloadHash = sampleHash ∧ tombstone.terminalEffectHash = sampleHash :=
    ⟨_, rfl, by decide +kernel, by decide +kernel, by decide +kernel⟩
  have hreach : outbox.Reachable s := System.Reachable.replay (.init rfl) deliveryLabels hrun
  have hdelivered : s.tables.DeliveredWith "k" sampleHash sampleHash :=
    .inr ⟨by simp [hrows], hrecorded⟩
  have hagain := (outbox_delivery_discipline hreach).2.2.2.2.2.2.2 "k" sampleHash sampleHash
    hdelivered (sampleMessage "other") rfl "2026-01-01T00:00:05Z"
  exact ⟨s, hrun, hrows, hclaims, hagain.2 (by decide)⟩

end MediaSync.Catalog
