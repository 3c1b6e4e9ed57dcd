import MediaSync.StateStores.MigrationSafety

/-! Over any history of starts, each of which may be killed at any of its writes, of plans that grow
and of work on the stores, at most one epoch is pending, a committed epoch has brought both stores
to its targets, and no store that held data is changed before both are backed up. -/
namespace MediaSync.StateStores
open Text Killable

variable {Content : Type}

def EpochDir.Open (epoch : EpochDir Content) : Prop :=
  epoch.intent ≠ none ∧ epoch.committed = none

def EpochDir.Unpublished (epoch : EpochDir Content) : Prop :=
  epoch.intent = none ∧ epoch.backup = none ∧ epoch.committed = none ∧
    epoch.committedTemp = false

def EpochSound (lib : SqliteLibrary Content) (host : MigrationHost) (plans : StatePlans)
    (stores : SqliteStore → StoreFile Content) (epoch : EpochDir Content) : Prop :=
  validEpochId epoch.epochId = true ∧
    (epoch.Unpublished ∨ (∃ intent, Pending lib host plans intent ⟨stores, epoch⟩) ∨
      ∃ intent, Closed lib host plans intent ⟨stores, epoch⟩)

def Paired (lib : SqliteLibrary Content) (plans : StatePlans)
    (stores : SqliteStore → StoreFile Content) : Prop :=
  (∀ store, Unmade lib (stores store)) ∨
    ∀ store, ∃ n, HasIntents store n ∧ Managed (plans.plan store) n (stores store)

/-- The invariant of the state root. -/
structure Sound (lib : SqliteLibrary Content) (host : MigrationHost) (plans : StatePlans)
    (st : StateRoot Content) : Prop where
  unique : (st.epochs.map EpochDir.epochId).Nodup
  epochs : ∀ e ∈ st.epochs, EpochSound lib host plans st.stores e
  single : ∀ e ∈ st.epochs, ∀ e' ∈ st.epochs, e.Open → e'.Open → e.epochId = e'.epochId
  settled : (∀ e ∈ st.epochs, ¬ e.Open) → Paired lib plans st.stores
  intents : ∀ store, HasIntents store (plans.plan store).migrations.length

/-- A kill left some of a store's metadata, or a part of a manifest. -/
def Torn (st : StateRoot Content) : Prop :=
  (∃ store, HalfMade (st.stores store)) ∨ ∃ e ∈ st.epochs, e.Open ∧ TornManifest e

def Kept (st st' : StateRoot Content) : Prop :=
  ∀ e ∈ st.epochs, e.intent ≠ none →
    ∃ e' ∈ st'.epochs, e'.epochId = e.epochId ∧ e'.intent ≠ none

section
variable {lib : SqliteLibrary Content} {host : MigrationHost} {plans plans' : StatePlans}
  {st st' st₀ : StateRoot Content} {e e' : EpochDir Content} {w : Workplace Content}
  {stores : SqliteStore → StoreFile Content}

theorem Kept.refl (st : StateRoot Content) : Kept st st := fun e he hintent => ⟨e, he, rfl, hintent⟩

theorem Kept.trans {st'' : StateRoot Content} (h : Kept st st') (h' : Kept st' st'') :
    Kept st st'' := by
  intro e he hintent
  obtain ⟨e', he', hid', hintent'⟩ := h e he hintent
  obtain ⟨e'', he'', hid'', hintent''⟩ := h' e' he' hintent'
  exact ⟨e'', he'', hid''.trans hid', hintent''⟩

theorem Sound.eq_of_id (h : Sound lib host plans st) (he : e ∈ st.epochs) (he' : e' ∈ st.epochs)
    (hid : e.epochId = e'.epochId) : e = e' :=
  List.inj_on_of_nodup_map h.unique he he' hid

theorem EpochSound.pending (h : EpochSound lib host plans stores e) (hopen : e.Open) :
    ∃ intent, Pending lib host plans intent ⟨stores, e⟩ := by
  obtain ⟨-, hunpublished | hpending | ⟨intent, hclosed⟩⟩ := h
  · exact absurd hunpublished.1 hopen.1
  · exact hpending
  · obtain ⟨marker, hmarker, -⟩ := hclosed.committed
    have hcommitted : e.committed = some marker := hmarker
    exact absurd (hcommitted.symm.trans hopen.2) nofun

theorem EpochSound.closed (h : EpochSound lib host plans stores e) (hintent : e.intent ≠ none)
    (hopen : ¬ e.Open) : ∃ intent, Closed lib host plans intent ⟨stores, e⟩ := by
  obtain ⟨-, hunpublished | ⟨intent, hpending⟩ | hclosed⟩ := h
  · exact absurd hunpublished.1 hintent
  · exact absurd ⟨hintent, hpending.uncommitted⟩ hopen
  · exact hclosed

theorem EpochSound.grown {stores' : SqliteStore → StoreFile Content}
    (h : EpochSound lib host plans stores e) (hopen : ¬ e.Open)
    (hgrown : Grown plans stores stores') : EpochSound lib host plans stores' e := by
  refine ⟨h.1, ?_⟩
  obtain ⟨-, hunpublished | ⟨intent, hpending⟩ | ⟨intent, hclosed⟩⟩ := h
  · exact .inl hunpublished
  · refine absurd ⟨?_, hpending.uncommitted⟩ hopen
    rw [show e.intent = some intent from hpending.published]
    exact Option.some_ne_none _
  · refine .inr (.inr ⟨intent, hclosed.published, hclosed.committed, hclosed.loads,
      hclosed.foundUnmade, ?_, hclosed.backed, hclosed.intents⟩)
    intro store
    obtain ⟨n, hn, hle⟩ := hclosed.reached store
    obtain ⟨n', hn', hle'⟩ := hgrown store n hn
    exact ⟨n', hn', Nat.le_trans hle hle'⟩

theorem Sound.setWorkplace (h : Sound lib host plans st) (epochId : String)
    (hid : w.epoch.epochId = epochId)
    (hothers : ∀ e ∈ st.epochs, e.epochId ≠ epochId → ¬ e.Open)
    (hgrown : Grown plans st.stores w.stores) (hsound : EpochSound lib host plans w.stores w.epoch)
    (hsettled : ¬ w.epoch.Open → Paired lib plans w.stores) (he : e ∈ st.epochs)
    (heId : e.epochId = epochId) : Sound lib host plans (st.setWorkplace epochId w) := by
  have hmem : ∀ x ∈ (st.setWorkplace epochId w).epochs,
      x = w.epoch ∨ (x ∈ st.epochs ∧ x.epochId ≠ epochId) := by
    intro x hx
    obtain ⟨old, hold, rfl⟩ := List.mem_map.mp hx
    by_cases hold' : old.epochId = epochId
    · rw [if_pos hold']
      exact .inl rfl
    · rw [if_neg hold']
      exact .inr ⟨hold, hold'⟩
  have hself : w.epoch ∈ (st.setWorkplace epochId w).epochs :=
    List.mem_map.mpr ⟨e, he, if_pos heId⟩
  have hopen : ∀ x ∈ (st.setWorkplace epochId w).epochs, x.Open → x = w.epoch := by
    intro x hx hxOpen
    obtain hw | ⟨hst, hne⟩ := hmem x hx
    · exact hw
    · exact absurd hxOpen (hothers x hst hne)
  refine ⟨?_, ?_, ?_, ?_, h.intents⟩
  · have hids : (st.setWorkplace epochId w).epochs.map EpochDir.epochId =
        st.epochs.map EpochDir.epochId := by
      show (st.epochs.map fun e => if e.epochId = epochId then w.epoch else e).map _ = _
      rw [List.map_map]
      apply List.map_congr_left
      intro x _
      show (if x.epochId = epochId then w.epoch else x).epochId = x.epochId
      split
      · rename_i hx
        rw [hid, hx]
      · rfl
    rw [hids]
    exact h.unique
  · intro x hx
    obtain rfl | ⟨hst, hne⟩ := hmem x hx
    · exact hsound
    · exact (h.epochs x hst).grown (hothers x hst hne) hgrown
  · intro x hx x' hx' hxOpen hxOpen'
    rw [hopen x hx hxOpen, hopen x' hx' hxOpen']
  · intro hnone
    exact hsettled (hnone w.epoch hself)

theorem Kept.setWorkplace (epochId : String) (hid : w.epoch.epochId = epochId)
    (hintent : w.epoch.intent ≠ none) : Kept st (st.setWorkplace epochId w) := by
  intro e he hpublished
  by_cases heId : e.epochId = epochId
  · exact ⟨w.epoch, List.mem_map.mpr ⟨e, he, if_pos heId⟩, hid.trans heId.symm, hintent⟩
  · exact ⟨e, List.mem_map.mpr ⟨e, he, if_neg heId⟩, rfl, hpublished⟩

theorem Sound.workplace (h : Sound lib host plans st) (he : e ∈ st.epochs) :
    st.workplace e.epochId = ⟨st.stores, e⟩ := by
  unfold StateRoot.workplace StateRoot.epochDir
  cases hfind : st.epochs.find? fun x => x.epochId = e.epochId with
  | none => exact absurd (decide_eq_true rfl) (List.find?_eq_none.mp hfind e he)
  | some x =>
    have hx := List.mem_of_find?_eq_some hfind
    have htest := List.find?_some hfind
    have hid : x.epochId = e.epochId := of_decide_eq_true htest
    rw [h.eq_of_id hx he hid]
    rfl

theorem EpochSound.withTemp (h : EpochSound lib host plans stores e) (intentTemp : Bool) :
    EpochSound lib host plans stores { e with intentTemp } := by
  refine ⟨h.1, ?_⟩
  obtain ⟨-, hunpublished | ⟨intent, hpending⟩ | ⟨intent, hclosed⟩⟩ := h
  · exact .inl hunpublished
  · exact .inr (.inl ⟨intent, hpending.withTemp intentTemp⟩)
  · exact .inr (.inr ⟨intent, hclosed.published, hclosed.committed, hclosed.loads,
      hclosed.foundUnmade, hclosed.reached, hclosed.backed, hclosed.intents⟩)

/-- Where a scan of `st₀` has come: the stores and the published epochs are the same, and nothing
is new. -/
structure Swept (lib : SqliteLibrary Content) (host : MigrationHost) (plans : StatePlans)
    (st₀ st : StateRoot Content) : Prop where
  sound : Sound lib host plans st
  stores : st.stores = st₀.stores
  published : ∀ e, e.intent ≠ none → (e ∈ st.epochs ↔ e ∈ st₀.epochs)
  ids : ∀ e ∈ st.epochs, ∃ e₀ ∈ st₀.epochs, e₀.epochId = e.epochId
  length : st.epochs.length ≤ st₀.epochs.length

theorem Swept.refl (h : Sound lib host plans st) : Swept lib host plans st st :=
  ⟨h, rfl, fun _ _ => Iff.rfl, fun e he => ⟨e, he, rfl⟩, Nat.le_refl _⟩

theorem Swept.kept (h : Swept lib host plans st₀ st) : Kept st₀ st :=
  fun e he hintent => ⟨e, (h.published e hintent).mpr he, rfl, hintent⟩

variable {epochs : List (EpochDir Content)}

theorem Swept.prune (h : Swept lib host plans st₀ st)
    (hids : (epochs.map EpochDir.epochId).Sublist (st.epochs.map EpochDir.epochId))
    (hpublished : ∀ e, e.intent ≠ none → (e ∈ epochs ↔ e ∈ st.epochs))
    (hsound : ∀ e ∈ epochs, EpochSound lib host plans st.stores e) :
    Swept lib host plans st₀ { st with epochs } := by
  refine ⟨⟨h.sound.unique.sublist hids, hsound, ?_, ?_, h.sound.intents⟩, h.stores, ?_, ?_, ?_⟩
  · intro e he e' he' hopen hopen'
    exact h.sound.single e ((hpublished e hopen.1).mp he) e' ((hpublished e' hopen'.1).mp he')
      hopen hopen'
  · intro hnone
    apply h.sound.settled
    intro e he hopen
    exact hnone e ((hpublished e hopen.1).mpr he) hopen
  · intro e hintent
    exact (hpublished e hintent).trans (h.published e hintent)
  · intro e he
    obtain ⟨x, hx, hid⟩ := List.mem_map.mp (hids.subset (List.mem_map_of_mem he))
    obtain ⟨e₀, he₀, hid₀⟩ := h.ids x hx
    exact ⟨e₀, he₀, hid₀.trans hid⟩
  · have hlength := hids.length_le
    rw [List.length_map, List.length_map] at hlength
    exact Nat.le_trans hlength h.length

theorem removeUnpublished_survives (hst₀ : Sound lib host plans st₀) (he : e ∈ st₀.epochs)
    (hunpublished : e.Unpublished) :
    Survives (Swept lib host plans st₀) (removeUnpublishedEpoch e) (Swept lib host plans st₀)
      fun _ => Swept lib host plans st₀ := by
  -- what has the id of an unpublished epoch is not published
  have hnone : ∀ st, Swept lib host plans st₀ st → ∀ x ∈ st.epochs, x.epochId = e.epochId →
      x.intent = none := by
    intro st hst x hx hid
    by_contra hintent
    have hx₀ := (hst.published x hintent).mp hx
    have heq := hst₀.eq_of_id hx₀ he hid
    rw [heq] at hintent
    exact hintent hunpublished.1
  obtain ⟨hintent, hbackup, hcommitted, htemp⟩ := hunpublished
  unfold removeUnpublishedEpoch
  refine Survives.ofExcept_bind (a := ()) (require_eq_ok.mpr ?_) ?_
  · rw [hbackup, hcommitted, htemp]
    rfl
  refine Survives.bind (Q := fun _ => Swept lib host plans st₀)
    (Survives.atomically ?_ fun _ => id) fun _ => Survives.atomically ?_ fun _ => id
  · intro st hst
    have hmem : ∀ x ∈ st.epochs.map (fun x => if x.epochId = e.epochId then
        { x with intentTemp := false } else x), ∃ old ∈ st.epochs, ∃ temp,
          x = { old with intentTemp := temp } ∧ (old.intent ≠ none → x = old) := by
      intro x hx
      obtain ⟨old, hold, rfl⟩ := List.mem_map.mp hx
      by_cases hid : old.epochId = e.epochId
      · rw [if_pos hid]
        exact ⟨old, hold, false, rfl, fun hne => absurd (hnone st hst old hold hid) hne⟩
      · rw [if_neg hid]
        exact ⟨old, hold, old.intentTemp, rfl, fun _ => rfl⟩
    refine hst.prune ?_ ?_ ?_
    · have hids : (st.epochs.map fun x => if x.epochId = e.epochId then
          { x with intentTemp := false } else x).map EpochDir.epochId =
            st.epochs.map EpochDir.epochId := by
        rw [List.map_map]
        apply List.map_congr_left
        intro x _
        show (if x.epochId = e.epochId then { x with intentTemp := false } else x).epochId = _
        split <;> rfl
      rw [hids]
    · intro x hintent'
      constructor
      · intro hx
        obtain ⟨old, hold, temp, rfl, hsame⟩ := hmem x hx
        rw [hsame hintent']
        exact hold
      · intro hx
        refine List.mem_map.mpr ⟨x, hx, if_neg ?_⟩
        intro hid
        exact hintent' (hnone st hst x hx hid)
    · intro x hx
      obtain ⟨old, hold, temp, rfl, -⟩ := hmem x hx
      exact (hst.sound.epochs old hold).withTemp temp
  · intro st hst
    refine hst.prune ((List.filter_sublist).map _) ?_ ?_
    · intro x hintent'
      constructor
      · exact List.mem_of_mem_filter
      · intro hx
        refine List.mem_filter.mpr ⟨hx, decide_eq_true ?_⟩
        intro hid
        exact hintent' (hnone st hst x hx hid)
    · intro x hx
      exact hst.sound.epochs x (List.mem_of_mem_filter hx)

def openIntents (epochs : List (EpochDir Content)) : List MigrationIntent :=
  epochs.filterMap fun e => if e.committed.isNone then e.intent else none

theorem scanEntries_survives (hst₀ : Sound lib host plans st₀) {entries : List (EpochDir Content)}
    (hentries : ∀ e ∈ entries, e ∈ st₀.epochs) :
    Survives (Swept lib host plans st₀) (scanEntries host plans entries)
      (Swept lib host plans st₀)
      fun found st => found.2 = openIntents entries ∧ Swept lib host plans st₀ st := by
  induction entries with
  | nil => exact Survives.pure _ fun st hst => ⟨rfl, hst⟩
  | cons e rest ih =>
    have ih := ih fun x hx => hentries x (List.mem_cons_of_mem e hx)
    have he := hentries e List.mem_cons_self
    have hsound := hst₀.epochs e he
    unfold scanEntries
    refine Survives.ofExcept_bind (a := ()) (require_eq_ok.mpr hsound.1) ?_
    cases hintent : e.intent with
    | none =>
      have hunpublished : e.Unpublished := by
        obtain ⟨-, hunpublished | ⟨intent, hpending⟩ | ⟨intent, hclosed⟩⟩ := hsound
        · exact hunpublished
        · exact absurd (hintent.symm.trans hpending.published) nofun
        · exact absurd (hintent.symm.trans hclosed.published) nofun
      have hrest : openIntents (e :: rest) = openIntents rest := by
        unfold openIntents
        rw [List.filterMap_cons, hintent]
        simp
      rw [hrest]
      exact Survives.bind (removeUnpublished_survives hst₀ he hunpublished) fun _ => ih
    | some intent =>
      have hne : e.intent ≠ none := hintent ▸ Option.some_ne_none intent
      cases hcommitted : e.committed with
      | some marker =>
        have hnotOpen : ¬ e.Open := fun hopen => absurd (hcommitted.symm.trans hopen.2) nofun
        obtain ⟨intent', hclosed⟩ := hsound.closed hne hnotOpen
        obtain rfl := Option.some.inj (hintent.symm.trans hclosed.published)
        obtain ⟨marker', hmarker, hvalid⟩ := hclosed.committed
        obtain rfl := Option.some.inj (hcommitted.symm.trans hmarker)
        have hrest : openIntents (e :: rest) = openIntents rest := by
          unfold openIntents
          rw [List.filterMap_cons, hcommitted]
          rfl
        rw [hrest]
        refine Survives.ofExcept_bind hclosed.loads.loadIntent ?_
        refine Survives.ofExcept_bind hvalid ?_
        exact Survives.bind ih fun found => Survives.pure _ fun st hst => hst
      | none =>
        obtain ⟨intent', hpending⟩ := hsound.pending ⟨hne, hcommitted⟩
        obtain rfl := Option.some.inj (hintent.symm.trans hpending.published)
        have hrest : openIntents (e :: rest) = intent :: openIntents rest := by
          unfold openIntents
          rw [List.filterMap_cons, hcommitted, hintent]
          rfl
        rw [hrest]
        refine Survives.ofExcept_bind hpending.loads.loadIntent ?_
        refine Survives.bind ih fun found => Survives.pure _ ?_
        exact fun st hst => ⟨congrArg (intent :: ·) hst.1, hst.2⟩

theorem openIntents_cases (hunique : (epochs.map EpochDir.epochId).Nodup)
    (hsingle : ∀ e ∈ epochs, ∀ e' ∈ epochs, e.Open → e'.Open → e.epochId = e'.epochId) :
    (openIntents epochs = [] ∧ ∀ e ∈ epochs, ¬ e.Open) ∨
      ∃ e ∈ epochs, e.Open ∧ ∃ intent, e.intent = some intent ∧ openIntents epochs = [intent] := by
  induction epochs with
  | nil => exact .inl ⟨rfl, fun _ he => absurd he List.not_mem_nil⟩
  | cons e rest ih =>
    rw [List.map_cons, List.nodup_cons] at hunique
    obtain ⟨hnew, hunique⟩ := hunique
    have ih := ih hunique fun x hx x' hx' =>
      hsingle x (List.mem_cons_of_mem e hx) x' (List.mem_cons_of_mem e hx')
    by_cases hopen : e.Open
    · obtain ⟨intent, hintent⟩ := Option.ne_none_iff_exists'.mp hopen.1
      have hcons : openIntents (e :: rest) = intent :: openIntents rest := by
        unfold openIntents
        rw [List.filterMap_cons, hopen.2, hintent]
        rfl
      obtain ⟨hnil, -⟩ | ⟨x, hx, hxOpen, -⟩ := ih
      · exact .inr ⟨e, List.mem_cons_self, hopen, intent, hintent, by rw [hcons, hnil]⟩
      · have hid := hsingle e List.mem_cons_self x (List.mem_cons_of_mem e hx) hopen hxOpen
        rw [hid] at hnew
        exact absurd (List.mem_map_of_mem hx) hnew
    · have hcons : openIntents (e :: rest) = openIntents rest := by
        unfold openIntents
        rw [List.filterMap_cons]
        have hnone : (if e.committed.isNone then e.intent else none) = none := by
          split
          · rename_i hcommitted
            by_contra hintent
            exact hopen ⟨hintent, Option.isNone_iff_eq_none.mp hcommitted⟩
          · rfl
        rw [hnone]
      rw [hcons]
      obtain ⟨hnil, hrest⟩ | ⟨x, hx, hxOpen, hintent⟩ := ih
      · exact .inl ⟨hnil, List.forall_mem_cons.mpr ⟨hopen, hrest⟩⟩
      · exact .inr ⟨x, List.mem_cons_of_mem e hx, hxOpen, hintent⟩

theorem scanEpochs_survives (hst₀ : Sound lib host plans st₀)
    (hlimit : st₀.epochs.length ≤ stateMigrationEpochScanLimit) :
    Survives (· = st₀) (scanEpochs host plans) (Swept lib host plans st₀) fun found st =>
      ((found.2 = none ∧ ∀ e ∈ st₀.epochs, ¬ e.Open) ∨
        ∃ e ∈ st₀.epochs, e.Open ∧ found.2 = e.intent) ∧ Swept lib host plans st₀ st := by
  unfold scanEpochs
  refine Survives.read_bind rfl ?_
  refine Survives.ofExcept_bind (a := ()) (require_eq_ok.mpr (decide_eq_true hlimit)) ?_
  refine Survives.bind ((scanEntries_survives hst₀ fun _ => id).pre ?_) ?_
  · rintro st rfl
    exact Swept.refl hst₀
  rintro ⟨committed, pending⟩
  refine Survives.given fun hpending => ?_
  have hcases := openIntents_cases hst₀.unique hst₀.single
  have hlength : pending.length ≤ 1 := by
    rw [show pending = openIntents st₀.epochs from hpending]
    obtain ⟨hnil, -⟩ | ⟨e, -, -, intent, -, hsingle⟩ := hcases
    · rw [hnil]
      exact Nat.zero_le 1
    · rw [hsingle]
      exact Nat.le_refl 1
  refine Survives.ofExcept_bind (a := ()) (require_eq_ok.mpr (decide_eq_true hlength)) ?_
  refine Survives.pure _ fun st hst => ⟨?_, hst⟩
  show (pending.head? = none ∧ _) ∨ ∃ e ∈ st₀.epochs, e.Open ∧ pending.head? = e.intent
  rw [show pending = openIntents st₀.epochs from hpending]
  obtain ⟨hnil, hnone⟩ | ⟨e, he, hopen, intent, hintent, hsingle⟩ := hcases
  · exact .inl ⟨by rw [hnil]; rfl, hnone⟩
  · exact .inr ⟨e, he, hopen, by rw [hsingle, hintent]; rfl⟩

theorem Sound.advance (h : Sound lib host plans st) (he : e ∈ st.epochs)
    (hothers : ∀ x ∈ st.epochs, x.epochId ≠ e.epochId → ¬ x.Open)
    (honward : Onward plans ⟨st.stores, e⟩ w)
    (hepoch : (∃ intent, Pending lib host plans intent w) ∨
      ∃ intent, Closed lib host plans intent w) :
    Sound lib host plans (st.setWorkplace e.epochId w) ∧
      Kept st (st.setWorkplace e.epochId w) := by
  have hid : w.epoch.epochId = e.epochId := honward.epochId
  have hvalid : validEpochId w.epoch.epochId = true := hid ▸ (h.epochs e he).1
  have hintent : w.epoch.intent ≠ none := by
    obtain ⟨intent, hpending⟩ | ⟨intent, hclosed⟩ := hepoch
    · rw [hpending.published]
      exact Option.some_ne_none intent
    · rw [hclosed.published]
      exact Option.some_ne_none intent
  refine ⟨h.setWorkplace e.epochId hid hothers honward.grown ⟨hvalid, .inr hepoch⟩ ?_ he rfl,
    Kept.setWorkplace e.epochId hid hintent⟩
  intro hnotOpen
  obtain ⟨intent, hpending⟩ | ⟨intent, hclosed⟩ := hepoch
  · exact absurd ⟨hintent, hpending.uncommitted⟩ hnotOpen
  · refine .inr fun store => ?_
    obtain ⟨n, hn, hle⟩ := hclosed.reached store
    exact ⟨n, fun hrecovery => Nat.le_trans (hclosed.intents store hrecovery) hle, hn⟩

/-- No epoch of `st` is open. -/
def Settled (st : StateRoot Content) : Prop := ∀ e ∈ st.epochs, ¬ e.Open

variable {intent : MigrationIntent}

theorem executeOpen_survives {completedUtc : String} (h : Sound lib host plans st)
    (he : e ∈ st.epochs) (hopen : e.Open) (hintent : e.intent = some intent)
    (hwhole : ∀ store, ¬ HalfMade (st.stores store)) (htorn : ¬ TornManifest e)
    (hcompleted : nonBlank completedUtc = true) :
    Survives (· = st) (inEpoch intent.epochId (executeEpoch lib plans completedUtc intent))
      (Sound lib host plans) fun _ st' => Sound lib host plans st' ∧ Settled st' ∧ Kept st st' ∧
        st'.epochs.map EpochDir.epochId = st.epochs.map EpochDir.epochId ∧
        ∀ store, DoneAt (plans.plan store) (intent.stores.get store).targetVersion
          (st'.stores store) := by
  obtain ⟨intent', hpending⟩ := (h.epochs e he).pending hopen
  obtain rfl := Option.some.inj (hintent.symm.trans hpending.published)
  have hid : intent.epochId = e.epochId := hpending.loads.dirName_eq.symm
  have hothers : ∀ x ∈ st.epochs, x.epochId ≠ e.epochId → ¬ x.Open :=
    fun x hx hne hxOpen => hne (h.single x hx e he hxOpen hopen)
  have hexecute : Survives (· = st) (inEpoch e.epochId
      (executeEpoch lib plans completedUtc intent)) _ _ :=
    Survives.onPart (I := (· = ⟨st.stores, e⟩)) (h.workplace he)
      (executeEpoch_survives hpending hwhole htorn hcompleted)
  rw [hid]
  refine hexecute.consequence (fun _ => id) ?_ ?_
  · rintro st' ⟨w, rfl, intent', hpending', honward⟩
    exact (h.advance he hothers honward (.inl ⟨intent', hpending'⟩)).1
  · rintro _ st' ⟨w, rfl, ⟨intent', hclosed⟩, honward, hdone⟩
    obtain ⟨hsound, hkept⟩ := h.advance he hothers honward (.inr ⟨intent', hclosed⟩)
    have hwid : w.epoch.epochId = e.epochId := honward.epochId
    refine ⟨hsound, ?_, hkept, ?_, hdone⟩
    · intro x hx hxOpen
      obtain ⟨old, hold, rfl⟩ := List.mem_map.mp hx
      by_cases hold' : old.epochId = e.epochId
      · rw [if_pos hold'] at hxOpen
        obtain ⟨marker, hmarker, -⟩ := hclosed.committed
        exact absurd (hmarker.symm.trans hxOpen.2) nofun
      · rw [if_neg hold'] at hxOpen
        exact hothers old hold hold' hxOpen
    · show (st.epochs.map fun x => if x.epochId = e.epochId then w.epoch else x).map _ = _
      rw [List.map_map]
      apply List.map_congr_left
      intro x _
      show (if x.epochId = e.epochId then w.epoch else x).epochId = x.epochId
      split
      · rename_i hx
        rw [hwid, hx]
      · rfl

/-- A manifest that was cut short ends the epoch before its first write. -/
theorem executeOpen_torn {completedUtc : String} (h : Sound lib host plans st)
    (he : e ∈ st.epochs) (hopen : e.Open) (hintent : e.intent = some intent)
    (htorn : TornManifest e) :
    Ends (· = st) (inEpoch intent.epochId (executeEpoch lib plans completedUtc intent))
      (fun _ => False) (fun _ => Sound lib host plans) fun _ _ => False := by
  obtain ⟨intent', hpending⟩ := (h.epochs e he).pending hopen
  obtain rfl := Option.some.inj (hintent.symm.trans hpending.published)
  have hid : intent.epochId = e.epochId := hpending.loads.dirName_eq.symm
  have hothers : ∀ x ∈ st.epochs, x.epochId ≠ e.epochId → ¬ x.Open :=
    fun x hx hne hxOpen => hne (h.single x hx e he hxOpen hopen)
  have hexecute : Ends (· = st) (inEpoch e.epochId
      (executeEpoch lib plans completedUtc intent)) _ _ _ :=
    Ends.onPart (I := (· = ⟨st.stores, e⟩)) (h.workplace he) (executeEpoch_torn hpending htorn)
  rw [hid]
  refine hexecute.consequence (fun _ => id) (fun _ ⟨_, _, hw⟩ => hw) ?_ fun _ _ ⟨_, _, hw⟩ => hw
  rintro _ st' ⟨w, rfl, rfl⟩
  exact (h.advance he hothers (Onward.refl _) (.inl ⟨intent, hpending⟩)).1

theorem newStoreIntent_stands {plan : SqliteMigrationPlan} {file : StoreFile Content}
    {state : SqliteMigrationState} (hfile : Unmade lib file ∨ ∃ n, Managed plan n file)
    (hread : inspectStore lib file plan = .ok state) :
    Stands lib plan (newStoreIntent state) file ∧
      ((newStoreIntent state).phase = .verified →
        DoneAt plan (newStoreIntent state).targetVersion file) ∧
      (newStoreIntent state).targetVersion = plan.migrations.length ∧
      (newStoreIntent state).beforeVersion ≤ (newStoreIntent state).targetVersion ∧
      (state.initialized = true → Managed plan (newStoreIntent state).beforeVersion file) ∧
      (state.initialized = false → Unmade lib file) := by
  have hpositive : plan.migrations.length ≠ 0 := mt List.length_eq_zero_iff.mp plan.nonempty
  obtain hunmade | ⟨n, hmanaged⟩ := hfile
  · obtain rfl := Except.ok.inj (hread.symm.trans (inspectStore_unmade hunmade))
    refine ⟨.inr ⟨rfl, rfl, .inl hunmade⟩, ?_, rfl, Nat.zero_le _, nofun, fun _ => hunmade⟩
    intro hphase
    have hzero : decide (0 = plan.migrations.length) = false :=
      decide_eq_false fun hzero => hpositive hzero.symm
    unfold newStoreIntent at hphase
    rw [hzero] at hphase
    cases hphase
  · obtain ⟨missing, hstate, hdone⟩ := inspectStore_managed lib hmanaged
    obtain rfl := Except.ok.inj (hread.symm.trans hstate)
    refine ⟨.inl ⟨n, hmanaged, Nat.le_refl n, hmanaged.fits⟩, ?_, rfl, hmanaged.fits,
      fun _ => hmanaged, nofun⟩
    intro hphase
    show DoneAt plan plan.migrations.length file
    by_cases hreached : n = plan.migrations.length
    · cases missing with
      | false => exact hreached ▸ hdone rfl
      | true =>
        unfold newStoreIntent at hphase
        rw [Bool.not_true, Bool.and_false] at hphase
        cases hphase
    · unfold newStoreIntent at hphase
      rw [decide_eq_false hreached, Bool.false_and] at hphase
      cases hphase

/-- What a start is called with. -/
structure Admissible (call : MigrationCall) (st : StateRoot Content) : Prop where
  texts : nonBlank call.appVersion = true ∧ nonBlank call.startedUtc = true ∧
    nonBlank call.completedUtc = true
  validIds : ∀ created, validEpochId (call.makeEpochId created) = true
  freshIds : ∀ created, ∀ e ∈ st.epochs, e.epochId ≠ call.makeEpochId created
  /-- The epochs of this start are within the limit of the scan. -/
  limit : st.epochs.length < stateMigrationEpochScanLimit

variable {states : Both SqliteMigrationState}

theorem newIntent_pending {call : MigrationCall} {epochId hash : String}
    (hpaired : Paired lib call.plans stores)
    (hread : ∀ store, inspectStore lib (stores store) (call.plans.plan store) =
      .ok (states.get store)) (hvalid : validEpochId epochId = true)
    (htexts : nonBlank call.startedUtc = true ∧ nonBlank call.appVersion = true)
    (hhash : planHash call.plans
      ⟨newStoreIntent states.catalog, newStoreIntent states.recovery⟩ = .ok hash)
    (hintents : ∀ store, HasIntents store (call.plans.plan store).migrations.length) :
    Pending lib host call.plans (newIntent host call states epochId hash)
      (Workplace.withIntent ⟨stores, { epochId, found := stores }⟩
        (newIntent host call states epochId hash)) := by
  have hget : ∀ store, (newIntent host call states epochId hash).stores.get store =
      newStoreIntent (states.get store) := by
    intro store
    cases store <;> rfl
  have hfile : ∀ store, Unmade lib (stores store) ∨
      ∃ n, Managed (call.plans.plan store) n (stores store) := by
    intro store
    obtain hunmade | hmanaged := hpaired
    · exact .inl (hunmade store)
    · obtain ⟨n, -, hn⟩ := hmanaged store
      exact .inr ⟨n, hn⟩
  have hfacts := fun store => newStoreIntent_stands (hfile store) (hread store)
  -- the stores are initialised together
  have hinitialized : ∀ store, (states.get store).initialized =
      (states.catalog.initialized && states.recovery.initialized) := by
    have hboth : (∀ store, (states.get store).initialized = true) ∨
        ∀ store, (states.get store).initialized = false := by
      obtain hunmade | hmanaged := hpaired
      · right
        intro store
        have hstate := (hread store).symm.trans (inspectStore_unmade (hunmade store))
        rw [Except.ok.inj hstate]
      · left
        intro store
        obtain ⟨n, -, hn⟩ := hmanaged store
        obtain ⟨missing, hstate, -⟩ := inspectStore_managed lib hn
        rw [Except.ok.inj ((hread store).symm.trans hstate)]
    intro store
    obtain htrue | hfalse := hboth
    · have hcatalog : states.catalog.initialized = true := htrue .catalog
      have hrecovery : states.recovery.initialized = true := htrue .recovery
      rw [htrue store, hcatalog, hrecovery]
      rfl
    · have hcatalog : states.catalog.initialized = false := hfalse .catalog
      rw [hfalse store, hcatalog]
      rfl
  have hstatus : (newIntent host call states epochId hash).backupStatus =
      if (newIntent host call states epochId hash).backupRequired then .pending
      else .notRequired := rfl
  refine ⟨rfl, rfl, ⟨hvalid, rfl, rfl, ⟨rfl, rfl⟩, rfl, ?_, ?_, hhash, rfl, ?_, htexts,
    Nat.le_refl 1⟩, ?_, ?_, ?_, ?_, ?_, ?_, ?_, ?_⟩
  · rw [hstatus]
    constructor
    · split <;> nofun
    · exact nofun
  · intro store
    rw [hget]
    obtain ⟨-, -, htarget, hbefore, -⟩ := hfacts store
    refine ⟨?_, hbefore, Nat.le_of_eq htarget⟩
    rw [htarget]
    exact Nat.one_le_iff_ne_zero.mpr
      (mt List.length_eq_zero_iff.mp (call.plans.plan store).nonempty)
  · intro hnone
    rw [hstatus, hnone]
    rfl
  · intro store
    rw [hget]
    exact hinitialized store
  · intro hnone store
    obtain ⟨-, -, -, -, -, hunmade⟩ := hfacts store
    exact hunmade ((hinitialized store).trans hnone)
  · intro store
    rw [hget]
    exact (hfacts store).1
  · intro store
    rw [hget]
    exact (hfacts store).2.1
  · intro hrequired
    rw [hstatus, hrequired]
    exact nofun
  · intro hpending
    refine ⟨fun _ => rfl, ?_, Fine.of_unwritten nofun⟩
    intro store
    rw [hget]
    obtain ⟨-, -, -, -, hbefore, -⟩ := hfacts store
    have hbefore : Managed (call.plans.plan store) (newStoreIntent (states.get store)).beforeVersion
        (stores store) := by
      refine hbefore ((hinitialized store).trans ?_)
      cases hrequired : (newIntent host call states epochId hash).backupRequired with
      | true => exact hrequired
      | false =>
        rw [hstatus, hrequired] at hpending
        cases hpending
    refine ⟨?_, hbefore⟩
    obtain hunmade | hmanaged := hpaired
    · exact absurd (hunmade store) hbefore.not_unmade
    · obtain ⟨n, hn, hfile⟩ := hmanaged store
      exact hbefore.unique hfile ▸ hn
  · intro hverified
    rw [hstatus] at hverified
    split at hverified <;> cases hverified
  · intro store
    rw [hget]
    obtain ⟨-, -, htarget, -⟩ := hfacts store
    exact htarget ▸ hintents store

theorem inspectAll_ok (h : inspectAll lib plans stores = .ok states) (store : SqliteStore) :
    inspectStore lib (stores store) (plans.plan store) = .ok (states.get store) := by
  unfold inspectAll at h
  obtain ⟨catalog, hcatalog, h⟩ := except_bind_ok h
  obtain ⟨recovery, hrecovery, h⟩ := except_bind_ok h
  obtain rfl := Except.ok.inj h
  cases store with
  | catalog => exact hcatalog
  | recovery => exact hrecovery

theorem createEpochIntent_survives {call : MigrationCall} {epochId : String}
    (h : Sound lib host call.plans st) (hsettled : Settled st)
    (hread : inspectAll lib call.plans st.stores = .ok states)
    (hvalid : validEpochId epochId = true) (hfresh : ∀ e ∈ st.epochs, e.epochId ≠ epochId)
    (htexts : nonBlank call.appVersion = true ∧ nonBlank call.startedUtc = true) :
    Survives (· = st) (createEpochIntent host call states epochId) (Sound lib host call.plans)
      fun intent st' => Sound lib host call.plans st' ∧ Kept st st' ∧ st'.stores = st.stores ∧
        st'.epochs.length = st.epochs.length + 1 ∧
        (∃ e ∈ st'.epochs, e.Open ∧ e.intent = some intent ∧ ¬ TornManifest e) ∧
        ∀ store, (intent.stores.get store).targetVersion =
          (call.plans.plan store).migrations.length := by
  have hpaired := h.settled hsettled
  have hreads := inspectAll_ok hread
  have hinitialized : states.catalog.initialized = states.recovery.initialized := by
    obtain hunmade | hmanaged := hpaired
    · have hcatalog := Except.ok.inj
        ((hreads .catalog).symm.trans (inspectStore_unmade (hunmade .catalog)))
      have hrecovery := Except.ok.inj
        ((hreads .recovery).symm.trans (inspectStore_unmade (hunmade .recovery)))
      rw [show states.catalog = _ from hcatalog, show states.recovery = _ from hrecovery]
    · obtain ⟨n, -, hn⟩ := hmanaged .catalog
      obtain ⟨m, -, hm⟩ := hmanaged .recovery
      obtain ⟨missing, hcatalog, -⟩ := inspectStore_managed lib hn
      obtain ⟨missing', hrecovery, -⟩ := inspectStore_managed lib hm
      have hcatalog := Except.ok.inj ((hreads .catalog).symm.trans hcatalog)
      have hrecovery := Except.ok.inj ((hreads .recovery).symm.trans hrecovery)
      rw [show states.catalog = _ from hcatalog, show states.recovery = _ from hrecovery]
  -- the root with the directory of the new epoch, in which nothing is written yet
  let created : EpochDir Content := { epochId, found := st.stores }
  let st₁ : StateRoot Content := { st with epochs := st.epochs ++ [created] }
  have hcreated : created ∈ st₁.epochs := List.mem_append_right _ List.mem_cons_self
  have hnotOpen : ¬ created.Open := fun hopen => hopen.1 rfl
  have hmem : ∀ e ∈ st₁.epochs, e ∈ st.epochs ∨ e = created := by
    intro e he
    obtain hold | hnew := List.mem_append.mp he
    · exact .inl hold
    · exact .inr (List.mem_singleton.mp hnew)
  have hsettled₁ : Settled st₁ := by
    intro e he
    obtain hold | rfl := hmem e he
    · exact hsettled e hold
    · exact hnotOpen
  have hsound₁ : Sound lib host call.plans st₁ := by
    refine ⟨?_, ?_, ?_, fun _ => hpaired, h.intents⟩
    · show ((st.epochs ++ [created]).map EpochDir.epochId).Nodup
      rw [List.map_append]
      refine List.Nodup.append h.unique (List.nodup_singleton _) ?_
      intro id hold hnew
      obtain rfl : id = epochId := List.mem_singleton.mp hnew
      obtain ⟨e, he, hid⟩ := List.mem_map.mp hold
      exact hfresh e he hid
    · intro e he
      obtain hold | rfl := hmem e he
      · exact h.epochs e hold
      · exact ⟨hvalid, .inl ⟨rfl, rfl, rfl, rfl⟩⟩
    · intro e he _ _ hopen
      exact absurd hopen (hsettled₁ e he)
  -- the checks before the directory is made
  unfold createEpochIntent
  refine Survives.ofExcept_bind (a := ()) (require_eq_ok.mpr hvalid) ?_
  refine Survives.ofExcept_bind (a := ()) (require_eq_ok.mpr ?_) ?_
  · rw [htexts.1, htexts.2]
    rfl
  refine Survives.ofExcept_bind (a := ()) (require_eq_ok.mpr (decide_eq_true hinitialized)) ?_
  refine Survives.read_bind rfl ?_
  refine Survives.ofExcept_bind (a := ()) (require_eq_ok.mpr ?_) ?_
  · rw [Bool.not_eq_true', List.any_eq_false]
    exact fun e he => by simpa using hfresh e he
  refine Survives.bind (Q := fun _ st' => st' = st₁) (Survives.atomically ?_ ?_) ?_
  · rintro st' rfl
    rfl
  · rintro st' rfl
    exact h
  intro _
  have hlengths : ∀ store, ((Both.mk (newStoreIntent states.catalog)
      (newStoreIntent states.recovery)).get store).targetVersion =
        (call.plans.plan store).migrations.length := by
    intro store
    have hget : (Both.mk (newStoreIntent states.catalog) (newStoreIntent states.recovery)).get
        store = newStoreIntent (states.get store) := by
      cases store <;> rfl
    have hfile : Unmade lib (st.stores store) ∨
        ∃ n, Managed (call.plans.plan store) n (st.stores store) := by
      obtain hunmade | hmanaged := hpaired
      · exact .inl (hunmade store)
      · obtain ⟨n, -, hn⟩ := hmanaged store
        exact .inr ⟨n, hn⟩
    obtain ⟨-, -, htarget, -⟩ := newStoreIntent_stands hfile (hreads store)
    rw [hget, htarget]
  have htargets : ∀ store, 1 ≤ ((Both.mk (newStoreIntent states.catalog)
      (newStoreIntent states.recovery)).get store).targetVersion ∧
      ((Both.mk (newStoreIntent states.catalog)
        (newStoreIntent states.recovery)).get store).targetVersion ≤
          (call.plans.plan store).migrations.length := by
    intro store
    rw [hlengths store]
    exact ⟨Nat.one_le_iff_ne_zero.mpr
      (mt List.length_eq_zero_iff.mp (call.plans.plan store).nonempty), Nat.le_refl _⟩
  obtain ⟨hash, hhash⟩ : ∃ hash, planHash call.plans
      ⟨newStoreIntent states.catalog, newStoreIntent states.recovery⟩ = .ok hash :=
    ⟨_, planHash_eq htargets⟩
  refine Survives.ofExcept_bind hhash ?_
  -- with its intent the epoch is pending, and nothing but the temporary file can be left before
  have hpending : Pending lib host call.plans (newIntent host call states epochId hash)
      (Workplace.withIntent ⟨st.stores, created⟩ _) :=
    newIntent_pending hpaired hreads hvalid ⟨htexts.2, htexts.1⟩ hhash h.intents
  have hothers : ∀ x ∈ st₁.epochs, x.epochId ≠ epochId → ¬ x.Open := fun x hx _ => hsettled₁ x hx
  have hpublish : Survives (· = st₁)
      (inEpoch epochId (writeIntent (newIntent host call states epochId hash))) _ _ :=
    Survives.onPart (I := (· = ⟨st.stores, created⟩)) (hsound₁.workplace hcreated)
      (writeIntent_survives _ _)
  have hcut : ∀ temp, Sound lib host call.plans (st₁.setWorkplace epochId
      (Workplace.withTemp ⟨st.stores, created⟩ temp)) := by
    intro temp
    exact hsound₁.setWorkplace epochId rfl hothers (Grown.refl _)
      ((hsound₁.epochs created hcreated).withTemp temp) (fun _ => hpaired) hcreated rfl
  refine Survives.bind (hpublish.consequence (fun _ => id) ?_ fun _ _ => id) ?_
  · rintro st' ⟨w, rfl, temp, rfl⟩
    exact hcut temp
  intro _
  apply Survives.pure
  rintro st' ⟨w, rfl, rfl⟩
  have hintent : (Workplace.withIntent ⟨st.stores, created⟩
      (newIntent host call states epochId hash)).epoch.intent ≠ none := Option.some_ne_none _
  have hopen : (Workplace.withIntent ⟨st.stores, created⟩
      (newIntent host call states epochId hash)).epoch.Open := ⟨hintent, rfl⟩
  refine ⟨hsound₁.setWorkplace epochId rfl hothers (Grown.refl _)
    ⟨hvalid, .inr (.inl ⟨_, hpending⟩)⟩ (fun hnot => absurd hopen hnot) hcreated rfl, ?_, rfl, ?_,
    ?_, hlengths⟩
  · have hkept : Kept st st₁ :=
      fun e he hpublished => ⟨e, List.mem_append_left _ he, rfl, hpublished⟩
    exact hkept.trans (Kept.setWorkplace epochId rfl hintent)
  · show (List.map _ (st.epochs ++ [created])).length = _
    rw [List.length_map, List.length_append]
    rfl
  · refine ⟨_, List.mem_map.mpr ⟨created, hcreated, if_pos rfl⟩, hopen, rfl, ?_⟩
    rintro ⟨-, set, hset, -⟩
    cases hset

/-- What a start that returns leaves. -/
structure Finished (lib : SqliteLibrary Content) (host : MigrationHost) (plans : StatePlans)
    (st₀ st : StateRoot Content) : Prop where
  sound : Sound lib host plans st
  settled : Settled st
  kept : Kept st₀ st
  done : ∀ store, DoneAt (plans.plan store) (plans.plan store).migrations.length (st.stores store)

/-- A root from which a start returns. -/
structure Startable (lib : SqliteLibrary Content) (host : MigrationHost) (plans : StatePlans)
    (st₀ st : StateRoot Content) : Prop where
  sound : Sound lib host plans st
  kept : Kept st₀ st
  whole : ∀ store, ¬ HalfMade (st.stores store)
  untorn : ∀ e ∈ st.epochs, e.Open → ¬ TornManifest e

theorem Startable.of_swept (h : Startable lib host plans st₀ st)
    (hswept : Swept lib host plans st st') :
    Startable lib host plans st₀ st' := by
  refine ⟨hswept.sound, h.kept.trans hswept.kept, ?_, ?_⟩
  · rw [hswept.stores]
    exact h.whole
  · intro e he hopen
    exact h.untorn e ((hswept.published e hopen.1).mp he) hopen

theorem Settled.of_swept (h : Settled st) (hswept : Swept lib host plans st st') : Settled st' :=
  fun e he hopen => h e ((hswept.published e hopen.1).mp he) hopen

theorem inspectAll_of_paired (hpaired : Paired lib plans stores) :
    ∃ states, inspectAll lib plans stores = .ok states ∧
      (states.catalog.atTarget = true → states.recovery.atTarget = true →
        ∀ store, DoneAt (plans.plan store) (plans.plan store).migrations.length
          (stores store)) := by
  have hread : ∀ store, ∃ state, inspectStore lib (stores store) (plans.plan store) = .ok state ∧
      (state.atTarget = true → DoneAt (plans.plan store) (plans.plan store).migrations.length
        (stores store)) := by
    intro store
    obtain hunmade | hmanaged := hpaired
    · refine ⟨_, inspectStore_unmade (hunmade store), ?_⟩
      intro htarget
      unfold SqliteMigrationState.atTarget at htarget
      rw [Bool.and_false, Bool.false_and] at htarget
      cases htarget
    · obtain ⟨n, -, hn⟩ := hmanaged store
      obtain ⟨missing, hstate, hdone⟩ := inspectStore_managed lib hn
      refine ⟨_, hstate, ?_⟩
      intro htarget
      unfold SqliteMigrationState.atTarget at htarget
      rw [Bool.and_true, Bool.and_eq_true, decide_eq_true_eq, Bool.not_eq_true'] at htarget
      have hreached : n = (plans.plan store).migrations.length := htarget.1
      exact hreached ▸ hdone htarget.2
  obtain ⟨catalog, hcatalog, hcatalogDone⟩ := hread .catalog
  obtain ⟨recovery, hrecovery, hrecoveryDone⟩ := hread .recovery
  refine ⟨⟨catalog, recovery⟩, ?_, ?_⟩
  · unfold inspectAll
    rw [hcatalog, hrecovery]
    rfl
  · intro hc hr
    exact forall_stores.mpr ⟨hcatalogDone hc, hrecoveryDone hr⟩

theorem atTarget_of_done (hread : inspectAll lib plans stores = .ok states)
    (hdone : ∀ store, DoneAt (plans.plan store) (plans.plan store).migrations.length
      (stores store)) (store : SqliteStore) : (states.get store).atTarget = true := by
  have hstate := Except.ok.inj
    ((inspectAll_ok hread store).symm.trans (inspectStore_done lib (hdone store)))
  rw [hstate]
  unfold SqliteMigrationState.atTarget
  rw [decide_eq_true rfl]
  rfl

variable {call : MigrationCall}

variable {resumed created passes : Nat} {ids : List String}

theorem chain_done (h : Startable lib host call.plans st₀ st) (hsettled : Settled st)
    (hdone : ∀ store, DoneAt (call.plans.plan store) (call.plans.plan store).migrations.length
      (st.stores store)) (hlimit : st.epochs.length ≤ stateMigrationEpochScanLimit) :
    Survives (· = st) (migrateChain lib host call resumed created ids (passes + 1))
      (Sound lib host call.plans) fun _ => Finished lib host call.plans st₀ := by
  unfold migrateChain
  refine Survives.bind ((scanEpochs_survives h.sound hlimit).consequence (fun _ => id)
    (fun _ hswept => hswept.sound) fun _ _ => id) ?_
  rintro ⟨committed, pending⟩
  refine Survives.given fun hfound => ?_
  obtain ⟨hnone, -⟩ | ⟨e, he, hopen, -⟩ := hfound
  · obtain rfl : pending = none := hnone
    apply Survives.each
    intro st' hswept
    have hnext := h.of_swept hswept
    have hsettled' := hsettled.of_swept hswept
    have hdone' := hswept.stores.symm ▸ hdone
    obtain ⟨states, hread, -⟩ := inspectAll_of_paired (hnext.sound.settled hsettled')
    refine Survives.read_bind rfl ?_
    refine Survives.ofExcept_bind hread ?_
    have htargets : (states.catalog.atTarget && states.recovery.atTarget) = true := by
      rw [Bool.and_eq_true]
      exact ⟨atTarget_of_done hread hdone' .catalog, atTarget_of_done hread hdone' .recovery⟩
    rw [if_pos htargets]
    apply Survives.pure
    rintro st'' rfl
    exact ⟨hnext.sound, hsettled', hnext.kept, hdone'⟩
  · exact absurd hopen (hsettled e he)

theorem Startable.of_executed {targets : SqliteStore → Nat} (h : Sound lib host plans st)
    (hkept : Kept st₀ st) (hsettled : Settled st)
    (hdone : ∀ store, DoneAt (plans.plan store) (targets store) (st.stores store)) :
    Startable lib host plans st₀ st :=
  ⟨h, hkept, fun store => (hdone store).managed.not_halfMade,
    fun e he hopen => absurd hopen (hsettled e he)⟩

theorem chain_new (h : Startable lib host call.plans st₀ st) (hsettled : Settled st)
    (hcall : Admissible call st) :
    Survives (· = st) (migrateChain lib host call resumed created ids (passes + 2))
      (Sound lib host call.plans) fun _ => Finished lib host call.plans st₀ := by
  unfold migrateChain
  refine Survives.bind ((scanEpochs_survives h.sound (Nat.le_of_lt hcall.limit)).consequence
    (fun _ => id) (fun _ hswept => hswept.sound) fun _ _ => id) ?_
  rintro ⟨committed, pending⟩
  refine Survives.given fun hfound => ?_
  obtain ⟨hnone, -⟩ | ⟨e, he, hopen, -⟩ := hfound
  · obtain rfl : pending = none := hnone
    apply Survives.each
    intro st' hswept
    have hnext := h.of_swept hswept
    have hsettled' := hsettled.of_swept hswept
    have hfresh : ∀ e ∈ st'.epochs, e.epochId ≠ call.makeEpochId created := by
      intro e he
      obtain ⟨e₀, he₀, hid⟩ := hswept.ids e he
      exact hid ▸ hcall.freshIds created e₀ he₀
    obtain ⟨states, hread, hdone⟩ := inspectAll_of_paired (hnext.sound.settled hsettled')
    refine Survives.read_bind rfl ?_
    refine Survives.ofExcept_bind hread ?_
    by_cases htargets : (states.catalog.atTarget && states.recovery.atTarget) = true
    · rw [if_pos htargets]
      apply Survives.pure
      rintro st'' rfl
      rw [Bool.and_eq_true] at htargets
      exact ⟨hnext.sound, hsettled', hnext.kept, hdone htargets.1 htargets.2⟩
    · rw [if_neg htargets]
      refine Survives.bind (createEpochIntent_survives hnext.sound hsettled' hread
        (hcall.validIds created) hfresh ⟨hcall.texts.1, hcall.texts.2.1⟩) ?_
      intro intent
      apply Survives.each
      rintro st₁ ⟨hsound, hkept, hstores, hlength, ⟨e, he, hopen, hintent, htorn⟩, htargets'⟩
      refine Survives.bind (executeOpen_survives hsound he hopen hintent
        (hstores ▸ hnext.whole) htorn hcall.texts.2.2) ?_
      intro _
      apply Survives.each
      rintro st₂ ⟨hsound₂, hsettled₂, hkept₂, hids₂, hdone₂⟩
      refine chain_done (Startable.of_executed hsound₂ (hnext.kept.trans (hkept.trans hkept₂))
        hsettled₂ hdone₂) hsettled₂ (fun store => htargets' store ▸ hdone₂ store) ?_
      have hlength₂ := congrArg List.length hids₂
      rw [List.length_map, List.length_map, hlength] at hlength₂
      rw [hlength₂]
      exact Nat.lt_of_le_of_lt hswept.length hcall.limit
  · exact absurd hopen (hsettled e he)

theorem chain_any (h : Startable lib host call.plans st₀ st) (hcall : Admissible call st) :
    Survives (· = st) (migrateChain lib host call resumed created ids (passes + 3))
      (Sound lib host call.plans) fun _ => Finished lib host call.plans st₀ := by
  by_cases hsettled : Settled st
  · exact chain_new h hsettled hcall
  unfold migrateChain
  refine Survives.bind ((scanEpochs_survives h.sound (Nat.le_of_lt hcall.limit)).consequence
    (fun _ => id) (fun _ hswept => hswept.sound) fun _ _ => id) ?_
  rintro ⟨committed, pending⟩
  refine Survives.given fun hfound => ?_
  obtain ⟨-, hnone⟩ | ⟨e, he, hopen, hintent⟩ := hfound
  · exact absurd hnone hsettled
  · obtain ⟨intent, hsome⟩ := Option.ne_none_iff_exists'.mp hopen.1
    obtain rfl : pending = some intent := hintent.trans hsome
    apply Survives.each
    intro st' hswept
    have hnext := h.of_swept hswept
    have he' := (hswept.published e hopen.1).mpr he
    refine Survives.bind (executeOpen_survives hnext.sound he' hopen hsome hnext.whole
      (hnext.untorn e he' hopen) hcall.texts.2.2) ?_
    intro _
    apply Survives.each
    rintro st₁ ⟨hsound₁, hsettled₁, hkept₁, hids₁, hdone₁⟩
    refine chain_new (Startable.of_executed hsound₁ (hnext.kept.trans hkept₁) hsettled₁ hdone₁)
      hsettled₁ ⟨hcall.texts, hcall.validIds, ?_, ?_⟩
    · intro created' x hx
      obtain ⟨y, hy, hid⟩ := List.mem_map.mp (hids₁ ▸ List.mem_map_of_mem hx)
      obtain ⟨e₀, he₀, hid₀⟩ := hswept.ids y hy
      exact hid ▸ hid₀ ▸ hcall.freshIds created' e₀ he₀
    · have hlength₁ := congrArg List.length hids₁
      rw [List.length_map, List.length_map] at hlength₁
      rw [hlength₁]
      exact Nat.lt_of_le_of_lt hswept.length hcall.limit

theorem migrate_survives (h : Sound lib host call.plans st) (htorn : ¬ Torn st)
    (hcall : Admissible call st) :
    Survives (· = st) (migrateSqliteStateStores lib host call) (Sound lib host call.plans)
      fun _ => Finished lib host call.plans st := by
  have hwhole : ∀ store, ¬ HalfMade (st.stores store) :=
    fun store hhalf => htorn (.inl ⟨store, hhalf⟩)
  have hstart : Startable lib host call.plans st st :=
    ⟨h, Kept.refl st, hwhole, fun e he hopen hmanifest => htorn (.inr ⟨e, he, hopen, hmanifest⟩)⟩
  have hread : ∃ states, inspectAll lib call.plans st.stores = .ok states := by
    by_cases hsettled : Settled st
    · obtain ⟨states, hread, -⟩ := inspectAll_of_paired (h.settled hsettled)
      exact ⟨states, hread⟩
    · obtain ⟨e, he, hopen⟩ : ∃ e ∈ st.epochs, e.Open := by
        by_contra hnone
        exact hsettled fun e he hopen => hnone ⟨e, he, hopen⟩
      obtain ⟨intent, hpending⟩ := (h.epochs e he).pending hopen
      obtain ⟨catalog, hcatalog, -⟩ := (hpending.stands .catalog).inspect (hwhole .catalog)
      obtain ⟨recovery, hrecovery, -⟩ := (hpending.stands .recovery).inspect (hwhole .recovery)
      refine ⟨⟨catalog, recovery⟩, ?_⟩
      unfold inspectAll
      rw [show inspectStore lib (st.stores .catalog) _ = _ from hcatalog,
        show inspectStore lib (st.stores .recovery) _ = _ from hrecovery]
      rfl
  obtain ⟨states, hread⟩ := hread
  unfold migrateSqliteStateStores
  refine Survives.read_bind rfl ?_
  refine Survives.ofExcept_bind hread ?_
  exact chain_any hstart hcall

theorem HalfMade.inspect {file : StoreFile Content} {plan : SqliteMigrationPlan}
    (h : HalfMade file) : ∃ error, inspectStore lib file plan = .error error := by
  obtain ⟨⟨identity, history, content⟩, rfl, hidentity⟩ := h
  obtain rfl : identity = some none := hidentity
  cases history with
  | none => exact ⟨_, rfl⟩
  | some history => exact ⟨_, rfl⟩

theorem chain_torn (h : Sound lib host call.plans st) (hcall : Admissible call st)
    (he : e ∈ st.epochs) (hopen : e.Open) (htorn : TornManifest e) :
    Ends (· = st) (migrateChain lib host call resumed created ids (passes + 1))
      (Sound lib host call.plans) (fun _ => Sound lib host call.plans) fun _ _ => False := by
  unfold migrateChain
  refine Ends.bind ((scanEpochs_survives h (Nat.le_of_lt hcall.limit)).ends.consequence
    (fun _ => id) (fun _ hswept => hswept.sound) (fun _ _ => id) fun _ _ => id) ?_
  rintro ⟨committed, pending⟩
  refine Ends.given fun hfound => ?_
  obtain ⟨-, hnone⟩ | ⟨e', he', hopen', hintent⟩ := hfound
  · exact absurd hopen (hnone e he)
  obtain rfl := h.eq_of_id he he' (h.single e he e' he' hopen hopen')
  obtain ⟨intent, hsome⟩ := Option.ne_none_iff_exists'.mp hopen.1
  obtain rfl : pending = some intent := hintent.trans hsome
  apply Ends.each
  intro st' hswept
  have he' := (hswept.published e hopen.1).mpr he
  exact Ends.bind ((executeOpen_torn hswept.sound he' hopen hsome htorn).consequence
    (fun _ => id) (fun _ => False.elim) (fun _ _ => id) fun _ _ => id) fun _ _ hst => hst.elim

/-- From a torn root a start raises and leaves the epochs sound. -/
theorem migrate_torn (h : Sound lib host call.plans st) (htorn : Torn st)
    (hcall : Admissible call st) :
    Ends (· = st) (migrateSqliteStateStores lib host call) (Sound lib host call.plans)
      (fun _ => Sound lib host call.plans) fun _ _ => False := by
  unfold migrateSqliteStateStores
  refine Ends.read_bind ?_
  obtain ⟨store, hhalf⟩ | ⟨e, he, hopen, hmanifest⟩ := htorn
  · refine Ends.bind (Q := fun _ _ => False) (Ends.ofExcept ?_ ?_) fun _ _ hst => hst.elim
    · intro states _ hread _
      obtain ⟨error, herror⟩ : ∃ error,
          inspectStore lib (st.stores store) (call.plans.plan store) = .error error := hhalf.inspect
      exact absurd ((inspectAll_ok hread store).symm.trans herror) nofun
    · rintro _ _ _ rfl
      exact h
  · refine Ends.bind (Ends.check.consequence (fun _ => id) (fun _ => id) ?_ fun _ _ => id)
      fun _ => chain_torn h hcall he hopen hmanifest
    rintro _ _ rfl
    exact h

theorem Sound.migrated (h : Sound lib host call.plans st) (hcall : Admissible call st)
    (kill : Option (Kill Cut)) :
    Sound lib host call.plans (migrateSqliteStateStores lib host call ⟨st, kill⟩).2.disk := by
  by_cases htorn : Torn st
  · obtain hkilled | ⟨_, hraised⟩ | ⟨_, hreturned⟩ :=
      (migrate_torn h htorn hcall).left (r := ⟨st, kill⟩) rfl
    · exact hkilled
    · exact hraised
    · exact hreturned.elim
  · obtain hkilled | ⟨_, hfinished⟩ := (migrate_survives h htorn hcall).left (r := ⟨st, kill⟩) rfl
    · exact hkilled
    · exact hfinished.sound

theorem Pending.extend (h : Pending lib host plans intent w) (hextends : plans'.Extends plans) :
    Pending lib host plans' intent w := by
  have hstore := hextends.store_eq
  refine ⟨h.published, h.uncommitted, h.loads.extend hextends, h.paired, h.foundUnmade, ?_, ?_,
    h.statusRequired, ?_, h.backed, h.intents⟩
  · intro store
    obtain ⟨n, hn, hbounds⟩ | hunmade := h.stands store
    · exact .inl ⟨n, hn.extend (hstore store) (hextends store), hbounds⟩
    · exact .inr hunmade
  · intro store hverified
    exact (h.verified store hverified).extend (hstore store) (hextends store)
  · intro hpending
    obtain ⟨hfound, hbefore, hfine⟩ := h.unbacked hpending
    exact ⟨hfound, fun store => ⟨(hbefore store).1,
      (hbefore store).2.extend (hstore store) (hextends store)⟩, hfine⟩

theorem Closed.extend (h : Closed lib host plans intent w) (hextends : plans'.Extends plans) :
    Closed lib host plans' intent w := by
  refine ⟨h.published, h.committed, h.loads.extend hextends, h.foundUnmade, ?_, h.backed,
    h.intents⟩
  intro store
  obtain ⟨n, hn, hle⟩ := h.reached store
  exact ⟨n, hn.extend (hextends.store_eq store) (hextends store), hle⟩

theorem Sound.extend (h : Sound lib host plans st) (hextends : plans'.Extends plans) :
    Sound lib host plans' st := by
  refine ⟨h.unique, ?_, h.single, ?_, fun store hrecovery =>
    Nat.le_trans (h.intents store hrecovery) (hextends store).length_le⟩
  · intro e he
    obtain ⟨hvalid, hunpublished | ⟨intent, hpending⟩ | ⟨intent, hclosed⟩⟩ := h.epochs e he
    · exact ⟨hvalid, .inl hunpublished⟩
    · exact ⟨hvalid, .inr (.inl ⟨intent, hpending.extend hextends⟩)⟩
    · exact ⟨hvalid, .inr (.inr ⟨intent, hclosed.extend hextends⟩)⟩
  · intro hnone
    obtain hunmade | hmanaged := h.settled hnone
    · exact .inl hunmade
    · refine .inr fun store => ?_
      obtain ⟨n, hintents, hn⟩ := hmanaged store
      exact ⟨n, hintents, hn.extend (hextends.store_eq store) (hextends store)⟩

def StateRoot.worked (st : StateRoot Content) (content : SqliteStore → Content) :
    StateRoot Content :=
  { st with stores := fun store => (st.stores store).map fun db =>
      { db with content := content store } }

theorem Sound.worked (h : Sound lib host plans st) (hsettled : Settled st)
    (hmanaged : ∀ store, ∃ n, Managed (plans.plan store) n (st.stores store))
    (content : SqliteStore → Content) : Sound lib host plans (st.worked content) := by
  have hgrown : ∀ store n, Managed (plans.plan store) n (st.stores store) →
      Managed (plans.plan store) n ((st.worked content).stores store) := by
    intro store n hn
    obtain ⟨history, old, hfile, hfollows, hlength⟩ := hn
    refine ⟨history, content store, ?_, hfollows, hlength⟩
    show (st.stores store).map _ = _
    rw [hfile]
    rfl
  refine ⟨h.unique, ?_, h.single, fun _ => .inr fun store => ?_, h.intents⟩
  · intro e he
    exact (h.epochs e he).grown (hsettled e he) fun store n hn =>
      ⟨n, hgrown store n hn, Nat.le_refl n⟩
  · obtain ⟨m, hm⟩ := hmanaged store
    obtain hunmade | hpaired := h.settled hsettled
    · exact absurd (hunmade store) hm.not_unmade
    · obtain ⟨n, hintents, hn⟩ := hpaired store
      exact ⟨n, hintents, hgrown store n hn⟩

/-- The roots of a history of starts, work on the stores and growing plans. -/
inductive Reached (lib : SqliteLibrary Content) (host : MigrationHost) :
    StatePlans → StateRoot Content → Prop
  | start {plans : StatePlans} {st : StateRoot Content} (hepochs : st.epochs = [])
      (hpaired : Paired lib plans st.stores)
      (hintents : ∀ store, HasIntents store (plans.plan store).migrations.length) :
      Reached lib host plans st
  | extend {plans plans' : StatePlans} {st : StateRoot Content}
      (hreached : Reached lib host plans st) (hextends : plans'.Extends plans) :
        Reached lib host plans' st
  | migrate {st : StateRoot Content} (call : MigrationCall) (kill : Option (Kill Cut))
      (hreached : Reached lib host call.plans st) (hcall : Admissible call st) :
      Reached lib host call.plans (migrateSqliteStateStores lib host call ⟨st, kill⟩).2.disk
  | work {plans : StatePlans} {st : StateRoot Content} (content : SqliteStore → Content)
      (hreached : Reached lib host plans st) (hsettled : Settled st)
      (hmanaged : ∀ store, ∃ n, Managed (plans.plan store) n (st.stores store)) :
      Reached lib host plans (st.worked content)

theorem Reached.sound (h : Reached lib host plans st) : Sound lib host plans st := by
  induction h with
  | start hepochs hpaired hintents =>
    refine ⟨?_, ?_, ?_, fun _ => hpaired, hintents⟩
    · rw [hepochs]
      exact List.nodup_nil
    · rw [hepochs]
      exact fun e he => absurd he List.not_mem_nil
    · rw [hepochs]
      exact fun e he => absurd he List.not_mem_nil
  | extend _ hextends ih => exact ih.extend hextends
  | migrate call kill _ hcall ih => exact ih.migrated hcall kill
  | work content _ hsettled hmanaged ih => exact ih.worked hsettled hmanaged content

end

section

end

end MediaSync.StateStores
