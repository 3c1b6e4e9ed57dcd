import Mathlib

/-! A log of items handed out under keys, where the rank of each new item exceeds a bound kept for
its key. -/
namespace MediaSync.Issuance

variable {Item Key Bound : Type*} [Preorder Bound]

/-- `bound` covers what was issued for each key, and what was issued for a key increases. -/
structure Issued (key : Item → Key) (rank : Item → Bound) (bound : Key → Bound)
    (log : List Item) : Prop where
  below : ∀ item ∈ log, rank item ≤ bound (key item)
  increasing : log.Pairwise fun earlier later => key earlier = key later → rank earlier < rank later

variable {key : Item → Key} {rank : Item → Bound} {bound bound' : Key → Bound}
  {log : List Item} {item other : Item}

theorem Issued.nil : Issued key rank bound [] :=
  ⟨fun _ h => absurd h List.not_mem_nil, List.Pairwise.nil⟩

theorem Issued.mono (h : Issued key rank bound log) (hle : ∀ k, bound k ≤ bound' k) :
    Issued key rank bound' log :=
  ⟨fun item hmem => (h.below item hmem).trans (hle _), h.increasing⟩

theorem Issued.append (h : Issued key rank bound log) (hle : ∀ k, bound k ≤ bound' k)
    (habove : bound (key item) < rank item) (hcovered : rank item ≤ bound' (key item)) :
    Issued key rank bound' (log ++ [item]) where
  below := by
    intro x hx
    rw [List.mem_append, List.mem_singleton] at hx
    cases hx with
    | inl hold => exact (h.below x hold).trans (hle _)
    | inr hnew => exact hnew ▸ hcovered
  increasing := by
    rw [List.pairwise_append]
    refine ⟨h.increasing, List.pairwise_singleton _ _, ?_⟩
    intro earlier hmem later hlater hkey
    rw [List.mem_singleton] at hlater
    subst hlater
    exact (h.below earlier hmem).trans_lt (hkey ▸ habove)

theorem Issued.nodup (h : Issued key rank bound log) : log.Nodup := by
  apply h.increasing.imp
  intro earlier later hless heq
  subst heq
  exact lt_irrefl _ (hless rfl)

theorem Issued.le_of_current (h : Issued key rank bound log) (hother : other ∈ log)
    (hkey : key other = key item) (hcurrent : bound (key item) ≤ rank item) :
    rank other ≤ rank item := by
  have hle := h.below other hother
  rw [hkey] at hle
  exact hle.trans hcurrent

theorem Issued.eq_of_rank (h : Issued key rank bound log) (hitem : item ∈ log)
    (hother : other ∈ log) (hkey : key item = key other) (hrank : rank item = rank other) :
    item = other := by
  let Same : Item → Item → Prop := fun a b => key a = key b → rank a = rank b → a = b
  have hsymm : Std.Symm Same := ⟨fun _ _ hab hk hr => (hab hk.symm hr.symm).symm⟩
  have hall : log.Pairwise Same → Same item other := fun hpair =>
    hpair.forall_of_forall (fun _ _ _ _ => rfl) hitem hother
  refine hall ?_ hkey hrank
  apply h.increasing.imp
  intro a b hless hk hr
  exact absurd (hless hk) (hr ▸ lt_irrefl _)

end MediaSync.Issuance
