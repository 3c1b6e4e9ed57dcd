import MediaSync.Foundation.Procedure

/-! A connection to a database, and a method that runs its statements in a transaction of its own
unless its caller has opened one. -/
namespace MediaSync

structure Session (Db : Type) where
  current : Db
  saved : Option Db := none

namespace Session

variable {Db Raised α : Type} {p : Procedure Db Raised α} {caught : Raised → Bool}
  {c : Session Db}

/-- `outer_transaction = connection.in_transaction`, then BEGIN IMMEDIATE, the statements and
COMMIT, or ROLLBACK on what the handler catches. -/
def immediate (caught : Raised → Bool) (p : Procedure Db Raised α) :
    Procedure (Session Db) Raised α := fun c =>
  match c.saved with
  | some saved => ((p c.current).1, ⟨(p c.current).2, some saved⟩)
  | none =>
    match p c.current with
    | (.ok a, after) => (.ok a, ⟨after, none⟩)
    | (.error raised, after) =>
      if caught raised then (.error raised, ⟨c.current, none⟩)
      else (.error raised, ⟨after, some c.current⟩)

theorem immediate_fst : (immediate caught p c).1 = (p c.current).1 := by
  obtain ⟨current, saved⟩ := c
  cases saved with
  | some saved => rfl
  | none =>
    rcases h : p current with ⟨raised | a, after⟩
    · by_cases hcaught : caught raised = true <;> simp [immediate, h, hcaught]
    · simp [immediate, h]

theorem immediate_effect :
    (immediate caught p c).2.current = (p c.current).2 ∨
      (∃ raised, (p c.current).1 = .error raised) ∧ (immediate caught p c).2 = c := by
  obtain ⟨current, saved⟩ := c
  cases saved with
  | some saved => exact .inl rfl
  | none =>
    rcases h : p current with ⟨raised | a, after⟩
    · by_cases hcaught : caught raised = true
      · exact .inr ⟨⟨raised, rfl⟩, by simp [immediate, h, hcaught]⟩
      · exact .inl (by simp [immediate, h, hcaught])
    · exact .inl (by simp [immediate, h])

theorem immediate_unchanged (hcaught : ∀ raised, (p c.current).1 = .error raised →
    caught raised = true) (h : (p c.current).2 = c.current) :
    (immediate caught p c).2 = c := by
  obtain ⟨current, saved⟩ := c
  cases saved with
  | some saved => simp only [immediate, h]
  | none =>
    rcases hp : p current with ⟨raised | a, after⟩
    · have hraised : caught raised = true := hcaught raised (by rw [hp])
      simp [immediate, hp, hraised]
    · obtain rfl : after = current := by simpa [hp] using h
      simp [immediate, hp]

theorem immediate_caught (hidle : c.saved = none) {raised : Raised}
    (hraised : (p c.current).1 = .error raised) (hcaught : caught raised = true) :
    (immediate caught p c).2 = c := by
  obtain ⟨current, saved⟩ := c
  obtain rfl : saved = none := hidle
  rcases hp : p current with ⟨raised' | a, after⟩
  · obtain rfl : raised' = raised := by simpa [hp] using hraised
    simp [immediate, hp, hcaught]
  · simp [hp] at hraised

theorem immediate_idle (hidle : c.saved = none)
    (hcaught : ∀ raised, (p c.current).1 = .error raised → caught raised = true) :
    (immediate caught p c).2.saved = none := by
  obtain ⟨current, saved⟩ := c
  obtain rfl : saved = none := hidle
  rcases hp : p current with ⟨raised | a, after⟩
  · have hraised : caught raised = true := hcaught raised (by rw [hp])
    simp [immediate, hp, hraised]
  · simp [immediate, hp]

end Session

end MediaSync
