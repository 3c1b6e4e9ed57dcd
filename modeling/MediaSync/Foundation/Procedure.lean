/-! A procedure reads and changes a state and returns a value or raises an exception; what it
changed before the exception stays changed. -/
namespace MediaSync

def Procedure (State Raised α : Type) := State → Except Raised α × State

namespace Procedure

variable {State Part Raised α β : Type}

instance : Monad (Procedure State Raised) where
  pure a := fun s => (.ok a, s)
  bind p k := fun s =>
    match p s with
    | (.ok a, s') => k a s'
    | (.error raised, s') => (.error raised, s')

def raise (raised : Raised) : Procedure State Raised α := fun s => (.error raised, s)

/-- Run `p`, and `handler` from the state in which `p` raised. -/
def rescue (p : Procedure State Raised α) (handler : Raised → Procedure State Raised α) :
    Procedure State Raised α := fun s =>
  match p s with
  | (.ok a, s') => (.ok a, s')
  | (.error raised, s') => handler raised s'

def onState (get : State → Part) (set : State → Part → State) (p : Procedure Part Raised α) :
    Procedure State Raised α := fun s => ((p (get s)).1, set s (p (get s)).2)

variable {p : Procedure State Raised α} {k : α → Procedure State Raised β} {s s' : State}
  {raised : Raised} {a : α} {handler : Raised → Procedure State Raised α}

theorem bind_ok (h : p s = (.ok a, s')) : (p >>= k) s = k a s' := by
  show (match p s with
    | (.ok a, s') => k a s'
    | (.error raised, s') => (.error raised, s')) = k a s'
  rw [h]

theorem bind_error (h : p s = (.error raised, s')) : (p >>= k) s = (.error raised, s') := by
  show (match p s with
    | (.ok a, s') => k a s'
    | (.error raised, s') => (.error raised, s')) = (.error raised, s')
  rw [h]

theorem bind_cases (p : Procedure State Raised α) (k : α → Procedure State Raised β) (s : State) :
    (∃ raised s', p s = (.error raised, s') ∧ (p >>= k) s = (.error raised, s')) ∨
      ∃ a s', p s = (.ok a, s') ∧ (p >>= k) s = k a s' := by
  rcases h : p s with ⟨raised | a, s'⟩
  · exact .inl ⟨raised, s', rfl, bind_error h⟩
  · exact .inr ⟨a, s', rfl, bind_ok h⟩

theorem map_run (f : α → β) (p : Procedure State Raised α) (s : State) :
    (f <$> p) s = ((p s).1.map f, (p s).2) := by
  show (match p s with
    | (.ok a, s') => (.ok (f a), s')
    | (.error raised, s') => (.error raised, s')) = ((p s).1.map f, (p s).2)
  rcases p s with ⟨raised | a, s'⟩ <;> rfl

theorem rescue_ok (h : p s = (.ok a, s')) : (p.rescue handler) s = (.ok a, s') := by
  unfold rescue
  rw [h]

theorem rescue_error (h : p s = (.error raised, s')) :
    (p.rescue handler) s = handler raised s' := by
  unfold rescue
  rw [h]

/-- Returning or raising, `p` ends in a state that stands in `R` to the one it started in. -/
def Stays (R : State → State → Prop) (p : Procedure State Raised α) : Prop := ∀ s, R s (p s).2

/-- `p` returns only to states with `I` when it starts in one. -/
def Keeps (I : State → Prop) (p : Procedure State Raised α) : Prop :=
  ∀ s a s', I s → p s = (.ok a, s') → I s'

variable {R : State → State → Prop} {I : State → Prop}

theorem Stays.pure (hrefl : ∀ s, R s s) (a : α) :
    Stays R (Pure.pure a : Procedure State Raised α) := hrefl

theorem Stays.raise (hrefl : ∀ s, R s s) (raised : Raised) :
    Stays R (Procedure.raise raised : Procedure State Raised α) := hrefl

theorem Stays.bind (hp : Stays R p) (htrans : ∀ s m s', R s m → R m s' → R s s')
    (hk : ∀ a, Stays R (k a)) : Stays R (p >>= k) := by
  intro s
  have hfirst := hp s
  rcases bind_cases p k s with ⟨raised, m, hrun, hbind⟩ | ⟨a, m, hrun, hbind⟩
  · rw [hbind]
    rw [hrun] at hfirst
    exact hfirst
  · rw [hbind]
    rw [hrun] at hfirst
    exact htrans _ _ _ hfirst (hk a m)

theorem Stays.map (hp : Stays R p) (htrans : ∀ s m s', R s m → R m s' → R s s')
    (hrefl : ∀ s, R s s) (f : α → β) : Stays R (f <$> p) :=
  hp.bind htrans fun a => Stays.pure hrefl (f a)

theorem Keeps.pure (a : α) : Keeps I (Pure.pure a : Procedure State Raised α) := by
  intro s b s' hs hrun
  cases hrun
  exact hs

theorem Keeps.raise (raised : Raised) :
    Keeps I (Procedure.raise raised : Procedure State Raised α) := by
  intro s a s' _ hrun
  cases hrun

theorem Keeps.bind (hp : Keeps I p) (hk : ∀ a, Keeps I (k a)) : Keeps I (p >>= k) := by
  intro s b s' hs hrun
  rcases bind_cases p k s with ⟨raised, m, hfirst, hbind⟩ | ⟨a, m, hfirst, hbind⟩
  · rw [hbind] at hrun
    cases hrun
  · rw [hbind] at hrun
    exact hk a m b s' (hp s a m hs hfirst) hrun

theorem Keeps.map (hp : Keeps I p) (f : α → β) : Keeps I (f <$> p) :=
  hp.bind fun a => Keeps.pure (f a)

end Procedure

end MediaSync
