import MediaSync.Foundation.Procedure

/-! A procedure whose writes go to a disk may be killed inside any of them. -/
namespace MediaSync

/-- When the process is killed: after `after` writes, in the next, of which `cut` tells what is
left. -/
structure Kill (Cut : Type) where
  after : Nat
  cut : Cut

structure Running (Disk Cut : Type) where
  disk : Disk
  kill : Option (Kill Cut)

inductive Stopped (Raised : Type) where
  | killed
  | raised (error : Raised)

abbrev Killable (Disk Cut Raised α : Type) := Procedure (Running Disk Cut) (Stopped Raised) α

namespace Killable

variable {Disk Part Cut Raised α β : Type}

/-- One write: `whole` is the disk after it, `cut` the disk if the process is killed in it. -/
def write (cut : Cut → Disk → Disk) (whole : Disk → Disk) : Killable Disk Cut Raised Unit :=
  fun r =>
    match r.kill with
    | none => (.ok (), { r with disk := whole r.disk })
    | some ⟨0, left⟩ => (.error .killed, { r with disk := cut left r.disk })
    | some ⟨after + 1, left⟩ => (.ok (), { disk := whole r.disk, kill := some ⟨after, left⟩ })

def atomically (whole : Disk → Disk) : Killable Disk Cut Raised Unit :=
  write (fun _ disk => disk) whole

def read (f : Disk → α) : Killable Disk Cut Raised α := fun r => (.ok (f r.disk), r)

def fail (error : Raised) : Killable Disk Cut Raised α := Procedure.raise (.raised error)

def ofExcept : Except Raised α → Killable Disk Cut Raised α
  | .ok a => pure a
  | .error error => fail error

def onPart (get : Disk → Part) (set : Disk → Part → Disk) (p : Killable Part Cut Raised α) :
    Killable Disk Cut Raised α := fun r =>
  let (result, r') := p { disk := get r.disk, kill := r.kill }
  (result, { disk := set r.disk r'.disk, kill := r'.kill })

/-- From a disk with `P`, `p` returns, and then `Q` holds of its value and the disk, or is killed,
and then `C` holds. It raises nothing, and unless there is a kill it returns. -/
def Survives (P : Disk → Prop) (p : Killable Disk Cut Raised α) (C : Disk → Prop)
    (Q : α → Disk → Prop) : Prop :=
  ∀ r, P r.disk →
    (∃ a r', p r = (.ok a, r') ∧ (r.kill = none → r'.kill = none) ∧ Q a r'.disk) ∨
      ∃ r', p r = (.error .killed, r') ∧ r.kill ≠ none ∧ C r'.disk

variable {P P' C C' : Disk → Prop} {Q Q' : α → Disk → Prop} {R : β → Disk → Prop}
  {p : Killable Disk Cut Raised α} {k : α → Killable Disk Cut Raised β}

theorem Survives.consequence (h : Survives P p C Q) (hP : ∀ d, P' d → P d)
    (hC : ∀ d, C d → C' d) (hQ : ∀ a d, Q a d → Q' a d) : Survives P' p C' Q' := by
  intro r hr
  obtain ⟨a, r', hrun, hkill, hpost⟩ | ⟨r', hrun, hkill, hcrash⟩ := h r (hP _ hr)
  · exact .inl ⟨a, r', hrun, hkill, hQ _ _ hpost⟩
  · exact .inr ⟨r', hrun, hkill, hC _ hcrash⟩

theorem Survives.pre (h : Survives P p C Q) (hP : ∀ d, P' d → P d) : Survives P' p C Q :=
  h.consequence hP (fun _ => id) fun _ _ => id

theorem Survives.post (h : Survives P p C Q) (hQ : ∀ a d, Q a d → Q' a d) :
    Survives P p C Q' := h.consequence (fun _ => id) (fun _ => id) hQ

theorem Survives.given {φ : Prop} (h : φ → Survives P p C Q) :
    Survives (fun d => φ ∧ P d) p C Q := fun r hr => h hr.1 r hr.2

theorem Survives.each (h : ∀ d, P d → Survives (· = d) p C Q) : Survives P p C Q :=
  fun r hr => h r.disk hr r rfl

theorem Survives.pure (a : α) (h : ∀ d, P d → Q a d) :
    Survives P (Pure.pure a : Killable Disk Cut Raised α) C Q := by
  intro r hr
  exact .inl ⟨a, r, rfl, id, h _ hr⟩

theorem Survives.bind (hp : Survives P p C Q) (hk : ∀ a, Survives (Q a) (k a) C R) :
    Survives P (p >>= k) C R := by
  intro r hr
  obtain ⟨a, m, hrun, hkill, hmid⟩ | ⟨m, hrun, hkill, hcrash⟩ := hp r hr
  · rw [Procedure.bind_ok hrun]
    obtain ⟨b, r', hrest, hkill', hpost⟩ | ⟨r', hrest, hkill', hcrash⟩ := hk a m hmid
    · exact .inl ⟨b, r', hrest, hkill' ∘ hkill, hpost⟩
    · exact .inr ⟨r', hrest, fun hnone => hkill' (hkill hnone), hcrash⟩
  · exact .inr ⟨m, Procedure.bind_error hrun, hkill, hcrash⟩

variable {whole : Disk → Disk}

theorem Survives.write {cut : Cut → Disk → Disk} {Q : Unit → Disk → Prop}
    (hwhole : ∀ d, P d → Q () (whole d)) (hcut : ∀ left d, P d → C (cut left d)) :
    Survives P (Killable.write cut whole : Killable Disk Cut Raised Unit) C Q := by
  rintro ⟨disk, _ | ⟨_ | after, left⟩⟩ hr
  · exact .inl ⟨(), _, rfl, fun _ => rfl, hwhole _ hr⟩
  · exact .inr ⟨_, rfl, nofun, hcut _ _ hr⟩
  · exact .inl ⟨(), _, rfl, nofun, hwhole _ hr⟩

theorem Survives.atomically {Q : Unit → Disk → Prop} (hwhole : ∀ d, P d → Q () (whole d))
    (hcut : ∀ d, P d → C d) :
    Survives P (Killable.atomically whole : Killable Disk Cut Raised Unit) C Q :=
  Survives.write hwhole fun _ => hcut

theorem Survives.read (f : Disk → α) (h : ∀ d, P d → Q (f d) d) :
    Survives P (Killable.read f : Killable Disk Cut Raised α) C Q := by
  intro r hr
  exact .inl ⟨_, r, rfl, id, h _ hr⟩

variable {x : Except Raised α}

theorem Survives.ofExcept (h : ∀ d, P d → ∃ a, x = .ok a ∧ Q a d) :
    Survives P (Killable.ofExcept x : Killable Disk Cut Raised α) C Q := by
  intro r hr
  obtain ⟨a, rfl, hpost⟩ := h _ hr
  exact .inl ⟨a, r, rfl, id, hpost⟩

theorem Survives.ofExcept_bind {a : α} (hx : x = .ok a) (hk : Survives P (k a) C R) :
    Survives P (Killable.ofExcept x >>= k) C R := by
  subst hx
  intro r hr
  rw [Procedure.bind_ok (show Killable.ofExcept (.ok a) r = (.ok a, r) from rfl)]
  exact hk r hr

theorem Survives.read_bind {f : Disk → α} {d : Disk} {a : α} (hf : f d = a)
    (hk : Survives (· = d) (k a) C R) :
    Survives (· = d) (Killable.read f >>= k) C R := by
  rintro r rfl
  rw [Procedure.bind_ok (show Killable.read f r = (.ok (f r.disk), r) from rfl), hf]
  exact hk r rfl

theorem Survives.onPart {get : Disk → Part} {set : Disk → Part → Disk} {d₀ : Disk}
    {p : Killable Part Cut Raised α} {I D : Part → Prop} {Q : α → Part → Prop}
    (hget : I (get d₀)) (h : Survives I p D Q) :
    Survives (· = d₀) (Killable.onPart get set p) (fun d => ∃ part, d = set d₀ part ∧ D part)
      fun a d => ∃ part, d = set d₀ part ∧ Q a part := by
  rintro ⟨disk, kill⟩ rfl
  obtain ⟨a, r', hrun, hkill, hpost⟩ | ⟨r', hrun, hkill, hcrash⟩ := h ⟨get disk, kill⟩ hget
  · refine .inl ⟨a, ⟨set disk r'.disk, r'.kill⟩, ?_, hkill, r'.disk, rfl, hpost⟩
    unfold Killable.onPart
    rw [hrun]
  · refine .inr ⟨⟨set disk r'.disk, r'.kill⟩, ?_, hkill, r'.disk, rfl, hcrash⟩
    unfold Killable.onPart
    rw [hrun]

theorem Survives.left (h : Survives P p C Q) {r : Running Disk Cut} (hP : P r.disk) :
    C (p r).2.disk ∨ ∃ a, Q a (p r).2.disk := by
  obtain ⟨a, r', hrun, -, hpost⟩ | ⟨r', hrun, -, hcrash⟩ := h r hP
  · rw [hrun]
    exact .inr ⟨a, hpost⟩
  · rw [hrun]
    exact .inl hcrash

/-- However a run from a disk with `P` ends: with `Q` if it returns, with `E` if it raises, and
with `C` if it is killed. -/
def Ends (P : Disk → Prop) (p : Killable Disk Cut Raised α) (C : Disk → Prop)
    (E : Raised → Disk → Prop) (Q : α → Disk → Prop) : Prop :=
  ∀ r, P r.disk →
    (∃ a r', p r = (.ok a, r') ∧ (r.kill = none → r'.kill = none) ∧ Q a r'.disk) ∨
      (∃ r', p r = (.error .killed, r') ∧ r.kill ≠ none ∧ C r'.disk) ∨
      ∃ error r', p r = (.error (.raised error), r') ∧ E error r'.disk

section
variable {E E' : Raised → Disk → Prop}

theorem Ends.consequence (h : Ends P p C E Q) (hP : ∀ d, P' d → P d) (hC : ∀ d, C d → C' d)
    (hE : ∀ e d, E e d → E' e d) (hQ : ∀ a d, Q a d → Q' a d) : Ends P' p C' E' Q' := by
  intro r hr
  rcases h r (hP _ hr) with ⟨a, r', hrun, hkill, hpost⟩ | ⟨r', hrun, hkill, hcrash⟩ |
    ⟨error, r', hrun, hraised⟩
  · exact .inl ⟨a, r', hrun, hkill, hQ _ _ hpost⟩
  · exact .inr (.inl ⟨r', hrun, hkill, hC _ hcrash⟩)
  · exact .inr (.inr ⟨error, r', hrun, hE _ _ hraised⟩)

theorem Ends.pre (h : Ends P p C E Q) (hP : ∀ d, P' d → P d) : Ends P' p C E Q :=
  h.consequence hP (fun _ => id) (fun _ _ => id) fun _ _ => id

theorem Ends.pure (a : α) (h : ∀ d, P d → Q a d) :
    Ends P (Pure.pure a : Killable Disk Cut Raised α) C E Q :=
  fun r hr => .inl ⟨a, r, rfl, id, h _ hr⟩

theorem Ends.bind (hp : Ends P p C E Q) (hk : ∀ a, Ends (Q a) (k a) C E R) :
    Ends P (p >>= k) C E R := by
  intro r hr
  rcases hp r hr with ⟨a, m, hrun, hkill, hmid⟩ | ⟨m, hrun, hkill, hcrash⟩ |
    ⟨error, m, hrun, hraised⟩
  · rw [Procedure.bind_ok hrun]
    rcases hk a m hmid with ⟨b, r', hrest, hkill', hpost⟩ | ⟨r', hrest, hkill', hcrash⟩ | hraised
    · exact .inl ⟨b, r', hrest, hkill' ∘ hkill, hpost⟩
    · exact .inr (.inl ⟨r', hrest, fun hnone => hkill' (hkill hnone), hcrash⟩)
    · exact .inr (.inr hraised)
  · exact .inr (.inl ⟨m, Procedure.bind_error hrun, hkill, hcrash⟩)
  · exact .inr (.inr ⟨error, m, Procedure.bind_error hrun, hraised⟩)

theorem Ends.atomically {whole : Disk → Disk} {Q : Unit → Disk → Prop}
    (hwhole : ∀ d, P d → Q () (whole d)) (hcut : ∀ d, P d → C d) :
    Ends P (Killable.atomically whole : Killable Disk Cut Raised Unit) C E Q := by
  rintro ⟨disk, _ | ⟨_ | after, left⟩⟩ hr
  · exact .inl ⟨(), _, rfl, fun _ => rfl, hwhole _ hr⟩
  · exact .inr (.inl ⟨_, rfl, nofun, hcut _ hr⟩)
  · exact .inl ⟨(), _, rfl, nofun, hwhole _ hr⟩

theorem Ends.read (f : Disk → α) (h : ∀ d, P d → Q (f d) d) :
    Ends P (Killable.read f : Killable Disk Cut Raised α) C E Q :=
  fun r hr => .inl ⟨_, r, rfl, id, h _ hr⟩

theorem Ends.fail (error : Raised) (h : ∀ d, P d → E error d) :
    Ends P (Killable.fail error : Killable Disk Cut Raised α) C E Q :=
  fun r hr => .inr (.inr ⟨error, r, rfl, h _ hr⟩)

theorem Ends.ofExcept {x : Except Raised α} (hok : ∀ a d, x = .ok a → P d → Q a d)
    (herror : ∀ e d, x = .error e → P d → E e d) :
    Ends P (Killable.ofExcept x : Killable Disk Cut Raised α) C E Q := by
  intro r hr
  cases x with
  | ok a => exact .inl ⟨a, r, rfl, id, hok a _ rfl hr⟩
  | error e => exact .inr (.inr ⟨e, r, rfl, herror e _ rfl hr⟩)

theorem Ends.each (h : ∀ d, P d → Ends (· = d) p C E Q) : Ends P p C E Q :=
  fun r hr => h r.disk hr r rfl

theorem Ends.check {x : Except Raised α} {d : Disk} :
    Ends (· = d) (Killable.ofExcept x : Killable Disk Cut Raised α) C (fun _ d' => d' = d)
      fun _ d' => d' = d :=
  Ends.ofExcept (fun _ _ _ hd => hd) fun _ _ _ hd => hd

theorem Ends.given {φ : Prop} (h : φ → Ends P p C E Q) : Ends (fun d => φ ∧ P d) p C E Q :=
  fun r hr => h hr.1 r hr.2

theorem Ends.read_bind {f : Disk → α} {d : Disk} (hk : Ends (· = d) (k (f d)) C E R) :
    Ends (· = d) (Killable.read f >>= k) C E R := by
  rintro r rfl
  rw [Procedure.bind_ok (show Killable.read f r = (.ok (f r.disk), r) from rfl)]
  exact hk r rfl

theorem Ends.onPart {get : Disk → Part} {set : Disk → Part → Disk} {d₀ : Disk}
    {p : Killable Part Cut Raised α} {I D : Part → Prop} {F : Raised → Part → Prop}
    {Q : α → Part → Prop} (hget : I (get d₀)) (h : Ends I p D F Q) :
    Ends (· = d₀) (Killable.onPart get set p) (fun d => ∃ part, d = set d₀ part ∧ D part)
      (fun e d => ∃ part, d = set d₀ part ∧ F e part)
      fun a d => ∃ part, d = set d₀ part ∧ Q a part := by
  rintro ⟨disk, kill⟩ rfl
  have hpart : ∀ {result r'}, p ⟨get disk, kill⟩ = (result, r') →
      Killable.onPart get set p ⟨disk, kill⟩ = (result, ⟨set disk r'.disk, r'.kill⟩) := by
    intro result r' hrun
    unfold Killable.onPart
    rw [hrun]
  rcases h ⟨get disk, kill⟩ hget with ⟨a, r', hrun, hkill, hpost⟩ | ⟨r', hrun, hkill, hcrash⟩ |
    ⟨error, r', hrun, hraised⟩
  · exact .inl ⟨a, _, hpart hrun, hkill, r'.disk, rfl, hpost⟩
  · exact .inr (.inl ⟨_, hpart hrun, hkill, r'.disk, rfl, hcrash⟩)
  · exact .inr (.inr ⟨error, _, hpart hrun, r'.disk, rfl, hraised⟩)

theorem Survives.ends (h : Survives P p C Q) : Ends P p C E Q := by
  intro r hr
  obtain hreturned | hkilled := h r hr
  · exact .inl hreturned
  · exact .inr (.inl hkilled)

theorem Ends.left (h : Ends P p C E Q) {r : Running Disk Cut} (hP : P r.disk) :
    C (p r).2.disk ∨ (∃ error, E error (p r).2.disk) ∨ ∃ a, Q a (p r).2.disk := by
  rcases h r hP with ⟨a, r', hrun, -, hpost⟩ | ⟨r', hrun, -, hcrash⟩ | ⟨error, r', hrun, hraised⟩
  · rw [hrun]
    exact .inr (.inr ⟨a, hpost⟩)
  · rw [hrun]
    exact .inl hcrash
  · rw [hrun]
    exact .inr (.inl ⟨error, hraised⟩)

end

end Killable

end MediaSync
