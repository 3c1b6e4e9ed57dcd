import MediaSync.Foundation.Crash

/-! A procedure refines another when each of its runs, killed or not, is a run of the other. -/
namespace MediaSync.Killable

variable {Disk Cut Raised Raised' α β : Type}

/-- From the disk `before` there is a run that ends with `result` and `after`, with any kill left. -/
def Reaches (q : Killable Disk Cut Raised α) (before : Disk) (result : Except (Stopped Raised) α)
    (after : Disk) : Prop :=
  ∀ kill', ∃ kill, (kill' = none → kill = none) ∧ q ⟨before, kill⟩ = (result, ⟨after, kill'⟩)

/-- A run from the disk `before` that is killed and leaves `after`. -/
def CutOff (q : Killable Disk Cut Raised α) (before after : Disk) : Prop :=
  ∃ kill kill', q ⟨before, kill⟩ = (.error .killed, ⟨after, kill'⟩)

/-- From a disk with `P`, what a run of `p` does a run of `q` does, which raises what `E` pairs with
the exception of `p`. If `p` returns, `Q` holds of its value and the disk. -/
def Refines (P : Disk → Prop) (p : Killable Disk Cut Raised α) (q : Killable Disk Cut Raised' α)
    (E : Raised → Raised' → Prop) (Q : α → Disk → Prop) : Prop :=
  ∀ r, P r.disk →
    (∃ a r', p r = (.ok a, r') ∧ Q a r'.disk ∧ Reaches q r.disk (.ok a) r'.disk) ∨
      (∃ r', p r = (.error .killed, r') ∧ CutOff q r.disk r'.disk) ∨
      ∃ error error' r', p r = (.error (.raised error), r') ∧ E error error' ∧
        Reaches q r.disk (.error (.raised error')) r'.disk

variable {P : Disk → Prop} {p : Killable Disk Cut Raised α} {q : Killable Disk Cut Raised' α}
  {k : α → Killable Disk Cut Raised β} {l : α → Killable Disk Cut Raised' β}
  {E : Raised → Raised' → Prop} {Q : α → Disk → Prop} {R : β → Disk → Prop} {d m d' : Disk}

theorem Reaches.bind {a : α} {result : Except (Stopped Raised') β} (h : Reaches q d (.ok a) m)
    (hrest : Reaches (l a) m result d') : Reaches (q >>= l) d result d' := by
  intro kill'
  obtain ⟨middle, hmiddle, hlast⟩ := hrest kill'
  obtain ⟨kill, hkill, hfirst⟩ := h middle
  refine ⟨kill, hkill ∘ hmiddle, ?_⟩
  rw [Procedure.bind_ok hfirst]
  exact hlast

theorem Reaches.bind_error {stopped : Stopped Raised'} (h : Reaches q d (.error stopped) d') :
    Reaches (q >>= l) d (.error stopped) d' := by
  intro kill'
  obtain ⟨kill, hkill, hrun⟩ := h kill'
  exact ⟨kill, hkill, Procedure.bind_error hrun⟩

theorem CutOff.bind (h : CutOff q d d') : CutOff (q >>= l) d d' := by
  obtain ⟨kill, kill', hrun⟩ := h
  exact ⟨kill, kill', Procedure.bind_error hrun⟩

theorem Reaches.cutOff {a : α} (h : Reaches q d (.ok a) m) (hrest : CutOff (l a) m d') :
    CutOff (q >>= l) d d' := by
  obtain ⟨middle, kill', hlast⟩ := hrest
  obtain ⟨kill, -, hfirst⟩ := h middle
  refine ⟨kill, kill', ?_⟩
  rw [Procedure.bind_ok hfirst]
  exact hlast

theorem Refines.bind (hp : Refines P p q E Q) (hk : ∀ a, Refines (Q a) (k a) (l a) E R) :
    Refines P (p >>= k) (q >>= l) E R := by
  intro r hr
  rcases hp r hr with ⟨a, m, hrun, hmid, hreaches⟩ | ⟨m, hrun, hcut⟩ |
    ⟨error, error', m, hrun, hpair, hreaches⟩
  · rw [Procedure.bind_ok hrun]
    rcases hk a m hmid with ⟨b, r', hrest, hpost, hlast⟩ | ⟨r', hrest, hcut⟩ |
      ⟨error, error', r', hrest, hpair, hlast⟩
    · exact .inl ⟨b, r', hrest, hpost, hreaches.bind hlast⟩
    · exact .inr (.inl ⟨r', hrest, hreaches.cutOff hcut⟩)
    · exact .inr (.inr ⟨error, error', r', hrest, hpair, hreaches.bind hlast⟩)
  · exact .inr (.inl ⟨m, Procedure.bind_error hrun, hcut.bind⟩)
  · exact .inr (.inr ⟨error, error', m, Procedure.bind_error hrun, hpair, hreaches.bind_error⟩)

theorem Refines.pre {P' : Disk → Prop} (h : Refines P p q E Q) (hP : ∀ d, P' d → P d) :
    Refines P' p q E Q := fun r hr => h r (hP _ hr)

theorem Refines.each (h : ∀ d, P d → Refines (· = d) p q E Q) : Refines P p q E Q :=
  fun r hr => h r.disk hr r rfl

theorem Refines.pure (a : α) (h : ∀ d, P d → Q a d) :
    Refines P (Pure.pure a : Killable Disk Cut Raised α)
      (Pure.pure a : Killable Disk Cut Raised' α) E Q :=
  fun r hr => .inl ⟨a, r, rfl, h _ hr, fun kill' => ⟨kill', id, rfl⟩⟩

theorem Refines.read (f : Disk → α) :
    Refines P (Killable.read f : Killable Disk Cut Raised α)
      (Killable.read f : Killable Disk Cut Raised' α) E fun a d => a = f d ∧ P d :=
  fun r hr => .inl ⟨_, r, rfl, ⟨rfl, hr⟩, fun kill' => ⟨kill', id, rfl⟩⟩

theorem Refines.ofExcept {x : Except Raised α} {y : Except Raised' α}
    (hok : ∀ a, x = .ok a → y = .ok a)
    (herror : ∀ error, x = .error error → ∃ error', y = .error error' ∧ E error error') :
    Refines P (Killable.ofExcept x : Killable Disk Cut Raised α)
      (Killable.ofExcept y : Killable Disk Cut Raised' α) E fun _ => P := by
  intro r hr
  cases x with
  | ok a =>
    obtain rfl := hok a rfl
    exact .inl ⟨a, r, rfl, hr, fun kill' => ⟨kill', id, rfl⟩⟩
  | error error =>
    obtain ⟨error', rfl, hpair⟩ := herror error rfl
    exact .inr (.inr ⟨error, error', r, rfl, hpair, fun kill' => ⟨kill', id, rfl⟩⟩)

theorem atomically_reaches (whole : Disk → Disk) (d : Disk) :
    Reaches (Killable.atomically whole : Killable Disk Cut Raised Unit) d (.ok ()) (whole d) := by
  intro kill'
  match kill' with
  | none => exact ⟨none, id, rfl⟩
  | some ⟨after, left⟩ => exact ⟨some ⟨after + 1, left⟩, nofun, rfl⟩

theorem Refines.atomically {whole whole' : Disk → Disk} {Q : Unit → Disk → Prop}
    (hwhole : ∀ d, P d → whole d = whole' d ∧ Q () (whole d)) :
    Refines P (Killable.atomically whole : Killable Disk Cut Raised Unit)
      (Killable.atomically whole' : Killable Disk Cut Raised' Unit) E Q := by
  rintro ⟨disk, kill⟩ hr
  obtain ⟨hsame, hpost⟩ := hwhole disk hr
  have hreaches : Reaches (Killable.atomically whole' : Killable Disk Cut Raised' Unit) disk
      (.ok ()) (whole' disk) := atomically_reaches whole' disk
  rw [← hsame] at hreaches
  match kill with
  | none => exact .inl ⟨(), _, rfl, hpost, hreaches⟩
  | some ⟨0, left⟩ => exact .inr (.inl ⟨_, rfl, some ⟨0, left⟩, _, rfl⟩)
  | some ⟨after + 1, left⟩ => exact .inl ⟨(), _, rfl, hpost, hreaches⟩

/-- What leaves the disk as it is may come before, where a run of `q` can be killed at once. -/
theorem Refines.after {p₀ : Killable Disk Cut Raised α} {a : α} {q : Killable Disk Cut Raised' β}
    (h : Ends (· = d) p₀ (· = d) (fun _ _ => False) fun a' d' => a' = a ∧ d' = d)
    (hcut : CutOff q d d) (hk : Refines (· = d) (k a) q E R) :
    Refines (· = d) (p₀ >>= k) q E R := by
  rintro r rfl
  rcases h r rfl with ⟨a', m, hrun, -, rfl, hsame⟩ | ⟨m, hrun, -, hsame⟩ | ⟨_, _, -, hfalse⟩
  · rw [Procedure.bind_ok hrun]
    have hrest := hk m hsame
    rw [hsame] at hrest
    exact hrest
  · refine .inr (.inl ⟨m, Procedure.bind_error hrun, ?_⟩)
    rw [hsame]
    exact hcut
  · exact hfalse.elim

end MediaSync.Killable
