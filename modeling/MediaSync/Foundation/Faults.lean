import Mathlib.Init

/-! A program acts on a disk in steps. -/
namespace MediaSync

inductive Fault (Cut : Type) where
  | raised (cut : Cut)
  | killed (cut : Cut)
  deriving DecidableEq

def Fault.cut {Cut : Type} : Fault Cut → Cut
  | raised cut => cut
  | killed cut => cut

/-- A program: after a step it goes on with `next`, or with `failed` when the step raised. -/
inductive Faulty (Disk Step Raised α : Type) where
  | ret (a : α)
  | raise (error : Raised)
  | look (k : Disk → Faulty Disk Step Raised α)
  | act (step : Step) (next failed : Faulty Disk Step Raised α)

inductive Exit (Raised α : Type) where
  | returned (a : α)
  | raised (error : Raised)
  | killed
  deriving DecidableEq

structure Effects (Disk Step Cut : Type) where
  done : Step → Disk → Disk
  cut : Cut → Step → Disk → Disk

namespace Faulty

variable {Disk Step Cut Raised α β : Type}

def bind : Faulty Disk Step Raised α → (α → Faulty Disk Step Raised β) →
    Faulty Disk Step Raised β
  | ret a, k => k a
  | raise error, _ => raise error
  | look f, k => look fun d => (f d).bind k
  | act step next failed, k => act step (next.bind k) (failed.bind k)

instance : Monad (Faulty Disk Step Raised) where
  pure := ret
  bind := bind

/-- `try … except`: the handler sees exceptions, never a kill. -/
def rescue : Faulty Disk Step Raised α → (Raised → Faulty Disk Step Raised α) →
    Faulty Disk Step Raised α
  | ret a, _ => ret a
  | raise error, handler => handler error
  | look f, handler => look fun d => (f d).rescue handler
  | act step next failed, handler => act step (next.rescue handler) (failed.rescue handler)

def read (f : Disk → α) : Faulty Disk Step Raised α := look fun d => ret (f d)

/-- One step, which raises `error` if it fails. -/
def step (s : Step) (error : Raised) : Faulty Disk Step Raised Unit := act s (ret ()) (raise error)

def require (holds : Bool) (error : Raised) : Faulty Disk Step Raised Unit :=
  if holds then ret () else raise error

def ofExcept : Except Raised α → Faulty Disk Step Raised α
  | .ok a => ret a
  | .error error => raise error

/-- The run under `fates`: one for each step, `none` for a step that is done. When they are used up
every step is done. -/
def perform (fx : Effects Disk Step Cut) : Faulty Disk Step Raised α →
    List (Option (Fault Cut)) → Disk → Exit Raised α × Disk
  | ret a, _, d => (.returned a, d)
  | raise error, _, d => (.raised error, d)
  | look k, fates, d => (k d).perform fx fates d
  | act s next _, [], d => next.perform fx [] (fx.done s d)
  | act s next _, none :: fates, d => next.perform fx fates (fx.done s d)
  | act s _ failed, some (.raised cut) :: fates, d => failed.perform fx fates (fx.cut cut s d)
  | act s _ _, some (.killed cut) :: _, d => (.killed, fx.cut cut s d)

def Meets (fx : Effects Disk Step Cut) (allowed : Step → Fault Cut → Disk → Prop) :
    Faulty Disk Step Raised α → List (Option (Fault Cut)) → Disk → Prop
  | ret _, _, _ => True
  | raise _, _, _ => True
  | look k, fates, d => (k d).Meets fx allowed fates d
  | act s next _, [], d => next.Meets fx allowed [] (fx.done s d)
  | act s next _, none :: fates, d => next.Meets fx allowed fates (fx.done s d)
  | act s _ failed, some (.raised cut) :: fates, d =>
    allowed s (.raised cut) d ∧ failed.Meets fx allowed fates (fx.cut cut s d)
  | act s _ _, some (.killed cut) :: _, d => allowed s (.killed cut) d

/-- From `d`, under allowed faults, the program returns with `Q`, raises with `E`, or is killed
with `C`. -/
def Ensures (fx : Effects Disk Step Cut) (allowed : Step → Fault Cut → Disk → Prop)
    (C : Disk → Prop) (E : Disk → Prop) :
    Faulty Disk Step Raised α → (α → Disk → Prop) → Disk → Prop
  | ret a, Q, d => Q a d
  | raise _, _, d => E d
  | look k, Q, d => (k d).Ensures fx allowed C E Q d
  | act s next failed, Q, d =>
    next.Ensures fx allowed C E Q (fx.done s d) ∧
      (∀ cut, allowed s (.raised cut) d → failed.Ensures fx allowed C E Q (fx.cut cut s d)) ∧
      ∀ cut, allowed s (.killed cut) d → C (fx.cut cut s d)

/-- The conclusion of `Ensures` for one end of a run. -/
def Ends (C E : Disk → Prop) (Q : α → Disk → Prop) : Exit Raised α × Disk → Prop
  | (.returned a, d) => Q a d
  | (.raised _, d) => E d
  | (.killed, d) => C d

variable {fx : Effects Disk Step Cut} {allowed : Step → Fault Cut → Disk → Prop}
  {C C' E E' : Disk → Prop} {Q Q' : α → Disk → Prop} {R : β → Disk → Prop} {d : Disk}
  {p : Faulty Disk Step Raised α} {k : α → Faulty Disk Step Raised β}

theorem Ensures.sound (h : p.Ensures fx allowed C E Q d) {fates : List (Option (Fault Cut))}
    (hmeets : p.Meets fx allowed fates d) : Ends C E Q (p.perform fx fates d) := by
  induction p generalizing fates d with
  | ret a => exact h
  | raise error => exact h
  | look k ih => exact ih d h hmeets
  | act s next failed ihnext ihfailed =>
    obtain ⟨hnext, hraised, hkilled⟩ := h
    match fates, hmeets with
    | [], hmeets => exact ihnext hnext hmeets
    | none :: fates, hmeets => exact ihnext hnext hmeets
    | some (.raised cut) :: fates, hmeets => exact ihfailed (hraised cut hmeets.1) hmeets.2
    | some (.killed cut) :: fates, hmeets => exact hkilled cut hmeets

theorem meets_undisturbed (p : Faulty Disk Step Raised α) (d : Disk) :
    p.Meets fx allowed [] d := by
  induction p generalizing d with
  | ret a => exact trivial
  | raise error => exact trivial
  | look k ih => exact ih d d
  | act s next failed ihnext ihfailed => exact ihnext _

theorem Ensures.mono (h : p.Ensures fx allowed C E Q d) (hC : ∀ d, C d → C' d)
    (hE : ∀ d, E d → E' d) (hQ : ∀ a d, Q a d → Q' a d) : p.Ensures fx allowed C' E' Q' d := by
  induction p generalizing d with
  | ret a => exact hQ _ _ h
  | raise error => exact hE _ h
  | look k ih => exact ih d h
  | act s next failed ihnext ihfailed =>
    obtain ⟨hnext, hraised, hkilled⟩ := h
    exact ⟨ihnext hnext, fun cut hallowed => ihfailed (hraised cut hallowed),
      fun cut hallowed => hC _ (hkilled cut hallowed)⟩

theorem Ensures.post (h : p.Ensures fx allowed C E Q d) (hQ : ∀ a d, Q a d → Q' a d) :
    p.Ensures fx allowed C E Q' d := h.mono (fun _ => id) (fun _ => id) hQ

theorem Ensures.fewer {allowed' : Step → Fault Cut → Disk → Prop}
    (h : p.Ensures fx allowed C E Q d) (hfewer : ∀ s f d, allowed' s f d → allowed s f d) :
    p.Ensures fx allowed' C E Q d := by
  induction p generalizing d with
  | ret a => exact h
  | raise error => exact h
  | look k ih => exact ih d h
  | act s next failed ihnext ihfailed =>
    obtain ⟨hnext, hraised, hkilled⟩ := h
    exact ⟨ihnext hnext, fun cut hallowed => ihfailed (hraised cut (hfewer _ _ _ hallowed)),
      fun cut hallowed => hkilled cut (hfewer _ _ _ hallowed)⟩

theorem Ensures.bind (h : p.Ensures fx allowed C E Q d)
    (hk : ∀ a d, Q a d → (k a).Ensures fx allowed C E R d) :
    (p >>= k).Ensures fx allowed C E R d := by
  show (p.bind k).Ensures fx allowed C E R d
  induction p generalizing d with
  | ret a => exact hk a d h
  | raise error => exact h
  | look f ih => exact ih d h
  | act s next failed ihnext ihfailed =>
    obtain ⟨hnext, hraised, hkilled⟩ := h
    exact ⟨ihnext hnext, fun cut hallowed => ihfailed (hraised cut hallowed), hkilled⟩

theorem Ensures.rescue {T : Disk → Prop} {handler : Raised → Faulty Disk Step Raised α}
    (h : p.Ensures fx allowed C T Q d)
    (hhandler : ∀ error d, T d → (handler error).Ensures fx allowed C E Q d) :
    (p.rescue handler).Ensures fx allowed C E Q d := by
  induction p generalizing d with
  | ret a => exact h
  | raise error => exact hhandler error d h
  | look f ih => exact ih d h
  | act s next failed ihnext ihfailed =>
    obtain ⟨hnext, hraised, hkilled⟩ := h
    exact ⟨ihnext hnext, fun cut hallowed => ihfailed (hraised cut hallowed), hkilled⟩

theorem Ensures.pure {a : α} (h : Q a d) :
    (Pure.pure a : Faulty Disk Step Raised α).Ensures fx allowed C E Q d := h

theorem Ensures.step {s : Step} {error : Raised} {Q : Unit → Disk → Prop}
    (hdone : Q () (fx.done s d)) (hraised : ∀ cut, allowed s (.raised cut) d → E (fx.cut cut s d))
    (hkilled : ∀ cut, allowed s (.killed cut) d → C (fx.cut cut s d)) :
    (Faulty.step s error : Faulty Disk Step Raised Unit).Ensures fx allowed C E Q d :=
  ⟨hdone, hraised, hkilled⟩

theorem Ensures.require {holds : Bool} {error : Raised} {Q : Unit → Disk → Prop}
    (hyes : holds = true → Q () d) (hno : holds = false → E d) :
    (Faulty.require holds error : Faulty Disk Step Raised Unit).Ensures fx allowed C E Q d := by
  cases holds with
  | true => exact hyes rfl
  | false => exact hno rfl

theorem Ensures.ofExcept {x : Except Raised α} (hok : ∀ a, x = .ok a → Q a d)
    (herror : ∀ error, x = .error error → E d) :
    (Faulty.ofExcept x : Faulty Disk Step Raised α).Ensures fx allowed C E Q d := by
  cases x with
  | ok a => exact hok a rfl
  | error error => exact herror error rfl

theorem Ensures.forM {ι : Type} {f : ι → Faulty Disk Step Raised PUnit} {I : List ι → Disk → Prop}
    {l : List ι} (h : I l d)
    (hstep : ∀ x rest d, I (x :: rest) d →
      (f x).Ensures fx allowed C E (fun _ d => I rest d) d) :
    (l.forM f).Ensures fx allowed C E (fun _ d => I [] d) d := by
  induction l generalizing d with
  | nil => exact h
  | cons x rest ih => exact (hstep x rest d h).bind fun _ d hd => ih hd

theorem Ensures.read_bind {f : Disk → α} (h : (k (f d)).Ensures fx allowed C E R d) :
    (Faulty.read f >>= k : Faulty Disk Step Raised β).Ensures fx allowed C E R d := h

theorem Ensures.require_bind {holds : Bool} {error : Raised}
    {k : Unit → Faulty Disk Step Raised β} (hholds : holds = true)
    (h : (k ()).Ensures fx allowed C E R d) :
    (Faulty.require holds error >>= k : Faulty Disk Step Raised β).Ensures fx allowed C E R d := by
  subst hholds
  exact h

end Faulty

end MediaSync
