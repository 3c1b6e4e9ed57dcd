import Mathlib.Init

/-! Two computations that may fail agree when they fail with the same error or return related
results. -/
namespace MediaSync

variable {Error α β γ δ : Type}

/-- Both return values that `R` relates, or both raise the same. -/
inductive Agrees (R : α → β → Prop) : Except Error α → Except Error β → Prop where
  | ok {a : α} {b : β} (h : R a b) : Agrees R (.ok a) (.ok b)
  | error (e : Error) : Agrees R (.error e) (.error e)

namespace Agrees

variable {R : α → β → Prop} {S : γ → δ → Prop} {x : Except Error α} {y : Except Error β}

theorem bind (h : Agrees R x y) {k : α → Except Error γ} {l : β → Except Error δ}
    (hk : ∀ a b, R a b → Agrees S (k a) (l b)) : Agrees S (x >>= k) (y >>= l) := by
  cases h with
  | ok h => exact hk _ _ h
  | error e => exact .error e

theorem map (h : Agrees R x y) {f : α → γ} {g : β → δ} (hf : ∀ a b, R a b → S (f a) (g b)) :
    Agrees S (x.map f) (y.map g) := by
  cases h with
  | ok h => exact .ok (hf _ _ h)
  | error e => exact .error e

theorem mono (h : Agrees R x y) {R' : α → β → Prop} (hR : ∀ a b, R a b → R' a b) :
    Agrees R' x y := by
  cases h with
  | ok h => exact .ok (hR _ _ h)
  | error e => exact .error e

theorem of_map_eq {f : α → γ} {g : β → γ} (h : x.map f = y.map g) :
    Agrees (fun a b => f a = g b) x y := by
  cases x with
  | ok a =>
    cases y with
    | ok b => exact .ok (Except.ok.inj h)
    | error e => cases h
  | error e =>
    cases y with
    | ok b => cases h
    | error e' =>
      cases h
      exact .error e

theorem attach (h : Agrees R x y) : Agrees (fun a b => R a b ∧ x = .ok a ∧ y = .ok b) x y := by
  cases h with
  | ok h => exact .ok ⟨h, rfl, rfl⟩
  | error e => exact .error e

end Agrees

end MediaSync
