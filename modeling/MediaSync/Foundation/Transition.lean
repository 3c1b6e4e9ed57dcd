import Mathlib.Logic.Relation

/-! A system gives its initial states and, for every label, a partial step function: `none` means
that the label is not enabled. -/
namespace MediaSync.Transition

structure System (State Label : Type*) where
  init : State → Prop
  step : State → Label → Option State

namespace System

variable {State Label : Type*} (M : System State Label)

/-- States reached by runs all of whose steps meet `ok`. -/
inductive ReachableWhen (ok : State → Label → Prop) : State → Prop
  | init {s} : M.init s → ReachableWhen ok s
  | step {s s' l} : ReachableWhen ok s → ok s l → M.step s l = some s' → ReachableWhen ok s'

abbrev Reachable : State → Prop := M.ReachableWhen fun _ _ => True

/-- `s'` follows from `s` by enabled steps. -/
def Leads : State → State → Prop :=
  Relation.ReflTransGen fun s s' => ∃ l, M.step s l = some s'

def replay (s : State) (ls : List Label) : Option State := ls.foldlM M.step s

def replayWhile (test : State → Label → Bool) (s : State) (ls : List Label) : Option State :=
  ls.foldlM (fun m l => if test m l then M.step m l else none) s

variable {M} {ok ok' : State → Label → Prop} {s s' : State}

theorem ReachableWhen.invariant {P : State → Prop} (hinit : ∀ s, M.init s → P s)
    (hstep : ∀ s l s', M.ReachableWhen ok s → P s → ok s l → M.step s l = some s' → P s')
    (h : M.ReachableWhen ok s) : P s := by
  induction h with
  | init h0 => exact hinit _ h0
  | step hr hok hs ih => exact hstep _ _ _ hr ih hok hs

theorem ReachableWhen.mono (himp : ∀ s l, ok s l → ok' s l) (h : M.ReachableWhen ok s) :
    M.ReachableWhen ok' s := by
  induction h with
  | init h0 => exact .init h0
  | step _ hok hs ih => exact .step ih (himp _ _ hok) hs

theorem ReachableWhen.reachable (h : M.ReachableWhen ok s) : M.Reachable s :=
  h.mono fun _ _ _ => trivial

theorem ReachableWhen.replay (h : M.ReachableWhen ok s) (ls : List Label)
    (hok : ∀ l ∈ ls, ∀ m, ok m l) (hrun : M.replay s ls = some s') : M.ReachableWhen ok s' := by
  induction ls generalizing s with
  | nil =>
    simp only [System.replay, List.foldlM_nil, pure, Option.some.injEq] at hrun
    exact hrun ▸ h
  | cons l ls ih =>
    simp only [System.replay, List.foldlM_cons, bind, Option.bind_eq_some_iff] at hrun
    obtain ⟨m, hm, hrest⟩ := hrun
    exact ih (.step h (hok l List.mem_cons_self s) hm)
      (fun x hx => hok x (List.mem_cons_of_mem _ hx)) hrest

theorem ReachableWhen.replayWhile {test : State → Label → Bool}
    (htest : ∀ m l, test m l = true → ok m l) (h : M.ReachableWhen ok s) (ls : List Label)
    (hrun : M.replayWhile test s ls = some s') : M.ReachableWhen ok s' := by
  induction ls generalizing s with
  | nil =>
    simp only [System.replayWhile, List.foldlM_nil, pure, Option.some.injEq] at hrun
    exact hrun ▸ h
  | cons l ls ih =>
    simp only [System.replayWhile, List.foldlM_cons, bind, Option.bind_eq_some_iff] at hrun
    obtain ⟨m, hm, hrest⟩ := hrun
    split at hm
    · rename_i hok
      exact ih (.step h (htest s l hok) hm) hrest
    · cases hm

theorem Reachable.replay (h : M.Reachable s) (ls : List Label)
    (hrun : M.replay s ls = some s') : M.Reachable s' :=
  ReachableWhen.replay h ls (fun _ _ _ => trivial) hrun

theorem Leads.head {l : Label} {m : State} (hstep : M.step s l = some m) (h : M.Leads m s') :
    M.Leads s s' := Relation.ReflTransGen.head ⟨l, hstep⟩ h

theorem Leads.reachable (hs : M.Reachable s) (h : M.Leads s s') : M.Reachable s' := by
  induction h with
  | refl => exact hs
  | tail _ hlast ih =>
    obtain ⟨l, hl⟩ := hlast
    exact .step ih trivial hl

end System

end MediaSync.Transition
