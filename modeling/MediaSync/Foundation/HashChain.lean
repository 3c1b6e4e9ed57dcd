import MediaSync.Foundation.Table

/-! An append-only stream numbers its events and stores with each one the hash of the event before
it. -/
namespace MediaSync

structure Chaining (Event Hash : Type*) where
  first : Nat
  sequence : Event → Nat
  previous : Event → Option Hash
  hash : Event → Hash

variable {Event Hash : Type*} (C : Chaining Event Hash)

inductive HashChain : List Event → Prop
  | nil : HashChain []
  | snoc {events : List Event} {event : Event} (hevents : HashChain events)
      (hsequence : C.sequence event = C.first + events.length)
      (hprevious : C.previous event = events.getLast?.map C.hash) : HashChain (events ++ [event])

namespace HashChain

variable {C} {events : List Event} {event : Event}

theorem sequence_lt (h : HashChain C events) (hmem : event ∈ events) :
    C.sequence event < C.first + events.length := by
  induction h with
  | nil => cases hmem
  | snoc hevents hsequence _ ih =>
    rw [List.length_append, List.length_singleton]
    rcases List.mem_append.mp hmem with hold | hnew
    · have := ih hold
      omega
    · rw [List.mem_singleton.mp hnew, hsequence]
      omega

theorem newest (h : HashChain C events) :
    Table.newestBy C.sequence events = events.getLast? := by
  induction h with
  | nil => rfl
  | @snoc events event hevents hsequence _ ih =>
    rw [Table.newestBy_append, ih, List.getLast?_concat]
    cases hlast : events.getLast? with
    | none => rfl
    | some found =>
      have hlt := hevents.sequence_lt (List.mem_of_getLast? hlast)
      rw [← hsequence] at hlt
      exact if_pos hlt

theorem sequence_last (h : HashChain C events) (hlast : events.getLast? = some event) :
    C.sequence event + 1 = C.first + events.length := by
  cases h with
  | nil => cases hlast
  | snoc _ hsequence _ =>
    rw [List.getLast?_concat, Option.some.injEq] at hlast
    rw [← hlast, hsequence, List.length_append, List.length_singleton]
    omega

theorem append (h : HashChain C events)
    (hsequence : C.sequence event =
      (Table.newestBy C.sequence events).elim C.first fun last => C.sequence last + 1)
    (hprevious : C.previous event = (Table.newestBy C.sequence events).map C.hash) :
    HashChain C (events ++ [event]) := by
  rw [h.newest] at hsequence hprevious
  refine .snoc h ?_ hprevious
  cases hlast : events.getLast? with
  | none =>
    rw [hlast] at hsequence
    rw [hsequence, List.getLast?_eq_none_iff.mp hlast, List.length_nil, Nat.add_zero,
      Option.elim_none]
  | some last =>
    rw [hlast] at hsequence
    exact hsequence.trans (h.sequence_last hlast)

theorem sequence_eq (h : HashChain C events) {i : Nat} (hi : events[i]? = some event) :
    C.sequence event = C.first + i := by
  induction h with
  | nil => cases hi
  | @snoc events last _ hsequence _ ih =>
    by_cases hlt : i < events.length
    · rw [List.getElem?_append_left hlt] at hi
      exact ih hi
    · rw [List.getElem?_append_right (Nat.le_of_not_lt hlt), List.getElem?_singleton] at hi
      split at hi
      · rename_i heq
        cases hi
        rw [hsequence, show i = events.length by omega]
      · cases hi

theorem previous_first (h : HashChain C events) (h0 : events[0]? = some event) :
    C.previous event = none := by
  induction h with
  | nil => cases h0
  | @snoc events last _ _ hprevious ih =>
    cases events with
    | nil =>
      cases h0
      exact hprevious
    | cons head rest => exact ih h0

theorem previous_eq (h : HashChain C events) {i : Nat} {next : Event}
    (hi : events[i]? = some event) (hnext : events[i + 1]? = some next) :
    C.previous next = some (C.hash event) := by
  induction h with
  | nil => cases hi
  | @snoc events last _ _ hprevious ih =>
    have hlt : i < events.length := by
      have := (List.getElem?_eq_some_iff.mp hnext).1
      rw [List.length_append, List.length_singleton] at this
      omega
    rw [List.getElem?_append_left hlt] at hi
    by_cases hlt' : i + 1 < events.length
    · rw [List.getElem?_append_left hlt'] at hnext
      exact ih hi hnext
    · have hlen : i + 1 = events.length := by omega
      rw [List.getElem?_append_right (by omega), hlen, Nat.sub_self] at hnext
      cases hnext
      rw [hprevious, List.getLast?_eq_getElem?, ← hlen, Nat.add_sub_cancel, hi]
      rfl

end HashChain

end MediaSync
