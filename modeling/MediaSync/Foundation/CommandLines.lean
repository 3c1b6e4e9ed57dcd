import Mathlib.Data.List.TakeWhile

/-! The documented rules by which `CommandLineToArgvW` splits a command line. -/
namespace MediaSync.CommandLines

def isDelimiter (c : Char) : Bool := c == ' ' || c == '\t'

structure Scan where
  finished : List (List Char) := []
  inside : Bool := false
  text : List Char := []
  backslashes : Nat := 0
  quoted : Bool := false
  deriving DecidableEq

namespace Scan

def word (s : Scan) : List Char := s.text ++ List.replicate s.backslashes '\\'

def between (finished : List (List Char)) : Scan where
  finished := finished

def next (s : Scan) (c : Char) : Scan :=
  if c = '\\' then { s with inside := true, backslashes := s.backslashes + 1 }
  else if c = '"' then
    if s.backslashes % 2 = 0 then
      { s with
        inside := true
        text := s.text ++ List.replicate (s.backslashes / 2) '\\'
        backslashes := 0
        quoted := !s.quoted }
    else
      { s with
        inside := true
        text := s.text ++ List.replicate (s.backslashes / 2) '\\' ++ ['"']
        backslashes := 0 }
  else if isDelimiter c && !s.quoted then
    if s.inside then between (s.finished ++ [s.word]) else s
  else { s with inside := true, text := s.word ++ [c], backslashes := 0 }

def finish (s : Scan) : List (List Char) :=
  if s.inside then s.finished ++ [s.word] else s.finished

end Scan

def arguments (line : List Char) : List (List Char) := (line.foldl Scan.next {}).finish

def programName : List Char → List Char × List Char
  | '"' :: line => (line.takeWhile (· != '"'), (line.dropWhile (· != '"')).drop 1)
  | line => (line.takeWhile (!isDelimiter ·), line.dropWhile (!isDelimiter ·))

def split (line : List Char) : List (List Char) :=
  (programName line).1 :: arguments (programName line).2

namespace Scan

/-- Every argument that was read is among `finished` once the current one ends. -/
structure Settled (finished : List (List Char)) (s : Scan) : Prop where
  notQuoted : s.quoted = false
  finish_eq : s.finish = finished
  fresh : s.inside = false → s = between finished

theorem settled_between (finished : List (List Char)) : Settled finished (between finished) where
  notQuoted := rfl
  finish_eq := rfl
  fresh _ := rfl

variable {finished : List (List Char)} {s : Scan}

theorem Settled.next_delimiter (h : Settled finished s) : s.next ' ' = between finished := by
  have hfinish := h.finish_eq
  cases hinside : s.inside with
  | false =>
      rw [h.fresh hinside]
      rfl
  | true =>
      rw [finish, if_pos hinside] at hfinish
      simp [next, isDelimiter, h.notQuoted, hinside, hfinish]

theorem foldl_backslashes (n : Nat) (hinside : s.inside = true) :
    (List.replicate n '\\').foldl next s = { s with backslashes := s.backslashes + n } := by
  induction n generalizing s with
  | zero => rfl
  | succ n ih =>
      have hstep : s.next '\\' = { s with inside := true, backslashes := s.backslashes + 1 } := rfl
      rw [List.replicate_succ, List.foldl_cons, hstep, ih rfl, hinside]
      simp only [Nat.add_assoc, Nat.add_comm 1 n]

theorem next_plain {c : Char}
    (hquote : c ≠ '"') (hdelimiter : (isDelimiter c && !s.quoted) = false) :
    (s.next c).finished = s.finished ∧ (s.next c).inside = true ∧
      (s.next c).word = s.word ++ [c] ∧ (s.next c).quoted = s.quoted := by
  by_cases hslash : c = '\\'
  · simp [next, hslash, word, List.replicate_succ', List.append_assoc]
  · simp [next, hslash, hquote, hdelimiter, word]

theorem foldl_plain {cs : List Char} (hcs : ∀ c ∈ cs, c ≠ '"' ∧ isDelimiter c = false) (s : Scan) :
    (cs.foldl next s).finished = s.finished ∧
      (cs.foldl next s).inside = (s.inside || !cs.isEmpty) ∧
      (cs.foldl next s).word = s.word ++ cs ∧ (cs.foldl next s).quoted = s.quoted := by
  induction cs generalizing s with
  | nil => simp
  | cons c cs ih =>
      have hc := hcs c (List.mem_cons_self ..)
      obtain ⟨hfinished, hinside, hword, hquoted⟩ :=
        next_plain (s := s) hc.1 (by rw [hc.2, Bool.false_and])
      obtain ⟨hfinished', hinside', hword', hquoted'⟩ :=
        ih (fun d hd => hcs d (List.mem_cons_of_mem _ hd)) (s.next c)
      refine ⟨hfinished'.trans hfinished, ?_, ?_, hquoted'.trans hquoted⟩
      · rw [List.foldl_cons, hinside', hinside]
        simp
      · rw [List.foldl_cons, hword', hword, List.append_assoc, List.singleton_append]

theorem settled_foldl_plain {cs : List Char} (hne : cs ≠ [])
    (hcs : ∀ c ∈ cs, c ≠ '"' ∧ isDelimiter c = false) (finished : List (List Char)) :
    Settled (finished ++ [cs]) (cs.foldl next (between finished)) := by
  obtain ⟨hfinished, hinside, hword, hquoted⟩ := foldl_plain hcs (between finished)
  have hbegun : (cs.foldl next (between finished)).inside = true := by
    rw [hinside]
    cases cs with
    | nil => exact absurd rfl hne
    | cons c cs => rfl
  refine ⟨hquoted, ?_, fun hfalse => absurd (hbegun.symm.trans hfalse) (by decide)⟩
  rw [finish, if_pos hbegun, hfinished, hword]
  rfl

theorem next_open (finished : List (List Char)) :
    next (between finished) '"' = ⟨finished, true, [], 0, true⟩ := by
  simp [next, between]

variable {text : List Char}

theorem next_close (n : Nat) : next ⟨finished, true, text, n * 2, true⟩ '"' =
      ⟨finished, true, text ++ List.replicate n '\\', 0, false⟩ := by
  simp [next]

theorem next_escaped (n : Nat) : next ⟨finished, true, text, n * 2 + 1, true⟩ '"' =
      ⟨finished, true, text ++ List.replicate n '\\' ++ ['"'], 0, true⟩ := by
  have hodd : (n * 2 + 1) % 2 ≠ 0 := by omega
  have hhalf : (n * 2 + 1) / 2 = n := by omega
  simp [next, hhalf]

theorem next_quoted {n : Nat} {c : Char} (hslash : c ≠ '\\') (hquote : c ≠ '"') :
    next ⟨finished, true, text, n, true⟩ c =
      ⟨finished, true, text ++ List.replicate n '\\' ++ [c], 0, true⟩ := by
  simp [next, hslash, hquote, word]

theorem settled_closed (finished : List (List Char)) (text : List Char) :
    Settled (finished ++ [text]) ⟨finished, true, text, 0, false⟩ where
  notQuoted := rfl
  finish_eq := by simp [finish, word]
  fresh h := by cases h

end Scan

theorem programName_quoted {body rest : List Char} (hbody : '"' ∉ body) :
    programName ('"' :: (body ++ '"' :: rest)) = (body, rest) := by
  have hall : ∀ c ∈ body, (c != '"') = true := by
    intro c hc
    simpa using ne_of_mem_of_not_mem hc hbody
  simp only [programName, List.takeWhile_append_of_pos hall, List.dropWhile_append_of_pos hall]
  simp

theorem programName_plain {name rest : List Char} (hquote : '"' ∉ name)
    (hname : ∀ c ∈ name, isDelimiter c = false) (hne : name ≠ [])
    (hrest : ∀ c ∈ rest.head?, isDelimiter c = true) :
    programName (name ++ rest) = (name, rest) := by
  have hall : ∀ c ∈ name, (!isDelimiter c) = true := by
    intro c hc
    rw [hname c hc]
    rfl
  have hplain : programName (name ++ rest) =
      ((name ++ rest).takeWhile (!isDelimiter ·), (name ++ rest).dropWhile (!isDelimiter ·)) := by
    cases name with
    | nil => exact absurd rfl hne
    | cons c name =>
        have hc : c ≠ '"' := fun h => hquote (h ▸ List.mem_cons_self ..)
        simp [programName, hc]
  rw [hplain, List.takeWhile_append_of_pos hall, List.dropWhile_append_of_pos hall]
  cases rest with
  | nil => simp
  | cons c rest => simp [hrest c rfl]

theorem quote_notMem_programName (line : List Char) :
    '"' ∉ (programName ('"' :: line)).1 := by
  intro hmem
  have hne := List.mem_takeWhile_imp hmem
  simp at hne

end MediaSync.CommandLines
