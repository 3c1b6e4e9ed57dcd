import MediaSync.Foundation.Text
import Mathlib.Data.List.Infix

/-! A root is compared by its anchor, a drive or a UNC share, and by the folded parts of its path:
two roots overlap when the parts of one begin those of the other. -/
namespace MediaSync.Jobs
open Text

/-- The parts of `urlparse` that are read. -/
structure UrlParts where
  scheme : String
  netloc : String
  path : String

/-- Python's functions on path texts; `urlparse` is `none` where it raises. -/
structure PathLibrary where
  casefold : String → String
  isAlpha : Char → Bool
  urlparse : String → Option UrlParts

structure DraftRootKey where
  anchor : String
  parts : List String
  deriving DecidableEq

/-- `value.replace("\\", "/")`. -/
def forwardSlashes (value : String) : String :=
  String.ofList (value.toList.map fun c => if c = '\\' then '/' else c)

/-- `value.strip("/")`. -/
def stripSlashes (value : String) : String :=
  String.ofList ((value.toList.dropWhile (· = '/')).reverse.dropWhile (· = '/')).reverse

/-- `value.split("/")`. -/
def splitSlashes (value : String) : List String :=
  (value.toList.splitOn '/').map String.ofList

variable (py : PathLibrary)

def pathParts (value : String) : List String :=
  ((splitSlashes (stripSlashes value)).filter fun part => part ≠ "" && part ≠ ".").map py.casefold

/-- `value[n:]`. -/
def dropFirst (n : Nat) (value : String) : String := String.ofList (value.toList.drop n)

def uncRootKey (value : String) : Option DraftRootKey :=
  match pathParts py (dropFirst 2 value) with
  | server :: share :: parts => some ⟨"unc://" ++ server ++ "/" ++ share, parts⟩
  | _ => none

def driveRootKey (value : String) : Option DraftRootKey :=
  match value.toList with
  | letter :: ':' :: _ =>
    if py.isAlpha letter then
      some ⟨"drive:" ++ py.casefold (String.singleton letter), pathParts py (dropFirst 2 value)⟩
    else none
  | _ => none

def fileUriToWindowsPath (netloc path : String) : String :=
  let normalizedPath := forwardSlashes path
  if netloc ≠ "" then "//" ++ netloc ++ normalizedPath
  else
    match normalizedPath.toList with
    | '/' :: _ :: ':' :: _ => dropFirst 1 normalizedPath
    | _ => normalizedPath

def draftRootKey (pathLabel : Option String) : Except String (Option DraftRootKey) :=
  match pathLabel with
  | none => .ok none
  | some pathLabel =>
    let value := strip pathLabel
    if value = "" then .ok none
    else
      match driveRootKey py (forwardSlashes value) with
      | some key => .ok (some key)
      | none =>
        match py.urlparse value with
        | none => .error "ValueError"
        | some parsed =>
          if parsed.scheme ≠ "" ∧ parsed.scheme.toLower ≠ "file" then .ok none
          else
            let value :=
              if parsed.scheme ≠ "" then fileUriToWindowsPath parsed.netloc parsed.path
              else value
            let normalized := strip (forwardSlashes value)
            match normalized.toList with
            | '/' :: '/' :: _ => .ok (uncRootKey py normalized)
            | _ => .ok (driveRootKey py normalized)

def rootsOverlap (first second : DraftRootKey) : Bool :=
  if first.anchor ≠ second.anchor then false
  else
    let (shorter, longer) :=
      if first.parts.length ≤ second.parts.length then (first.parts, second.parts)
      else (second.parts, first.parts)
    longer.take shorter.length = shorter

def keysOverlap : Option DraftRootKey → Option DraftRootKey → Bool
  | some first, some second => rootsOverlap first second
  | _, _ => false

def draftPathLabelsOverlap (first second : Option String) : Except String Bool := do
  let first ← draftRootKey py first
  let second ← draftRootKey py second
  return keysOverlap first second

theorem rootsOverlap_iff {first second : DraftRootKey} :
    rootsOverlap first second = true ↔ first.anchor = second.anchor ∧
      (first.parts <+: second.parts ∨ second.parts <+: first.parts) := by
  unfold rootsOverlap
  by_cases hanchor : first.anchor = second.anchor
  · rw [if_neg (not_not.mpr hanchor)]
    by_cases hlength : first.parts.length ≤ second.parts.length
    · -- the first root is the shorter one
      simp only [hlength, if_true, decide_eq_true_eq, hanchor, true_and]
      rw [← List.prefix_iff_eq_take.trans eq_comm]
      refine ⟨.inl, fun h => h.elim id fun hprefix => ?_⟩
      have heq := hprefix.eq_of_length (Nat.le_antisymm hprefix.length_le hlength)
      exact heq ▸ List.prefix_rfl
    · simp only [hlength, if_false, decide_eq_true_eq, hanchor, true_and]
      rw [← List.prefix_iff_eq_take.trans eq_comm]
      refine ⟨.inr, fun h => h.elim (fun hprefix => ?_) id⟩
      exact absurd hprefix.length_le hlength
  · rw [if_pos hanchor]
    simp [hanchor]

theorem rootsOverlap_comm (first second : DraftRootKey) :
    rootsOverlap first second = rootsOverlap second first := by
  rw [Bool.eq_iff_iff, rootsOverlap_iff, rootsOverlap_iff]
  exact and_congr eq_comm or_comm

theorem keysOverlap_comm (first second : Option DraftRootKey) :
    keysOverlap first second = keysOverlap second first := by
  cases first <;> cases second <;> first | rfl | exact rootsOverlap_comm _ _

variable {py}

variable {first second : Option String}

theorem draftPathLabelsOverlap_eq_ok {overlap : Bool} :
    draftPathLabelsOverlap py first second = .ok overlap ↔
      ∃ a b, draftRootKey py first = .ok a ∧ draftRootKey py second = .ok b ∧
        keysOverlap a b = overlap := by
  unfold draftPathLabelsOverlap
  cases draftRootKey py first with
  | error => simp [bind, Except.bind]
  | ok a =>
    cases draftRootKey py second with
    | error => simp [bind, Except.bind]
    | ok b => simp [bind, Except.bind, pure, Except.pure]

theorem draftPathLabelsOverlap_comm {overlap : Bool}
    (h : draftPathLabelsOverlap py first second = .ok overlap) :
    draftPathLabelsOverlap py second first = .ok overlap := by
  obtain ⟨a, b, ha, hb, hab⟩ := draftPathLabelsOverlap_eq_ok.mp h
  exact draftPathLabelsOverlap_eq_ok.mpr ⟨b, a, hb, ha, keysOverlap_comm b a ▸ hab⟩

end MediaSync.Jobs
