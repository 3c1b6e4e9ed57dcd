import Mathlib.Data.List.TakeWhile

/-! The paths the snapshot scanner builds: text with slashes, `"."` for the root of the endpoint. -/
namespace MediaSync.Snapshots

structure EntryName where
  text : String
  nonempty : text ≠ ""
  no_separator : '/' ∉ text.toList
  not_dot : text ≠ "."
  not_dots : text ≠ ".."

def childRelativePath (parent name : String) : String :=
  if parent = "." then name else parent ++ "/" ++ name

def parentRelativePath (path : String) : String :=
  if '/' ∈ path.toList then
    String.ofList ((path.toList.reverse.dropWhile fun c => c != '/').tail).reverse
  else "."

def levels (path : String) : Nat := if path = "." then 0 else path.toList.count '/' + 1

/-- The turns of the loop of `_path_is_within_any`, at most as many as there are names. -/
def withinFrom (roots : List String) : Nat → String → Bool
  | 0, _ => false
  | turns + 1, current =>
    if current = "." then false
    else roots.contains current || withinFrom roots turns (parentRelativePath current)

def pathIsWithinAny (path : String) (roots : List String) : Bool :=
  withinFrom roots (levels path) path

/-- The root, or a child of a path by its name. -/
inductive ScanPath : String → Prop where
  | root : ScanPath "."
  | child {parent : String} (name : EntryName) (hparent : ScanPath parent) :
      ScanPath (childRelativePath parent name.text)

variable (parent : String) (name : EntryName)

theorem toList_child (hparent : parent ≠ ".") :
    (childRelativePath parent name.text).toList =
      parent.toList ++ '/' :: name.text.toList := by
  simp [childRelativePath, hparent]

theorem childRelativePath_ne_dot : childRelativePath parent name.text ≠ "." := by
  by_cases hparent : parent = "."
  · simpa [childRelativePath, hparent] using name.not_dot
  · intro h
    have hmem : '/' ∈ (childRelativePath parent name.text).toList := by
      simp [toList_child parent name hparent]
    rw [h] at hmem
    exact absurd hmem (by decide)

theorem dropWhile_name (rest : List Char) :
    (name.text.toList.reverse ++ '/' :: rest).dropWhile (fun c => c != '/') = '/' :: rest := by
  rw [List.dropWhile_append_of_pos]
  · simp
  · intro c hc
    have : c ≠ '/' := fun h => name.no_separator (h ▸ List.mem_reverse.mp hc)
    simpa using this

theorem parentRelativePath_child :
    parentRelativePath (childRelativePath parent name.text) = parent := by
  by_cases hparent : parent = "."
  · simp [parentRelativePath, childRelativePath, hparent, name.no_separator]
  · have hlist := toList_child parent name hparent
    have hmem : '/' ∈ (childRelativePath parent name.text).toList := by simp [hlist]
    rw [parentRelativePath, if_pos hmem, hlist, List.reverse_append, List.reverse_cons,
      List.append_assoc, List.singleton_append, dropWhile_name]
    simp

theorem childRelativePath_injective {parent' : String} {name' : EntryName}
    (h : childRelativePath parent name.text = childRelativePath parent' name'.text) :
    parent = parent' ∧ name.text = name'.text := by
  have hparents : parent = parent' := by
    rw [← parentRelativePath_child parent name, h, parentRelativePath_child]
  subst hparents
  refine ⟨rfl, ?_⟩
  by_cases hparent : parent = "."
  · simpa [childRelativePath, hparent] using h
  · have hlists := congrArg String.toList h
    rw [toList_child parent name hparent, toList_child parent name' hparent] at hlists
    exact String.toList_injective (by simpa using hlists)

theorem levels_child :
    levels (childRelativePath parent name.text) = levels parent + 1 := by
  rw [levels, if_neg (childRelativePath_ne_dot parent name)]
  by_cases hparent : parent = "."
  · simp [levels, childRelativePath, hparent, List.count_eq_zero.mpr name.no_separator]
  · rw [toList_child parent name hparent]
    simp [levels, hparent, List.count_eq_zero.mpr name.no_separator]

@[simp] theorem levels_root : levels "." = 0 := rfl

@[simp] theorem pathIsWithinAny_root (roots : List String) : pathIsWithinAny "." roots = false :=
  rfl

theorem pathIsWithinAny_child (roots : List String) :
    pathIsWithinAny (childRelativePath parent name.text) roots =
      (roots.contains (childRelativePath parent name.text) || pathIsWithinAny parent roots) := by
  rw [pathIsWithinAny, levels_child, withinFrom, if_neg (childRelativePath_ne_dot parent name),
    parentRelativePath_child]
  rfl

end MediaSync.Snapshots
