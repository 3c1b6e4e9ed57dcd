import Mathlib.Data.List.TakeWhile

/-! The string tests that the stores and planners share: `str.strip()` used as a truth value, hash
patterns, Windows drive prefixes and slash-separated components. -/
namespace MediaSync.Text

/-- The characters `str.strip()` removes. -/
def isSpace (c : Char) : Bool :=
  let n := c.toNat
  (9 ≤ n && n ≤ 13) || (28 ≤ n && n ≤ 32) || n == 0x85 || n == 0xA0 || n == 0x1680 ||
    (0x2000 ≤ n && n ≤ 0x200A) || n == 0x2028 || n == 0x2029 || n == 0x202F || n == 0x205F ||
    n == 0x3000

/-- `bool(value.strip())`. -/
def nonBlank (value : String) : Bool := value.toList.any fun c => !isSpace c

/-- `value is not None and bool(value.strip())`. -/
def someNonBlank (value : Option String) : Bool := value.any nonBlank

def strip (value : String) : String :=
  String.ofList ((value.toList.dropWhile isSpace).reverse.dropWhile isSpace).reverse

/-- `c.upper()`, up to letters whose upper case is outside ASCII too. -/
def upperChar (c : Char) : List Char :=
  match c.toNat with
  | 0xDF => ['S', 'S']
  | 0x131 => ['I']
  | 0x17F => ['S']
  | 0xFB00 => ['F', 'F']
  | 0xFB01 => ['F', 'I']
  | 0xFB02 => ['F', 'L']
  | 0xFB03 => ['F', 'F', 'I']
  | 0xFB04 => ['F', 'F', 'L']
  | 0xFB05 => ['S', 'T']
  | 0xFB06 => ['S', 'T']
  | _ => [c.toUpper]

/-- `value.upper()`, for comparisons with ASCII text. -/
def upper (value : String) : String := String.ofList (value.toList.flatMap upperChar)

/-- `all(value.strip() for value in values)`. -/
def nonEmpty (values : List String) : Bool := values.all nonBlank

theorem any_dropWhile_isSpace (text : List Char) :
    (text.dropWhile isSpace).any (fun c => !isSpace c) = text.any fun c => !isSpace c := by
  induction text with
  | nil => rfl
  | cons c rest ih =>
    by_cases hc : isSpace c = true
    · rw [List.dropWhile_cons_of_pos hc, ih]
      simp [hc]
    · rw [List.dropWhile_cons_of_neg hc]

@[simp] theorem nonBlank_strip (value : String) : nonBlank (strip value) = nonBlank value := by
  simp only [nonBlank, strip, String.toList_ofList, List.any_reverse, any_dropWhile_isSpace]

theorem strip_ne_empty {value : String} (h : nonBlank value = true) : strip value ≠ "" := by
  intro hempty
  rw [← nonBlank_strip, hempty] at h
  cases h

theorem strip_eq_empty {value : String} (h : nonBlank value = false) : strip value = "" := by
  have hall : ∀ c ∈ value.toList, isSpace c = true := by
    simpa [nonBlank] using h
  have hnil : value.toList.dropWhile isSpace = [] :=
    List.dropWhile_eq_nil_iff.mpr hall
  rw [strip, hnil]
  rfl

def isLowerHex (c : Char) : Bool :=
  ('0' ≤ c && c ≤ '9') || ('a' ≤ c && c ≤ 'f')

/-- `HASH_PATTERN.fullmatch(value) is not None`. -/
def isHash (value : String) : Bool :=
  value.toList.length == 64 && value.toList.all isLowerHex

def isAsciiLetter (c : Char) : Bool :=
  ('A' ≤ c && c ≤ 'Z') || ('a' ≤ c && c ≤ 'z')

/-- `WINDOWS_DRIVE_PATTERN.match(value)`. -/
def startsWithDrive (value : String) : Bool :=
  match value.toList with
  | c :: ':' :: _ => isAsciiLetter c
  | _ => false

def startsWithSlash (value : String) : Bool :=
  match value.toList with
  | c :: _ => c == '/' || c == '\\'
  | [] => false

/-- `value.replace("\\", "/").split("/")`. -/
def components (value : String) : List String :=
  ((value.toList.map fun c => if c = '\\' then '/' else c).splitOn '/').map String.ofList

/-- `_valid_relative_path` of the recovery operations and intent segments. -/
def validRelativePath (value : String) : Bool :=
  nonBlank value && !startsWithSlash value && !startsWithDrive value &&
    (components value).all fun part => part != "" && part != "." && part != ".."

/-- Raise `code` unless `test` holds. -/
def check (test : Bool) (code : String) : Except String Unit :=
  if test then .ok () else .error code

@[simp] theorem check_eq_ok {test : Bool} {code : String} {u : Unit} :
    check test code = .ok u ↔ test = true := by
  cases test <;> simp [check]

@[simp] theorem check_bind_eq_ok {α : Type} {test : Bool} {code : String}
    {k : Unit → Except String α} {a : α} :
    (check test code >>= k) = .ok a ↔ test = true ∧ k () = .ok a := by
  cases test <;> simp [check, bind, Except.bind]

theorem except_bind_ok {ε α β : Type} {x : Except ε α} {k : α → Except ε β} {b : β}
    (h : (x >>= k) = .ok b) : ∃ a, x = .ok a ∧ k a = .ok b := by
  cases x with
  | error code => simp [bind, Except.bind] at h
  | ok a => exact ⟨a, rfl, h⟩

theorem except_map_ok {ε α β : Type} {x : Except ε α} {f : α → β} {b : β}
    (h : x.map f = .ok b) : ∃ a, x = .ok a ∧ f a = b := by
  cases x with
  | error code => cases h
  | ok a =>
    cases h
    exact ⟨a, rfl, rfl⟩

theorem except_bind_error {ε α β : Type} {x : Except ε α} {k : α → Except ε β} {e : ε}
    (h : (x >>= k) = .error e) : x = .error e ∨ ∃ a, x = .ok a ∧ k a = .error e := by
  cases x with
  | error code =>
    simp only [bind, Except.bind] at h
    cases h
    exact .inl rfl
  | ok a => exact .inr ⟨a, rfl, h⟩

end MediaSync.Text
