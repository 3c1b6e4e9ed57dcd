import MediaSync.Foundation.Text

/-! The parser of safe paths and the check of snapshot entries, next to the check of the recovery
operations. -/
namespace MediaSync.Text

/-- `c.casefold()`, up to letters whose fold is outside ASCII too. -/
def foldChar (c : Char) : List Char :=
  match c.toNat with
  | 0xDF | 0x1E9E => ['s', 's']
  | 0x17F => ['s']
  | 0x212A => ['k']
  | 0xFB00 => ['f', 'f']
  | 0xFB01 => ['f', 'i']
  | 0xFB02 => ['f', 'l']
  | 0xFB03 => ['f', 'f', 'i']
  | 0xFB04 => ['f', 'f', 'l']
  | 0xFB05 | 0xFB06 => ['s', 't']
  | _ => [c.toLower]

/-- `value.casefold()`, for comparisons with ASCII text. -/
def casefold (value : String) : String := String.ofList (value.toList.flatMap foldChar)

/-- `value.replace("\\", "/")`. -/
def forwardSlashes (value : String) : String :=
  String.ofList (value.toList.map fun c => if c = '\\' then '/' else c)

def windowsReservedBasenames : List String :=
  ["CON", "PRN", "AUX", "NUL"] ++
    ["COM1", "COM2", "COM3", "COM4", "COM5", "COM6", "COM7", "COM8", "COM9"] ++
    ["LPT1", "LPT2", "LPT3", "LPT4", "LPT5", "LPT6", "LPT7", "LPT8", "LPT9"]

def controlAreaBasename : String := ".mediasync"

/-- `part.split(".", 1)[0]`. -/
def basename (part : String) : String := String.ofList (part.toList.takeWhile (· ≠ '.'))

def validatePart (part : String) : Except String Unit := do
  check (part ≠ "" && part ≠ "." && part ≠ "..") "SAFE_PATH_UNSAFE_SEGMENT"
  check (!part.toList.contains ':') "SAFE_PATH_ALTERNATE_DATA_STREAM"
  check (part = strip part) "SAFE_PATH_AMBIGUOUS_WHITESPACE"
  check (part.toList.getLast? ≠ some '.') "SAFE_PATH_AMBIGUOUS_TRAILING_DOT"
  check (!windowsReservedBasenames.contains (upper (basename part)))
    "SAFE_PATH_RESERVED_DEVICE_NAME"
  check (casefold part ≠ controlAreaBasename) "SAFE_PATH_CONTROL_AREA_RESERVED"

structure PortableName (part : String) : Prop where
  named : part ≠ "" ∧ part ≠ "." ∧ part ≠ ".."
  noStream : ':' ∉ part.toList
  trimmed : part = strip part
  noTrailingDot : part.toList.getLast? ≠ some '.'
  notReserved : upper (basename part) ∉ windowsReservedBasenames
  notControlArea : casefold part ≠ controlAreaBasename
  printable : ∀ c ∈ part.toList, 32 ≤ c.toNat

theorem validatePart_eq_ok {part : String} :
    validatePart part = .ok () ∧ (∀ c ∈ part.toList, 32 ≤ c.toNat) ↔ PortableName part := by
  simp only [validatePart, check_bind_eq_ok, check_eq_ok, Bool.and_eq_true, decide_eq_true_eq,
    Bool.not_eq_true', List.contains_eq_mem, decide_eq_false_iff_not]
  constructor
  · rintro ⟨⟨⟨⟨hempty, hdot⟩, hparent⟩, hstream, htrim, hlast, hreserved, hcontrol⟩, hprint⟩
    exact ⟨⟨hempty, hdot, hparent⟩, hstream, htrim, hlast, hreserved, hcontrol, hprint⟩
  · rintro ⟨⟨hempty, hdot, hparent⟩, hstream, htrim, hlast, hreserved, hcontrol, hprint⟩
    exact ⟨⟨⟨⟨hempty, hdot⟩, hparent⟩, hstream, htrim, hlast, hreserved, hcontrol⟩, hprint⟩

theorem components_ne_nil (value : String) : components value ≠ [] := by
  rw [components, ne_eq, List.map_eq_nil_iff]
  exact List.splitOn_ne_nil _ _

theorem exists_mem_splitOn {separator c : Char} {text : List Char} :
    (∃ segment ∈ text.splitOn separator, c ∈ segment) ↔ c ∈ text ∧ c ≠ separator := by
  induction text with
  | nil => simp
  | cons first rest ih =>
    obtain ⟨head, tail, hsplit⟩ := List.exists_cons_of_ne_nil (List.splitOn_ne_nil separator rest)
    rw [hsplit] at ih
    rw [List.splitOn_cons_eq_if_modifyHead, hsplit]
    simp only [List.mem_cons, exists_eq_or_imp] at ih
    by_cases hfirst : first = separator
    · simp only [hfirst, beq_self_eq_true, if_true, List.mem_cons, exists_eq_or_imp,
        List.not_mem_nil, false_or, ih]
      grind
    · simp only [beq_eq_false_iff_ne.mpr hfirst, Bool.false_eq_true, if_false, List.modifyHead_cons,
        List.mem_cons, exists_eq_or_imp]
      grind

variable {value : String}

theorem exists_mem_components {c : Char} : (∃ part ∈ components value, c ∈ part.toList) ↔
      c ∈ (forwardSlashes value).toList ∧ c ≠ '/' := by
  rw [forwardSlashes, String.toList_ofList, ← exists_mem_splitOn, components]
  constructor
  · rintro ⟨part, hpart, hc⟩
    obtain ⟨segment, hsegment, rfl⟩ := List.mem_map.mp hpart
    exact ⟨segment, hsegment, by rwa [String.toList_ofList] at hc⟩
  · rintro ⟨segment, hsegment, hc⟩
    exact ⟨_, List.mem_map_of_mem hsegment, by rwa [String.toList_ofList]⟩

theorem empty_mem_components (h : startsWithSlash (forwardSlashes value) = true) :
    "" ∈ components value := by
  have hmapped : (forwardSlashes value).toList =
      value.toList.map fun c => if c = '\\' then '/' else c := String.toList_ofList
  unfold startsWithSlash at h
  split at h
  · rename_i c rest hcons
    rw [hcons] at hmapped
    have hslash : c = '/' := by
      have hmem : c ∈ value.toList.map fun c => if c = '\\' then '/' else c :=
        hmapped ▸ List.mem_cons_self
      obtain ⟨d, -, hd⟩ := List.mem_map.mp hmem
      by_cases hback : d = '\\'
      · rw [if_pos hback] at hd
        exact hd.symm
      · rw [if_neg hback] at hd
        subst hd
        simpa [hback] using h
    rw [components, ← hmapped, hslash, List.splitOn_cons_eq_if_modifyHead, beq_self_eq_true,
      if_pos rfl]
    exact List.mem_cons_self
  · cases h

structure EndpointRelativePath where
  parts : List String
  nonempty : parts ≠ []
  portable : ∀ part ∈ parts, PortableName part

/-- The tests of `parse_endpoint_relative_path`. -/
def validateEndpointRelativePath (value : String) : Except String Unit := do
  check (nonBlank (forwardSlashes value)) "SAFE_PATH_EMPTY"
  check (!startsWithSlash (forwardSlashes value)) "SAFE_PATH_ABSOLUTE_OR_DEVICE"
  check (!startsWithDrive (forwardSlashes value)) "SAFE_PATH_DRIVE_RELATIVE"
  check ((forwardSlashes value).toList.all fun c => 32 ≤ c.toNat) "SAFE_PATH_CONTROL_CHARACTER"
  (components value).forM validatePart

theorem forM_validatePart_eq_ok {parts : List String} :
    parts.forM validatePart = .ok () ↔ ∀ part ∈ parts, validatePart part = .ok () := by
  induction parts with
  | nil => simp [pure, Except.pure]
  | cons part rest ih =>
    rw [List.forall_mem_cons, ← ih]
    show (validatePart part >>= fun _ => rest.forM validatePart) = .ok () ↔ _
    cases validatePart part with
    | error code => exact ⟨fun h => (nomatch h), fun h => (nomatch h.1)⟩
    | ok u => exact ⟨fun h => ⟨rfl, h⟩, fun h => h.2⟩

theorem validateEndpointRelativePath_eq_ok : validateEndpointRelativePath value = .ok () ↔
      ∀ part ∈ components value, PortableName part := by
  simp only [validateEndpointRelativePath, check_bind_eq_ok, forM_validatePart_eq_ok,
    Bool.not_eq_true', List.all_eq_true, decide_eq_true_eq]
  constructor
  · rintro ⟨-, -, -, hprint, hparts⟩ part hpart
    exact validatePart_eq_ok.mp ⟨hparts part hpart, fun c hc =>
      hprint c (exists_mem_components.mp ⟨part, hpart, hc⟩).1⟩
  · intro hportable
    obtain ⟨first, others, hfirst⟩ := List.exists_cons_of_ne_nil (components_ne_nil value)
    have hmem : first ∈ components value := hfirst ▸ List.mem_cons_self
    refine ⟨?_, ?_, ?_, fun c hc => ?_,
      fun part hpart => (validatePart_eq_ok.mpr (hportable part hpart)).1⟩
    · -- a portable name is not blank
      have hname := hportable first hmem
      have hblank : nonBlank first = true := by
        by_contra hnot
        exact hname.named.1 (hname.trimmed.trans
          (strip_eq_empty (Bool.eq_false_iff.mpr hnot)))
      obtain ⟨c, hc, hspace⟩ := List.any_eq_true.mp hblank
      exact List.any_eq_true.mpr ⟨c, (exists_mem_components.mp ⟨first, hmem, hc⟩).1, hspace⟩
    · rw [Bool.eq_false_iff]
      exact fun hslash => (hportable "" (empty_mem_components hslash)).named.1 rfl
    · rw [Bool.eq_false_iff]
      intro hdrive
      have hcolon : ':' ∈ (forwardSlashes value).toList := by
        unfold startsWithDrive at hdrive
        split at hdrive
        · rename_i c rest hcons
          rw [hcons]
          exact List.mem_cons_of_mem _ List.mem_cons_self
        · cases hdrive
      obtain ⟨part, hpart, hstream⟩ := exists_mem_components.mpr ⟨hcolon, by decide⟩
      exact (hportable part hpart).noStream hstream
    · by_cases hslash : c = '/'
      · subst hslash
        decide
      · obtain ⟨part, hpart, hin⟩ := exists_mem_components.mpr ⟨hc, hslash⟩
        exact (hportable part hpart).printable c hin

def parseEndpointRelativePath (value : String) : Except String EndpointRelativePath :=
  match h : validateEndpointRelativePath value with
  | .error code => .error code
  | .ok () => .ok ⟨components value, components_ne_nil value,
      validateEndpointRelativePath_eq_ok.mp h⟩

theorem parses_iff : (∃ path, parseEndpointRelativePath value = .ok path) ↔
      ∀ part ∈ components value, PortableName part := by
  rw [← validateEndpointRelativePath_eq_ok]
  unfold parseEndpointRelativePath
  split
  · rename_i code herror
    rw [herror]
    refine ⟨fun h => ?_, fun h => (nomatch h)⟩
    obtain ⟨path, hpath⟩ := h
    cases hpath
  · rename_i hok
    exact ⟨fun _ => hok, fun _ => ⟨_, rfl⟩⟩

theorem parseEndpointRelativePath_eq_error {value code : String}
    (h : validateEndpointRelativePath value = .error code) :
    parseEndpointRelativePath value = .error code := by
  unfold parseEndpointRelativePath
  split
  · rename_i other herror
    cases herror.symm.trans h
    rfl
  · rename_i hok
    rw [hok] at h
    cases h

/-- `_valid_relative_path` of the snapshots. -/
def validSnapshotPath (value : String) : Bool :=
  nonBlank (forwardSlashes value) && !startsWithSlash (forwardSlashes value) &&
    !startsWithDrive (forwardSlashes value) &&
    (components value).all fun part =>
      part != "" && part != "." && part != ".." && !part.toList.contains ':'

theorem validSnapshotPath_of_portable (h : ∀ part ∈ components value, PortableName part) :
    validSnapshotPath value = true := by
  have hvalid := validateEndpointRelativePath_eq_ok.mpr h
  simp only [validateEndpointRelativePath, check_bind_eq_ok, Bool.not_eq_true'] at hvalid
  obtain ⟨hblank, hslash, hdrive, -, -⟩ := hvalid
  simp only [validSnapshotPath, hblank, hslash, hdrive, Bool.not_false, Bool.true_and,
    List.all_eq_true, Bool.and_eq_true, bne_iff_ne, Bool.not_eq_true', List.contains_eq_mem,
    decide_eq_false_iff_not]
  exact fun part hpart => ⟨⟨⟨(h part hpart).named.1, (h part hpart).named.2.1⟩,
    (h part hpart).named.2.2⟩, (h part hpart).noStream⟩

theorem nonBlank_forwardSlashes (value : String) :
    nonBlank (forwardSlashes value) = nonBlank value := by
  rw [nonBlank, nonBlank, forwardSlashes, String.toList_ofList, List.any_map]
  refine congrArg value.toList.any (funext fun c => ?_)
  by_cases hback : c = '\\'
  · subst hback
    rfl
  · simp [hback]

theorem startsWithSlash_forwardSlashes (value : String) :
    startsWithSlash (forwardSlashes value) = startsWithSlash value := by
  unfold startsWithSlash
  rw [forwardSlashes, String.toList_ofList]
  cases value.toList with
  | nil => rfl
  | cons c rest =>
    by_cases hback : c = '\\'
    · subst hback
      rfl
    · simp [hback]

theorem startsWithDrive_forwardSlashes (h : startsWithDrive value = true) :
    startsWithDrive (forwardSlashes value) = true := by
  unfold startsWithDrive at h
  split at h
  · rename_i c rest hvalue
    have hletter : c ≠ '\\' := by
      rintro rfl
      exact absurd h (by decide)
    unfold startsWithDrive
    rw [forwardSlashes, String.toList_ofList, hvalue]
    simpa [hletter] using h
  · cases h

theorem validRelativePath_of_snapshot (h : validSnapshotPath value = true) :
    validRelativePath value = true := by
  simp only [validSnapshotPath, nonBlank_forwardSlashes, startsWithSlash_forwardSlashes,
    Bool.and_eq_true, Bool.not_eq_true', List.all_eq_true, bne_iff_ne] at h
  obtain ⟨⟨⟨hblank, hslash⟩, hdrive⟩, hparts⟩ := h
  have hnodrive : startsWithDrive value = false := by
    rw [Bool.eq_false_iff]
    exact fun htrue => by simp [startsWithDrive_forwardSlashes htrue] at hdrive
  simp only [validRelativePath, hblank, hslash, hnodrive, Bool.not_false, Bool.true_and,
    List.all_eq_true, Bool.and_eq_true, bne_iff_ne]
  exact fun part hpart => (hparts part hpart).1

end MediaSync.Text
