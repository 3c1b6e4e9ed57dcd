import MediaSync.Foundation.CaseFolding
import MediaSync.Foundation.JsonLines
import MediaSync.Snapshots.Filters

/-! A policy is stored as canonical JSON. -/
namespace MediaSync.Snapshots
open Text

def FilterAction.text : FilterAction → String
  | .includes => "INCLUDE"
  | .excludes => "EXCLUDE"

/-- `FilterAction(text)`. -/
def FilterAction.parse : String → Except String FilterAction
  | "INCLUDE" => .ok .includes
  | "EXCLUDE" => .ok .excludes
  | _ => .error "FILTER_RULE_ENUM_INVALID"

def FilterRuleKind.text : FilterRuleKind → String
  | .extension _ => "EXTENSION"
  | .fileNameGlob _ => "FILE_NAME_GLOB"
  | .relativePathGlob _ => "RELATIVE_PATH_GLOB"
  | .directoryGlob _ => "DIRECTORY_GLOB"
  | .minSizeBytes _ => "MIN_SIZE_BYTES"
  | .maxSizeBytes _ => "MAX_SIZE_BYTES"
  | .modifiedAfterNs _ => "MODIFIED_AFTER_NS"
  | .modifiedBeforeNs _ => "MODIFIED_BEFORE_NS"
  | .createdAfterNs _ => "CREATED_AFTER_NS"
  | .createdBeforeNs _ => "CREATED_BEFORE_NS"
  | .hiddenAttribute => "HIDDEN_ATTRIBUTE"
  | .systemAttribute => "SYSTEM_ATTRIBUTE"
  | .temporaryFile => "TEMPORARY_FILE"
  | .reparsePoint => "REPARSE_POINT"
  | .emptyDirectory => "EMPTY_DIRECTORY"
  | .regex _ => "REGEX"

def FilterRuleKind.value : FilterRuleKind → Json
  | .extension value | .fileNameGlob value | .relativePathGlob value | .directoryGlob value
  | .regex value => .str value
  | .minSizeBytes value | .maxSizeBytes value | .modifiedAfterNs value | .modifiedBeforeNs value
  | .createdAfterNs value | .createdBeforeNs value => .int value
  | .hiddenAttribute | .systemAttribute | .temporaryFile | .reparsePoint | .emptyDirectory =>
    .bool true

/-- The values of `FilterRuleKind`. -/
def filterKinds : List String :=
  ["EXTENSION", "FILE_NAME_GLOB", "RELATIVE_PATH_GLOB", "DIRECTORY_GLOB", "MIN_SIZE_BYTES",
    "MAX_SIZE_BYTES", "MODIFIED_AFTER_NS", "MODIFIED_BEFORE_NS", "CREATED_AFTER_NS",
    "CREATED_BEFORE_NS", "HIDDEN_ATTRIBUTE", "SYSTEM_ATTRIBUTE", "TEMPORARY_FILE",
    "REPARSE_POINT", "EMPTY_DIRECTORY", "REGEX"]

def isAlphanumeric (c : Char) : Bool := isAsciiLetter c || ('0' ≤ c && c ≤ '9')

/-- `_RULE_ID_PATTERN.fullmatch(value)`. -/
def isRuleId (value : String) : Bool :=
  match value.toList with
  | [] => false
  | c :: rest =>
    isAlphanumeric c && rest.length ≤ 63 &&
      rest.all fun d => isAlphanumeric d || d == '_' || d == '.' || d == '-'

def maxGlobPatternLength : Nat := 512

def maxRegexPatternLength : Nat := 256

def textValue (limit : Nat) : Json → Except String String
  | .str value => do
    check (value != "") "FILTER_RULE_TEXT_VALUE_INVALID"
    check (value.toList.length ≤ limit && !value.toList.contains '\x00')
      "FILTER_RULE_PATTERN_LIMIT_EXCEEDED"
    return value
  | _ => .error "FILTER_RULE_TEXT_VALUE_INVALID"

def extensionValue (value : Json) : Except String String := do
  let text ← textValue maxGlobPatternLength value
  check (!(text.toList.contains '/' || text.toList.contains '\\'))
    "FILTER_RULE_EXTENSION_INVALID"
  return text

def countValue : Json → Except String Nat
  | .int n => if n < 0 then .error "FILTER_RULE_INTEGER_VALUE_INVALID" else .ok n.toNat
  | _ => .error "FILTER_RULE_INTEGER_VALUE_INVALID"

def flagValue (kind : FilterRuleKind) : Json → Except String FilterRuleKind
  | .bool true => .ok kind
  | _ => .error "FILTER_RULE_BOOLEAN_VALUE_INVALID"

def filterRuleKind (kind : String) (value : Json) : Except String FilterRuleKind :=
  match kind with
  | "EXTENSION" => (extensionValue value).map .extension
  | "FILE_NAME_GLOB" => (textValue maxGlobPatternLength value).map .fileNameGlob
  | "RELATIVE_PATH_GLOB" => (textValue maxGlobPatternLength value).map .relativePathGlob
  | "DIRECTORY_GLOB" => (textValue maxGlobPatternLength value).map .directoryGlob
  | "REGEX" => (textValue maxRegexPatternLength value).map .regex
  | "MIN_SIZE_BYTES" => (countValue value).map .minSizeBytes
  | "MAX_SIZE_BYTES" => (countValue value).map .maxSizeBytes
  | "MODIFIED_AFTER_NS" => (countValue value).map .modifiedAfterNs
  | "MODIFIED_BEFORE_NS" => (countValue value).map .modifiedBeforeNs
  | "CREATED_AFTER_NS" => (countValue value).map .createdAfterNs
  | "CREATED_BEFORE_NS" => (countValue value).map .createdBeforeNs
  | "HIDDEN_ATTRIBUTE" => flagValue .hiddenAttribute value
  | "SYSTEM_ATTRIBUTE" => flagValue .systemAttribute value
  | "TEMPORARY_FILE" => flagValue .temporaryFile value
  | "REPARSE_POINT" => flagValue .reparsePoint value
  | "EMPTY_DIRECTORY" => flagValue .emptyDirectory value
  | _ => .error "FILTER_RULE_ENUM_INVALID"

/-- `FileFilterRule(...)` with the checks of `__post_init__`. -/
def FileFilterRule.create (ruleId : String) (action : FilterAction) (kind : String)
    (value : Json) : Except String FileFilterRule := do
  check (filterKinds.contains kind) "FILTER_RULE_ENUM_INVALID"
  check (isRuleId ruleId) "FILTER_RULE_ID_INVALID"
  let kind ← filterRuleKind kind value
  return ⟨ruleId, action, kind⟩

def FileFilterRule.Valid (rule : FileFilterRule) : Prop :=
  FileFilterRule.create rule.ruleId rule.action rule.kind.text rule.kind.value = .ok rule

def FilterRuleKind.isRegex : FilterRuleKind → Bool
  | .regex _ => true
  | _ => false

def maxFilterRules : Nat := 128

def maxRegexRules : Nat := 8

/-- `FileFilterPolicy(...)` with the checks of `__post_init__`. -/
def FileFilterPolicy.create (preset : String)
    (includeDefaultExclusions includeOnlyIfMatched advancedRegexEnabled : Bool)
    (rules : List FileFilterRule) (schemaVersion : Nat) : Except String FileFilterPolicy := do
  check (preset == "ALL_USER_FILES") "FILTER_PRESET_UNSUPPORTED"
  check (schemaVersion == 1 || schemaVersion == 2) "FILTER_RULES_SCHEMA_UNSUPPORTED"
  check (rules.length ≤ maxFilterRules) "FILTER_RULE_COUNT_LIMIT_EXCEEDED"
  if unique : (rules.map FileFilterRule.ruleId).Nodup then do
    let regexCount := rules.countP fun rule => rule.kind.isRegex
    check (regexCount ≤ maxRegexRules) "FILTER_REGEX_RULE_COUNT_LIMIT_EXCEEDED"
    check (regexCount == 0 || advancedRegexEnabled) "FILTER_REGEX_ADVANCED_MODE_REQUIRED"
    check (!(schemaVersion == 1 && (!includeDefaultExclusions || includeOnlyIfMatched ||
      advancedRegexEnabled || !rules.isEmpty))) "FILTER_RULES_LEGACY_SHAPE_INVALID"
    return { preset, includeDefaultExclusions, includeOnlyIfMatched, advancedRegexEnabled
             rules, schemaVersion, ruleIds_unique := unique }
  else .error "FILTER_RULE_IDS_NOT_UNIQUE"

/-- The policy and its rules are what their constructors accept. -/
structure FileFilterPolicy.Valid (policy : FileFilterPolicy) : Prop where
  created : FileFilterPolicy.create policy.preset policy.includeDefaultExclusions
    policy.includeOnlyIfMatched policy.advancedRegexEnabled policy.rules policy.schemaVersion =
      .ok policy
  rules : ∀ rule ∈ policy.rules, rule.Valid

/-- `str(rule.value).lstrip(".").casefold()`. -/
def extensionText (py : CaseFolding) (value : String) : String :=
  py.casefold (String.ofList (value.toList.dropWhile fun c => c == '.'))

def FileFilterRule.normalized (py : CaseFolding) (rule : FileFilterRule) : FileFilterRule :=
  match rule.kind with
  | .extension value => { rule with kind := .extension (extensionText py value) }
  | _ => rule

def FileFilterRule.payload (py : CaseFolding) (rule : FileFilterRule) : Payload :=
  [("action", .str rule.action.text), ("kind", .str rule.kind.text),
    ("rule_id", .str rule.ruleId), ("value", (rule.normalized py).kind.value)]

/-- The payload of `canonical_file_filter_policy_json`. -/
def FileFilterPolicy.payload (py : CaseFolding) (policy : FileFilterPolicy) : Payload :=
  if policy.schemaVersion = 1 then [("preset", .str policy.preset), ("schema_version", .int 1)]
  else
    [("advanced_regex_enabled", .bool policy.advancedRegexEnabled),
      ("include_default_exclusions", .bool policy.includeDefaultExclusions),
      ("include_only_if_matched", .bool policy.includeOnlyIfMatched),
      ("preset", .str policy.preset),
      ("rules", .arr (policy.rules.map fun rule => .obj (rule.payload py))),
      ("schema_version", .int 2)]

def canonicalFileFilterPolicyJson (py : CaseFolding) (policy : FileFilterPolicy) :
    Except String String := do
  check (Json.obj (policy.payload py)).digitsFit "ValueError"
  return (Json.obj (policy.payload py)).dump

def requiredText (payload : Payload) (key : String) : Except String String :=
  match Json.get payload key with
  | some (.str value) =>
    if value = "" then .error "FILTER_RULES_TEXT_INVALID" else .ok value
  | _ => .error "FILTER_RULES_TEXT_INVALID"

def requiredBool (payload : Payload) (key : String) : Except String Bool :=
  match Json.get payload key with
  | some (.bool value) => .ok value
  | _ => .error "FILTER_RULES_BOOLEAN_INVALID"

def enumText (payload : Payload) (key : String) : Except String String :=
  (requiredText payload key).mapError fun _ => "FILTER_RULE_ENUM_INVALID"

def ruleValue (payload : Payload) : Except String Json :=
  match Json.get payload "value" with
  | some (.str value) => .ok (.str value)
  | some (.int n) => .ok (.int n)
  | some (.bool b) => .ok (.bool b)
  | _ => .error "FILTER_RULE_VALUE_INVALID"

def parseRule : Json → Except String FileFilterRule
  | .obj payload => do
    check (Json.namesAre payload ["action", "kind", "rule_id", "value"])
      "FILTER_RULE_SHAPE_INVALID"
    let kind ← enumText payload "kind"
    check (filterKinds.contains kind) "FILTER_RULE_ENUM_INVALID"
    let actionText ← enumText payload "action"
    let action ← FilterAction.parse actionText
    let value ← ruleValue payload
    let ruleId ← requiredText payload "rule_id"
    FileFilterRule.create ruleId action kind value
  | _ => .error "FILTER_RULE_SHAPE_INVALID"

def parseRules : List Json → Except String (List FileFilterRule)
  | [] => .ok []
  | item :: rest => do
    let rule ← parseRule item
    let rules ← parseRules rest
    return rule :: rules

def policyOfPayload (payload : Payload) : Except String FileFilterPolicy :=
  if Json.equalsNumber (Json.get payload "schema_version") 1 then do
    check (Json.namesAre payload ["preset", "schema_version"])
      "FILTER_RULES_LEGACY_SHAPE_INVALID"
    let preset ← requiredText payload "preset"
    FileFilterPolicy.create preset true false false [] 1
  else if Json.equalsNumber (Json.get payload "schema_version") 2 then do
    check (Json.namesAre payload ["advanced_regex_enabled", "include_default_exclusions",
      "include_only_if_matched", "preset", "rules", "schema_version"])
      "FILTER_RULES_SHAPE_INVALID"
    match Json.get payload "rules" with
    | some (.arr rawRules) => do
      let preset ← requiredText payload "preset"
      let includeDefaultExclusions ← requiredBool payload "include_default_exclusions"
      let includeOnlyIfMatched ← requiredBool payload "include_only_if_matched"
      let advancedRegexEnabled ← requiredBool payload "advanced_regex_enabled"
      let rules ← parseRules rawRules
      FileFilterPolicy.create preset includeDefaultExclusions includeOnlyIfMatched
        advancedRegexEnabled rules 2
    | _ => .error "FILTER_RULES_LIST_INVALID"
  else .error "FILTER_RULES_SCHEMA_UNSUPPORTED"

/-- `parse_file_filter_policy_json`; `hash` is the SHA-256 of a text. -/
def parseFileFilterPolicyJson (py : CaseFolding) (hash : String → String) (raw : String)
    (expectedHash : Option String) : Except String FileFilterPolicy := do
  check (expectedHash.all fun expected => hash raw == expected) "FILTER_RULES_HASH_MISMATCH"
  match Json.loads raw with
  | none => .error "FILTER_RULES_JSON_INVALID"
  | some (.obj payload) => do
    check (Json.obj payload).digitsFit "ValueError"
    let policy ← policyOfPayload payload
    let canonical ← canonicalFileFilterPolicyJson py policy
    check (raw == canonical) "FILTER_RULES_NOT_CANONICAL"
    return policy
  | some value => do
    check value.digitsFit "ValueError"
    .error "FILTER_RULES_SHAPE_INVALID"

def FileFilterRule.Foldable (py : CaseFolding) (rule : FileFilterRule) : Prop :=
  ∀ value, rule.kind = .extension value →
    extensionText py value ≠ "" ∧ (extensionText py value).toList.length ≤ maxGlobPatternLength

def FileFilterRule.Printable (rule : FileFilterRule) : Prop := rule.kind.value.digitsFit = true

section
variable {py : CaseFolding}

theorem textValue_eq_ok {limit : Nat} {value text : String} :
    textValue limit (.str value) = .ok text ↔
      value ≠ "" ∧ value.toList.length ≤ limit ∧ '\x00' ∉ value.toList ∧ value = text := by
  simp [textValue, pure, Except.pure, and_assoc]

theorem extensionValue_eq_ok {value text : String} :
    extensionValue (.str value) = .ok text ↔
      value ≠ "" ∧ value.toList.length ≤ maxGlobPatternLength ∧
        (∀ sign ∈ ['\x00', '/', '\\'], sign ∉ value.toList) ∧ value = text := by
  constructor
  · intro h
    obtain ⟨read, hread, h⟩ := except_bind_ok h
    obtain ⟨hne, hlength, hnull, rfl⟩ := textValue_eq_ok.mp hread
    simp only [check_bind_eq_ok, pure, Except.pure, Except.ok.injEq] at h
    refine ⟨hne, hlength, ?_, h.2⟩
    simpa [hnull] using h.1
  · rintro ⟨hne, hlength, hsigns, rfl⟩
    have hread : textValue maxGlobPatternLength (.str value) = .ok value :=
      textValue_eq_ok.mpr ⟨hne, hlength, hsigns _ (by simp), rfl⟩
    have hslash := hsigns '/' (by simp)
    have hback := hsigns '\\' (by simp)
    rw [extensionValue, hread]
    simp [bind, Except.bind, check, pure, Except.pure, hslash, hback]

variable {rule : FileFilterRule}

theorem FileFilterRule.create_eq_ok {ruleId kind : String} {action : FilterAction} {value : Json} :
    FileFilterRule.create ruleId action kind value = .ok rule ↔
      filterKinds.contains kind = true ∧ isRuleId ruleId = true ∧
        ∃ read, filterRuleKind kind value = .ok read ∧ rule = ⟨ruleId, action, read⟩ := by
  rw [FileFilterRule.create, check_bind_eq_ok, check_bind_eq_ok]
  cases filterRuleKind kind value with
  | error code => simp [bind, Except.bind]
  | ok read =>
    simp only [bind, Except.bind, pure, Except.pure, Except.ok.injEq, exists_eq_left', eq_comm]

theorem filterRuleKind_extension (value : Json) :
    filterRuleKind "EXTENSION" value = (extensionValue value).map .extension := rfl

theorem mem_extensionText {value : String} {sign : Char} (hsign : isSign sign = true)
    (h : sign ∈ (extensionText py value).toList) : sign ∈ value.toList := by
  have hstripped := (py.mem_casefold_iff hsign).mp h
  rw [String.toList_ofList] at hstripped
  exact (List.dropWhile_sublist _).subset hstripped

theorem extensionText_extensionText (value : String) :
    extensionText py (extensionText py value) = extensionText py value := by
  have hhead : (value.toList.dropWhile fun c => c == '.').head? ≠ some '.' := by
    intro hdot
    have hnot := List.head?_dropWhile_not (fun c => c == '.') value.toList
    rw [hdot] at hnot
    simp at hnot
  have hfolded := py.head_foldText (by decide : isSign '.' = true) hhead
  have hkept : (extensionText py value).toList.dropWhile (fun c => c == '.') =
      (extensionText py value).toList := by
    rw [extensionText, CaseFolding.casefold, String.toList_ofList, String.toList_ofList]
    generalize py.foldText _ = text at hfolded
    cases text with
    | nil => rfl
    | cons c rest =>
      rw [List.dropWhile_cons_of_neg]
      intro hdot
      exact hfolded (congrArg some (beq_iff_eq.mp hdot))
  conv_lhs => rw [extensionText, hkept, String.ofList_toList]
  rw [extensionText, CaseFolding.casefold_casefold]

theorem FileFilterRule.normalized_of_extension {value : String} (h : rule.kind = .extension value) :
    rule.normalized py = { rule with kind := .extension (extensionText py value) } := by
  simp only [normalized, h]

theorem FileFilterRule.normalized_eq_self (h : ∀ value, rule.kind ≠ .extension value) :
    rule.normalized py = rule := by
  cases hkind : rule.kind with
  | extension value => exact absurd hkind (h value)
  | _ => simp only [normalized, hkind]

@[simp] theorem FileFilterRule.normalized_ruleId (rule : FileFilterRule) :
    (rule.normalized py).ruleId = rule.ruleId := by
  rw [normalized]
  split <;> rfl

@[simp] theorem FileFilterRule.normalized_action (rule : FileFilterRule) :
    (rule.normalized py).action = rule.action := by
  rw [normalized]
  split <;> rfl

@[simp] theorem FileFilterRule.normalized_text (rule : FileFilterRule) :
    (rule.normalized py).kind.text = rule.kind.text := by
  cases hkind : rule.kind <;> simp only [normalized, hkind, FilterRuleKind.text]

@[simp] theorem FileFilterRule.normalized_isRegex (rule : FileFilterRule) :
    (rule.normalized py).kind.isRegex = rule.kind.isRegex := by
  cases hkind : rule.kind <;> simp only [normalized, hkind, FilterRuleKind.isRegex]

theorem FileFilterRule.normalized_normalized (rule : FileFilterRule) :
    (rule.normalized py).normalized py = rule.normalized py := by
  by_cases h : ∃ value, rule.kind = .extension value
  · obtain ⟨value, hvalue⟩ := h
    rw [normalized_of_extension hvalue, normalized_of_extension rfl, extensionText_extensionText]
  · have hself : rule.normalized py = rule :=
      normalized_eq_self fun value hvalue => h ⟨value, hvalue⟩
    rw [hself, hself]

theorem FileFilterRule.Valid.ruleId_ne (h : rule.Valid) : rule.ruleId ≠ "" := by
  intro hempty
  obtain ⟨-, hid, -⟩ := FileFilterRule.create_eq_ok.mp h
  rw [hempty] at hid
  cases hid

theorem FileFilterRule.create_normalized {rule read : FileFilterRule} (h : rule.Valid) :
    FileFilterRule.create rule.ruleId rule.action rule.kind.text (rule.normalized py).kind.value =
        .ok read ↔ rule.Foldable py ∧ read = rule.normalized py := by
  by_cases hextension : ∃ value, rule.kind = .extension value
  · obtain ⟨value, hvalue⟩ := hextension
    have hparts := FileFilterRule.create_eq_ok.mp h
    simp only [hvalue, FilterRuleKind.text, FilterRuleKind.value, filterRuleKind_extension]
      at hparts
    obtain ⟨hkind, hid, kind, hread, -⟩ := hparts
    obtain ⟨text, htext, -⟩ := except_map_ok hread
    obtain ⟨-, -, hsigns, -⟩ := extensionValue_eq_ok.mp htext
    have hkept : ∀ sign ∈ ['\x00', '/', '\\'], sign ∉ (extensionText py value).toList := by
      intro sign hsign hmem
      have hsignIs : isSign sign = true := by
        simp only [List.mem_cons, List.not_mem_nil, or_false] at hsign
        rcases hsign with rfl | rfl | rfl <;> rfl
      exact hsigns sign hsign (mem_extensionText hsignIs hmem)
    simp only [create_eq_ok, normalized_of_extension hvalue, hvalue, FilterRuleKind.text,
      FilterRuleKind.value, filterRuleKind_extension]
    constructor
    · rintro ⟨-, -, kind, hread, rfl⟩
      obtain ⟨text, htext, rfl⟩ := except_map_ok hread
      obtain ⟨hne, hlength, -, rfl⟩ := extensionValue_eq_ok.mp htext
      refine ⟨fun other hother => ?_, rfl⟩
      cases hvalue.symm.trans hother
      exact ⟨hne, hlength⟩
    · rintro ⟨hfoldable, rfl⟩
      obtain ⟨hne, hlength⟩ := hfoldable value hvalue
      have hwritten : extensionValue (.str (extensionText py value)) =
          .ok (extensionText py value) :=
        extensionValue_eq_ok.mpr ⟨hne, hlength, hkept, rfl⟩
      rw [hwritten]
      exact ⟨hkind, hid, .extension (extensionText py value), rfl, rfl⟩
  · have hself : rule.normalized py = rule :=
      normalized_eq_self fun value hvalue => hextension ⟨value, hvalue⟩
    rw [hself, h]
    constructor
    · intro heq
      exact ⟨fun value hvalue => absurd ⟨value, hvalue⟩ hextension, (Except.ok.inj heq).symm⟩
    · rintro ⟨-, rfl⟩
      rfl

end

section
variable {py : CaseFolding}

theorem FilterRuleKind.value_canonical (kind : FilterRuleKind) :
    kind.value.canonical = kind.value := by
  cases kind <;> simp only [FilterRuleKind.value, Json.canonical]

theorem FilterRuleKind.value_distinct (kind : FilterRuleKind) : kind.value.distinct = true := by
  cases kind <;> simp only [FilterRuleKind.value, Json.distinct]

theorem FileFilterRule.payload_nodup (rule : FileFilterRule) :
    ((rule.payload py).map Prod.fst).Nodup := by
  simp only [payload, List.map_cons, List.map_nil]
  decide

theorem FileFilterRule.payload_distinct (rule : FileFilterRule) :
    (Json.obj (rule.payload py)).distinct = true := by
  rw [Json.distinct, Bool.and_eq_true, decide_eq_true_eq]
  refine ⟨rule.payload_nodup, ?_⟩
  simp only [payload, Json.distinctFields, FilterRuleKind.value_distinct, Json.distinct,
    Bool.and_true]

theorem FileFilterRule.payload_canonical (rule : FileFilterRule) :
    (Json.obj (rule.payload py)).canonical = .obj (rule.payload py) := by
  refine Json.canonical_of_sorted (by simp only [payload, List.map_cons, List.map_nil]; decide) ?_
  intro field hfield
  simp only [payload, List.mem_cons, List.not_mem_nil, or_false] at hfield
  rcases hfield with rfl | rfl | rfl | rfl
  · simp only [Json.canonical]
  · simp only [Json.canonical]
  · simp only [Json.canonical]
  · exact FilterRuleKind.value_canonical _

def rulesValue (py : CaseFolding) (rules : List FileFilterRule) : Json :=
  .arr (rules.map fun rule => .obj (rule.payload py))

theorem rulesValue_canonical (rules : List FileFilterRule) :
    (rulesValue py rules).canonical = rulesValue py rules := by
  rw [rulesValue, Json.canonical, Json.canonicalItems_eq_map, List.map_map]
  exact congrArg Json.arr (List.map_congr_left fun rule _ => rule.payload_canonical)

theorem rulesValue_distinct (rules : List FileFilterRule) :
    (rulesValue py rules).distinct = true := by
  rw [rulesValue, Json.distinct, Json.distinctItems_iff]
  intro item hitem
  obtain ⟨rule, -, rfl⟩ := List.mem_map.mp hitem
  exact rule.payload_distinct

namespace FileFilterPolicy

variable {policy : FileFilterPolicy}

theorem payload_legacy (h : policy.schemaVersion = 1) :
    policy.payload py = [("preset", .str policy.preset), ("schema_version", .int 1)] :=
  if_pos h

theorem payload_rules (h : policy.schemaVersion ≠ 1) : policy.payload py =
      [("advanced_regex_enabled", .bool policy.advancedRegexEnabled),
        ("include_default_exclusions", .bool policy.includeDefaultExclusions),
        ("include_only_if_matched", .bool policy.includeOnlyIfMatched),
        ("preset", .str policy.preset), ("rules", rulesValue py policy.rules),
        ("schema_version", .int 2)] :=
  if_neg h

theorem payload_nodup : ((policy.payload py).map Prod.fst).Nodup := by
  by_cases h : policy.schemaVersion = 1
  · simp only [payload_legacy h, List.map_cons, List.map_nil]
    decide
  · simp only [payload_rules h, List.map_cons, List.map_nil]
    decide

theorem payload_distinct : (Json.obj (policy.payload py)).distinct = true := by
  rw [Json.distinct, Bool.and_eq_true, decide_eq_true_eq]
  refine ⟨payload_nodup, ?_⟩
  by_cases h : policy.schemaVersion = 1
  · simp only [payload_legacy h, Json.distinctFields, Json.distinct, Bool.and_true]
  · simp only [payload_rules h, Json.distinctFields, rulesValue_distinct, Json.distinct,
      Bool.and_true]

theorem payload_canonical :
    (Json.obj (policy.payload py)).canonical = .obj (policy.payload py) := by
  by_cases h : policy.schemaVersion = 1
  · rw [payload_legacy h]
    refine Json.canonical_of_sorted (by simp only [List.map_cons, List.map_nil]; decide) ?_
    simp only [List.forall_mem_cons, Json.canonical, List.not_mem_nil, false_implies,
      implies_true, and_self]
  · rw [payload_rules h]
    refine Json.canonical_of_sorted (by simp only [List.map_cons, List.map_nil]; decide) ?_
    simp only [List.forall_mem_cons, rulesValue_canonical, Json.canonical, List.not_mem_nil,
      false_implies, implies_true, and_self]

theorem loads_canonical (policy : FileFilterPolicy) :
    Json.loads (Json.obj (policy.payload py)).dump = some (.obj (policy.payload py)) := by
  rw [← Json.dumpWith_escape, Json.loads_dumpWith Json.escape_escapes payload_distinct,
    payload_canonical]

theorem canonicalFileFilterPolicyJson_eq_ok {text : String} :
    canonicalFileFilterPolicyJson py policy = .ok text ↔
      (Json.obj (policy.payload py)).digitsFit = true ∧
        (Json.obj (policy.payload py)).dump = text := by
  rw [canonicalFileFilterPolicyJson, check_bind_eq_ok]
  simp only [pure, Except.pure, Except.ok.injEq]

end FileFilterPolicy

theorem requiredText_of_getElem? {fields : Payload} (hnames : (fields.map Prod.fst).Nodup)
    {i : Nat} {key value : String} (h : fields[i]? = some (key, .str value)) (hne : value ≠ "") :
    requiredText fields key = .ok value := by
  rw [requiredText, Json.get_of_getElem? hnames h]
  exact if_neg hne

theorem FilterRuleKind.text_mem (kind : FilterRuleKind) :
    filterKinds.contains kind.text = true ∧ kind.text ≠ "" := by
  cases kind <;> simp only [FilterRuleKind.text] <;> decide

theorem FilterAction.text_parse (action : FilterAction) :
    FilterAction.parse action.text = .ok action ∧ action.text ≠ "" := by
  cases action <;> exact ⟨rfl, by decide⟩

theorem ruleValue_of_kind {fields : Payload} {kind : FilterRuleKind}
    (h : Json.get fields "value" = some kind.value) : ruleValue fields = .ok kind.value := by
  rw [ruleValue, h]
  cases kind <;> rfl

theorem parseRule_payload {rule : FileFilterRule} (hid : rule.ruleId ≠ "") :
    parseRule (.obj (rule.payload py)) =
      FileFilterRule.create rule.ruleId rule.action rule.kind.text
        (rule.normalized py).kind.value := by
  have hshape : Json.namesAre (rule.payload py) ["action", "kind", "rule_id", "value"] = true := by
    rfl
  have hnames : ((rule.payload py).map Prod.fst).Nodup := rule.payload_nodup
  have haction := requiredText_of_getElem? hnames (i := 0) rfl rule.action.text_parse.2
  have hkind := requiredText_of_getElem? hnames (i := 1) rfl rule.kind.text_mem.2
  have hruleId := requiredText_of_getElem? hnames (i := 2) rfl hid
  have hvalue := ruleValue_of_kind (Json.get_of_getElem? hnames (i := 3) rfl)
  simp only [parseRule, check, hshape, enumText, hkind, haction, hruleId, hvalue,
    rule.kind.text_mem.1, rule.action.text_parse.1, Except.mapError, bind, Except.bind, if_true]

theorem parseRules_payload {rules read : List FileFilterRule} (h : ∀ rule ∈ rules, rule.Valid) :
    parseRules (rules.map fun rule => .obj (rule.payload py)) = .ok read ↔
      (∀ rule ∈ rules, rule.Foldable py) ∧ read = rules.map (FileFilterRule.normalized py) := by
  induction rules generalizing read with
  | nil => simp [parseRules, eq_comm]
  | cons rule rest ih =>
    have hvalid := h rule List.mem_cons_self
    have hrest : ∀ others : List FileFilterRule,
        parseRules (rest.map fun rule => .obj (rule.payload py)) = .ok others ↔
          (∀ rule ∈ rest, rule.Foldable py) ∧ others = rest.map (FileFilterRule.normalized py) :=
      fun others => ih fun other hother => h other (List.mem_cons_of_mem _ hother)
    rw [List.map_cons, parseRules, parseRule_payload hvalid.ruleId_ne]
    constructor
    · intro hread
      obtain ⟨first, hfirst, hread⟩ := except_bind_ok hread
      obtain ⟨others, hothers, hread⟩ := except_bind_ok hread
      obtain ⟨hfoldable, rfl⟩ := (FileFilterRule.create_normalized hvalid).mp hfirst
      obtain ⟨hfoldables, rfl⟩ := (hrest others).mp hothers
      cases hread
      exact ⟨List.forall_mem_cons.mpr ⟨hfoldable, hfoldables⟩, rfl⟩
    · rintro ⟨hfoldable, rfl⟩
      obtain ⟨hfirst, hfoldables⟩ := List.forall_mem_cons.mp hfoldable
      rw [(FileFilterRule.create_normalized hvalid).mpr ⟨hfirst, rfl⟩,
        (hrest _).mpr ⟨hfoldables, rfl⟩]
      rfl

end

namespace FileFilterPolicy

variable {py : CaseFolding} {policy : FileFilterPolicy}

def normalized (py : CaseFolding) (policy : FileFilterPolicy) : FileFilterPolicy :=
  { policy with
    rules := policy.rules.map (FileFilterRule.normalized py)
    ruleIds_unique := by
      rw [List.map_map]
      simpa only [Function.comp_def, FileFilterRule.normalized_ruleId] using
        policy.ruleIds_unique }

theorem create_eq_ok {preset : String} {included only advanced : Bool}
    {rules : List FileFilterRule} {version : Nat} {created : FileFilterPolicy} :
    create preset included only advanced rules version = .ok created ↔
      (preset == "ALL_USER_FILES") = true ∧ (version == 1 || version == 2) = true ∧
        rules.length ≤ maxFilterRules ∧
        (rules.countP fun rule => rule.kind.isRegex) ≤ maxRegexRules ∧
        ((rules.countP fun rule => rule.kind.isRegex) == 0 || advanced) = true ∧
        (!(version == 1 && (!included || only || advanced || !rules.isEmpty))) = true ∧
        ∃ unique : (rules.map FileFilterRule.ruleId).Nodup, created =
          { preset, includeDefaultExclusions := included, includeOnlyIfMatched := only
            advancedRegexEnabled := advanced, rules, schemaVersion := version
            ruleIds_unique := unique } := by
  rw [create, check_bind_eq_ok, check_bind_eq_ok, check_bind_eq_ok, decide_eq_true_eq]
  split_ifs with unique
  · rw [check_bind_eq_ok, check_bind_eq_ok, check_bind_eq_ok, decide_eq_true_eq]
    simp only [pure, Except.pure, Except.ok.injEq, unique, exists_true_left]
    rw [@eq_comm _ created]
  · simp [unique]

theorem countP_normalized (rules : List FileFilterRule) :
    ((rules.map (FileFilterRule.normalized py)).countP fun rule => rule.kind.isRegex) =
      rules.countP fun rule => rule.kind.isRegex := by
  rw [List.countP_map]
  simp only [Function.comp_def, FileFilterRule.normalized_isRegex]

theorem Valid.create_normalized (h : policy.Valid) :
    create policy.preset policy.includeDefaultExclusions policy.includeOnlyIfMatched
      policy.advancedRegexEnabled (policy.rules.map (FileFilterRule.normalized py))
      policy.schemaVersion = .ok (policy.normalized py) := by
  obtain ⟨hpreset, hversion, hlength, hcount, hadvanced, hlegacy, -, -⟩ :=
    create_eq_ok.mp h.created
  refine create_eq_ok.mpr ⟨hpreset, hversion, by rwa [List.length_map],
    by rwa [countP_normalized], by rwa [countP_normalized], ?_,
      (policy.normalized py).ruleIds_unique,
    rfl⟩
  rwa [List.isEmpty_map]

theorem Valid.legacy (h : policy.Valid) (hversion : policy.schemaVersion = 1) :
    policy.includeDefaultExclusions = true ∧ policy.includeOnlyIfMatched = false ∧
      policy.advancedRegexEnabled = false ∧ policy.rules = [] := by
  obtain ⟨-, -, -, -, -, hlegacy, -, -⟩ := create_eq_ok.mp h.created
  rw [hversion] at hlegacy
  simp only [beq_self_eq_true, Bool.true_and, Bool.not_eq_true', Bool.or_eq_false_iff,
    Bool.not_eq_false', List.isEmpty_iff] at hlegacy
  tauto

theorem Valid.preset_ne (h : policy.Valid) : policy.preset ≠ "" := by
  obtain ⟨hpreset, -⟩ := create_eq_ok.mp h.created
  rw [beq_iff_eq.mp hpreset]
  decide

theorem Valid.schemaVersion_eq (h : policy.Valid) (hversion : policy.schemaVersion ≠ 1) :
    policy.schemaVersion = 2 := by
  obtain ⟨-, hversions, -⟩ := create_eq_ok.mp h.created
  rcases Bool.or_eq_true_iff.mp hversions with hone | htwo
  · exact absurd (beq_iff_eq.mp hone) hversion
  · exact beq_iff_eq.mp htwo

theorem requiredBool_of_getElem? {fields : Payload} (hnames : (fields.map Prod.fst).Nodup)
    {i : Nat} {key : String} {value : Bool} (h : fields[i]? = some (key, .bool value)) :
    requiredBool fields key = .ok value := by
  rw [requiredBool, Json.get_of_getElem? hnames h]

theorem policyOfPayload_legacy (h : policy.Valid) (hversion : policy.schemaVersion = 1) :
    policyOfPayload (policy.payload py) = .ok (policy.normalized py) := by
  have hnames : ((policy.payload py).map Prod.fst).Nodup := payload_nodup
  have hpayload := @payload_legacy py policy hversion
  have hcreate := @Valid.create_normalized py policy h
  obtain ⟨hincluded, honly, hadvanced, hrules⟩ := h.legacy hversion
  rw [hincluded, honly, hadvanced, hrules, hversion, List.map_nil] at hcreate
  have hschema : Json.equalsNumber (Json.get (policy.payload py) "schema_version") 1 = true := by
    rw [hpayload]
    rfl
  have hshape : Json.namesAre (policy.payload py) ["preset", "schema_version"] = true := by
    rw [hpayload]
    rfl
  have hpreset : requiredText (policy.payload py) "preset" = .ok policy.preset :=
    requiredText_of_getElem? hnames (i := 0) (by rw [hpayload]; rfl) h.preset_ne
  simp only [policyOfPayload, hschema, hshape, hpreset, check, bind, Except.bind, if_true, hcreate]

theorem policyOfPayload_rules (h : policy.Valid) (hversion : policy.schemaVersion ≠ 1) :
    policyOfPayload (policy.payload py) =
      (parseRules (policy.rules.map fun rule => .obj (rule.payload py))).bind fun rules =>
        create policy.preset policy.includeDefaultExclusions policy.includeOnlyIfMatched
          policy.advancedRegexEnabled rules 2 := by
  have hnames : ((policy.payload py).map Prod.fst).Nodup := payload_nodup
  have hpayload := @payload_rules py policy hversion
  have hschema : Json.get (policy.payload py) "schema_version" = some (.int 2) :=
    Json.get_of_getElem? hnames (i := 5) (by rw [hpayload]; rfl)
  have hfirst : Json.equalsNumber (some (.int 2)) 1 = false := rfl
  have hsecond : Json.equalsNumber (some (.int 2)) 2 = true := rfl
  have hshape : Json.namesAre (policy.payload py) ["advanced_regex_enabled",
      "include_default_exclusions", "include_only_if_matched", "preset", "rules",
      "schema_version"] = true := by
    rw [hpayload]
    rfl
  have hrules : Json.get (policy.payload py) "rules" = some (rulesValue py policy.rules) :=
    Json.get_of_getElem? hnames (i := 4) (by rw [hpayload]; rfl)
  have hpreset : requiredText (policy.payload py) "preset" = .ok policy.preset :=
    requiredText_of_getElem? hnames (i := 3) (by rw [hpayload]; rfl) h.preset_ne
  have hbool {key : String} {value : Bool} (i : Nat)
      (hget : (policy.payload py)[i]? = some (key, .bool value)) :=
    requiredBool_of_getElem? hnames hget
  have hincluded := hbool 1 (by rw [hpayload]; rfl)
  have honly := hbool 2 (by rw [hpayload]; rfl)
  have hadvanced := hbool 0 (by rw [hpayload]; rfl)
  simp only [policyOfPayload, hschema, hfirst, hsecond, hshape, hrules, rulesValue, hpreset,
    hincluded, honly, hadvanced, check, bind, Except.bind, if_true, Bool.false_eq_true, if_false]

variable {read : FileFilterPolicy}

theorem policyOfPayload_payload (h : policy.Valid) :
    policyOfPayload (policy.payload py) = .ok read ↔
      (∀ rule ∈ policy.rules, rule.Foldable py) ∧ read = policy.normalized py := by
  by_cases hversion : policy.schemaVersion = 1
  · rw [policyOfPayload_legacy h hversion, (h.legacy hversion).2.2.2]
    simp [eq_comm]
  · have hcreate := @Valid.create_normalized py policy h
    rw [h.schemaVersion_eq hversion] at hcreate
    rw [policyOfPayload_rules h hversion]
    constructor
    · intro hread
      obtain ⟨rules, hrules, hread⟩ := except_bind_ok hread
      obtain ⟨hfoldable, rfl⟩ := (parseRules_payload h.rules).mp hrules
      rw [hcreate] at hread
      exact ⟨hfoldable, (Except.ok.inj hread).symm⟩
    · rintro ⟨hfoldable, rfl⟩
      rw [(parseRules_payload h.rules).mpr ⟨hfoldable, rfl⟩]
      exact hcreate

theorem digitsFit_rulesValue (rules : List FileFilterRule) :
    (rulesValue py rules).digitsFit = true ↔ ∀ rule ∈ rules, rule.Printable := by
  have hitems : ∀ rules : List FileFilterRule,
      Json.digitsFitItems (rules.map fun rule => .obj (rule.payload py)) = true ↔
        ∀ rule ∈ rules, rule.Printable := by
    intro rules
    induction rules with
    | nil => simp [Json.digitsFitItems]
    | cons rule rest ih =>
      have hvalue : (rule.normalized py).kind.value.digitsFit = rule.kind.value.digitsFit := by
        by_cases hextension : ∃ value, rule.kind = .extension value
        · obtain ⟨value, hkind⟩ := hextension
          rw [FileFilterRule.normalized_of_extension hkind, hkind]
          rfl
        · rw [FileFilterRule.normalized_eq_self fun value hkind => hextension ⟨value, hkind⟩]
      rw [List.map_cons, Json.digitsFitItems, Bool.and_eq_true, ih, List.forall_mem_cons]
      simp only [FileFilterRule.payload, Json.digitsFit, Json.digitsFitFields, hvalue,
        Bool.and_true, Bool.true_and, FileFilterRule.Printable]
  rw [rulesValue, Json.digitsFit]
  exact hitems rules

theorem payload_digitsFit (h : policy.Valid) :
    (Json.obj (policy.payload py)).digitsFit = true ↔ ∀ rule ∈ policy.rules, rule.Printable := by
  by_cases hversion : policy.schemaVersion = 1
  · rw [(h.legacy hversion).2.2.2, payload_legacy hversion]
    exact iff_of_true (by rfl) (List.forall_mem_nil _)
  · have htwo : (Nat.toDigits 10 (Int.natAbs 2)).length ≤ Json.maxStrDigits := by decide
    rw [payload_rules hversion, ← @digitsFit_rulesValue py]
    simp only [Json.digitsFit, Json.digitsFitFields, htwo, decide_true, Bool.and_true,
      Bool.true_and]

theorem canonical_normalized (policy : FileFilterPolicy) :
    canonicalFileFilterPolicyJson py (policy.normalized py) =
      canonicalFileFilterPolicyJson py policy := by
  have hrules : rulesValue py (policy.normalized py).rules = rulesValue py policy.rules := by
    rw [rulesValue, rulesValue, normalized, List.map_map]
    refine congrArg Json.arr (List.map_congr_left fun rule _ => ?_)
    simp only [Function.comp_apply, FileFilterRule.payload, FileFilterRule.normalized_action,
      FileFilterRule.normalized_text, FileFilterRule.normalized_ruleId,
      FileFilterRule.normalized_normalized]
  by_cases hversion : policy.schemaVersion = 1
  · rw [canonicalFileFilterPolicyJson, canonicalFileFilterPolicyJson, payload_legacy hversion,
      @payload_legacy py (policy.normalized py) hversion]
    rfl
  · rw [canonicalFileFilterPolicyJson, canonicalFileFilterPolicyJson, payload_rules hversion,
      @payload_rules py (policy.normalized py) hversion, hrules]
    rfl

theorem parse_canonical (hash : String → String) {text : String} (h : policy.Valid)
    (htext : canonicalFileFilterPolicyJson py policy = .ok text) :
    parseFileFilterPolicyJson py hash text none = .ok read ↔
      (∀ rule ∈ policy.rules, rule.Foldable py) ∧ read = policy.normalized py := by
  rw [← policyOfPayload_payload h]
  obtain ⟨hfit, hdump⟩ := canonicalFileFilterPolicyJson_eq_ok.mp htext
  have hloads := @loads_canonical py policy
  rw [hdump] at hloads
  rw [parseFileFilterPolicyJson, hloads]
  constructor
  · intro hread
    obtain ⟨⟨⟩, -, hread⟩ := except_bind_ok hread
    obtain ⟨-, hread⟩ := check_bind_eq_ok.mp hread
    obtain ⟨made, hmade, hread⟩ := except_bind_ok hread
    obtain ⟨canonical, -, hread⟩ := except_bind_ok hread
    obtain ⟨-, hread⟩ := check_bind_eq_ok.mp hread
    cases hread
    exact hmade
  · intro hmade
    obtain ⟨-, rfl⟩ := (policyOfPayload_payload h).mp hmade
    refine check_bind_eq_ok.mpr ⟨rfl, check_bind_eq_ok.mpr ⟨hfit, ?_⟩⟩
    simp only [hmade, canonical_normalized, htext, bind, Except.bind]
    exact check_bind_eq_ok.mpr ⟨beq_self_eq_true text, rfl⟩

theorem canonical_of_parse {hash : String → String} {raw : String} {expectedHash : Option String}
    (h : parseFileFilterPolicyJson py hash raw expectedHash = .ok read) :
    canonicalFileFilterPolicyJson py read = .ok raw := by
  obtain ⟨⟨⟩, -, h⟩ := except_bind_ok h
  cases hloads : Json.loads raw with
  | none =>
    rw [hloads] at h
    cases h
  | some value =>
    rw [hloads] at h
    cases value with
    | obj payload =>
      obtain ⟨-, h⟩ := check_bind_eq_ok.mp h
      obtain ⟨made, -, h⟩ := except_bind_ok h
      obtain ⟨canonical, hmade, h⟩ := except_bind_ok h
      obtain ⟨hcanonical, h⟩ := check_bind_eq_ok.mp h
      cases h
      rw [hmade, beq_iff_eq.mp hcanonical]
    | _ =>
      obtain ⟨-, h⟩ := check_bind_eq_ok.mp h
      cases h

section
variable (search : FilterOccasion → FileFilterRule → String → RegexAnswer)
  (occasion : FilterOccasion) (subject : FileFilterSubject)

theorem effectiveRules_normalized (policy : FileFilterPolicy) :
    (policy.normalized py).effectiveRules =
      policy.effectiveRules.map (FileFilterRule.normalized py) := by
  unfold effectiveRules
  rw [List.map_append]
  refine congrArg₂ _ ?_ rfl
  show (if policy.includeDefaultExclusions then _ else _) = _
  split <;> rfl

theorem globMatches_normalized (policy : FileFilterPolicy) (host : FilterHost)
    (ruleId value : String) :
    (policy.normalized py).globMatches host ruleId value =
      policy.globMatches host ruleId value := by
  have hglob : ∀ rule : FileFilterRule, (rule.normalized py).kind.glob? = rule.kind.glob? := by
    intro rule
    cases hkind : rule.kind <;> simp only [FileFilterRule.normalized, hkind, FilterRuleKind.glob?]
  unfold globMatches
  rw [effectiveRules_normalized, List.filter_map, List.filterMap_map]
  simp only [Function.comp_def, FileFilterRule.normalized_ruleId, hglob]

theorem matchesRule_normalized (policy : FileFilterPolicy) (rule : FileFilterRule) :
    (policy.normalized py).matchesRule ⟨py.casefold, search⟩ occasion subject
        (rule.normalized py) =
      policy.matchesRule ⟨py.casefold, search⟩ occasion subject rule := by
  by_cases hextension : ∃ value, rule.kind = .extension value
  · obtain ⟨value, hvalue⟩ := hextension
    have hfolded : py.casefold (String.ofList ((extensionText py value).toList.dropWhile
        fun c => c == '.')) =
          py.casefold (String.ofList (value.toList.dropWhile fun c => c == '.')) :=
      extensionText_extensionText value
    rw [FileFilterRule.normalized_of_extension hvalue]
    unfold matchesRule
    simp only [hvalue, hfolded]
  · rw [FileFilterRule.normalized_eq_self fun value hvalue => hextension ⟨value, hvalue⟩]
    unfold matchesRule
    cases hkind : rule.kind <;> simp only [globMatches_normalized]

theorem evaluate_normalized (policy : FileFilterPolicy) :
    (policy.normalized py).evaluate ⟨py.casefold, search⟩ occasion subject =
      policy.evaluate ⟨py.casefold, search⟩ occasion subject := by
  have hloop : ∀ (rules : List FileFilterRule) (included : Bool) (last : Option FileFilterRule),
      (policy.normalized py).evaluateFrom ⟨py.casefold, search⟩ occasion subject
          (rules.map (FileFilterRule.normalized py)) included
          (last.map (FileFilterRule.normalized py)) =
        policy.evaluateFrom ⟨py.casefold, search⟩ occasion subject rules included last := by
    intro rules
    induction rules with
    | nil =>
      intro included last
      cases last with
      | none => rfl
      | some rule => simp only [List.map_nil, Option.map_some, evaluateFrom,
          FileFilterRule.normalized_ruleId]
    | cons rule rest ih =>
      intro included last
      rw [List.map_cons, evaluateFrom, evaluateFrom, matchesRule_normalized,
        FileFilterRule.normalized_ruleId, FileFilterRule.normalized_action]
      split
      · rfl
      · exact ih included last
      · exact ih _ (some rule)
  rw [evaluate, evaluate, effectiveRules_normalized]
  exact hloop policy.effectiveRules _ none

end

end FileFilterPolicy

/-- A valid policy is written and read back as one that decides alike exactly when every extension
is still one after it is folded and every integer can be printed; and only the text of the policy
it yields is accepted. -/
theorem canonicalFileFilterPolicyJson_roundTrip (py : CaseFolding) (hash : String → String) :
    (∀ policy : FileFilterPolicy, policy.Valid →
      ((∃ text read, canonicalFileFilterPolicyJson py policy = .ok text ∧
          parseFileFilterPolicyJson py hash text none = .ok read ∧
          ∀ (search : FilterOccasion → FileFilterRule → String → RegexAnswer)
            (occasion : FilterOccasion) (subject : FileFilterSubject),
            read.evaluate ⟨py.casefold, search⟩ occasion subject =
              policy.evaluate ⟨py.casefold, search⟩ occasion subject) ↔
        ∀ rule ∈ policy.rules, rule.Foldable py ∧ rule.Printable)) ∧
    ∀ (raw : String) (expectedHash : Option String) (read : FileFilterPolicy),
      parseFileFilterPolicyJson py hash raw expectedHash = .ok read →
        canonicalFileFilterPolicyJson py read = .ok raw := by
  refine ⟨fun policy hvalid => ⟨?_, fun hrules => ?_⟩,
    fun raw expectedHash read hread => FileFilterPolicy.canonical_of_parse hread⟩
  · rintro ⟨text, read, htext, hread, -⟩ rule hrule
    have hfit := (FileFilterPolicy.canonicalFileFilterPolicyJson_eq_ok.mp htext).1
    exact ⟨((FileFilterPolicy.parse_canonical hash hvalid htext).mp hread).1 rule hrule,
      (FileFilterPolicy.payload_digitsFit hvalid).mp hfit rule hrule⟩
  · have hfit : (Json.obj (policy.payload py)).digitsFit = true :=
      (FileFilterPolicy.payload_digitsFit hvalid).mpr fun rule hrule => (hrules rule hrule).2
    have htext := FileFilterPolicy.canonicalFileFilterPolicyJson_eq_ok.mpr ⟨hfit, rfl⟩
    exact ⟨_, policy.normalized py, htext, (FileFilterPolicy.parse_canonical hash hvalid htext).mpr
        ⟨fun rule hrule => (hrules rule hrule).1, rfl⟩,
      fun search occasion subject =>
        FileFilterPolicy.evaluate_normalized search occasion subject policy⟩

def extensionPolicy (value : String) : FileFilterPolicy where
  rules := [⟨"extension", .excludes, .extension value⟩]
  ruleIds_unique := List.nodup_singleton _

theorem extensionPolicy_valid {value : String}
    (h : extensionValue (.str value) = .ok value) : (extensionPolicy value).Valid where
  created := rfl
  rules rule hrule := by
    obtain rfl := List.mem_singleton.mp hrule
    refine FileFilterRule.create_eq_ok.mpr
      ⟨rfl, (by decide : isRuleId "extension" = true), .extension value, ?_, rfl⟩
    rw [FilterRuleKind.value, FilterRuleKind.text, filterRuleKind_extension, h]
    rfl

theorem jpegPolicy_roundTrip :
    ∃ text read, canonicalFileFilterPolicyJson asciiFolding (extensionPolicy ".JPG") = .ok text ∧
      parseFileFilterPolicyJson asciiFolding id text none = .ok read ∧
      ∀ (search : FilterOccasion → FileFilterRule → String → RegexAnswer)
        (occasion : FilterOccasion) (subject : FileFilterSubject),
        read.evaluate ⟨asciiFolding.casefold, search⟩ occasion subject =
          (extensionPolicy ".JPG").evaluate ⟨asciiFolding.casefold, search⟩ occasion subject := by
  refine ((canonicalFileFilterPolicyJson_roundTrip asciiFolding id).1 _
    (extensionPolicy_valid (by rfl))).mpr fun rule hrule => ?_
  obtain rfl := List.mem_singleton.mp hrule
  refine ⟨fun value hvalue => ?_, rfl⟩
  cases hvalue
  decide

/-- An extension of dots alone is accepted by the constructors, but its text is not read back. -/
theorem dots_not_read_back :
    (extensionPolicy "..").Valid ∧
      ∃ text, canonicalFileFilterPolicyJson asciiFolding (extensionPolicy "..") = .ok text ∧
        ∀ read, parseFileFilterPolicyJson asciiFolding id text none ≠ .ok read := by
  have hvalid : (extensionPolicy "..").Valid := extensionPolicy_valid (by rfl)
  have hprintable : ∀ rule ∈ (extensionPolicy "..").rules, rule.Printable := by
    intro rule hrule
    obtain rfl := List.mem_singleton.mp hrule
    rfl
  have hfit : (Json.obj ((extensionPolicy "..").payload asciiFolding)).digitsFit = true :=
    (FileFilterPolicy.payload_digitsFit hvalid).mpr hprintable
  have htext := FileFilterPolicy.canonicalFileFilterPolicyJson_eq_ok.mpr ⟨hfit, rfl⟩
  refine ⟨hvalid, _, htext, fun read hread => ?_⟩
  have hfoldable := ((FileFilterPolicy.parse_canonical id hvalid htext).mp hread).1 _
    (List.mem_singleton_self _)
  exact (hfoldable ".." rfl).1 (by decide)

end MediaSync.Snapshots
