import MediaSync.Foundation.Text
import Mathlib.Data.List.Infix

/-! The rules with which a user selects files, and the decision about one object. -/
namespace MediaSync.Snapshots

inductive FilterAction where
  | includes
  | excludes
  deriving DecidableEq

inductive FilterRuleKind where
  | extension (value : String)
  | fileNameGlob (value : String)
  | relativePathGlob (value : String)
  | directoryGlob (value : String)
  | minSizeBytes (value : Nat)
  | maxSizeBytes (value : Nat)
  | modifiedAfterNs (value : Nat)
  | modifiedBeforeNs (value : Nat)
  | createdAfterNs (value : Nat)
  | createdBeforeNs (value : Nat)
  | hiddenAttribute
  | systemAttribute
  | temporaryFile
  | reparsePoint
  | emptyDirectory
  | regex (value : String)
  deriving DecidableEq

def FilterRuleKind.glob? : FilterRuleKind → Option String
  | .fileNameGlob value | .relativePathGlob value | .directoryGlob value => some value
  | _ => none

/-- `kind in _PRE_STAT_RULE_KINDS`. -/
def FilterRuleKind.isPreStat : FilterRuleKind → Bool
  | .extension _ | .fileNameGlob _ | .relativePathGlob _ | .directoryGlob _ => true
  | _ => false

structure FileFilterRule where
  ruleId : String
  action : FilterAction
  kind : FilterRuleKind
  deriving DecidableEq

structure FileFilterPolicy where
  preset : String := "ALL_USER_FILES"
  includeDefaultExclusions : Bool := true
  includeOnlyIfMatched : Bool := false
  advancedRegexEnabled : Bool := false
  schemaVersion : Nat := 2
  rules : List FileFilterRule
  ruleIds_unique : (rules.map FileFilterRule.ruleId).Nodup

inductive ObjectType where
  | file
  | directory
  | reparse
  | other
  deriving DecidableEq

def ObjectType.text : ObjectType → String
  | .file => "file"
  | .directory => "directory"
  | .reparse => "reparse"
  | .other => "other"

structure FileFilterSubject where
  relativePath : String
  objectType : ObjectType
  sizeBytes : Option Int := none
  modifiedNs : Option Int := none
  createdNs : Option Int := none
  fileAttributes : Nat := 0
  isEmptyDirectory : Bool := false

namespace FileFilterSubject

/-- `__post_init__`: the validation code it raises, or the subject. -/
def validated (subject : FileFilterSubject) : Except String FileFilterSubject :=
  let path := subject.relativePath.toList
  if path.isEmpty || path.contains '\x00' || path.contains '\\' || path.head? == some '/' ||
      (path.splitOn '/').any (fun part => part.isEmpty || part == ['.'] || part == ['.', '.']) then
    .error "FILTER_SUBJECT_PATH_INVALID"
  else if [subject.sizeBytes, subject.modifiedNs, subject.createdNs].any
      (fun value => value.any fun n => n < 0) then
    .error "FILTER_SUBJECT_METADATA_INVALID"
  else if subject.isEmptyDirectory && subject.objectType != .directory then
    .error "FILTER_SUBJECT_EMPTY_DIRECTORY_INVALID"
  else .ok subject

def name (subject : FileFilterSubject) : String :=
  String.ofList (subject.relativePath.toList.reverse.takeWhile fun c => c != '/').reverse

end FileFilterSubject

structure FileFilterDecision where
  included : Bool
  reasonCode : String
  matchedRuleId : Option String := none
  errorCode : Option String := none
  pruneDirectory : Bool := false
  deriving DecidableEq

def FileFilterDecision.excludes (decision : FileFilterDecision) : Bool :=
  decision.errorCode.isNone && !decision.included

inductive GlobPart where
  | anyDirectories
  | anyText
  | anyName
  | oneCharacter
  | literal (c : Char)
  /-- `(?:/.*)?`, at the end of a pattern `base/**`. -/
  | selfOrBelow

def globExpression : List Char → List GlobPart
  | '*' :: '*' :: '/' :: rest => .anyDirectories :: globExpression rest
  | '*' :: '*' :: rest => .anyText :: globExpression rest
  | '*' :: rest => .anyName :: globExpression rest
  | '?' :: rest => .oneCharacter :: globExpression rest
  | c :: rest => .literal c :: globExpression rest
  | [] => []

def GlobPart.rests : GlobPart → List Char → List (List Char)
  | .anyDirectories, text =>
    text :: text.tails.filterMap fun rest =>
      if rest.head? = some '/' then some rest.tail else none
  | .anyText, text => text.tails
  | .anyName, text => text.tails.take ((text.takeWhile fun c => c != '/').length + 1)
  | .oneCharacter, text => if text.head?.any (fun c => c != '/') then [text.tail] else []
  | .literal c, text => if text.head? = some c then [text.tail] else []
  | .selfOrBelow, text => text :: (if text.head? = some '/' then text.tail.tails else [])

/-- `fullmatch` of a compiled glob. -/
def fullmatch : List GlobPart → List Char → Bool
  | [], text => text.isEmpty
  | part :: parts, text => (part.rests text).any (fullmatch parts)

inductive RegexAnswer where
  | matched
  | unmatched
  | overBudget

inductive FilterOccasion where
  | walk (rescanAttempt : Nat)
  | afterWalk

structure FilterHost where
  casefold : String → String
  search : FilterOccasion → FileFilterRule → String → RegexAnswer

def maxRegexInputLength : Nat := 4096

def FilterHost.compileGlob (host : FilterHost) (pattern : String) : List GlobPart :=
  let normalized :=
    (host.casefold (String.ofList
      (pattern.toList.map fun c => if c = '\\' then '/' else c))).toList.reverse
  if ['*', '*', '/'].isPrefixOf normalized then
    globExpression ((normalized.drop 3).dropWhile fun c => c == '/').reverse ++ [.selfOrBelow]
  else globExpression normalized.reverse

def FilterHost.regexMatches (host : FilterHost) (occasion : FilterOccasion)
    (rule : FileFilterRule) (value : String) : Bool × Option String :=
  if maxRegexInputLength < value.length then (false, some "FILTER_REGEX_BUDGET_EXCEEDED")
  else
    match host.search occasion rule value with
    | .matched => (true, none)
    | .unmatched => (false, none)
    | .overBudget => (false, some "FILTER_REGEX_BUDGET_EXCEEDED")

def defaultRules : List FileFilterRule :=
  [⟨"default-recycle-bin", .excludes, .relativePathGlob "$RECYCLE.BIN/**"⟩,
    ⟨"default-system-volume-information", .excludes,
      .relativePathGlob "System Volume Information/**"⟩,
    ⟨"default-thumbs-db", .excludes, .fileNameGlob "Thumbs.db"⟩,
    ⟨"default-desktop-ini", .excludes, .fileNameGlob "Desktop.ini"⟩,
    ⟨"default-tmp-extension", .excludes, .fileNameGlob "*.tmp"⟩,
    ⟨"default-office-temp", .excludes, .fileNameGlob "~$*"⟩]

namespace FileFilterPolicy

variable (policy : FileFilterPolicy) (host : FilterHost) (occasion : FilterOccasion)
  (subject : FileFilterSubject)

def effectiveRules : List FileFilterRule :=
  (if policy.includeDefaultExclusions then defaultRules else []) ++ policy.rules

def canEvaluateBeforeMetadata : Bool :=
  policy.effectiveRules.all fun rule => rule.kind.isPreStat

def hasEmptyDirectoryRules : Bool :=
  policy.rules.any fun rule => rule.kind = .emptyDirectory

/-- `_glob_patterns[rule_id].fullmatch(value)`: of several globs with one rule id the last is
kept. -/
def globMatches (ruleId value : String) : Bool :=
  ((policy.effectiveRules.filter (fun rule => rule.ruleId = ruleId)).filterMap
    (fun rule => rule.kind.glob?)).getLast?.any fun pattern =>
      fullmatch (host.compileGlob pattern) value.toList

/-- `_matches`: whether the rule matches, and the code of a failed evaluation. -/
def matchesRule (rule : FileFilterRule) : Bool × Option String :=
  let isFile := subject.objectType = .file
  match rule.kind with
  | .extension value =>
    let extension := (subject.name.toList.reverse.takeWhile fun c => c != '.').reverse
    (isFile && host.casefold (if subject.name.toList.contains '.' then String.ofList extension
      else "") == host.casefold (String.ofList (value.toList.dropWhile fun c => c == '.')), none)
  | .fileNameGlob _ => (policy.globMatches host rule.ruleId (host.casefold subject.name), none)
  | .relativePathGlob _ =>
    (policy.globMatches host rule.ruleId (host.casefold subject.relativePath), none)
  | .directoryGlob _ =>
    (subject.objectType = .directory &&
      policy.globMatches host rule.ruleId (host.casefold subject.relativePath), none)
  | .minSizeBytes value => (isFile && subject.sizeBytes.any (fun n : Int => value ≤ n), none)
  | .maxSizeBytes value => (isFile && subject.sizeBytes.any (fun n : Int => n ≤ value), none)
  | .modifiedAfterNs value =>
    (isFile && subject.modifiedNs.any (fun n : Int => value ≤ n), none)
  | .modifiedBeforeNs value => (isFile && subject.modifiedNs.any (fun n : Int => n ≤ value), none)
  | .createdAfterNs value => (isFile && subject.createdNs.any (fun n : Int => value ≤ n), none)
  | .createdBeforeNs value => (isFile && subject.createdNs.any (fun n : Int => n ≤ value), none)
  | .hiddenAttribute => (subject.fileAttributes.testBit 1, none)
  | .systemAttribute => (subject.fileAttributes.testBit 2, none)
  | .temporaryFile => (subject.fileAttributes.testBit 8, none)
  | .reparsePoint => (subject.objectType = .reparse, none)
  | .emptyDirectory => (subject.objectType = .directory && subject.isEmptyDirectory, none)
  | .regex _ => host.regexMatches occasion rule subject.relativePath

/-- The loop of `evaluate` over the rules that are left. -/
def evaluateFrom : List FileFilterRule → Bool → Option FileFilterRule → FileFilterDecision
  | [], included, none =>
    { included := included
      reasonCode :=
        if included then "FILTER_INCLUDED_BY_DEFAULT" else "FILTER_INCLUDE_RULE_NOT_MATCHED" }
  | [], included, some rule =>
    { included := included
      reasonCode := if included then "FILTER_RULE_INCLUDED" else "FILTER_RULE_EXCLUDED"
      matchedRuleId := some rule.ruleId
      pruneDirectory := !included && subject.objectType = .directory }
  | rule :: rest, included, lastMatch =>
    match policy.matchesRule host occasion subject rule with
    | (_, some code) =>
      { included := false
        reasonCode := code
        matchedRuleId := some rule.ruleId
        errorCode := some code }
    | (false, none) => evaluateFrom rest included lastMatch
    | (true, none) => evaluateFrom rest (rule.action = .includes) (some rule)

def evaluate : FileFilterDecision :=
  policy.evaluateFrom host occasion subject policy.effectiveRules
    (!(policy.includeOnlyIfMatched && subject.objectType != .directory)) none

def byEmptyDirectoryRule (decision : FileFilterDecision) : Bool :=
  policy.rules.any fun rule =>
    rule.kind = .emptyDirectory && decision.matchedRuleId == some rule.ruleId

theorem not_before_metadata (h : policy.hasEmptyDirectoryRules = true) :
    policy.canEvaluateBeforeMetadata = false := by
  obtain ⟨rule, hrule, hkind⟩ := List.any_eq_true.mp h
  apply List.all_eq_false.mpr
  refine ⟨rule, List.mem_append_right _ hrule, ?_⟩
  simp [of_decide_eq_true hkind, FilterRuleKind.isPreStat]

end FileFilterPolicy

end MediaSync.Snapshots
