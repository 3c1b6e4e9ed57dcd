import MediaSync.Foundation.CaseFolding
import MediaSync.Snapshots.Filters
import Mathlib.Data.List.Nodup

/-! The compiled filter keeps the patterns of its globs under the ids of their rules. -/
namespace MediaSync.Snapshots

def FileFilterRule.only (rule : FileFilterRule) : FileFilterPolicy where
  includeDefaultExclusions := false
  rules := [rule]
  ruleIds_unique := List.nodup_singleton _

def FileFilterRule.matchesAlone (host : FilterHost) (occasion : FilterOccasion)
    (subject : FileFilterSubject) (rule : FileFilterRule) : Bool × Option String :=
  rule.only.matchesRule host occasion subject rule

def FileFilterRule.decision (subject : FileFilterSubject) (rule : FileFilterRule) :
    FileFilterDecision where
  included := rule.action = .includes
  reasonCode :=
    if rule.action = .includes then "FILTER_RULE_INCLUDED" else "FILTER_RULE_EXCLUDED"
  matchedRuleId := some rule.ruleId
  pruneDirectory := rule.action = .excludes && subject.objectType = .directory

def FileFilterRule.failure (rule : FileFilterRule) (code : String) : FileFilterDecision where
  included := false
  reasonCode := code
  matchedRuleId := some rule.ruleId
  errorCode := some code

namespace FileFilterPolicy

variable (policy : FileFilterPolicy) (host : FilterHost) (occasion : FilterOccasion)
  (subject : FileFilterSubject)

def decisionByDefault : FileFilterDecision :=
  if policy.includeOnlyIfMatched && subject.objectType != .directory then
    { included := false, reasonCode := "FILTER_INCLUDE_RULE_NOT_MATCHED" }
  else { included := true, reasonCode := "FILTER_INCLUDED_BY_DEFAULT" }

def firstFailure (rules : List FileFilterRule) : Option (FileFilterRule × String) :=
  rules.findSome? fun rule => (rule.matchesAlone host occasion subject).2.map (rule, ·)

def lastMatch (rules : List FileFilterRule) : Option FileFilterRule :=
  (rules.filter fun rule => (rule.matchesAlone host occasion subject).1).getLast?

def referenceDecision : FileFilterDecision :=
  match firstFailure host occasion subject policy.effectiveRules with
  | some (rule, code) => rule.failure code
  | none =>
    match lastMatch host occasion subject policy.effectiveRules with
    | some rule => rule.decision subject
    | none => policy.decisionByDefault subject

def DefaultGlobsKept : Prop :=
  policy.includeDefaultExclusions = true →
    ∀ rule ∈ policy.rules, rule.kind.glob?.isSome = true →
      rule.ruleId ∉ defaultRules.map FileFilterRule.ruleId

variable {policy host occasion subject}

variable {rule : FileFilterRule}

theorem globMatches_eq {pattern : String} (hrule : rule ∈ policy.effectiveRules)
    (hglob : rule.kind.glob? = some pattern)
    (halone : ∀ other ∈ policy.effectiveRules, other.ruleId = rule.ruleId →
      other.kind.glob?.isSome = true → other = rule) (value : String) :
    policy.globMatches host rule.ruleId value =
      fullmatch (host.compileGlob pattern) value.toList := by
  unfold globMatches
  generalize hkept :
    (policy.effectiveRules.filter (fun other => other.ruleId = rule.ruleId)).filterMap
    (fun other => other.kind.glob?) = patterns
  have hown : pattern ∈ patterns := by
    rw [← hkept]
    exact List.mem_filterMap.mpr ⟨rule, List.mem_filter.mpr ⟨hrule, decide_eq_true rfl⟩, hglob⟩
  cases hlast : patterns.getLast? with
  | none => exact absurd hown (by rw [List.getLast?_eq_none_iff.mp hlast]; exact List.not_mem_nil)
  | some last =>
    have hmem : last ∈ patterns := List.mem_of_getLast? hlast
    rw [← hkept] at hmem
    obtain ⟨other, hother, hpattern⟩ := List.mem_filterMap.mp hmem
    obtain ⟨hother, hid⟩ := List.mem_filter.mp hother
    have heq : other = rule :=
      halone other hother (of_decide_eq_true hid) (by rw [hpattern]; rfl)
    rw [heq, hglob] at hpattern
    rw [Option.any_some, Option.some.inj hpattern]

theorem DefaultGlobsKept.alone (h : policy.DefaultGlobsKept) {rule other : FileFilterRule}
    (hrule : rule ∈ policy.effectiveRules) (hother : other ∈ policy.effectiveRules)
    (hid : other.ruleId = rule.ruleId) (hglob : rule.kind.glob?.isSome = true)
    (hotherGlob : other.kind.glob?.isSome = true) : other = rule := by
  have hdefaults : (defaultRules.map FileFilterRule.ruleId).Nodup := by decide
  unfold effectiveRules at hrule hother
  split at hrule
  · rename_i hincluded
    rw [if_pos hincluded] at hother
    rcases List.mem_append.mp hrule with hrule | hrule <;>
      rcases List.mem_append.mp hother with hother | hother
    · exact List.inj_on_of_nodup_map hdefaults hother hrule hid
    · exact absurd (hid ▸ List.mem_map_of_mem hrule) (h hincluded other hother hotherGlob)
    · exact absurd (hid.symm ▸ List.mem_map_of_mem hother) (h hincluded rule hrule hglob)
    · exact List.inj_on_of_nodup_map policy.ruleIds_unique hother hrule hid
  · rename_i hincluded
    rw [if_neg hincluded] at hother
    exact List.inj_on_of_nodup_map policy.ruleIds_unique hother hrule hid

theorem matchesRule_eq_matchesAlone (h : policy.DefaultGlobsKept)
    (hrule : rule ∈ policy.effectiveRules) :
    policy.matchesRule host occasion subject rule = rule.matchesAlone host occasion subject := by
  have hglob : rule.kind.glob?.isSome = true → ∀ value,
      policy.globMatches host rule.ruleId value =
        rule.only.globMatches host rule.ruleId value := by
    intro hsome value
    obtain ⟨pattern, hpattern⟩ := Option.isSome_iff_exists.mp hsome
    have honly : rule ∈ rule.only.effectiveRules := List.mem_singleton_self rule
    rw [globMatches_eq hrule hpattern fun other hother hid hotherGlob =>
        h.alone hrule hother hid hsome hotherGlob,
      globMatches_eq honly hpattern fun other hother _ _ => List.mem_singleton.mp hother]
  unfold FileFilterRule.matchesAlone matchesRule
  cases hkind : rule.kind with
  | fileNameGlob value => simp only [hglob (by rw [hkind]; rfl)]
  | relativePathGlob value => simp only [hglob (by rw [hkind]; rfl)]
  | directoryGlob value => simp only [hglob (by rw [hkind]; rfl)]
  | _ => rfl

theorem evaluateFrom_eq (h : policy.DefaultGlobsKept) (rules : List FileFilterRule)
    (hrules : ∀ rule ∈ rules, rule ∈ policy.effectiveRules) (included : Bool)
    (last : Option FileFilterRule) :
    policy.evaluateFrom host occasion subject rules included last =
      match firstFailure host occasion subject rules with
      | some (rule, code) => rule.failure code
      | none =>
        match lastMatch host occasion subject rules with
        | some rule => rule.decision subject
        | none => policy.evaluateFrom host occasion subject [] included last := by
  induction rules generalizing included last with
  | nil => rfl
  | cons rule rest ih =>
    have hown : policy.matchesRule host occasion subject rule =
        rule.matchesAlone host occasion subject :=
      matchesRule_eq_matchesAlone h (hrules rule List.mem_cons_self)
    have hrest : ∀ other ∈ rest, other ∈ policy.effectiveRules :=
      fun other hother => hrules other (List.mem_cons_of_mem _ hother)
    rw [evaluateFrom, hown]
    cases halone : rule.matchesAlone host occasion subject with
    | mk matched failed =>
      cases failed with
      | some code => simp only [firstFailure, List.findSome?_cons, halone, Option.map_some,
          FileFilterRule.failure]
      | none =>
        have hfirst : firstFailure host occasion subject (rule :: rest) =
            firstFailure host occasion subject rest := by
          simp only [firstFailure, List.findSome?_cons, halone, Option.map_none]
        rw [hfirst]
        cases matched with
        | false =>
          have hlast : lastMatch host occasion subject (rule :: rest) =
              lastMatch host occasion subject rest := by
            rw [lastMatch, List.filter_cons_of_neg (by rw [halone]; exact Bool.false_ne_true)]
            rfl
          rw [hlast]
          exact ih hrest included last
        | true =>
          have hlast : lastMatch host occasion subject (rule :: rest) =
              some ((lastMatch host occasion subject rest).getD rule) := by
            rw [lastMatch, List.filter_cons_of_pos (by rw [halone]), List.getLast?_cons]
            rfl
          rw [hlast]
          refine (ih hrest _ _).trans ?_
          cases firstFailure host occasion subject rest with
          | some failure => rfl
          | none =>
            cases lastMatch host occasion subject rest with
            | some later => rfl
            | none =>
              show evaluateFrom _ _ _ _ [] _ _ = rule.decision subject
              rw [evaluateFrom, FileFilterRule.decision]
              cases rule.action <;> rfl

/-- The filter decides as its rules do one by one, where no glob of the user takes the id of a
default rule. -/
theorem evaluate_eq_referenceDecision (h : policy.DefaultGlobsKept) :
    policy.evaluate host occasion subject =
      policy.referenceDecision host occasion subject := by
  have hdefault : policy.evaluateFrom host occasion subject []
      (!(policy.includeOnlyIfMatched && subject.objectType != .directory)) none =
        policy.decisionByDefault subject := by
    rw [evaluateFrom, decisionByDefault]
    cases policy.includeOnlyIfMatched && subject.objectType != .directory <;> rfl
  rw [evaluate, evaluateFrom_eq h _ fun _ hrule => hrule, hdefault, referenceDecision]

end FileFilterPolicy

def coverRule : FileFilterRule := ⟨"default-thumbs-db", .includes, .fileNameGlob "cover.jpg"⟩

def coverPolicy : FileFilterPolicy where
  rules := [coverRule]
  ruleIds_unique := by decide

def keptCoverPolicy : FileFilterPolicy where
  rules := [{ coverRule with ruleId := "cover" }]
  ruleIds_unique := by decide

def nothingPolicy : FileFilterPolicy where
  includeDefaultExclusions := false
  includeOnlyIfMatched := true
  rules := []
  ruleIds_unique := List.nodup_nil

def plainHost : FilterHost where
  casefold := Text.asciiFolding.casefold
  search _ _ _ := .unmatched

theorem keptCoverPolicy_decides :
    keptCoverPolicy.evaluate plainHost .afterWalk { relativePath := "a.tmp", objectType := .file } =
      keptCoverPolicy.referenceDecision plainHost .afterWalk
        { relativePath := "a.tmp", objectType := .file } :=
  FileFilterPolicy.evaluate_eq_referenceDecision (by
    intro _ rule hrule _
    obtain rfl := List.mem_singleton.mp hrule
    decide)

/-- A default rule is matched with the user's pattern where the ids agree, and a policy that
includes only what a rule matches leaves a file out that none matches. -/
theorem last_rule_does_not_decide :
    ((coverPolicy.effectiveRules.filter fun rule =>
        (rule.matchesAlone plainHost .afterWalk
          { relativePath := "Thumbs.db", objectType := .file }).1).map FileFilterRule.action =
        [FilterAction.excludes] ∧
      (coverPolicy.evaluate plainHost .afterWalk
        { relativePath := "Thumbs.db", objectType := .file }).included = true) ∧
    ((nothingPolicy.effectiveRules.filter fun rule =>
        (rule.matchesAlone plainHost .afterWalk
          { relativePath := "a.jpg", objectType := .file }).1) = [] ∧
      (nothingPolicy.evaluate plainHost .afterWalk
        { relativePath := "a.jpg", objectType := .file }).included = false) := by
  decide

end MediaSync.Snapshots
