import MediaSync.Foundation.CommandLines
import MediaSync.Foundation.Text

/-! How a list of arguments becomes one command line, and how such a line is read back. -/
namespace MediaSync.Transfers
open Text (isSpace except_bind_ok)
open CommandLines

inductive WindowsCommandLineError where
  | argumentContainsNul
  | commandLineRequiresArgv
  | commandLineTooLong
  | parseRequiresWindows
  | commandLineContainsNul
  | parseFailed (lastError : Nat)
  deriving DecidableEq

/-- `str(error)`. -/
def WindowsCommandLineError.message : WindowsCommandLineError → String
  | argumentContainsNul => "WINDOWS_ARGUMENT_CONTAINS_NUL"
  | commandLineRequiresArgv => "WINDOWS_COMMAND_LINE_REQUIRES_ARGV"
  | commandLineTooLong => "WINDOWS_COMMAND_LINE_TOO_LONG"
  | parseRequiresWindows => "WINDOWS_COMMAND_LINE_PARSE_REQUIRES_WINDOWS"
  | commandLineContainsNul => "WINDOWS_COMMAND_LINE_CONTAINS_NUL"
  | parseFailed lastError => "WINDOWS_COMMAND_LINE_PARSE_FAILED:" ++ toString lastError

def maxWindowsCommandLine : Nat := 32760

def nul : Char := '\x00'

/-- The loop of `quote_windows_argument` and the closing quotation mark, with the number of
backslashes that wait. -/
def quoteRest : Nat → List Char → List Char
  | backslashes, [] => List.replicate (backslashes * 2) '\\' ++ ['"']
  | backslashes, c :: rest =>
    if c = '\\' then quoteRest (backslashes + 1) rest
    else if c = '"' then List.replicate (backslashes * 2 + 1) '\\' ++ '"' :: quoteRest 0 rest
    else List.replicate backslashes '\\' ++ c :: quoteRest 0 rest

/-- `any(character.isspace() or character == '"' for character in argument)`. -/
def needsQuotes (argument : List Char) : Bool := argument.any fun c => isSpace c || c == '"'

def quoteWindowsArgument (argument : String) : Except WindowsCommandLineError (List Char) :=
  if nul ∈ argument.toList then .error .argumentContainsNul
  else if argument.toList = [] then .ok ['"', '"']
  else if needsQuotes argument.toList then .ok ('"' :: quoteRest 0 argument.toList)
  else .ok argument.toList

def buildWindowsCommandLine (argv : List String) : Except WindowsCommandLineError String := do
  if argv = [] then
    throw .commandLineRequiresArgv
  let quoted ← argv.mapM quoteWindowsArgument
  let commandLine := List.intercalate [' '] quoted
  if maxWindowsCommandLine < commandLine.length then
    throw .commandLineTooLong
  return String.ofList commandLine

def buildWindowsArgumentLine (arguments : List String) : Except WindowsCommandLineError String :=
  if arguments = [] then .ok "" else buildWindowsCommandLine arguments

/-- The system under the parser: its name, and `CommandLineToArgvW` with the error code that a
null pointer leaves. -/
structure WindowsHost where
  osName : String
  commandLineToArgvW : String → Except Nat (List String)

/-- `CommandLineToArgvW` is there and splits a line that is not empty by the documented rules. -/
structure WindowsHost.Documented (host : WindowsHost) : Prop where
  isWindows : host.osName = "nt"
  splits : ∀ line : String, line.toList ≠ [] →
    host.commandLineToArgvW line = .ok ((split line.toList).map String.ofList)

def parseWindowsCommandLine (host : WindowsHost) (commandLine : String) :
    Except WindowsCommandLineError (List String) := do
  if host.osName ≠ "nt" then
    throw .parseRequiresWindows
  if nul ∈ commandLine.toList then
    throw .commandLineContainsNul
  (host.commandLineToArgvW commandLine).mapError .parseFailed

def parseWindowsArgumentLine (host : WindowsHost) (argumentLine : String) :
    Except WindowsCommandLineError (List String) :=
  if argumentLine = "" then .ok [] else parseWindowsCommandLine host argumentLine

/-- The program-name rule reads the first argument back: there is no quotation mark in it, and
if it has a blank, it does not end with a backslash. -/
def FirstSurvives (argv : List String) : Prop :=
  ∀ first ∈ argv.head?, '"' ∉ first.toList ∧
    (first.toList.any isSpace = true → first.toList.getLast? ≠ some '\\')

instance (argv : List String) : Decidable (FirstSurvives argv) :=
  inferInstanceAs (Decidable (∀ first ∈ argv.head?, _))

def quoted (argument : List Char) : List Char :=
  if argument = [] then ['"', '"']
  else if needsQuotes argument then '"' :: quoteRest 0 argument
  else argument

theorem quoteWindowsArgument_eq (argument : String) :
    quoteWindowsArgument argument =
      if nul ∈ argument.toList then .error .argumentContainsNul
      else .ok (quoted argument.toList) := by
  unfold quoteWindowsArgument quoted
  split_ifs <;> rfl

theorem quoteWindowsArgument_eq_ok {argument : String} {text : List Char} :
    quoteWindowsArgument argument = .ok text ↔
      nul ∉ argument.toList ∧ quoted argument.toList = text := by
  rw [quoteWindowsArgument_eq]
  split_ifs with hnul
  · exact iff_of_false (by simp) fun h => h.1 hnul
  · rw [Except.ok.injEq]
    exact ⟨fun h => ⟨hnul, h⟩, fun h => h.2⟩

theorem isSpace_of_isDelimiter {c : Char} (h : isDelimiter c = true) : isSpace c = true := by
  rcases Bool.or_eq_true_iff.mp h with h | h <;> rw [beq_iff_eq.mp h] <;> rfl

variable {argument : List Char}

theorem plain_of_not_needsQuotes (h : needsQuotes argument = false) :
    ∀ c ∈ argument, c ≠ '"' ∧ isDelimiter c = false := by
  intro c hc
  have hnot := List.any_eq_false.mp h c hc
  rw [Bool.or_eq_true_iff, not_or] at hnot
  refine ⟨fun hquote => hnot.2 (beq_iff_eq.mpr hquote), ?_⟩
  cases hdelimiter : isDelimiter c with
  | false => rfl
  | true => exact absurd (isSpace_of_isDelimiter hdelimiter) hnot.1

theorem foldl_quoteRest (n : Nat) (rest : List Char) (finished : List (List Char))
    (text : List Char) :
    (quoteRest n rest).foldl Scan.next ⟨finished, true, text, 0, true⟩ =
      ⟨finished, true, text ++ List.replicate n '\\' ++ rest, 0, false⟩ := by
  induction rest generalizing n text with
  | nil =>
      rw [quoteRest, List.foldl_append, Scan.foldl_backslashes _ rfl, Nat.zero_add,
        List.append_nil]
      exact Scan.next_close n
  | cons c rest ih =>
      rw [quoteRest]
      split_ifs with hslash hquote
      · rw [ih, hslash, List.replicate_succ']
        simp only [List.append_assoc, List.singleton_append]
      · rw [List.foldl_append, Scan.foldl_backslashes _ rfl, Nat.zero_add, List.foldl_cons,
          Scan.next_escaped, ih, hquote]
        simp only [List.replicate_zero, List.append_nil, List.append_assoc,
          List.singleton_append]
      · rw [List.foldl_append, Scan.foldl_backslashes _ rfl, Nat.zero_add, List.foldl_cons,
          Scan.next_quoted hslash hquote, ih]
        simp only [List.replicate_zero, List.append_nil, List.append_assoc,
          List.singleton_append]

theorem settled_foldl_quoted (argument : List Char) (finished : List (List Char)) :
    (quoted argument).foldl Scan.next (Scan.between finished) |>.Settled
      (finished ++ [argument]) := by
  unfold quoted
  split_ifs with hempty hquotes
  · rw [hempty, List.foldl_cons, Scan.next_open, List.foldl_cons, Scan.next_close 0]
    exact Scan.settled_closed finished []
  · rw [List.foldl_cons, Scan.next_open, foldl_quoteRest]
    exact Scan.settled_closed finished argument
  · exact Scan.settled_foldl_plain hempty
      (plain_of_not_needsQuotes (Bool.not_eq_true _ ▸ hquotes)) finished

theorem quoteRest_eq_append (n : Nat) {rest : List Char} (hquote : '"' ∉ rest) :
    ∃ k, quoteRest n rest = List.replicate n '\\' ++ rest ++ List.replicate k '\\' ++ ['"'] ∧
      (k = 0 ↔ (List.replicate n '\\' ++ rest).getLast? ≠ some '\\') := by
  induction rest generalizing n with
  | nil =>
      refine ⟨n, ?_, ?_⟩
      · rw [quoteRest, Nat.mul_two, ← List.replicate_append_replicate, List.append_nil]
      · cases n with
        | zero => simp
        | succ n => simp [List.replicate_succ']
  | cons c rest ih =>
      rw [List.mem_cons, not_or] at hquote
      rw [quoteRest, if_neg (Ne.symm hquote.1)]
      split_ifs with hslash
      · obtain ⟨k, htext, hzero⟩ := ih (n + 1) hquote.2
        have hshift : List.replicate (n + 1) '\\' ++ rest = List.replicate n '\\' ++ c :: rest := by
          rw [List.replicate_succ', hslash, List.append_assoc, List.singleton_append]
        rw [hshift] at htext hzero
        exact ⟨k, htext, hzero⟩
      · obtain ⟨k, htext, hzero⟩ := ih 0 hquote.2
        refine ⟨k, ?_, hzero.trans ?_⟩
        · rw [htext]
          simp
        · cases hlast : rest.getLast? with
          | none => simp [List.getLast?_append, List.getLast?_cons, hlast, hslash]
          | some d => simp [List.getLast?_append, List.getLast?_cons, hlast]

def tail (arguments : List (List Char)) : List Char :=
  arguments.flatMap fun argument => ' ' :: quoted argument

theorem intercalate_map_quoted (first : List Char) (rest : List (List Char)) :
    List.intercalate [' '] ((first :: rest).map quoted) = quoted first ++ tail rest := by
  induction rest generalizing first with
  | nil => simp [List.intercalate, tail]
  | cons second rest ih =>
      have hnext := ih second
      simp only [List.map_cons, List.intercalate, List.intersperse, List.flatten_cons] at hnext ⊢
      rw [hnext]
      rfl

theorem settled_foldl_tail (rest : List (List Char)) {finished : List (List Char)} {s : Scan}
    (h : s.Settled finished) : ((tail rest).foldl Scan.next s).Settled (finished ++ rest) := by
  induction rest generalizing finished s with
  | nil => simpa [tail] using h
  | cons argument rest ih =>
      have hargument := settled_foldl_quoted argument finished
      rw [← h.next_delimiter] at hargument
      have hrest := ih hargument
      rw [List.append_assoc, List.singleton_append] at hrest
      simpa only [tail, List.flatMap_cons, List.foldl_append, List.foldl_cons] using hrest

theorem arguments_tail (rest : List (List Char)) : arguments (tail rest) = rest :=
  (settled_foldl_tail rest (Scan.settled_between [])).finish_eq

theorem head?_tail (rest : List (List Char)) :
    ∀ c ∈ (tail rest).head?, isDelimiter c = true := by
  cases rest with
  | nil => intro c hc; cases hc
  | cons argument rest =>
      intro c hc
      cases hc
      rfl

theorem split_quoted_tail (first : List Char) (rest : List (List Char)) :
    split (quoted first ++ tail rest) = first :: rest ↔
      '"' ∉ first ∧ (first.any isSpace = true → first.getLast? ≠ some '\\') := by
  by_cases hempty : first = []
  · have hname : programName (quoted first ++ tail rest) = ([], tail rest) := by
      rw [hempty]
      exact programName_quoted (List.not_mem_nil : _ ∉ ([] : List Char))
    simp only [split, hname, arguments_tail]
    simp [hempty]
  by_cases hquotes : needsQuotes first = true
  · have hquoted : quoted first = '"' :: quoteRest 0 first := by
      rw [quoted, if_neg hempty, if_pos hquotes]
    by_cases hquote : '"' ∈ first
    · refine iff_of_false (fun hsplit => ?_) fun h => h.1 hquote
      rw [hquoted] at hsplit
      exact quote_notMem_programName _ ((List.cons.inj hsplit).1 ▸ hquote)
    · obtain ⟨k, htext, hzero⟩ := quoteRest_eq_append 0 hquote
      have hname : programName (quoted first ++ tail rest) =
          (first ++ List.replicate k '\\', tail rest) := by
        have hbody : '"' ∉ first ++ List.replicate k '\\' := by
          simp [hquote]
        have hline : quoted first ++ tail rest =
            '"' :: (first ++ List.replicate k '\\' ++ '"' :: tail rest) := by
          rw [hquoted, htext]
          simp
        rw [hline]
        exact programName_quoted hbody
      have hspace : first.any isSpace = true := by
        obtain ⟨c, hc, hor⟩ := List.any_eq_true.mp hquotes
        refine List.any_eq_true.mpr ⟨c, hc, (Bool.or_eq_true_iff.mp hor).resolve_right fun h => ?_⟩
        exact hquote (beq_iff_eq.mp h ▸ hc)
      rw [List.replicate_zero, List.nil_append] at hzero
      simp only [split, hname, arguments_tail, List.cons.injEq, and_true, hspace,
        List.append_right_eq_self, List.replicate_eq_nil_iff, hzero]
      simp [hquote]
  · have hplain := plain_of_not_needsQuotes (Bool.not_eq_true _ ▸ hquotes)
    have hquote : '"' ∉ first := fun hmem => (hplain _ hmem).1 rfl
    have hquoted : quoted first = first := by
      rw [quoted, if_neg hempty, if_neg hquotes]
    have hname : programName (quoted first ++ tail rest) = (first, tail rest) := by
      rw [hquoted]
      exact programName_plain hquote (fun c hc => (hplain c hc).2) hempty (head?_tail rest)
    have hspace : first.any isSpace ≠ true := by
      intro hany
      obtain ⟨c, hc, hc'⟩ := List.any_eq_true.mp hany
      exact hquotes (List.any_eq_true.mpr ⟨c, hc, by rw [hc', Bool.true_or]⟩)
    simp [split, hname, arguments_tail, hquote, hspace]
variable {argv : List String}

theorem mapM_quoteWindowsArgument {texts : List (List Char)}
    (h : argv.mapM quoteWindowsArgument = .ok texts) :
    texts = (argv.map String.toList).map quoted ∧ ∀ argument ∈ argv, nul ∉ argument.toList := by
  induction argv generalizing texts with
  | nil =>
      cases h
      exact ⟨rfl, List.forall_mem_nil _⟩
  | cons argument argv ih =>
      rw [List.mapM_cons] at h
      obtain ⟨text, hargument, h⟩ := except_bind_ok h
      obtain ⟨rest, hargv, h⟩ := except_bind_ok h
      cases h
      obtain ⟨hnul, rfl⟩ := quoteWindowsArgument_eq_ok.mp hargument
      obtain ⟨rfl, hall⟩ := ih hargv
      exact ⟨rfl, List.forall_mem_cons.mpr ⟨hnul, hall⟩⟩

theorem mem_quoteRest {n : Nat} {rest : List Char} {c : Char} (h : c ∈ quoteRest n rest) :
    c = '\\' ∨ c = '"' ∨ c ∈ rest := by
  induction rest generalizing n with
  | nil =>
      rw [quoteRest, List.mem_append, List.mem_singleton] at h
      exact h.imp List.eq_of_mem_replicate Or.inl
  | cons d rest ih =>
      rw [quoteRest] at h
      split_ifs at h with hslash hquote
      · exact (ih h).imp id (Or.imp id (List.mem_cons_of_mem d))
      all_goals
        rw [List.mem_append, List.mem_cons] at h
        rcases h with h | rfl | h
        · exact .inl (List.eq_of_mem_replicate h)
        · simp
        · exact (ih h).imp id (Or.imp id (List.mem_cons_of_mem d))

theorem nul_notMem_quoted (h : nul ∉ argument) : nul ∉ quoted argument := by
  unfold quoted
  split_ifs with hempty hquotes
  · decide
  · intro hmem
    rcases List.mem_cons.mp hmem with hopen | hmem
    · exact absurd hopen (by decide)
    · rcases mem_quoteRest hmem with hslash | hquote | hmem
      · exact absurd hslash (by decide)
      · exact absurd hquote (by decide)
      · exact h hmem
  · exact h

theorem quoted_ne_nil (argument : List Char) : quoted argument ≠ [] := by
  unfold quoted
  split_ifs with hempty
  · exact List.cons_ne_nil _ _
  · exact List.cons_ne_nil _ _
  · exact hempty

variable {line : String}

theorem buildWindowsCommandLine_eq_ok (h : buildWindowsCommandLine argv = .ok line) :
    ∃ first rest, argv = first :: rest ∧
      line.toList = quoted first.toList ++ tail (rest.map String.toList) ∧
      ∀ argument ∈ argv, nul ∉ argument.toList := by
  cases argv with
  | nil => cases h
  | cons first rest =>
      rw [buildWindowsCommandLine, if_neg (List.cons_ne_nil _ _)] at h
      obtain ⟨texts, htexts, h⟩ := except_bind_ok h
      obtain ⟨rfl, hnul⟩ := mapM_quoteWindowsArgument htexts
      rw [List.map_cons, intercalate_map_quoted] at h
      dsimp only at h
      split at h
      · cases h
      · cases h
        exact ⟨first, rest, rfl, String.toList_ofList, hnul⟩

theorem split_buildWindowsCommandLine (h : buildWindowsCommandLine argv = .ok line) :
    (split line.toList).map String.ofList = argv ↔ FirstSurvives argv := by
  obtain ⟨first, rest, rfl, hline, -⟩ := buildWindowsCommandLine_eq_ok h
  have hinjective : (split line.toList).map String.ofList = first :: rest ↔
      split line.toList = first.toList :: rest.map String.toList := by
    constructor
    · intro hsplit
      have hback := congrArg (List.map String.toList) hsplit
      simpa [List.map_map, Function.comp_def] using hback
    · intro hsplit
      rw [hsplit]
      simp [List.map_map, Function.comp_def]
  rw [hinjective, hline, split_quoted_tail]
  simp [FirstSurvives]

theorem parseWindowsCommandLine_build {host : WindowsHost} (hhost : host.Documented)
    (h : buildWindowsCommandLine argv = .ok line) :
    parseWindowsCommandLine host line = .ok ((split line.toList).map String.ofList) := by
  obtain ⟨first, rest, rfl, hline, hnul⟩ := buildWindowsCommandLine_eq_ok h
  have hall : nul ∉ line.toList := by
    rw [hline, List.mem_append, tail, List.mem_flatMap]
    rintro (hmem | ⟨argument, hargument, hmem⟩)
    · exact nul_notMem_quoted (hnul first (List.mem_cons_self ..)) hmem
    · obtain ⟨text, htext, rfl⟩ := List.mem_map.mp hargument
      rcases List.mem_cons.mp hmem with hblank | hmem
      · exact absurd hblank (by decide)
      · exact nul_notMem_quoted (hnul text (List.mem_cons_of_mem _ htext)) hmem
  have hne : line.toList ≠ [] := by
    rw [hline]
    exact List.append_ne_nil_of_left_ne_nil (quoted_ne_nil _) _
  simp [parseWindowsCommandLine, hhost.isWindows, hall, hhost.splits line hne, Except.mapError]

/-- A built line is read back as the list it was built from exactly when the first argument survives
the program-name rule. -/
theorem windows_line_round_trip {host : WindowsHost} (hhost : host.Documented)
    (argv : List String) (line : String) :
    (buildWindowsCommandLine argv = .ok line →
      (parseWindowsCommandLine host line = .ok argv ↔ FirstSurvives argv)) ∧
    (buildWindowsArgumentLine argv = .ok line →
      (parseWindowsArgumentLine host line = .ok argv ↔ FirstSurvives argv)) := by
  have hprogram : buildWindowsCommandLine argv = .ok line →
      (parseWindowsCommandLine host line = .ok argv ↔ FirstSurvives argv) := by
    intro h
    rw [parseWindowsCommandLine_build hhost h, Except.ok.injEq, split_buildWindowsCommandLine h]
  refine ⟨hprogram, fun h => ?_⟩
  -- the argument line is the command line unless it is empty
  cases argv with
  | nil =>
      cases h
      exact iff_of_true rfl fun first hfirst => by cases hfirst
  | cons first rest =>
      rw [buildWindowsArgumentLine, if_neg (List.cons_ne_nil _ _)] at h
      obtain ⟨_, _, -, hline, -⟩ := buildWindowsCommandLine_eq_ok h
      have hne : line ≠ "" := by
        rintro rfl
        exact List.append_ne_nil_of_left_ne_nil (quoted_ne_nil _) _ hline.symm
      rw [parseWindowsArgumentLine, if_neg hne]
      exact hprogram h

def documentedHost : WindowsHost where
  osName := "nt"
  commandLineToArgvW line := .ok ((split line.toList).map String.ofList)

theorem documentedHost_documented : documentedHost.Documented where
  isWindows := rfl
  splits _ _ := rfl

theorem windows_line_round_trip_copy :
    parseWindowsCommandLine documentedHost
          "robocopy.exe \"C:\\My Photos\\\\\" \"a\\\"b\" \"\"" =
        .ok ["robocopy.exe", "C:\\My Photos\\", "a\"b", ""] ∧
      parseWindowsArgumentLine documentedHost "--run \"C:\\My Photos\\\\\"" =
        .ok ["--run", "C:\\My Photos\\"] :=
  ⟨((windows_line_round_trip documentedHost_documented _ _).1 (by decide +kernel)).mpr
      (by decide +kernel),
    ((windows_line_round_trip documentedHost_documented _ _).2 (by decide +kernel)).mpr
      (by decide +kernel)⟩

/-- As the first argument, a folder with a blank in its name and a backslash at its end comes
back with two backslashes. -/
theorem trailing_backslash_doubled :
    documentedHost.Documented ∧
      buildWindowsArgumentLine ["C:\\My Photos\\"] = .ok "\"C:\\My Photos\\\\\"" ∧
      parseWindowsArgumentLine documentedHost "\"C:\\My Photos\\\\\"" =
        .ok ["C:\\My Photos\\\\"] ∧
      parseWindowsArgumentLine documentedHost "\"C:\\My Photos\\\\\"" ≠
        .ok ["C:\\My Photos\\"] :=
  ⟨documentedHost_documented, by decide +kernel, by decide +kernel, by decide +kernel⟩

end MediaSync.Transfers
