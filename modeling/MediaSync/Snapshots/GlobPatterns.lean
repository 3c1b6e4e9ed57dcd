import MediaSync.Foundation.CaseFolding
import MediaSync.Foundation.Globs
import MediaSync.Snapshots.Filters

/-! The expression of a glob is a list of pieces, and a text matches where it can be cut into parts
that the pieces stand for. -/
namespace MediaSync.Snapshots
open Globs

def GlobPart.StandsFor : GlobPart → List Char → Prop
  | .anyDirectories, text => text = [] ∨ text.getLast? = some '/'
  | .anyText, _ => True
  | .anyName, text => '/' ∉ text
  | .oneCharacter, text => ∃ c, c ≠ '/' ∧ text = [c]
  | .literal c, text => text = [c]
  | .selfOrBelow, text => text = [] ∨ text.head? = some '/'

def Denotes : List GlobPart → List Char → Prop
  | [], text => text = []
  | part :: parts, text => ∃ front back, text = front ++ back ∧ part.StandsFor front ∧
      Denotes parts back

variable {text back : List Char}

theorem mem_take_tails_iff :
    back ∈ text.tails.take ((text.takeWhile fun c => c != '/').length + 1) ↔
      ∃ front, text = front ++ back ∧ '/' ∉ front := by
  induction text with
  | nil =>
    show back ∈ [[]] ↔ _
    constructor
    · intro h
      obtain rfl := List.mem_singleton.mp h
      exact ⟨[], rfl, List.not_mem_nil⟩
    · rintro ⟨front, h, -⟩
      rw [(List.append_eq_nil_iff.mp h.symm).2]
      exact List.mem_singleton_self _
  | cons c rest ih =>
    rw [List.tails_cons, List.take_succ_cons, List.mem_cons]
    by_cases hc : c = '/'
    · rw [List.takeWhile_cons_of_neg (by simpa using hc), List.length_nil, List.take_zero]
      constructor
      · rintro (rfl | hnone)
        · exact ⟨[], rfl, List.not_mem_nil⟩
        · exact absurd hnone List.not_mem_nil
      · rintro ⟨front, h, hslash⟩
        cases front with
        | nil => exact .inl h.symm
        | cons d front =>
          refine absurd ?_ hslash
          rw [← (List.cons.inj h).1, hc]
          exact List.mem_cons_self
    · rw [List.takeWhile_cons_of_pos (by simpa using hc), List.length_cons, ih]
      constructor
      · rintro (rfl | ⟨front, rfl, hslash⟩)
        · exact ⟨[], rfl, List.not_mem_nil⟩
        · exact ⟨c :: front, rfl, by simp [hslash, Ne.symm hc]⟩
      · rintro ⟨front, h, hslash⟩
        cases front with
        | nil => exact .inl h.symm
        | cons d front =>
          exact .inr ⟨front, (List.cons.inj h).2, fun hmem => hslash (List.mem_cons_of_mem _ hmem)⟩

theorem GlobPart.mem_rests_iff {part : GlobPart} :
    back ∈ part.rests text ↔ ∃ front, text = front ++ back ∧ part.StandsFor front := by
  cases part with
  | anyDirectories =>
    simp only [rests, StandsFor, List.mem_cons, List.mem_filterMap, List.mem_tails]
    constructor
    · rintro (rfl | ⟨rest, ⟨front, hfront⟩, hrest⟩)
      · exact ⟨[], rfl, .inl rfl⟩
      -- what is skipped ends in a slash
      · split_ifs at hrest with hslash
        obtain ⟨c, more, rfl⟩ : ∃ c more, rest = c :: more := by
          cases rest with
          | nil => cases hslash
          | cons c more => exact ⟨c, more, rfl⟩
        cases hrest
        cases hslash
        exact ⟨front ++ ['/'], by simp [← hfront], .inr (by simp)⟩
    · rintro ⟨front, rfl, rfl | hlast⟩
      · exact .inl rfl
      · refine .inr ⟨'/' :: back, ⟨front.dropLast, ?_⟩, if_pos rfl⟩
        rw [← List.dropLast_append_getLast? '/' hlast]
        simp
  | anyText =>
    simp only [rests, StandsFor, List.mem_tails, and_true]
    constructor
    · rintro ⟨front, h⟩
      exact ⟨front, h.symm⟩
    · rintro ⟨front, h⟩
      exact ⟨front, h.symm⟩
  | anyName => exact mem_take_tails_iff
  | oneCharacter =>
    simp only [rests, StandsFor]
    cases text with
    | nil => simp
    | cons c rest =>
      by_cases hc : c = '/'
      · simp [hc]
      · simp [hc]
        grind
  | literal d =>
    simp only [rests, StandsFor]
    cases text with
    | nil => simp
    | cons c rest =>
      by_cases hc : c = d
      · simp [hc, eq_comm]
      · simp [hc]
  | selfOrBelow =>
    simp only [rests, StandsFor, List.mem_cons]
    cases text with
    | nil => simp
    | cons c rest =>
      by_cases hc : c = '/'
      · subst hc
        simp only [List.head?_cons, if_true, List.tail_cons, List.mem_tails]
        constructor
        · rintro (rfl | ⟨front, rfl⟩)
          · exact ⟨[], rfl, .inl rfl⟩
          · exact ⟨'/' :: front, rfl, .inr rfl⟩
        · rintro ⟨front, htext, rfl | hhead⟩
          · exact .inl htext.symm
          · cases front with
            | nil => cases hhead
            | cons e front => exact .inr ⟨front, (List.cons.inj htext).2.symm⟩
      · have hne : (c :: rest).head? ≠ some '/' := fun h => hc (Option.some.inj h)
        simp only [if_neg hne, List.not_mem_nil, or_false]
        constructor
        · rintro rfl
          exact ⟨[], rfl, .inl rfl⟩
        · rintro ⟨front, htext, rfl | hhead⟩
          · exact htext.symm
          · cases front with
            | nil => cases hhead
            | cons e front => exact absurd ((List.cons.inj htext).1.trans
                (Option.some.inj hhead)) hc

theorem fullmatch_iff {parts : List GlobPart} {text : List Char} :
    fullmatch parts text = true ↔ Denotes parts text := by
  induction parts generalizing text with
  | nil => exact List.isEmpty_iff
  | cons part parts ih =>
    rw [fullmatch, List.any_eq_true, Denotes]
    constructor
    · rintro ⟨back, hback, hmatch⟩
      obtain ⟨front, htext, hfront⟩ := GlobPart.mem_rests_iff.mp hback
      exact ⟨front, back, htext, hfront, ih.mp hmatch⟩
    · rintro ⟨front, back, htext, hfront, hback⟩
      exact ⟨back, GlobPart.mem_rests_iff.mpr ⟨front, htext, hfront⟩, ih.mpr hback⟩

theorem denotes_append_iff {parts more : List GlobPart} {text : List Char} :
    Denotes (parts ++ more) text ↔
      ∃ front back, text = front ++ back ∧ Denotes parts front ∧ Denotes more back := by
  induction parts generalizing text with
  | nil =>
    constructor
    · exact fun h => ⟨[], text, rfl, rfl, h⟩
    · rintro ⟨-, back, rfl, rfl, hback⟩
      exact hback
  | cons part parts ih =>
    simp only [List.cons_append, Denotes, ih]
    constructor
    · rintro ⟨first, -, rfl, hfirst, front, back, rfl, hfront, hback⟩
      exact ⟨first ++ front, back, (List.append_assoc _ _ _).symm,
        ⟨first, front, rfl, hfirst, hfront⟩, hback⟩
    · rintro ⟨-, back, rfl, ⟨first, front, rfl, hfirst, hfront⟩, hback⟩
      exact ⟨first, front ++ back, List.append_assoc _ _ _, hfirst, front, back, rfl, hfront, hback⟩

theorem denotes_globExpression_iff {pattern text : List Char} :
    Denotes (globExpression pattern) text ↔ PieceMatches pattern text := by
  fun_induction globExpression pattern generalizing text with
  | case1 rest ih => simp only [Denotes, GlobPart.StandsFor, ih, PieceMatches.directories_iff]
  | case2 rest hslash ih =>
    have hhead : rest.head? ≠ some '/' := by
      cases rest with
      | nil => exact fun h => by cases h
      | cons c more =>
        intro h
        obtain rfl := Option.some.inj h
        exact hslash more rfl
    simp only [Denotes, GlobPart.StandsFor, ih, PieceMatches.anyText_iff hhead, true_and]
  | case3 rest hslash hstar ih =>
    have hhead : rest.head? ≠ some '*' := by
      cases rest with
      | nil => exact fun h => by cases h
      | cons c more =>
        intro h
        obtain rfl := Option.some.inj h
        exact hstar more rfl
    simp only [Denotes, GlobPart.StandsFor, ih, PieceMatches.anyName_iff hhead]
  | case4 rest ih =>
    simp only [Denotes, GlobPart.StandsFor, ih, PieceMatches.one_iff]
    constructor
    · rintro ⟨-, back, rfl, ⟨c, hc, rfl⟩, hback⟩
      exact ⟨c, back, rfl, hc, hback⟩
    · rintro ⟨c, back, rfl, hc, hback⟩
      exact ⟨[c], back, rfl, ⟨c, hc, rfl⟩, hback⟩
  | case5 c rest _ _ hstar hone ih =>
    rw [PieceMatches.literal_iff hstar hone]
    simp only [Denotes, GlobPart.StandsFor, ih]
    constructor
    · rintro ⟨-, back, rfl, rfl, hback⟩
      exact ⟨back, rfl, hback⟩
    · rintro ⟨back, rfl, hback⟩
      exact ⟨[c], back, rfl, rfl, hback⟩
  | case6 => rw [Denotes, PieceMatches.nil_iff]

def normalizedGlob (host : FilterHost) (pattern : String) : List Char :=
  (host.casefold (String.ofList (pattern.toList.map fun c => if c = '\\' then '/' else c))).toList

/-- `normalized.endswith("/**")`. -/
def endsInStars (pattern : List Char) : Bool := ['*', '*', '/'].isPrefixOf pattern.reverse

/-- The pattern without `/**` at its end and the slashes before. -/
def globBase (pattern : List Char) : List Char :=
  ((pattern.reverse.drop 3).dropWhile fun c => c == '/').reverse

def globBody (pattern : List Char) : List Char :=
  if endsInStars pattern then globBase pattern else pattern

/-- What a pattern stands for, segment by segment; with `/**` at its end, the directories of the
rest and all below. -/
def GlobMatches (pattern path : List Char) : Prop :=
  if endsInStars pattern then
    ∃ directory below, path.splitOn '/' = directory ++ below ∧
      PathMatches ((globBase pattern).splitOn '/') directory
  else PathMatches (pattern.splitOn '/') (path.splitOn '/')

def GlobPieces (pattern path : List Char) : Prop :=
  if endsInStars pattern then
    ∃ directory below, path = directory ++ below ∧ (below = [] ∨ below.head? = some '/') ∧
      PieceMatches (globBase pattern) directory
  else PieceMatches pattern path

theorem FilterHost.compileGlob_eq (host : FilterHost) (pattern : String) :
    host.compileGlob pattern =
      if endsInStars (normalizedGlob host pattern) then
        globExpression (globBase (normalizedGlob host pattern)) ++ [.selfOrBelow]
      else globExpression (normalizedGlob host pattern) := by
  rw [compileGlob, endsInStars, globBase, List.reverse_reverse]
  rfl

theorem fullmatch_compileGlob_pieces {host : FilterHost} {pattern : String} {path : List Char} :
    fullmatch (host.compileGlob pattern) path = true ↔
      GlobPieces (normalizedGlob host pattern) path := by
  rw [fullmatch_iff, FilterHost.compileGlob_eq, GlobPieces]
  split
  · rw [denotes_append_iff]
    simp only [denotes_globExpression_iff]
    constructor
    · rintro ⟨directory, -, rfl, hdirectory, below, -, rfl, hbelow, rfl⟩
      exact ⟨directory, below, by rw [List.append_nil], hbelow, hdirectory⟩
    · rintro ⟨directory, below, rfl, hbelow, hdirectory⟩
      exact ⟨directory, below, rfl, hdirectory, below, [], (List.append_nil _).symm, hbelow, rfl⟩
  · exact denotes_globExpression_iff

variable {pattern path : List Char}

theorem pieceMatches_iff_splitOn (h : WholeStars (pattern.splitOn '/')) :
    PieceMatches pattern path ↔ PathMatches (pattern.splitOn '/') (path.splitOn '/') := by
  rw [← pieceMatches_iff_pathMatches (List.splitOn_ne_nil _ _)
    (fun segment hsegment => not_mem_of_mem_splitOn hsegment) h, List.intercalate_splitOn]

theorem globPieces_iff_globMatches (h : WholeStars ((globBody pattern).splitOn '/')) :
    GlobPieces pattern path ↔ GlobMatches pattern path := by
  rw [globBody] at h
  rw [GlobPieces, GlobMatches]
  split
  · rename_i hstars
    rw [if_pos hstars] at h
    constructor
    · rintro ⟨directory, below, rfl, rfl | hbelow, hdirectory⟩
      · exact ⟨directory.splitOn '/', [], by simp, (pieceMatches_iff_splitOn h).mp hdirectory⟩
      · obtain ⟨rest, rfl⟩ : ∃ rest, below = '/' :: rest := by
          cases below with
          | nil => cases hbelow
          | cons c rest =>
            obtain rfl := Option.some.inj hbelow
            exact ⟨rest, rfl⟩
        exact ⟨directory.splitOn '/', rest.splitOn '/', List.splitOn_append_cons_self _ _,
          (pieceMatches_iff_splitOn h).mp hdirectory⟩
    · rintro ⟨directory, below, hsplit, hdirectory⟩
      by_cases hbelow : below = []
      · rw [hbelow, List.append_nil] at hsplit
        exact ⟨path, [], (List.append_nil _).symm, .inl rfl,
          (pieceMatches_iff_splitOn h).mpr (hsplit ▸ hdirectory)⟩
      · obtain ⟨hpath, -⟩ := eq_intercalate_of_splitOn hsplit hdirectory.ne_nil.2 hbelow
        refine ⟨_, _, hpath, .inr rfl, (pieceMatches_iff_splitOn h).mpr ?_⟩
        rwa [List.splitOn_intercalate '/' (fun segment hsegment => not_mem_of_mem_splitOn
          (hsplit ▸ List.mem_append_left _ hsegment)) hdirectory.ne_nil.2]
  · rename_i hstars
    rw [if_neg hstars] at h
    exact pieceMatches_iff_splitOn h

/-- A compiled glob matches as its pattern does piece by piece, and segment by segment where every
`**` of the pattern is a segment of its own. -/
theorem fullmatch_compileGlob_iff (host : FilterHost) (pattern : String) (path : List Char) :
    (fullmatch (host.compileGlob pattern) path = true ↔
      GlobPieces (normalizedGlob host pattern) path) ∧
    (WholeStars ((globBody (normalizedGlob host pattern)).splitOn '/') →
      (fullmatch (host.compileGlob pattern) path = true ↔
        GlobMatches (normalizedGlob host pattern) path)) :=
  ⟨fullmatch_compileGlob_pieces, fun hwhole =>
    fullmatch_compileGlob_pieces.trans (globPieces_iff_globMatches hwhole)⟩

def asciiHost : FilterHost := ⟨Text.asciiFolding.casefold, fun _ _ _ => .unmatched⟩

theorem fullmatch_compileGlob_photos :
    fullmatch (asciiHost.compileGlob "Photos/**/*.jpg") "photos/2024/may/a.jpg".toList = true ↔
      GlobMatches (normalizedGlob asciiHost "Photos/**/*.jpg") "photos/2024/may/a.jpg".toList :=
  (fullmatch_compileGlob_iff asciiHost "Photos/**/*.jpg" _).2 (by decide)

/-- Two stars within a segment match across a slash. -/
theorem stars_cross_slash :
    fullmatch (asciiHost.compileGlob "a**b") "a/b".toList = true ∧
      ¬ GlobMatches (normalizedGlob asciiHost "a**b") "a/b".toList := by
  refine ⟨by decide, fun h => ?_⟩
  have hmatches : PathMatches ["a**b".toList] ["a".toList, "b".toList] := h
  obtain ⟨text, htext, -⟩ := (PathMatches.singleton_iff (by decide)).mp hmatches
  cases htext

end MediaSync.Snapshots
