import Mathlib.Data.List.Basic

/-! What a glob pattern stands for, segment by segment and piece by piece. -/
namespace MediaSync.Globs

def doubleStar : List Char := ['*', '*']

def hasDoubleStar : List Char → Bool
  | '*' :: '*' :: _ => true
  | _ :: rest => hasDoubleStar rest
  | [] => false

/-- `*` stands for any text, `?` for one character, another character for itself. -/
inductive SegmentMatches : List Char → List Char → Prop
  | nil : SegmentMatches [] []
  | star (front : List Char) {pattern text : List Char} :
    SegmentMatches pattern text → SegmentMatches ('*' :: pattern) (front ++ text)
  | one (c : Char) {pattern text : List Char} :
    SegmentMatches pattern text → SegmentMatches ('?' :: pattern) (c :: text)
  | literal {c : Char} {pattern text : List Char} : c ≠ '*' → c ≠ '?' →
    SegmentMatches pattern text → SegmentMatches (c :: pattern) (c :: text)

/-- The components of a path match those of a pattern, where `**` stands for any number. -/
inductive PathMatches : List (List Char) → List (List Char) → Prop
  | name {segment text : List Char} : SegmentMatches segment text → PathMatches [segment] [text]
  | everything (first : List Char) (rest : List (List Char)) :
    PathMatches [doubleStar] (first :: rest)
  | directory {segment text : List Char} {pattern path : List (List Char)} :
    SegmentMatches segment text → PathMatches pattern path →
      PathMatches (segment :: pattern) (text :: path)
  | directories (skipped : List (List Char)) {pattern path : List (List Char)} :
    PathMatches pattern path → PathMatches (doubleStar :: pattern) (skipped ++ path)

/-- A pattern piece by piece: `**/` stands for nothing or for a text that ends in a slash, another
`**` for any text, `*` for a text without slashes. -/
inductive PieceMatches : List Char → List Char → Prop
  | nil : PieceMatches [] []
  | directories {front pattern text : List Char} : front = [] ∨ front.getLast? = some '/' →
    PieceMatches pattern text → PieceMatches ('*' :: '*' :: '/' :: pattern) (front ++ text)
  | anyText (front : List Char) {pattern text : List Char} : pattern.head? ≠ some '/' →
    PieceMatches pattern text → PieceMatches ('*' :: '*' :: pattern) (front ++ text)
  | anyName {front pattern text : List Char} : pattern.head? ≠ some '*' → '/' ∉ front →
    PieceMatches pattern text → PieceMatches ('*' :: pattern) (front ++ text)
  | one {c : Char} {pattern text : List Char} : c ≠ '/' →
    PieceMatches pattern text → PieceMatches ('?' :: pattern) (c :: text)
  | literal {c : Char} {pattern text : List Char} : c ≠ '*' → c ≠ '?' →
    PieceMatches pattern text → PieceMatches (c :: pattern) (c :: text)

variable {pattern path : List (List Char)}

theorem PathMatches.ne_nil (h : PathMatches pattern path) : pattern ≠ [] ∧ path ≠ [] := by
  induction h with
  | name | everything | directory => exact ⟨List.cons_ne_nil _ _, List.cons_ne_nil _ _⟩
  | directories skipped h ih =>
    exact ⟨List.cons_ne_nil _ _, fun hnil => ih.2 (List.append_eq_nil_iff.mp hnil).2⟩

variable {segment : List Char}

theorem PathMatches.singleton_iff {path : List (List Char)} (h : segment ≠ doubleStar) :
    PathMatches [segment] path ↔ ∃ text, path = [text] ∧ SegmentMatches segment text := by
  constructor
  · intro hmatches
    cases hmatches with
    | name hsegment => exact ⟨_, rfl, hsegment⟩
    | everything => exact absurd rfl h
    | directory _ hrest => exact absurd rfl hrest.ne_nil.1
    | directories => exact absurd rfl h
  · rintro ⟨text, rfl, hsegment⟩
    exact .name hsegment

theorem PathMatches.doubleStar_iff {path : List (List Char)} :
    PathMatches [doubleStar] path ↔ path ≠ [] := by
  constructor
  · exact fun h => h.ne_nil.2
  · intro hne
    obtain ⟨first, rest, rfl⟩ := List.exists_cons_of_ne_nil hne
    exact .everything first rest

theorem PathMatches.cons_iff (h : segment ≠ doubleStar) (hne : pattern ≠ []) :
    PathMatches (segment :: pattern) path ↔
      ∃ text rest, path = text :: rest ∧ SegmentMatches segment text ∧
        PathMatches pattern rest := by
  constructor
  · intro hmatches
    cases hmatches with
    | name => exact absurd rfl hne
    | everything => exact absurd rfl h
    | directory hsegment hrest => exact ⟨_, _, rfl, hsegment, hrest⟩
    | directories => exact absurd rfl h
  · rintro ⟨text, rest, rfl, hsegment, hrest⟩
    exact .directory hsegment hrest

theorem PathMatches.doubleStar_cons_iff (hne : pattern ≠ []) :
    PathMatches (doubleStar :: pattern) path ↔
      ∃ skipped rest, path = skipped ++ rest ∧ PathMatches pattern rest := by
  constructor
  · intro hmatches
    cases hmatches with
    | name | everything => exact absurd rfl hne
    | directory hsegment hrest => exact ⟨[_], _, rfl, hrest⟩
    | directories skipped hrest => exact ⟨skipped, _, rfl, hrest⟩
  · rintro ⟨skipped, rest, rfl, hrest⟩
    exact .directories skipped hrest

theorem not_mem_of_mem_splitOn {segment text : List Char} (h : segment ∈ text.splitOn '/') :
    '/' ∉ segment := by
  induction text generalizing segment with
  | nil =>
    rw [List.splitOn_nil] at h
    rw [List.mem_singleton.mp h]
    exact List.not_mem_nil
  | cons c rest ih =>
    obtain ⟨head, tail, hsplit⟩ := List.exists_cons_of_ne_nil (List.splitOn_ne_nil '/' rest)
    rw [hsplit] at ih
    rw [List.splitOn_cons_eq_if_modifyHead, hsplit] at h
    by_cases hc : c = '/'
    · rw [if_pos (beq_iff_eq.mpr hc)] at h
      rcases List.mem_cons.mp h with rfl | h
      · exact List.not_mem_nil
      · exact ih h
    · rw [if_neg (by simpa using hc), List.modifyHead_cons] at h
      rcases List.mem_cons.mp h with rfl | h
      · intro hmem
        rcases List.mem_cons.mp hmem with heq | hmem
        · exact hc heq.symm
        · exact ih List.mem_cons_self hmem
      · exact ih (List.mem_cons_of_mem _ h)

variable {segments others : List (List Char)}

theorem intercalate_append (h : segments ≠ []) (h' : others ≠ []) :
    ['/'].intercalate (segments ++ others) =
      ['/'].intercalate segments ++ '/' :: ['/'].intercalate others := by
  induction segments with
  | nil => exact absurd rfl h
  | cons first rest ih =>
    cases rest with
    | nil =>
      obtain ⟨other, more, rfl⟩ := List.exists_cons_of_ne_nil h'
      simp [List.intercalate_cons_cons]
    | cons second rest =>
      rw [List.cons_append, List.cons_append, List.intercalate_cons_cons, ← List.cons_append,
        ih (List.cons_ne_nil _ _), List.intercalate_cons_cons]
      simp

namespace PieceMatches

variable {pattern text : List Char}

theorem nil_iff : PieceMatches [] text ↔ text = [] := by
  constructor
  · rintro ⟨⟩
    rfl
  · rintro rfl
    exact .nil

theorem directories_iff :
    PieceMatches ('*' :: '*' :: '/' :: pattern) text ↔
      ∃ front back, text = front ++ back ∧ (front = [] ∨ front.getLast? = some '/') ∧
        PieceMatches pattern back := by
  constructor
  · intro h
    cases h with
    | directories hfront hback => exact ⟨_, _, rfl, hfront, hback⟩
    | anyText front hhead => exact absurd rfl hhead
    | anyName hhead => exact absurd rfl hhead
    | literal hstar => exact absurd rfl hstar
  · rintro ⟨front, back, rfl, hfront, hback⟩
    exact .directories hfront hback

theorem anyText_iff (h : pattern.head? ≠ some '/') :
    PieceMatches ('*' :: '*' :: pattern) text ↔
      ∃ front back, text = front ++ back ∧ PieceMatches pattern back := by
  constructor
  · intro hmatches
    cases hmatches with
    | directories => exact absurd rfl h
    | anyText front _ hback => exact ⟨front, _, rfl, hback⟩
    | anyName hhead => exact absurd rfl hhead
    | literal hstar => exact absurd rfl hstar
  · rintro ⟨front, back, rfl, hback⟩
    exact .anyText front h hback

theorem anyName_iff (h : pattern.head? ≠ some '*') :
    PieceMatches ('*' :: pattern) text ↔
      ∃ front back, text = front ++ back ∧ '/' ∉ front ∧ PieceMatches pattern back := by
  constructor
  · intro hmatches
    cases hmatches with
    | directories => exact absurd rfl h
    | anyText => exact absurd rfl h
    | anyName _ hfront hback => exact ⟨_, _, rfl, hfront, hback⟩
    | literal hstar => exact absurd rfl hstar
  · rintro ⟨front, back, rfl, hfront, hback⟩
    exact .anyName h hfront hback

theorem one_iff :
    PieceMatches ('?' :: pattern) text ↔
      ∃ c back, text = c :: back ∧ c ≠ '/' ∧ PieceMatches pattern back := by
  constructor
  · intro hmatches
    cases hmatches with
    | one hc hback => exact ⟨_, _, rfl, hc, hback⟩
    | literal _ hone => exact absurd rfl hone
  · rintro ⟨c, back, rfl, hc, hback⟩
    exact .one hc hback

theorem literal_iff {c : Char} (hstar : c ≠ '*') (hone : c ≠ '?') :
    PieceMatches (c :: pattern) text ↔ ∃ back, text = c :: back ∧ PieceMatches pattern back := by
  constructor
  · intro hmatches
    cases hmatches with
    | directories | anyText | anyName => exact absurd rfl hstar
    | one => exact absurd rfl hone
    | literal _ _ hback => exact ⟨_, rfl, hback⟩
  · rintro ⟨back, rfl, hback⟩
    exact .literal hstar hone hback

end PieceMatches

theorem hasDoubleStar_cons {c : Char} {rest : List Char} :
    hasDoubleStar (c :: rest) = false ↔
      ¬ (c = '*' ∧ rest.head? = some '*') ∧ hasDoubleStar rest = false := by
  by_cases hc : c = '*'
  · subst hc
    cases rest with
    | nil => simp [hasDoubleStar]
    | cons d more =>
      by_cases hd : d = '*'
      · subst hd
        simp [hasDoubleStar]
      · simp [hasDoubleStar, hd]
  · simp [hasDoubleStar, hc]

theorem pieceMatches_append_iff {segment pattern text : List Char}
    (hstars : hasDoubleStar segment = false) :
    PieceMatches (segment ++ '/' :: pattern) text ↔
      ∃ front back, text = front ++ '/' :: back ∧ PieceMatches segment front ∧
        PieceMatches pattern back := by
  induction segment generalizing text with
  | nil =>
    rw [List.nil_append, PieceMatches.literal_iff (by decide) (by decide)]
    simp only [PieceMatches.nil_iff]
    constructor
    · rintro ⟨back, rfl, hback⟩
      exact ⟨[], back, rfl, rfl, hback⟩
    · rintro ⟨front, back, rfl, rfl, hback⟩
      exact ⟨back, rfl, hback⟩
  | cons c rest ih =>
    obtain ⟨hhead, hrest⟩ := hasDoubleStar_cons.mp hstars
    rw [List.cons_append]
    by_cases hstar : c = '*'
    · subst hstar
      have hnext : rest.head? ≠ some '*' := fun h => hhead ⟨rfl, h⟩
      have hlonger : (rest ++ '/' :: pattern).head? ≠ some '*' := by
        cases rest with
        | nil => exact fun h => by cases h
        | cons d more => exact hnext
      simp only [PieceMatches.anyName_iff hlonger, PieceMatches.anyName_iff hnext, ih hrest]
      constructor
      · rintro ⟨first, -, rfl, hfirst, front, back, rfl, hfront, hback⟩
        exact ⟨first ++ front, back, (List.append_assoc _ _ _).symm,
          ⟨first, front, rfl, hfirst, hfront⟩, hback⟩
      · rintro ⟨-, back, rfl, ⟨first, front, rfl, hfirst, hfront⟩, hback⟩
        exact ⟨first, front ++ '/' :: back, List.append_assoc _ _ _, hfirst, front, back, rfl,
          hfront, hback⟩
    by_cases hone : c = '?'
    · subst hone
      simp only [PieceMatches.one_iff, ih hrest]
      constructor
      · rintro ⟨d, -, rfl, hd, front, back, rfl, hfront, hback⟩
        exact ⟨d :: front, back, rfl, ⟨d, front, rfl, hd, hfront⟩, hback⟩
      · rintro ⟨-, back, rfl, ⟨d, front, rfl, hd, hfront⟩, hback⟩
        exact ⟨d, front ++ '/' :: back, rfl, hd, front, back, rfl, hfront, hback⟩
    · simp only [PieceMatches.literal_iff hstar hone, ih hrest]
      constructor
      · rintro ⟨-, rfl, front, back, rfl, hfront, hback⟩
        exact ⟨c :: front, back, rfl, ⟨front, rfl, hfront⟩, hback⟩
      · rintro ⟨-, back, rfl, ⟨front, rfl, hfront⟩, hback⟩
        exact ⟨front ++ '/' :: back, rfl, front, back, rfl, hfront, hback⟩

theorem not_mem_cons {c : Char} {rest : List Char} :
    '/' ∉ c :: rest ↔ '/' ≠ c ∧ '/' ∉ rest := by
  rw [List.mem_cons, not_or]

theorem pieceMatches_segment_iff {segment text : List Char} (hslash : '/' ∉ segment)
    (hstars : hasDoubleStar segment = false) :
    PieceMatches segment text ↔ '/' ∉ text ∧ SegmentMatches segment text := by
  induction segment generalizing text with
  | nil =>
    rw [PieceMatches.nil_iff]
    constructor
    · rintro rfl
      exact ⟨List.not_mem_nil, .nil⟩
    · rintro ⟨-, ⟨⟩⟩
      rfl
  | cons c rest ih =>
    obtain ⟨hhead, hrest⟩ := hasDoubleStar_cons.mp hstars
    obtain ⟨hc, hmore⟩ := not_mem_cons.mp hslash
    by_cases hstar : c = '*'
    · subst hstar
      rw [PieceMatches.anyName_iff fun h => hhead ⟨rfl, h⟩]
      constructor
      · rintro ⟨front, back, rfl, hfront, hback⟩
        obtain ⟨hback, hmatches⟩ := (ih hmore hrest).mp hback
        exact ⟨by simp [hfront, hback], .star front hmatches⟩
      · rintro ⟨htext, hmatches⟩
        cases hmatches with
        | star front hmatches =>
          rw [List.mem_append, not_or] at htext
          obtain ⟨hfront, hback⟩ := htext
          exact ⟨front, _, rfl, hfront, (ih hmore hrest).mpr ⟨hback, hmatches⟩⟩
        | literal hstar => exact absurd rfl hstar
    by_cases hone : c = '?'
    · subst hone
      rw [PieceMatches.one_iff]
      constructor
      · rintro ⟨d, back, rfl, hd, hback⟩
        obtain ⟨hback, hmatches⟩ := (ih hmore hrest).mp hback
        exact ⟨not_mem_cons.mpr ⟨Ne.symm hd, hback⟩, .one d hmatches⟩
      · rintro ⟨htext, hmatches⟩
        cases hmatches with
        | one d hmatches =>
          obtain ⟨hd, hback⟩ := not_mem_cons.mp htext
          exact ⟨d, _, rfl, Ne.symm hd, (ih hmore hrest).mpr ⟨hback, hmatches⟩⟩
        | literal _ hone => exact absurd rfl hone
    · rw [PieceMatches.literal_iff hstar hone]
      constructor
      · rintro ⟨back, rfl, hback⟩
        obtain ⟨hback, hmatches⟩ := (ih hmore hrest).mp hback
        exact ⟨not_mem_cons.mpr ⟨hc, hback⟩, .literal hstar hone hmatches⟩
      · rintro ⟨htext, hmatches⟩
        cases hmatches with
        | star => exact absurd rfl hstar
        | one => exact absurd rfl hone
        | literal _ _ hmatches =>
          exact ⟨_, rfl, (ih hmore hrest).mpr ⟨(not_mem_cons.mp htext).2, hmatches⟩⟩

/-- Every `**` of the segments is a segment of its own. -/
def WholeStars (segments : List (List Char)) : Prop :=
  ∀ segment ∈ segments, segment = doubleStar ∨ hasDoubleStar segment = false

instance (segments : List (List Char)) : Decidable (WholeStars segments) :=
  inferInstanceAs (Decidable (∀ segment ∈ segments,
    segment = doubleStar ∨ hasDoubleStar segment = false))

theorem ne_doubleStar (h : hasDoubleStar segment = false) : segment ≠ doubleStar := by
  rintro rfl
  cases h

theorem eq_intercalate_of_splitOn {text : List Char} (h : text.splitOn '/' = segments ++ others)
    (hne : segments ≠ []) (hne' : others ≠ []) :
    text = ['/'].intercalate segments ++ '/' :: ['/'].intercalate others ∧
      (['/'].intercalate others).splitOn '/' = others := by
  constructor
  · rw [← intercalate_append hne hne', ← h, List.intercalate_splitOn]
  · refine List.splitOn_intercalate '/' (fun segment hsegment => ?_) hne'
    exact not_mem_of_mem_splitOn (h ▸ List.mem_append_right _ hsegment)

theorem pieceMatches_iff_pathMatches {segments : List (List Char)} (hne : segments ≠ [])
    (hslash : ∀ segment ∈ segments, '/' ∉ segment) (hwhole : WholeStars segments)
    {text : List Char} :
    PieceMatches (['/'].intercalate segments) text ↔ PathMatches segments (text.splitOn '/') := by
  induction segments generalizing text with
  | nil => exact absurd rfl hne
  | cons segment rest ih =>
    have hfirst := hslash segment List.mem_cons_self
    cases rest with
    | nil =>
      rw [List.intercalate_singleton]
      -- the last segment, two stars or a name
      rcases hwhole segment List.mem_cons_self with rfl | hstars
      · rw [PathMatches.doubleStar_iff]
        exact ⟨fun _ => List.splitOn_ne_nil _ _, fun _ =>
          (PieceMatches.anyText_iff (fun h => by cases h)).mpr
            ⟨text, [], (List.append_nil text).symm, .nil⟩⟩
      · rw [pieceMatches_segment_iff hfirst hstars,
          PathMatches.singleton_iff (ne_doubleStar hstars)]
        constructor
        · rintro ⟨htext, hmatches⟩
          exact ⟨text, List.splitOn_eq_singleton htext, hmatches⟩
        · rintro ⟨other, hsplit, hmatches⟩
          have hother : text = other := by
            have hback : ['/'].intercalate (text.splitOn '/') = text :=
              List.intercalate_splitOn '/'
            rw [← hback, hsplit, List.intercalate_singleton]
          rw [hother] at hsplit ⊢
          exact ⟨not_mem_of_mem_splitOn (hsplit ▸ List.mem_singleton_self _), hmatches⟩
    | cons second more =>
      have hrest : (second :: more) ≠ [] := List.cons_ne_nil _ _
      have ih := @ih hrest (fun other hother => hslash other (List.mem_cons_of_mem _ hother))
        fun other hother => hwhole other (List.mem_cons_of_mem _ hother)
      have hjoined : ['/'].intercalate (segment :: second :: more) =
          segment ++ '/' :: ['/'].intercalate (second :: more) := by
        have happend := intercalate_append (List.cons_ne_nil segment []) hrest
        rwa [List.intercalate_singleton] at happend
      rw [hjoined]
      rcases hwhole segment List.mem_cons_self with rfl | hstars
      · show PieceMatches ('*' :: '*' :: '/' :: _) text ↔ _
        rw [PieceMatches.directories_iff, PathMatches.doubleStar_cons_iff hrest]
        constructor
        · rintro ⟨front, back, rfl, rfl | hlast, hback⟩
          · exact ⟨[], _, rfl, ih.mp hback⟩
          · refine ⟨front.dropLast.splitOn '/', back.splitOn '/', ?_, ih.mp hback⟩
            rw [← List.splitOn_append_cons_self, ← List.singleton_append, ← List.append_assoc,
              List.dropLast_append_getLast? '/' hlast]
        · rintro ⟨skipped, path, hsplit, hpath⟩
          by_cases hskipped : skipped = []
          · rw [hskipped, List.nil_append] at hsplit
            exact ⟨[], text, rfl, .inl rfl, ih.mpr (hsplit ▸ hpath)⟩
          · obtain ⟨htext, hback⟩ := eq_intercalate_of_splitOn hsplit hskipped hpath.ne_nil.2
            refine ⟨['/'].intercalate skipped ++ ['/'], ['/'].intercalate path, ?_,
              .inr (by simp), ih.mpr (by rwa [hback])⟩
            rw [htext, List.append_assoc, List.singleton_append]
      · rw [pieceMatches_append_iff hstars, PathMatches.cons_iff (ne_doubleStar hstars) hrest]
        constructor
        · rintro ⟨front, back, rfl, hfront, hback⟩
          obtain ⟨hfront, hmatches⟩ := (pieceMatches_segment_iff hfirst hstars).mp hfront
          exact ⟨front, back.splitOn '/', List.splitOn_append_cons_self_of_not_mem hfront _,
            hmatches, ih.mp hback⟩
        · rintro ⟨front, path, hsplit, hmatches, hpath⟩
          have hfront : '/' ∉ front :=
            not_mem_of_mem_splitOn (hsplit ▸ List.mem_cons_self)
          rw [← List.singleton_append] at hsplit
          obtain ⟨htext, hback⟩ :=
            eq_intercalate_of_splitOn hsplit (List.cons_ne_nil _ _) hpath.ne_nil.2
          rw [List.intercalate_singleton] at htext
          exact ⟨front, _, htext, (pieceMatches_segment_iff hfirst hstars).mpr ⟨hfront, hmatches⟩,
            ih.mpr (by rwa [hback])⟩

end MediaSync.Globs
