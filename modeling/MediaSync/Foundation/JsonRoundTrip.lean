import MediaSync.Foundation.JsonText

/-! The parser inverts the writer: a text that was written is read as the value, with the fields of
each object in the order of their names. -/
namespace MediaSync.Json

section

theorem hexValue_digit {k : Nat} (h : k < 16) :
    hexValue ("0123456789abcdef".toList.getD k '0') = some k := by
  have hall : ∀ k, k < 16 → hexValue ("0123456789abcdef".toList.getD k '0') = some k := by decide
  exact hall k h

theorem readUnit_hexDigits {n : Nat} (h : n < 65536) (rest : List Char) :
    readUnit ((hexDigits n).toList ++ rest) = some (n, rest) := by
  have hdigit : ∀ k, hexValue ("0123456789abcdef".toList.getD (k % 16) '0') = some (k % 16) :=
    fun k => hexValue_digit (Nat.mod_lt _ (by decide))
  simp only [hexDigits, String.toList_ofList, List.cons_append, List.nil_append, readUnit, hdigit,
    Option.bind_eq_bind, Option.bind_some, pure, Option.some.injEq, Prod.mk.injEq, and_true]
  omega

theorem ofNat_toNat_of_lt {c : Char} : ¬ (0xD800 ≤ c.toNat ∧ c.toNat < 0xE000) := by
  have hvalid := c.valid
  rintro ⟨hlow, hhigh⟩
  rcases hvalid with hsmall | ⟨hlarge, -⟩
  · exact absurd hsmall (by show ¬ c.toNat < 0xD800; omega)
  · exact absurd hlarge (by show ¬ 0xDFFF < c.toNat; omega)

theorem toNat_lt (c : Char) : c.toNat < 0x110000 := by
  have hvalid := c.valid
  rcases hvalid with hsmall | ⟨-, hlarge⟩
  · have hsmall : c.toNat < 0xD800 := hsmall
    omega
  · exact hlarge

variable {c : Char}

theorem readCode_hexDigits (h : c.toNat < 65536) (rest : List Char) :
    readCode ((hexDigits c.toNat).toList ++ rest) = some (c, rest) := by
  have hnot := @ofNat_toNat_of_lt c
  unfold readCode
  rw [readUnit_hexDigits h]
  simp only [Option.bind_eq_bind, Option.bind_some]
  rw [if_neg (by omega), if_neg (by omega), Char.ofNat_toNat]
  rfl

theorem readLowSurrogate_hexDigits {high low : Nat} (h : low < 1024) (rest : List Char) :
    readLowSurrogate (55296 + high) ('\\' :: 'u' :: ((hexDigits (56320 + low)).toList ++ rest)) =
      some (Char.ofNat (65536 + high * 1024 + low), rest) := by
  have hread := readUnit_hexDigits (by omega : 56320 + low < 65536) rest
  have hrange : 0xDC00 ≤ 56320 + low ∧ 56320 + low < 0xE000 := by omega
  have hhigh : 55296 + high - 0xD800 = high := Nat.add_sub_cancel_left _ _
  have hlow : 56320 + low - 0xDC00 = low := Nat.add_sub_cancel_left _ _
  rw [readLowSurrogate, hread, Option.bind_eq_bind, Option.bind_some]
  simp only [if_pos hrange, hhigh, hlow]
  rfl

theorem readCode_surrogates (h : 65536 ≤ c.toNat) (rest : List Char) :
    readCode ((hexDigits (55296 + (c.toNat - 65536) / 1024)).toList ++ '\\' :: 'u' ::
      ((hexDigits (56320 + (c.toNat - 65536) % 1024)).toList ++ rest)) = some (c, rest) := by
  have hlt := toNat_lt c
  generalize hhigh : (c.toNat - 65536) / 1024 = high
  generalize hlow : (c.toNat - 65536) % 1024 = low
  have hread := readUnit_hexDigits (by omega : 55296 + high < 65536)
    ('\\' :: 'u' :: ((hexDigits (56320 + low)).toList ++ rest))
  have hrange : 0xD800 ≤ 55296 + high ∧ 55296 + high < 0xDC00 := by omega
  have hvalue : 65536 + high * 1024 + low = c.toNat := by omega
  rw [readCode, hread, Option.bind_eq_bind, Option.bind_some]
  simp only [if_pos hrange]
  rw [readLowSurrogate_hexDigits (by omega), hvalue, Char.ofNat_toNat]

theorem readChar_plain (hslash : c ≠ '\\') (hplain : ¬ c.toNat < 32) (rest : List Char) :
    readChar (c :: rest) = some (c, rest) := by
  unfold readChar
  simp only []
  rw [if_neg hslash, if_neg hplain]

theorem readChar_unit {rest : List Char} : readChar ('\\' :: 'u' :: rest) = readCode rest := rfl

theorem readChar_short {e c : Char} (h : simpleEscape e = some c) (hunit : e ≠ 'u')
    (rest : List Char) : readChar ('\\' :: e :: rest) = some (c, rest) := by
  unfold readChar
  simp only [if_true]
  rw [if_neg hunit, h]
  rfl

theorem eq_ofNat {n : Nat} (h : c.toNat = n) : c = Char.ofNat n := by
  rw [← h, Char.ofNat_toNat]

/-- A way to write characters that `readChar` reads back. -/
structure Escapes (write : Char → String) : Prop where
  reads : ∀ c rest, readChar ((write c).toList ++ rest) = some (c, rest)
  starts : ∀ c, ∃ first more, (write c).toList = first :: more ∧ first ≠ '"'

theorem readChar_short_escape {text : List Char} (rest : List Char)
    (h : c = '"' ∧ text = ['\\', '"'] ∨ c = '\\' ∧ text = ['\\', '\\'] ∨
      c.toNat = 8 ∧ text = ['\\', 'b'] ∨ c.toNat = 9 ∧ text = ['\\', 't'] ∨
      c.toNat = 10 ∧ text = ['\\', 'n'] ∨ c.toNat = 12 ∧ text = ['\\', 'f'] ∨
      c.toNat = 13 ∧ text = ['\\', 'r']) : readChar (text ++ rest) = some (c, rest) := by
  rcases h with ⟨rfl, rfl⟩ | ⟨rfl, rfl⟩ | ⟨hc, rfl⟩ | ⟨hc, rfl⟩ | ⟨hc, rfl⟩ | ⟨hc, rfl⟩ | ⟨hc, rfl⟩
  iterate 2 exact readChar_short rfl (by decide) rest
  all_goals
    rw [eq_ofNat hc]
    exact readChar_short rfl (by decide) rest

theorem toList_toString (c : Char) : c.toString.toList = [c] := String.toList_singleton c

theorem toList_code (digits : String) :
    ("\\u" ++ digits).toList = '\\' :: 'u' :: digits.toList := by
  rw [String.toList_append]
  rfl

theorem readChar_escape (c : Char) (rest : List Char) :
    readChar ((escape c).toList ++ rest) = some (c, rest) := by
  unfold escape
  simp only []
  split_ifs with hquote hslash h8 h9 h10 h12 h13 hplain hbasic
  iterate 7 exact readChar_short_escape rest (by simp_all)
  · rw [toList_toString]
    exact readChar_plain hslash (Nat.not_lt.mpr hplain.1) rest
  · rw [toList_code, List.cons_append, List.cons_append, readChar_unit]
    exact readCode_hexDigits hbasic rest
  · rw [String.toList_append, String.toList_append, toList_code]
    rw [List.append_assoc, List.append_assoc, List.cons_append, List.cons_append, readChar_unit]
    exact readCode_surrogates (Nat.not_lt.mp hbasic) rest

theorem escape_starts (c : Char) :
    ∃ first more, (escape c).toList = first :: more ∧ first ≠ '"' := by
  unfold escape
  simp only []
  split_ifs with hquote hslash h8 h9 h10 h12 h13 hplain hbasic
  iterate 7 exact ⟨'\\', _, rfl, by decide⟩
  · exact ⟨c, [], toList_toString c, hquote⟩
  · exact ⟨'\\', _, toList_code _, by decide⟩
  · rw [String.toList_append, String.toList_append, toList_code]
    exact ⟨'\\', _, rfl, by decide⟩

theorem escape_escapes : Escapes escape := ⟨readChar_escape, escape_starts⟩

theorem escapeUnicode_escapes : Escapes escapeUnicode := by
  constructor
  · intro c rest
    unfold escapeUnicode
    simp only []
    split_ifs with hquote hslash h8 h9 h10 h12 h13 hcontrol
    iterate 7 exact readChar_short_escape rest (by simp_all)
    · rw [toList_code, List.cons_append, List.cons_append, readChar_unit]
      exact readCode_hexDigits (by omega) rest
    · rw [toList_toString]
      exact readChar_plain hslash hcontrol rest
  · intro c
    unfold escapeUnicode
    simp only []
    split_ifs with hquote hslash h8 h9 h10 h12 h13 hcontrol
    iterate 7 exact ⟨'\\', _, rfl, by decide⟩
    · exact ⟨'\\', _, toList_code _, by decide⟩
    · exact ⟨c, [], toList_toString c, hquote⟩

end

section
variable {write : Char → String}

theorem readText_writes (hwrite : Escapes write) (rest : List Char) (chars : List Char) :
    ∀ fuel, chars.length < fuel →
      readText fuel (chars.flatMap (fun c => (write c).toList) ++ '"' :: rest) =
        some (chars, rest) := by
  induction chars with
  | nil =>
    intro fuel hfuel
    obtain ⟨fuel, rfl⟩ := Nat.exists_eq_succ_of_ne_zero (Nat.ne_of_gt hfuel)
    rfl
  | cons c chars ih =>
    intro fuel hfuel
    obtain ⟨fuel, rfl⟩ := Nat.exists_eq_succ_of_ne_zero (Nat.ne_of_gt (Nat.zero_lt_of_lt hfuel))
    have hread := hwrite.reads c (chars.flatMap (fun c => (write c).toList) ++ '"' :: rest)
    obtain ⟨first, more, hfirst, hquote⟩ := hwrite.starts c
    rw [List.flatMap_cons, List.append_assoc]
    rw [hfirst, List.cons_append] at hread ⊢
    rw [readText]
    simp only [if_neg hquote, hread, Option.bind_eq_bind, Option.bind_some,
      ih fuel (Nat.lt_of_succ_lt_succ hfuel)]
    rfl

theorem toList_quoteWith (s : String) :
    (quoteWith write s).toList =
      '"' :: (s.toList.flatMap (fun c => (write c).toList) ++ ['"']) := by
  rw [quoteWith, String.toList_append, String.toList_append, String.toList_join, List.flatMap_map]
  rfl

theorem readText_quoteWith (hwrite : Escapes write) (s : String) (rest : List Char) {fuel : Nat}
    (hfuel : s.toList.length < fuel) :
    readText fuel ((quoteWith write s).toList.tail ++ rest) = some (s.toList, rest) := by
  rw [toList_quoteWith, List.tail_cons, List.append_assoc]
  exact readText_writes hwrite rest s.toList fuel hfuel

theorem length_le_flatMap (hwrite : Escapes write) (chars : List Char) :
    chars.length ≤ (chars.flatMap fun c => (write c).toList).length := by
  induction chars with
  | nil => exact Nat.le_refl 0
  | cons c chars ih =>
    obtain ⟨first, more, hfirst, -⟩ := hwrite.starts c
    rw [List.flatMap_cons, List.length_append, hfirst, List.length_cons, List.length_cons]
    omega

theorem length_quoteWith (hwrite : Escapes write) (s : String) :
    s.toList.length + 2 ≤ (quoteWith write s).toList.length := by
  have hle := length_le_flatMap hwrite s.toList
  rw [toList_quoteWith, List.length_cons, List.length_append, List.length_singleton]
  omega

/-- A number ends before `rest`. -/
def endsNumber (rest : List Char) : Prop := ∀ c, rest.head? = some c → isNumberChar c = false

theorem isNumberChar_of_isDigit {c : Char} (h : c.isDigit = true) : isNumberChar c = true := by
  simp [isNumberChar, h]

variable {token rest : List Char}

theorem takeWhile_token (htoken : ∀ c ∈ token, isNumberChar c = true) (hrest : endsNumber rest) :
    (token ++ rest).takeWhile isNumberChar = token ∧
      (token ++ rest).dropWhile isNumberChar = rest := by
  rw [List.takeWhile_append_of_pos htoken, List.dropWhile_append_of_pos htoken]
  cases rest with
  | nil => exact ⟨List.append_nil _, rfl⟩
  | cons c rest =>
    have hc := hrest c rfl
    rw [List.takeWhile_cons_of_neg (by simp [hc]), List.dropWhile_cons_of_neg (by simp [hc])]
    exact ⟨List.append_nil _, rfl⟩

theorem readAtom_token (htoken : ∀ c ∈ token, isNumberChar c = true) (hne : token ≠ [])
    (hminus : token ≠ ['-']) : readAtom (token ++ rest) = readNumber (token ++ rest) := by
  have hnone : keywords.find? (fun keyword => keyword.1.isPrefixOf (token ++ rest)) = none := by
    refine List.find?_eq_none.mpr fun keyword hkeyword => ?_
    cases token with
    | nil => exact absurd rfl hne
    | cons c token =>
      have hc := htoken c List.mem_cons_self
      have hapart : ∀ d, isNumberChar d = false → (d == c) = false := by
        intro d hd
        refine beq_eq_false_iff_ne.mpr fun heq => ?_
        rw [heq, hc] at hd
        cases hd
      have hn := hapart 'n' (by decide)
      have ht := hapart 't' (by decide)
      have hf := hapart 'f' (by decide)
      have hN := hapart 'N' (by decide)
      have hI := hapart 'I' (by decide)
      simp only [keywords, List.mem_cons, List.not_mem_nil, or_false] at hkeyword
      rcases hkeyword with rfl | rfl | rfl | rfl | rfl | rfl
      iterate 5 simp [List.isPrefixOf, hn, ht, hf, hN, hI]
      cases token with
      | nil =>
        simp only [List.isPrefixOf, List.cons_append, Bool.and_eq_true, not_and]
        intro heq
        exact absurd (by rw [(beq_iff_eq.mp heq)]) hminus
      | cons d token =>
        have hd := htoken d (List.mem_cons_of_mem _ List.mem_cons_self)
        have hI' : ('I' == d) = false := by
          refine beq_eq_false_iff_ne.mpr fun heq => ?_
          rw [← heq] at hd
          cases hd
        simp [List.isPrefixOf, hI']
  rw [readAtom, hnone]

theorem isCount_toDigits (n : Nat) : isCount (Nat.toDigits 10 n) = true := by
  have hdigits : ∀ c ∈ Nat.toDigits 10 n, c.isDigit = true := fun c hc =>
    Nat.isDigit_of_mem_toDigits (by decide) (by decide) hc
  have hhead : ∀ n, 0 < n → (Nat.toDigits 10 n).head? ≠ some '0' := by
    intro n
    induction n using Nat.strongRecOn with
    | _ n ih =>
      intro hpos
      rcases Nat.lt_or_ge n 10 with hsmall | hlarge
      · rw [Nat.toDigits_of_lt_base hsmall]
        have hall : ∀ n < 10, 0 < n → [Nat.digitChar n].head? ≠ some '0' := by decide
        exact hall n hsmall hpos
      · have hdiv : 0 < n / 10 := by omega
        rw [Nat.toDigits_of_base_le (by decide) hlarge, List.head?_append]
        have hne : Nat.toDigits 10 (n / 10) ≠ [] := Nat.toDigits_ne_nil
        have hih := ih (n / 10) (by omega) hdiv
        cases htext : Nat.toDigits 10 (n / 10) with
        | nil => exact absurd htext hne
        | cons c text =>
          rw [htext] at hih
          exact hih
  have hne : Nat.toDigits 10 n ≠ [] := Nat.toDigits_ne_nil
  simp only [isCount, Bool.and_eq_true, Bool.not_eq_true', List.isEmpty_eq_false_iff,
    List.all_eq_true, Bool.or_eq_true, decide_eq_true_eq, bne_iff_ne]
  refine ⟨⟨hne, hdigits⟩, ?_⟩
  rcases Nat.eq_zero_or_pos n with rfl | hpos
  · exact .inl (Nat.toDigits_zero 10)
  · exact .inr (hhead n hpos)

theorem readInt_toString (n : Int) : readInt (toString n).toList = some n ∧
    (∀ c ∈ (toString n).toList, isNumberChar c = true) ∧ (toString n).toList ≠ [] ∧
      (toString n).toList ≠ ['-'] := by
  have hdigits : ∀ m, ∀ c ∈ Nat.toDigits 10 m, c.isDigit = true := fun m c hc =>
    Nat.isDigit_of_mem_toDigits (by decide) (by decide) hc
  cases n with
  | ofNat m =>
    have htext : (toString (Int.ofNat m)).toList = Nat.toDigits 10 m := Nat.toList_repr
    rw [htext]
    have hcount := isCount_toDigits m
    have hne : Nat.toDigits 10 m ≠ [] := Nat.toDigits_ne_nil
    refine ⟨?_, fun c hc => isNumberChar_of_isDigit (hdigits m c hc), hne, fun heq => ?_⟩
    · unfold readInt
      split
      · rename_i digits heq
        have hminus := hdigits m '-' (heq ▸ List.mem_cons_self)
        cases hminus
      · rw [if_pos hcount, Nat.ofDigitChars_ten_toDigits]
        rfl
    · have hminus := hdigits m '-' (heq ▸ List.mem_cons_self)
      cases hminus
  | negSucc m =>
    have htext : (toString (Int.negSucc m)).toList = '-' :: Nat.toDigits 10 (m + 1) := by
      show ("-" ++ Nat.repr (m + 1)).toList = _
      rw [String.toList_append, Nat.toList_repr]
      rfl
    rw [htext]
    have hne : Nat.toDigits 10 (m + 1) ≠ [] := Nat.toDigits_ne_nil
    refine ⟨?_, ?_, List.cons_ne_nil _ _, fun heq => hne (List.cons.inj heq).2⟩
    · rw [readInt, if_pos (isCount_toDigits _), Nat.ofDigitChars_ten_toDigits]
      rfl
    · exact List.forall_mem_cons.mpr ⟨by decide, fun c hc =>
        isNumberChar_of_isDigit (hdigits (m + 1) c hc)⟩

theorem readAtom_int (n : Int) {rest : List Char} (hrest : endsNumber rest) :
    readAtom ((toString n).toList ++ rest) = some (.int n, rest) := by
  obtain ⟨hread, htoken, hne, hminus⟩ := readInt_toString n
  obtain ⟨htake, hdrop⟩ := takeWhile_token htoken hrest
  rw [readAtom_token htoken hne hminus, readNumber, htake, hdrop, hread]

theorem readAtom_float {text : String} (h : isFloatText text = true) {rest : List Char}
    (hrest : endsNumber rest) : readAtom (text.toList ++ rest) = some (.float text, rest) := by
  simp only [isFloatText, Bool.or_eq_true, Bool.and_eq_true, decide_eq_true_eq, List.all_eq_true,
    Option.isNone_iff_eq_none] at h
  rcases h with ((rfl | rfl) | rfl) | ⟨⟨htoken, hint⟩, hfloat⟩
  iterate 3 rfl
  have hne : text.toList ≠ [] := by
    intro heq
    rw [heq] at hfloat
    cases hfloat
  have hminus : text.toList ≠ ['-'] := by
    intro heq
    rw [heq] at hfloat
    cases hfloat
  obtain ⟨htake, hdrop⟩ := takeWhile_token htoken hrest
  rw [readAtom_token htoken hne hminus, readNumber, htake, hdrop, hint]
  simp only [hfloat, if_true, String.ofList_toList]

end

section
variable {write : Char → String}

variable {c : Char}

theorem skip_cons (h : isBlank c = false) (rest : List Char) :
    skip (c :: rest) = c :: rest := List.dropWhile_cons_of_neg (by simp [h])

/-- With enough fuel `readValue` reads `text` as `value`, whatever follows it. -/
structure Reads (text : List Char) (value : Json) : Prop where
  reads : ∀ fuel rest, text.length ≤ fuel → endsNumber rest →
    readValue fuel (text ++ rest) = some (value, rest)
  starts : ∃ c more, text = c :: more ∧ isBlank c = false ∧ c ≠ ']'

theorem Reads.of_readAtom {more : List Char} {value : Json}
    (hread : ∀ rest, endsNumber rest → readAtom (c :: more ++ rest) = some (value, rest))
    (hblank : isBlank c = false) (hquote : c ≠ '"')
    (hopen : c ≠ '[') (hbrace : c ≠ '\x7b') (hclose : c ≠ ']') : Reads (c :: more) value := by
  refine ⟨fun fuel rest hfuel hrest => ?_, c, more, rfl, hblank, hclose⟩
  obtain ⟨fuel, rfl⟩ := Nat.exists_eq_succ_of_ne_zero (Nat.ne_of_gt
    (Nat.lt_of_lt_of_le (Nat.succ_pos _) hfuel))
  have hatom := hread rest hrest
  rw [List.cons_append] at hatom ⊢
  rw [readValue, skip_cons hblank]
  simp only [if_neg hquote, if_neg hopen, if_neg hbrace]
  exact hatom

theorem isNumberChar_apart {c d : Char} (h : isNumberChar c = true)
    (hd : isNumberChar d = false) : c ≠ d := by
  rintro rfl
  rw [h] at hd
  cases hd

theorem isBlank_of_isNumberChar (h : isNumberChar c = true) : isBlank c = false := by
  simp only [isBlank, Bool.or_eq_false_iff, decide_eq_false_iff_not]
  exact ⟨⟨⟨isNumberChar_apart h (by decide), isNumberChar_apart h (by decide)⟩,
    isNumberChar_apart h (by decide)⟩, isNumberChar_apart h (by decide)⟩

theorem Reads.of_token {token : List Char} {value : Json}
    (hread : ∀ rest, endsNumber rest → readAtom (token ++ rest) = some (value, rest))
    (htoken : ∀ c ∈ token, isNumberChar c = true) (hne : token ≠ []) : Reads token value := by
  cases token with
  | nil => exact absurd rfl hne
  | cons c more =>
    have hc := htoken c List.mem_cons_self
    exact .of_readAtom hread (isBlank_of_isNumberChar hc) (isNumberChar_apart hc (by decide))
      (isNumberChar_apart hc (by decide)) (isNumberChar_apart hc (by decide))
      (isNumberChar_apart hc (by decide))

theorem reads_int (n : Int) : Reads (toString n).toList (.int n) := by
  obtain ⟨-, htoken, hne, -⟩ := readInt_toString n
  exact .of_token (fun rest hrest => readAtom_int n hrest) htoken hne

theorem reads_float {text : String} (h : isFloatText text = true) :
    Reads text.toList (.float text) := by
  have hread := fun rest (hrest : endsNumber rest) => readAtom_float h hrest
  simp only [isFloatText, Bool.or_eq_true, Bool.and_eq_true, decide_eq_true_eq, List.all_eq_true,
    Option.isNone_iff_eq_none] at h
  rcases h with ((rfl | rfl) | rfl) | ⟨⟨htoken, hint⟩, hfloat⟩
  iterate 3
    exact .of_readAtom hread (by decide) (by decide) (by decide) (by decide) (by decide)
  refine .of_token hread htoken fun heq => ?_
  rw [heq] at hfloat
  cases hfloat

theorem reads_str (hwrite : Escapes write) (s : String) :
    Reads (quoteWith write s).toList (.str s) := by
  refine ⟨fun fuel rest hfuel _ => ?_, '"', _, toList_quoteWith s, by decide, by decide⟩
  have hlength := length_quoteWith hwrite s
  obtain ⟨fuel, rfl⟩ := Nat.exists_eq_succ_of_ne_zero (by omega : fuel ≠ 0)
  have htext := readText_quoteWith hwrite s rest (by omega : s.toList.length < fuel)
  rw [toList_quoteWith] at htext ⊢
  rw [List.tail_cons] at htext
  rw [List.cons_append, readValue, skip_cons (by decide)]
  simp only [if_true, htext, Option.bind_eq_bind, Option.bind_some, String.ofList_toList]
  rfl

theorem readItems_reads (rest : List Char) (items : List (List Char × Json)) (hne : items ≠ [])
    (hitems : ∀ item ∈ items, Reads item.1 item.2) :
    ∀ fuel, ([','].intercalate (items.map Prod.fst)).length < fuel →
      readItems fuel ([','].intercalate (items.map Prod.fst) ++ ']' :: rest) =
        some (items.map Prod.snd, rest) := by
  induction items with
  | nil => exact absurd rfl hne
  | cons first others ih =>
    intro fuel hfuel
    obtain ⟨fuel, rfl⟩ := Nat.exists_eq_succ_of_ne_zero (Nat.ne_of_gt (Nat.zero_lt_of_lt hfuel))
    have hfirst := (hitems first List.mem_cons_self).reads
    cases others with
    | nil =>
      rw [List.map_singleton, List.intercalate_singleton] at hfuel ⊢
      have hread := hfirst fuel (']' :: rest) (Nat.le_of_lt_succ hfuel) (by
        rintro c ⟨⟩
        decide)
      rw [readItems, hread]
      rfl
    | cons second others =>
      have hrest := ih (List.cons_ne_nil _ _)
        (fun item hitem => hitems item (List.mem_cons_of_mem _ hitem)) fuel
      rw [List.map_cons, List.map_cons, List.intercalate_cons_cons] at hfuel ⊢
      rw [List.map_cons] at hrest
      simp only [List.length_append, List.length_singleton] at hfuel
      have hread := hfirst fuel
        (',' :: ([','].intercalate (second.1 :: others.map Prod.fst) ++ ']' :: rest)) (by omega)
        (by
          rintro c ⟨⟩
          decide)
      rw [List.append_assoc, List.append_assoc, List.singleton_append, readItems, hread]
      simp only [Option.bind_eq_bind, Option.bind_some, skip_cons (by decide : isBlank ',' = false)]
      rw [if_neg (by decide), if_true, hrest (by omega)]
      rfl

/-- A field of an object, its value already written. -/
def fieldText (write : Char → String) (name : String) (text : List Char) : List Char :=
  (quoteWith write name).toList ++ ':' :: text

theorem readFields_reads (hwrite : Escapes write) (rest : List Char)
    (fields : List (String × List Char × Json)) (hne : fields ≠ [])
    (hfields : ∀ field ∈ fields, Reads field.2.1 field.2.2) :
    ∀ fuel, ([','].intercalate (fields.map fun field => fieldText write field.1 field.2.1)).length
        < fuel →
      readFields fuel ([','].intercalate
          (fields.map fun field => fieldText write field.1 field.2.1) ++ '\x7d' :: rest) =
        some (fields.map fun field => (field.1, field.2.2), rest) := by
  induction fields with
  | nil => exact absurd rfl hne
  | cons first others ih =>
    intro fuel hfuel
    obtain ⟨fuel, rfl⟩ := Nat.exists_eq_succ_of_ne_zero (Nat.ne_of_gt (Nat.zero_lt_of_lt hfuel))
    have hfirst := (hfields first List.mem_cons_self).reads
    have hname := length_quoteWith hwrite first.1
    -- what the name and the value of the first field leave
    have hstep : ∀ c after, isBlank c = false → endsNumber (c :: after) →
        first.1.toList.length < fuel → first.2.1.length ≤ fuel →
        readFields (fuel + 1) (fieldText write first.1 first.2.1 ++ c :: after) =
          if c = '\x7d' then some ([(first.1, first.2.2)], after)
          else if c = ',' then
            (readFields fuel after).bind fun left =>
              some ((first.1, first.2.2) :: left.1, left.2)
          else none := by
      intro c after hblank hafter htext hvalue
      have hreadname := readText_quoteWith hwrite first.1 (':' :: (first.2.1 ++ c :: after)) htext
      have hread := hfirst fuel (c :: after) hvalue hafter
      rw [fieldText, List.append_assoc]
      rw [toList_quoteWith] at hreadname ⊢
      rw [List.tail_cons] at hreadname
      rw [List.cons_append, List.cons_append, readFields, skip_cons (by decide)]
      simp only [if_true, hreadname, Option.bind_eq_bind, Option.bind_some,
        skip_cons (by decide : isBlank ':' = false), hread, String.ofList_toList,
        skip_cons hblank]
      rfl
    cases others with
    | nil =>
      rw [List.map_singleton, List.intercalate_singleton] at hfuel ⊢
      have hlength : first.1.toList.length < fuel ∧ first.2.1.length ≤ fuel := by
        simp only [fieldText, List.length_append, List.length_cons] at hfuel
        omega
      rw [hstep _ _ (by decide) (by rintro c ⟨⟩; decide) hlength.1 hlength.2]
      rfl
    | cons second others =>
      have hrest := ih (List.cons_ne_nil _ _)
        (fun field hfield => hfields field (List.mem_cons_of_mem _ hfield)) fuel
      rw [List.map_cons, List.map_cons, List.intercalate_cons_cons] at hfuel ⊢
      rw [List.map_cons] at hrest
      have hlength : first.1.toList.length < fuel ∧ first.2.1.length ≤ fuel ∧
          ([','].intercalate (fieldText write second.1 second.2.1 ::
            others.map fun field => fieldText write field.1 field.2.1)).length < fuel := by
        simp only [List.length_append, List.length_singleton] at hfuel
        have htext : (fieldText write first.1 first.2.1).length =
            (quoteWith write first.1).toList.length + (first.2.1.length + 1) := by
          rw [fieldText, List.length_append, List.length_cons]
        omega
      rw [List.append_assoc, List.append_assoc, List.singleton_append,
        hstep _ _ (by decide) (by rintro c ⟨⟩; decide) hlength.1 hlength.2.1]
      simp only [hrest hlength.2.2]
      rfl

end

section
variable {write : Char → String}

/-- The order of `sort_keys=True`. -/
def sortedFields (fields : List (String × Json)) : List (String × Json) :=
  fields.insertionSort fun a b => a.1 ≤ b.1

theorem perm_sortedFields (fields : List (String × Json)) : (sortedFields fields).Perm fields :=
  List.perm_insertionSort _ fields

theorem canonical_obj (fields : List (String × Json)) :
    canonical (.obj fields) =
      .obj ((sortedFields fields).map fun field => (field.1, field.2.canonical)) := by
  rw [canonical, canonicalFields_eq_map, sortedFields]
  exact congrArg obj (List.map_insertionSort (fun a b : String × Json => a.1 ≤ b.1)
    (fun a b : String × Json => a.1 ≤ b.1) (fun field => (field.1, field.2.canonical)) fields
    fun _ _ _ _ => Iff.rfl).symm

theorem toList_dumpWith_arr (items : List Json) :
    (dumpWith write (.arr items)).toList =
      '[' :: ([','].intercalate (items.map fun item => (dumpWith write item).toList) ++ [']']) := by
  rw [dumpWith, dumpItemsWith_eq_map, String.toList_append, String.toList_append,
    String.toList_intercalate, List.map_map]
  rfl

theorem toList_dumpWith_obj (fields : List (String × Json)) :
    (dumpWith write (.obj fields)).toList =
      '\x7b' :: ([','].intercalate ((sortedFields fields).map fun field =>
        fieldText write field.1 (dumpWith write field.2).toList) ++ ['\x7d']) := by
  have hsorted : (dumpFieldsWith write fields).insertionSort (fun a b => a.1 ≤ b.1) =
      (sortedFields fields).map fun field => (field.1, dumpWith write field.2) := by
    rw [dumpFieldsWith_eq_map, sortedFields]
    exact (List.map_insertionSort (fun a b : String × Json => a.1 ≤ b.1)
      (fun a b : String × String => a.1 ≤ b.1) (fun field => (field.1, dumpWith write field.2))
      fields fun _ _ _ _ => Iff.rfl).symm
  have hfield : ∀ field : String × Json,
      (quoteWith write field.1 ++ ":" ++ dumpWith write field.2).toList =
        fieldText write field.1 (dumpWith write field.2).toList := by
    intro field
    rw [String.toList_append, String.toList_append, fieldText, List.append_assoc]
    rfl
  rw [dumpWith]
  simp only [hsorted]
  rw [String.toList_append, String.toList_append, String.toList_intercalate, List.map_map,
    List.map_map]
  simp only [Function.comp_def, hfield]
  rfl

variable {fields : List (String × Json)}

theorem mapping_eq (h : (fields.map Prod.fst).Nodup) : mapping fields = fields := by
  have hfold : ∀ fields kept : List (String × Json), ((kept ++ fields).map Prod.fst).Nodup →
      fields.foldl (fun payload field => Payload.put payload field.1 field.2) kept =
        kept ++ fields := by
    intro fields
    induction fields with
    | nil => exact fun kept _ => (List.append_nil kept).symm
    | cons field rest ih =>
      intro kept hnodup
      have hnew : kept.any (fun other => other.1 == field.1) = false := by
        refine List.any_eq_false.mpr fun other hother heq => ?_
        rw [List.map_append, List.map_cons] at hnodup
        exact (List.nodup_append.mp hnodup).2.2 other.1 (List.mem_map_of_mem hother) field.1
          List.mem_cons_self (beq_iff_eq.mp heq)
      have hput : Payload.put kept field.1 field.2 = kept ++ [field] := by
        rw [Payload.put, hnew]
        rfl
      rw [List.foldl_cons, hput, ih _ (by rwa [List.append_assoc]), List.append_assoc]
      rfl
  exact hfold fields [] h

theorem reads_arr {items : List Json}
    (hitems : ∀ item ∈ items, Reads (dumpWith write item).toList item.canonical) :
    Reads (dumpWith write (.arr items)).toList (canonical (.arr items)) := by
  refine ⟨fun fuel rest hfuel _ => ?_, '[', _, toList_dumpWith_arr items, by decide, by decide⟩
  rw [toList_dumpWith_arr] at hfuel ⊢
  simp only [List.length_cons, List.length_append, List.length_nil] at hfuel
  obtain ⟨fuel, rfl⟩ := Nat.exists_eq_succ_of_ne_zero (by omega : fuel ≠ 0)
  have hspec := readItems_reads rest
    (items.map fun item => ((dumpWith write item).toList, item.canonical))
  simp only [List.map_map, Function.comp_def] at hspec
  rw [canonical, canonicalItems_eq_map, List.cons_append, List.append_assoc, readValue,
    skip_cons (by decide)]
  simp only [if_neg (by decide : ¬ '[' = '"'), if_true]
  cases items with
  | nil => rfl
  | cons first others =>
    have hread := hspec (by simp) (by
      intro pair hpair
      obtain ⟨item, hitem, rfl⟩ := List.mem_map.mp hpair
      exact hitems item hitem) fuel (by omega)
    obtain ⟨c, more, htext, hblank, hclose⟩ := (hitems first List.mem_cons_self).starts
    obtain ⟨tail, htail⟩ : ∃ tail, [','].intercalate
        ((first :: others).map fun item => (dumpWith write item).toList) = c :: tail := by
      cases others with
      | nil =>
        rw [List.map_singleton, List.intercalate_singleton]
        exact ⟨more, htext⟩
      | cons second others =>
        rw [List.map_cons, List.map_cons, List.intercalate_cons_cons, htext]
        exact ⟨_, rfl⟩
    rw [htail] at hread ⊢
    have hne : (skip (c :: tail ++ ([']'] ++ rest))).head? ≠ some ']' := by
      rw [List.cons_append, skip_cons hblank]
      exact fun heq => hclose (Option.some.inj heq)
    rw [if_neg hne, List.singleton_append, hread]
    rfl

theorem reads_obj (hwrite : Escapes write) (hnames : (fields.map Prod.fst).Nodup)
    (hfields : ∀ field ∈ fields, Reads (dumpWith write field.2).toList field.2.canonical) :
    Reads (dumpWith write (.obj fields)).toList (canonical (.obj fields)) := by
  refine ⟨fun fuel rest hfuel _ => ?_, '\x7b', _, toList_dumpWith_obj fields, by decide,
    by decide⟩
  rw [toList_dumpWith_obj] at hfuel ⊢
  simp only [List.length_cons, List.length_append, List.length_nil] at hfuel
  obtain ⟨fuel, rfl⟩ := Nat.exists_eq_succ_of_ne_zero (by omega : fuel ≠ 0)
  have hsorted : ∀ field ∈ sortedFields fields,
      Reads (dumpWith write field.2).toList field.2.canonical :=
    fun field hfield => hfields field ((perm_sortedFields fields).mem_iff.mp hfield)
  have hkept : mapping ((sortedFields fields).map fun field => (field.1, field.2.canonical)) =
      (sortedFields fields).map fun field => (field.1, field.2.canonical) := by
    refine mapping_eq ?_
    rw [List.map_map]
    exact ((perm_sortedFields fields).map Prod.fst).nodup_iff.mpr hnames
  have hspec := readFields_reads hwrite rest ((sortedFields fields).map fun field =>
    (field.1, (dumpWith write field.2).toList, field.2.canonical))
  simp only [List.map_map, Function.comp_def] at hspec
  rw [canonical_obj, List.cons_append, List.append_assoc, readValue, skip_cons (by decide)]
  simp only [if_neg (by decide : ¬ '\x7b' = '"'), if_neg (by decide : ¬ '\x7b' = '['), if_true]
  cases hempty : sortedFields fields with
  | nil => rfl
  | cons first others =>
    rw [hempty] at hspec hkept hsorted hfuel
    have hread := hspec (by simp) (by
      intro triple htriple
      obtain ⟨field, hfield, rfl⟩ := List.mem_map.mp htriple
      exact hsorted field hfield) fuel (by omega)
    obtain ⟨tail, htail⟩ : ∃ tail, [','].intercalate ((first :: others).map fun field =>
        fieldText write field.1 (dumpWith write field.2).toList) = '"' :: tail := by
      cases others with
      | nil =>
        rw [List.map_singleton, List.intercalate_singleton, fieldText, toList_quoteWith]
        exact ⟨_, rfl⟩
      | cons second others =>
        rw [List.map_cons, List.map_cons, List.intercalate_cons_cons, fieldText, toList_quoteWith]
        exact ⟨_, rfl⟩
    rw [htail] at hread ⊢
    have hne : (skip ('"' :: tail ++ (['\x7d'] ++ rest))).head? ≠ some '\x7d' := by
      rw [List.cons_append, skip_cons (by decide)]
      exact fun heq => absurd (Option.some.inj heq) (by decide)
    rw [if_neg hne, List.singleton_append, hread]
    simp only [Option.bind_eq_bind, Option.bind_some, hkept]
    rfl

theorem reads_null : Reads ['n', 'u', 'l', 'l'] .null :=
  .of_readAtom (fun _ _ => rfl) (by decide) (by decide) (by decide) (by decide) (by decide)

theorem reads_true : Reads ['t', 'r', 'u', 'e'] (.bool true) :=
  .of_readAtom (fun _ _ => rfl) (by decide) (by decide) (by decide) (by decide) (by decide)

theorem reads_false : Reads ['f', 'a', 'l', 's', 'e'] (.bool false) :=
  .of_readAtom (fun _ _ => rfl) (by decide) (by decide) (by decide) (by decide) (by decide)

theorem reads_dumpWith (hwrite : Escapes write) (value : Json) :
    value.distinct = true → Reads (dumpWith write value).toList value.canonical := by
  induction value using induction with
  | null =>
    intro _
    simp only [dumpWith, canonical]
    exact reads_null
  | bool b =>
    intro _
    simp only [dumpWith, canonical]
    cases b with
    | false => exact reads_false
    | true => exact reads_true
  | int n => exact fun _ => by simpa only [dumpWith, canonical] using reads_int n
  | float text => exact fun h => by simpa only [dumpWith, canonical] using reads_float h
  | str s => exact fun _ => by simpa only [dumpWith, canonical] using reads_str hwrite s
  | arr items ih =>
    intro h
    rw [distinct, distinctItems_iff] at h
    exact reads_arr fun item hitem => ih item hitem (h item hitem)
  | obj fields ih =>
    intro h
    rw [distinct, Bool.and_eq_true, decide_eq_true_eq, distinctFields_iff] at h
    exact reads_obj hwrite h.1 fun field hfield => ih field hfield (h.2 field hfield)

theorem loads_dumpWith (hwrite : Escapes write) {value : Json} (h : value.distinct = true) :
    loads (dumpWith write value) = some value.canonical := by
  have hread := (reads_dumpWith hwrite value h).reads ((dumpWith write value).toList.length + 1) []
    (Nat.le_succ _) (fun c hc => by cases hc)
  rw [List.append_nil] at hread
  rw [loads, hread]
  rfl

theorem dumpWith_injective (hwrite : Escapes write) {value other : Json}
    (h : value.distinct = true) (h' : other.distinct = true)
    (heq : dumpWith write value = dumpWith write other) : value.canonical = other.canonical :=
  Option.some.inj (by rw [← loads_dumpWith hwrite h, heq, loads_dumpWith hwrite h'])

instance : Std.Total fun a b : String × Json => a.1 ≤ b.1 :=
  ⟨fun a b => String.le_total a.1 b.1⟩

instance : IsTrans (String × Json) fun a b => a.1 ≤ b.1 := ⟨fun _ _ _ => String.le_trans⟩

theorem dumpWith_canonical (value : Json) :
    dumpWith write value.canonical = dumpWith write value := by
  refine String.toList_injective ?_
  induction value using induction with
  | null | bool b | int n | float text | str s => simp only [canonical]
  | arr items ih =>
    rw [canonical, canonicalItems_eq_map, toList_dumpWith_arr, toList_dumpWith_arr, List.map_map]
    exact congrArg (fun texts => '[' :: ([','].intercalate texts ++ [']']))
      (List.map_congr_left ih)
  | obj fields ih =>
    have hsorted : sortedFields ((sortedFields fields).map fun field =>
        (field.1, field.2.canonical)) =
        (sortedFields fields).map fun field => (field.1, field.2.canonical) := by
      refine List.Pairwise.insertionSort_eq ?_
      exact List.pairwise_map.mpr (List.pairwise_insertionSort _ fields)
    rw [canonical_obj, toList_dumpWith_obj, toList_dumpWith_obj, hsorted, List.map_map]
    refine congrArg (fun texts => '\x7b' :: ([','].intercalate texts ++ ['\x7d']))
      (List.map_congr_left fun field hfield => ?_)
    exact congrArg (fieldText write field.1)
      (ih field ((perm_sortedFields fields).mem_iff.mp hfield))

theorem eq_of_perm_of_names {β : Type} {fields others : List (String × β)}
    (hperm : fields.Perm others) (hnames : fields.map Prod.fst = others.map Prod.fst)
    (hnodup : (fields.map Prod.fst).Nodup) : fields = others := by
  induction fields generalizing others with
  | nil => exact (List.nil_perm.mp hperm).symm
  | cons field rest ih =>
    cases others with
    | nil => exact absurd hperm.eq_nil (List.cons_ne_nil _ _)
    | cons other others =>
      obtain ⟨hname, hrest⟩ := List.cons.inj hnames
      obtain ⟨hnew, hnodup⟩ := List.nodup_cons.mp hnodup
      have hfield : field = other := by
        rcases List.mem_cons.mp (hperm.mem_iff.mp List.mem_cons_self) with heq | hold
        · exact heq
        · exact absurd (hrest ▸ List.mem_map_of_mem hold) hnew
      subst hfield
      rw [ih ((List.perm_cons _).mp hperm) hrest hnodup]

theorem canonical_obj_eq {fields others : List (String × Json)}
    (h : canonical (.obj fields) = canonical (.obj others))
    (hnames : fields.map Prod.fst = others.map Prod.fst) (hnodup : (fields.map Prod.fst).Nodup) :
    fields.map (fun field => field.2.canonical) = others.map fun field => field.2.canonical := by
  have hfst : ∀ list : List (String × Json),
      (list.map fun field => (field.1, field.2.canonical)).map Prod.fst = list.map Prod.fst := by
    intro list
    rw [List.map_map]
    rfl
  have hsnd : ∀ list : List (String × Json),
      (list.map fun field => (field.1, field.2.canonical)).map Prod.snd =
        list.map fun field => field.2.canonical := by
    intro list
    rw [List.map_map]
    rfl
  rw [canonical_obj, canonical_obj] at h
  have hperm : (fields.map fun field => (field.1, field.2.canonical)).Perm
      (others.map fun field => (field.1, field.2.canonical)) := by
    refine ((perm_sortedFields fields).map _).symm.trans ?_
    rw [Json.obj.inj h]
    exact (perm_sortedFields others).map _
  have heq := eq_of_perm_of_names hperm (by rw [hfst, hfst, hnames]) (by rwa [hfst])
  rw [← hsnd, ← hsnd, heq]

end

end MediaSync.Json
