import Mathlib.Algebra.GroupWithZero.Nat
import MediaSync.Foundation.JsonRoundTrip

/-! Documents with one canonical value a line. -/
namespace MediaSync.Json

def line (value : Json) : List Char := (dump value).toList ++ ['\n']

/-- `document.splitlines(keepends=True)` of bytes. -/
def splitLines : List Char → List (List Char)
  | [] => []
  | '\n' :: rest => ['\n'] :: splitLines rest
  | '\r' :: '\n' :: rest => ['\r', '\n'] :: splitLines rest
  | '\r' :: rest => ['\r'] :: splitLines rest
  | c :: rest =>
    match splitLines rest with
    | [] => [[c]]
    | first :: others => (c :: first) :: others

def isPrintable (c : Char) : Bool := 32 ≤ c.toNat && c.toNat < 127

def Printable (text : List Char) : Prop := ∀ c ∈ text, isPrintable c = true

theorem Printable.of_all {text : List Char} (h : text.all isPrintable = true) : Printable text :=
  List.all_eq_true.mp h

theorem Printable.append {text more : List Char} (h : Printable text) (hmore : Printable more) :
    Printable (text ++ more) := fun c hc => (List.mem_append.mp hc).elim (h c) (hmore c)

theorem Printable.cons {c : Char} {text : List Char} (hc : isPrintable c = true)
    (h : Printable text) : Printable (c :: text) := fun d hd => by
  rcases List.mem_cons.mp hd with rfl | hold
  · exact hc
  · exact h d hold

variable {texts : List (List Char)}

theorem Printable.intercalate (h : ∀ text ∈ texts, Printable text) :
    Printable ([','].intercalate texts) := by
  induction texts with
  | nil => exact fun c hc => absurd hc List.not_mem_nil
  | cons text rest ih =>
    have hrest := ih fun other hother => h other (List.mem_cons_of_mem _ hother)
    cases rest with
    | nil =>
      rw [List.intercalate_singleton]
      exact h text List.mem_cons_self
    | cons second others =>
      rw [List.intercalate_cons_cons]
      exact ((h text List.mem_cons_self).append (.cons (by decide) fun c hc =>
        absurd hc List.not_mem_nil)).append hrest

theorem printable_hexDigits (n : Nat) : Printable (hexDigits n).toList := by
  have hdigit : ∀ k < 16, isPrintable ("0123456789abcdef".toList.getD k '0') = true := by decide
  have hmod : ∀ k, isPrintable ("0123456789abcdef".toList.getD (k % 16) '0') = true :=
    fun k => hdigit _ (Nat.mod_lt _ (by decide))
  intro c hc
  rw [hexDigits, String.toList_ofList] at hc
  simp only [List.mem_cons, List.not_mem_nil, or_false] at hc
  rcases hc with rfl | rfl | rfl | rfl
  all_goals exact hmod _

theorem printable_code (n : Nat) : Printable ("\\u" ++ hexDigits n).toList := by
  rw [toList_code]
  exact .cons (by decide) (.cons (by decide) (printable_hexDigits n))

theorem printable_escape (c : Char) : Printable (escape c).toList := by
  unfold escape
  simp only []
  split_ifs with hquote hslash h8 h9 h10 h12 h13 hplain hbasic
  iterate 7 exact .of_all (by decide)
  · rw [toList_toString]
    refine .cons ?_ fun d hd => absurd hd List.not_mem_nil
    simpa [isPrintable] using hplain
  · exact printable_code _
  · rw [String.append_assoc, String.toList_append]
    exact (printable_code _).append (printable_code _)

theorem printable_quote (s : String) : Printable (quoteWith escape s).toList := by
  rw [toList_quoteWith]
  refine .cons (by decide) (Printable.append (fun c hc => ?_)
    (.cons (by decide) fun c hc => absurd hc List.not_mem_nil))
  obtain ⟨d, -, hd⟩ := List.mem_flatMap.mp hc
  exact printable_escape d c hd

theorem isPrintable_of_isNumberChar {c : Char} (h : isNumberChar c = true) :
    isPrintable c = true := by
  simp only [isNumberChar, Bool.or_eq_true, decide_eq_true_eq] at h
  rcases h with ((((hdigit | rfl) | rfl) | rfl) | rfl) | rfl
  · simp only [Char.isDigit, Bool.and_eq_true, decide_eq_true_eq] at hdigit
    have hlow : 48 ≤ c.toNat := hdigit.1
    have hhigh : c.toNat ≤ 57 := hdigit.2
    simp only [isPrintable, Bool.and_eq_true, decide_eq_true_eq]
    omega
  all_goals decide

theorem printable_dumpWith (value : Json) :
    value.distinct = true → Printable (dumpWith escape value).toList := by
  induction value using induction with
  | null =>
    intro _
    simp only [dumpWith]
    exact .of_all (by decide)
  | bool b =>
    intro _
    cases b
    all_goals
      simp only [dumpWith]
      exact .of_all (by decide)
  | int n =>
    intro _ c hc
    rw [dumpWith] at hc
    exact isPrintable_of_isNumberChar ((readInt_toString n).2.1 c hc)
  | float text =>
    intro hfloat
    rw [dumpWith]
    rw [distinct] at hfloat
    simp only [isFloatText, Bool.or_eq_true, Bool.and_eq_true, decide_eq_true_eq,
      List.all_eq_true] at hfloat
    rcases hfloat with ((rfl | rfl) | rfl) | ⟨⟨htoken, -⟩, -⟩
    iterate 3 exact .of_all (by decide)
    exact fun c hc => isPrintable_of_isNumberChar (htoken c hc)
  | str s =>
    intro _
    rw [dumpWith]
    exact printable_quote s
  | arr items ih =>
    intro hdistinct
    rw [distinct, distinctItems_iff] at hdistinct
    rw [toList_dumpWith_arr]
    refine .cons (by decide) (Printable.append (.intercalate fun text htext => ?_)
      (.cons (by decide) fun c hc => absurd hc List.not_mem_nil))
    obtain ⟨item, hitem, rfl⟩ := List.mem_map.mp htext
    exact ih item hitem (hdistinct item hitem)
  | obj fields ih =>
    intro hdistinct
    rw [distinct, Bool.and_eq_true, distinctFields_iff] at hdistinct
    rw [toList_dumpWith_obj]
    refine .cons (by decide) (Printable.append (.intercalate fun text htext => ?_)
      (.cons (by decide) fun c hc => absurd hc List.not_mem_nil))
    obtain ⟨field, hfield, rfl⟩ := List.mem_map.mp htext
    have hmem := (perm_sortedFields fields).mem_iff.mp hfield
    rw [fieldText]
    exact (printable_quote field.1).append (.cons (by decide) (ih field hmem
      (hdistinct.2 field hmem)))

variable {value : Json}

theorem printable_dump (h : value.distinct = true) : Printable (dump value).toList := by
  rw [← dumpWith_escape]
  exact printable_dumpWith value h

theorem splitLines_append {text : List Char} (h : Printable text) (rest : List Char) :
    splitLines (text ++ '\n' :: rest) = (text ++ ['\n']) :: splitLines rest := by
  induction text with
  | nil => rw [List.nil_append, List.nil_append, splitLines]
  | cons c more ih =>
    have hc := h c List.mem_cons_self
    have hmore := ih fun d hd => h d (List.mem_cons_of_mem _ hd)
    have hnewline : c ≠ '\n' := by
      rintro rfl
      exact absurd hc (by decide)
    have hreturn : c ≠ '\r' := by
      rintro rfl
      exact absurd hc (by decide)
    rw [List.cons_append, splitLines, hmore]
    · rfl
    · exact hnewline
    · exact fun _ heq _ => hreturn heq
    · exact hreturn

theorem splitLines_line (h : value.distinct = true) (rest : List Char) :
    splitLines (line value ++ rest) = line value :: splitLines rest := by
  rw [line, List.append_assoc]
  exact splitLines_append (printable_dump h) rest

theorem splitLines_flatMap_line {values : List Json}
    (h : ∀ value ∈ values, value.distinct = true) :
    splitLines (values.flatMap line) = values.map line := by
  induction values with
  | nil => rfl
  | cons value rest ih =>
    rw [List.flatMap_cons, splitLines_line (h value List.mem_cons_self),
      ih fun other hother => h other (List.mem_cons_of_mem _ hother), List.map_cons]

theorem loads_line (h : value.distinct = true) :
    loads (String.ofList (line value)) = some value.canonical := by
  have hlength : (dump value).toList.length ≤ (line value).length + 1 := by
    rw [line, List.length_append]
    omega
  have hread := (reads_dumpWith escape_escapes value h).reads ((line value).length + 1) ['\n']
    (by rwa [dumpWith_escape]) (by rintro c ⟨⟩; decide)
  rw [dumpWith_escape] at hread
  rw [loads, String.toList_ofList]
  rw [line] at hread ⊢
  rw [hread]
  rfl

theorem distinct_readAtom {input rest : List Char} (h : readAtom input = some (value, rest)) :
    value.distinct = true := by
  unfold readAtom at h
  split at h
  · rename_i keyword hkeyword
    have hall : ∀ keyword ∈ keywords, keyword.2.distinct = true := by
      simp only [keywords, List.forall_mem_cons, distinct, List.not_mem_nil, false_implies,
        implies_true, and_true, true_and]
      decide
    cases h
    exact hall keyword (List.mem_of_find?_eq_some hkeyword)
  · unfold readNumber at h
    simp only at h
    split at h
    · cases h
      rfl
    · rename_i hint
      split at h
      · rename_i hfloat
        cases h
        rw [distinct]
        simp only [isFloatText, String.toList_ofList, Bool.or_eq_true, Bool.and_eq_true,
          List.all_eq_true, hint, hfloat, Option.isNone_none, and_true]
        exact .inr fun c hc => (List.all_eq_true.mp List.all_takeWhile) c hc
      · cases h

variable {fields : List (String × Json)}

theorem distinct_mapping (h : ∀ field ∈ fields, field.2.distinct = true) :
    (Json.obj (mapping fields)).distinct = true := by
  have hfold : ∀ fields kept : List (String × Json), (Json.obj kept).distinct = true →
      (∀ field ∈ fields, field.2.distinct = true) →
      (Json.obj (fields.foldl (fun payload field => Payload.put payload field.1 field.2)
        kept)).distinct = true := by
    intro fields
    induction fields with
    | nil => exact fun kept hkept _ => hkept
    | cons field rest ih =>
      intro kept hkept hall
      refine ih _ ?_ fun other hother => hall other (List.mem_cons_of_mem _ hother)
      have hvalue := hall field List.mem_cons_self
      rw [distinct, Bool.and_eq_true, decide_eq_true_eq, distinctFields_iff] at hkept ⊢
      simp only [Payload.put]
      split_ifs with hany
      · have hnames : (kept.map fun other => if other.1 == field.1 then (field.1, field.2)
            else other).map Prod.fst = kept.map Prod.fst := by
          rw [List.map_map]
          refine List.map_congr_left fun other _ => ?_
          by_cases heq : other.1 = field.1
          · simp [heq]
          · simp [heq]
        refine ⟨hnames ▸ hkept.1, fun other hother => ?_⟩
        obtain ⟨old, hold, rfl⟩ := List.mem_map.mp hother
        split_ifs
        · exact hvalue
        · exact hkept.2 old hold
      · refine ⟨?_, fun other hother => ?_⟩
        · rw [List.map_append, List.map_singleton]
          refine List.nodup_append.mpr ⟨hkept.1, List.nodup_singleton _, fun a ha b hb heq => ?_⟩
          obtain ⟨other, hother, rfl⟩ := List.mem_map.mp ha
          refine hany (List.any_eq_true.mpr ⟨other, hother, ?_⟩)
          rw [beq_iff_eq, heq, List.mem_singleton.mp hb]
        · rcases List.mem_append.mp hother with hold | hnew
          · exact hkept.2 other hold
          · rw [List.mem_singleton.mp hnew]
            exact hvalue
  exact hfold fields [] rfl h

theorem distinct_readers (fuel : Nat) :
    (∀ input value rest, readValue fuel input = some (value, rest) → value.distinct = true) ∧
    (∀ input items rest, readItems fuel input = some (items, rest) →
      ∀ item ∈ items, item.distinct = true) ∧
    ∀ input fields rest, readFields fuel input = some (fields, rest) →
      ∀ field ∈ fields, field.2.distinct = true := by
  induction fuel with
  | zero =>
    refine ⟨fun input value rest h => ?_, fun input items rest h => ?_,
      fun input fields rest h => ?_⟩
    · rw [readValue] at h
      cases h
    · rw [readItems] at h
      cases h
    · rw [readFields] at h
      cases h
  | succ fuel ih =>
    obtain ⟨hvalue, hitems, hfields⟩ := ih
    refine ⟨fun input value rest h => ?_, fun input items rest h => ?_,
      fun input fields rest h => ?_⟩
    · rw [readValue] at h
      split at h
      · cases h
      · split_ifs at h
        · simp only [Option.bind_eq_bind, Option.bind_eq_some_iff] at h
          obtain ⟨⟨text, left⟩, -, h⟩ := h
          cases h
          rfl
        · cases h
          rfl
        · simp only [Option.bind_eq_bind, Option.bind_eq_some_iff] at h
          obtain ⟨⟨items, left⟩, hread, h⟩ := h
          cases h
          rw [distinct, distinctItems_iff]
          exact hitems _ _ _ hread
        · cases h
          rfl
        · simp only [Option.bind_eq_bind, Option.bind_eq_some_iff] at h
          obtain ⟨⟨fields, left⟩, hread, h⟩ := h
          cases h
          exact distinct_mapping (hfields _ _ _ hread)
        · exact distinct_readAtom h
    · rw [readItems] at h
      simp only [Option.bind_eq_bind, Option.bind_eq_some_iff] at h
      obtain ⟨⟨first, left⟩, hread, h⟩ := h
      have hfirst := hvalue _ _ _ hread
      split at h
      · cases h
      · split_ifs at h
        · cases h
          exact fun item hitem => List.mem_singleton.mp hitem ▸ hfirst
        · simp only [Option.bind_eq_some_iff] at h
          obtain ⟨⟨others, after⟩, hothers, h⟩ := h
          cases h
          exact List.forall_mem_cons.mpr ⟨hfirst, hitems _ _ _ hothers⟩
    · rw [readFields] at h
      split at h
      · cases h
      · split_ifs at h
        simp only [Option.bind_eq_bind, Option.bind_eq_some_iff] at h
        obtain ⟨⟨name, left⟩, -, h⟩ := h
        split at h
        · cases h
        · split_ifs at h
          simp only [Option.bind_eq_some_iff] at h
          obtain ⟨⟨value, left⟩, hread, h⟩ := h
          have hfirst := hvalue _ _ _ hread
          split at h
          · cases h
          · split_ifs at h
            · cases h
              exact fun field hfield => List.mem_singleton.mp hfield ▸ hfirst
            · simp only [Option.bind_eq_some_iff] at h
              obtain ⟨⟨others, after⟩, hothers, h⟩ := h
              cases h
              exact List.forall_mem_cons.mpr ⟨hfirst, hfields _ _ _ hothers⟩

theorem distinct_of_loads {text : String} (h : loads text = some value) :
    value.distinct = true := by
  unfold loads at h
  split at h
  · rename_i read rest hread
    split_ifs at h
    cases h
    exact (distinct_readers _).1 _ _ _ hread
  · cases h

variable {name : String}

theorem get_of_mem (hnames : (fields.map Prod.fst).Nodup) (hmem : (name, value) ∈ fields) :
    get fields name = some value := by
  unfold get
  cases hfind : fields.reverse.find? fun field => decide (field.1 = name) with
  | none =>
    have hnot := List.find?_eq_none.mp hfind (name, value) (List.mem_reverse.mpr hmem)
    simp at hnot
  | some field =>
    have hname : field.1 = name := by simpa using List.find?_some hfind
    have hfield := List.mem_reverse.mp (List.mem_of_find?_eq_some hfind)
    have heq : field = (name, value) := List.inj_on_of_nodup_map hnames hfield hmem hname
    rw [heq]
    rfl

theorem get_of_getElem? (hnames : (fields.map Prod.fst).Nodup) {i : Nat}
    (h : fields[i]? = some (name, value)) : get fields name = some value :=
  get_of_mem hnames (List.mem_of_getElem? h)

/-- `value == n`: a truth value or a float may equal a number. -/
def equalsNumber (value : Option Json) (n : Nat) : Bool :=
  match value with
  | some (.int m) => m = n
  | some (.bool b) => (if b then 1 else 0) = n
  | some (.float text) => text = toString n ++ ".0" || (n = 0 && text = "-0.0")
  | _ => false

def namesAre (fields : Payload) (names : List String) : Bool :=
  (fields.map Prod.fst).all names.contains && names.all (fields.map Prod.fst).contains

def readBack (fields : Payload) : Payload :=
  (sortedFields fields).map fun field => (field.1, field.2.canonical)

theorem canonical_readBack (fields : Payload) : (obj fields).canonical = .obj (readBack fields) :=
  canonical_obj fields

theorem loads_dump_obj {fields : Payload} (h : (obj fields).distinct = true) :
    loads (obj fields).dump = some (.obj (readBack fields)) := by
  rw [← dumpWith_escape, loads_dumpWith escape_escapes h, canonical_readBack]

theorem perm_names_readBack (fields : Payload) :
    ((readBack fields).map Prod.fst).Perm (fields.map Prod.fst) := by
  rw [readBack, List.map_map]
  exact (perm_sortedFields fields).map Prod.fst

theorem names_readBack (fields : Payload) :
    ((readBack fields).map Prod.fst).all (fields.map Prod.fst).contains = true := by
  rw [List.all_eq_true]
  exact fun name hname =>
    List.contains_iff_mem.mpr ((perm_names_readBack fields).mem_iff.mp hname)

theorem get_readBack {fields : Payload} (hnames : (fields.map Prod.fst).Nodup) {i : Nat}
    (h : fields[i]? = some (name, value)) : get (readBack fields) name = some value.canonical := by
  have hmem : (name, value) ∈ sortedFields fields :=
    (perm_sortedFields fields).mem_iff.mpr (List.mem_of_getElem? h)
  exact get_of_mem ((perm_names_readBack fields).nodup_iff.mpr hnames)
    (List.mem_map_of_mem hmem)

theorem canonical_of_sorted (hnames : (fields.map Prod.fst).Pairwise (· ≤ ·))
    (hvalues : ∀ field ∈ fields, field.2.canonical = field.2) :
    canonical (.obj fields) = .obj fields := by
  have hsorted : sortedFields fields = fields :=
    List.Pairwise.insertionSort_eq (List.pairwise_map.mp hnames)
  have hmap : fields.map (fun field => (field.1, field.2.canonical)) = fields.map id :=
    List.map_congr_left fun field hfield => by rw [hvalues field hfield, id]
  rw [canonical_obj, hsorted, hmap, List.map_id]

theorem length_escape_le (c : Char) : (escape c).toList.length ≤ 12 := by
  have hcode : ∀ n, ("\\u" ++ hexDigits n).toList.length = 6 := by
    intro n
    rw [toList_code, hexDigits, String.toList_ofList]
    rfl
  unfold escape
  simp only []
  split_ifs
  iterate 7 decide
  · rw [toList_toString, List.length_singleton]
    decide
  · rw [hcode]
    decide
  · rw [String.append_assoc, String.toList_append, List.length_append, hcode, hcode]

theorem length_quote_le (s : String) :
    (quoteWith escape s).toList.length ≤ 12 * s.toList.length + 2 := by
  have hflat : ∀ chars : List Char,
      (chars.flatMap fun c => (escape c).toList).length ≤ 12 * chars.length := by
    intro chars
    induction chars with
    | nil => exact Nat.le_refl 0
    | cons c rest ih =>
      have hc := length_escape_le c
      rw [List.flatMap_cons, List.length_append, List.length_cons]
      omega
  have hchars := hflat s.toList
  rw [toList_quoteWith, List.length_cons, List.length_append, List.length_singleton]
  omega

theorem length_dump_str_le {s : String} {n : Nat} (h : s.toList.length ≤ n) :
    (dump (.str s)).toList.length ≤ 12 * n + 2 := by
  have hquote := length_quote_le s
  rw [dump]
  exact Nat.le_trans hquote (by omega)

theorem length_dump_nat_le {m k : Nat} (hk : 0 < k) (h : m < 10 ^ k) :
    (dump (.int m)).toList.length ≤ k := by
  have htext : (toString (Int.ofNat m)).toList = Nat.toDigits 10 m := Nat.toList_repr
  rw [dump]
  show (toString (Int.ofNat m)).toList.length ≤ k
  rw [htext]
  exact (Nat.length_toDigits_le_iff (by decide) hk).mpr h

theorem length_intercalate_le {n : Nat} (h : ∀ text ∈ texts, text.length ≤ n) :
    ([','].intercalate texts).length ≤ texts.length * (n + 1) := by
  induction texts with
  | nil => exact Nat.zero_le _
  | cons text rest ih =>
    have htext := h text List.mem_cons_self
    have hrest := ih fun other hother => h other (List.mem_cons_of_mem _ hother)
    rw [List.length_cons, Nat.succ_mul]
    cases rest with
    | nil =>
      rw [List.intercalate_singleton]
      omega
    | cons second others =>
      rw [List.intercalate_cons_cons, List.length_append, List.length_append,
        List.length_singleton]
      omega

theorem length_dump_obj_le {m n : Nat} (hnames : ∀ field ∈ fields, field.1.toList.length ≤ m)
    (hvalues : ∀ field ∈ fields, (dump field.2).toList.length ≤ n) :
    (dump (.obj fields)).toList.length ≤ fields.length * (12 * m + n + 4) + 2 := by
  have htexts : ∀ text ∈ (sortedFields fields).map fun field =>
      fieldText escape field.1 (dumpWith escape field.2).toList, text.length ≤ 12 * m + n + 3 := by
    intro text htext
    obtain ⟨field, hfield, rfl⟩ := List.mem_map.mp htext
    have hmem := (perm_sortedFields fields).mem_iff.mp hfield
    have hname := hnames field hmem
    have hvalue := hvalues field hmem
    have hquote := length_quote_le field.1
    rw [← dumpWith_escape] at hvalue
    rw [fieldText, List.length_append, List.length_cons]
    omega
  have hfields := length_intercalate_le htexts
  rw [List.length_map, (perm_sortedFields fields).length_eq,
    show 12 * m + n + 3 + 1 = 12 * m + n + 4 from rfl] at hfields
  rw [← dumpWith_escape, toList_dumpWith_obj, List.length_cons, List.length_append,
    List.length_singleton]
  omega

end MediaSync.Json
