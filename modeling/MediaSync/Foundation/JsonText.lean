import MediaSync.Foundation.Json
import Mathlib.Data.List.Sort

/-! `json.loads`, and `json.dumps` with and without `ensure_ascii=False`. -/
namespace MediaSync.Json

def hexValue (c : Char) : Option Nat :=
  if '0' ≤ c ∧ c ≤ '9' then some (c.toNat - '0'.toNat)
  else if 'a' ≤ c ∧ c ≤ 'f' then some (c.toNat - 'a'.toNat + 10)
  else if 'A' ≤ c ∧ c ≤ 'F' then some (c.toNat - 'A'.toNat + 10)
  else none

/-- The four digits after a backslash and `u`. -/
def readUnit : List Char → Option (Nat × List Char)
  | a :: b :: c :: d :: rest => do
    let a ← hexValue a
    let b ← hexValue b
    let c ← hexValue c
    let d ← hexValue d
    return (a * 4096 + b * 256 + c * 16 + d, rest)
  | _ => none

def readLowSurrogate (high : Nat) : List Char → Option (Char × List Char)
  | '\\' :: 'u' :: rest => do
    let (low, rest) ← readUnit rest
    if 0xDC00 ≤ low ∧ low < 0xE000 then
      return (Char.ofNat (0x10000 + (high - 0xD800) * 1024 + (low - 0xDC00)), rest)
    else none
  | _ => none

/-- The character after a backslash and `u`. -/
def readCode (input : List Char) : Option (Char × List Char) := do
  let (unit, rest) ← readUnit input
  if 0xD800 ≤ unit ∧ unit < 0xDC00 then readLowSurrogate unit rest
  else if 0xDC00 ≤ unit ∧ unit < 0xE000 then none
  else return (Char.ofNat unit, rest)

/-- The character after a backslash, but for `u`. -/
def simpleEscape (c : Char) : Option Char :=
  if c = '"' ∨ c = '\\' ∨ c = '/' then some c
  else if c = 'b' then some (Char.ofNat 8)
  else if c = 't' then some (Char.ofNat 9)
  else if c = 'n' then some (Char.ofNat 10)
  else if c = 'f' then some (Char.ofNat 12)
  else if c = 'r' then some (Char.ofNat 13)
  else none

def readChar : List Char → Option (Char × List Char)
  | [] => none
  | c :: rest =>
    if c = '\\' then
      match rest with
      | [] => none
      | e :: rest => if e = 'u' then readCode rest else (simpleEscape e).map fun c => (c, rest)
    else if c.toNat < 32 then none
    else some (c, rest)

/-- A string literal after its opening quote; `fuel` bounds the characters that are read. -/
def readText : Nat → List Char → Option (List Char × List Char)
  | 0, _ => none
  | fuel + 1, input =>
    match input with
    | [] => none
    | c :: rest =>
      if c = '"' then some ([], rest)
      else do
        let (first, rest) ← readChar (c :: rest)
        let (text, rest) ← readText fuel rest
        return (first :: text, rest)

def isNumberChar (c : Char) : Bool :=
  c.isDigit || c = '-' || c = '+' || c = '.' || c = 'e' || c = 'E'

def isCount (digits : List Char) : Bool :=
  !digits.isEmpty && digits.all Char.isDigit && (digits = ['0'] || digits.head? != some '0')

def readInt : List Char → Option Int
  | '-' :: digits => if isCount digits then some (-(Nat.ofDigitChars 10 digits 0 : Int)) else none
  | digits => if isCount digits then some (Nat.ofDigitChars 10 digits 0) else none

def isExponent : List Char → Bool
  | [] => true
  | e :: rest =>
    (e = 'e' || e = 'E') &&
      match rest with
      | [] => false
      | sign :: digits =>
        if sign = '+' || sign = '-' then !digits.isEmpty && digits.all Char.isDigit
        else rest.all Char.isDigit

def isFraction : List Char → Bool
  | '.' :: rest =>
    !(rest.takeWhile Char.isDigit).isEmpty && isExponent (rest.dropWhile Char.isDigit)
  | rest => !rest.isEmpty && isExponent rest

def isFloatToken (token : List Char) : Bool :=
  let unsigned := if token.head? = some '-' then token.tail else token
  isCount (unsigned.takeWhile Char.isDigit) && isFraction (unsigned.dropWhile Char.isDigit)

def readNumber (input : List Char) : Option (Json × List Char) :=
  let token := input.takeWhile isNumberChar
  let rest := input.dropWhile isNumberChar
  match readInt token with
  | some n => some (.int n, rest)
  | none => if isFloatToken token then some (.float (String.ofList token), rest) else none

def keywords : List (List Char × Json) := [
  (['n', 'u', 'l', 'l'], .null),
  (['t', 'r', 'u', 'e'], .bool true),
  (['f', 'a', 'l', 's', 'e'], .bool false),
  (['N', 'a', 'N'], .float "NaN"),
  (['I', 'n', 'f', 'i', 'n', 'i', 't', 'y'], .float "Infinity"),
  (['-', 'I', 'n', 'f', 'i', 'n', 'i', 't', 'y'], .float "-Infinity")]

def readAtom (input : List Char) : Option (Json × List Char) :=
  match keywords.find? fun keyword => keyword.1.isPrefixOf input with
  | some keyword => some (keyword.2, input.drop keyword.1.length)
  | none => readNumber input

def isBlank (c : Char) : Bool := c = ' ' || c = '\t' || c = '\n' || c = '\r'

def skip (input : List Char) : List Char := input.dropWhile isBlank

def mapping (fields : List (String × Json)) : Payload :=
  fields.foldl (fun payload field => Payload.put payload field.1 field.2) []

mutual

/-- A value, after blanks; `fuel` bounds the depth of the reading. -/
def readValue : Nat → List Char → Option (Json × List Char)
  | 0, _ => none
  | fuel + 1, input =>
    match skip input with
    | [] => none
    | c :: rest =>
      if c = '"' then do
        let (text, rest) ← readText fuel rest
        return (.str (String.ofList text), rest)
      else if c = '[' then
        if (skip rest).head? = some ']' then some (.arr [], (skip rest).tail)
        else do
          let (items, rest) ← readItems fuel rest
          return (.arr items, rest)
      else if c = '\x7b' then
        if (skip rest).head? = some '\x7d' then some (.obj [], (skip rest).tail)
        else do
          let (fields, rest) ← readFields fuel rest
          return (.obj (mapping fields), rest)
      else readAtom (c :: rest)

def readItems : Nat → List Char → Option (List Json × List Char)
  | 0, _ => none
  | fuel + 1, input => do
    let (item, rest) ← readValue fuel input
    match skip rest with
    | [] => none
    | c :: rest =>
      if c = ']' then return ([item], rest)
      else if c = ',' then do
        let (items, rest) ← readItems fuel rest
        return (item :: items, rest)
      else none

def readFields : Nat → List Char → Option (List (String × Json) × List Char)
  | 0, _ => none
  | fuel + 1, input =>
    match skip input with
    | [] => none
    | q :: rest =>
      if q = '"' then do
        let (name, rest) ← readText fuel rest
        match skip rest with
        | [] => none
        | colon :: rest =>
          if colon = ':' then do
            let (value, rest) ← readValue fuel rest
            match skip rest with
            | [] => none
            | c :: rest =>
              if c = '\x7d' then return ([(String.ofList name, value)], rest)
              else if c = ',' then do
                let (fields, rest) ← readFields fuel rest
                return ((String.ofList name, value) :: fields, rest)
              else none
          else none
      else none

end

/-- `json.loads`, `none` when it raises. -/
def loads (text : String) : Option Json :=
  match readValue (text.toList.length + 1) text.toList with
  | some (value, rest) => if (skip rest).isEmpty then some value else none
  | none => none

/-- The text of one character inside a string literal, with `ensure_ascii=False`. -/
def escapeUnicode (c : Char) : String :=
  let n := c.toNat
  if c = '"' then "\\\""
  else if c = '\\' then "\\\\"
  else if n = 8 then "\\b" else if n = 9 then "\\t" else if n = 10 then "\\n"
  else if n = 12 then "\\f" else if n = 13 then "\\r"
  else if n < 32 then "\\u" ++ hexDigits n
  else c.toString

def quoteWith (escape : Char → String) (s : String) : String :=
  "\"" ++ String.join (s.toList.map escape) ++ "\""

mutual

/-- `json.dumps(value, sort_keys=True, separators=(",", ":"))`, for a way to write characters. -/
def dumpWith (escape : Char → String) : Json → String
  | .null => "null"
  | .bool b => if b then "true" else "false"
  | .int n => toString n
  | .float text => text
  | .str s => quoteWith escape s
  | .arr items => "[" ++ ",".intercalate (dumpItemsWith escape items) ++ "]"
  | .obj fields =>
    let sorted := (dumpFieldsWith escape fields).insertionSort fun a b => a.1 ≤ b.1
    "\x7b" ++
      ",".intercalate (sorted.map fun field => quoteWith escape field.1 ++ ":" ++ field.2) ++ "\x7d"

def dumpItemsWith (escape : Char → String) : List Json → List String
  | [] => []
  | item :: rest => dumpWith escape item :: dumpItemsWith escape rest

def dumpFieldsWith (escape : Char → String) : List (String × Json) → List (String × String)
  | [] => []
  | (name, value) :: rest => (name, dumpWith escape value) :: dumpFieldsWith escape rest

end

/-- `json.dumps(value, ensure_ascii=False, sort_keys=True, separators=(",", ":"))`. -/
def dumpUnicode (value : Json) : String := dumpWith escapeUnicode value

mutual

theorem dumpWith_escape : ∀ value : Json, dumpWith escape value = dump value
  | .null | .bool _ | .int _ | .float _ => by simp only [dumpWith, dump]
  | .str s => by simp only [dumpWith, dump, quoteWith, quote]
  | .arr items => by simp only [dumpWith, dump, dumpItemsWith_escape items]
  | .obj fields => by simp only [dumpWith, dump, dumpFieldsWith_escape fields, quoteWith, quote]

theorem dumpItemsWith_escape : ∀ items : List Json, dumpItemsWith escape items = dumpItems items
  | [] => by simp only [dumpItemsWith, dumpItems]
  | item :: rest => by
    simp only [dumpItemsWith, dumpItems, dumpWith_escape item, dumpItemsWith_escape rest]

theorem dumpFieldsWith_escape :
    ∀ fields : List (String × Json), dumpFieldsWith escape fields = dumpFields fields
  | [] => by simp only [dumpFieldsWith, dumpFields]
  | (name, value) :: rest => by
    simp only [dumpFieldsWith, dumpFields, dumpWith_escape value, dumpFieldsWith_escape rest]

end

/-- A text that `float.__repr__` writes, as far as its reader can tell. -/
def isFloatText (text : String) : Bool :=
  text = "NaN" || text = "Infinity" || text = "-Infinity" ||
    (text.toList.all isNumberChar && (readInt text.toList).isNone && isFloatToken text.toList)

mutual

def distinct : Json → Bool
  | .float text => isFloatText text
  | .arr items => distinctItems items
  | .obj fields => decide (fields.map Prod.fst).Nodup && distinctFields fields
  | _ => true

def distinctItems : List Json → Bool
  | [] => true
  | item :: rest => item.distinct && distinctItems rest

def distinctFields : List (String × Json) → Bool
  | [] => true
  | (_, value) :: rest => value.distinct && distinctFields rest

end

structure Mapping where
  fields : Payload
  distinct : (Json.obj fields).distinct = true

mutual

def canonical : Json → Json
  | .arr items => .arr (canonicalItems items)
  | .obj fields => .obj ((canonicalFields fields).insertionSort fun a b => a.1 ≤ b.1)
  | value => value

def canonicalItems : List Json → List Json
  | [] => []
  | item :: rest => item.canonical :: canonicalItems rest

def canonicalFields : List (String × Json) → List (String × Json)
  | [] => []
  | (name, value) :: rest => (name, value.canonical) :: canonicalFields rest

end

section
variable {write : Char → String}

theorem dumpItemsWith_eq_map (items : List Json) :
    dumpItemsWith write items = items.map (dumpWith write) := by
  induction items with
  | nil => rfl
  | cons item rest ih => rw [dumpItemsWith, ih, List.map_cons]

theorem dumpFieldsWith_eq_map (fields : List (String × Json)) :
    dumpFieldsWith write fields = fields.map fun field => (field.1, dumpWith write field.2) := by
  induction fields with
  | nil => rfl
  | cons field rest ih => rw [dumpFieldsWith, ih, List.map_cons]

theorem canonicalItems_eq_map (items : List Json) :
    canonicalItems items = items.map canonical := by
  induction items with
  | nil => rfl
  | cons item rest ih => rw [canonicalItems, ih, List.map_cons]

theorem canonicalFields_eq_map (fields : List (String × Json)) :
    canonicalFields fields = fields.map fun field => (field.1, field.2.canonical) := by
  induction fields with
  | nil => rfl
  | cons field rest ih => rw [canonicalFields, ih, List.map_cons]

theorem distinctItems_iff {items : List Json} :
    distinctItems items = true ↔ ∀ item ∈ items, item.distinct = true := by
  induction items with
  | nil => simp [distinctItems]
  | cons item rest ih => simp [distinctItems, ih]

theorem distinctFields_iff {fields : List (String × Json)} :
    distinctFields fields = true ↔ ∀ field ∈ fields, field.2.distinct = true := by
  induction fields with
  | nil => simp [distinctFields]
  | cons field rest ih => simp [distinctFields, ih]

end

mutual

variable {P : Json → Prop}

theorem induction (null : P .null) (bool : ∀ b, P (.bool b)) (int : ∀ n, P (.int n))
    (float : ∀ text, P (.float text)) (str : ∀ s, P (.str s))
    (arr : ∀ items, (∀ item ∈ items, P item) → P (.arr items))
    (obj : ∀ fields, (∀ field ∈ fields, P field.2) → P (.obj fields)) : ∀ value, P value
  | .null => null
  | .bool b => bool b
  | .int n => int n
  | .float text => float text
  | .str s => str s
  | .arr items => arr items (induction_items null bool int float str arr obj items)
  | .obj fields => obj fields (induction_fields null bool int float str arr obj fields)

theorem induction_items (null : P .null) (bool : ∀ b, P (.bool b)) (int : ∀ n, P (.int n))
    (float : ∀ text, P (.float text)) (str : ∀ s, P (.str s))
    (arr : ∀ items, (∀ item ∈ items, P item) → P (.arr items))
    (obj : ∀ fields, (∀ field ∈ fields, P field.2) → P (.obj fields)) :
    ∀ items : List Json, ∀ item ∈ items, P item
  | [] => fun _ hmem => absurd hmem List.not_mem_nil
  | first :: rest => fun item hmem => by
    rcases List.mem_cons.mp hmem with hfirst | hold
    · exact hfirst ▸ induction null bool int float str arr obj first
    · exact induction_items null bool int float str arr obj rest item hold

theorem induction_fields (null : P .null) (bool : ∀ b, P (.bool b)) (int : ∀ n, P (.int n))
    (float : ∀ text, P (.float text)) (str : ∀ s, P (.str s))
    (arr : ∀ items, (∀ item ∈ items, P item) → P (.arr items))
    (obj : ∀ fields, (∀ field ∈ fields, P field.2) → P (.obj fields)) :
    ∀ fields : List (String × Json), ∀ field ∈ fields, P field.2
  | [] => fun _ hmem => absurd hmem List.not_mem_nil
  | (_, value) :: rest => fun field hmem => by
    rcases List.mem_cons.mp hmem with hfirst | hold
    · exact hfirst ▸ induction null bool int float str arr obj value
    · exact induction_fields null bool int float str arr obj rest field hold

end

end MediaSync.Json
