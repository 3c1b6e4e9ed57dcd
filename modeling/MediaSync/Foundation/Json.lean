import Mathlib.Data.List.Sort

/-! The values `json.loads` returns, the compact sorted text `json.dumps` writes, and the two
functions of the Python library that the model takes as given: the JSON parser and the ISO timestamp
parser. -/
namespace MediaSync

inductive Json where
  | null
  | bool (b : Bool)
  | int (n : Int)
  | float (text : String)
  | str (s : String)
  | arr (items : List Json)
  | obj (fields : List (String × Json))

namespace Json

/-- `value.get(name)` of a JSON object: the last binding of a repeated name counts. -/
def get (fields : List (String × Json)) (name : String) : Option Json :=
  (fields.reverse.find? fun field => field.1 = name).map Prod.snd

def hexDigits (n : Nat) : String :=
  let digit : Nat → Char := fun k => "0123456789abcdef".toList.getD (k % 16) '0'
  String.ofList [digit (n / 4096), digit (n / 256), digit (n / 16), digit n]

def escape (c : Char) : String :=
  let n := c.toNat
  if c = '"' then "\\\""
  else if c = '\\' then "\\\\"
  else if n = 8 then "\\b" else if n = 9 then "\\t" else if n = 10 then "\\n"
  else if n = 12 then "\\f" else if n = 13 then "\\r"
  else if 32 ≤ n ∧ n < 127 then c.toString
  else if n < 65536 then "\\u" ++ hexDigits n
  else
    -- beyond the basic plane a character is written as its two surrogates
    "\\u" ++ hexDigits (55296 + (n - 65536) / 1024) ++
      "\\u" ++ hexDigits (56320 + (n - 65536) % 1024)

def quote (s : String) : String := "\"" ++ String.join (s.toList.map escape) ++ "\""

mutual

/-- `json.dumps(value, sort_keys=True, separators=(",", ":"))`. -/
def dump : Json → String
  | .null => "null"
  | .bool b => if b then "true" else "false"
  | .int n => toString n
  | .float text => text
  | .str s => quote s
  | .arr items => "[" ++ ",".intercalate (dumpItems items) ++ "]"
  | .obj fields =>
    let sorted := (dumpFields fields).insertionSort fun a b => a.1 ≤ b.1
    "\x7b" ++ ",".intercalate (sorted.map fun field => quote field.1 ++ ":" ++ field.2) ++ "\x7d"

def dumpItems : List Json → List String
  | [] => []
  | item :: rest => item.dump :: dumpItems rest

def dumpFields : List (String × Json) → List (String × String)
  | [] => []
  | (name, value) :: rest => (name, value.dump) :: dumpFields rest

end

mutual

/-- Whether `json.dumps(value, allow_nan=False)` writes the value. -/
def finite : Json → Bool
  | .float text => text != "NaN" && text != "Infinity" && text != "-Infinity"
  | .arr items => finiteItems items
  | .obj fields => finiteFields fields
  | _ => true

def finiteItems : List Json → Bool
  | [] => true
  | item :: rest => item.finite && finiteItems rest

def finiteFields : List (String × Json) → Bool
  | [] => true
  | (_, value) :: rest => value.finite && finiteFields rest

end

/-- `sys.get_int_max_str_digits()`. -/
def maxStrDigits : Nat := 4300

mutual

/-- Whether `json.dumps` writes and `json.loads` reads every integer of the value: both raise
`ValueError` on one with too many digits. -/
def digitsFit : Json → Bool
  | .int n => (Nat.toDigits 10 n.natAbs).length ≤ maxStrDigits
  | .arr items => digitsFitItems items
  | .obj fields => digitsFitFields fields
  | _ => true

def digitsFitItems : List Json → Bool
  | [] => true
  | item :: rest => item.digitsFit && digitsFitItems rest

def digitsFitFields : List (String × Json) → Bool
  | [] => true
  | (_, value) :: rest => value.digitsFit && digitsFitFields rest

end

end Json

/-- Whether SQL's `instr(text, part)` is positive. -/
def instr (text part : String) : Bool :=
  text.toList.tails.any fun rest => part.toList.isPrefixOf rest

abbrev Payload := List (String × Json)

namespace Payload

/-- `{**payload, name: value}`. -/
def put (payload : Payload) (name : String) (value : Json) : Payload :=
  if payload.any (fun field => field.1 == name) then
    payload.map fun field => if field.1 == name then (name, value) else field
  else payload ++ [(name, value)]

end Payload

structure PythonLibrary where
  /-- `json.loads`, `none` when it raises. -/
  jsonLoads : String → Option Json
  /-- Whether `datetime.fromisoformat` accepts the text. -/
  fromIsoformat : String → Bool

end MediaSync
