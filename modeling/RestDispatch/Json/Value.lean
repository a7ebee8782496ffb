import RestDispatch.Decimal.Shortest

/-!
# JSON values

A JSON value as the dispatcher holds response bodies and configuration
documents. Numbers keep the distinction that JSON readers make: a whole number
that fits 64 bits stays an integer, any other number is a double, kept by its
bits so that values compare exactly.

`Value.mkObject` builds an object the way a sorted map does: keys in increasing
order, and for a repeated key the last value. `Value.compact` writes a value
without blanks: strings with the two-character escapes for quotes, backslashes
and the common control characters, other control characters as `\u00XX`,
integers in decimal, and doubles in the shortest form that reads back.
-/

namespace RestDispatch.Json

set_option autoImplicit false

/-- A JSON number: an integer that fits 64 bits, or a double by its bits. -/
inductive Number where
  | int (i : Int)
  | float (bits : UInt64)
  deriving Repr, DecidableEq, Inhabited

/-- A JSON value. Objects keep their entries in order. -/
inductive Value where
  | null
  | bool (b : Bool)
  | number (n : Number)
  | string (s : String)
  | array (items : List Value)
  | object (entries : List (String × Value))
  deriving Repr, Inhabited

namespace Value

/-- Insert an entry into entries sorted by key, replacing an entry of the same key. -/
def insertSorted (k : String) (v : Value) : List (String × Value) → List (String × Value)
  | [] => [(k, v)]
  | (k', v') :: rest =>
    if k = k' then (k, v) :: rest
    else if k < k' then (k, v) :: (k', v') :: rest
    else (k', v') :: insertSorted k v rest

/-- An object with its keys sorted, the last value of a repeated key kept. -/
def mkObject (entries : List (String × Value)) : Value :=
  .object (entries.foldl (fun acc kv => insertSorted kv.1 kv.2 acc) [])

/-- An integer value. -/
def ofInt (i : Int) : Value := .number (.int i)

/-- A natural number value. -/
def ofNat (n : Nat) : Value := .number (.int n)

/-- A text value, or null. -/
def ofOption (s : Option String) : Value :=
  match s with
  | some t => .string t
  | none => .null

/-- A list of texts. -/
def ofStrings (xs : List String) : Value :=
  .array (xs.map .string)

/-- A list of pairs of texts, each as a two-element array. -/
def ofPairs (xs : List (String × String)) : Value :=
  .array (xs.map fun (a, b) => .array [.string a, .string b])

/-- The value at a key of an object. -/
def get? (v : Value) (key : String) : Option Value :=
  match v with
  | .object entries => (entries.find? (fun kv => kv.1 == key)).map Prod.snd
  | _ => none

end Value

/-- Four lowercase hexadecimal digits. -/
def hex4 (n : Nat) : String :=
  let digit (d : Nat) : Char := if d < 10 then Char.ofNat (48 + d) else Char.ofNat (87 + d)
  String.ofList [digit (n / 4096 % 16), digit (n / 256 % 16), digit (n / 16 % 16), digit (n % 16)]

/-- A character inside a quoted JSON string. -/
def escapeChar (c : Char) : String :=
  match c with
  | '"' => "\\\""
  | '\\' => "\\\\"
  | '\n' => "\\n"
  | '\r' => "\\r"
  | '\t' => "\\t"
  | _ =>
    if c.toNat = 8 then "\\b"
    else if c.toNat = 12 then "\\f"
    else if c.toNat < 0x20 then "\\u" ++ hex4 c.toNat
    else c.toString

/-- A quoted JSON string. -/
def quote (s : String) : String :=
  "\"" ++ String.join (s.toList.map escapeChar) ++ "\""

/-- The text of a number. -/
def Number.render : Number → String
  | .int i => toString i
  | .float bits => Decimal.jsonText bits

mutual

/-- The compact text of a value. -/
def Value.compact : Value → String
  | .null => "null"
  | .bool b => if b then "true" else "false"
  | .number n => n.render
  | .string s => quote s
  | .array items => "[" ++ compactItems items ++ "]"
  | .object entries => "\x7b" ++ compactEntries entries ++ "\x7d"

/-- The compact texts of array items, joined by commas. -/
def compactItems : List Value → String
  | [] => ""
  | [v] => v.compact
  | v :: rest => v.compact ++ "," ++ compactItems rest

/-- The compact texts of object entries, joined by commas. -/
def compactEntries : List (String × Value) → String
  | [] => ""
  | [(k, v)] => quote k ++ ":" ++ v.compact
  | (k, v) :: rest => quote k ++ ":" ++ v.compact ++ "," ++ compactEntries rest

end

end RestDispatch.Json
