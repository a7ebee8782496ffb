import RestDispatch.Json.Value
import RestDispatch.Toml.Document

/-!
# Configuration trees

A configuration is decoded from a tree that both document formats map into:
nulls, booleans, integers, doubles, strings, date-times, sequences and maps.
The formats differ in a few places, which a `Dialect` records:

* a JSON text keeps every entry of an object, repeated keys included; a JSON
  value holds each key once, the last value winning, in increasing key order;
* a record given as a sequence may carry extra items in TOML, never in JSON;
* a choice among names written as a one-entry map carries `null` in JSON, and
  in TOML an empty table or array, where a table from a header may also have
  further entries, of which the first counts.

A TOML date-time is kept as its text; only a map of settings accepts one, as a
single entry under the key `$__toml_private_datetime`.
-/

namespace RestDispatch

set_option autoImplicit false

/-- A document as the decoder sees it. -/
inductive Tree where
  | null
  | bool (b : Bool)
  | int (i : Int)
  | float (bits : UInt64)
  | string (s : String)
  | datetime (text : String)
  | seq (items : List Tree)
  /-- A map; `inline` is false only for a TOML table from a header. -/
  | map (inline : Bool) (entries : List (String × Tree))
  deriving Repr, Inhabited

/-- The rules a document format sets for decoding. -/
structure Dialect where
  /-- A record given as a sequence may not have more items than fields. -/
  strictSequences : Bool
  /-- A choice written as a map carries `null`, not an empty table or array. -/
  nullChoice : Bool
  deriving Repr, DecidableEq

namespace Dialect

/-- The rules of JSON. -/
def json : Dialect := ⟨true, true⟩

/-- The rules of TOML. -/
def toml : Dialect := ⟨false, false⟩

end Dialect

/-- The key under which a TOML date-time shows as a map. -/
def datetimeKey : String := "$__toml_private_datetime"

namespace Tree

mutual

/-- The tree of a JSON text, every entry of an object kept. -/
def ofJson : Json.Value → Tree
  | .null => .null
  | .bool b => .bool b
  | .number (.int i) => .int i
  | .number (.float bits) => .float bits
  | .string s => .string s
  | .array items => .seq (ofJsonItems items)
  | .object entries => .map true (ofJsonEntries entries)

/-- The trees of JSON items. -/
def ofJsonItems : List Json.Value → List Tree
  | [] => []
  | v :: rest => ofJson v :: ofJsonItems rest

/-- The trees of JSON entries. -/
def ofJsonEntries : List (String × Json.Value) → List (String × Tree)
  | [] => []
  | (k, v) :: rest => (k, ofJson v) :: ofJsonEntries rest

end

/-- Insert an entry into entries sorted by key, replacing one of the same key. -/
def insertSorted (k : String) (v : Tree) : List (String × Tree) → List (String × Tree)
  | [] => [(k, v)]
  | (k', v') :: rest =>
    if k = k' then (k, v) :: rest
    else if k < k' then (k, v) :: (k', v') :: rest
    else (k', v') :: insertSorted k v rest

mutual

/-- The tree of a JSON value held as a map: each key once, the last value
kept, keys in increasing order. -/
def ofJsonValue : Json.Value → Tree
  | .null => .null
  | .bool b => .bool b
  | .number (.int i) => .int i
  | .number (.float bits) => .float bits
  | .string s => .string s
  | .array items => .seq (ofJsonValueItems items)
  | .object entries =>
    .map true ((ofJsonValueEntries entries).foldl (fun acc kv => insertSorted kv.1 kv.2 acc) [])

/-- The trees of JSON items. -/
def ofJsonValueItems : List Json.Value → List Tree
  | [] => []
  | v :: rest => ofJsonValue v :: ofJsonValueItems rest

/-- The trees of JSON entries. -/
def ofJsonValueEntries : List (String × Json.Value) → List (String × Tree)
  | [] => []
  | (k, v) :: rest => (k, ofJsonValue v) :: ofJsonValueEntries rest

end

mutual

/-- The tree of a TOML value. -/
def ofTomlValue : Toml.Value → Tree
  | .string s => .string s
  | .integer i => .int i
  | .float bits => .float bits
  | .boolean b => .bool b
  | .datetime d => .datetime d.render
  | .array items => .seq (ofTomlValues items)
  | .inline _ entries => .map true (ofTomlValueEntries entries)

/-- The trees of TOML values. -/
def ofTomlValues : List Toml.Value → List Tree
  | [] => []
  | v :: rest => ofTomlValue v :: ofTomlValues rest

/-- The trees of the entries of an inline table. -/
def ofTomlValueEntries : List (String × Toml.Value) → List (String × Tree)
  | [] => []
  | (k, v) :: rest => (k, ofTomlValue v) :: ofTomlValueEntries rest

end

mutual

/-- The tree of a node of a TOML document. -/
def ofTomlNode : Toml.Node → Tree
  | .value v => ofTomlValue v
  | .table _ entries => .map false (ofTomlEntries entries)
  | .tables elements => .seq (ofTomlTables elements)

/-- The trees of the entries of a table. -/
def ofTomlEntries : List (String × Toml.Node) → List (String × Tree)
  | [] => []
  | (k, n) :: rest => (k, ofTomlNode n) :: ofTomlEntries rest

/-- The trees of the tables of an array of tables. -/
def ofTomlTables : List (List (String × Toml.Node)) → List Tree
  | [] => []
  | t :: rest => .map false (ofTomlEntries t) :: ofTomlTables rest

end

/-- The value at a key of a map. -/
def get? (t : Tree) (key : String) : Option Tree :=
  match t with
  | .map _ entries => (entries.find? (·.1 == key)).map Prod.snd
  | _ => none

/-- The tree of a TOML document's root table. -/
def ofTomlDocument (root : List (String × Toml.Node)) : Tree :=
  .map false (ofTomlEntries root)

end Tree

end RestDispatch
