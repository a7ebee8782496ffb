/-!
# Captured variables and settings

`Params` holds the variables captured while a path is matched, as name and
value pairs in capture order; a name may occur twice, and a look-up finds the
first. `Settings` maps keys to values in the order in which keys were first
inserted: inserting a key again keeps its place and takes the new value.
-/

namespace RestDispatch

set_option autoImplicit false

/-- Captured variables in capture order. -/
structure Params where
  pairs : List (String × String)
  deriving Repr, DecidableEq, Inhabited, BEq

namespace Params

/-- No captures. -/
def empty : Params := ⟨[]⟩

/-- Add a capture at the end. -/
def push (p : Params) (name value : String) : Params :=
  ⟨p.pairs ++ [(name, value)]⟩

/-- The value of the first capture with this name. -/
def get? (p : Params) (name : String) : Option String :=
  (p.pairs.find? (fun kv => kv.1 == name)).map Prod.snd

/-- Some capture has this name. -/
def contains (p : Params) (name : String) : Bool :=
  p.pairs.any (fun kv => kv.1 == name)

/-- The captures of one list, then those of the other. -/
def append (p q : Params) : Params :=
  ⟨p.pairs ++ q.pairs⟩

/-- The number of captures. -/
def length (p : Params) : Nat :=
  p.pairs.length

end Params

/-- Keys and values in first-insertion order, each key once. -/
structure Settings where
  entries : List (String × String)
  deriving Repr, DecidableEq, Inhabited, BEq

namespace Settings

/-- No entries. -/
def empty : Settings := ⟨[]⟩

/-- Set a key: a present key keeps its place and takes the value, a new key
goes last. -/
def insert (s : Settings) (key value : String) : Settings :=
  if s.entries.any (fun kv => kv.1 == key) then
    ⟨s.entries.map fun kv => if kv.1 == key then (key, value) else kv⟩
  else
    ⟨s.entries ++ [(key, value)]⟩

/-- Insert each pair in turn. -/
def insertAll (s : Settings) (pairs : List (String × String)) : Settings :=
  pairs.foldl (fun acc kv => acc.insert kv.1 kv.2) s

/-- The settings of a list of pairs, inserted in turn. -/
def ofPairs (pairs : List (String × String)) : Settings :=
  empty.insertAll pairs

/-- The value of a key. -/
def get? (s : Settings) (key : String) : Option String :=
  (s.entries.find? (fun kv => kv.1 == key)).map Prod.snd

end Settings

end RestDispatch
