import RestDispatch.Route.Method
import RestDispatch.Text.Case

/-!
# Header maps

Header names are HTTP tokens, stored in lower case; header values are texts
without control characters other than the tab.

A `Headers` map keeps its names in the order of their first insertion, each
with its values in order. `insert` replaces every value of a name but keeps the
name's place; `append` adds a value after the others. Reading the map as pairs
lists, name by name, every value.
-/

namespace RestDispatch.Web

open RestDispatch.Text

set_option autoImplicit false

/-- A header name in its stored form, when the text is a valid name. -/
def headerName? (name : String) : Option String :=
  if !name.isEmpty && name.length < 65536 && name.toList.all isTokenChar then some (asciiLower name)
  else none

/-- A valid header value: no control character but the tab. -/
def isHeaderValue (value : String) : Bool :=
  value.toList.all fun c => c == '\t' || (c.toNat ≥ 0x20 && c.toNat != 0x7F)

/-- Headers by name, names in first-insertion order, each with its values. -/
structure Headers where
  entries : List (String × List String)
  deriving Repr, DecidableEq, Inhabited

namespace Headers

/-- No headers. -/
def empty : Headers := ⟨[]⟩

/-- Change the values of a name in place, or add the name at the end. -/
def update (h : Headers) (name : String) (change : List String → List String) : Headers :=
  if h.entries.any (fun e => e.1 == name) then
    ⟨h.entries.map fun e => if e.1 == name then (e.1, change e.2) else e⟩
  else ⟨h.entries ++ [(name, change [])]⟩

/-- Set a name to one value, replacing its earlier values. -/
def insert (h : Headers) (name value : String) : Headers :=
  h.update name fun _ => [value]

/-- Add a value to a name, after its earlier values. -/
def append (h : Headers) (name value : String) : Headers :=
  h.update name fun vs => vs ++ [value]

/-- Every value with its name, name by name. -/
def toPairs (h : Headers) : List (String × String) :=
  h.entries.flatMap fun e => e.2.map fun v => (e.1, v)

/-- The number of values. -/
def count (h : Headers) : Nat :=
  h.toPairs.length

/-- The map holds no value. -/
def isEmpty (h : Headers) : Bool :=
  h.entries.isEmpty

end Headers

end RestDispatch.Web
