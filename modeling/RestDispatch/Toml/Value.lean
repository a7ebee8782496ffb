/-!
# TOML values and documents

The values a TOML document holds: strings, 64-bit integers, doubles by their
bits, booleans, dates and times, arrays and inline tables. A document is a tree
of tables whose leaves are values; an array of tables is a list of tables under
one key.

A table records how it came to be, because that decides what may later be added
to it: a table declared by a header, a table implied as the parent of a header,
or a table implied by a dotted key. Inline tables are values and are closed once
written; those implied by a dotted key inside an inline table are marked so.

A date-time prints in the form the document model gives it: the date as
`YYYY-MM-DD`, a `T` before the time, the time as `HH:MM:SS` with the fraction of
a second trimmed of trailing zeros, and the offset as `Z` or `±HH:MM`.
-/

namespace RestDispatch.Toml

set_option autoImplicit false

/-- A calendar date. -/
structure Date where
  year : Nat
  month : Nat
  day : Nat
  deriving Repr, DecidableEq

/-- A time of day; `nanosecond` holds the fraction of a second. -/
structure Time where
  hour : Nat
  minute : Nat
  second : Nat
  nanosecond : Nat
  deriving Repr, DecidableEq

/-- An offset from universal time: `Z`, or a signed number of minutes. -/
inductive Offset where
  | utc
  | minutes (m : Int)
  deriving Repr, DecidableEq

/-- A date, a time, or both, with an offset only when both are present. -/
structure Datetime where
  date : Option Date
  time : Option Time
  offset : Option Offset
  deriving Repr, DecidableEq

/-- A natural number in at least `width` digits, zeros in front. -/
def padded (width n : Nat) : String :=
  let s := toString n
  String.ofList (List.replicate (width - s.length) '0') ++ s

/-- The text of a date. -/
def Date.render (d : Date) : String :=
  padded 4 d.year ++ "-" ++ padded 2 d.month ++ "-" ++ padded 2 d.day

/-- The text of a time: a fraction only when nonzero, without trailing zeros. -/
def Time.render (t : Time) : String :=
  let base := padded 2 t.hour ++ ":" ++ padded 2 t.minute ++ ":" ++ padded 2 t.second
  if t.nanosecond = 0 then base
  else
    let digits := (padded 9 t.nanosecond).toList
    base ++ "." ++ String.ofList (digits.reverse.dropWhile (· == '0')).reverse

/-- The text of an offset. -/
def Offset.render : Offset → String
  | .utc => "Z"
  | .minutes m =>
    let sign := if m < 0 then "-" else "+"
    let a := m.natAbs
    sign ++ padded 2 (a / 60) ++ ":" ++ padded 2 (a % 60)

/-- The text of a date-time. -/
def Datetime.render (d : Datetime) : String :=
  let date := (d.date.map Date.render).getD ""
  let sep := if d.date.isSome && d.time.isSome then "T" else ""
  let time := (d.time.map Time.render).getD ""
  let offset := (d.offset.map Offset.render).getD ""
  date ++ sep ++ time ++ offset

/-- A value written after `=` or inside an array. -/
inductive Value where
  | string (s : String)
  | integer (i : Int)
  | float (bits : UInt64)
  | boolean (b : Bool)
  | datetime (d : Datetime)
  | array (items : List Value)
  /-- An inline table; `dotted` marks one implied by a dotted key. -/
  | inline (dotted : Bool) (entries : List (String × Value))
  deriving Repr, Inhabited

/-- How a table of a document came to be. -/
inductive Origin where
  /-- Declared by a header, or the root. -/
  | header
  /-- Implied as the parent of a header. -/
  | parent
  /-- Implied by a dotted key. -/
  | dotted
  deriving Repr, DecidableEq

/-- A node of a document: a value, a table, or an array of tables. -/
inductive Node where
  | value (v : Value)
  | table (origin : Origin) (entries : List (String × Node))
  | tables (elements : List (List (String × Node)))
  deriving Repr, Inhabited

example : (Datetime.mk (some ⟨1979, 5, 27⟩) (some ⟨7, 32, 0, 500000000⟩) (some (.minutes (-420)))).render =
    "1979-05-27T07:32:00.5-07:00" := by decide +kernel

end RestDispatch.Toml
