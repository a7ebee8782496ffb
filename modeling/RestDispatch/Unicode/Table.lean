/-!
# Code point tables

The tables of the Unicode character database are kept as text, one literal per
table, and read once into arrays that are searched by halving. Two shapes are
used.

A *range set* is a text of closed ranges in increasing order, apart from each
other, separated by blanks: `lo` for one code point and `lo-hi` for more, in
hexadecimal.

A *run map* gives every code point a value: the text lists `start:value` for
each run of equal values, starts in increasing hexadecimal, and a code point
takes the value of the last run that starts at or before it. The first run
starts at zero.

`lastAtMost` is the search both shapes use: the last position of a sorted
array whose entry is at most the key.
-/

namespace RestDispatch.Unicode

set_option autoImplicit false

/-- The value of a hexadecimal digit. -/
def hexDigitValue? (c : Char) : Option Nat :=
  if '0' ≤ c ∧ c ≤ '9' then some (c.toNat - 48)
  else if 'a' ≤ c ∧ c ≤ 'f' then some (c.toNat - 87)
  else if 'A' ≤ c ∧ c ≤ 'F' then some (c.toNat - 55)
  else none

/-- The value of a hexadecimal numeral; the empty text is no numeral. -/
def hexValue? (s : String) : Option Nat :=
  match s.toList with
  | [] => none
  | cs => cs.foldlM (fun acc c => (hexDigitValue? c).map (acc * 16 + ·)) 0

/-- The last position in `[lo, hi)` whose entry is at most `x`, given that the
entry at `lo` is; the entries are increasing. -/
def lastAtMost (xs : Array Nat) (x : Nat) (lo hi : Nat) : Nat :=
  if h : lo + 1 < hi then
    let mid := (lo + hi) / 2
    if xs.getD mid 0 ≤ x then lastAtMost xs x mid hi else lastAtMost xs x lo mid
  else lo
termination_by hi - lo
decreasing_by all_goals omega

/-- Closed ranges of code points, increasing and apart. -/
structure RangeSet where
  los : Array Nat
  his : Array Nat
  deriving Inhabited

namespace RangeSet

/-- The range a token `lo` or `lo-hi` names. -/
def rangeOfToken? (token : String) : Option (Nat × Nat) :=
  match token.splitOn "-" with
  | [a] => (hexValue? a).map fun v => (v, v)
  | [a, b] => do pure (← hexValue? a, ← hexValue? b)
  | _ => none

/-- A range set from its ranges, which must be increasing and apart. -/
def ofList (rs : List (Nat × Nat)) : RangeSet :=
  ⟨(rs.map Prod.fst).toArray, (rs.map Prod.snd).toArray⟩

/-- A range set from its text; tokens that name no range are skipped. -/
def ofText (text : String) : RangeSet :=
  ofList ((text.splitOn " ").filterMap rangeOfToken?)

/-- The ranges, in increasing order. -/
def toList (s : RangeSet) : List (Nat × Nat) :=
  s.los.toList.zip s.his.toList

/-- Membership of a code point. -/
def contains (s : RangeSet) (cp : Nat) : Bool :=
  if s.los.size = 0 then false
  else if cp < s.los.getD 0 0 then false
  else cp ≤ s.his.getD (lastAtMost s.los cp 0 s.los.size) 0

end RangeSet

/-- Values of all code points, by runs. -/
structure RunMap where
  starts : Array Nat
  values : Array String
  deriving Inhabited

namespace RunMap

/-- The start and value a token `start:value` names. -/
def runOfToken? (token : String) : Option (Nat × String) :=
  match token.splitOn ":" with
  | [a, v] => (hexValue? a).map fun s => (s, v)
  | _ => none

/-- A run map from its text. -/
def ofText (text : String) : RunMap :=
  let runs := (text.splitOn " ").filterMap runOfToken?
  ⟨(runs.map Prod.fst).toArray, (runs.map Prod.snd).toArray⟩

/-- The value of a code point. -/
def get (m : RunMap) (cp : Nat) : String :=
  if m.starts.size = 0 then ""
  else m.values.getD (lastAtMost m.starts cp 0 m.starts.size) ""

/-- The runs as closed ranges with their values, up to the last code point. -/
def runs (m : RunMap) : List (Nat × Nat × String) :=
  let ends := (m.starts.toList.drop 1).map (· - 1) ++ [0x10FFFF]
  (m.starts.toList.zip (ends.zip m.values.toList)).map fun (s, e, v) => (s, e, v)

/-- The code points whose value passes a test, as increasing ranges with
neighbours joined. -/
def rangesWhere (m : RunMap) (p : String → Bool) : List (Nat × Nat) :=
  ((m.runs.filter fun (_, _, v) => p v).map fun (s, e, _) => (s, e)).foldr
    (fun (s, e) acc => match acc with
      | (s', e') :: rest => if e + 1 = s' then (s, e') :: rest else (s, e) :: acc
      | [] => [(s, e)]) []

end RunMap

example : hexValue? "1F600" = some 0x1F600 ∧ hexValue? "" = none ∧ hexValue? "g" = none := by
  decide

end RestDispatch.Unicode
