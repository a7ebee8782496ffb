/-!
# Shortest decimal form of a double

A finite double is `m · 2^q`. Reading a decimal back gives the double nearest to
it, so every decimal strictly inside the interval halfway to the two
neighbouring doubles reads back as `m · 2^q`, and so do the two ends when `m` is
even (a tie goes to the even significand).

`shortestDigits` finds the fewest significant digits that read back: for one
digit, then two, up to seventeen, it looks at the two multiples of the grid step
`10^p` around the value, with `p` chosen so that the grid has that many digits.
The first grid with a multiple inside the interval wins; of two such multiples
the nearer one wins, and an exact tie goes to the even one. All arithmetic is on
natural numbers scaled by one common factor, so it is exact.

Two layouts print the result: `renderPlain` never uses an exponent and writes
whole numbers without a point (`1`, `0.0001`, `0.0000001`); `renderJson` writes
whole numbers with `.0` and switches to an exponent far from one, written with
its sign when it is positive (`1.0`, `0.0001`, `1e-7`, `1e+16`).
-/

namespace RestDispatch.Decimal

set_option autoImplicit false

/-- A finite double split into sign, significand and binary exponent:
`(-1)^negative · significand · 2^exponent`. -/
structure Binary where
  negative : Bool
  significand : Nat
  exponent : Int
  /-- The lower neighbour is half as far as the upper one: the significand is
  the smallest of its binade and the binade is not the lowest. -/
  narrowBelow : Bool
  deriving Repr, DecidableEq

/-- A double, by its bits, when finite. -/
def Binary.ofBits? (bits : UInt64) : Option Binary :=
  let b := bits.toNat
  let negative := b ≥ Nat.pow 2 63
  let biased : Nat := (b / Nat.pow 2 52) % Nat.pow 2 11
  let fraction : Nat := b % Nat.pow 2 52
  if biased = 2047 then none
  else if biased = 0 then some ⟨negative, fraction, -1074, false⟩
  else some ⟨negative, fraction + Nat.pow 2 52, (biased : Int) - 1075, fraction = 0 ∧ biased > 1⟩

/-- A decimal `digits · 10^exponent` with its sign. -/
structure Shortest where
  negative : Bool
  digits : Nat
  exponent : Int
  deriving Repr, DecidableEq

/-- The common scale: every quantity below is an integer once multiplied by
`2^scaleTwo · 10^scaleTen`. -/
def scaleTwo : Nat := 1080

/-- The power of ten in the common scale. -/
def scaleTen : Nat := 400

/-- `c · 2^e · 10^f` scaled by the common factor, for `e ≥ -scaleTwo` and
`f ≥ -scaleTen`. -/
def scaled (c : Nat) (e f : Int) : Nat :=
  c * Nat.pow 2 (e + scaleTwo).toNat * Nat.pow 10 (f + scaleTen).toNat

/-- The largest `k` with `10^k ≤ v`, for a scaled `v` at least one unit, searched
from `k` downward. -/
def floorLog10 (v : Nat) : Nat → Int → Int
  | 0, k => k
  | fuel + 1, k => if scaled 1 0 k ≤ v then k else floorLog10 v fuel (k - 1)

/-- Drop trailing zero digits, raising the exponent. -/
def trimZeros : Nat → Nat → Int → Nat × Int
  | 0, d, p => (d, p)
  | fuel + 1, d, p => if d ≠ 0 ∧ d % 10 = 0 then trimZeros fuel (d / 10) (p + 1) else (d, p)

/-- The shortest decimal that reads back as the double. -/
def shortestDigits (x : Binary) : Shortest :=
  if x.significand = 0 then ⟨x.negative, 0, 0⟩
  else
    let v := scaled x.significand x.exponent 0
    let high := scaled (2 * x.significand + 1) (x.exponent - 1) 0
    let low :=
      if x.narrowBelow then scaled (4 * x.significand - 1) (x.exponent - 2) 0
      else scaled (2 * x.significand - 1) (x.exponent - 1) 0
    let inclusive := x.significand % 2 = 0
    let inside (y : Nat) : Bool :=
      (low < y && y < high) || (inclusive && (y == low || y == high))
    let estimate : Int := ((Nat.log2 x.significand : Int) + x.exponent) * 30103 / 100000
    let top := floorLog10 v 6 (estimate + 2)
    let rec search : Nat → Nat → Shortest
      | 0, _ => ⟨x.negative, x.significand, 0⟩
      | fuel + 1, k =>
        let p : Int := top - k + 1
        let step := scaled 1 0 p
        let q := v / step
        let below := q * step
        let above := if v % step = 0 then below else below + step
        let pick (n : Nat) : Shortest :=
          let (d, e) := trimZeros 20 n p
          ⟨x.negative, d, e⟩
        match inside below, inside above with
        | true, true =>
          if v - below < above - v then pick q
          else if above - v < v - below then pick (above / step)
          else if q % 2 = 0 then pick q else pick (above / step)
        | true, false => pick q
        | false, true => pick (above / step)
        | false, false => search fuel (k + 1)
    search 17 1

/-- The decimal digits of a natural number. -/
def digitText (n : Nat) : String :=
  toString n

/-- `n` zeros. -/
def zeros (n : Nat) : String :=
  String.ofList (List.replicate n '0')

/-- A decimal without an exponent; whole numbers have no point. -/
def Shortest.renderPlain (s : Shortest) : String :=
  let sign := if s.negative then "-" else ""
  let ds := digitText s.digits
  if s.exponent ≥ 0 then
    if s.digits = 0 then sign ++ "0" else sign ++ ds ++ zeros s.exponent.toNat
  else
    let shift := (-s.exponent).toNat
    if shift < ds.length then
      sign ++ String.ofList (ds.toList.take (ds.length - shift)) ++ "." ++
        String.ofList (ds.toList.drop (ds.length - shift))
    else sign ++ "0." ++ zeros (shift - ds.length) ++ ds

/-- A decimal in the layout of the JSON writer: positional from `1e-5` up to
below `1e16`, with `.0` on whole numbers, and an exponent otherwise, with `+`
before a positive one. -/
def Shortest.renderJson (s : Shortest) : String :=
  let sign := if s.negative then "-" else ""
  if s.digits = 0 then sign ++ "0.0"
  else
    let ds := digitText s.digits
    let n : Int := ds.length
    let k := s.exponent
    let kk := n + k
    if 0 ≤ k ∧ kk ≤ 16 then sign ++ ds ++ zeros k.toNat ++ ".0"
    else if 0 < kk ∧ kk ≤ 16 then
      sign ++ String.ofList (ds.toList.take kk.toNat) ++ "." ++ String.ofList (ds.toList.drop kk.toNat)
    else if -5 < kk ∧ kk ≤ 0 then sign ++ "0." ++ zeros (-kk).toNat ++ ds
    else
      let e := if 0 ≤ kk - 1 then "+" ++ toString (kk - 1) else toString (kk - 1)
      if ds.length = 1 then sign ++ ds ++ "e" ++ e
      else sign ++ String.ofList (ds.toList.take 1) ++ "." ++ String.ofList (ds.toList.drop 1) ++ "e" ++ e

/-- The text of a double without an exponent, as the metrics page writes it. -/
def plainText (bits : UInt64) : String :=
  match Binary.ofBits? bits with
  | some b => (shortestDigits b).renderPlain
  | none =>
    let f := Float.ofBits bits
    if f.isNaN then "NaN" else if bits.toNat ≥ Nat.pow 2 63 then "-inf" else "inf"

/-- The text of a double as the JSON writer prints it; non-finite values are `null`. -/
def jsonText (bits : UInt64) : String :=
  match Binary.ofBits? bits with
  | some b => (shortestDigits b).renderJson
  | none => "null"

end RestDispatch.Decimal
