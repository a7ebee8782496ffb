import RestDispatch.Decimal.Shortest

/-!
# The double nearest to a decimal

A decimal `m · 10^e` reads as the double nearest to it, a tie going to the even
significand. The value lies in a binade `[2^k, 2^(k+1))`; its unit in the last
place is `2^(k-52)`, or `2^-1074` below the normal range. Dividing the value by
that unit and rounding gives the significand; a significand that rounds up to
`2^53` moves to the next binade, and one past the largest binade is infinite.

All arithmetic is on natural numbers. Decimals far outside the range of doubles
are settled without arithmetic: below `10^-400` they read as zero and above
`10^400` as infinity.
-/

namespace RestDispatch.Decimal

set_option autoImplicit false

/-- The bits of an infinity. -/
def infinityBits (negative : Bool) : UInt64 :=
  (if negative then 0x8000000000000000 else 0) ||| 0x7FF0000000000000

/-- The bits of a zero. -/
def zeroBits (negative : Bool) : UInt64 :=
  if negative then 0x8000000000000000 else 0

/-- Round `n / d` to the nearest natural number, a tie to the even one. -/
def roundHalfEven (n d : Nat) : Nat :=
  let q := n / d
  let r := n % d
  if 2 * r > d ∨ (2 * r = d ∧ q % 2 = 1) then q + 1 else q

/-- The binary exponent `k` with `2^k ≤ num / den < 2^(k+1)`, for positive
`num` and `den`. -/
def binade (num den : Nat) : Int :=
  let k : Int := (Nat.log2 num : Int) - Nat.log2 den
  let below : Bool :=
    if k ≥ 0 then num < den * Nat.pow 2 k.toNat else num * Nat.pow 2 (-k).toNat < den
  if below then k - 1 else k

/-- The bits of the double nearest to `num / den`, both positive. -/
def nearestRatio (negative : Bool) (num den : Nat) : UInt64 :=
  let q : Int := max (binade num den - 52) (-1074)
  let s :=
    if q ≥ 0 then roundHalfEven num (den * Nat.pow 2 q.toNat)
    else roundHalfEven (num * Nat.pow 2 (-q).toNat) den
  let (s, q) := if s = Nat.pow 2 53 then (Nat.pow 2 52, q + 1) else (s, q)
  if q > 971 then infinityBits negative
  else
    let sign : Nat := if negative then Nat.pow 2 63 else 0
    if s < Nat.pow 2 52 then UInt64.ofNat (sign + s)
    else UInt64.ofNat (sign + (q + 1075).toNat * Nat.pow 2 52 + (s - Nat.pow 2 52))

/-- The bits of the double nearest to `(-1)^negative · m · 10^e`. -/
def nearestBits (negative : Bool) (m : Nat) (e : Int) : UInt64 :=
  if m = 0 then zeroBits negative
  else
    let magnitude : Int := e + (toString m).length
    if magnitude < -400 then zeroBits negative
    else if magnitude > 400 then infinityBits negative
    else
      if e ≥ 0 then nearestRatio negative (m * Nat.pow 10 e.toNat) 1
      else nearestRatio negative m (Nat.pow 10 (-e).toNat)

/-- The decimal is finite as a double. -/
def isFiniteBits (bits : UInt64) : Bool :=
  (bits.toNat / Nat.pow 2 52) % Nat.pow 2 11 != 2047

example : nearestBits false 1 0 = 0x3FF0000000000000 := by decide
example : nearestBits false 1 (-1) = 0x3FB999999999999A := by decide
example : nearestBits false 5 (-324) = 1 := by decide +kernel

end RestDispatch.Decimal
