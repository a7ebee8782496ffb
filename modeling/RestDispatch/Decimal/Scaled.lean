import RestDispatch.Decimal.Shortest
import RestDispatch.Decimal.Nearest

/-!
# Decimals read by scaling

Besides the nearest double, a decimal `m · 10^e` has a quicker reading: round
`m` to a double, then multiply or divide it by the double nearest to `10^|e|`,
rounding once more. Powers up to `10^308` are used directly. A smaller exponent
first divides by `10^308` until the power is in reach, unless the value is
already zero; a larger one with a nonzero value has no reading, and neither has
a product that overflows. The two roundings can leave the result one place away
from the nearest double, so this reading is a rule of its own.

Every step is exact arithmetic on natural numbers: a finite double is the ratio
`significand · 2^exponent`, and each product or quotient is rounded by
`nearestRatio`.
-/

namespace RestDispatch.Decimal

set_option autoImplicit false

/-- A finite double without its sign as a ratio of natural numbers. -/
def ratioOfBits (bits : UInt64) : Nat × Nat :=
  match Binary.ofBits? bits with
  | some b =>
    if b.exponent ≥ 0 then (b.significand * Nat.pow 2 b.exponent.toNat, 1)
    else (b.significand, Nat.pow 2 (-b.exponent).toNat)
  | none => (0, 1)

/-- The double nearest to a nonnegative ratio; zero for a zero numerator. -/
def roundRatio (num den : Nat) : UInt64 :=
  if num = 0 then zeroBits false else nearestRatio false num den

/-- The rounded product of two nonnegative finite doubles. -/
def mulBits (a b : UInt64) : UInt64 :=
  let (n₁, d₁) := ratioOfBits a
  let (n₂, d₂) := ratioOfBits b
  roundRatio (n₁ * n₂) (d₁ * d₂)

/-- The rounded quotient of two nonnegative finite doubles, the divisor nonzero. -/
def divBits (a b : UInt64) : UInt64 :=
  let (n₁, d₁) := ratioOfBits a
  let (n₂, d₂) := ratioOfBits b
  roundRatio (n₁ * d₂) (d₁ * n₂)

/-- The rounded sum of two nonnegative finite doubles. -/
def addBits (a b : UInt64) : UInt64 :=
  let (n₁, d₁) := ratioOfBits a
  let (n₂, d₂) := ratioOfBits b
  roundRatio (n₁ * d₂ + n₂ * d₁) (d₁ * d₂)

/-- The double nearest to `10^k`. -/
def powerOfTen (k : Nat) : UInt64 := nearestBits false 1 k

/-- The double nearest to a natural number. -/
def natBits (m : Nat) : UInt64 := nearestBits false m 0

/-- Scale a nonnegative double by `10^e`; `fuel` bounds the divisions by `10^308`. -/
def scaleByTen : Nat → UInt64 → Int → Option UInt64
  | 0, f, _ => some f
  | fuel + 1, f, e =>
    if e.natAbs ≤ 308 then
      if e ≥ 0 then
        let g := mulBits f (powerOfTen e.toNat)
        if isFiniteBits g then some g else none
      else some (divBits f (powerOfTen e.natAbs))
    else if f = zeroBits false then some f
    else if e ≥ 0 then none
    else scaleByTen fuel (divBits f (powerOfTen 308)) (e + 308)

/-- The sign of a double. -/
def isNegativeBits (bits : UInt64) : Bool := bits.toNat ≥ Nat.pow 2 63

/-- The order of two finite doubles: `a ≤ b` as numbers, so both zeros are
equal. -/
def leBits (a b : UInt64) : Bool :=
  let (n₁, d₁) := ratioOfBits a
  let (n₂, d₂) := ratioOfBits b
  match isNegativeBits a, isNegativeBits b with
  | false, false => n₁ * d₂ ≤ n₂ * d₁
  | true, true => n₂ * d₁ ≤ n₁ * d₂
  | true, false => true
  | false, true => n₁ = 0 ∧ n₂ = 0

/-- Give a nonnegative double the sign. -/
def withSign (negative : Bool) (bits : UInt64) : UInt64 :=
  if negative then bits ||| 0x8000000000000000 else bits

/-- The scaled reading of `(-1)^negative · m · 10^e`, if it has one. -/
def scaledBits (negative : Bool) (m : Nat) (e : Int) : Option UInt64 :=
  (scaleByTen (e.natAbs / 308 + 2) (natBits m) e).map (withSign negative)

example : scaledBits false 1 (-1) = some 0x3FB999999999999A := by decide +kernel
example : scaledBits false 1 400 = none := by decide +kernel
example : scaledBits true 0 400 = some 0x8000000000000000 := by decide +kernel
example : leBits 0x8000000000000000 0 = true ∧ leBits 0 0x8000000000000000 = true := by decide +kernel
example : leBits 0x3FF0000000000000 0x3FB999999999999A = false := by decide +kernel

end RestDispatch.Decimal
