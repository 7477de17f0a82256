import Mathlib

/-!
# Decimal arithmetic as Python does it

Finite `decimal.Decimal` values under the default context: results are rounded half to even to 28
significant digits.  `PyFloat` is a float as `Decimal(str(value))` reads it.
-/

namespace PyDecimal

/-- A finite decimal: `coefficient · 10 ^ exponent`. -/
structure Decimal where
  coefficient : ℤ
  exponent : ℤ := 0
  deriving DecidableEq

/-- A float, as the decimal that `str` spells. -/
inductive PyFloat
  | finite (value : Decimal)
  | nan
  | infinite (negative : Bool)
  deriving DecidableEq

namespace Decimal

/-- The significant digits of the default context. -/
def precision : ℕ := 28

/-- Round the coefficient half to even to the precision of the context. -/
def round (d : Decimal) : Decimal :=
  let digits := (Nat.toDigits 10 d.coefficient.natAbs).length
  if digits ≤ precision then d
  else
    let dropped := digits - precision
    let quotient := d.coefficient.natAbs / 10 ^ dropped
    let remainder := d.coefficient.natAbs % 10 ^ dropped
    let half := 10 ^ dropped / 2
    let rounded :=
      if half < remainder ∨ (remainder = half ∧ quotient % 2 = 1) then quotient + 1 else quotient
    { coefficient := if d.coefficient < 0 then -rounded else rounded
      exponent := d.exponent + dropped }

/-- `d <= n` for an integer `n`. -/
def leInt (d : Decimal) (n : ℤ) : Bool :=
  if 0 ≤ d.exponent then d.coefficient * 10 ^ d.exponent.toNat ≤ n
  else d.coefficient ≤ n * 10 ^ (-d.exponent).toNat

/-- `d / Decimal("100")`. -/
def divHundred (d : Decimal) : Decimal := { d with exponent := d.exponent - 2 }.round

/-- `Decimal(n) * d`. -/
def mulInt (n : ℤ) (d : Decimal) : Decimal := { d with coefficient := n * d.coefficient }.round

/-- `int(d.to_integral_value(ROUND_CEILING))`. -/
def ceil (d : Decimal) : ℤ :=
  if 0 ≤ d.exponent then d.coefficient * 10 ^ d.exponent.toNat
  else -(-d.coefficient / 10 ^ (-d.exponent).toNat)

end Decimal

end PyDecimal
