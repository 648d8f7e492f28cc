/-! Binary floating point values as exact fractions, and the value nearest to a fraction. -/

set_option autoImplicit false

namespace UsageGrammar.Decimal

structure Binary where
  mantissa : Nat
  exponent : Int
  /-- Is the gap to the value below half the gap to the value above? -/
  narrowBelow : Bool
  deriving Repr, DecidableEq

def Binary.ofFloat (x : Float) : Binary :=
  let bits := x.toBits.toNat
  let exponent : Nat := bits / Nat.pow 2 52 % Nat.pow 2 11
  let fraction : Nat := bits % Nat.pow 2 52
  -- Numbers below the normal ones have no leading bit that goes without saying.
  if exponent = 0 then ⟨fraction, -1074, false⟩
  else ⟨Nat.pow 2 52 + fraction, (exponent : Int) - 1075, fraction == 0 && 1 < exponent⟩

def Binary.truncate (b : Binary) : Nat :=
  b.mantissa * Nat.pow 2 b.exponent.toNat / Nat.pow 2 (-b.exponent).toNat

/-- The integer nearest to a quotient; of two nearest ones the even one. -/
def roundQuotient (numerator denominator : Nat) : Nat :=
  let whole := numerator / denominator
  let rest := 2 * (numerator % denominator)
  if denominator < rest || (rest == denominator && whole % 2 == 1) then whole + 1 else whole

def nearestBits (numerator denominator : Nat) : Nat :=
  let ratio : Int := (numerator.log2 : Int) - denominator.log2
  let fits (exponent : Int) : Bool :=
    numerator * Nat.pow 2 (-exponent).toNat < denominator * Nat.pow 2 exponent.toNat * Nat.pow 2 53
  let least := if fits (ratio - 53) then ratio - 53 else ratio - 52
  let exponent := max least (-1074)
  let mantissa :=
    roundQuotient (numerator * Nat.pow 2 (-exponent).toNat) (denominator * Nat.pow 2 exponent.toNat)
  let bits :=
    if mantissa < Nat.pow 2 52 then mantissa
    -- When rounding gives the mantissa one more bit, it carries into the exponent.
    else (exponent + 1075).toNat * Nat.pow 2 52 + (mantissa - Nat.pow 2 52)
  min bits (2047 * Nat.pow 2 52)

/-- The float nearest to `digits * 10 ^ exponent`. Exponents far out of range are not worked out. -/
def nearest (digits : Nat) (exponent : Int) : Float :=
  let size : Int := digits.log2 * 30103 / 100000 + exponent
  if digits = 0 || size < -400 then 0.0
  else if 400 < size then Float.ofBits 0x7FF0000000000000
  else
    Float.ofBits
      (UInt64.ofNat
        (nearestBits (digits * Nat.pow 10 exponent.toNat) (Nat.pow 10 (-exponent).toNat)))

end UsageGrammar.Decimal
