import UsageGrammar.Decimal.Binary

/-! The shortest decimal that reads back as a given float, and its text: positional for leading
exponents from -4 to 15, with an exponent of at least two digits otherwise. -/

set_option autoImplicit false

namespace UsageGrammar.Decimal

structure Scaled where
  digits : Nat
  exponent : Int
  deriving Repr, DecidableEq

def compareScaled (a : Nat) (i : Int) (b : Nat) (j : Int) : Ordering :=
  compare (a * Nat.pow 10 i.toNat * Nat.pow 2 (-j).toNat)
    (b * Nat.pow 2 j.toNat * Nat.pow 10 (-i).toNat)

/-- Is the decimal among the numbers that round to the value? The ends of that interval belong to
it when the mantissa is even. -/
def Binary.readsBack (b : Binary) (d : Scaled) : Bool :=
  let low := compareScaled d.digits d.exponent
    (4 * b.mantissa - if b.narrowBelow then 1 else 2) (b.exponent - 2)
  let high := compareScaled d.digits d.exponent (4 * b.mantissa + 2) (b.exponent - 2)
  let ends := b.mantissa % 2 == 0
  (low == .gt || (ends && low == .eq)) && (high == .lt || (ends && high == .eq))

def Binary.magnitude (b : Binary) : Int :=
  let bits : Int := b.mantissa.log2 + b.exponent
  let guess := bits * 30103 / 100000
  ([guess, guess + 1, guess + 2].find? fun k =>
    compareScaled 1 k b.mantissa b.exponent == .gt).getD (guess + 3)

/-- The neighbours of the value on the grid of `10 ^ exponent` that read back, nearest first; of two
that are equally near the even one comes first. -/
def Binary.onGrid (b : Binary) (exponent : Int) : List Scaled :=
  let numerator := b.mantissa * Nat.pow 2 b.exponent.toNat * Nat.pow 10 (-exponent).toNat
  let denominator := Nat.pow 2 (-b.exponent).toNat * Nat.pow 10 exponent.toNat
  let below := numerator / denominator
  let nearest := roundQuotient numerator denominator
  let other := if nearest = below then below + 1 else below
  ([nearest, other].map (Scaled.mk · exponent)).filter b.readsBack

def Binary.shortest (b : Binary) : Scaled :=
  let top := b.magnitude
  match ((List.range 17).findSome? fun (n : Nat) => (b.onGrid (top - 1 - n)).head?) with
  | some d => d
  -- Some decimal of seventeen digits reads back, so this one is not asked for.
  | none =>
    ⟨b.mantissa * Nat.pow 2 b.exponent.toNat * Nat.pow 5 (-b.exponent).toNat, min 0 b.exponent⟩

def digitText (n : Nat) : List Char :=
  Nat.toDigits 10 n

/-- Digits without the zeros at their end; at least one digit stays. -/
def dropTrailingZeros (digits : List Char) : List Char :=
  match (digits.reverse.dropWhile (· == '0')).reverse with
  | [] => ['0']
  | kept => kept

def layOut (digits : List Char) (leading : Int) : List Char :=
  if leading < -4 || 16 ≤ leading then
    let fraction := match digits with
      | [] => []
      | [d] => [d]
      | d :: rest => d :: '.' :: rest
    let size := digitText leading.natAbs
    let size := if size.length < 2 then '0' :: size else size
    fraction ++ ['e', if leading < 0 then '-' else '+'] ++ size
  else if leading < 0 then
    ['0', '.'] ++ List.replicate (leading.natAbs - 1) '0' ++ digits
  else
    let whole := leading.toNat + 1
    if digits.length ≤ whole then
      digits ++ List.replicate (whole - digits.length) '0' ++ ['.', '0']
    else digits.take whole ++ '.' :: digits.drop whole

def floatText (x : Float) : String :=
  if x.isNaN then "nan"
  else
    let sign := if x.toBits.toNat < Nat.pow 2 63 then "" else "-"
    if x.isInf then sign ++ "inf"
    else
      let b := Binary.ofFloat x
      if b.mantissa = 0 then sign ++ "0.0"
      else
        let d := b.shortest
        let digits := digitText d.digits
        let leading : Int := d.exponent + digits.length - 1
        sign ++ String.ofList (layOut (dropTrailingZeros digits) leading)

end UsageGrammar.Decimal
