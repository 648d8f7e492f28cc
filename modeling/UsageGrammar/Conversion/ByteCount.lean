import UsageGrammar.Conversion.Attempt
import UsageGrammar.Decimal.Reading
import UsageGrammar.Text.Character

/-! Byte counts: a number and an optional binary unit, such as `42`, `42.21kByte` or `2GB`. -/

set_option autoImplicit false

namespace UsageGrammar

open Text

/-- A byte count as it is written: `(digits or digits.fraction) * 1024 ^ power`. -/
structure ByteCount where
  digits : List Char
  fraction : Option (List Char)
  power : Nat
  deriving DecidableEq, Repr

namespace ByteCount

def units : List Char := "kmgtpezy".toList

def unitPower? (c : Char) : Option Nat :=
  (units.findIdx? (· == caseless c)).map (· + 1)

def takeUnit : List Char → Nat × List Char
  | [] => (0, [])
  | c :: rest =>
    match unitPower? c with
    | some power => (power, rest)
    | none => (0, c :: rest)

/-- May the text stand after the unit? It is `b`, `byte` or `bytes`, or nothing, and blanks. -/
def isEnding (s : List Char) : Bool :=
  ["", "b", "byte", "bytes"].any fun word =>
    match dropCaseless word.toList s with
    | some rest => rest.all isBlank
    | none => false

def takeFraction : List Char → Option (List Char) × List Char
  | '.' :: c :: rest =>
    if isDigit c then (some (c :: rest.takeWhile isDigit), rest.dropWhile isDigit)
    else (none, '.' :: c :: rest)
  | s => (none, s)

def read (s : List Char) : Option ByteCount :=
  let body := s.dropWhile isBlank
  let digits := body.takeWhile isDigit
  let (fraction, rest) := takeFraction (body.dropWhile isDigit)
  let (power, rest) := takeUnit (rest.dropWhile isBlank)
  if !digits.isEmpty && isEnding rest then some ⟨digits, fraction, power⟩ else none

/-- The whole number of bytes. A count with a fraction is worked out as a float, which has an upper
bound. -/
def value (b : ByteCount) : Attempt Int :=
  match b.fraction with
  | none =>
    match Decimal.boundedNumeral b.digits with
    | .ok n => .ok ((n * Nat.pow 1024 b.power : Nat) : Int)
    | .error (.tooLong count) => fail (.invalid (Decimal.tooLongMessage count))
    | .error .malformed => refuse "argument must be a byte number"
  | some fraction =>
    let x := Decimal.nearest (numeral (b.digits ++ fraction)) (-(fraction.length : Int))
    let exact := Decimal.Binary.ofFloat x
    -- A power of 1024 moves the binary exponent only, so nothing is rounded here.
    let bytes := { exact with exponent := exact.exponent + 10 * b.power }.truncate
    if x.isFinite && bytes < Nat.pow 2 1024 then .ok (bytes : Int)
    else fail (.overflow "cannot convert float infinity to integer")

end ByteCount

def Number.ofByteCount (s : String) : Attempt Int :=
  match ByteCount.read s.toList with
  | some b => b.value
  | none => refuse "argument must be a byte number"

end UsageGrammar
