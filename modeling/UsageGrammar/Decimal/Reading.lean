import UsageGrammar.Decimal.Binary
import UsageGrammar.Text.Blank
import UsageGrammar.Text.Character

/-! Numbers as users write them: digits of any script, single underscores between digits, blanks
around the number. -/

set_option autoImplicit false

namespace UsageGrammar.Decimal

open Text

/-- The blanks that may surround a number: all but the four information separators. -/
def isMargin (c : Char) : Bool :=
  isBlank c && !(28 ≤ c.toNat && c.toNat ≤ 31)

def stripMargin (s : List Char) : List Char :=
  ((s.dropWhile isMargin).reverse.dropWhile isMargin).reverse

/-- Reads digits with single underscores between them; the digits and the rest of the text. -/
def takeDigits : List Char → List Char × List Char
  | [] => ([], [])
  | [c] => if isDigit c then ([c], []) else ([], [c])
  | c :: '_' :: d :: rest =>
    if isDigit c && isDigit d then
      let (digits, rest) := takeDigits (d :: rest)
      (c :: digits, rest)
    else if isDigit c then ([c], '_' :: d :: rest)
    else ([], c :: '_' :: d :: rest)
  | c :: d :: rest =>
    if isDigit c then
      let (digits, rest) := takeDigits (d :: rest)
      (c :: digits, rest)
    else ([], c :: d :: rest)

def takeSign : List Char → Bool × List Char
  | '-' :: rest => (true, rest)
  | '+' :: rest => (false, rest)
  | s => (false, s)

/-- Integers of more digits are not read. -/
def digitLimit : Nat := 4300

inductive IntegerError where
  | malformed
  | tooLong (digits : Nat)
  deriving DecidableEq, Repr

def tooLongMessage (digits : Nat) : String :=
  "Exceeds the limit (4300 digits) for integer string conversion: value has " ++
    toString digits ++ " digits; use sys.set_int_max_str_digits() to increase the limit"

def boundedNumeral (digits : List Char) : Except IntegerError Nat :=
  if digitLimit < digits.length then .error (.tooLong digits.length) else .ok (numeral digits)

def readInteger (s : String) : Except IntegerError Int := do
  let (negative, body) := takeSign (stripMargin s.toList)
  match takeDigits body with
  | ([], _) => .error .malformed
  | (digits, []) =>
    let value ← boundedNumeral digits
    return if negative then -(value : Int) else value
  | _ => .error .malformed

def takeExponent : List Char → Int × List Char
  | [] => (0, [])
  | c :: rest =>
    if c = 'e' || c = 'E' then
      let (negative, body) := takeSign rest
      match takeDigits body with
      -- Without digits behind it the letter is not part of the number.
      | ([], _) => (0, c :: rest)
      | (digits, rest) =>
        let value : Int := numeral digits
        (if negative then -value else value, rest)
    else (0, c :: rest)

/-- Reads the digits around a decimal point; the digits, the number of them that stand after the
point, and the rest. There must be a digit on one side at least. -/
def takePoint (s : List Char) : Option (List Char × Nat × List Char) :=
  match takeDigits s with
  | (whole, '.' :: rest) =>
    let (fraction, rest) := takeDigits rest
    if whole.isEmpty && fraction.isEmpty then none
    else some (whole ++ fraction, fraction.length, rest)
  | ([], _) => none
  | (whole, rest) => some (whole, 0, rest)

def takeMagnitude (s : List Char) : Option (Float × List Char) := do
  let (digits, places, rest) ← takePoint s
  let (exponent, rest) := takeExponent rest
  return (nearest (numeral digits) (exponent - places), rest)

def infinity : Float := Float.ofBits 0x7FF0000000000000

def notANumber : Float := Float.ofBits 0x7FF8000000000000

def readFloat (s : String) : Option Float := do
  let (negative, body) := takeSign (stripMargin s.toList)
  -- These words are spelled in ASCII letters of either case.
  let word := String.ofList (body.map Char.toLower)
  let magnitude ←
    if word = "inf" || word = "infinity" then some infinity
    else if word = "nan" then some notANumber
    else match takeMagnitude body with
      | some (x, []) => some x
      | _ => none
  return if negative then -magnitude else magnitude

end UsageGrammar.Decimal
