import UsageGrammar.Conversion.Attempt
import UsageGrammar.Decimal.Reading

/-! Conversion to numbers, and restrictions on their sign. -/

set_option autoImplicit false

namespace UsageGrammar

inductive Restriction where
  | positive
  | negative
  | nonzero
  deriving DecidableEq, Repr

namespace Restriction

def name : Restriction → String
  | .positive => "positive"
  | .negative => "negative"
  | .nonzero => "nonzero"

def ofDatum (d : Datum) : Attempt Restriction :=
  match [positive, negative, nonzero].find? fun r => d.sameName (.text r.name) with
  | some r => .ok r
  | none =>
    if d.isName then fail (.invalid ("unknown number restriction - " ++ d.quoted))
    else fail (.wrongKind none)

def holds : Restriction → Datum → Bool
  | .positive, .integer n => 0 < n
  | .negative, .integer n => n < 0
  | .nonzero, .integer n => n != 0
  | .positive, .float x => 0 < x
  | .negative, .float x => x < 0
  | .nonzero, .float x => x != 0
  | _, _ => false

end Restriction

namespace Number

open Text

def restrict (reason : String → String) (number : Datum) : List Datum → Attempt Datum
  | [] => .ok number
  | arg :: args => do
    let restriction ← Restriction.ofDatum arg
    if restriction.holds number then restrict reason number args
    else refuse (reason restriction.name)

def ofInteger (s : String) (args : List Datum) : Attempt Datum :=
  match Decimal.readInteger s with
  | .ok n => restrict (· ++ " integer number expected") (.integer n) args
  | .error _ => refuse "argument have to be an integer"

def takePointed (s : List Char) : Option (List Char × List Char) :=
  match s.takeWhile isDigit, s.dropWhile isDigit with
  | [], '.' :: rest =>
    if (rest.takeWhile isDigit).isEmpty then none
    else some ('.' :: rest.takeWhile isDigit, rest.dropWhile isDigit)
  | [], _ => none
  | whole, '.' :: rest => some (whole ++ '.' :: rest.takeWhile isDigit, rest.dropWhile isDigit)
  | whole, rest => some (whole, rest)

def takeSignText : List Char → List Char × List Char
  | [] => ([], [])
  | c :: rest => if c = '+' || c = '-' then ([c], rest) else ([], c :: rest)

def exponentText : List Char → List Char
  | [] => []
  | c :: rest =>
    if c = 'e' || c = 'E' then
      let (sign, body) := takeSignText rest
      let digits := body.takeWhile Text.isDigit
      if digits.isEmpty then [] else c :: sign ++ digits
    else []

def leadingNumber (s : List Char) : Option (List Char) := do
  let margin := s.takeWhile Text.isBlank
  let (sign, body) := takeSignText (s.dropWhile Text.isBlank)
  let (digits, rest) ← takePointed body
  return margin ++ sign ++ digits ++ exponentText rest

def ofFloat (s : String) (args : List Datum) : Attempt Datum :=
  match leadingNumber s.toList with
  | none => refuse "argument must be a float number"
  | some number =>
    match Decimal.readFloat (String.ofList number) with
    | some x => restrict (fun name => "argument must be a " ++ name ++ " float number") (.float x) args
    | none =>
      -- The information separators are blanks in front of the number, but not for its reader.
      fail (.invalid ("could not convert string to float: " ++ Text.quoted (String.ofList number)))

def ofNumber (s : String) (args : List Datum) : Attempt Datum :=
  match Decimal.readInteger s, Decimal.readFloat s with
  | .ok n, _ => restrict (· ++ " number expected") (.integer n) args
  | .error _, some x => restrict (· ++ " number expected") (.float x) args
  | .error _, none => refuse "argument have to be a number"

end Number

end UsageGrammar
