import UsageGrammar.Calendar.IsoText
import UsageGrammar.Text.Blank
import UsageGrammar.Text.Character

/-! Dates and times as people write them. What a date leaves out is taken from a reference date. -/

set_option autoImplicit false

namespace UsageGrammar.Calendar

open Text

structure WrittenDate where
  year : Option Nat
  month : Option Nat
  day : Nat
  deriving DecidableEq, Repr

def WrittenDate.complete (w : WrittenDate) (reference : Date) : Option Date :=
  Date.of? (w.year.getD reference.year) (w.month.getD reference.month) w.day

def monthNames : List String :=
  ["jan", "feb", "mar", "apr", "may", "jun", "jul", "aug", "sep", "oct", "nov", "dec"]

def monthOf? (word : List Char) : Option Nat :=
  (monthNames.idxOf? (String.ofList ((word.take 3).map Char.toLower))).map (· + 1)

def takeRun (kind : Char → Bool) (s : List Char) : List Char × List Char :=
  (s.takeWhile kind, s.dropWhile kind)

/-- Reads one or two digits that no further digit follows. -/
def takeShort (s : List Char) : Option (Nat × List Char) :=
  let (digits, rest) := takeRun isDigit s
  if digits.length = 1 || digits.length = 2 then some (numeral digits, rest) else none

def yearAtEnd? (s : List Char) : Option Nat :=
  if s.length = 4 && s.all isDigit then some (numeral s) else none

def takeName (s : List Char) : Option (List Char × List Char) :=
  let (name, rest) := takeRun isCaselessLetter s
  if 3 ≤ name.length && name.length ≤ 9 then some (name, rest) else none

def isDateSeparator (c : Char) : Bool :=
  c == '-' || c == '.' || c == ' '

def skipSeparator : List Char → List Char
  | [] => []
  | c :: rest => if isDateSeparator c then rest else c :: rest

def optionalYear : List Char → Option (Option Nat)
  | [] => some none
  | s =>
    let (separators, rest) := takeRun (fun c => isDateSeparator c || c == ',') s
    if separators.isEmpty then none else (yearAtEnd? rest).map some

def readDigits (s : List Char) : Option WrittenDate :=
  if !s.all isDigit then none
  else if s.length = 8 then
    some ⟨some (numeral (s.take 4)), some (numeral ((s.drop 4).take 2)), numeral (s.drop 6)⟩
  else if s.length = 4 then some ⟨none, some (numeral (s.take 2)), numeral (s.drop 2)⟩
  else if s.length = 1 || s.length = 2 then some ⟨none, none, numeral s⟩
  else none

def readYearFirst (s : List Char) : Option WrittenDate := do
  let isMark (c : Char) : Bool := c == '-' || c == '/'
  let (year, rest) := takeRun isDigit s
  if year.length ≠ 4 then none
  match rest with
  | a :: rest =>
    let (month, rest) ← takeShort rest
    match rest with
    | b :: rest =>
      let (day, rest) ← takeShort rest
      if isMark a && isMark b && rest.isEmpty then some ⟨some (numeral year), some month, day⟩
      else none
    | [] => none
  | [] => none

def readDayFirst (s : List Char) : Option WrittenDate := do
  let (day, rest) ← takeShort s
  match rest with
  | '.' :: rest =>
    let (month, rest) ← takeShort rest
    match rest with
    | '.' :: rest => return ⟨some (← yearAtEnd? rest), some month, day⟩
    | _ => none
  | _ => none

def readNameFirst (s : List Char) : Option WrittenDate := do
  let (name, rest) ← takeName s
  let (day, rest) ← takeShort (skipSeparator rest)
  let year ← optionalYear rest
  return ⟨year, some (← monthOf? name), day⟩

def readNameSecond (s : List Char) : Option WrittenDate := do
  let (day, rest) ← takeShort s
  let (name, rest) ← takeName (skipSeparator rest)
  let year ← optionalYear rest
  return ⟨year, some (← monthOf? name), day⟩

/-- A date in one of the notations; no text has two of them. -/
def WrittenDate.read (s : List Char) : Option WrittenDate :=
  (readDigits s).or <| (readYearFirst s).or <| (readDayFirst s).or <|
    (readNameFirst s).or (readNameSecond s)

def takePair : List Char → Option (Nat × List Char)
  | a :: b :: rest => if isDigit a && isDigit b then some (numeral [a, b], rest) else none
  | _ => none

def takeMinutes : List Char → Option (Nat × Nat × List Char)
  | ':' :: rest => do
    let (minute, rest) ← takePair rest
    match rest with
    | ':' :: more =>
      match takePair more with
      | some (second, rest) => return (minute, second, rest)
      -- A second colon without seconds is left to what comes next.
      | none => return (minute, 0, rest)
    | _ => return (minute, 0, rest)
  | _ => none

def takeClock (s : List Char) : Option (Clock × List Char) := do
  let (hour, rest) ← match s with
    | a :: b :: rest =>
      if isDigit a && isDigit b then some ([a, b], rest)
      else if isDigit a then some ([a], b :: rest)
      else none
    | _ => none
  let (minute, second, rest) ← takeMinutes rest
  return (⟨numeral hour, minute, second, 0⟩, rest)

def findClock (before : List Char) : List Char → Option (List Char × Clock × List Char)
  | [] => none
  | c :: rest =>
    match takeClock (c :: rest) with
    | some (clock, after) => some (before.reverse, clock, after)
    | none => findClock (c :: before) rest

/-- The hours and minutes of an offset: one or two digits for the hours, then two digits for the
minutes, with or without a colon between them. -/
def readOffsetSize (s : List Char) : Option (Nat × Nat) :=
  let (digits, rest) := takeRun isDigit s
  match rest with
  | [] =>
    if digits.length = 1 || digits.length = 2 then some (numeral digits, 0)
    else if digits.length = 3 || digits.length = 4 then
      let hours := digits.length - 2
      some (numeral (digits.take hours), numeral (digits.drop hours))
    else none
  | ':' :: rest =>
    if (digits.length = 1 || digits.length = 2) && rest.length = 2 && rest.all isDigit then
      some (numeral digits, numeral rest)
    else none
  | _ => none

def readSignedOffset : List Char → Option Offset
  | sign :: rest =>
    if sign = '+' || sign = '-' then
      (readOffsetSize rest).map fun (hours, minutes) =>
        Offset.ofParts (sign == '-') hours minutes 0 0
    else none
  | [] => none

def zoneNames : List String := ["gmt", "utc", "z"]

/-- A zone: a name of universal time, an offset, or an offset after such a name. -/
def readZone (s : List Char) : Option Offset :=
  let named := zoneNames.findSome? fun name => dropCaseless name.toList s
  match named with
  | some [] => some 0
  | some rest =>
    match rest.dropWhile isBlank with
    | [] => some 0
    | rest => readSignedOffset rest
  | none => readSignedOffset s

end UsageGrammar.Calendar
