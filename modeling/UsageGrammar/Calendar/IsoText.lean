import UsageGrammar.Calendar.Moment

/-! Moments in the international standard notation: a calendar date or a week date, with or without
hyphens, any one character, a clock time with or without colons, and a zone. Digits are ASCII. -/

set_option autoImplicit false

namespace UsageGrammar.Calendar.IsoText

def isAsciiDigit (c : Char) : Bool := '0' ≤ c && c ≤ '9'

def takeNumber : Nat → Nat → List Char → Option (Nat × List Char)
  | 0, value, s => some (value, s)
  | count + 1, value, c :: rest =>
    if isAsciiDigit c then takeNumber count (10 * value + (c.toNat - 48)) rest else none
  | _ + 1, _, [] => none

def takeHyphen (needed : Bool) (s : List Char) : Option (List Char) :=
  match needed, s with
  | false, _ => some s
  | true, '-' :: rest => some rest
  | true, _ => none

/-- The length of the date in front of a text, found from its fifth character on. A text that ends
in a week date and a hyphen has none. -/
def dateLength (s : List Char) : Option Nat :=
  let isDigitAt (i : Nat) : Bool := (s[i]?.map isAsciiDigit).getD false
  if s.length = 7 then some 7
  else if s[4]? = some '-' then
    if s[5]? = some 'W' then
      if s[8]? = some '-' then
        if s.length = 9 then none else if isDigitAt 10 then some 8 else some 10
      else some 8
    else some 10
  else if s[4]? = some 'W' then
    let stop := 7 + ((s.drop 7).takeWhile isAsciiDigit).length
    if stop < 9 then some stop else if stop % 2 = 0 then some 7 else some 8
  else some 8

def readDate (s : List Char) : Option Date := do
  let (year, rest) ← takeNumber 4 0 s
  let hyphens := rest.head? == some '-'
  let rest := if hyphens then rest.drop 1 else rest
  match rest with
  | 'W' :: rest =>
    let (week, rest) ← takeNumber 2 0 rest
    if rest.isEmpty then weekDate? year week 1
    else
      let (day, _) ← takeNumber 1 0 (← takeHyphen hyphens rest)
      weekDate? year week day
  | _ =>
    let (month, rest) ← takeNumber 2 0 rest
    let (day, rest) ← takeNumber 2 0 (← takeHyphen hyphens rest)
    if rest.isEmpty then Date.of? year month day else none

/-- Has the text been used up? A null character ends it. -/
def isUsedUp : List Char → Bool
  | [] => true
  | c :: _ => c.toNat == 0

/-- The fraction of a second, of which six digits count; the microseconds and the rest. -/
def takeFraction (s : List Char) : Option (Nat × List Char) := do
  let size := min s.length 6
  let (value, rest) ← takeNumber size 0 s
  return (value * Nat.pow 10 (6 - size), rest.dropWhile isAsciiDigit)

/-- Reads the parts of a clock time that `parts` still has room for. `colons` tells whether they are
set apart by colons. The result tells whether all of the text was understood. -/
def takeParts (colons : Bool) (found : List Nat) : Nat → List Char → Option (List Nat × Nat × Bool)
  | 0, s => do
    let (micro, rest) ← takeFraction s
    return (found, micro, isUsedUp rest)
  | parts + 1, s => do
    let (value, rest) ← takeNumber 2 0 s
    let found := found ++ [value]
    match rest with
    | [] => return (found, 0, true)
    -- A last character of one byte is passed over, as text that was not understood.
    | [c] => if c.toNat < 128 then return (found, 0, c.toNat == 0) else none
    | c :: rest =>
      -- What follows the hour settles whether all parts are set apart.
      let colons := if found.length = 1 then c == ':' else colons
      if colons && c = ':' then takeParts colons found parts rest
      else if c = '.' || c = ',' then
        let (micro, rest) ← takeFraction rest
        return (found, micro, isUsedUp rest)
      else if !colons then takeParts colons found parts (c :: rest)
      else none

def readClock (s : List Char) : Option (Clock × Bool) := do
  let (parts, micro, complete) ← takeParts true [] 3 s
  return (⟨parts[0]?.getD 0, parts[1]?.getD 0, parts[2]?.getD 0, micro⟩, complete)

/-- A zone from its sign on. An offset of whole seconds zero is zero. -/
def readZone : List Char → Option Offset
  | 'Z' :: rest => if isUsedUp rest then some 0 else none
  | sign :: rest => do
    let (c, complete) ← readClock rest
    if !complete then none
    else if c.hour = 0 && c.minute = 0 && c.second = 0 then some 0
    else some (Offset.ofParts (sign == '-') c.hour c.minute c.second c.micro)
  | [] => none

def isZoneSign (c : Char) : Bool :=
  c == '+' || c == '-' || c == 'Z'

def readTime (s : List Char) : Option (Clock × Option Offset) := do
  let (clock, complete) ← readClock (s.takeWhile (!isZoneSign ·))
  match s.dropWhile (!isZoneSign ·) with
  | [] => if complete then some (clock, none) else none
  -- In front of a zone the clock need not be understood to its end.
  | zone => return (clock, some (← readZone zone))

/-- A moment; a date alone stands for its midnight. -/
def read (text : String) : Option Moment := do
  let s := text.toList
  if text.utf8ByteSize < 7 then none
  let length ← dateLength s
  let date ← readDate (s.take length)
  let rest := s.drop length
  if rest.isEmpty then Moment.of? date .midnight none
  else
    let (clock, offset) ← readTime (rest.drop 1)
    Moment.of? date clock offset

end UsageGrammar.Calendar.IsoText
