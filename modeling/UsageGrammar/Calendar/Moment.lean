import UsageGrammar.Calendar.Date

/-! Points in time: a date, a clock time and perhaps the offset of a time zone. -/

set_option autoImplicit false

namespace UsageGrammar.Calendar

structure Clock where
  hour : Nat
  minute : Nat
  second : Nat
  micro : Nat
  deriving DecidableEq, Repr, Inhabited

def Clock.midnight : Clock := ⟨0, 0, 0, 0⟩

def Clock.isValid (c : Clock) : Bool :=
  c.hour < 24 && c.minute < 60 && c.second < 60 && c.micro < 1000000

/-- How far the local time is ahead of universal time, in microseconds. -/
abbrev Offset : Type := Int

def Offset.perSecond : Int := 1000000

def Offset.perDay : Int := 86400 * Offset.perSecond

def Offset.isValid (offset : Offset) : Bool :=
  -Offset.perDay < offset && offset < Offset.perDay

def Offset.ofParts (negative : Bool) (hours minutes seconds micros : Nat) : Offset :=
  let size : Int := (hours * 3600 + minutes * 60 + seconds : Nat) * Offset.perSecond + micros
  if negative then -size else size

structure Moment where
  date : Date
  clock : Clock
  offset : Option Offset
  deriving DecidableEq, Repr, Inhabited

def Moment.of? (date : Date) (clock : Clock) (offset : Option Offset) : Option Moment :=
  if clock.isValid && offset.all Offset.isValid then some ⟨date, clock, offset⟩ else none

def fractionText (micro : Nat) : String :=
  if micro = 0 then "" else "." ++ padded 6 micro

def Clock.text (c : Clock) : String :=
  padded 2 c.hour ++ ":" ++ padded 2 c.minute ++ ":" ++ padded 2 c.second ++ fractionText c.micro

def Offset.text (offset : Offset) : String :=
  let sign := if offset < 0 then "-" else "+"
  let micros := offset.natAbs % 1000000
  let seconds := offset.natAbs / 1000000
  let fine :=
    if seconds % 60 = 0 && micros = 0 then ""
    else ":" ++ padded 2 (seconds % 60) ++ fractionText micros
  sign ++ padded 2 (seconds / 3600) ++ ":" ++ padded 2 (seconds / 60 % 60) ++ fine

def Moment.text (m : Moment) : String :=
  m.date.text ++ "T" ++ m.clock.text ++ (m.offset.map Offset.text).getD ""

end UsageGrammar.Calendar
