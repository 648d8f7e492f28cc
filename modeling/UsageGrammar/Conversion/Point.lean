import UsageGrammar.Calendar.Written
import UsageGrammar.Conversion.Attempt

/-! Points in time from texts. The steps that build one from numbers fail with an invalid value where the
numbers are out of range; what reads the whole text turns that failure, and no other, into a refusal. -/

set_option autoImplicit false

namespace UsageGrammar.Point

open Calendar Text

/-- Turns to another attempt when the first one fails with an invalid value. A refusal is no such failure. -/
def rescue {α : Type} (attempt other : Attempt α) : Attempt α :=
  match attempt with
  | .error (.failed (.invalid _)) => other
  | outcome => outcome

def built {α : Type} (value : Option α) (complaint : String) : Attempt α :=
  match value with
  | some a => .ok a
  | none => fail (.invalid complaint)

def dateReason : String := "argument must be a date"

def momentReason : String := "argument must be a time"

def readDay (reference : Date) (reason : String) (s : List Char) : Attempt Date := do
  let written ← orRefuse (WrittenDate.read s) reason
  built (written.complete reference) "day is out of range"

def readDate (reference : Date) (text : String) : Attempt Date :=
  rescue (readDay reference dateReason (strip text.toList)) (refuse dateReason)

def readHead (reference : Date) (head : List Char) : Attempt Date :=
  if head.isEmpty then .ok reference else readDay reference momentReason head

def readOffset (zone : List Char) : Attempt (Option Offset) := do
  if zone.isEmpty then return none
  let offset ← built (readZone zone) ("invalid time zone - " ++ quoted (String.ofList zone))
  if offset.isValid then return some offset else fail (.invalid "offset is out of range")

/-- An optional day, an optional clock time and, after the clock time, an optional zone. -/
def readParts (reference : Date) (s : List Char) : Attempt Moment := do
  let (head, clock, tail) :=
    match findClock [] s with
    | some (before, clock, after) => (strip before, clock, strip after)
    | none => (s, .midnight, [])
  let day ← readHead reference head
  let offset ← readOffset tail
  built (Moment.of? day clock offset) "clock time is out of range"

/-- The point in time that a text writes. The standard notation is tried first. -/
def readMoment (reference : Date) (text : String) : Attempt Moment :=
  let s := strip text.toList
  rescue (built (IsoText.read (String.ofList s)) "invalid standard notation") <|
    rescue (readParts reference s) (refuse momentReason)

end UsageGrammar.Point
