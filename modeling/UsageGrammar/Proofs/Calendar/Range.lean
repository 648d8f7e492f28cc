import UsageGrammar.Calendar.Written

/-! Whatever is read lies in its range: dates are days of the calendar, clock times and offsets stay below
a day. -/

set_option autoImplicit false

namespace UsageGrammar.Calendar

def Date.isReal (d : Date) : Bool :=
  isDate d.year d.month d.day

def Moment.isReal (m : Moment) : Bool :=
  m.date.isReal && m.clock.isValid && m.offset.all Offset.isValid

section Dates

variable {y m d : Nat} {date reference : Date} {s : List Char}

theorem Date.isReal_of_of? (made : Date.of? y m d = some date) : date.isReal = true := by
  rw [Date.of?] at made
  split at made
  · next real =>
    cases made
    exact real
  · cases made

theorem isReal_of_dayOfYear? {days : Int} (made : dayOfYear? y days = some date) : date.isReal = true :=
  Date.isReal_of_of? made

theorem isReal_of_weekDate? (made : weekDate? y m d = some date) : date.isReal = true := by
  rw [weekDate?] at made
  split at made
  · exact isReal_of_dayOfYear? made
  · cases made

theorem WrittenDate.isReal_of_complete {w : WrittenDate} (completed : w.complete reference = some date) :
    date.isReal = true :=
  Date.isReal_of_of? completed

theorem IsoText.isReal_of_readDate (read : IsoText.readDate s = some date) : date.isReal = true := by
  simp only [IsoText.readDate, Option.bind_eq_bind] at read
  obtain ⟨year, -, read⟩ := Option.bind_eq_some_iff.mp read
  split at read
  · obtain ⟨⟨week, rest⟩, -, read⟩ := Option.bind_eq_some_iff.mp read
    dsimp only at read
    split at read
    · exact isReal_of_weekDate? read
    · obtain ⟨_, -, read⟩ := Option.bind_eq_some_iff.mp read
      obtain ⟨_, -, read⟩ := Option.bind_eq_some_iff.mp read
      exact isReal_of_weekDate? read
  · obtain ⟨_, -, read⟩ := Option.bind_eq_some_iff.mp read
    obtain ⟨_, -, read⟩ := Option.bind_eq_some_iff.mp read
    obtain ⟨_, -, read⟩ := Option.bind_eq_some_iff.mp read
    split at read
    · exact Date.isReal_of_of? read
    · cases read

end Dates

section Moments

variable {date : Date} {clock : Clock} {offset : Option Offset} {moment : Moment} {text : String}

theorem Moment.isReal_of_of? (real : date.isReal = true) (made : Moment.of? date clock offset = some moment) :
    moment.isReal = true := by
  rw [Moment.of?] at made
  split at made
  · next bounds =>
    cases made
    rw [Bool.and_eq_true] at bounds
    simp [Moment.isReal, real, bounds]
  · cases made

theorem IsoText.isReal_of_read (found : IsoText.read text = some moment) : moment.isReal = true := by
  simp only [IsoText.read, Option.bind_eq_bind] at found
  split at found
  · cases found
  · obtain ⟨_, -, found⟩ := Option.bind_eq_some_iff.mp found
    obtain ⟨date, inDate, found⟩ := Option.bind_eq_some_iff.mp found
    have real := IsoText.isReal_of_readDate inDate
    split at found
    · exact Moment.isReal_of_of? real found
    · obtain ⟨_, -, made⟩ := Option.bind_eq_some_iff.mp found
      exact Moment.isReal_of_of? real made

end Moments

end UsageGrammar.Calendar
