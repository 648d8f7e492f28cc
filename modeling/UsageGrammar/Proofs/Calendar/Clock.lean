import UsageGrammar.Proofs.Calendar.Notation

/-! Clock times and zones as they are written. The clock time of a text is found behind any date, since no
notation of a date has a colon. -/

set_option autoImplicit false

namespace UsageGrammar.Calendar

open Text

/-- A clock time: an hour of one or two digits, minutes, and perhaps seconds. -/
inductive ClockText : List Char → Clock → Prop where
  | minutes {hour minute : List Char} {h m : Nat} :
      IsNumeral 1 2 hour h → IsNumeral 2 2 minute m → ClockText (hour ++ ':' :: minute) ⟨h, m, 0, 0⟩
  | seconds {hour minute second : List Char} {h m s : Nat} :
      IsNumeral 1 2 hour h → IsNumeral 2 2 minute m → IsNumeral 2 2 second s →
      ClockText (hour ++ ':' :: (minute ++ ':' :: second)) ⟨h, m, s, 0⟩

/-- The hours and minutes of an offset, such as `2`, `02`, `230`, `0230` and `2:30`. -/
inductive OffsetText : List Char → Nat → Nat → Prop where
  | hours {hours : List Char} {h : Nat} : IsNumeral 1 2 hours h → OffsetText hours h 0
  | joined {hours minutes : List Char} {h m : Nat} :
      IsNumeral 1 2 hours h → IsNumeral 2 2 minutes m → OffsetText (hours ++ minutes) h m
  | parted {hours minutes : List Char} {h m : Nat} :
      IsNumeral 1 2 hours h → IsNumeral 2 2 minutes m → OffsetText (hours ++ ':' :: minutes) h m

/-- A name of universal time, in any case. -/
def NamesZone (name : List Char) : Prop :=
  name.map caseless ∈ zoneNames.map String.toList

/-- A zone and its offset: a name of universal time, an offset with its sign, or both. -/
inductive ZoneText : List Char → Offset → Prop where
  | named {name blanks : List Char} :
      NamesZone name → (∀ c ∈ blanks, isBlank c = true) → ZoneText (name ++ blanks) 0
  | signed {sign : Char} {size : List Char} {h m : Nat} :
      sign = '+' ∨ sign = '-' → OffsetText size h m →
      ZoneText (sign :: size) (Offset.ofParts (sign == '-') h m 0 0)
  | namedSigned {name blanks size : List Char} {sign : Char} {h m : Nat} :
      NamesZone name → (∀ c ∈ blanks, isBlank c = true) → sign = '+' ∨ sign = '-' → OffsetText size h m →
      ZoneText (name ++ (blanks ++ sign :: size)) (Offset.ofParts (sign == '-') h m 0 0)

section Clocks

variable {s rest hour minute second front after : List Char} {h m n : Nat} {clock : Clock}

theorem takePair_append (written : IsNumeral 2 2 s n) : takePair (s ++ rest) = some (n, rest) := by
  obtain ⟨a, b, rfl⟩ := List.length_eq_two.mp written.length_eq
  have first := written.digits a (by simp)
  have second := written.digits b (by simp)
  simp [takePair, first, second, written.value]

theorem takeMinutes_append (minuteWritten : IsNumeral 2 2 minute m) (ends : Stops (· == ':') rest) :
    takeMinutes (':' :: (minute ++ rest)) = some (m, 0, rest) := by
  rw [takeMinutes, takePair_append minuteWritten]
  cases rest with
  | nil => rfl
  | cons c rest =>
    have other : c ≠ ':' := by simpa using stops_cons.mp ends
    simp [other]

theorem takeMinutes_seconds (minuteWritten : IsNumeral 2 2 minute m) (secondWritten : IsNumeral 2 2 second n) :
    takeMinutes (':' :: (minute ++ ':' :: (second ++ rest))) = some (m, n, rest) := by
  rw [takeMinutes, takePair_append minuteWritten]
  simp [takePair_append secondWritten]

theorem takeClock_hour (hourWritten : IsNumeral 1 2 hour h)
    (minutes : takeMinutes (':' :: after) = some (m, n, rest)) :
    takeClock (hour ++ ':' :: after) = some (⟨h, m, n, 0⟩, rest) := by
  have colon : isDigit ':' = false := by decide
  rcases hourWritten.one_or_two with size | size
  · obtain ⟨a, rfl⟩ := List.length_eq_one_iff.mp size
    have first := hourWritten.digits a (by simp)
    simp [takeClock, first, colon, minutes, hourWritten.value]
  · obtain ⟨a, b, rfl⟩ := List.length_eq_two.mp size
    have first := hourWritten.digits a (by simp)
    have second := hourWritten.digits b (by simp)
    simp [takeClock, first, second, minutes, hourWritten.value]

theorem takeClock_append (written : ClockText s clock) (ends : Stops (· == ':') rest) :
    takeClock (s ++ rest) = some (clock, rest) := by
  cases written with
  | minutes hour minute =>
    rw [List.append_assoc, List.cons_append]
    exact takeClock_hour hour (takeMinutes_append minute ends)
  | seconds hour minute second =>
    rw [List.append_assoc, List.cons_append, List.append_assoc, List.cons_append]
    exact takeClock_hour hour (takeMinutes_seconds minute second)

theorem exists_of_takeMinutes {taken : Nat × Nat × List Char} (found : takeMinutes s = some taken) :
    ∃ after, s = ':' :: after := by
  rw [takeMinutes.eq_def] at found
  split at found
  · next after => exact ⟨after, rfl⟩
  · cases found

theorem exists_of_takeClock {taken : Clock × List Char} (found : takeClock s = some taken) :
    ∃ hour after, s = hour ++ ':' :: after ∧ ∀ c ∈ hour, isDigit c = true := by
  simp only [takeClock.eq_def, Option.bind_eq_bind, Option.bind_some, Option.bind_none] at found
  split at found
  · next a b others =>
    split at found
    · next pair =>
      obtain ⟨_, minutes, -⟩ := Option.bind_eq_some_iff.mp found
      obtain ⟨after, rfl⟩ := exists_of_takeMinutes minutes
      exact ⟨[a, b], after, rfl, by simpa using pair⟩
    · split at found
      · next single =>
        obtain ⟨_, minutes, -⟩ := Option.bind_eq_some_iff.mp found
        obtain ⟨after, same⟩ := exists_of_takeMinutes minutes
        exact ⟨[a], after, by rw [same]; rfl, by simpa using single⟩
      · cases found
  · cases found

theorem takeClock_of_colonless (filled : front ≠ []) (colonless : ':' ∉ front)
    (closed : ∀ c ∈ front.getLast?, isDigit c = false) : takeClock (front ++ rest) = none := by
  cases found : takeClock (front ++ rest) with
  | none => rfl
  | some taken =>
    obtain ⟨hour, after, same, digits⟩ := exists_of_takeClock found
    have inside : ∀ c ∈ front, (c != ':') = true := fun c member => by
      rw [bne_iff_ne]
      rintro rfl
      exact colonless member
    -- The text has no colon, so it would stand within the hour and end in a digit.
    obtain ⟨others, rfl, -⟩ := prefix_of_run same inside (stops_cons.mpr (by simp))
    have digit := digits _ (List.mem_append_left others (List.getLast_mem filled))
    have other := closed _ (List.getLast?_eq_some_getLast filled)
    rw [digit] at other
    cases other

/-- The first clock time is the one behind a text that has no colon and does not end in a digit. -/
theorem findClock_append {before : List Char} (colonless : ':' ∉ front)
    (closed : ∀ c ∈ front.getLast?, isDigit c = false) (found : takeClock rest = some (clock, after)) :
    findClock before (front ++ rest) = some (before.reverse ++ front, clock, after) := by
  -- No clock time begins in the text, so its characters are passed one by one.
  induction front generalizing before with
  | nil =>
    obtain ⟨hour, more, rfl, -⟩ := exists_of_takeClock found
    rw [List.nil_append, List.append_nil]
    cases hour with
    | nil => rw [List.nil_append] at found ⊢; rw [findClock, found]
    | cons c hour => rw [List.cons_append] at found ⊢; rw [findClock, found]
  | cons c front ih =>
    have unopened : takeClock (c :: front ++ rest) = none :=
      takeClock_of_colonless (List.cons_ne_nil c front) colonless closed
    have inner : ':' ∉ front := fun member => colonless (List.mem_cons_of_mem c member)
    have last : ∀ d ∈ front.getLast?, isDigit d = false := by
      cases front with
      | nil => nofun
      | cons d front => simpa using closed
    rw [List.cons_append] at unopened ⊢
    simp [findClock, unopened, ih inner last]

theorem findClock_of_colonless {before : List Char} (colonless : ':' ∉ s) : findClock before s = none := by
  induction s generalizing before with
  | nil => rfl
  | cons c s ih =>
    have unopened : takeClock (c :: s) = none := by
      cases found : takeClock (c :: s) with
      | none => rfl
      | some taken =>
        obtain ⟨hour, after, same, -⟩ := exists_of_takeClock found
        rw [same] at colonless
        exact absurd (by simp) colonless
    rw [findClock, unopened]
    exact ih fun member => colonless (List.mem_cons_of_mem c member)

end Clocks

section Zones

variable {s rest name blanks size : List Char} {sign : Char} {h m : Nat} {offset : Offset}

theorem readOffsetSize_written (written : OffsetText size h m) : readOffsetSize size = some (h, m) := by
  cases written with
  | hours hours =>
    have taken : takeRun isDigit size = (size, []) :=
      takeRun_eq_iff.mpr ⟨(List.append_nil size).symm, hours.digits, stops_nil⟩
    simp [readOffsetSize, taken, hours.one_or_two, hours.value]
  | @joined hours minutes _ _ hoursWritten minutesWritten =>
    have digits : ∀ c ∈ hours ++ minutes, isDigit c = true := by
      intro c member
      rcases List.mem_append.mp member with first | second
      · exact hoursWritten.digits c first
      · exact minutesWritten.digits c second
    have taken : takeRun isDigit (hours ++ minutes) = (hours ++ minutes, []) :=
      takeRun_eq_iff.mpr ⟨(List.append_nil _).symm, digits, stops_nil⟩
    have two := minutesWritten.length_eq
    rcases hoursWritten.one_or_two with one | one <;>
      simp [readOffsetSize, taken, one, two, List.take_left' one, List.drop_left' one, hoursWritten.value,
        minutesWritten.value]
  | @parted hours minutes _ _ hoursWritten minutesWritten =>
    have taken : takeRun isDigit (hours ++ ':' :: minutes) = (hours, ':' :: minutes) :=
      takeRun_eq_iff.mpr ⟨rfl, hoursWritten.digits, stops_cons.mpr (by decide)⟩
    simp [readOffsetSize, taken, hoursWritten.one_or_two, minutesWritten.length_eq,
      List.all_eq_true.mpr minutesWritten.digits, hoursWritten.value, minutesWritten.value]

theorem readSignedOffset_written (signed : sign = '+' ∨ sign = '-') (written : OffsetText size h m) :
    readSignedOffset (sign :: size) = some (Offset.ofParts (sign == '-') h m 0 0) := by
  rw [readSignedOffset, if_pos (by simpa using signed), readOffsetSize_written written]
  rfl

theorem findSome?_named (named : NamesZone name) :
    (zoneNames.findSome? fun zone => dropCaseless zone.toList (name ++ rest)) = some rest := by
  have dropped := dropCaseless_append name rest
  simp only [NamesZone, zoneNames, List.map_cons, List.map_nil, List.mem_cons, List.not_mem_nil,
    or_false] at named
  -- The names begin with different letters.
  rcases named with gmt | utc | z
  · rw [gmt] at dropped
    simp only [zoneNames, List.findSome?_cons, dropped]
  · rw [utc] at dropped
    obtain ⟨c, others, rfl, first, -⟩ := List.map_eq_cons_iff.mp utc
    have gmt : dropCaseless "gmt".toList (c :: others ++ rest) = none :=
      dropCaseless_of_ne (by rw [first]; decide)
    simp only [zoneNames, List.findSome?_cons, gmt, dropped]
  · rw [z] at dropped
    obtain ⟨c, others, rfl, first, -⟩ := List.map_eq_cons_iff.mp z
    have gmt : dropCaseless "gmt".toList (c :: others ++ rest) = none :=
      dropCaseless_of_ne (by rw [first]; decide)
    have utc : dropCaseless "utc".toList (c :: others ++ rest) = none :=
      dropCaseless_of_ne (by rw [first]; decide)
    simp only [zoneNames, List.findSome?_cons, gmt, utc, dropped]

theorem findSome?_signed (signed : sign = '+' ∨ sign = '-') :
    (zoneNames.findSome? fun zone => dropCaseless zone.toList (sign :: size)) = none := by
  rcases signed with rfl | rfl <;> rfl

theorem readZone_written (written : ZoneText s offset) : readZone s = some offset := by
  cases written with
  | @named name blanks named blank =>
    simp only [readZone, findSome?_named named]
    have gone : blanks.dropWhile isBlank = [] := List.dropWhile_eq_nil_iff.mpr blank
    cases blanks with
    | nil => rfl
    | cons c blanks => simp [gone]
  | signed signed size => rw [readZone, findSome?_signed signed]; exact readSignedOffset_written signed size
  | @namedSigned name blanks size sign h m named blank signed sized =>
    have left : (blanks ++ sign :: size).dropWhile isBlank = sign :: size :=
      dropWhile_run blank (stops_cons.mpr (by rcases signed with rfl | rfl <;> decide))
    simp only [readZone, findSome?_named named]
    split
    · next nothing => simp at nothing
    · next rest _ found =>
      cases found
      rw [left]
      exact readSignedOffset_written signed sized
    · next nothing => cases nothing

end Zones

section Ends

variable {s name : List Char} {clock : Clock} {offset : Offset}

theorem ClockText.isClosed (written : ClockText s clock) : IsClosed s := by
  cases written with
  | minutes _ minute => exact .append _ (.append [':'] (minute.isClosed))
  | seconds _ _ second => exact .append _ (.append [':'] (.append _ (.append [':'] (second.isClosed))))

theorem ClockText.stops {rest : List Char} (written : ClockText s clock) : Stops isBlank (s ++ rest) := by
  have digits (c : Char) : isBlank c = true → isDigit c = false := isDigit_of_isBlank
  cases written with
  | minutes hour _ => rw [List.append_assoc]; exact hour.stops digits
  | seconds hour _ _ => rw [List.append_assoc]; exact hour.stops digits

theorem OffsetText.isClosed {h m : Nat} (written : OffsetText s h m) : IsClosed s := by
  cases written with
  | hours hours => exact hours.isClosed
  | joined _ minutes => exact .append _ (minutes.isClosed)
  | parted _ minutes => exact .append _ (.append [':'] (minutes.isClosed))

theorem NamesZone.letters (named : NamesZone name) : ∀ c ∈ name, isCaselessLetter c = true :=
  isCaselessLetter_of_mem (by decide) named

theorem NamesZone.ne_nil (named : NamesZone name) : name ≠ [] := by
  have filled : ([] : List Char) ∉ zoneNames.map String.toList := by decide
  rintro rfl
  exact filled named

/-- A zone without the blanks at its end is a zone. -/
theorem ZoneText.exists_closed (written : ZoneText s offset) :
    ∃ zone blanks, s = zone ++ blanks ∧ (∀ c ∈ blanks, isBlank c = true) ∧ IsClosed zone ∧
      ZoneText zone offset := by
  cases written with
  | @named name blanks named blank =>
    have closed : IsClosed name := isClosed_of_forall named.ne_nil fun c member =>
      isBlank_of_isCaselessLetter (named.letters c member)
    have alone : ZoneText (name ++ []) 0 := .named named nofun
    rw [List.append_nil] at alone
    exact ⟨name, blanks, rfl, blank, closed, alone⟩
  | @signed sign size _ _ signed written =>
    exact ⟨sign :: size, [], (List.append_nil _).symm, nofun, .append [sign] written.isClosed,
      .signed signed written⟩
  | @namedSigned name blanks size sign _ _ named blank signed written =>
    exact ⟨_, [], (List.append_nil _).symm, nofun, .append _ (.append _ (.append [sign] written.isClosed)),
      .namedSigned named blank signed written⟩

theorem ZoneText.stops (written : ZoneText s offset) : Stops isBlank s := by
  have letters {name : List Char} (named : NamesZone name) : ∀ c ∈ name, isBlank c = false :=
    fun c member => isBlank_of_isCaselessLetter (named.letters c member)
  cases written with
  | named named _ => exact stops_append named.ne_nil (letters named)
  | signed signed _ => exact stops_cons.mpr (by rcases signed with rfl | rfl <;> decide)
  | namedSigned named _ _ _ => exact stops_append named.ne_nil (letters named)

end Ends

section Moments

variable {s front tail : List Char} {w : WrittenDate} {clock : Clock} {zone : Option Offset}
  {reference d : Date}

theorem NamesMonth.colonless {m : Nat} (named : NamesMonth s m) : ':' ∉ s :=
  notMem_of_kind named.letters (by decide)

theorem IsGap.colonless (gap : IsGap s) : ':' ∉ s := by
  rcases gap with rfl | ⟨c, separator, rfl⟩
  · exact List.not_mem_nil
  · have inside : ∀ d ∈ [c], isDateSeparator d = true := by simpa using separator
    exact notMem_of_kind inside (by decide)

theorem YearPart.colonless {year : Option Nat} (part : YearPart s year) : ':' ∉ s := by
  cases part with
  | absent => exact List.not_mem_nil
  | written _ marks year =>
    rw [List.mem_append, not_or]
    exact ⟨notMem_of_kind marks (by decide), year.notMem (by decide)⟩

theorem DateNotation.colonless (form : DateNotation s w) : ':' ∉ s := by
  have digitless : isDigit ':' = false := by decide
  cases form with
  | yearFirst year month day first second =>
    have apart (c : Char) (mark : c = '-' ∨ c = '/') : ':' ≠ c := by rcases mark with rfl | rfl <;> decide
    simp [year.notMem digitless, month.notMem digitless, day.notMem digitless, apart _ first, apart _ second]
  | dayFirst year month day =>
    simp [year.notMem digitless, month.notMem digitless, day.notMem digitless]
  | joined year month day =>
    simp [year.notMem digitless, month.notMem digitless, day.notMem digitless]
  | monthDay month day => simp [month.notMem digitless, day.notMem digitless]
  | day day => exact day.notMem digitless
  | nameFirst named gap day ended =>
    simp [named.colonless, gap.colonless, day.notMem digitless, ended.colonless]
  | nameSecond day gap named ended =>
    simp [named.colonless, gap.colonless, day.notMem digitless, ended.colonless]

/-- What stands in front of a clock time and the date that it gives: nothing leaves the reference, else it
is a date and blanks. -/
inductive DateFront (reference : Date) : List Char → Date → Prop where
  | absent : DateFront reference [] reference
  | written {s gap : List Char} {w : WrittenDate} {d : Date} :
      DateNotation s w → w.complete reference = some d → gap ≠ [] → (∀ c ∈ gap, isBlank c = true) →
      DateFront reference (s ++ gap) d

/-- What stands behind a clock time: nothing, or a blank and a zone. -/
inductive ZoneTail : List Char → Option Offset → Prop where
  | absent : ZoneTail [] none
  | written {zone : List Char} {offset : Offset} :
      ZoneText zone offset → IsClosed zone → ZoneTail (' ' :: zone) (some offset)

theorem ZoneText.exists_tail {offset : Offset} (written : ZoneText s offset) :
    ∃ tail blanks, ' ' :: s = tail ++ blanks ∧ (∀ c ∈ blanks, isBlank c = true) ∧
      ZoneTail tail (some offset) := by
  obtain ⟨zone, blanks, rfl, blank, closed, zoneWritten⟩ := written.exists_closed
  exact ⟨' ' :: zone, blanks, rfl, blank, .written zoneWritten closed⟩

theorem DateFront.colonless (dated : DateFront reference front d) : ':' ∉ front := by
  cases dated with
  | absent => exact List.not_mem_nil
  | written form _ _ blank =>
    rw [List.mem_append, not_or]
    exact ⟨form.colonless, notMem_of_kind blank (by decide)⟩

theorem DateFront.closes (dated : DateFront reference front d) :
    ∀ c ∈ front.getLast?, isDigit c = false := by
  cases dated with
  | absent => nofun
  | written _ _ filled blank =>
    intro c final
    rw [List.getLast?_append_of_ne_nil _ filled] at final
    exact isDigit_of_isBlank (blank c (List.mem_of_mem_getLast? final))

theorem ZoneTail.stops (zoned : ZoneTail tail zone) : Stops (· == ':') tail := by
  cases zoned with
  | absent => exact stops_nil
  | written => exact stops_cons.mpr (by decide)

theorem Moment.of?_of_valid (real : clock.isValid = true) (bounded : zone.all Offset.isValid = true) :
    Moment.of? d clock zone = some ⟨d, clock, zone⟩ := by
  rw [Moment.of?, real, bounded]
  rfl

theorem findClock_written (dated : DateFront reference front d) (written : ClockText s clock)
    (zoned : ZoneTail tail zone) : findClock [] (front ++ (s ++ tail)) = some (front, clock, tail) :=
  findClock_append dated.colonless dated.closes (takeClock_append written zoned.stops)

end Moments

end UsageGrammar.Calendar
