import UsageGrammar.Proofs.Calendar.Clock

/-! The standard notation beside the written one. A text that both can read means the same in both, so it
does not matter that the standard notation is tried first. -/

set_option autoImplicit false

namespace UsageGrammar.Calendar

open Text

namespace IsoText

section Numbers

variable {s rest digits : List Char} {count n : Nat}

theorem digit_of_ascii {c : Char} (ascii : isAsciiDigit c = true) :
    isDigit c = true ∧ (digitValue? c).getD 0 = c.toNat - 48 := by
  simp only [isAsciiDigit, Bool.and_eq_true, decide_eq_true_eq] at ascii
  have bounds : 48 ≤ c.toNat ∧ c.toNat < 48 + 10 := by
    have lower : 48 ≤ c.toNat := ascii.1
    have upper : c.toNat ≤ 57 := ascii.2
    omega
  have value : digitValue? c = some (c.toNat - 48) := by
    rw [digitValue?, zeroPoints, List.find?_cons_of_pos (by simp [bounds])]
    rfl
  rw [isDigit, value]
  exact ⟨rfl, rfl⟩

theorem exists_of_takeNumber {value : Nat} (taken : takeNumber count value s = some (n, rest)) :
    ∃ digits, s = digits ++ rest ∧ digits.length = count ∧ (∀ c ∈ digits, isDigit c = true) ∧
      digits.foldl (fun value c => 10 * value + (digitValue? c).getD 0) value = n := by
  -- The number is read from the left, so the induction is on the count for any value read so far.
  induction count generalizing value s with
  | zero =>
    cases taken
    exact ⟨[], rfl, rfl, nofun, rfl⟩
  | succ count ih =>
    cases s with
    | nil => cases taken
    | cons c s =>
      rw [takeNumber] at taken
      split at taken
      · next ascii =>
        obtain ⟨digit, value⟩ := digit_of_ascii ascii
        obtain ⟨digits, rfl, size, inside, folded⟩ := ih taken
        refine ⟨c :: digits, rfl, by rw [List.length_cons, size], List.forall_mem_cons.mpr ⟨digit, inside⟩, ?_⟩
        rw [List.foldl_cons, value, folded]
      · cases taken

/-- A number in the standard notation is one in any script. -/
theorem numeral_of_takeNumber (taken : takeNumber count 0 s = some (n, rest)) :
    ∃ digits, s = digits ++ rest ∧ IsNumeral count count digits n := by
  obtain ⟨digits, parts, size, inside, folded⟩ := exists_of_takeNumber taken
  exact ⟨digits, parts, inside, size.ge, size.le, folded⟩

section Alignment

variable {a b x z : List Char} {least most m k : Nat}

theorem pair_aligned (pair : IsNumeral 2 2 a m) (short : IsNumeral 1 2 b k) (ends : Stops isDigit z)
    (same : a ++ x = b ++ z) : a = b ∧ x = z ∧ m = k := by
  obtain ⟨others, rfl, rfl⟩ := prefix_of_run same pair.digits ends
  have none : others = [] := by
    have most := short.most
    rw [List.length_append, pair.length_eq] at most
    exact List.eq_nil_of_length_eq_zero (by omega)
  subst none
  rw [List.append_nil] at short
  exact ⟨(List.append_nil a).symm, List.nil_append z, pair.value.symm.trans short.value⟩

theorem not_four_aligned (four : IsNumeral 4 4 a m) (short : IsNumeral 1 2 b k) (ends : Stops isDigit z) :
    a ++ x ≠ b ++ z := by
  intro same
  obtain ⟨others, rfl, -⟩ := prefix_of_run same four.digits ends
  have most := short.most
  rw [List.length_append, four.length_eq] at most
  omega

theorem not_aligned (written : IsNumeral (least + 1) most a m) (ends : Stops isDigit z) : a ++ x ≠ z := by
  rintro rfl
  cases a with
  | nil => exact written.ne_nil rfl
  | cons c a =>
    have digit := written.digits c List.mem_cons_self
    have other : isDigit c = false := stops_cons.mp ends
    rw [digit] at other
    cases other

end Alignment

/-- Two digits are read from a number of one or two digits only when it has two. -/
theorem eq_of_takeNumber {taken : Nat × List Char} (written : IsNumeral 1 2 digits n)
    (ends : Stops isDigit rest) (found : takeNumber 2 0 (digits ++ rest) = some taken) :
    taken = (n, rest) := by
  obtain ⟨value, after⟩ := taken
  obtain ⟨pair, parts, pairWritten⟩ := numeral_of_takeNumber found
  obtain ⟨-, rfl, rfl⟩ := pair_aligned pairWritten written ends parts.symm
  rfl

end Numbers

section Dates

variable {s t after : List Char} {w : WrittenDate} {reference d : Date} {n : Nat}

/-- What stands between the parts of a date in the standard notation. -/
def hyphen (written : Bool) : List Char :=
  if written then ['-'] else []

theorem hyphen_false : hyphen false = [] :=
  rfl

theorem hyphen_dropped (s : List Char) :
    s = hyphen (s.head? == some '-') ++ if (s.head? == some '-') = true then s.drop 1 else s := by
  cases s with
  | nil => rfl
  | cons c s =>
    by_cases mark : c = '-'
    · simp [hyphen, mark]
    · simp [hyphen, mark]

theorem hyphen_of_takeHyphen {written : Bool} (taken : takeHyphen written s = some t) :
    s = hyphen written ++ t := by
  rw [takeHyphen.eq_def] at taken
  split at taken
  · cases taken
    rfl
  · cases taken
    rfl
  · cases taken

theorem exists_of_readDate (read : readDate s = some d) :
    ∃ year y written more, IsNumeral 4 4 year y ∧ s = year ++ (hyphen written ++ more) ∧
      ((∃ rest, more = 'W' :: rest) ∨
        ∃ month m day n, IsNumeral 2 2 month m ∧ IsNumeral 2 2 day n ∧
          more = month ++ (hyphen written ++ day) ∧ Date.of? y m n = some d) := by
  simp only [readDate, Option.bind_eq_bind] at read
  obtain ⟨⟨y, afterYear⟩, taken, afterYearRead⟩ := Option.bind_eq_some_iff.mp read
  obtain ⟨year, parts, yearWritten⟩ := numeral_of_takeNumber taken
  have marked := hyphen_dropped afterYear
  dsimp only at afterYearRead
  generalize (if (afterYear.head? == some '-') = true then afterYear.drop 1 else afterYear) = more
    at marked afterYearRead
  refine ⟨year, y, afterYear.head? == some '-', more, yearWritten, parts.trans (congrArg _ marked), ?_⟩
  split at afterYearRead
  · next rest => exact .inl ⟨rest, rfl⟩
  · obtain ⟨⟨m, afterMonth⟩, taken, afterMonthRead⟩ := Option.bind_eq_some_iff.mp afterYearRead
    obtain ⟨month, monthParts, monthWritten⟩ := numeral_of_takeNumber taken
    obtain ⟨beforeDay, marked, beforeDayRead⟩ := Option.bind_eq_some_iff.mp afterMonthRead
    obtain ⟨⟨n, afterDay⟩, taken, done⟩ := Option.bind_eq_some_iff.mp beforeDayRead
    obtain ⟨day, dayParts, dayWritten⟩ := numeral_of_takeNumber taken
    dsimp only at done
    split at done
    · next ended =>
      rw [List.isEmpty_iff] at ended
      have dashed : afterMonth = hyphen (afterYear.head? == some '-') ++ beforeDay :=
        hyphen_of_takeHyphen marked
      have whole : more = month ++ (hyphen (afterYear.head? == some '-') ++ day) := by
        rw [monthParts, dashed, dayParts, ended, List.append_nil]
      exact .inr ⟨month, m, day, n, monthWritten, dayWritten, whole, done⟩
    · cases done

theorem stops_of_blank (ends : ∀ c ∈ after.head?, isBlank c = true) : Stops isDigit after :=
  fun c first => isDigit_of_isBlank (ends c first)

theorem exists_of_four {year more : List Char} {y : Nat} (form : DateNotation s w)
    (ends : ∀ c ∈ after.head?, isBlank c = true) (yearWritten : IsNumeral 4 4 year y)
    (same : year ++ more = s ++ after) :
    (∃ month m day k a b, IsNumeral 1 2 month m ∧ IsNumeral 1 2 day k ∧ (a = '-' ∨ a = '/') ∧
        (b = '-' ∨ b = '/') ∧ more = a :: (month ++ b :: (day ++ after)) ∧ w = ⟨some y, some m, k⟩) ∨
      (∃ month m day k, IsNumeral 2 2 month m ∧ IsNumeral 2 2 day k ∧ more = month ++ (day ++ after) ∧
        w = ⟨some y, some m, k⟩) ∨
      more = after := by
  cases form with
  | yearFirst yearForm month day first second =>
    simp only [List.append_assoc, List.cons_append] at same
    obtain ⟨rfl, rfl⟩ := List.append_inj same (yearWritten.length_eq.trans yearForm.length_eq.symm)
    exact .inl ⟨_, _, _, _, _, _, month, day, first, second, rfl, by rw [← yearForm.value, yearWritten.value]⟩
  | dayFirst _ _ day =>
    rw [List.append_assoc, List.cons_append] at same
    exact absurd same (not_four_aligned yearWritten day (stops_cons.mpr (by decide)))
  | joined yearForm month day =>
    simp only [List.append_assoc] at same
    obtain ⟨rfl, rfl⟩ := List.append_inj same (yearWritten.length_eq.trans yearForm.length_eq.symm)
    exact .inr (.inl ⟨_, _, _, _, month, day, rfl, by rw [← yearForm.value, yearWritten.value]⟩)
  | @monthDay front back _ _ month day =>
    -- Four digits can also be a month and a day, and then the date ends with them.
    have size : year.length = (front ++ back).length := by
      rw [List.length_append, yearWritten.length_eq, month.length_eq, day.length_eq]
    exact .inr (.inr (List.append_inj same size).2)
  | day day => exact absurd same (not_four_aligned yearWritten day (stops_of_blank ends))
  | nameFirst named _ _ _ =>
    rw [List.append_assoc] at same
    exact absurd same (not_aligned yearWritten (named.stops fun c => isDigit_of_isCaselessLetter))
  | nameSecond day gap named ended =>
    simp only [List.append_assoc] at same
    exact absurd same (not_four_aligned yearWritten day
      (gap.stops isDigit_of_isYearMark (named.stops fun c => isDigit_of_isCaselessLetter)))

/-- A date that the standard notation reads in front of a text is the date that is written there. -/
theorem date_of_standard (form : DateNotation s w) (ends : ∀ c ∈ after.head?, isBlank c = true)
    (read : readDate ((s ++ after).take n) = some d) :
    (s ++ after).drop n = after ∧ w.complete reference = some d := by
  obtain ⟨year, y, dashed, more, yearWritten, parts, shape⟩ := exists_of_readDate read
  have same : year ++ (hyphen dashed ++ (more ++ (s ++ after).drop n)) = s ++ after := by
    rw [← List.append_assoc (hyphen dashed), ← List.append_assoc year, ← parts, List.take_append_drop]
  generalize (s ++ after).drop n = tail at same
  have digitless : isDigit '-' = false ∧ isDigit 'W' = false := by decide
  -- The hyphens, or their absence, tell which of the three forms it is.
  rcases exists_of_four form ends yearWritten same with
    ⟨month, m, day, k, a, b, monthForm, dayForm, first, second, behind, rfl⟩ |
    ⟨month, m, day, k, monthForm, dayForm, behind, rfl⟩ | behind
  · cases dashed with
    | false =>
      rcases shape with ⟨others, rfl⟩ | ⟨_, _, _, _, monthWritten, _, rfl, -⟩
      · obtain ⟨rfl, -⟩ := List.cons.inj behind
        exact absurd first (by decide)
      · rw [hyphen_false, List.nil_append, List.append_assoc] at behind
        exact absurd behind (not_aligned monthWritten (stops_cons.mpr (isDigit_of_isMark first)))
    | true =>
      obtain ⟨-, behind⟩ := List.cons.inj behind
      rcases shape with ⟨others, rfl⟩ | ⟨_, _, _, _, monthWritten, dayWritten, rfl, made⟩
      · exact absurd behind.symm (not_aligned monthForm (stops_cons.mpr digitless.2))
      · simp only [List.append_assoc] at behind
        obtain ⟨-, afterMonth, rfl⟩ := pair_aligned monthWritten monthForm
          (stops_cons.mpr (isDigit_of_isMark second)) behind
        obtain ⟨-, afterMark⟩ := List.cons.inj afterMonth
        obtain ⟨-, rfl, rfl⟩ := pair_aligned dayWritten dayForm (stops_of_blank ends) afterMark
        exact ⟨rfl, made⟩
  · cases dashed with
    | true => exact absurd behind.symm (not_aligned monthForm (stops_cons.mpr digitless.1))
    | false =>
      rw [hyphen_false, List.nil_append] at behind
      rcases shape with ⟨others, rfl⟩ | ⟨_, _, _, _, monthWritten, dayWritten, rfl, made⟩
      · exact absurd behind.symm (not_aligned monthForm (stops_cons.mpr digitless.2))
      · simp only [hyphen_false, List.append_assoc, List.nil_append] at behind
        obtain ⟨rfl, afterMonth⟩ :=
          List.append_inj behind (monthWritten.length_eq.trans monthForm.length_eq.symm)
        obtain ⟨rfl, rfl⟩ := List.append_inj afterMonth (dayWritten.length_eq.trans dayForm.length_eq.symm)
        rw [← monthForm.value, monthWritten.value, ← dayForm.value, dayWritten.value]
        exact ⟨rfl, made⟩
  · cases dashed with
    | true => exact absurd (ends '-' (by rw [← behind]; rfl)) (by decide)
    | false =>
      rw [hyphen_false, List.nil_append] at behind
      rcases shape with ⟨others, rfl⟩ | ⟨_, _, _, _, monthWritten, _, rfl, -⟩
      · exact absurd (ends 'W' (by rw [← behind]; rfl)) (by decide)
      · rw [List.append_assoc] at behind
        exact absurd behind (not_aligned monthWritten (stops_of_blank ends))

end Dates

section Clocks

variable {s more after digits size : List Char} {found : List Nat} {parts n h m : Nat} {colons : Bool}
  {taken : List Nat × Nat × Bool} {clock : Clock} {offset : Offset} {sign : Char}

theorem isAsciiDigit_of_isDigit {c : Char} (other : isDigit c = false) : isAsciiDigit c = false := by
  cases ascii : isAsciiDigit c with
  | false => rfl
  | true =>
    rw [(digit_of_ascii ascii).1] at other
    cases other

theorem takeParts_of_stops {c : Char} (other : isDigit c = false) :
    takeParts colons found parts (c :: s) = none := by
  have outside := isAsciiDigit_of_isDigit other
  cases parts with
  | zero =>
    have filled : min (c :: s).length 6 = min s.length 5 + 1 := by rw [List.length_cons]; omega
    rw [takeParts, takeFraction, filled]
    simp [takeNumber, outside]
  | succ parts => simp [takeParts, takeNumber, outside]

/-- What may stand behind a part of a clock time that is the last one: nothing, or a space. -/
def IsSpaced (s : List Char) : Prop :=
  s = [] ∨ ∃ rest, s = ' ' :: rest

theorem IsSpaced.stops (spaced : IsSpaced s) : Stops isDigit s := by
  rcases spaced with rfl | ⟨rest, rfl⟩
  · exact stops_nil
  · exact stops_cons.mpr (by decide)

/-- The last part of a clock time. Only the end of the text makes it complete. -/
theorem eq_of_takeParts (written : IsNumeral 1 2 digits n) (spaced : IsSpaced more)
    (read : takeParts colons found (parts + 1) (digits ++ more) = some taken) :
    taken = (found ++ [n], 0, more.isEmpty) := by
  rw [takeParts] at read
  obtain ⟨number, first, remaining⟩ := Option.bind_eq_some_iff.mp read
  cases eq_of_takeNumber written spaced.stops first
  rcases spaced with rfl | ⟨rest, rfl⟩
  · cases remaining
    rfl
  · cases rest with
    | nil =>
      cases remaining
      rfl
    -- Text behind the space would be a further part of the clock time, and no part begins with a space.
    | cons c rest =>
      have digitless : isDigit ' ' = false := by decide
      simp [takeParts_of_stops digitless] at remaining

theorem takeParts_colon {rest : List Char} (written : IsNumeral 1 2 digits n) (filled : after ≠ [])
    (read : takeParts true found (parts + 1) (digits ++ ':' :: (after ++ rest)) = some taken) :
    takeParts true (found ++ [n]) parts (after ++ rest) = some taken := by
  obtain ⟨c, others, rfl⟩ := List.exists_cons_of_ne_nil filled
  rw [takeParts] at read
  obtain ⟨number, first, remaining⟩ := Option.bind_eq_some_iff.mp read
  cases eq_of_takeNumber written (stops_cons.mpr (by decide)) first
  simpa using remaining

/-- Without colons the parts have two digits each. -/
theorem takeParts_joined {hours minutes : List Char} (hoursWritten : IsNumeral 2 2 hours h)
    (minutesWritten : IsNumeral 2 2 minutes m)
    (read : takeParts true [] (parts + 1) (hours ++ minutes) = some taken) :
    takeParts false [h] parts minutes = some taken := by
  obtain ⟨a, b, rfl⟩ := List.length_eq_two.mp minutesWritten.length_eq
  rw [takeParts] at read
  obtain ⟨⟨value, rest⟩, first, remaining⟩ := Option.bind_eq_some_iff.mp read
  obtain ⟨pair, same, pairWritten⟩ := numeral_of_takeNumber first
  obtain ⟨rfl, rfl⟩ := List.append_inj same (hoursWritten.length_eq.trans pairWritten.length_eq.symm)
  have digit := minutesWritten.digits a (by simp)
  have apart (mark : Char) (other : isDigit mark = false) : a ≠ mark := by
    rintro rfl
    rw [digit] at other
    cases other
  have colon : (a == ':') = false := beq_eq_false_iff_ne.mpr (apart ':' (by decide))
  have point := apart '.' (by decide)
  have comma := apart ',' (by decide)
  have value : value = h := pairWritten.value.symm.trans hoursWritten.value
  simpa [colon, point, comma, value] using remaining

theorem not_complete_of_three {a b c : Char} (digit : isDigit c = true)
    (read : takeParts colons [] (parts + 1) [a, b, c] = some taken) : taken.2.2 = false := by
  rw [takeParts] at read
  obtain ⟨⟨value, rest⟩, first, remaining⟩ := Option.bind_eq_some_iff.mp read
  obtain ⟨pair, same, pairWritten⟩ := numeral_of_takeNumber first
  obtain ⟨x, y, rfl⟩ := List.length_eq_two.mp pairWritten.length_eq
  cases same
  -- A single character is left, which is no part, and only a null character would end the text.
  have filled : c.toNat ≠ 0 := by
    obtain ⟨z, member, above, -⟩ := isDigit_iff.mp digit
    have positive : ∀ z ∈ zeroPoints, 0 < z := by decide
    exact (Nat.lt_of_lt_of_le (positive z member) above).ne'
  dsimp only at remaining
  split at remaining
  · cases remaining
    simp [filled]
  · cases remaining

/-- A clock time that both notations can read is the same in both. -/
theorem eq_of_readClock {result : Clock × Bool} (written : ClockText s clock) (spaced : IsSpaced more)
    (read : readClock (s ++ more) = some result) : result = (clock, more.isEmpty) := by
  obtain ⟨taken, inParts, made⟩ := Option.bind_eq_some_iff.mp read
  cases written with
  | minutes hour minute =>
    rw [List.append_assoc, List.cons_append] at inParts
    cases eq_of_takeParts minute.short spaced (takeParts_colon hour minute.ne_nil inParts)
    cases made
    rfl
  | seconds hour minute second =>
    rw [List.append_assoc, List.cons_append, List.append_assoc, List.cons_append] at inParts
    have afterHour := takeParts_colon hour minute.ne_nil inParts
    have afterMinute := takeParts_colon minute.short second.ne_nil afterHour
    cases eq_of_takeParts second.short spaced afterMinute
    cases made
    rfl

/-- So is the size of an offset, when the standard notation can read all of it. -/
theorem eq_of_readClock_offset {c : Clock} (written : OffsetText size h m)
    (read : readClock size = some (c, true)) : c = ⟨h, m, 0, 0⟩ := by
  obtain ⟨taken, inParts, made⟩ := Option.bind_eq_some_iff.mp read
  have alone : IsSpaced [] := .inl rfl
  cases written with
  | hours hours =>
    rw [← List.append_nil size] at inParts
    cases eq_of_takeParts hours alone inParts
    cases made
    rfl
  | @parted hours minutes _ _ hoursWritten minutesWritten =>
    rw [← List.append_nil minutes] at inParts
    cases eq_of_takeParts minutesWritten.short alone
      (takeParts_colon hoursWritten minutesWritten.ne_nil inParts)
    cases made
    rfl
  | @joined hours minutes _ _ hoursWritten minutesWritten =>
    -- Three digits are a pair and a digit that is left over.
    rcases hoursWritten.one_or_two with one | two
    · obtain ⟨a, rfl⟩ := List.length_eq_one_iff.mp one
      obtain ⟨b, last, rfl⟩ := List.length_eq_two.mp minutesWritten.length_eq
      have partly := not_complete_of_three (minutesWritten.digits last (by simp)) inParts
      have whole : taken.2.2 = true := congrArg Prod.snd (Option.some.inj made)
      rw [partly] at whole
      cases whole
    · have pair : IsNumeral 2 2 hours h := ⟨hoursWritten.digits, two.ge, two.le, hoursWritten.value⟩
      have afterHours := takeParts_joined pair minutesWritten inParts
      rw [← List.append_nil minutes] at afterHours
      cases eq_of_takeParts minutesWritten.short alone afterHours
      cases made
      rfl

theorem offset_of_readZone (signed : sign = '+' ∨ sign = '-') (written : OffsetText size h m)
    (read : readZone (sign :: size) = some offset) : offset = Offset.ofParts (sign == '-') h m 0 0 := by
  rw [readZone.eq_def] at read
  split at read
  · next rest same =>
    cases same
    rcases signed with plus | minus
    · cases plus
    · cases minus
  · next same =>
    cases same
    obtain ⟨⟨c, complete⟩, inClock, made⟩ := Option.bind_eq_some_iff.mp read
    cases complete with
    | false => cases made
    | true =>
      cases eq_of_readClock_offset written inClock
      simp only [Bool.not_true, Bool.false_eq_true, ↓reduceIte] at made
      split at made
      · next zero =>
        cases made
        obtain ⟨rfl, rfl⟩ : h = 0 ∧ m = 0 := by simpa using zero
        simp [Offset.ofParts]
      · cases made
        rfl
  · next same => cases same

end Clocks

section Zones

variable {s rest zone : List Char} {clock : Clock} {offset : Offset}

theorem isZoneSign_of_isDigit {c : Char} (digit : isDigit c = true) : isZoneSign c = false := by
  cases sign : isZoneSign c with
  | false => rfl
  | true =>
    simp only [isZoneSign, Bool.or_eq_true, beq_iff_eq] at sign
    rcases sign with (rfl | rfl) | rfl <;> exact absurd digit (by decide)

theorem signless_of_clock (written : ClockText s clock) : ∀ c ∈ s, isZoneSign c = false := by
  have signless {digits : List Char} {least most n : Nat} (numeral : IsNumeral least most digits n) :
      ∀ c ∈ digits, isZoneSign c = false := fun c member => isZoneSign_of_isDigit (numeral.digits c member)
  have colon : isZoneSign ':' = false := by decide
  cases written with
  | minutes hour minute =>
    exact List.forall_mem_append.mpr ⟨signless hour, List.forall_mem_cons.mpr ⟨colon, signless minute⟩⟩
  | seconds hour minute second =>
    have behind := List.forall_mem_append.mpr
      ⟨signless minute, List.forall_mem_cons.mpr ⟨colon, signless second⟩⟩
    exact List.forall_mem_append.mpr ⟨signless hour, List.forall_mem_cons.mpr ⟨colon, behind⟩⟩

/-- The first zone sign of a text stands in front of its offset, or it is the letter for universal time
and the text ends there. -/
theorem readZone_signed {front : List Char} (plus : '+' ∉ front) (minus : '-' ∉ front)
    (null : '\x00' ∉ front) (opens : ∀ c ∈ rest.head?, isZoneSign c = true ∧ c.toNat ≠ 0)
    (read : readZone ((front ++ rest).dropWhile (!isZoneSign ·)) = some offset) :
    rest = [] ∧ offset = 0 ∨ readZone rest = some offset := by
  -- The induction is on what stands in front, in which only the letter can be a sign of a zone.
  induction front with
  | nil =>
    have kept : rest.dropWhile (!isZoneSign ·) = rest := by
      cases rest with
      | nil => rfl
      | cons c rest => rw [List.dropWhile_cons_of_neg (by simp [(opens c rfl).1])]
    rw [List.nil_append, kept] at read
    exact .inr read
  | cons c front ih =>
    simp only [List.mem_cons, not_or] at plus minus null
    rw [List.cons_append] at read
    cases sign : isZoneSign c with
    | false =>
      rw [List.dropWhile_cons_of_pos (by simp [sign])] at read
      exact ih plus.2 minus.2 null.2 read
    | true =>
      have letter : c = 'Z' := by simpa [isZoneSign, Ne.symm plus.1, Ne.symm minus.1] using sign
      rw [List.dropWhile_cons_of_neg (by simp [sign]), letter, readZone] at read
      split at read
      · next ended =>
        cases read
        cases front with
        | nil =>
          cases rest with
          | nil => exact .inl ⟨rfl, rfl⟩
          | cons d rest => exact absurd (by simpa [isUsedUp] using ended) (opens d rfl).2
        | cons d front =>
          have zero : d.toNat = 0 := by simpa [isUsedUp] using ended
          have same : d = '\x00' := by rw [← Char.ofNat_toNat d, zero]
          exact absurd (List.mem_cons.mpr (.inl same.symm)) null.2
      · cases read

/-- A zone that both notations can read is the same in both. -/
theorem eq_of_readZone {result : Offset} (written : ZoneText zone offset)
    (read : readZone (zone.dropWhile (!isZoneSign ·)) = some result) : result = offset := by
  have absent {name blanks : List Char} {c : Char} (named : NamesZone name)
      (blank : ∀ c ∈ blanks, isBlank c = true) (letter : isCaselessLetter c = false)
      (filled : isBlank c = false) : c ∉ name ++ blanks := by
    rw [List.mem_append, not_or]
    exact ⟨notMem_of_kind named.letters letter, notMem_of_kind blank filled⟩
  cases written with
  | @named name blanks named blank =>
    have ended : ∀ c ∈ ([] : List Char).head?, isZoneSign c = true ∧ c.toNat ≠ 0 := nofun
    rw [← List.append_nil (name ++ blanks)] at read
    rcases readZone_signed (absent named blank (by decide) (by decide))
      (absent named blank (by decide) (by decide)) (absent named blank (by decide) (by decide)) ended
      read with ⟨-, zero⟩ | nothing
    · exact zero
    · cases nothing
  | @signed sign size h m signed written =>
    have opened : isZoneSign sign = true := by rcases signed with rfl | rfl <;> decide
    rw [List.dropWhile_cons_of_neg (by simp [opened])] at read
    exact offset_of_readZone signed written read
  | @namedSigned name blanks size sign h m named blank signed written =>
    have opened : isZoneSign sign = true ∧ sign.toNat ≠ 0 := by rcases signed with rfl | rfl <;> decide
    rw [← List.append_assoc] at read
    rcases readZone_signed (absent named blank (by decide) (by decide))
      (absent named blank (by decide) (by decide)) (absent named blank (by decide) (by decide))
      (by simpa using opened) read with ⟨nothing, -⟩ | found
    · cases nothing
    · exact offset_of_readZone signed written found

theorem eq_of_readTime {tail : List Char} {o : Option Offset} {result : Clock × Option Offset}
    (written : ClockText s clock) (zoned : ZoneTail tail o) (read : readTime (s ++ tail) = some result) :
    result = (clock, o) := by
  have signless : ∀ c ∈ s, (!isZoneSign c) = true := by simpa using signless_of_clock written
  rw [readTime, List.takeWhile_append_of_pos signless, List.dropWhile_append_of_pos signless] at read
  obtain ⟨taken, inClock, made⟩ := Option.bind_eq_some_iff.mp read
  cases zoned with
  | absent =>
    cases eq_of_readClock written (.inl rfl) inClock
    cases made
    rfl
  | @written zone offset zoneWritten closed =>
    have space : (!isZoneSign ' ') = true := by decide
    rw [List.takeWhile_cons_of_pos (p := fun c => !isZoneSign c) space] at inClock
    cases eq_of_readClock written (.inr ⟨_, rfl⟩) inClock
    rw [List.dropWhile_cons_of_pos (p := fun c => !isZoneSign c) space] at made
    dsimp only at made
    split at made
    · cases made
    · obtain ⟨given, inZone, found⟩ := Option.bind_eq_some_iff.mp made
      cases eq_of_readZone zoneWritten inZone
      cases found
      rfl

end Zones

section Moments

variable {s text front tail : List Char} {w : WrittenDate} {reference d : Date} {clock : Clock}
  {zone : Option Offset} {m : Moment}

theorem eq_of_moment {o : Option Offset} (made : Moment.of? d clock o = some m) : m = ⟨d, clock, o⟩ := by
  rw [Moment.of?] at made
  split at made
  · cases made
    rfl
  · cases made

/-- A moment in the standard notation is a date and perhaps one more character and a time. -/
theorem exists_of_read (found : read (String.ofList text) = some m) :
    ∃ n d, readDate (text.take n) = some d ∧
      (text.drop n = [] ∧ m = ⟨d, .midnight, none⟩ ∨
        text.drop n ≠ [] ∧ ∃ clock offset, readTime ((text.drop n).drop 1) = some (clock, offset) ∧
          m = ⟨d, clock, offset⟩) := by
  simp only [read, String.toList_ofList, Option.bind_eq_bind] at found
  split at found
  · cases found
  · obtain ⟨n, -, dated⟩ := Option.bind_eq_some_iff.mp found
    obtain ⟨d, inDate, timed⟩ := Option.bind_eq_some_iff.mp dated
    refine ⟨n, d, inDate, ?_⟩
    split at timed
    · next ended => exact .inl ⟨List.isEmpty_iff.mp ended, eq_of_moment timed⟩
    · next more =>
      obtain ⟨⟨clock, offset⟩, inTime, made⟩ := Option.bind_eq_some_iff.mp timed
      exact .inr ⟨mt List.isEmpty_iff.mpr more, clock, offset, inTime, eq_of_moment made⟩

theorem eq_of_read_date (form : DateNotation s w) (completed : w.complete reference = some d)
    (found : read (String.ofList s) = some m) : m = ⟨d, .midnight, none⟩ := by
  obtain ⟨n, given, inDate, shape⟩ := exists_of_read found
  have ends : ∀ c ∈ ([] : List Char).head?, isBlank c = true := nofun
  rw [← List.append_nil s] at inDate shape
  obtain ⟨rest, same⟩ := date_of_standard form ends inDate
  rw [completed] at same
  cases same
  rcases shape with ⟨-, made⟩ | ⟨more, -⟩
  · exact made
  · exact absurd rest more

theorem readDate_of_clock (written : ClockText s clock) (n : Nat) : readDate ((s ++ tail).take n) = none := by
  have begun {hour more : List Char} {h : Nat} (hourWritten : IsNumeral 1 2 hour h) :
      readDate ((hour ++ ':' :: more).take n) = none := by
    cases found : readDate ((hour ++ ':' :: more).take n) with
    | none => rfl
    | some d =>
      obtain ⟨year, y, dashed, others, yearWritten, parts, -⟩ := exists_of_readDate found
      have same : year ++ (hyphen dashed ++ others ++ (hour ++ ':' :: more).drop n) = hour ++ ':' :: more := by
        rw [← List.append_assoc, ← parts, List.take_append_drop]
      exact absurd same (not_four_aligned yearWritten hourWritten (stops_cons.mpr (by decide)))
  cases written with
  | minutes hour _ => rw [List.append_assoc, List.cons_append]; exact begun hour
  | seconds hour _ _ => rw [List.append_assoc, List.cons_append]; exact begun hour

theorem readTime_of_blank {c : Char} (blank : isBlank c = true) : readTime (c :: s) = none := by
  have digitless := isAsciiDigit_of_isDigit (isDigit_of_isBlank blank)
  have unread : readClock ((c :: s).takeWhile (!isZoneSign ·)) = none := by
    rw [List.takeWhile_cons]
    split
    · simp [readClock, takeParts, takeNumber, digitless]
    · rfl
  rw [readTime, unread]
  rfl

/-- A date, a clock time and a zone that the standard notation can read are those that are written there. -/
theorem eq_of_read_clock (dated : DateFront reference front d) (written : ClockText s clock)
    (zoned : ZoneTail tail zone) (found : read (String.ofList (front ++ (s ++ tail))) = some m) :
    m = ⟨d, clock, zone⟩ := by
  obtain ⟨n, given, inDate, shape⟩ := exists_of_read found
  cases dated with
  | absent =>
    rw [List.nil_append, readDate_of_clock written] at inDate
    cases inDate
  | @written date gap w d form completed filled blank =>
    obtain ⟨c, gap, rfl⟩ := List.exists_cons_of_ne_nil filled
    have ends : ∀ b ∈ (c :: (gap ++ (s ++ tail))).head?, isBlank b = true := by
      simpa using blank c List.mem_cons_self
    rw [List.append_assoc, List.cons_append] at inDate shape
    obtain ⟨rest, same⟩ := date_of_standard form ends inDate
    rw [completed] at same
    cases same
    rw [rest] at shape
    rcases shape with ⟨nothing, -⟩ | ⟨-, given, offset, inTime, made⟩
    · cases nothing
    · cases gap with
      | nil =>
        cases eq_of_readTime written zoned inTime
        exact made
      -- One blank is passed over, and no clock time begins with a second one.
      | cons b gap =>
        have unread := readTime_of_blank (s := gap ++ (s ++ tail)) (blank b (by simp))
        rw [List.drop_one, List.tail_cons, List.cons_append, unread] at inTime
        cases inTime

end Moments

end IsoText

end UsageGrammar.Calendar
