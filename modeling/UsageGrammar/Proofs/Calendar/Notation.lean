import UsageGrammar.Calendar.Written
import UsageGrammar.Proofs.Text.Caseless
import UsageGrammar.Proofs.Text.Numerals

/-! The notations of a date. A text is read as a date when it is written in one of them, and a date that
leaves out its year or its month is completed from the reference. -/

set_option autoImplicit false

namespace UsageGrammar.Calendar

open Text

/-- The word is the name of a month or begins like it: it has three to nine letters, and the first three
are the short name, in any case. The letters are those of the Latin alphabet and the few others that
equal one of them when case is ignored. -/
structure NamesMonth (name : List Char) (month : Nat) : Prop where
  letters : ∀ c ∈ name, isCaselessLetter c = true
  least : 3 ≤ name.length
  most : name.length ≤ 9
  counted : 0 < month
  opens : monthNames[month - 1]? = some (String.ofList ((name.take 3).map Char.toLower))

theorem NamesMonth.of_ascii {name : List Char} {month : Nat} (letters : ∀ c ∈ name, c.isAlpha = true)
    (least : 3 ≤ name.length) (most : name.length ≤ 9) (counted : 0 < month)
    (opens : monthNames[month - 1]? = some (String.ofList ((name.take 3).map Char.toLower))) :
    NamesMonth name month :=
  ⟨fun c member => isCaselessLetter_of_isAlpha (letters c member), least, most, counted, opens⟩

def IsGap (s : List Char) : Prop :=
  s = [] ∨ ∃ c, isDateSeparator c = true ∧ s = [c]

def isYearMark (c : Char) : Bool :=
  isDateSeparator c || c == ','

/-- Nothing, or marks and a year. -/
inductive YearPart : List Char → Option Nat → Prop where
  | absent : YearPart [] none
  | written {marks year : List Char} {y : Nat} :
      marks ≠ [] → (∀ c ∈ marks, isYearMark c = true) → IsNumeral 4 4 year y →
      YearPart (marks ++ year) (some y)

/-- What the notations of a date are and which parts of it they give: such as `2022-01-02` and `2022/1/2`,
`2.1.2022`, `20220102`, `0102`, `2`, `jan-2` and `January 2, 2022`, `2.jan` and `2 January 2022`. -/
inductive DateNotation : List Char → WrittenDate → Prop where
  | yearFirst {year month day : List Char} {y m d : Nat} {a b : Char} :
      IsNumeral 4 4 year y → IsNumeral 1 2 month m → IsNumeral 1 2 day d →
      a = '-' ∨ a = '/' → b = '-' ∨ b = '/' →
      DateNotation (year ++ a :: (month ++ b :: day)) ⟨some y, some m, d⟩
  | dayFirst {year month day : List Char} {y m d : Nat} :
      IsNumeral 4 4 year y → IsNumeral 1 2 month m → IsNumeral 1 2 day d →
      DateNotation (day ++ '.' :: (month ++ '.' :: year)) ⟨some y, some m, d⟩
  | joined {year month day : List Char} {y m d : Nat} :
      IsNumeral 4 4 year y → IsNumeral 2 2 month m → IsNumeral 2 2 day d →
      DateNotation (year ++ (month ++ day)) ⟨some y, some m, d⟩
  | monthDay {month day : List Char} {m d : Nat} :
      IsNumeral 2 2 month m → IsNumeral 2 2 day d → DateNotation (month ++ day) ⟨none, some m, d⟩
  | day {day : List Char} {d : Nat} : IsNumeral 1 2 day d → DateNotation day ⟨none, none, d⟩
  | nameFirst {name gap day tail : List Char} {year : Option Nat} {m d : Nat} :
      NamesMonth name m → IsGap gap → IsNumeral 1 2 day d → YearPart tail year →
      DateNotation (name ++ (gap ++ (day ++ tail))) ⟨year, some m, d⟩
  | nameSecond {name gap day tail : List Char} {year : Option Nat} {m d : Nat} :
      IsNumeral 1 2 day d → IsGap gap → NamesMonth name m → YearPart tail year →
      DateNotation (day ++ (gap ++ (name ++ tail))) ⟨year, some m, d⟩

section Marks

variable {kind : Char → Bool} {s rest : List Char}

theorem isDigit_of_isYearMark (c : Char) (mark : isYearMark c = true) : isDigit c = false := by
  simp only [isYearMark, isDateSeparator, Bool.or_eq_true, beq_iff_eq] at mark
  rcases mark with ((rfl | rfl) | rfl) | rfl <;> decide

theorem isCaselessLetter_of_isYearMark (c : Char) (mark : isYearMark c = true) :
    isCaselessLetter c = false := by
  simp only [isYearMark, isDateSeparator, Bool.or_eq_true, beq_iff_eq] at mark
  rcases mark with ((rfl | rfl) | rfl) | rfl <;> decide

theorem isYearMark_of_isDateSeparator {c : Char} (separator : isDateSeparator c = true) :
    isYearMark c = true := by
  simp [isYearMark, separator]

theorem isDateSeparator_of_isCaselessLetter {c : Char} (letter : isCaselessLetter c = true) :
    isDateSeparator c = false := by
  cases separator : isDateSeparator c with
  | false => rfl
  | true =>
    have other := isCaselessLetter_of_isYearMark c (isYearMark_of_isDateSeparator separator)
    rw [letter] at other
    cases other

theorem isDigit_of_isMark {c : Char} (mark : c = '-' ∨ c = '/') : isDigit c = false := by
  rcases mark with rfl | rfl <;> decide

theorem IsGap.stops (gap : IsGap s) (apart : ∀ c, isYearMark c = true → kind c = false)
    (ends : Stops kind rest) : Stops kind (s ++ rest) := by
  rcases gap with rfl | ⟨c, separator, rfl⟩
  · exact ends
  · exact stops_cons.mpr (apart c (isYearMark_of_isDateSeparator separator))

theorem YearPart.stops {year : Option Nat} (part : YearPart s year)
    (apart : ∀ c, isYearMark c = true → kind c = false) : Stops kind s := by
  cases part with
  | absent => exact stops_nil
  | written filled inside _ => exact stops_append filled fun c member => apart c (inside c member)

theorem NamesMonth.ne_nil {name : List Char} {month : Nat} (named : NamesMonth name month) : name ≠ [] := by
  rintro rfl
  have := named.least
  simp at this

theorem NamesMonth.stops {name : List Char} {month : Nat} (named : NamesMonth name month)
    (apart : ∀ c, isCaselessLetter c = true → kind c = false) : Stops kind (name ++ rest) := by
  exact stops_append named.ne_nil fun c member => apart c (named.letters c member)

end Marks

section Ends

variable {s : List Char} {w : WrittenDate}

theorem YearPart.isClosed {year : Option Nat} {front : List Char} (part : YearPart s year)
    (closed : IsClosed front) : IsClosed (front ++ s) := by
  cases part with
  | absent => rwa [List.append_nil]
  | written _ _ year => exact .append front (.append _ year.isClosed)

theorem DateNotation.isClosed (form : DateNotation s w) : IsClosed s := by
  cases form with
  | yearFirst _ _ day _ _ => exact .append _ (.append [_] (.append _ (.append [_] day.isClosed)))
  | dayFirst year _ _ => exact .append _ (.append ['.'] (.append _ (.append ['.'] year.isClosed)))
  | joined _ _ day => exact .append _ (.append _ day.isClosed)
  | monthDay _ day => exact .append _ day.isClosed
  | day day => exact day.isClosed
  | nameFirst _ _ day ended => exact .append _ (.append _ (ended.isClosed day.isClosed))
  | nameSecond _ _ named ended =>
    -- Without a year the text ends in the name.
    refine .append _ (.append _ (ended.isClosed (isClosed_of_forall named.ne_nil fun c member => ?_)))
    exact isBlank_of_isCaselessLetter (named.letters c member)

theorem DateNotation.stops (form : DateNotation s w) : Stops isBlank s := by
  have digits (c : Char) : isBlank c = true → isDigit c = false := isDigit_of_isBlank
  cases form with
  | yearFirst year _ _ _ _ => exact year.stops digits
  | dayFirst _ _ day => exact day.stops digits
  | joined year _ _ => exact year.stops digits
  | monthDay month _ => exact month.stops digits
  | day day => exact day.stops_alone digits
  | nameFirst named _ _ _ => exact named.stops fun c => isBlank_of_isCaselessLetter
  | nameSecond day _ _ _ => exact day.stops digits

theorem DateNotation.strip_eq (form : DateNotation s w) : strip s = s :=
  strip_of_isClosed form.stops form.isClosed

end Ends

section Parts

variable {s rest run : List Char} {n : Nat}

theorem takeRun_eq_iff {kind : Char → Bool} :
    takeRun kind s = (run, rest) ↔ s = run ++ rest ∧ (∀ c ∈ run, kind c = true) ∧ Stops kind rest := by
  constructor
  · intro taken
    cases taken
    exact ⟨List.takeWhile_append_dropWhile.symm, fun c => List.mem_takeWhile_imp,
      stops_dropWhile kind s⟩
  · rintro ⟨rfl, inside, ends⟩
    rw [takeRun, takeWhile_run inside ends, dropWhile_run inside ends]

theorem takeShort_eq_some_iff :
    takeShort s = some (n, rest) ↔
      ∃ digits, s = digits ++ rest ∧ IsNumeral 1 2 digits n ∧ Stops isDigit rest := by
  rcases taken : takeRun isDigit s with ⟨digits, after⟩
  obtain ⟨parts, inside, ends⟩ := takeRun_eq_iff.mp taken
  simp only [takeShort, taken]
  constructor
  · intro short
    split at short
    · next size =>
      cases short
      simp only [Bool.or_eq_true, decide_eq_true_eq] at size
      exact ⟨digits, parts, ⟨inside, by omega, by omega, rfl⟩, ends⟩
    · cases short
  · rintro ⟨others, split, written, stops⟩
    have same := taken.symm.trans (takeRun_eq_iff.mpr ⟨split, written.digits, stops⟩)
    cases same
    have size : (digits.length = 1 || digits.length = 2) = true := by
      simp only [Bool.or_eq_true, decide_eq_true_eq]
      have := written.least
      have := written.most
      omega
    rw [if_pos size, written.value]

theorem yearAtEnd?_eq_some_iff : yearAtEnd? s = some n ↔ IsNumeral 4 4 s n := by
  rw [yearAtEnd?]
  constructor
  · intro year
    split at year
    · next size =>
      cases year
      simp only [Bool.and_eq_true, decide_eq_true_eq, List.all_eq_true] at size
      exact ⟨size.2, by omega, by omega, rfl⟩
    · cases year
  · intro written
    have size : (s.length = 4 && s.all isDigit) = true := by
      simp only [Bool.and_eq_true, decide_eq_true_eq, List.all_eq_true]
      exact ⟨Nat.le_antisymm written.most written.least, written.digits⟩
    rw [if_pos size, written.value]

theorem takeName_eq_some_iff {name : List Char} :
    takeName s = some (name, rest) ↔
      s = name ++ rest ∧ (∀ c ∈ name, isCaselessLetter c = true) ∧ 3 ≤ name.length ∧ name.length ≤ 9 ∧
        Stops isCaselessLetter rest := by
  rcases taken : takeRun isCaselessLetter s with ⟨letters, after⟩
  obtain ⟨parts, inside, ends⟩ := takeRun_eq_iff.mp taken
  simp only [takeName, taken]
  constructor
  · intro named
    split at named
    · next size =>
      cases named
      simp only [Bool.and_eq_true, decide_eq_true_eq] at size
      exact ⟨parts, inside, size.1, size.2, ends⟩
    · cases named
  · rintro ⟨split, letter, least, most, stops⟩
    have same := taken.symm.trans (takeRun_eq_iff.mpr ⟨split, letter, stops⟩)
    cases same
    rw [if_pos (by simp [least, most])]

theorem monthOf?_eq_some_iff {name : List Char} {month : Nat} :
    monthOf? name = some month ↔
      0 < month ∧ monthNames[month - 1]? = some (String.ofList ((name.take 3).map Char.toLower)) := by
  have distinct : monthNames.Nodup := by decide
  simp only [monthOf?, Option.map_eq_some_iff, idxOf?_eq_some_iff_getElem? distinct]
  constructor
  · rintro ⟨index, found, rfl⟩
    exact ⟨Nat.succ_pos index, found⟩
  · rintro ⟨counted, opens⟩
    exact ⟨month - 1, opens, Nat.sub_add_cancel counted⟩

theorem exists_gap (s : List Char) : ∃ gap, IsGap gap ∧ s = gap ++ skipSeparator s := by
  cases s with
  | nil => exact ⟨[], .inl rfl, rfl⟩
  | cons c s =>
    rw [skipSeparator]
    split
    · next separator => exact ⟨[c], .inr ⟨c, separator, rfl⟩, rfl⟩
    · exact ⟨[], .inl rfl, rfl⟩

theorem skipSeparator_gap {gap : List Char} (apart : IsGap gap) (ends : Stops isDateSeparator rest) :
    skipSeparator (gap ++ rest) = rest := by
  rcases apart with rfl | ⟨c, separator, rfl⟩
  · cases rest with
    | nil => rfl
    | cons c rest => simp [skipSeparator, stops_cons.mp ends]
  · simp [skipSeparator, separator]

theorem optionalYear_cons (c : Char) :
    optionalYear (c :: s) =
      if (takeRun isYearMark (c :: s)).1.isEmpty then none
      else (yearAtEnd? (takeRun isYearMark (c :: s)).2).map some :=
  rfl

theorem optionalYear_eq_some_iff {year : Option Nat} : optionalYear s = some year ↔ YearPart s year := by
  constructor
  · intro read
    cases s with
    | nil =>
      cases read
      exact .absent
    | cons c s =>
      rcases taken : takeRun isYearMark (c :: s) with ⟨marks, rest⟩
      obtain ⟨parts, inside, -⟩ := takeRun_eq_iff.mp taken
      rw [optionalYear_cons, taken] at read
      split at read
      · cases read
      · next filled =>
        obtain ⟨y, written, rfl⟩ := Option.map_eq_some_iff.mp read
        rw [parts]
        exact .written (by simpa using filled) inside (yearAtEnd?_eq_some_iff.mp written)
  · intro written
    cases written with
    | absent => rfl
    | @written marks year y filled inside numeral =>
      have taken := takeRun_eq_iff.mpr ⟨rfl, inside, numeral.stops_alone isDigit_of_isYearMark⟩
      cases marks with
      | nil => exact absurd rfl filled
      | cons c marks =>
        rw [List.cons_append] at taken ⊢
        rw [optionalYear_cons, taken, yearAtEnd?_eq_some_iff.mpr numeral]
        rfl

end Parts

section Soundness

variable {s : List Char} {w : WrittenDate}

theorem notation_of_readDigits (read : readDigits s = some w) : DateNotation s w := by
  rw [readDigits] at read
  split at read
  · cases read
  next digits =>
  have digits : ∀ c ∈ s, isDigit c = true := by simpa using digits
  have part {t : List Char} {least most : Nat} (within : t ⊆ s) (lower : least ≤ t.length)
      (upper : t.length ≤ most) : IsNumeral least most t (numeral t) :=
    ⟨fun c member => digits c (within member), lower, upper, rfl⟩
  split at read
  · next size =>
    cases read
    have parts : s.take 4 ++ ((s.drop 4).take 2 ++ s.drop 6) = s := by
      rw [← List.drop_drop (i := 2) (j := 4), List.take_append_drop, List.take_append_drop]
    have middle : (s.drop 4).take 2 ⊆ s := fun _ member => List.mem_of_mem_drop (List.mem_of_mem_take member)
    have joined := DateNotation.joined
      (part (List.take_subset 4 s) (by simp; omega) (List.length_take_le 4 s))
      (part middle (by simp; omega) (List.length_take_le 2 _))
      (part (List.drop_subset 6 s) (by simp; omega) (by simp; omega))
    rwa [parts] at joined
  split at read
  · next size =>
    cases read
    have written := DateNotation.monthDay
      (part (List.take_subset 2 s) (by simp; omega) (List.length_take_le 2 s))
      (part (List.drop_subset 2 s) (by simp; omega) (by simp; omega))
    rwa [List.take_append_drop] at written
  split at read
  · next size =>
    cases read
    simp only [Bool.or_eq_true, decide_eq_true_eq] at size
    exact .day (part (List.Subset.refl s) (by omega) (by omega))
  · cases read

theorem notation_of_readYearFirst (read : readYearFirst s = some w) : DateNotation s w := by
  rcases taken : takeRun isDigit s with ⟨year, rest⟩
  obtain ⟨parts, digits, -⟩ := takeRun_eq_iff.mp taken
  simp only [readYearFirst, taken] at read
  split at read
  · cases read
  next size =>
  have size : year.length = 4 := by simpa using size
  split at read
  · next a rest =>
    obtain ⟨⟨m, rest⟩, short, afterMonth⟩ := Option.bind_eq_some_iff.mp read
    obtain ⟨month, rfl, monthWritten, -⟩ := takeShort_eq_some_iff.mp short
    dsimp only at afterMonth
    split at afterMonth
    · next b rest =>
      obtain ⟨⟨d, rest⟩, short, afterDay⟩ := Option.bind_eq_some_iff.mp afterMonth
      obtain ⟨day, rfl, dayWritten, -⟩ := takeShort_eq_some_iff.mp short
      dsimp only at afterDay
      split at afterDay
      · next marks =>
        cases afterDay
        simp only [Bool.and_eq_true, Bool.or_eq_true, beq_iff_eq, List.isEmpty_iff] at marks
        obtain ⟨⟨first, second⟩, rfl⟩ := marks
        rw [parts, List.append_nil]
        exact .yearFirst ⟨digits, size.ge, size.le, rfl⟩ monthWritten dayWritten first second
      · cases afterDay
    · cases afterMonth
  · cases read

theorem notation_of_readDayFirst (read : readDayFirst s = some w) : DateNotation s w := by
  obtain ⟨⟨d, rest⟩, short, afterDay⟩ := Option.bind_eq_some_iff.mp read
  obtain ⟨day, rfl, dayWritten, -⟩ := takeShort_eq_some_iff.mp short
  dsimp only at afterDay
  split at afterDay
  · obtain ⟨⟨m, rest⟩, short, afterMonth⟩ := Option.bind_eq_some_iff.mp afterDay
    obtain ⟨month, rfl, monthWritten, -⟩ := takeShort_eq_some_iff.mp short
    dsimp only at afterMonth
    split at afterMonth
    · obtain ⟨y, year, done⟩ := Option.bind_eq_some_iff.mp afterMonth
      cases done
      exact .dayFirst (yearAtEnd?_eq_some_iff.mp year) monthWritten dayWritten
    · cases afterMonth
  · cases afterDay

theorem namesMonth_of_takeName {name rest : List Char} {m : Nat} (taken : takeName s = some (name, rest))
    (month : monthOf? name = some m) : s = name ++ rest ∧ NamesMonth name m := by
  obtain ⟨parts, letters, least, most, -⟩ := takeName_eq_some_iff.mp taken
  obtain ⟨counted, opens⟩ := monthOf?_eq_some_iff.mp month
  exact ⟨parts, letters, least, most, counted, opens⟩

theorem notation_of_readNameFirst (read : readNameFirst s = some w) : DateNotation s w := by
  simp only [readNameFirst, Option.bind_eq_bind, Option.bind_eq_some_iff, Prod.exists] at read
  obtain ⟨name, after, taken, d, tail, short, year, ended, m, month, done⟩ := read
  cases done
  obtain ⟨rfl, named⟩ := namesMonth_of_takeName taken month
  obtain ⟨gap, apart, parts⟩ := exists_gap after
  obtain ⟨day, opened, dayWritten, -⟩ := takeShort_eq_some_iff.mp short
  rw [parts, opened]
  exact .nameFirst named apart dayWritten (optionalYear_eq_some_iff.mp ended)

theorem notation_of_readNameSecond (read : readNameSecond s = some w) : DateNotation s w := by
  simp only [readNameSecond, Option.bind_eq_bind, Option.bind_eq_some_iff, Prod.exists] at read
  obtain ⟨d, after, short, name, tail, taken, year, ended, m, month, done⟩ := read
  cases done
  obtain ⟨day, rfl, dayWritten, -⟩ := takeShort_eq_some_iff.mp short
  obtain ⟨gap, apart, parts⟩ := exists_gap after
  obtain ⟨opened, named⟩ := namesMonth_of_takeName taken month
  rw [parts, opened]
  exact .nameSecond dayWritten apart named (optionalYear_eq_some_iff.mp ended)

theorem notation_of_read (read : WrittenDate.read s = some w) : DateNotation s w := by
  simp only [WrittenDate.read, Option.or_eq_some_iff] at read
  rcases read with digits | ⟨-, yearFirst | ⟨-, dayFirst | ⟨-, nameFirst | ⟨-, nameSecond⟩⟩⟩⟩
  · exact notation_of_readDigits digits
  · exact notation_of_readYearFirst yearFirst
  · exact notation_of_readDayFirst dayFirst
  · exact notation_of_readNameFirst nameFirst
  · exact notation_of_readNameSecond nameSecond

end Soundness

section Completeness

variable {s rest year month day name gap tail : List Char} {y m d : Nat} {given : Option Nat}

theorem readDigits_of_mem {c : Char} (member : c ∈ s) (outside : isDigit c = false) : readDigits s = none := by
  have mixed : s.all isDigit = false := List.all_eq_false.mpr ⟨c, member, by simp [outside]⟩
  rw [readDigits, mixed]
  rfl

theorem readYearFirst_of_run (taken : takeRun isDigit s = (day, rest)) (size : day.length ≠ 4) :
    readYearFirst s = none := by
  simp [readYearFirst, taken, size]

theorem read_yearFirst {a b : Char} (yearWritten : IsNumeral 4 4 year y) (monthWritten : IsNumeral 1 2 month m)
    (dayWritten : IsNumeral 1 2 day d) (first : a = '-' ∨ a = '/') (second : b = '-' ∨ b = '/') :
    WrittenDate.read (year ++ a :: (month ++ b :: day)) = some ⟨some y, some m, d⟩ := by
  have taken : takeRun isDigit (year ++ a :: (month ++ b :: day)) = (year, a :: (month ++ b :: day)) :=
    takeRun_eq_iff.mpr ⟨rfl, yearWritten.digits, stops_cons.mpr (isDigit_of_isMark first)⟩
  have size := yearWritten.length_eq
  have takenMonth : takeShort (month ++ b :: day) = some (m, b :: day) :=
    takeShort_eq_some_iff.mpr ⟨month, rfl, monthWritten, stops_cons.mpr (isDigit_of_isMark second)⟩
  have takenDay : takeShort day = some (d, []) :=
    takeShort_eq_some_iff.mpr ⟨day, (List.append_nil day).symm, dayWritten, stops_nil⟩
  have mixed : readDigits (year ++ a :: (month ++ b :: day)) = none :=
    readDigits_of_mem (by simp) (isDigit_of_isMark first)
  have found : readYearFirst (year ++ a :: (month ++ b :: day)) = some ⟨some y, some m, d⟩ := by
    simp [readYearFirst, taken, size, takenMonth, takenDay, yearWritten.value, first, second]
  rw [WrittenDate.read, mixed, found]
  rfl

theorem read_dayFirst (yearWritten : IsNumeral 4 4 year y) (monthWritten : IsNumeral 1 2 month m)
    (dayWritten : IsNumeral 1 2 day d) :
    WrittenDate.read (day ++ '.' :: (month ++ '.' :: year)) = some ⟨some y, some m, d⟩ := by
  have point {t : List Char} : Stops isDigit ('.' :: t) := stops_cons.mpr (by decide)
  have taken := takeRun_eq_iff.mpr ⟨rfl, dayWritten.digits, point (t := month ++ '.' :: year)⟩
  have takenDay : takeShort (day ++ '.' :: (month ++ '.' :: year)) = some (d, '.' :: (month ++ '.' :: year)) :=
    takeShort_eq_some_iff.mpr ⟨day, rfl, dayWritten, point⟩
  have takenMonth : takeShort (month ++ '.' :: year) = some (m, '.' :: year) :=
    takeShort_eq_some_iff.mpr ⟨month, rfl, monthWritten, point⟩
  have mixed : readDigits (day ++ '.' :: (month ++ '.' :: year)) = none :=
    readDigits_of_mem (c := '.') (by simp) (by decide)
  have other : readYearFirst (day ++ '.' :: (month ++ '.' :: year)) = none :=
    readYearFirst_of_run taken (by have := dayWritten.most; omega)
  have found : readDayFirst (day ++ '.' :: (month ++ '.' :: year)) = some ⟨some y, some m, d⟩ := by
    simp [readDayFirst, takenDay, takenMonth, yearAtEnd?_eq_some_iff.mpr yearWritten]
  rw [WrittenDate.read, mixed, other, found]
  rfl

theorem read_joined (yearWritten : IsNumeral 4 4 year y) (monthWritten : IsNumeral 2 2 month m)
    (dayWritten : IsNumeral 2 2 day d) :
    WrittenDate.read (year ++ (month ++ day)) = some ⟨some y, some m, d⟩ := by
  have digits : (year ++ (month ++ day)).all isDigit = true := by
    simp only [List.all_append, Bool.and_eq_true, List.all_eq_true]
    exact ⟨yearWritten.digits, monthWritten.digits, dayWritten.digits⟩
  have size : (year ++ (month ++ day)).length = 8 := by
    simp [yearWritten.length_eq, monthWritten.length_eq, dayWritten.length_eq]
  have front : (year ++ (month ++ day)).take 4 = year := List.take_left' yearWritten.length_eq
  have middle : ((year ++ (month ++ day)).drop 4).take 2 = month := by
    rw [List.drop_left' yearWritten.length_eq, List.take_left' monthWritten.length_eq]
  have back : (year ++ (month ++ day)).drop 6 = day := by
    rw [← List.append_assoc, List.drop_left' (by simp [yearWritten.length_eq, monthWritten.length_eq])]
  have found : readDigits (year ++ (month ++ day)) = some ⟨some y, some m, d⟩ := by
    rw [readDigits, digits, size, front, middle, back, yearWritten.value, monthWritten.value, dayWritten.value]
    rfl
  rw [WrittenDate.read, found]
  rfl

theorem read_monthDay (monthWritten : IsNumeral 2 2 month m) (dayWritten : IsNumeral 2 2 day d) :
    WrittenDate.read (month ++ day) = some ⟨none, some m, d⟩ := by
  have digits : (month ++ day).all isDigit = true := by
    simp only [List.all_append, Bool.and_eq_true, List.all_eq_true]
    exact ⟨monthWritten.digits, dayWritten.digits⟩
  have size : (month ++ day).length = 4 := by simp [monthWritten.length_eq, dayWritten.length_eq]
  have found : readDigits (month ++ day) = some ⟨none, some m, d⟩ := by
    rw [readDigits, digits, size, List.take_left' monthWritten.length_eq,
      List.drop_left' monthWritten.length_eq, monthWritten.value, dayWritten.value]
    rfl
  rw [WrittenDate.read, found]
  rfl

theorem read_day (dayWritten : IsNumeral 1 2 day d) : WrittenDate.read day = some ⟨none, none, d⟩ := by
  have digits : day.all isDigit = true := List.all_eq_true.mpr dayWritten.digits
  have found : readDigits day = some ⟨none, none, d⟩ := by
    rcases dayWritten.one_or_two with size | size <;> rw [readDigits, digits, size, dayWritten.value] <;> rfl
  rw [WrittenDate.read, found]
  rfl

theorem takeName_append (named : NamesMonth name m) (ends : Stops isCaselessLetter rest) :
    takeName (name ++ rest) = some (name, rest) :=
  takeName_eq_some_iff.mpr ⟨rfl, named.letters, named.least, named.most, ends⟩

theorem monthOf?_of_named (named : NamesMonth name m) : monthOf? name = some m :=
  monthOf?_eq_some_iff.mpr ⟨named.counted, named.opens⟩

theorem readDigits_of_named (named : NamesMonth name m) (within : name ⊆ s) : readDigits s = none := by
  obtain ⟨c, member⟩ := List.exists_mem_of_ne_nil name named.ne_nil
  exact readDigits_of_mem (within member) (isDigit_of_isCaselessLetter (named.letters c member))

theorem takeRun_of_stops {kind : Char → Bool} (ends : Stops kind s) : takeRun kind s = ([], s) :=
  takeRun_eq_iff.mpr ⟨rfl, nofun, ends⟩

theorem takeShort_of_stops (ends : Stops isDigit s) : takeShort s = none := by
  rw [takeShort, takeRun_of_stops ends]
  rfl

theorem takeName_of_stops (ends : Stops isCaselessLetter s) : takeName s = none := by
  rw [takeName, takeRun_of_stops ends]
  rfl

theorem read_nameFirst (named : NamesMonth name m) (apart : IsGap gap) (dayWritten : IsNumeral 1 2 day d)
    (ended : YearPart tail given) :
    WrittenDate.read (name ++ (gap ++ (day ++ tail))) = some ⟨given, some m, d⟩ := by
  have digitless : Stops isDigit (name ++ (gap ++ (day ++ tail))) :=
    named.stops fun c => isDigit_of_isCaselessLetter
  have afterName : takeName (name ++ (gap ++ (day ++ tail))) = some (name, gap ++ (day ++ tail)) :=
    takeName_append named (apart.stops isCaselessLetter_of_isYearMark
      (dayWritten.stops fun c => isDigit_of_isCaselessLetter))
  have afterGap : skipSeparator (gap ++ (day ++ tail)) = day ++ tail :=
    skipSeparator_gap apart (dayWritten.stops fun c separator =>
      isDigit_of_isYearMark c (isYearMark_of_isDateSeparator separator))
  have afterDay : takeShort (day ++ tail) = some (d, tail) :=
    takeShort_eq_some_iff.mpr ⟨day, rfl, dayWritten, ended.stops isDigit_of_isYearMark⟩
  have found : readNameFirst (name ++ (gap ++ (day ++ tail))) = some ⟨given, some m, d⟩ := by
    simp [readNameFirst, afterName, afterGap, afterDay, optionalYear_eq_some_iff.mpr ended,
      monthOf?_of_named named]
  -- The notations that come first begin with a digit.
  have mixed : readDigits (name ++ (gap ++ (day ++ tail))) = none :=
    readDigits_of_named named (List.subset_append_left name _)
  have numberless : readYearFirst (name ++ (gap ++ (day ++ tail))) = none :=
    readYearFirst_of_run (takeRun_of_stops digitless) (by simp)
  have dayless : readDayFirst (name ++ (gap ++ (day ++ tail))) = none := by
    rw [readDayFirst, takeShort_of_stops digitless]
    rfl
  rw [WrittenDate.read, mixed, numberless, dayless, found]
  rfl

/-- A name behind the point after the day is no month in digits. -/
theorem readDayFirst_of_named (named : NamesMonth name m) (apart : IsGap gap)
    (short : takeShort s = some (d, gap ++ (name ++ tail))) : readDayFirst s = none := by
  have monthless : takeShort (name ++ tail) = none :=
    takeShort_of_stops (named.stops fun c => isDigit_of_isCaselessLetter)
  rw [readDayFirst, short]
  simp only [Option.bind_eq_bind, Option.bind_some]
  split
  · next rest opened =>
    -- Without a gap the name itself would have to begin with the point.
    rcases apart with rfl | ⟨c, separator, rfl⟩
    · have lettered : Stops (· == '.') (name ++ tail) := named.stops fun c letter => by
        rw [beq_eq_false_iff_ne]
        rintro rfl
        exact absurd letter (by decide)
      rw [List.nil_append] at opened
      rw [opened, stops_cons] at lettered
      cases lettered
    · rw [List.singleton_append, List.cons.injEq] at opened
      rw [← opened.2, monthless]
      rfl
  · rfl

theorem read_nameSecond (dayWritten : IsNumeral 1 2 day d) (apart : IsGap gap) (named : NamesMonth name m)
    (ended : YearPart tail given) :
    WrittenDate.read (day ++ (gap ++ (name ++ tail))) = some ⟨given, some m, d⟩ := by
  have beforeName : Stops isDigit (gap ++ (name ++ tail)) :=
    apart.stops isDigit_of_isYearMark (named.stops fun c => isDigit_of_isCaselessLetter)
  have taken : takeRun isDigit (day ++ (gap ++ (name ++ tail))) = (day, gap ++ (name ++ tail)) :=
    takeRun_eq_iff.mpr ⟨rfl, dayWritten.digits, beforeName⟩
  have afterDay : takeShort (day ++ (gap ++ (name ++ tail))) = some (d, gap ++ (name ++ tail)) :=
    takeShort_eq_some_iff.mpr ⟨day, rfl, dayWritten, beforeName⟩
  have afterGap : skipSeparator (gap ++ (name ++ tail)) = name ++ tail :=
    skipSeparator_gap apart (named.stops fun c => isDateSeparator_of_isCaselessLetter)
  have afterName : takeName (name ++ tail) = some (name, tail) :=
    takeName_append named (ended.stops isCaselessLetter_of_isYearMark)
  have found : readNameSecond (day ++ (gap ++ (name ++ tail))) = some ⟨given, some m, d⟩ := by
    simp [readNameSecond, afterName, afterGap, afterDay, optionalYear_eq_some_iff.mpr ended,
      monthOf?_of_named named]
  have within : name ⊆ day ++ (gap ++ (name ++ tail)) := by
    intro c member
    simp [member]
  -- The notations that come first want digits, marks or another name where this text has its name.
  have mixed : readDigits (day ++ (gap ++ (name ++ tail))) = none := readDigits_of_named named within
  have yearless : readYearFirst (day ++ (gap ++ (name ++ tail))) = none :=
    readYearFirst_of_run taken (by have := dayWritten.most; omega)
  have numberless : readDayFirst (day ++ (gap ++ (name ++ tail))) = none :=
    readDayFirst_of_named named apart afterDay
  have nameless : readNameFirst (day ++ (gap ++ (name ++ tail))) = none := by
    rw [readNameFirst, takeName_of_stops (dayWritten.stops fun c => isDigit_of_isCaselessLetter)]
    rfl
  rw [WrittenDate.read, mixed, yearless, numberless, nameless, found]
  rfl

/-- A text is read as a date exactly when it is written in one of the notations. -/
theorem read_eq_some_iff {w : WrittenDate} : WrittenDate.read s = some w ↔ DateNotation s w := by
  refine ⟨notation_of_read, fun form => ?_⟩
  cases form with
  | yearFirst year month day first second => exact read_yearFirst year month day first second
  | dayFirst year month day => exact read_dayFirst year month day
  | joined year month day => exact read_joined year month day
  | monthDay month day => exact read_monthDay month day
  | day day => exact read_day day
  | nameFirst name apart day ended => exact read_nameFirst name apart day ended
  | nameSecond day apart name ended => exact read_nameSecond day apart name ended

end Completeness

end UsageGrammar.Calendar
