import UsageGrammar.Proofs.Conversion.Date
import UsageGrammar.Proofs.Conversion.StackRoom

/-! Conversion of written points in time. A date is the same to both converters; behind a date, or in place
of one, a clock time and a zone each add what they say. -/

set_option autoImplicit false

namespace UsageGrammar

open Calendar Text

variable {here : Surroundings} {args : List Datum} {options : Table Datum} {reference d : Date}
  {s : String} {clock : Clock} {zone : Option Offset}

section Texts

variable {before front body tail after : List Char}

/-- The converter of dates takes the texts in one of the notations that name a day of the calendar. -/
theorem exists_notation (known : referenceDate here.today options = .ok reference)
    (accepted : Stock.date.Gives args options here s (.date d)) :
    ∃ w, DateNotation (strip s.toList) w ∧ w.complete reference = some d := by
  rw [Stock.Gives, run_date args known] at accepted
  obtain ⟨day, read, same⟩ := map_eq_ok.mp accepted
  cases same
  exact Point.notation_of_readDate read

/-- A text that such a converter takes is a front for a clock time once a space follows. -/
theorem exists_front (known : referenceDate here.today options = .ok reference)
    (accepted : Stock.date.Gives args options here s (.date d)) :
    ∃ before front, (∀ rest, s.toList ++ ' ' :: rest = before ++ (front ++ rest)) ∧
      (∀ c ∈ before, isBlank c = true) ∧ DateFront reference front d := by
  obtain ⟨w, form, completed⟩ := exists_notation known accepted
  obtain ⟨before, after, parts, left, right⟩ := exists_padding s.toList
  have blank : ∀ c ∈ after ++ [' '], isBlank c = true :=
    List.forall_mem_append.mpr ⟨right, List.forall_mem_singleton.mpr (by decide)⟩
  refine ⟨before, strip s.toList ++ (after ++ [' ']), fun rest => ?_, left,
    .written form completed (by simp) blank⟩
  calc s.toList ++ ' ' :: rest = before ++ strip s.toList ++ after ++ ' ' :: rest := by rw [← parts]
    _ = before ++ (strip s.toList ++ (after ++ [' ']) ++ rest) := by simp

theorem strip_moment (dated : DateFront reference front d) (written : ClockText body clock)
    (zoned : ZoneTail tail zone) : strip (front ++ (body ++ tail)) = front ++ (body ++ tail) := by
  have opens : Stops isBlank (front ++ (body ++ tail)) := by
    cases dated with
    | absent => exact written.stops
    | written form _ _ _ =>
      rw [List.append_assoc]
      exact form.stops.append form.isClosed.ne_nil
  have closes : IsClosed (body ++ tail) := by
    cases zoned with
    | absent => rw [List.append_nil]; exact written.isClosed
    | written _ closed => exact .append body (.append [' '] closed)
  exact strip_of_isClosed opens (closes.append front)

theorem gives_moment (known : referenceDate here.today options = .ok reference)
    (left : ∀ c ∈ before, isBlank c = true) (right : ∀ c ∈ after, isBlank c = true)
    (dated : DateFront reference front d) (written : ClockText body clock) (zoned : ZoneTail tail zone)
    (real : clock.isValid = true) (bounded : zone.all Offset.isValid = true)
    (spelled : s.toList = before ++ (front ++ (body ++ tail)) ++ after) :
    Stock.time.Gives args options here s (.moment ⟨d, clock, zone⟩) := by
  have stripped : strip s.toList = front ++ (body ++ tail) := by
    rw [spelled, strip_append left right, strip_moment dated written zoned]
  rw [Stock.Gives, run_time args known, Point.readMoment_clock stripped dated written zoned real bounded]
  rfl

end Texts

/-- A text that is a date is the midnight of that date. A clock time behind such a text, or alone on the
reference, sets the clock, and a zone behind the clock time sets the offset and nothing else. -/
theorem time_written (args : List Datum) (known : referenceDate here.today options = .ok reference) :
    (∀ (date : String) (d : Date), Stock.date.Gives args options here date (.date d) →
        Stock.time.Gives args options here date (.moment ⟨d, .midnight, none⟩)) ∧
      ∀ (time : String) (clock : Clock), ClockText time.toList clock → clock.isValid = true →
        Stock.time.Gives args options here time (.moment ⟨reference, clock, none⟩) ∧
        (∀ (date : String) (d : Date), Stock.date.Gives args options here date (.date d) →
          Stock.time.Gives args options here (date ++ " " ++ time) (.moment ⟨d, clock, none⟩)) ∧
        ∀ (zone : String) (offset : Offset), ZoneText zone.toList offset → offset.isValid = true →
          Stock.time.Gives args options here (time ++ " " ++ zone)
            (.moment ⟨reference, clock, some offset⟩) ∧
          ∀ (date : String) (d : Date), Stock.date.Gives args options here date (.date d) →
            Stock.time.Gives args options here (date ++ " " ++ time ++ " " ++ zone)
              (.moment ⟨d, clock, some offset⟩) := by
  have space : " ".toList = [' '] := rfl
  have nothing : ∀ c ∈ ([] : List Char), isBlank c = true := nofun
  refine ⟨fun date d accepted => ?_, fun time clock written real => ⟨?_, fun date d accepted => ?_,
    fun zone offset zoneWritten bounded => ⟨?_, fun date d accepted => ?_⟩⟩⟩
  · obtain ⟨w, form, completed⟩ := exists_notation known accepted
    rw [Stock.Gives, run_time args known, Point.readMoment_date rfl form completed]
    rfl
  · exact gives_moment known nothing nothing .absent written .absent real rfl (by simp)
  · obtain ⟨before, front, opened, left, dated⟩ := exists_front known accepted
    refine gives_moment known left nothing dated written .absent real rfl ?_
    simp [space, opened]
  · obtain ⟨tail, after, closed, right, zoned⟩ := zoneWritten.exists_tail
    refine gives_moment known nothing right .absent written zoned real bounded ?_
    simp [space, closed]
  · obtain ⟨before, front, opened, left, dated⟩ := exists_front known accepted
    obtain ⟨tail, after, closed, right, zoned⟩ := zoneWritten.exists_tail
    refine gives_moment known left right dated written zoned real bounded ?_
    simp [space, opened, closed]

theorem time_written_january :
    Stock.time.Gives [] [] (.bare ⟨2020, 2, 29⟩) " jan-2 "
        (.moment ⟨⟨2020, 1, 2⟩, .midnight, none⟩) ∧
      Stock.time.Gives [] [] (.bare ⟨2020, 2, 29⟩) "3:04" (.moment ⟨⟨2020, 2, 29⟩, ⟨3, 4, 0, 0⟩, none⟩) ∧
      Stock.time.Gives [] [] (.bare ⟨2020, 2, 29⟩) (" jan-2 " ++ " " ++ "3:04")
        (.moment ⟨⟨2020, 1, 2⟩, ⟨3, 4, 0, 0⟩, none⟩) ∧
      Stock.time.Gives [] [] (.bare ⟨2020, 2, 29⟩) ("3:04" ++ " " ++ "utc -2:30")
        (.moment ⟨⟨2020, 2, 29⟩, ⟨3, 4, 0, 0⟩, some (-9000000000)⟩) ∧
      Stock.time.Gives [] [] (.bare ⟨2020, 2, 29⟩) (" jan-2 " ++ " " ++ "3:04" ++ " " ++ "utc -2:30")
        (.moment ⟨⟨2020, 1, 2⟩, ⟨3, 4, 0, 0⟩, some (-9000000000)⟩) := by
  have known : referenceDate (Surroundings.bare ⟨2020, 2, 29⟩).today [] = .ok ⟨2020, 2, 29⟩ := rfl
  have accepted : Stock.date.Gives [] [] (.bare ⟨2020, 2, 29⟩) " jan-2 " (.date ⟨2020, 1, 2⟩) := by
    rw [Stock.Gives, run_date [] known]
    rfl
  have hour : IsNumeral 1 2 "3".toList 3 := by decide
  have minute : IsNumeral 2 2 "04".toList 4 := by decide
  have two : IsNumeral 1 2 "2".toList 2 := by decide
  have half : IsNumeral 2 2 "30".toList 30 := by decide
  have utc : NamesZone "utc".toList := by
    rw [NamesZone]
    decide
  have clock : ClockText "3:04".toList ⟨3, 4, 0, 0⟩ := .minutes hour minute
  have blank : ∀ c ∈ [' '], isBlank c = true := List.forall_mem_singleton.mpr (by decide)
  have zone : ZoneText "utc -2:30".toList (-9000000000) := .namedSigned utc blank (.inr rfl) (.parted two half)
  have composed := time_written [] known
  have onClock := composed.2 "3:04" ⟨3, 4, 0, 0⟩ clock (by decide)
  have onZone := onClock.2.2 "utc -2:30" (-9000000000) zone (by decide)
  exact ⟨composed.1 _ _ accepted, onClock.1, onClock.2.1 _ _ accepted, onZone.1, onZone.2 _ _ accepted⟩

/-- The converters of points in time and the reason for which each of them refuses a text. -/
inductive ReadsPoint : Stock → String → Prop where
  | date : ReadsPoint .date "argument must be a date"
  | time : ReadsPoint .time "argument must be a time"

/-- What these converters give: a day of the calendar, or a moment of such a day. -/
inductive IsPoint : Stock → Datum → Prop where
  | date {d : Date} : d.isReal = true → IsPoint .date (.date d)
  | time {m : Moment} : m.isReal = true → IsPoint .time (.moment m)

theorem Stock.settles_of_reader {α : Type} {c : Stock} {reason : String} {kind : Datum → Prop}
    {real : α → Prop} {make : α → Datum} {read : String → Attempt α}
    (run : ∀ s, (c.ofText s args options).run here = (read s).map fun a => (make a, here))
    (reads : ∀ s, Point.Settles real reason (read s)) (ofKind : ∀ a, real a → kind (make a)) :
    c.Settles args options here kind reason := by
  intro s
  rw [Stock.Refuses, run]
  have settled := reads s
  generalize ended : read s = attempt at settled
  cases settled with
  | refused => exact .inr rfl
  | @value a real =>
    have given : c.Gives args options here s (make a) := by
      rw [Stock.Gives, run, ended]
      rfl
    exact .inl ⟨make a, ofKind a real, given⟩

theorem ReadsPoint.settles {c : Stock} {reason : String} (reads : ReadsPoint c reason)
    (known : referenceDate here.today options = .ok reference) (real : reference.isReal = true) :
    c.Settles args options here (IsPoint c) reason := by
  cases reads with
  | date =>
    exact Stock.settles_of_reader (fun _ => run_date args known) (Point.settles_readDate reference)
      fun _ => .date
  | time =>
    exact Stock.settles_of_reader (fun _ => run_time args known) (Point.settles_readMoment real)
      fun _ => .time

/-- Whatever a text is, it gives a point in time of the calendar or is refused for the one reason. So is the
value of a key: it is converted, or the handler answers for the key and for that reason. -/
theorem point_or_complaint {c : Stock} {reason : String} {q : Request} (reads : ReadsPoint c reason)
    (known : referenceDate here.today q.options = .ok reference) (real : reference.isReal = true) :
    c.Settles q.args q.options here (IsPoint c) reason ∧
      ∀ (i : Invocation) (h : Handler) (r : Registry), r.lookup q.type = .ok (.stock c) →
        reservedOptions.any q.options.has = false →
        (∀ s, i.values.value? q.key = some (.text s) →
          (∃ value, IsPoint c value ∧ c.Gives q.args q.options here s value ∧
              i.convert h r q here = .ok (value, here)) ∨
            c.Refuses q.args q.options here s reason ∧
              i.convert h r q here =
                (h.handle ⟨i.command.fullName, .conversion reason q.key, []⟩).map (·, here)) ∧
        ∀ items, i.values.value? q.key = some (.texts items) →
          (∃ values,
              List.Forall₂ (fun s value => IsPoint c value ∧ c.Gives q.args q.options here s value) items values ∧
              i.convert h r q here = .ok (.list values, here)) ∨
            (∃ s ∈ items, c.Refuses q.args q.options here s reason) ∧
              i.convert h r q here =
                (h.handle ⟨i.command.fullName, .conversion reason q.key, []⟩).map (·, here) :=
  have settles := reads.settles known real
  ⟨settles, fun _ _ _ found free => convert_of_settles settles found free⟩

theorem point_or_complaint_hour :
    (Invocation.only ["remind"] "at" (.texts ["9:00", "٢:٣٠ gmt+24:00"])).convert .raise .stock
        ⟨.text "time", "at", [], [], .absent⟩ (.bare ⟨2020, 2, 29⟩) =
      .error (.fault ⟨"remind", .conversion "argument must be a time" "at", []⟩) := by
  have known : referenceDate (Surroundings.bare ⟨2020, 2, 29⟩).today [] = .ok ⟨2020, 2, 29⟩ := rfl
  have found : Registry.stock.lookup (.text "time") = .ok (.stock .time) :=
    Registry.lookup_text rfl
  have refused : Stock.time.Refuses [] [] (.bare ⟨2020, 2, 29⟩) "٢:٣٠ gmt+24:00" "argument must be a time" := by
    rw [Stock.Refuses, run_time [] known]
    rfl
  rcases ((point_or_complaint (q := ⟨.text "time", "at", [], [], .absent⟩) .time known (by decide)).2
    (.only ["remind"] "at" (.texts ["9:00", "٢:٣٠ gmt+24:00"])) .raise .stock found rfl).2 _ rfl
    with ⟨_, _ | ⟨-, _ | ⟨⟨-, given⟩, -⟩⟩, -⟩ | ⟨-, complained⟩
  · cases given.symm.trans refused
  · exact complained

end UsageGrammar
