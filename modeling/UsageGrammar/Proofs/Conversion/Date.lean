import UsageGrammar.Proofs.Conversion.Point
import UsageGrammar.Proofs.Conversion.Refusals

/-! Conversion of written dates. A date in full is the same in all notations; a date in part is completed
from the reference, and refused when that gives no day of the calendar. -/

set_option autoImplicit false

namespace UsageGrammar

open Calendar Text

variable {here : Surroundings} {options : Table Datum} {reference : Date} {s : String}

theorem run_date (args : List Datum) (known : referenceDate here.today options = .ok reference) :
    (Stock.date.ofText s args options).run here =
      (Point.readDate reference s).map fun d => (.date d, here) := by
  replace known : referenceDate here.today options = pure reference := known
  simp only [Stock.ofText, StateT.run_bind, StateT.run_get, StateT.run_monadLift, monadLift_self,
    bind_pure_comp, StateT.run_map, Functor.map_map, bind_map_left, pure_bind, known]
  rfl

theorem run_time (args : List Datum) (known : referenceDate here.today options = .ok reference) :
    (Stock.time.ofText s args options).run here =
      (Point.readMoment reference s).map fun m => (.moment m, here) := by
  replace known : referenceDate here.today options = pure reference := known
  simp only [Stock.ofText, StateT.run_bind, StateT.run_get, StateT.run_monadLift, monadLift_self,
    bind_pure_comp, StateT.run_map, Functor.map_map, bind_map_left, pure_bind, known]
  rfl

/-- A date in full is read back from all its notations, whatever the reference. A date in part has what
it leaves out from the reference, and is refused when that is no day of the calendar. -/
theorem date_written {before body after : List Char} (args : List Datum)
    (known : referenceDate here.today options = .ok reference)
    (left : ∀ c ∈ before, isBlank c = true) (right : ∀ c ∈ after, isBlank c = true)
    (spelled : s.toList = before ++ body ++ after) :
    (∀ x : Date, isDate x.year x.month x.day = true →
        DateNotation body ⟨some x.year, some x.month, x.day⟩ →
          (Stock.date.ofText s args options).run here = .ok (.date x, here)) ∧
      ∀ w : WrittenDate, DateNotation body w →
        (isDate (w.year.getD reference.year) (w.month.getD reference.month) w.day = true →
            (Stock.date.ofText s args options).run here =
              .ok (.date ⟨w.year.getD reference.year, w.month.getD reference.month, w.day⟩, here)) ∧
          (isDate (w.year.getD reference.year) (w.month.getD reference.month) w.day = false →
            (Stock.date.ofText s args options).run here = .error (.refused "argument must be a date")) := by
  have completed (w : WrittenDate) (form : DateNotation body w) :
      (Stock.date.ofText s args options).run here =
        (orRefuse (w.complete reference) Point.dateReason).map fun d => (.date d, here) := by
    have stripped : strip s.toList = body := by
      rw [spelled, strip_append left right, form.strip_eq]
    rw [run_date args known, Point.readDate_written (stripped ▸ form)]
  constructor
  · intro x real form
    rw [completed _ form, WrittenDate.complete, Option.getD_some, Option.getD_some, Date.of?, if_pos real]
    rfl
  · intro w form
    constructor
    · intro real
      rw [completed w form, WrittenDate.complete, Date.of?, if_pos real]
      rfl
    · intro unreal
      rw [completed w form, WrittenDate.complete, Date.of?, if_neg (by simp [unreal])]
      rfl

theorem date_written_february :
    (Stock.date.ofText " 29 febRUARY, 2024\t" [] []).run (.bare ⟨2001, 9, 30⟩) =
        .ok (.date ⟨2024, 2, 29⟩, .bare ⟨2001, 9, 30⟩) ∧
      (Stock.date.ofText "feb.29" [] [("reference", .date ⟨2024, 5, 6⟩)]).run (.bare ⟨2001, 9, 30⟩) =
        .ok (.date ⟨2024, 2, 29⟩, .bare ⟨2001, 9, 30⟩) ∧
      (Stock.date.ofText "0229" [] [("reference", .moment ⟨⟨2023, 5, 6⟩, .midnight, none⟩)]).run
          (.bare ⟨2001, 9, 30⟩) = .error (.refused "argument must be a date") := by
  have year : IsNumeral 4 4 "2024".toList 2024 := by decide
  have month : IsNumeral 2 2 "02".toList 2 := by decide
  have day : IsNumeral 1 2 "29".toList 29 := by decide
  have dayPair : IsNumeral 2 2 "29".toList 29 := by decide
  have long : NamesMonth "febRUARY".toList 2 :=
    .of_ascii (List.all_eq_true.mp (by decide)) (by decide) (by decide) (by decide) (by decide)
  have short : NamesMonth "feb".toList 2 :=
    .of_ascii (List.all_eq_true.mp (by decide)) (by decide) (by decide) (by decide) (by decide)
  have tail : YearPart (", ".toList ++ "2024".toList) (some 2024) :=
    .written (by decide) (List.all_eq_true.mp (by decide)) year
  have full := DateNotation.nameSecond day (.inr ⟨' ', by decide, rfl⟩) long tail
  have partly := DateNotation.nameFirst short (.inr ⟨'.', by decide, rfl⟩) day .absent
  have paired := DateNotation.monthDay month dayPair
  have blank : ∀ c ∈ [' '], isBlank c = true := List.forall_mem_singleton.mpr (by decide)
  have tab : ∀ c ∈ ['\t'], isBlank c = true := List.forall_mem_singleton.mpr (by decide)
  have nothing : ∀ c ∈ ([] : List Char), isBlank c = true := nofun
  have leap : referenceDate (Surroundings.bare ⟨2001, 9, 30⟩).today [("reference", .date ⟨2024, 5, 6⟩)] =
      .ok ⟨2024, 5, 6⟩ := rfl
  have common : referenceDate (Surroundings.bare ⟨2001, 9, 30⟩).today
      [("reference", .moment ⟨⟨2023, 5, 6⟩, .midnight, none⟩)] = .ok ⟨2023, 5, 6⟩ := rfl
  have padded : " 29 febRUARY, 2024\t".toList =
      [' '] ++ ("29".toList ++ ([' '] ++ ("febRUARY".toList ++ (", ".toList ++ "2024".toList)))) ++ ['\t'] := rfl
  have named : "feb.29".toList = [] ++ ("feb".toList ++ (['.'] ++ ("29".toList ++ []))) ++ [] := rfl
  have digits : "0229".toList = [] ++ ("02".toList ++ "29".toList) ++ [] := rfl
  exact ⟨(date_written [] rfl blank tab padded).1 ⟨2024, 2, 29⟩ (by decide) full,
    ((date_written [] leap nothing nothing named).2 _ partly).1 (by decide),
    ((date_written [] common nothing nothing digits).2 _ paired).2 (by decide)⟩

end UsageGrammar
