import UsageGrammar.Conversion.Point
import UsageGrammar.Proofs.Calendar.Range
import UsageGrammar.Proofs.Calendar.Standard
import UsageGrammar.Proofs.Outcome

/-! Reading of points in time. Each step in the building of a point gives a value, refuses the text or fails
with an invalid value, and the readers let no such failure pass. What is written in one of the notations is
read as what it says. -/

set_option autoImplicit false

namespace UsageGrammar.Point

open Calendar Text

section Endings

variable {α β : Type} {kind : α → Prop} {kind' : β → Prop} {reason : String} {reference : Date}

/-- How the building of a point may end. -/
inductive Builds (kind : α → Prop) (reason : String) : Attempt α → Prop where
  | value {a : α} : kind a → Builds kind reason (.ok a)
  | refused : Builds kind reason (refuse reason)
  | invalid (message : String) : Builds kind reason (fail (.invalid message))

/-- How the reading of a text may end. -/
inductive Settles (kind : α → Prop) (reason : String) : Attempt α → Prop where
  | value {a : α} : kind a → Settles kind reason (.ok a)
  | refused : Settles kind reason (refuse reason)

theorem Builds.bind {first : Attempt α} {next : α → Attempt β} (begun : Builds kind reason first)
    (goes : ∀ a, kind a → Builds kind' reason (next a)) : Builds kind' reason (first >>= next) := by
  cases begun with
  | value ofKind => exact goes _ ofKind
  | refused => exact .refused
  | invalid message => exact .invalid message

theorem builds_built {value : Option α} (complaint : String) (ofKind : ∀ a, value = some a → kind a) :
    Builds kind reason (built value complaint) := by
  cases value with
  | none => exact .invalid complaint
  | some a => exact .value (ofKind a rfl)

theorem builds_orRefuse (value : Option α) : Builds (fun _ => True) reason (orRefuse value reason) := by
  cases value with
  | none => exact .refused
  | some _ => exact .value trivial

theorem builds_readDay (reference : Date) (s : List Char) :
    Builds (·.isReal = true) reason (readDay reference reason s) :=
  (builds_orRefuse (WrittenDate.read s)).bind fun _ _ =>
    builds_built _ fun _ => WrittenDate.isReal_of_complete

theorem builds_readOffset (zone : List Char) :
    Builds (fun offset => offset.all Offset.isValid = true) reason (readOffset zone) := by
  rw [readOffset]
  split
  · exact .value rfl
  · have written : Builds (fun _ => True) reason
        (built (readZone zone) ("invalid time zone - " ++ quoted (String.ofList zone))) :=
      builds_built _ fun _ _ => trivial
    refine written.bind fun offset _ => ?_
    split
    · next valid => exact .value valid
    · exact .invalid _

theorem builds_readHead (real : reference.isReal = true) (head : List Char) :
    Builds (·.isReal = true) momentReason (readHead reference head) := by
  rw [readHead]
  split
  · exact .value real
  · exact builds_readDay reference head

theorem builds_readParts (real : reference.isReal = true) (s : List Char) :
    Builds (·.isReal = true) momentReason (readParts reference s) :=
  (builds_readHead real _).bind fun _ inDate => (builds_readOffset _).bind fun _ _ =>
    builds_built _ fun _ => Moment.isReal_of_of? inDate

theorem Builds.rescue {attempt other : Attempt α} (builds : Builds kind reason attempt)
    (settles : Settles kind reason other) : Settles kind reason (rescue attempt other) := by
  cases builds with
  | value ofKind => exact .value ofKind
  | refused => exact .refused
  | invalid => exact settles

theorem settles_readDate (reference : Date) (text : String) :
    Settles (·.isReal = true) dateReason (readDate reference text) :=
  (builds_readDay reference _).rescue .refused

theorem settles_readMoment (real : reference.isReal = true) (text : String) :
    Settles (·.isReal = true) momentReason (readMoment reference text) :=
  (builds_built _ fun _ => IsoText.isReal_of_read).rescue ((builds_readParts real _).rescue .refused)

end Endings

section Dates

variable {reference d : Date} {s : List Char} {w : WrittenDate} {reason : String} {text : String}

theorem readDay_written (form : DateNotation s w) :
    readDay reference reason s = built (w.complete reference) "day is out of range" := by
  rw [readDay, read_eq_some_iff.mpr form]
  rfl

theorem readDate_written (form : DateNotation (strip text.toList) w) :
    readDate reference text = orRefuse (w.complete reference) dateReason := by
  rw [readDate, readDay_written form]
  cases w.complete reference <;> rfl

theorem notation_of_readDate (read : readDate reference text = .ok d) :
    ∃ w, DateNotation (strip text.toList) w ∧ w.complete reference = some d := by
  cases found : WrittenDate.read (strip text.toList) with
  | none =>
    rw [readDate, readDay, found] at read
    cases read
  | some w =>
    have form := read_eq_some_iff.mp found
    rw [readDate_written form] at read
    cases completed : w.complete reference with
    | none =>
      rw [completed] at read
      cases read
    | some day =>
      rw [completed] at read
      cases read
      exact ⟨w, form, completed⟩

end Dates

section Moments

variable {reference d : Date} {s front tail : List Char} {w : WrittenDate} {clock : Clock}
  {zone : Option Offset} {m : Moment} {text : String}

theorem readHead_written (form : DateNotation s w) (completed : w.complete reference = some d) :
    readHead reference s = .ok d := by
  have filled : s.isEmpty = false := by simp [form.isClosed.ne_nil]
  rw [readHead, filled, readDay_written form, completed]
  rfl

theorem readHead_front (dated : DateFront reference front d) : readHead reference (strip front) = .ok d := by
  cases dated with
  | absent => rfl
  | @written s gap w _ form completed _ blank =>
    rw [strip_append_right blank, form.strip_eq, readHead_written form completed]

theorem readOffset_tail (zoned : ZoneTail tail zone) (bounded : zone.all Offset.isValid = true) :
    readOffset (strip tail) = .ok zone := by
  cases zoned with
  | absent => rfl
  | @written zone offset zoneWritten closed =>
    have blank : ∀ c ∈ [' '], isBlank c = true := List.forall_mem_singleton.mpr (by decide)
    have stripped : strip (' ' :: zone) = zone :=
      (strip_append_left blank).trans (strip_of_isClosed zoneWritten.stops closed)
    have filled : zone.isEmpty = false := by simp [closed.ne_nil]
    replace bounded : offset.isValid = true := bounded
    simp only [readOffset, stripped, filled, readZone_written zoneWritten, built, ok_bind]
    rw [if_neg Bool.false_ne_true, if_pos bounded]
    rfl

theorem readParts_date (form : DateNotation s w) (completed : w.complete reference = some d) :
    readParts reference s = .ok ⟨d, .midnight, none⟩ := by
  simp only [readParts, findClock_of_colonless form.colonless, readHead_written form completed]
  rfl

theorem readParts_clock (dated : DateFront reference front d) (written : ClockText s clock)
    (zoned : ZoneTail tail zone) (real : clock.isValid = true) (bounded : zone.all Offset.isValid = true) :
    readParts reference (front ++ (s ++ tail)) = .ok ⟨d, clock, zone⟩ := by
  simp only [readParts, findClock_written dated written zoned, readHead_front dated, ok_bind,
    readOffset_tail zoned bounded, Moment.of?_of_valid real bounded]
  rfl

/-- Which of the notations reads a text first does not matter when both agree on it. -/
theorem readMoment_eq (spelled : strip text.toList = s)
    (standard : ∀ found, IsoText.read (String.ofList s) = some found → found = m)
    (written : readParts reference s = .ok m) : readMoment reference text = .ok m := by
  rw [readMoment, spelled, written]
  cases read : IsoText.read (String.ofList s) with
  | none => rfl
  | some found =>
    rw [standard found read]
    rfl

theorem readMoment_date (spelled : strip text.toList = s) (form : DateNotation s w)
    (completed : w.complete reference = some d) : readMoment reference text = .ok ⟨d, .midnight, none⟩ :=
  readMoment_eq spelled (fun _ => IsoText.eq_of_read_date form completed) (readParts_date form completed)

theorem readMoment_clock (spelled : strip text.toList = front ++ (s ++ tail))
    (dated : DateFront reference front d) (written : ClockText s clock) (zoned : ZoneTail tail zone)
    (real : clock.isValid = true) (bounded : zone.all Offset.isValid = true) :
    readMoment reference text = .ok ⟨d, clock, zone⟩ :=
  readMoment_eq spelled (fun _ => IsoText.eq_of_read_clock dated written zoned)
    (readParts_clock dated written zoned real bounded)

end Moments

end UsageGrammar.Point
