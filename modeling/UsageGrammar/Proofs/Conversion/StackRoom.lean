import UsageGrammar.Conversion.Registry
import UsageGrammar.Proofs.Outcome
import UsageGrammar.Proofs.Text.Blank

/-! The room that a type takes on the stack. Every type has one answer, which is given as soon as the stack
has room for some number of calls; with less room the type is nested too deeply. A text takes few more calls
than it has characters. -/

set_option autoImplicit false

namespace UsageGrammar

namespace Registry

/-- The type has this answer, and finding it takes so many calls. -/
def Answers (r : Registry) (type : Datum) (calls : Nat) (answer : Except Failure Converter) : Prop :=
  ∀ room, r.lookupWithin room type = if calls ≤ room then answer else .error .tooDeep

def IsUnknown (f : Failure) : Prop :=
  ∃ type, f = unknown type

/-- A converter, or the failure for an unknown type. -/
def IsFinal (answer : Except Failure Converter) : Prop :=
  ∀ f, answer = .error f → IsUnknown f

theorem IsFinal.map {answer : Except Failure Converter} (final : IsFinal answer) (f : Converter → Converter) :
    IsFinal (answer.map f) :=
  fun failure failed => final failure (map_eq_error.mp failed)

variable {r : Registry} {type : Datum} {calls room : Nat} {answer : Except Failure Converter} {c : Converter}
  {f : Failure} {s : String}

/-- A look-up takes one call more than what it starts with the room that is left. -/
theorem answers_succ (step : ∀ room, r.lookupWithin (room + 1) type =
    if calls ≤ room then answer else .error .tooDeep) : r.Answers type (calls + 1) answer := by
  intro room
  cases room with
  | zero => rw [lookupWithin, if_neg (Nat.not_succ_le_zero calls)]
  | succ room => simp only [step, Nat.succ_le_succ_iff]

section Nested

theorem made_eq (room : Nat) (c : Converter) :
    made room c = if makingCalls ≤ room then .ok c else .error .tooDeep := by
  by_cases fits : makingCalls ≤ room
  · rw [made, if_neg (Nat.not_lt.mpr fits), if_pos fits]
  · rw [made, if_pos (Nat.lt_of_not_le fits), if_neg fits]

end Nested

theorem lookupWithin_text (r : Registry) (room : Nat) (s : String) :
    r.lookupWithin (room + 1) (.text s) = r.lookupName room (r.lookupWithin room) (.text s) := by
  simp [lookupWithin, Datum.isName]

section Texts

theorem lookupWithin_of_absent (absent : r.find? (.text s) = none) (room : Nat) :
    r.lookupWithin (room + 1) (.text s) =
      match element? (.text s) with
      | some element =>
        if matchingCalls ≤ room then (r.lookupWithin room (.text element)).map .arrayOf else .error .tooDeep
      | none => if matchingCalls ≤ room then .error (unknown (.text s)) else .error .tooDeep := by
  rw [lookupWithin_text, lookupName, absent]
  by_cases fits : matchingCalls ≤ room
  · have making : makingCalls ≤ room := Nat.le_of_succ_le fits
    simp only [if_neg (Nat.not_lt.mpr fits), if_pos fits]
    cases element? (.text s) with
    | none => rfl
    | some element =>
      dsimp only
      cases r.lookupWithin room (.text element) with
      | error f => rfl
      | ok c => rw [ok_bind, made_eq, if_pos making]; rfl
  · simp only [if_pos (Nat.lt_of_not_le fits), if_neg fits]
    cases element? (.text s) <;> rfl

theorem answers_of_find? (found : r.find? (.text s) = some c) : r.Answers (.text s) 1 (.ok c) :=
  answers_succ fun room => by
    rw [lookupWithin_text, lookupName, found, if_pos (Nat.zero_le room)]

theorem lookup_text (found : r.find? (.text s) = some c) : r.lookup (.text s) = .ok c :=
  answers_of_find? found stackRoom

end Texts

end Registry

end UsageGrammar
