import UsageGrammar.Conversion.Registry
import UsageGrammar.Invocation

/-! Conversion of the values of an invocation. -/

set_option autoImplicit false

namespace UsageGrammar

/-- Conversion of what a name is bound to; the tokens of a variadic slot are converted one by one. -/
def Converter.applyTo (c : Converter) (args : List Datum) (options : Table Datum) :
    Bound → Conversion Datum
  | .text s => c.apply args options (.text s)
  | .flag on => c.apply args options (.flag on)
  | .texts items => do
    return .list (← items.mapM fun item => c.apply args options (.text item))

/-- Names that converters use themselves, which no option may have. -/
def reservedOptions : List String := ["value", "error"]

structure Request where
  type : Datum
  key : String
  args : List Datum := []
  options : Table Datum := []
  default : Datum := .absent

/-- Converts the value of a key. When the value is refused, the handler gives the result. -/
def Invocation.convert (i : Invocation) (h : Handler) (r : Registry) (q : Request)
    (here : Surroundings) : Except Failure (Datum × Surroundings) :=
  match i.values.value? q.key with
  -- The default is not converted, and the type is not looked up.
  | none => .ok (q.default, here)
  | some bound => do
    let c ← r.lookup q.type
    if reservedOptions.any q.options.has then .error (.wrongKind none)
    else
      match (c.applyTo q.args q.options bound).run here with
      | .ok done => return done
      | .error (.failed f) => .error f
      | .error (.refused reason) =>
        return (← h.handle ⟨i.command.fullName, .conversion reason q.key, []⟩, here)

end UsageGrammar
