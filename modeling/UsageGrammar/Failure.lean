import UsageGrammar.DefinitionError
import UsageGrammar.Fault

/-! The ways in which an operation ends without a result. -/

set_option autoImplicit false

namespace UsageGrammar

inductive Failure where
  | definition (e : DefinitionError)
  | fault (f : Fault)
  /-- A handler showed the fault and ended the program. -/
  | stopped (shown : Fault) (status : Datum)
  | invalid (message : String)
  | missing (name : String)
  | overflow (message : String)
  /-- A value is of a kind that the operation does not take; some operations say so themselves. -/
  | wrongKind (message : Option String)
  | unsupported
  | undecodable
  | tooDeep
  deriving Repr

/-- The message of a failed look-up is the name, quoted. -/
def Failure.missingMessage (name : String) : String :=
  Text.quoted name

end UsageGrammar
