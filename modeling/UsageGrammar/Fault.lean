import UsageGrammar.Complaint
import UsageGrammar.Datum

/-! Faults: a complaint about a command line, the command that it was made to, and options that say
how the fault is shown. -/

set_option autoImplicit false

namespace UsageGrammar

structure Fault where
  command : String
  complaint : Complaint
  options : Table Datum := []
  deriving Repr

namespace Fault

def message (f : Fault) : String :=
  f.command ++ ": " ++ f.complaint.message

def withOptions (f : Fault) (options : Table Datum) : Fault :=
  { f with options := f.options.putAll options }

def option (f : Fault) (name : String) (default : Datum) : Datum :=
  (f.options.value? name).getD default

end Fault

end UsageGrammar
