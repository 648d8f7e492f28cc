import UsageGrammar.Failure
import UsageGrammar.Files.Tree

/-! Attempts to convert a value: what they start from, what they see of the machine, and how they
end. -/

set_option autoImplicit false

namespace UsageGrammar

inductive Given where
  | text (s : String)
  | flag (on : Bool)
  deriving DecidableEq, Repr

def Given.datum : Given → Datum
  | .text s => .text s
  | .flag on => .truth on

/-- Why a conversion gives no value. A refused value is the fault of the command line. -/
inductive Interruption where
  | refused (reason : String)
  | failed (f : Failure)
  deriving Repr

abbrev Attempt (α : Type) : Type := Except Interruption α

def refuse {α : Type} (reason : String) : Attempt α :=
  .error (.refused reason)

def fail {α : Type} (f : Failure) : Attempt α :=
  .error (.failed f)

def orRefuse {α : Type} (value : Option α) (reason : String) : Attempt α :=
  match value with
  | some a => .ok a
  | none => refuse reason

structure Surroundings where
  folder : String
  home : String
  accounts : Table String
  files : FileTree
  input : String
  today : Calendar.Date

/-- Calls that the stack has room for when a type is looked up or a value is converted. Each level of nested
array types takes some of them. -/
def stackRoom : Nat := 989

abbrev Conversion (α : Type) : Type := StateT Surroundings (Except Interruption) α

end UsageGrammar
