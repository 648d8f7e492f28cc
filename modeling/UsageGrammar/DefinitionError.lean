/-! What can be wrong with the grammar in a help text. -/

set_option autoImplicit false

namespace UsageGrammar

inductive DefinitionError.Cause where
  | duplicateCommand (name : String)
  | duplicateOption (name : String)
  | duplicateArgument (name : String)
  | usageLineMissing
  | noCommand
  | noDefaultCommand
  | invalidSubcommandName (main name : String)
  | other (message : String)
  deriving DecidableEq, Repr

/-- A fault of a help text and the line that it was found on, counted from 1, when it has one. -/
structure DefinitionError where
  cause : DefinitionError.Cause
  line : Option Int := none
  deriving DecidableEq, Repr

namespace DefinitionError

def place (e : DefinitionError) : String :=
  match e.line with
  | some line => " - line " ++ toString line
  | none => ""

def message (e : DefinitionError) : String :=
  match e.cause with
  | .duplicateCommand name => "command already defined - " ++ name ++ e.place
  | .duplicateOption name => "option already defined - " ++ name
  | .duplicateArgument name => "argument already defined - " ++ name
  | .usageLineMissing => "options can only be defined after a 'usage' line" ++ e.place
  | .noCommand => "help text does not define a valid command"
  | .noDefaultCommand => "no default command defined"
  | .invalidSubcommandName main name => "invalid sub-command name for " ++ main ++ " - " ++ name
  | .other message => message

end DefinitionError

end UsageGrammar
