/-! What can be wrong with a command line. -/

set_option autoImplicit false

namespace UsageGrammar

inductive Complaint where
  | unknownCommand (name : String)
  | unknownOption (name : String)
  | optionArgumentMissing (name option : String)
  | argumentMissing (name : Option String)
  | tooManyArguments
  | conversion (reason name : String)
  | application (message : String)
  | general (message : String)
  deriving DecidableEq, Repr

namespace Complaint

def message : Complaint → String
  | .unknownCommand name => "invalid command - " ++ name
  | .unknownOption name => "unknown option - '" ++ name ++ "'"
  | .optionArgumentMissing name option => "argument <" ++ name ++ "> missing - '" ++ option ++ "'"
  | .argumentMissing none => "argument missing"
  | .argumentMissing (some name) => "argument missing - <" ++ name ++ ">"
  | .tooManyArguments => "too many arguments"
  | .conversion reason name => reason ++ " - <" ++ name ++ ">"
  | .application message => message
  | .general message => message

def code : Complaint → Nat
  | .unknownCommand _ => 11101
  | .unknownOption _ => 11112
  | .optionArgumentMissing .. => 11117
  | .argumentMissing _ => 11125
  | .tooManyArguments => 11126
  | .conversion .. => 11131
  | .application _ => 11132
  | .general _ => 11132

def title : Complaint → String
  | .unknownCommand _ => "unknown command"
  | .unknownOption _ => "unknown option"
  | .optionArgumentMissing .. => "missing option value"
  | .argumentMissing _ => "missing argument"
  | .tooManyArguments => "too many arguments"
  | .conversion .. => "invalid argument"
  | .application _ => "error"
  | .general _ => "error"

end Complaint

end UsageGrammar
