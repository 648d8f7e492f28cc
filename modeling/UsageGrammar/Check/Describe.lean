import UsageGrammar.Command

/-! Descriptions of commands: as plain data, as a usage line, and as a listing. -/

set_option autoImplicit false

namespace UsageGrammar

inductive Argument where
  | slot (required variadic : Bool)
  | flag (kind : FlagKind) (names : List String)
  deriving DecidableEq, Repr

def Argument.type : Argument → String
  | .slot _ false => "argument"
  | .slot _ true => "argument_array"
  | .flag .switch _ => "switch"
  | .flag .option _ => "option"

structure Description where
  fullName : String
  name : String
  line : Option Int
  help : String
  /-- The arguments under the names of their values: the slots, then options and switches. -/
  arguments : Table Argument
  deriving DecidableEq, Repr

namespace Command

def arguments (c : Command) : Table Argument :=
  let slots := c.slots.map fun s => (s.name, Argument.slot s.required s.variadic)
  let flags := c.options.map fun (target, names) => (target.key, Argument.flag target.kind names)
  Table.putAll [] (slots ++ flags)

def describe (c : Command) : Description :=
  ⟨c.fullName, c.name, c.line, c.help, c.arguments⟩

end Command

def spellings (names : List String) : String :=
  ", ".intercalate (names.map Flag.spell)

def Argument.usage (name : String) : Argument → String
  | .slot required variadic => Slot.usage ⟨name, required, variadic⟩
  | .flag .option names => "[" ++ spellings names ++ " <" ++ name ++ ">]"
  | .flag .switch names => "[" ++ spellings names ++ "]"

def Command.usageLine (c : Command) : String :=
  joinWords (("usage: " ++ c.fullName) :: c.arguments.map fun (name, a) => a.usage name)

def Argument.summary : Argument → String
  | .slot required variadic =>
    (if variadic then "arguments array" else "argument") ++ if required then ": required" else ""
  | .flag .option names => "option " ++ spellings names
  | .flag .switch names => "switch " ++ spellings names

def padRight (width : Nat) (s : String) : String :=
  s ++ "".pushn ' ' (width - s.length)

def Command.listing (c : Command) : String :=
  let title := (if c.name = c.fullName then "Command: " else "Subcommand: ") ++ c.name
  let width := (c.arguments.names.map String.length).foldl max 0
  "\n".intercalate <|
    title :: c.arguments.map fun (name, a) => "   " ++ padRight width name ++ "   " ++ a.summary

end UsageGrammar
