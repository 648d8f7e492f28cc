import UsageGrammar.Complaint
import UsageGrammar.HelpText

/-! The grammar of a program: its main command and its sub-commands. -/

set_option autoImplicit false

namespace UsageGrammar

structure Model where
  main : Command
  children : List Command
  deriving DecidableEq, Repr, Inhabited

namespace Model

def commands (m : Model) : List Command :=
  m.main :: m.children

def splitMain : List Command → Option (Command × List Command)
  | [] => none
  | c :: rest =>
    if c.words.length = 1 then some (c, rest)
    else (splitMain rest).map fun (main, others) => (main, c :: others)

def asChild (main c : Command) : Except DefinitionError Command :=
  let front := (main.fullName ++ " ").toList
  let full := c.fullName.toList
  if front.isPrefixOf full then .ok { c with name := String.ofList (full.drop front.length) }
  else .error ⟨.invalidSubcommandName main.fullName c.fullName, c.line⟩

/-- The grammar of some commands. A single command is the main one; otherwise the first command of
one word is, and all others must go on from its name. -/
def organize : List Command → Except DefinitionError Model
  | [] => .error ⟨.noCommand, none⟩
  -- A command that is alone is not asked for the number of its words.
  | [c] => .ok ⟨c, []⟩
  | cs =>
    match splitMain cs with
    | none => .error ⟨.noDefaultCommand, none⟩
    | some (main, others) => do return ⟨main, ← others.mapM (asChild main)⟩

def parse (help : String) : Except DefinitionError Model := do
  organize (← build help)

/-- The first command with this local or full name; the blanks of the name do not count. -/
def find? (m : Model) (name : String) : Option Command :=
  let name := joinWords (Text.fields name)
  m.commands.find? fun c => name == c.name || name == c.fullName

/-- Tokens up to the first that looks like a flag. -/
def candidates (tokens : List String) : List String :=
  tokens.takeWhile fun token => token.toList.head? != some '-'

/-- The sub-command named by the longest run of leading tokens, of at most `count` tokens. -/
def longestMatch (m : Model) (tokens : List String) : Nat → Option (Command × List String)
  | 0 => none
  | count + 1 =>
    match m.children.find? (·.name == joinWords (tokens.take (count + 1))) with
    | some c => some (c, tokens.drop (count + 1))
    | none => longestMatch m tokens count

def resolve (m : Model) (tokens : List String) : Except Complaint (Command × List String) :=
  if m.children.isEmpty then .ok (m.main, tokens)
  else
    match candidates tokens with
    | [] => .ok (m.main, tokens)
    -- The candidates are tokens in front, so their number bounds the run that is tried first.
    | first :: rest =>
      match m.longestMatch tokens (rest.length + 1) with
      | some found => .ok found
      | none => .error (.unknownCommand first)

end Model

end UsageGrammar
