import UsageGrammar.Check.Describe
import UsageGrammar.Text.Quoted

/-! Descriptions of commands as nested documents, and how documents are written. -/

set_option autoImplicit false

namespace UsageGrammar.Check

inductive Document where
  | null
  | truth (b : Bool)
  | number (n : Int)
  | text (s : String)
  | array (items : List Document)
  | table (entries : List (String × Document))
  deriving Repr, Inhabited

namespace Document

def escaped (c : Char) : List Char :=
  if c = '"' || c = '\\' then ['\\', c]
  else if c = '\n' then ['\\', 'n']
  else if c = '\r' then ['\\', 'r']
  else if c = '\t' then ['\\', 't']
  else if c.toNat = 8 then ['\\', 'b']
  else if c.toNat = 12 then ['\\', 'f']
  else if c.toNat < 32 then '\\' :: 'u' :: Text.hexadecimal 4 c.toNat
  else [c]

def quoted (s : String) : String :=
  String.ofList ('"' :: s.toList.flatMap escaped ++ ['"'])

def block (opener closer : String) (depth : Nat) (entries : List String) : String :=
  if entries.isEmpty then opener ++ closer
  else
    let margin (depth : Nat) := "\n" ++ "".pushn ' ' (2 * depth)
    opener ++ margin (depth + 1) ++ ("," ++ margin (depth + 1)).intercalate entries ++
      margin depth ++ closer

mutual

def write (depth : Nat) : Document → String
  | .null => "null"
  | .truth b => if b then "true" else "false"
  | .number n => toString n
  | .text s => quoted s
  | .array items => block "[" "]" depth (writeItems (depth + 1) items)
  | .table entries => block "\x7b" "\x7d" depth (writeEntries (depth + 1) entries)

def writeItems (depth : Nat) : List Document → List String
  | [] => []
  | d :: rest => write depth d :: writeItems depth rest

def writeEntries (depth : Nat) : List (String × Document) → List String
  | [] => []
  | (name, d) :: rest => (quoted name ++ ": " ++ write depth d) :: writeEntries depth rest

end

def ofArgument (a : Argument) : Document :=
  .table <| ("type", .text a.type) ::
    match a with
    | .slot required _ => [("required", .truth required)]
    | .flag _ names => [("names", .array (names.map .text))]

def ofDescription (d : Description) : Document :=
  .table [
    ("full_name", .text d.fullName),
    ("name", .text d.name),
    ("line", (d.line.map .number).getD .null),
    ("arguments", .table (d.arguments.map fun (name, a) => (name, ofArgument a)))]

end Document

end UsageGrammar.Check
