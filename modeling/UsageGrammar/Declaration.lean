import UsageGrammar.Command
import UsageGrammar.Draft
import UsageGrammar.Failure

/-! Slots, targets and commands made from plain values, and their texts. -/

set_option autoImplicit false

namespace UsageGrammar

def Slot.ofDatum (name : Datum) (required variadic : Bool) : Except Failure Slot :=
  match name with
  | .text "" => .error (.invalid "cardinal name must be a non-empty string")
  | .text s => .ok ⟨s, required, variadic⟩
  | _ => .error (.wrongKind (some "cardinal name must be a string"))

def Slot.text (s : Slot) : String :=
  "cardinal(name=" ++ Text.quoted s.name ++ ", required=" ++ (Datum.truth s.required).quoted ++
    ", variadic=" ++ (Datum.truth s.variadic).quoted ++ ")"

def FlagKind.name : FlagKind → String
  | .switch => "switch"
  | .option => "option"

def Target.ofDatum (kind : FlagKind) (key : Datum) : Except Failure Target :=
  let refusal : Failure := .invalid (kind.name ++ " key must be a non-empty string")
  match key with
  | .text s => if s.isEmpty then .error refusal else .ok ⟨kind, s⟩
  | _ => .error refusal

def Target.text (t : Target) : String :=
  t.kind.name ++ "(key=" ++ Text.quoted t.key ++ ")"

inductive Declaration where
  | slot (s : Slot)
  | target (t : Target)
  deriving DecidableEq, Repr

namespace Declaration

def text : Declaration → String
  | .slot s => s.text
  | .target t => t.text

def usage? : Declaration → Option String
  | .slot s => some s.usage
  | .target _ => none

def fields : Declaration → Table Datum
  | .slot s => [("name", .text s.name), ("required", .truth s.required), ("variadic", .truth s.variadic)]
  | .target t => [("key", .text t.key)]

end Declaration

namespace Command

def ofParts (words : List String) (name : Option String) (help : String) (slots : List Slot)
    (flags : Table Target) (line : Option Int) : Except Failure Command :=
  match of? words name help slots flags line with
  | some c => .ok c
  | none => .error (.invalid "command must have at least one word")

structure Changes where
  name : Option String := none
  help : Option String := none
  slots : Option (List Slot) := none
  flags : Option (Table Target) := none
  line : Option (Option Int) := none

def change (c : Command) (changes : Changes) : Command :=
  { c with
    name := changes.name.getD c.name
    help := changes.help.getD c.help
    slots := (changes.slots.map (·.foldl Slot.put [])).getD c.slots
    flags := (changes.flags.map (Table.putAll [])).getD c.flags
    line := changes.line.getD c.line }

def sameNames (a b : Command) : Bool :=
  a.words == b.words && a.name == b.name

def tableText (entries : List (String × String)) : String :=
  "mappingproxy(\x7b" ++
    ", ".intercalate (entries.map fun (name, value) => Text.quoted name ++ ": " ++ value) ++ "\x7d)"

def text (c : Command) : String :=
  "command(name=" ++ Text.quoted c.name ++ ", full_name=" ++ Text.quoted c.fullName ++
    ", cardinals=" ++ tableText (c.slots.map fun s => (s.name, s.text)) ++
    ", switches=" ++ tableText (c.flags.map fun (name, t) => (name, t.text)) ++ ")"

end Command

def Draft.finish (d : Draft) : Except Failure Command :=
  let c := d.toCommand
  Command.ofParts c.words (some c.name) c.help c.slots c.flags c.line

end UsageGrammar
