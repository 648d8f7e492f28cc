import UsageGrammar.Command
import UsageGrammar.DefinitionError
import UsageGrammar.Text.Blank

/-! Commands under construction. Declarations are checked against what was declared before: a name
is used by one slot, or by spellings and keys of flags, and the spellings of a key are of one kind. -/

set_option autoImplicit false

namespace UsageGrammar

structure Draft where
  words : List String
  help : List String
  line : Option Int
  slots : List Slot := []
  flags : Table Target := []
  deriving DecidableEq, Repr, Inhabited

/-- What a declaration leaves behind: the draft after it, and the fault when it was refused. -/
structure Declared where
  draft : Draft
  refusal : Option DefinitionError
  deriving DecidableEq, Repr

namespace Draft

def fullName (d : Draft) : String :=
  joinWords d.words

def hasSlot (d : Draft) (name : String) : Bool :=
  d.slots.any (·.name == name)

def hasKey (d : Draft) (key : String) : Bool :=
  d.flags.values.any (·.key == key)

/-- The target that was last registered under a key. -/
def target? (d : Draft) (key : String) : Option Target :=
  d.flags.values.reverse.find? (·.key == key)

def declareSlot (d : Draft) (s : Slot) (line : Option Int) : Declared :=
  if d.hasSlot s.name || d.flags.has s.name || d.hasKey s.name then
    ⟨d, some ⟨.duplicateArgument s.name, line⟩⟩
  else ⟨{ d with slots := d.slots ++ [s] }, none⟩

/-- Registers spellings one after the other up to the first that is taken. -/
def registerSpellings (d : Draft) (target : Target) (line : Option Int) : List String → Declared
  | [] => ⟨d, none⟩
  | name :: names =>
    if d.flags.has name then ⟨d, some ⟨.duplicateOption name, line⟩⟩
    else if d.hasSlot name then ⟨d, some ⟨.duplicateArgument name, line⟩⟩
    else registerSpellings { d with flags := d.flags.put name target } target line names

def declareFlags (d : Draft) (names : List String) (target : Target) (line : Option Int) : Declared :=
  if d.hasSlot target.key || (d.target? target.key).any (·.kind != target.kind) then
    ⟨d, some ⟨.duplicateArgument target.key, line⟩⟩
  else d.registerSpellings target line names

def declareSlots (d : Draft) (line : Option Int) : List Slot → Except DefinitionError Draft
  | [] => .ok d
  | s :: rest =>
    match d.declareSlot s line with
    -- Nothing is left of a usage line when one of its slots is refused.
    | ⟨_, some e⟩ => .error e
    | ⟨d, none⟩ => declareSlots d line rest

def addHelp (d : Draft) (text : String) : Draft :=
  { d with help := d.help ++ [text] }

def trimLines (lines : List String) : List String :=
  ((lines.dropWhile Text.allBlank).reverse.dropWhile Text.allBlank).reverse

def toCommand (d : Draft) : Command :=
  { words := d.words
    name := d.fullName
    help := "\n".intercalate (trimLines d.help)
    slots := d.slots
    flags := d.flags
    line := d.line }

end Draft

end UsageGrammar
