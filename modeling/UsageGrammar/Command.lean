import UsageGrammar.Flag
import UsageGrammar.Slot
import UsageGrammar.Table

/-! Commands: their words, their positional slots and their flags. -/

set_option autoImplicit false

namespace UsageGrammar

def joinWords (words : List String) : String :=
  " ".intercalate words

structure Command where
  words : List String
  /-- The name within its grammar: the words after those of the main command. -/
  name : String
  help : String
  slots : List Slot
  flags : Table Target
  line : Option Int
  deriving DecidableEq, Repr, Inhabited

/-- Slots with one more; a slot of the same name is replaced in its place. -/
def Slot.put (slots : List Slot) (s : Slot) : List Slot :=
  match slots with
  | [] => [s]
  | other :: rest => if other.name = s.name then s :: rest else other :: Slot.put rest s

namespace Command

def fullName (c : Command) : String :=
  joinWords c.words

/-- A command from its parts; there must be a word. Without a name of its own it has its full name. -/
def of? (words : List String) (name : Option String) (help : String) (slots : List Slot)
    (flags : Table Target) (line : Option Int) : Option Command :=
  if words.isEmpty then none
  else
    some
      { words, help, line
        name := name.getD (joinWords words)
        slots := slots.foldl Slot.put []
        flags := Table.putAll [] flags }

/-- The targets with their spellings, each target where it first occurs. -/
def options (c : Command) : List (Target × List String) :=
  let targets := c.flags.values.eraseDups
  targets.map fun target => (target, (c.flags.filter (·.2 == target)).map (·.1))

/-- Do the commands agree in words, name, help, slots and flags? The order of slots and of flags and
the line do not count. -/
def same (a b : Command) : Bool :=
  a.words == b.words && a.name == b.name && a.help == b.help &&
    (a.slots.length == b.slots.length && a.slots.all b.slots.contains) && a.flags.same b.flags

end Command

end UsageGrammar
