import UsageGrammar.Command
import UsageGrammar.Complaint

/-! Binding of a command line to the flags and slots of a command. The tokens are read from left to
right; what is neither a flag nor the value of one is positional. Slots are filled when all tokens
have been read. -/

set_option autoImplicit false

namespace UsageGrammar

inductive Bound where
  | text (s : String)
  | flag (on : Bool)
  | texts (items : List String)
  deriving DecidableEq, Repr, Inhabited

inductive Token where
  | terminator
  | long (name : String)
  | inline (dashes name value : String)
  | cluster (letters : List Char)
  | plain
  deriving DecidableEq, Repr

namespace Token

def readNamed (dashes : String) (s : List Char) : Option Token :=
  match Flag.takeName s with
  | some (name, []) => if dashes = "--" then some (.long (String.ofList name)) else none
  | some (name, c :: value) =>
    if c = ':' || c = '=' then some (.inline dashes (String.ofList name) (String.ofList value))
    else none
  | none => none

def readChars : List Char → Token
  | ['-', '-'] => .terminator
  | '-' :: '-' :: rest => (readNamed "--" rest).getD .plain
  | '-' :: rest =>
    -- A bare name behind a single dash is a cluster of one-letter spellings.
    match readNamed "-" rest with
    | some token => token
    | none => if !rest.isEmpty && rest.all Text.isAlphanumeric then .cluster rest else .plain
  | _ => .plain

def read (token : String) : Token :=
  readChars token.toList

end Token

namespace Binding

def truthy : List String := ["y", "yes", "t", "true", "on"]

inductive Phase where
  | ready
  /-- The next token is the value of an option, given by its key and its spelling; the letters behind
  the option in the same cluster are read after it. -/
  | awaiting (key spelling : String) (letters : List Char)
  | verbatim
  deriving DecidableEq, Repr

structure Scan where
  values : Table Bound
  positionals : List String
  phase : Phase
  deriving DecidableEq, Repr

def Scan.start : Scan := ⟨[], [], .ready⟩

def meet (c : Command) (values : Table Bound) (dashes name : String) (letters : List Char) :
    Except Complaint (Table Bound × Phase) :=
  match c.flags.value? name with
  | none => .error (.unknownOption (dashes ++ name))
  | some ⟨.switch, key⟩ => .ok (values.put key (.flag true), .ready)
  | some ⟨.option, key⟩ => .ok (values, .awaiting key (dashes ++ name) letters)

def meetLetters (c : Command) (values : Table Bound) :
    List Char → Except Complaint (Table Bound × Phase)
  | [] => .ok (values, .ready)
  | letter :: letters => do
    match ← meet c values "-" (String.singleton letter) letters with
    | (values, .ready) => meetLetters c values letters
    | waiting => return waiting

def inlineValue (target : Target) (value : String) : Bound :=
  match target.kind with
  | .switch => .flag (truthy.contains value)
  | .option => .text value

def Scan.advance (s : Scan) (next : Table Bound × Phase) : Scan :=
  { s with values := next.1, phase := next.2 }

def readToken (c : Command) (s : Scan) (token : String) : Except Complaint Scan :=
  match Token.read token with
  | .terminator => .ok { s with phase := .verbatim }
  | .long name => (meet c s.values "--" name []).map s.advance
  | .inline dashes name value =>
    match c.flags.value? name with
    | none => .error (.unknownOption (dashes ++ name))
    | some target => .ok { s with values := s.values.put target.key (inlineValue target value) }
  | .cluster letters => (meetLetters c s.values letters).map s.advance
  | .plain => .ok { s with positionals := s.positionals ++ [token] }

def step (c : Command) (s : Scan) (token : String) : Except Complaint Scan :=
  match s.phase with
  | .verbatim => .ok { s with positionals := s.positionals ++ [token] }
  | .awaiting key spelling letters =>
    -- The dash in front is all that tells a flag from a value here; the terminator is refused as well.
    if token.toList.head? = some '-' then .error (.optionArgumentMissing key spelling)
    else (meetLetters c (s.values.put key (.text token)) letters).map s.advance
  | .ready => readToken c s token

def scanFrom (c : Command) (s : Scan) : List String → Except Complaint Scan
  | [] => .ok s
  | token :: rest => do scanFrom c (← step c s token) rest

def scan (c : Command) (tokens : List String) : Except Complaint (Table Bound × List String) := do
  let s ← scanFrom c .start tokens
  match s.phase with
  | .awaiting key spelling _ => .error (.optionArgumentMissing key spelling)
  | _ => return (s.values, s.positionals)

def dropLastOptional : List Slot → Option (List Slot)
  | [] => none
  | s :: rest =>
    match dropLastOptional rest with
    | some rest => some (s :: rest)
    | none => if s.required then none else some rest

/-- Drops optional slots, the last ones first, until `excess` of them are gone. When there are not
enough, the first slot that `count` tokens cannot reach is missing. -/
def dropOptional (count : Nat) : Nat → List Slot → Except Complaint (List Slot)
  | 0, slots => .ok slots
  | excess + 1, slots =>
    match dropLastOptional slots with
    | some slots => dropOptional count excess slots
    | none => .error (.argumentMissing (slots[count]?.map Slot.name))

def fit (slots : List Slot) (count : Nat) : Except Complaint (List Slot) :=
  dropOptional count (slots.length - count) slots

def fill (values : Table Bound) : List Slot → List String → Except Complaint (Table Bound)
  | [], [] => .ok values
  | [], _ :: _ => .error .tooManyArguments
  | s :: slots, [] =>
    -- Behind a variadic slot there can still be optional ones, for which nothing is left.
    if s.required then .error (.argumentMissing (some s.name)) else fill values slots []
  | s :: slots, token :: tokens =>
    if s.variadic then fill (values.put s.name (.texts (token :: tokens))) slots []
    else fill (values.put s.name (.text token)) slots tokens

def assign (slots : List Slot) (values : Table Bound) (positionals : List String) :
    Except Complaint (Table Bound) := do
  fill values (← fit slots positionals.length) positionals

/-- Does the command answer without its arguments? The main command does when `help` or `version`
is switched on. -/
def isShortcut (c : Command) (values : Table Bound) : Bool :=
  !c.fullName.toList.contains ' ' &&
    (values.value? "help" == some (.flag true) || values.value? "version" == some (.flag true))

def addDefaults (values : Table Bound) : List Target → Table Bound
  | [] => values
  | target :: rest =>
    match target.kind with
    | .switch => addDefaults (values.putNew target.key (.flag false)) rest
    | .option => addDefaults values rest

end Binding

/-- The values that a command line, without the name of the command, gives to the keys of the flags
and the names of the slots. -/
def bind (c : Command) (tokens : List String) : Except Complaint (Table Bound) := do
  let (values, positionals) ← Binding.scan c tokens
  let values ←
    if Binding.isShortcut c values then pure values else Binding.assign c.slots values positionals
  -- Defaults come last and replace nothing; a shortcut gets them as well.
  return Binding.addDefaults values c.flags.values

end UsageGrammar
