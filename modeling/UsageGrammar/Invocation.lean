import UsageGrammar.Binding
import UsageGrammar.Handler
import UsageGrammar.Model
import UsageGrammar.Text.ShellWords

/-! Invocations: the command that a command line invokes and the values that it binds. -/

set_option autoImplicit false

namespace UsageGrammar

structure Invocation where
  model : Model
  command : Command
  values : Table Bound
  deriving Repr

namespace Model

def hint (m : Model) : Table Datum :=
  if m.main.flags.values.contains ⟨.switch, "help"⟩ then
    [("hint", .text ("try '" ++ m.main.fullName ++ " --help' for more information"))]
  else []

/-- Resolution and binding; a complaint is made to the main command by the first and to the invoked
command by the second. -/
def invokeTokens (m : Model) (tokens : List String) : Except Fault Invocation :=
  match m.resolve tokens with
  | .error e => .error ⟨m.main.fullName, e, m.hint⟩
  | .ok (c, rest) =>
    match bind c rest with
    | .error e => .error ⟨c.fullName, e, m.hint⟩
    | .ok values => .ok ⟨m, c, values⟩

end Model

/-- The tokens of a command line: a text is divided as a shell does it, a list or tuple holds the
tokens, and a record has its names for tokens. -/
def promptTokens (prompt : Datum) : Except Failure (List String) :=
  let refusal : Failure :=
    .wrongKind (some "__invoke__() argument must be a string or an iterable of strings")
  let ofItems (items : List Datum) : Except Failure (List String) :=
    match Datum.texts? items with
    | some tokens => .ok tokens
    | none => .error refusal
  match prompt with
  | .text s => (Text.shellWords s).mapError fun e => .invalid e.message
  | .list items => ofItems items
  | .tuple items => ofItems items
  | .record entries => .ok (entries.map (·.1))
  | _ => .error refusal

def Model.invoke (m : Model) (h : Handler) (prompt : Datum) : Except Failure (Answer Invocation) := do
  h.settle (m.invokeTokens (← promptTokens prompt))

def asHelpText : Datum → Except Failure String
  | .text help => .ok help
  | _ => .error (.wrongKind (some "help text must be a string"))

def commandsOf (help : Datum) : Except Failure (List Command) := do
  (build (← asHelpText help)).mapError .definition

def Model.ofDatum (help : Datum) : Except Failure Model := do
  (Model.parse (← asHelpText help)).mapError .definition

def invoke (h : Handler) (help prompt : Datum) : Except Failure (Answer Invocation) :=
  match help with
  | .text _ => do (← Model.ofDatum help).invoke h prompt
  | _ =>
    .error
      (.wrongKind (some "invoke() argument must be a help text or provide an __invoke__ method"))

def Model.findNamed (m : Model) (name : Datum) : Except Failure (Option Command) :=
  let ofWords (words : List Datum) : Except Failure (Option Command) :=
    match Datum.texts? words with
    | some words => .ok (m.find? (joinWords words))
    | none => .error (.wrongKind none)
  match name with
  | .text s => .ok (m.find? s)
  | .list words => ofWords words
  | .tuple words => ofWords words
  | _ => .error (.wrongKind (some "find() argument must be a string or a sequence of strings"))

def Bound.datum : Bound → Datum
  | .text s => .text s
  | .flag on => .truth on
  | .texts items => .tuple (items.map .text)

namespace Invocation

def value (i : Invocation) (key : String) : Except Failure Datum :=
  match i.values.value? key with
  | some b => .ok b.datum
  | none => .error (.missing key)

def isTrue (i : Invocation) (key : String) : Bool :=
  i.values.value? key == some (.flag true)

def help (i : Invocation) : String :=
  i.command.help

def entries (i : Invocation) : Table Datum :=
  i.values.map fun (key, b) => (key, b.datum)

def text (i : Invocation) : String :=
  "result(command=" ++ Text.quoted i.command.fullName ++ ", values=" ++
    (Datum.record i.entries).quoted ++ ")"

def complain (i : Invocation) (h : Handler) (message : String) (options : Table Datum) :
    Except Failure Datum :=
  h.handle ⟨i.command.fullName, .application message, options⟩

end Invocation

def Model.text (m : Model) : String :=
  "command-model(main=" ++ Text.quoted m.main.fullName ++ ", commands=" ++
    (Datum.list (m.commands.map fun c => .text c.fullName)).quoted ++ ")"

end UsageGrammar
