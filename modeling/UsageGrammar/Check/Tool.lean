import UsageGrammar.Check.Describe
import UsageGrammar.Invocation.Convert

/-! A tool that checks help texts: it reads the grammar of some files and shows the commands. -/

set_option autoImplicit false

namespace UsageGrammar.Check

def programName : String := "check"

def version : String := "0.0.0"

def helpLines : List String := [
  "Test the syntax of your help text for parseargv.",
  "",
  "Usage: check [options] <files>...",
  "",
  "Options:",
  "  -f, --format <format>   display format: default, json, usage",
  "  -c, --command <name>    display command with <name> only",
  "  -h, --help              display this help",
  "  -v, --version           display version information"]

def helpText : String :=
  "\n".intercalate (helpLines ++ [""])

inductive Report where
  | printed (text : String)
  | listed (commands : List Description)
  /-- A handler took a fault and gave a value for the run. -/
  | handled (d : Datum)
  deriving Repr

/-- The lines of a value that is to be read as a help text. The lines of a text are its
characters. -/
def linesOf (d : Datum) : Except Failure (List String) :=
  let ofItems (items : List Datum) : Except Failure (List String) :=
    match Datum.texts? items with
    | some lines => .ok lines
    | none => .error (.wrongKind none)
  match d with
  | .text s => .ok (s.toList.map String.singleton)
  | .list items => ofItems items
  | .tuple items => ofItems items
  | .record entries => .ok (entries.map (·.1))
  | _ => .error (.wrongKind none)

def report (format : Datum) (commands : List Command) : Report :=
  if format.sameName (.text "json") then .listed (commands.map Command.describe)
  else if format.sameName (.text "usage") then
    .printed ("\n".intercalate (commands.map Command.usageLine))
  else .printed ("\n\n".intercalate (commands.map Command.listing))

def display (args : Invocation) (h : Handler) (m : Model) (here : Surroundings) :
    Except Failure Report := do
  let convert (q : Request) : Except Failure Datum := (args.convert h .stock q here).map (·.1)
  let format (commands : List Command) : Except Failure Report := do
    let formats := [.text "default", .text "json", .text "usage"]
    let format ← convert { type := .list formats, key := "format", default := .text "default" }
    return report format commands
  match args.values.value? "name" with
  | none => format m.commands
  | some bound =>
    match ← m.findNamed (← convert { type := .text "string", key := "name" }) with
    | some c => format [c]
    | none => .handled <$> args.complain h ("no such command - " ++ bound.datum.plain) []

def checkFiles (args : Invocation) (h : Handler) (here : Surroundings) : Except Failure Report := do
  let (content, here) ← args.convert h .stock { type := .text "file_content", key := "files" } here
  match Model.parse ("\n".intercalate (← linesOf content)) with
  | .error e => .handled <$> args.complain h ("invalid syntax - " ++ e.message) []
  | .ok m => display args h m here

/-- What a value that a handler gave has under a name. A type that takes parameters has something under
every name. -/
def entryOf (d : Datum) (name : String) : Except Failure Datum :=
  match d with
  | .record entries =>
    match List.lookup name entries with
    | some entry => .ok entry
    | none => .error (.missing name)
  | .kind .list | .kind .pattern => .ok d
  | .found f =>
    match f.named? name with
    | some group => .ok ((group.map .text).getD .absent)
    | none => .error (.missing name)
  | _ => .error (.wrongKind none)

/-- Goes on with a value that a handler gave as if it were what the command line invokes. -/
def proceed (d : Datum) : Except Failure Report := do
  -- A value of a handler has no help text and cannot be converted, so only the version can be shown.
  if (← entryOf d "help").truthy then .error .unsupported
  else if (← entryOf d "version").truthy then return .printed ("check v" ++ version)
  else .error .unsupported

def run (h : Handler) (prompt : Datum) (here : Surroundings) : Except Failure Report := do
  match ← invoke h (.text helpText) prompt with
  | .handled d => proceed d
  | .result args =>
    if args.isTrue "help" then return .printed args.help
    else if args.isTrue "version" then return .printed ("check v" ++ version)
    else checkFiles args h here

end UsageGrammar.Check
