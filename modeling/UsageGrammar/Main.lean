import UsageGrammar.Check.Document
import UsageGrammar.Check.Tool
import UsageGrammar.Fault.View

/-! The command line of the tool that checks help texts. The named files are read first; the run
itself works on what was read. -/

set_option autoImplicit false

namespace UsageGrammar.Check

/-- The names of files on a command line; there are none when the command line is at fault. -/
def namedFiles (prompt : Datum) : List String :=
  match invoke .raise (.text helpText) prompt with
  | .ok (.result args) =>
    match args.values.value? "files" with
    | some (.texts names) => names
    | _ => []
  | _ => []

def readInto (t : FileTree) (name : String) : IO FileTree := do
  let path := (← IO.currentDir) / name
  if ← path.isDir then return t.insert name .folder
  else if ← path.pathExists then return t.insert name (.file (← IO.FS.readBinFile path) false)
  else return t

partial def readLines (input : IO.FS.Stream) (text : String) : IO String := do
  let line ← input.getLine
  if line.isEmpty then return text else readLines input (text ++ line)

/-- What a run sees of the machine: the named files, and standard input when it is named. No dates
are converted. -/
def readSurroundings (names : List String) : IO Surroundings := do
  let here : Surroundings :=
    { folder := (← IO.currentDir).toString
      home := (← IO.getEnv "HOME").getD "/"
      accounts := []
      files := []
      input := ""
      today := ⟨1970, 1, 1⟩ }
  let input ←
    if names.contains "-" then do
      let text ← readLines (← IO.getStdin) ""
      pure (String.ofList (unifyLineEnds text.toList))
    else pure ""
  let paths := (names.filter (· != "-")).map fun name => FileName.resolve here name none
  return { here with files := ← paths.foldlM readInto [], input }

def exitCode : Datum → UInt32
  | .integer n => UInt32.ofNat (n % 256).toNat
  | _ => 1

def viewLines (v : View) : List String :=
  (v.frame.toList ++ v.parts).map StyledText.plain

def failureLines : Failure → List String
  | .stopped shown _ => viewLines (shown.view { program := some (.text programName) })
  | .undecodable => [programName ++ ": the file is not a text"]
  | _ => [programName ++ ": the files cannot be checked"]

def failureCode : Failure → UInt32
  | .stopped _ status => exitCode status
  | _ => 1

def announce (r : Except Failure Report) : IO UInt32 := do
  match r with
  | .ok (.printed text) =>
    IO.println text
    return 0
  | .ok (.listed commands) =>
    IO.println (Document.write 0 (.array (commands.map Document.ofDescription)))
    return 0
  | .ok (.handled _) => return 0
  | .error f =>
    for line in failureLines f do
      IO.eprintln line
    return failureCode f

end UsageGrammar.Check

def main (args : List String) : IO UInt32 := do
  let prompt := UsageGrammar.Datum.list (args.map .text)
  let here ← UsageGrammar.Check.readSurroundings (UsageGrammar.Check.namedFiles prompt)
  UsageGrammar.Check.announce (UsageGrammar.Check.run .standard prompt here)
