import UsageGrammar.Conversion.Attempt

/-! Conversion to names of files and folders, and to the content of files. -/

set_option autoImplicit false

namespace UsageGrammar

inductive FileAttribute where
  | readable
  | writable
  | executable
  | symlink
  | empty
  deriving DecidableEq, Repr

namespace FileAttribute

def name : FileAttribute → String
  | .readable => "readable"
  | .writable => "writable"
  | .executable => "executable"
  | .symlink => "symlink"
  | .empty => "empty"

def ofDatum (kind : String) (d : Datum) : Attempt FileAttribute :=
  match [readable, writable, executable, symlink, empty].find? fun a => d.sameName (.text a.name) with
  | some a => .ok a
  | none =>
    if d.isName then fail (.invalid ("unknown " ++ kind ++ " attribute - " ++ d.quoted))
    else fail (.wrongKind none)

/-- Folders are executable and not empty. -/
def holds (files : FileTree) (path : String) : FileAttribute → Bool
  | .readable => true
  | .writable => true
  | .executable =>
    match files.find? path with
    | some (.file _ runnable) => runnable
    | _ => true
  | .symlink => files.isLink path
  | .empty =>
    match files.find? path with
    | some (.file content _) => content.size == 0
    | _ => false

end FileAttribute

namespace FileName

/-- The absolute name; a relative one is seen from the folder `rel`, when it is given, and then from
the current folder. -/
def resolve (here : Surroundings) (s : String) (rel : Option String) : String :=
  let expand := Path.expandHome here.home here.accounts
  let name := expand s
  Path.absolute here.folder ((rel.map fun folder => Path.join (expand folder) name).getD name)

def relOption (options : Table Datum) : Attempt (Option String) :=
  match (options.value? "rel").getD .absent with
  | .absent => .ok none
  | .text s => .ok (some s)
  | _ => fail (.wrongKind none)

def read (here : Surroundings) (s : String) (options : Table Datum) : Attempt String := do
  if s.isEmpty then refuse "argument can not be empty"
  else return resolve here s (← relOption options)

def checkAttributes (here : Surroundings) (path kind : String) : List Datum → Attempt Unit
  | [] => .ok ()
  | arg :: args => do
    let a ← FileAttribute.ofDatum kind arg
    if a.holds here.files path then checkAttributes here path kind args
    else refuse (kind ++ " is not " ++ a.name)

def isFile : FileNode → Bool
  | .file .. => true
  | _ => false

def isFolder : FileNode → Bool
  | .folder => true
  | _ => false

def readExisting (here : Surroundings) (kind : String) (isKind : FileNode → Bool) (s : String)
    (args : List Datum) (options : Table Datum) : Attempt String := do
  let path ← read here s options
  match here.files.find? path with
  | none => refuse (kind ++ " does not exist")
  | some node =>
    if isKind node then
      checkAttributes here path kind args
      return path
    else refuse ("argument must be a " ++ kind)

def readFile (here : Surroundings) (s : String) (args : List Datum) (options : Table Datum) :
    Attempt String :=
  readExisting here "file" isFile s args options

def readFolder (here : Surroundings) (s : String) (args : List Datum) (options : Table Datum) :
    Attempt String :=
  readExisting here "directory" isFolder s args options

/-- The text in the file; a hyphen stands for standard input, which is read to its end. -/
def content (s : String) (args : List Datum) (options : Table Datum) : Conversion String := do
  let here ← get
  if s = "-" then
    set { here with input := "" }
    return here.input
  else
    let path ← readFile here s args options
    match here.files.find? path with
    | some (.file content _) =>
      match decodeText content with
      | some text => return text
      | none => throw (.failed .undecodable)
    -- There is a file of this name here, so this case does not come up.
    | _ => throw (.refused "file does not exist")

end FileName

end UsageGrammar
