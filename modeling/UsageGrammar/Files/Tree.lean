import UsageGrammar.Files.Path

/-! A tree of files, folders and symbolic links, and how names are followed in it. Everything in the
tree can be read and written. -/

set_option autoImplicit false

namespace UsageGrammar

inductive FileNode where
  | folder
  | file (content : ByteArray) (runnable : Bool)
  | link (target : String)

/-- What stands under each absolute name, given by its parts. The top of the tree is a folder. -/
abbrev FileTree : Type := List (List String × FileNode)

namespace FileTree

def node? (t : FileTree) (place : List String) : Option FileNode :=
  if place.isEmpty then some .folder else t.lookup place

def above (place : List String) : FileTree :=
  (List.range place.length).map fun n => (place.take n, .folder)

def insert (t : FileTree) (name : String) (node : FileNode) : FileTree :=
  let place := (Path.parts name).filter (· != "")
  t.filter (·.1 != place) ++ (place, node) :: above place

def isFolderAt (t : FileTree) (place : List String) : Bool :=
  match t.node? place with
  | some .folder => true
  | _ => false

def linkLimit : Nat := 40

def follow (t : FileTree) (links : Nat) (place : List String) :
    List String → Option (List String)
  | [] => some place
  | part :: rest =>
    if !t.isFolderAt place then none
    else if part = "" || part = "." then t.follow links place rest
    else if part = ".." then t.follow links place.dropLast rest
    else
      match t.node? (place ++ [part]) with
      | none => none
      | some (.link target) =>
        match links with
        | 0 => none
        | links + 1 =>
          -- A relative target is seen from the folder that holds the link.
          t.follow links (if Path.isAbsolute target then [] else place) (Path.parts target ++ rest)
      | some _ => t.follow links (place ++ [part]) rest
termination_by rest => (links, rest.length)

def find? (t : FileTree) (name : String) : Option FileNode :=
  (t.follow linkLimit [] (Path.parts name)).bind t.node?

def isLink (t : FileTree) (name : String) : Bool :=
  let parts := Path.parts name
  match (t.follow linkLimit [] parts.dropLast).bind fun folder =>
      parts.getLast?.bind fun last => t.node? (folder ++ [last]) with
  | some (.link _) => true
  | _ => false

end FileTree

def unifyLineEnds : List Char → List Char
  | [] => []
  | '\r' :: '\n' :: rest => '\n' :: unifyLineEnds rest
  | c :: rest => (if c = '\r' then '\n' else c) :: unifyLineEnds rest

def decodeText (content : ByteArray) : Option String :=
  (String.fromUTF8? content).map fun s => String.ofList (unifyLineEnds s.toList)

end UsageGrammar
