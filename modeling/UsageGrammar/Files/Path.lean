import UsageGrammar.Table

/-! Names of files: home folders, joining, and absolute names without detours. -/

set_option autoImplicit false

namespace UsageGrammar.Path

def splitSlashes : List Char → List (List Char)
  | [] => [[]]
  | c :: rest =>
    if c = '/' then [] :: splitSlashes rest
    else
      match splitSlashes rest with
      | part :: parts => (c :: part) :: parts
      | [] => [[c]]

def parts (name : String) : List String :=
  (splitSlashes name.toList).map String.ofList

def isAbsolute (name : String) : Bool :=
  name.toList.head? == some '/'

def join (folder name : String) : String :=
  if isAbsolute name then name
  else if folder.isEmpty || folder.toList.getLast? == some '/' then folder ++ name
  else folder ++ "/" ++ name

/-- Follows the parts of a name and drops detours; `done` holds the parts kept so far, last part
first. Steps up from the top of an absolute name have no effect. -/
def collapse (absolute : Bool) (done : List String) : List String → List String
  | [] => done.reverse
  | part :: rest =>
    if part = "" || part = "." then collapse absolute done rest
    else if part = ".." then
      match done with
      -- A relative name may lead out of its folder.
      | [] => collapse absolute (if absolute then [] else [".."]) rest
      | last :: others =>
        if last = ".." then collapse absolute (".." :: done) rest else collapse absolute others rest
    else collapse absolute (part :: done) rest

/-- The slashes in front of a name: exactly two are kept, other runs count as one. -/
def leadingSlashes (name : String) : String :=
  match name.toList with
  | '/' :: '/' :: '/' :: _ => "/"
  | '/' :: '/' :: _ => "//"
  | '/' :: _ => "/"
  | _ => ""

def normalize (name : String) : String :=
  let path := leadingSlashes name ++ "/".intercalate (collapse (isAbsolute name) [] (parts name))
  if path.isEmpty then "." else path

def absolute (folder name : String) : String :=
  normalize (join folder name)

/-- Replaces a tilde in front of a name by a home folder: that of the user, or that of the account
that is named after the tilde. The name of an unknown account stays. -/
def expandHome (home : String) (accounts : Table String) (name : String) : String :=
  match name.toList with
  | '~' :: rest =>
    let account := String.ofList (rest.takeWhile (· != '/'))
    match if account.isEmpty then some home else accounts.value? account with
    | none => name
    | some home =>
      let home := (home.toList.reverse.dropWhile (· == '/')).reverse
      let path := String.ofList (home ++ rest.dropWhile (· != '/'))
      -- A home folder at the top is nothing but slashes, which are dropped above.
      if path.isEmpty then "/" else path
  | _ => name

end UsageGrammar.Path
