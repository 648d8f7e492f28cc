import UsageGrammar.Text.Character

/-! Positional slots of a usage line: `<name>`, `[<name>]`, `<name>...` and `[<name>...]`. -/

set_option autoImplicit false

namespace UsageGrammar

/-- A place for positional arguments. A variadic one takes all that are left. -/
structure Slot where
  name : String
  required : Bool := true
  variadic : Bool := false
  deriving DecidableEq, Repr, Inhabited

namespace Slot

def usage (s : Slot) : String :=
  let body := "<" ++ s.name ++ ">" ++ if s.variadic then "..." else ""
  if s.required then body else "[" ++ body ++ "]"

def takeBody (s : List Char) : Option (String × Bool × List Char) :=
  let name := s.takeWhile Text.isNamePart
  if name.isEmpty then none
  else
    match s.dropWhile Text.isNamePart with
    | '>' :: '.' :: '.' :: '.' :: rest => some (String.ofList name, true, rest)
    | '>' :: rest => some (String.ofList name, false, rest)
    | _ => none

def take : List Char → Option (Slot × List Char)
  | '[' :: '<' :: rest =>
    match takeBody rest with
    | some (name, variadic, ']' :: rest) => some (⟨name, false, variadic⟩, rest)
    | _ => none
  | '<' :: rest => (takeBody rest).map fun (name, variadic, rest) => (⟨name, true, variadic⟩, rest)
  | _ => none

/-- The slots in a text after `skip` more characters of it. Whatever is no slot is passed over. -/
def scanFrom (skip : Nat) : List Char → List Slot
  | [] => []
  | c :: rest =>
    match skip with
    | skip + 1 => scanFrom skip rest
    | 0 =>
      match take (c :: rest) with
      -- The rest of the slot is counted off, which keeps the recursion on the characters.
      | some (slot, after) => slot :: scanFrom (rest.length - after.length) rest
      | none => scanFrom 0 rest

def scan (text : String) : List Slot :=
  scanFrom 0 text.toList

end Slot

end UsageGrammar
