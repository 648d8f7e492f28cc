import UsageGrammar.Text.Character

/-! Options and switches: what the spellings of a flag stand for, and how flags are spelled. -/

set_option autoImplicit false

namespace UsageGrammar

inductive FlagKind where
  | switch
  | option
  deriving DecidableEq, Repr, Inhabited

/-- What a spelling binds. Spellings with equal targets are synonyms. -/
structure Target where
  kind : FlagKind
  key : String
  deriving DecidableEq, Repr, Inhabited

namespace Flag

def isPart (c : Char) : Bool :=
  Text.isAlphanumeric c || c == '-'

def takeName : List Char → Option (List Char × List Char)
  | [] => none
  | c :: rest =>
    if Text.isAlphanumeric c then some (c :: rest.takeWhile isPart, rest.dropWhile isPart) else none

def spell (name : String) : String :=
  if name.length = 1 then "-" ++ name else "--" ++ name

end Flag

end UsageGrammar
