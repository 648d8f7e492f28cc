import UsageGrammar.Conversion.Attempt
import UsageGrammar.Text.Blank

/-! Lists written with commas, with or without brackets around them. -/

set_option autoImplicit false

namespace UsageGrammar.Items

def splitCommas : List Char → List (List Char)
  | [] => [[]]
  | c :: rest =>
    if c = ',' then [] :: splitCommas rest
    else
      match splitCommas rest with
      | part :: parts => (c :: part) :: parts
      | [] => [[c]]

def dropBrackets (s : List Char) : List Char :=
  match s with
  | '[' :: rest => if rest.getLast? = some ']' then rest.dropLast else s
  | _ => s

/-- The items without blanks at their ends, without repetitions and without the empty one. -/
def split (s : List Char) : List (List Char) :=
  ((splitCommas (dropBrackets s)).map Text.strip).eraseDups.filter (!·.isEmpty)

def read (s : String) : Attempt (List String) :=
  match split s.toList with
  | [] => refuse "argument can not be empty"
  | items => .ok (items.map String.ofList)

end UsageGrammar.Items
