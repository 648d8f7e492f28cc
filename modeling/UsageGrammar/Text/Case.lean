import UsageGrammar.Text.CaseTable
import UsageGrammar.Text.Character
import UsageGrammar.Text.SigmaTable

/-! Upper case, lower case and capitalisation of texts in every script. -/

set_option autoImplicit false

namespace UsageGrammar.Text

def shifted? (runs : List CaseRun) (n : Nat) : Option Nat :=
  (runs.find? (·.holds n)).map fun run => (n + run.shift : Int).toNat

def mapCase (runs : List CaseRun) (sequences : List (Nat × List Nat)) (n : Nat) :
    Option (List Nat) :=
  match sequences.lookup n with
  | some points => some points
  | none => (shifted? runs n).map ([·])

def lowerForm (c : Char) : List Char :=
  ((mapCase lowerRuns lowerSequences c.toNat).getD [c.toNat]).map Char.ofNat

def upperForm (c : Char) : List Char :=
  ((mapCase upperRuns upperSequences c.toNat).getD [c.toNat]).map Char.ofNat

def titleForm (c : Char) : List Char :=
  match mapCase titleRuns titleSequences c.toNat with
  | some points => points.map Char.ofNat
  | none => upperForm c

def nextToCased (neighbours : List Char) : Bool :=
  match neighbours.find? fun c => !inRanges c.toNat caseIgnorableRanges with
  | some c => inRanges c.toNat casedRanges
  | none => false

/-- Lowers a text that stands after `before`, which is given nearest character first. A capital
sigma gets its final form at the end of a word. -/
def lowerAfter (before : List Char) : List Char → List Char
  | [] => []
  | c :: rest =>
    let form :=
      if c = 'Σ' then [if nextToCased before && !nextToCased rest then 'ς' else 'σ']
      else lowerForm c
    form ++ lowerAfter (c :: before) rest

def lower (s : String) : String :=
  String.ofList (lowerAfter [] s.toList)

def upper (s : String) : String :=
  String.ofList (s.toList.flatMap upperForm)

def capitalize (s : String) : String :=
  match s.toList with
  | [] => ""
  | c :: rest => String.ofList (titleForm c ++ lowerAfter [c] rest)

end UsageGrammar.Text
