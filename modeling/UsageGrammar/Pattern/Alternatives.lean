import UsageGrammar.Pattern.Syntax

/-! The simplest tree for a sequence and for a choice. Sequences within a sequence are dissolved. Of
the branches of a choice, what all begin with is taken out in front, and branches that each take one
character out of a set become one set. -/

set_option autoImplicit false

namespace UsageGrammar.Pattern

def dissolved (items : List Node) : List Node :=
  items.flatMap fun item =>
    match item with
    | .sequence parts => parts
    | item => [item]

def Node.items : Node → List Node
  | .sequence items => items
  | node => [node]

/-- Are two nodes the same step? Nodes that have parts are always told apart. -/
def Node.sameStep : Node → Node → Bool
  | .point _ m, .point _ n => m == n
  | .otherPoint _ m, .otherPoint _ n => m == n
  | .set _ negated members, .set _ otherNegated others =>
    negated == otherNegated && members == others
  | .any _, .any _ => true
  | .anchor _ a, .anchor _ b => a == b
  | .backreference _ i, .backreference _ j => i == j
  | _, _ => false

/-- Splits a branch and the branches after it into the steps that all of them begin with, what is
left of the branch, and what is left of the others. -/
def commonSteps : List Node → List (List Node) → List Node × List Node × List (List Node)
  | [], others => ([], [], others)
  | step :: rest, others =>
    if others.all fun branch => branch.head?.any step.sameStep then
      let (steps, left, others) := commonSteps rest (others.map List.tail)
      (step :: steps, left, others)
    else ([], step :: rest, others)

def setMembers? : List Node → Option (List Member)
  | [.point _ n] => some [.point n]
  | [.set _ false members] => some members
  | _ => none

def choiceItems (modes : Modes) : List (List Node) → List Node
  | [] => []
  | [only] => only
  | first :: others =>
    let (steps, first, others) := commonSteps first others
    let branches := first :: others
    match branches.mapM setMembers? with
    | some members => steps ++ [.set modes false members.flatten.eraseDups]
    | none => steps ++ [.choice (branches.map .sequence)]

end UsageGrammar.Pattern
