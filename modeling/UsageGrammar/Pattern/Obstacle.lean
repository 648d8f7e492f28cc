import UsageGrammar.Pattern.SyntaxError
import UsageGrammar.Pattern.Width

/-! Patterns that are well formed and still cannot be searched for: a look-behind has to know how far
it looks back, and templates have no repetitions. The first obstacle from the left is reported. -/

set_option autoImplicit false

namespace UsageGrammar.Pattern

def greatestLookBehind : Nat := 4294967295

mutual

def Node.obstacle? (groups : List (Nat × Width)) (template : Bool) : Node → Option Reason
  | .point .. | .otherPoint .. | .set .. | .any _ | .anchor .. | .backreference .. => none
  | .sequence items => obstacleInAny? groups template items
  | .choice branches => obstacleInAny? groups template branches
  | .capture _ body | .group body | .atomic body | .lookAhead _ body =>
    body.obstacle? groups template
  | .rounds _ _ greed body =>
    if template then some (.templateRepeat greed) else body.obstacle? groups template
  | .lookBehind _ _ body =>
    let width := body.width groups
    if greatestLookBehind < width.least then some .lookBehindTooFar
    else if width.isFixed then body.obstacle? groups template
    else some .variableLookBehind
  | .conditional _ present absent =>
    (present.obstacle? groups template).or (absent.obstacle? groups template)

def obstacleInAny? (groups : List (Nat × Width)) (template : Bool) : List Node → Option Reason
  | [] => none
  | item :: rest => (item.obstacle? groups template).or (obstacleInAny? groups template rest)

end

end UsageGrammar.Pattern
