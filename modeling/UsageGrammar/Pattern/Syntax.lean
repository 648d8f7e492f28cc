/-! Regular expressions as trees. Case and line modes are resolved into the leaves, so that a tree
means the same wherever it stands. -/

set_option autoImplicit false

namespace UsageGrammar.Pattern

structure Modes where
  ignoreCase : Bool := false
  multiline : Bool := false
  dotAll : Bool := false
  verbose : Bool := false
  ascii : Bool := false
  deriving DecidableEq, Repr, Inhabited

inductive CharClass where
  | digit
  | blank
  | word
  deriving DecidableEq, Repr

inductive Member where
  | point (n : Nat)
  | span (low high : Nat)
  | cls (c : CharClass) (negated : Bool)
  deriving DecidableEq, Repr

inductive Anchor where
  | lineStart
  | lineEnd
  | textStart
  | textEnd
  | wordEdge
  | noWordEdge
  deriving DecidableEq, Repr

inductive Greed where
  | greedy
  | lazy
  | possessive
  deriving DecidableEq, Repr

inductive Node where
  | point (modes : Modes) (n : Nat)
  | otherPoint (modes : Modes) (n : Nat)
  | set (modes : Modes) (negated : Bool) (members : List Member)
  | any (modes : Modes)
  | anchor (modes : Modes) (a : Anchor)
  | sequence (items : List Node)
  | choice (branches : List Node)
  | capture (index : Nat) (body : Node)
  | group (body : Node)
  | atomic (body : Node)
  | rounds (least : Nat) (most : Option Nat) (greed : Greed) (body : Node)
  | backreference (modes : Modes) (index : Nat)
  | lookAhead (negated : Bool) (body : Node)
  | lookBehind (negated : Bool) (width : Nat) (body : Node)
  | conditional (index : Nat) (present absent : Node)
  deriving Repr, Inhabited

structure Expression where
  source : String
  modes : Modes
  groups : Nat
  /-- The numbers of the groups that have a name. -/
  names : List (String × Nat)
  body : Node
  deriving Repr, Inhabited

end UsageGrammar.Pattern
