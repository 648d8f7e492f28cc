import UsageGrammar.Pattern.Syntax

/-! The least and the greatest number of characters that a pattern can take. -/

set_option autoImplicit false

namespace UsageGrammar.Pattern

structure Width where
  least : Nat
  most : Nat
  deriving DecidableEq, Repr

namespace Width

/-- Widths are not told apart beyond this bound. -/
def bound : Nat := Nat.pow 2 64

def capped (least most : Nat) : Width :=
  ⟨min least bound, min most bound⟩

def add (a b : Width) : Width := capped (a.least + b.least) (a.most + b.most)

def either (a b : Width) : Width := ⟨min a.least b.least, max a.most b.most⟩

def isFixed (w : Width) : Bool := w.least == w.most

end Width

mutual

def Node.width (groups : List (Nat × Width)) : Node → Width
  | .point .. | .otherPoint .. | .set .. | .any _ => ⟨1, 1⟩
  | .anchor .. | .lookAhead .. | .lookBehind .. => ⟨0, 0⟩
  | .sequence items => widthOfAll groups items
  | .choice branches => widthOfAny groups branches
  | .capture _ body | .group body | .atomic body => body.width groups
  | .rounds least most _ body =>
    let w := body.width groups
    match most with
    | some most => Width.capped (w.least * least) (w.most * most)
    | none => Width.capped (w.least * least) (if w.most = 0 then 0 else Width.bound)
  | .backreference _ index => (groups.lookup index).getD ⟨0, 0⟩
  | .conditional _ present absent => (present.width groups).either (absent.width groups)

def widthOfAll (groups : List (Nat × Width)) : List Node → Width
  | [] => ⟨0, 0⟩
  | item :: rest => (item.width groups).add (widthOfAll groups rest)

def widthOfAny (groups : List (Nat × Width)) : List Node → Width
  | [] => ⟨Width.bound, 0⟩
  | branch :: rest => (branch.width groups).either (widthOfAny groups rest)

end

end UsageGrammar.Pattern
