import UsageGrammar.Text.Case

/-! Comparison of characters of every script that ignores case. Two characters are alike when their
lower case forms are equal or share an upper case form. -/

set_option autoImplicit false

namespace UsageGrammar.Text

def lowerPoint (n : Nat) : Nat :=
  ((mapCase lowerRuns lowerSequences n).bind List.head?).getD n

def upperPoint (n : Nat) : Nat :=
  ((mapCase upperRuns upperSequences n).bind List.head?).getD n

def hasCase (n : Nat) : Bool :=
  lowerPoint n != n || upperPoint n != n

def sameUpper (n : Nat) : List Nat :=
  (sameUpperGroups.find? (·.contains n)).getD [n]

def CaseRun.meets (run : CaseRun) (low high : Nat) : Bool :=
  let first := max low run.lo
  let first := first + (run.step - (first - run.lo) % run.step) % run.step
  first ≤ min high run.hi

def rangeHasCase (low high : Nat) : Bool :=
  (lowerRuns ++ upperRuns).any (·.meets low high) ||
    (lowerSequences ++ upperSequences).any fun entry => low ≤ entry.1 && entry.1 ≤ high

def lowerSources (n : Nat) : List Nat :=
  let shifted := lowerRuns.filterMap fun run =>
    let source := ((n : Int) - run.shift).toNat
    if (source : Int) + run.shift = n && run.holds source then some source else none
  let several := lowerSequences.filterMap fun entry =>
    if entry.2.head? = some n then some entry.1 else none
  if lowerPoint n = n then n :: shifted ++ several else shifted ++ several

end UsageGrammar.Text
