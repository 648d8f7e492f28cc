import UsageGrammar.Pattern.Syntax
import UsageGrammar.Text.Blank
import UsageGrammar.Text.Character
import UsageGrammar.Text.Fold

/-! Search for the first place where a regular expression matches. A match is built by trying the
ways that the expression offers in order and going back when what follows fails; each node is given
what is left to match as a function. -/

set_option autoImplicit false

namespace UsageGrammar.Pattern

def CharClass.holds (ascii : Bool) (c : Char) : CharClass → Bool
  | .digit => if ascii then '0' ≤ c && c ≤ '9' else Text.isDigit c
  | .blank => if ascii then [9, 10, 11, 12, 13, 32].contains c.toNat else Text.isBlank c
  | .word => Text.isWord c && (!ascii || c.toNat < 128)

def Modes.fold (modes : Modes) (n : Nat) : Nat :=
  if modes.ascii then (if 65 ≤ n && n ≤ 90 then n + 32 else n) else Text.lowerPoint n

def isAsciiLetterPoint (n : Nat) : Bool :=
  (65 ≤ n && n ≤ 90) || (97 ≤ n && n ≤ 122)

def Modes.hasCase (modes : Modes) (n : Nat) : Bool :=
  if modes.ascii then isAsciiLetterPoint n else Text.hasCase n

def Member.hasCase (modes : Modes) : Member → Bool
  | .point n => modes.hasCase n
  | .span low high =>
    if modes.ascii then (low ≤ 90 && 65 ≤ high) || (low ≤ 122 && 97 ≤ high)
    else Text.rangeHasCase low high
  | .cls .. => false

/-- Greatest code point of the basic plane. Members of sets beyond it are not brought to lower case. -/
def basicEnd : Nat := 0xFFFF

def Member.isWideSpan : Member → Bool
  | .span _ high => basicEnd < high
  | _ => false

def Member.isWide : Member → Bool
  | .point n => basicEnd < n
  | m => m.isWideSpan

def Modes.alike (modes : Modes) (n : Nat) : List Nat :=
  if modes.ascii then [n] else Text.sameUpper n

def Member.holds (modes : Modes) (c : Char) : Member → Bool
  | .point n => c.toNat == n
  | .span low high => low ≤ c.toNat && c.toNat ≤ high
  | .cls kind negated => kind.holds modes.ascii c != negated

def isBetween (low high n : Nat) : Bool := low ≤ n && n ≤ high

/-- Is the lower case character the lower case form of one between the bounds, or like such a form? -/
def spanHoldsFolded (modes : Modes) (low high : Nat) (c : Char) : Bool :=
  if modes.ascii then
    isBetween low high c.toNat ||
      (97 ≤ c.toNat && c.toNat ≤ 122 && isBetween (low + 32) (high + 32) c.toNat)
  else
    (Text.sameUpper c.toNat).any fun n => (Text.lowerSources n).any (isBetween low high)

/-- Does the lower case character `c` stand for the member when case is ignored? Beyond the basic
plane a member stands for itself, and a range for its lower case forms as well. -/
def Member.holdsFolded (modes : Modes) (c : Char) : Member → Bool
  | .point n =>
    if basicEnd < n then c.toNat == n else (modes.alike (modes.fold n)).contains c.toNat
  | .span low high =>
    spanHoldsFolded modes low (min high basicEnd) c ||
      (basicEnd < high &&
        (isBetween low high c.toNat || isBetween low high (Text.upperPoint c.toNat)))
  | .cls kind negated => kind.holds modes.ascii c != negated

def inSet (modes : Modes) (members : List Member) (c : Char) : Bool :=
  if modes.ignoreCase && members.any fun m => m.isWide || m.hasCase modes then
    let folded := Char.ofNat (modes.fold c.toNat)
    members.any (·.holdsFolded modes folded)
  else members.any (·.holds modes c)

def samePoint (modes : Modes) (n : Nat) (c : Char) : Bool :=
  if modes.ignoreCase && modes.hasCase n then
    (modes.alike (modes.fold n)).contains (modes.fold c.toNat)
  else c.toNat == n

/-- A place in the text, the spans of the groups matched so far, and where each group was entered
last. -/
structure Progress where
  place : Nat
  spans : Array (Option (Nat × Nat))
  starts : Array (Option Nat)
  deriving Repr, Inhabited

abbrev Rest : Type := Progress → Option Progress

def isWordAt (text : Array Char) (ascii : Bool) (place : Nat) : Bool :=
  match text[place]? with
  | some c => CharClass.word.holds ascii c
  | none => false

def isEdge (text : Array Char) (ascii : Bool) (place : Nat) : Bool :=
  (0 < place && isWordAt text ascii (place - 1)) != isWordAt text ascii place

def Anchor.holds (text : Array Char) (modes : Modes) (place : Nat) : Anchor → Bool
  | .textStart => place == 0
  | .textEnd => place == text.size
  | .lineStart =>
    place == 0 || (modes.multiline && text[place - 1]? == some '\n')
  | .lineEnd =>
    place == text.size ||
      (text[place]? == some '\n' && (modes.multiline || place + 1 == text.size))
  | .wordEdge => text.size != 0 && isEdge text modes.ascii place
  | .noWordEdge => text.size != 0 && !isEdge text modes.ascii place

/-- Has the group been matched? A group that is being matched once more counts as long as it has not
gone past the end of its last match. -/
def Progress.hasMatched (p : Progress) (index : Nat) : Bool :=
  match p.spans[index]?, p.starts[index]? with
  | some (some (_, stop)), some (some start) => start ≤ stop
  | _, _ => false

def Progress.enter (p : Progress) (index : Nat) : Progress :=
  { p with starts := p.starts.setIfInBounds index (some p.place) }

def Progress.leave (p : Progress) (index start : Nat) : Progress :=
  { p with spans := p.spans.setIfInBounds index (some (start, p.place)) }

def takeOne (text : Array Char) (kind : Char → Bool) (rest : Rest) : Rest := fun p =>
  match text[p.place]? with
  | some c => if kind c then rest { p with place := p.place + 1 } else none
  | none => none

def repeatsAt (text : Array Char) (modes : Modes) (start place : Nat) : Nat → Bool
  | 0 => true
  | length + 1 =>
    match text[start]?, text[place]? with
    | some a, some b =>
      (if modes.ignoreCase then modes.fold a.toNat == modes.fold b.toNat else a == b) &&
        repeatsAt text modes (start + 1) (place + 1) length
    | _, _ => false

/-- Rounds beyond the required ones. A round is not tried after one that took nothing; `last` is the
place where the round before began. -/
def furtherRounds (body : Rest → Rest) (lazy : Bool) (rest : Rest) :
    Nat → Option Nat → Option Nat → Rest
  | 0, _, _ => rest
  | fuel + 1, left, last => fun p =>
    let again : Option Progress :=
      if left = some 0 || last = some p.place then none
      else body (furtherRounds body lazy rest fuel (left.map (· - 1)) (some p.place)) p
    if lazy then (rest p).or again else again.or (rest p)

def requiredRounds (body : Rest → Rest) (rest : Rest) : Nat → Rest
  | 0 => rest
  | count + 1 => fun p => body (requiredRounds body rest count) p

/-- Required rounds of which none is tried in another way once it is done. -/
def requiredFinalRounds (round : Rest) : Nat → Rest
  | 0, p => some p
  | count + 1, p => (round p).bind (requiredFinalRounds round count)

def furtherFinalRounds (round : Rest) :
    Nat → Option Nat → Option Nat → Progress → Progress
  | 0, _, _, p => p
  | fuel + 1, left, last, p =>
    if left = some 0 || last = some p.place then p
    else
      match round p with
      | some q => furtherFinalRounds round fuel (left.map (· - 1)) (some p.place) q
      | none => p

mutual

def Node.run (text : Array Char) : Node → Rest → Rest
  | .point modes n, rest => takeOne text (samePoint modes n) rest
  | .otherPoint modes n, rest => takeOne text (fun c => !samePoint modes n c) rest
  | .set modes negated members, rest =>
    takeOne text (fun c => inSet modes members c != negated) rest
  | .any modes, rest => takeOne text (fun c => modes.dotAll || c != '\n') rest
  | .anchor modes a, rest => fun p => if a.holds text modes p.place then rest p else none
  | .sequence items, rest => runAll text items rest
  | .choice branches, rest => runAny text branches rest
  | .capture index body, rest => fun p =>
    body.run text (fun q => rest (q.leave index p.place)) (p.enter index)
  | .group body, rest => body.run text rest
  | .atomic body, rest => fun p => (body.run text some p).bind rest
  | .rounds least most greed body, rest => fun p =>
    -- A round that takes nothing is the last, so the fuel does not run out.
    let fuel := least + (text.size - p.place) + 2
    let left := most.map (· - least)
    match greed with
    | .possessive =>
      let round := body.run text some
      (requiredFinalRounds round least p).bind fun q =>
        rest (furtherFinalRounds round fuel left none q)
    | _ =>
      requiredRounds (body.run text)
        (furtherRounds (body.run text) (greed == .lazy) rest fuel left none) least p
  | .backreference modes index, rest => fun p =>
    match p.spans[index]? with
    | some (some (start, stop)) =>
      if repeatsAt text modes start p.place (stop - start) then
        rest { p with place := p.place + (stop - start) }
      else none
    | _ => none
  | .lookAhead negated body, rest => fun p =>
    match body.run text some p, negated with
    | some q, false => rest { q with place := p.place }
    | none, true => rest p
    | _, _ => none
  | .lookBehind negated width body, rest => fun p =>
    let found := if p.place < width then none else body.run text some { p with place := p.place - width }
    match found, negated with
    | some q, false => rest { q with place := p.place }
    | none, true => rest p
    | _, _ => none
  | .conditional index present absent, rest => fun p =>
    if p.hasMatched index then present.run text rest p else absent.run text rest p

def runAll (text : Array Char) : List Node → Rest → Rest
  | [], rest => rest
  | item :: items, rest => item.run text (runAll text items rest)

def runAny (text : Array Char) : List Node → Rest → Rest
  | [], _ => fun _ => none
  | branch :: branches, rest => fun p =>
    match branch.run text rest p with
    | some q => some q
    | none => runAny text branches rest p

end

/-- The spans of a match: that of the whole, then those of the groups. -/
structure Found where
  text : String
  spans : List (Option (Nat × Nat))
  names : List (String × Nat)
  deriving Repr

def Expression.matchAt (e : Expression) (text : Array Char) (start : Nat) : Option Progress :=
  let groups := e.groups + 1
  (e.body.run text some ⟨start, Array.replicate groups none, Array.replicate groups none⟩).map
    (·.leave 0 start)

mutual

def Node.firstSet? : Node → Option (Bool × List Member)
  | .set modes negated members =>
    if modes.ignoreCase && members.any fun m => m.isWideSpan || m.hasCase modes then none
    else some (negated, members)
  | .sequence items => firstSetOf? items
  | .capture _ body | .group body => body.firstSet?
  | _ => none

def firstSetOf? : List Node → Option (Bool × List Member)
  | [] => none
  | item :: _ => item.firstSet?

end

/-- May a match begin here? The set that the pattern begins with is asked in the modes of the whole
pattern, also when it stands in a part with modes of its own. -/
def Expression.mayBegin (e : Expression) (text : Array Char) (place : Nat) : Bool :=
  match e.body.firstSet?, text[place]? with
  | some (negated, members), some c => members.any (·.holds e.modes c) != negated
  | some _, none => false
  | none, _ => true

def Expression.search (e : Expression) (s : String) : Option Found :=
  let text := s.toList.toArray
  let places := (List.range (text.size + 1)).filter (e.mayBegin text)
  (places.findSome? (e.matchAt text)).map fun p => ⟨s, p.spans.toList, e.names⟩

def Found.slice (found : Found) (span : Nat × Nat) : String :=
  String.ofList ((found.text.toList.drop span.1).take (span.2 - span.1))

def Found.groups (found : Found) : List (Option String) :=
  found.spans.map (·.map found.slice)

/-- The text of a group that has this name, if there is one; a group that took no part has none. -/
def Found.named? (found : Found) (name : String) : Option (Option String) :=
  (found.names.lookup name).map fun index => found.spans[index]?.join.map found.slice

def Found.span (found : Found) : Nat × Nat :=
  (found.spans.head?.join).getD (0, 0)

end UsageGrammar.Pattern
