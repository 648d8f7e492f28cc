import UsageGrammar.Flag
import UsageGrammar.Text.Blank
import UsageGrammar.Text.Character

/-! The kinds of lines in a help text. A separator begins with a number sign; a usage line names a
command; an indented line that begins with flags and goes on with a description declares an option,
when a placeholder stands between them, or a switch; all other lines are prose. -/

set_option autoImplicit false

namespace UsageGrammar

inductive HelpLine where
  | separator
  | usage (words : List String) (remainder : String)
  /-- Spellings without dashes, the short one first, and what they bind. -/
  | flags (names : List String) (target : Target)
  | prose
  deriving DecidableEq, Repr

namespace HelpLine

open Text

def isGap (c : Char) : Bool :=
  c == ' ' || c == '\t'

/-- The words of a command and the rest of the line. `opened` is the word being read and `gap` holds
the blanks read after it, both last character first. -/
def wordsFrom (opened gap : List Char) : List Char → List (List Char) × List Char
  | [] => ([opened.reverse], gap.reverse)
  | c :: rest =>
    if isGap c then wordsFrom opened (c :: gap) rest
    else if gap.isEmpty then
      if isNamePart c then wordsFrom (c :: opened) [] rest else ([opened.reverse], c :: rest)
    -- A hyphen goes on with a word but opens none.
    else if isWord c then
      let (words, rest) := wordsFrom [c] [] rest
      (opened.reverse :: words, rest)
    else ([opened.reverse], gap.reverse ++ c :: rest)

def readUsage (s : List Char) : Option HelpLine := do
  let rest ← dropCaseless "usage:".toList s
  let body := rest.dropWhile isGap
  match body with
  | [] => none
  | c :: more =>
    -- There must be a gap behind the colon, of any length.
    if isGap (rest.headD c) && isWord c then
      let (words, remainder) := wordsFrom [c] [] more
      some (.usage (words.map String.ofList) (String.ofList remainder))
    else none

def isKeyStart (c : Char) : Bool :=
  'a' ≤ c && c ≤ 'z'

def isKeyPart (c : Char) : Bool :=
  isKeyStart c || ('0' ≤ c && c ≤ '9') || c == '_' || c == '-'

def takePair : List Char → Option (List String × String × List Char)
  | '-' :: c :: ',' :: rest =>
    match rest.dropWhile isGap with
    | '-' :: '-' :: rest =>
      if isAlphanumeric c then
        (Flag.takeName rest).map fun (name, rest) =>
          ([String.singleton c, String.ofList name], String.ofList name, rest)
      else none
    | _ => none
  | _ => none

def takeSingle (s : List Char) : Option (List String × String × List Char) :=
  let named (s : List Char) := (Flag.takeName s).map fun (name, rest) =>
    ([String.ofList name], String.ofList name, rest)
  match s with
  | '-' :: '-' :: rest => named rest
  | '-' :: rest => named rest
  | _ => none

def takePlaceholder : List Char → Option (String × List Char)
  | mark :: '<' :: c :: rest =>
    if (mark == ' ' || mark == ':') && isKeyStart c then
      match rest.dropWhile isKeyPart with
      | '>' :: after => some (String.ofList (c :: rest.takeWhile isKeyPart), after)
      | _ => none
    else none
  | _ => none

def isDescribed : List Char → Bool
  | [] => false
  | c :: rest => isBlank c && !(rest.dropWhile isBlank).isEmpty

def asOption : List String × String × List Char → Option HelpLine
  | (names, _, rest) => do
    let (key, rest) ← takePlaceholder rest
    if isDescribed rest then some (.flags names ⟨.option, key⟩) else none

def asSwitch : List String × String × List Char → Option HelpLine
  | (names, key, rest) => if isDescribed rest then some (.flags names ⟨.switch, key⟩) else none

/-- Reads a declaration after its indentation. A switch binds under its last spelling. -/
def readFlags (s : List Char) : Option HelpLine :=
  -- A form with a placeholder is preferred to both without one.
  ((takePair s).bind asOption).or <| ((takeSingle s).bind asOption).or <|
    ((takePair s).bind asSwitch).or ((takeSingle s).bind asSwitch)

def read (text : String) : HelpLine :=
  let s := text.toList
  let body := s.dropWhile isBlank
  if body.head? = some '#' then .separator
  else
    match readUsage body with
    | some line => line
    | none =>
      if body.length < s.length then (readFlags body).getD .prose else .prose

end HelpLine

end UsageGrammar
