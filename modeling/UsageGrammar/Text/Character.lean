import UsageGrammar.Text.NameTable
import UsageGrammar.Text.WordTable

/-! Classes of characters: word characters, decimal digits, the letters and signs of names, and the letters
of the Latin alphabet without regard to case. All tables are those of Unicode 14;
later versions of the standard have more word characters, digits and letters. -/

set_option autoImplicit false

namespace UsageGrammar.Text

/-- Is the code point in one of the ranges? The ranges ascend, so the search stops early. -/
def inRanges (n : Nat) : List (Nat × Nat) → Bool
  | [] => false
  | (lo, hi) :: rest => if n < lo then false else decide (n ≤ hi) || inRanges n rest

/-- Letters, digits and other numeric signs of every script, and the underscore. -/
def isWord (c : Char) : Bool :=
  inRanges c.toNat wordRanges

def isAlphanumeric (c : Char) : Bool :=
  isWord c && c != '_'

def isNamePart (c : Char) : Bool :=
  isWord c || c == '-'

/-- Code points of the digits zero; the nine other digits of a script follow its zero. -/
def zeroPoints : List Nat := [
  48, 1632, 1776, 1984, 2406, 2534, 2662, 2790, 2918, 3046, 3174, 3302, 3430, 3558, 3664, 3792,
  3872, 4160, 4240, 6112, 6160, 6470, 6608, 6784, 6800, 6992, 7088, 7232, 7248, 42528, 43216,
  43264, 43472, 43504, 43600, 44016, 65296, 66720, 68912, 69734, 69872, 69942, 70096, 70384,
  70736, 70864, 71248, 71360, 71472, 71904, 72016, 72784, 73040, 73120, 92768, 92864, 93008,
  120782, 120792, 120802, 120812, 120822, 123200, 123632, 125264, 130032]

def digitValue? (c : Char) : Option Nat :=
  (zeroPoints.find? fun z => z ≤ c.toNat && c.toNat < z + 10).map (c.toNat - ·)

def isDigit (c : Char) : Bool :=
  (digitValue? c).isSome

/-- The number that a run of decimal digits writes; other characters count as zero. -/
def numeral (digits : List Char) : Nat :=
  digits.foldl (fun value c => 10 * value + (digitValue? c).getD 0) 0

def isLetter (c : Char) : Bool :=
  isAlphanumeric c && !isDigit c && !inRanges c.toNat numeralRanges

def beginsName (c : Char) : Bool :=
  c == '_' || (isLetter c && !inRanges c.toNat dependentLetterRanges) ||
    inRanges c.toNat nameSignRanges

def continuesName (c : Char) : Bool :=
  beginsName c || isDigit c || inRanges c.toNat nameMarkRanges

def isName (s : String) : Bool :=
  match s.toList with
  | [] => false
  | c :: rest => beginsName c && rest.all continuesName

/-- The letter from `a` to `z` that a character equals when case is ignored; all other characters
stay. The long s counts as `s`, the Kelvin sign as `k`, and the dotted and dotless i as `i`. -/
def caseless (c : Char) : Char :=
  if 'A' ≤ c && c ≤ 'Z' then Char.ofNat (c.toNat + 32)
  else if c.toNat = 0x17F then 's'
  else if c.toNat = 0x212A then 'k'
  else if c.toNat = 0x130 || c.toNat = 0x131 then 'i'
  else c

/-- The rest of the text after a word in lower case letters, whatever the case of the text. -/
def dropCaseless : List Char → List Char → Option (List Char)
  | [], s => some s
  | _ :: _, [] => none
  | w :: word, c :: s => if caseless c = w then dropCaseless word s else none

def isCaselessLetter (c : Char) : Bool :=
  'a' ≤ caseless c && caseless c ≤ 'z'

end UsageGrammar.Text
