import UsageGrammar.Decimal.Reading
import UsageGrammar.Pattern.Alternatives
import UsageGrammar.Pattern.Obstacle
import UsageGrammar.Text.Character

/-! The reading of regular expressions. A pattern is cut into lexemes, an escape being one lexeme,
and read from left to right. Every failure carries the offset that it is reported at. -/

set_option autoImplicit false

namespace UsageGrammar.Pattern

/-- A character of a pattern, or a backslash and the character after it. -/
structure Lexeme where
  text : List Char
  offset : Nat
  deriving DecidableEq, Repr

def lexemesFrom (offset : Nat) : List Char → List Lexeme × Bool
  | [] => ([], false)
  | ['\\'] => ([], true)
  | '\\' :: c :: rest =>
    let (lexemes, dangling) := lexemesFrom (offset + 2) rest
    (⟨['\\', c], offset⟩ :: lexemes, dangling)
  | c :: rest =>
    let (lexemes, dangling) := lexemesFrom (offset + 1) rest
    (⟨[c], offset⟩ :: lexemes, dangling)

structure ReadState where
  rest : List Lexeme
  size : Nat
  dangling : Bool
  modes : Modes
  unicode : Bool
  opened : Nat
  names : List (String × Nat)
  widths : List (Nat × Width)
  /-- Inside a look-behind: the index that the next group had at its start. -/
  behind : Option Nat
  conditions : List (Nat × Nat)
  template : Bool
  /-- Number of the parts, one within the other, that are being read. -/
  depth : Nat

abbrev Reader (α : Type) : Type := StateT ReadState (Except SyntaxError) α

namespace Reader

def offset : Reader Nat := do
  let s ← get
  match s.rest with
  | [] => return s.size
  | lexeme :: _ => return lexeme.offset

/-- Fails `back` characters before the current place. -/
def fail {α : Type} (reason : Reason) (back : Nat) : Reader α := do
  throw ⟨reason, some ((← offset) - back)⟩

/-- Greatest depth of nested parts; a group counts twice, for its choice and for its branch. -/
def depthLimit : Nat := 982

def nested {α : Type} (part : Reader α) : Reader α := do
  if depthLimit ≤ (← get).depth then throw ⟨.nestedTooDeep, none⟩
  modify fun s => { s with depth := s.depth + 1 }
  let result ← part
  modify fun s => { s with depth := s.depth - 1 }
  return result

/-- A lone backslash at the end of the pattern is found as soon as the lexemes before it are used up. -/
def checkEnd : Reader Unit := do
  let s ← get
  if s.rest.isEmpty && s.dangling then throw ⟨.trailingBackslash, some (s.size - 1)⟩

def peek : Reader (List Char) := do
  match (← get).rest with
  | [] => return []
  | lexeme :: _ => return lexeme.text

def next : Reader (List Char) := do
  match (← get).rest with
  | [] => return []
  | lexeme :: rest =>
    modify fun s => { s with rest }
    checkEnd
    return lexeme.text

def accept (c : Char) : Reader Bool := do
  if (← peek) = [c] then
    let _ ← next
    return true
  return false

def upTo (kind : Char → Bool) : Nat → Reader (List Char)
  | 0 => return []
  | count + 1 => do
    match ← peek with
    | [c] =>
      if kind c then
        let _ ← next
        return c :: (← upTo kind count)
      else return []
    | _ => return []

def isAsciiDigit (c : Char) : Bool := '0' ≤ c && c ≤ '9'

def isOctal (c : Char) : Bool := '0' ≤ c && c ≤ '7'

def isHex (c : Char) : Bool :=
  isAsciiDigit c || ('a' ≤ c && c ≤ 'f') || ('A' ≤ c && c ≤ 'F')

def isAsciiLetter (c : Char) : Bool :=
  ('a' ≤ c && c ≤ 'z') || ('A' ≤ c && c ≤ 'Z')

def asciiDigits : Reader (List Char) := do
  upTo isAsciiDigit (← get).rest.length

def digitOf (c : Char) : Nat :=
  if isAsciiDigit c then c.toNat - 48 else c.toLower.toNat - 87

def number (base : Nat) (digits : List Char) : Nat :=
  digits.foldl (fun n c => base * n + digitOf c) 0

def nameUntil (closer : Char) (what : String) : Reader String := do
  let rec go : Nat → List Char → Reader String
    | 0, _ => fail (.nameMissing what) 0
    | fuel + 1, name => do
      match ← next with
      | [] =>
        if name.isEmpty then fail (.nameMissing what) 0
        else fail (.nameUnterminated (String.singleton closer)) name.length
      | text =>
        if text = [closer] then
          if name.isEmpty then fail (.nameMissing what) 1 else return String.ofList name
        else go fuel (name ++ text)
  go ((← get).rest.length + 1) []

def checkGroupName (name : String) : Reader Unit := do
  unless Text.isName name do fail (.badGroupName name) (name.length + 1)

def isClosed (index : Nat) : Reader Bool := do
  return (← get).widths.any (·.1 == index)

/-- A look-behind may refer to groups that were closed before it only. -/
def checkBehind (index : Nat) : Reader Unit := do
  match (← get).behind with
  | none => return
  | some first =>
    unless ← isClosed index do fail .openGroupReference 0
    if first ≤ index then fail .lookBehindGroupReference 0

inductive Simple where
  | point (n : Nat)
  | cls (c : CharClass) (negated : Bool)

def simple? : Char → Option Simple
  | 'a' => some (.point 7)
  | 'f' => some (.point 12)
  | 'n' => some (.point 10)
  | 'r' => some (.point 13)
  | 't' => some (.point 9)
  | 'v' => some (.point 11)
  | '\\' => some (.point 92)
  | 'd' => some (.cls .digit false)
  | 'D' => some (.cls .digit true)
  | 's' => some (.cls .blank false)
  | 'S' => some (.cls .blank true)
  | 'w' => some (.cls .word false)
  | 'W' => some (.cls .word true)
  | _ => none

def anchor? : Char → Option Anchor
  | 'A' => some .textStart
  | 'Z' => some .textEnd
  | 'b' => some .wordEdge
  | 'B' => some .noWordEdge
  | _ => none

def escapeText (c : Char) (more : List Char) : String :=
  String.ofList ('\\' :: c :: more)

def hexEscape (c : Char) (width : Nat) : Reader Nat := do
  let digits ← upTo isHex width
  if digits.length < width then
    fail (.incompleteEscape (escapeText c digits)) (digits.length + 2)
  else
    let n := number 16 digits
    if 0x10FFFF < n then fail (.badEscape (escapeText c digits)) (digits.length + 2) else return n

def commonEscape (c : Char) : Reader Nat := do
  match c with
  | 'x' => hexEscape c 2
  | 'u' => hexEscape c 4
  | 'U' => hexEscape c 8
  | 'N' =>
    unless ← accept (Char.ofNat 0x7B) do fail .braceMissing 0
    let name ← nameUntil (Char.ofNat 0x7D) "character name"
    fail (.undefinedCharacterName name) (name.length + 4)
  | _ =>
    if isAsciiLetter c then fail (.badEscape (escapeText c [])) 2 else return c.toNat

def setEscape (c : Char) : Reader Member := do
  -- Within a set this is the backspace, not the edge of a word.
  if c = 'b' then return .point 8
  match simple? c with
  | some (.point n) => return .point n
  | some (.cls kind negated) => return .cls kind negated
  | none =>
    if isOctal c then
      let digits := c :: (← upTo isOctal 2)
      let n := number 8 digits
      if 255 < n then
        fail (.octalTooLarge (String.ofList ('\\' :: digits))) (digits.length + 1)
      else return .point n
    else if isAsciiDigit c then fail (.badEscape (escapeText c [])) 2
    else return .point (← commonEscape c)

def groupReference (modes : Modes) (digits : List Char) : Reader Node := do
  let index := number 10 digits
  if index ≤ (← get).opened then
    unless ← isClosed index do fail .openGroupReference (digits.length + 1)
    checkBehind index
    return .backreference modes index
  else fail (.invalidGroupReference index) digits.length

def escape (modes : Modes) (c : Char) : Reader Node := do
  if let some a := anchor? c then return .anchor modes a
  match simple? c with
  | some (.point n) => return .point modes n
  | some (.cls kind negated) => return .set modes false [.cls kind negated]
  | none =>
    if c = '0' then
      return .point modes (number 8 (← upTo isOctal 2))
    else if isAsciiDigit c then
      match ← upTo isAsciiDigit 1 with
      | [d] =>
        -- Three octal digits are a code point; fewer are the number of a group.
        if isOctal c && isOctal d then
          match ← upTo isOctal 1 with
          | [e] =>
            let n := number 8 [c, d, e]
            if 255 < n then fail (.octalTooLarge (escapeText c [d, e])) 4 else return .point modes n
          | _ => groupReference modes [c, d]
        else groupReference modes [c, d]
      | _ => groupReference modes [c]
    else return .point modes (← commonEscape c)

def member (text : List Char) : Reader Member := do
  match text with
  | ['\\', c] => setEscape c
  | c :: _ => return .point c.toNat
  | [] => return .point 0

def members (start : Nat) : Nat → List Member → Reader (List Member)
  | 0, _ => fail .unterminatedSet 0
  | fuel + 1, found => do
    let text ← next
    if text.isEmpty then fail .unterminatedSet ((← offset) - start)
    -- As the first member, a closing bracket stands for itself.
    else if text = [']'] && !found.isEmpty then return found
    else
      let first ← member text
      if ← accept '-' then
        let last ← next
        if last.isEmpty then fail .unterminatedSet ((← offset) - start)
        else if last = [']'] then return found ++ [first, .point 45]
        else
          let second ← member last
          let bad := Reason.badRange (String.ofList text) (String.ofList last)
          match first, second with
          | .point low, .point high =>
            if high < low then fail bad (text.length + 1 + last.length)
            else members start fuel (found ++ [.span low high])
          | _, _ => fail bad (text.length + 1 + last.length)
      else members start fuel (found ++ [first])

def characterSet (modes : Modes) : Reader Node := do
  let start := (← offset) - 1
  let negated ← accept '^'
  let found ← members start ((← get).rest.length + 1) []
  match negated, found.eraseDups with
  | false, [.point n] => return .point modes n
  | true, [.point n] => return .otherPoint modes n
  | _, found => return .set modes negated found

def repeatLimit : Nat := 4294967295

def bound (digits : List Char) : Reader Nat := do
  match Decimal.boundedNumeral digits with
  | .ok n => if repeatLimit ≤ n then throw ⟨.repeatTooLarge, none⟩ else return n
  | .error _ => throw ⟨.numeralTooLong digits.length, none⟩

/-- Bounds of a repetition in braces, after the opening one; none when the braces are plain text. -/
def bounds : Reader (Option (Nat × Option Nat)) := do
  if (← peek) = [Char.ofNat 0x7D] then return none
  let start ← offset
  let saved := (← get).rest
  let low ← asciiDigits
  let high ← if ← accept ',' then asciiDigits else pure low
  unless ← accept (Char.ofNat 0x7D) do
    -- The braces were plain text after all, and what was read of them is read again as such.
    modify fun s => { s with rest := saved }
    return none
  let least ← bound low
  if high.isEmpty then return some (least, none)
  let most ← bound high
  if most < least then fail .repeatsReversed ((← offset) - start)
  return some (least, some most)

def repeatLast (mark : Nat) (least : Nat) (most : Option Nat) (items : List Node) :
    Reader (List Node) := do
  match items.getLast? with
  | none => throw ⟨.nothingToRepeat, some mark⟩
  | some (.anchor ..) => throw ⟨.nothingToRepeat, some mark⟩
  | some (.rounds ..) => throw ⟨.multipleRepeat, some mark⟩
  | some item =>
    if ← accept '?' then return items.dropLast ++ [.rounds least most .lazy item]
    if ← accept '+' then return items.dropLast ++ [.rounds least most .possessive item]
    return items.dropLast ++ [.rounds least most .greedy item]

inductive ModeLetter where
  | ignoreCase
  | locale
  | multiline
  | dotAll
  | verbose
  | ascii
  | template
  | unicode
  deriving DecidableEq

def modeLetter? : List Char → Option ModeLetter
  | ['i'] => some .ignoreCase
  | ['L'] => some .locale
  | ['m'] => some .multiline
  | ['s'] => some .dotAll
  | ['x'] => some .verbose
  | ['a'] => some .ascii
  | ['t'] => some .template
  | ['u'] => some .unicode
  | _ => none

def ModeLetter.isType : ModeLetter → Bool
  | .ascii | .unicode | .locale => true
  | _ => false

def ModeLetter.set (on : Bool) (modes : Modes) : ModeLetter → Modes
  | .ignoreCase => { modes with ignoreCase := on }
  | .multiline => { modes with multiline := on }
  | .dotAll => { modes with dotAll := on }
  | .verbose => { modes with verbose := on }
  | .ascii => { modes with ascii := on }
  | .unicode => { modes with ascii := modes.ascii && !on }
  | .locale | .template => modes

def unknownLetter (text : List Char) (other : Reason) : Reader (List ModeLetter) :=
  fail (if text.all Text.isLetter then .unknownMode else other) text.length

def lettersOn : Nat → List Char → List ModeLetter → Reader (List ModeLetter × List Char)
  | 0, _, _ => fail .modesUnterminated 0
  | fuel + 1, text, found => do
    match modeLetter? text with
    | none => return (← unknownLetter text .modesUnterminated, text)
    | some .locale => fail .localeMode 0
    | some letter =>
      if letter.isType && found.any fun other => other.isType && other != letter then
        fail .incompatibleModes 0
      let found := found ++ [letter]
      let text ← next
      if text.isEmpty then fail .modesUnterminated 0
      else if text = [')'] || text = ['-'] || text = [':'] then return (found, text)
      else lettersOn fuel text found

def lettersOff : Nat → List Char → List ModeLetter → Reader (List ModeLetter)
  | 0, _, _ => fail .colonMissing 0
  | fuel + 1, text, found => do
    match modeLetter? text with
    | none => unknownLetter text (if found.isEmpty then .modeMissing else .colonMissing)
    | some letter =>
      if letter.isType then fail .typeModeOff 0
      let found := found ++ [letter]
      let text ← next
      if text.isEmpty then fail .colonMissing 0
      else if text = [':'] then return found
      else lettersOff fuel text found

/-- Letters of modes from their first character on: those switched on and those switched off. None
stands for modes of the whole pattern, which are switched on here. -/
def modeLetters (first : List Char) : Reader (Option (List ModeLetter × List ModeLetter)) := do
  let fuel := (← get).rest.length + 1
  let (on, ending) ← if first = ['-'] then pure ([], first) else lettersOn fuel first []
  if ending = [')'] then
    let kept := on.filter (· != .unicode)
    modify fun s =>
      { s with
        modes := kept.foldl (ModeLetter.set true) s.modes
        unicode := s.unicode || on.contains .unicode
        template := s.template || on.contains .template }
    return none
  if on.contains .template then fail .globalModeOn 1
  if ending = ['-'] then
    let text ← next
    if text.isEmpty then fail .modeMissing 0
    let off ← lettersOff fuel text []
    if off.contains .template then fail .globalModeOff 1
    if on.any off.contains then fail .modeOnAndOff 1
    return some (on, off)
  return some (on, [])

def openGroup (name : Option String) : Reader Nat := do
  let index := (← get).opened + 1
  modify fun s => { s with opened := index }
  match name with
  | none => return index
  | some name =>
    if let some earlier := (← get).names.lookup name then
      fail (.groupRedefined name index earlier) (name.length + 1)
    modify fun s => { s with names := (name, index) :: s.names }
    return index

def closeParenthesis (start : Nat) : Reader Unit := do
  unless ← accept ')' do fail .unterminatedGroup ((← offset) - start)

def skipComment (start : Nat) : Nat → Reader Unit
  | 0 => return
  | fuel + 1 => do
    match ← next with
    | [] => fail .unterminatedComment ((← offset) - start)
    | text => unless text = [')'] do skipComment start fuel

def skipLine : Nat → Reader Unit
  | 0 => return
  | fuel + 1 => do
    match ← next with
    | [] => return
    | text => unless text = ['\n'] do skipLine fuel

def condition : Reader Nat := do
  let name ← nameUntil ')' "group name"
  let index ←
    if Text.isName name then
      match (← get).names.lookup name with
      | some index => pure index
      | none => fail (.unknownGroupName name) (name.length + 1)
    else
      match Decimal.readInteger name with
      | .ok (.ofNat 0) => fail .badGroupNumber (name.length + 1)
      | .ok (.ofNat index) => do
        if 1073741823 ≤ index then fail (.invalidGroupReference index) (name.length + 1)
        let place := (← offset) - name.length - 1
        unless (← get).conditions.any (·.1 == index) do
          modify fun s => { s with conditions := s.conditions ++ [(index, place)] }
        pure index
      | _ => fail (.badGroupName name) (name.length + 1)
  checkBehind index
  return index

def isVerboseBlank (text : List Char) : Bool :=
  match text with
  | [c] => c == ' ' || c == '\t' || c == '\n' || c == '\r' || c == '\x0b' || c == '\x0c'
  | _ => false

mutual

def alternatives : Nat → Bool → Modes → Reader Node
  | 0, _, _ => fail .unexpectedEnd 0
  | fuel + 1, outermost, modes => do
    nested do
      let first ← nested (sequence fuel outermost modes [])
      branches fuel outermost modes [first.items]

def branches : Nat → Bool → Modes → List (List Node) → Reader Node
  | 0, _, _, _ => fail .unexpectedEnd 0
  | fuel + 1, outermost, modes, found => do
    let globals := (← get).modes
    -- Modes of the whole pattern that the first branch sets hold in the others as well.
    let modes := if outermost then globals else modes
    if ← accept '|' then
      let branch ← nested (sequence fuel false modes [])
      branches fuel outermost modes (found ++ [branch.items])
    else return .sequence (choiceItems modes found)

def sequence : Nat → Bool → Modes → List Node → Reader Node
  | 0, _, _, _ => fail .unexpectedEnd 0
  | fuel + 1, first, modes, items => do
    let text ← peek
    if text.isEmpty || text = ['|'] || text = [')'] then return .sequence (dissolved items)
    let start ← offset
    let _ ← next
    if modes.verbose && isVerboseBlank text then sequence fuel first modes items
    else if modes.verbose && text = ['#'] then
      skipLine ((← get).rest.length + 1)
      sequence fuel first modes items
    else
      match text with
      | ['\\', c] => do
        let item ← escape modes c
        sequence fuel first modes (items ++ [item])
      | ['['] => do
        let item ← characterSet modes
        sequence fuel first modes (items ++ [item])
      | ['?'] => do sequence fuel first modes (← repeatLast start 0 (some 1) items)
      | ['*'] => do sequence fuel first modes (← repeatLast start 0 none items)
      | ['+'] => do sequence fuel first modes (← repeatLast start 1 none items)
      | ['.'] => sequence fuel first modes (items ++ [.any modes])
      | ['^'] => sequence fuel first modes (items ++ [.anchor modes .lineStart])
      | ['$'] => sequence fuel first modes (items ++ [.anchor modes .lineEnd])
      | ['('] => do
        if ← accept '?' then
          match ← extension fuel (first && items.isEmpty) modes start with
          | (modes, none) => sequence fuel first modes items
          | (modes, some item) => sequence fuel first modes (items ++ [item])
        else
          let item ← captured fuel modes start none
          sequence fuel first modes (items ++ [item])
      | [c] =>
        if c.toNat = 0x7B then do
          match ← bounds with
          | none => sequence fuel first modes (items ++ [.point modes c.toNat])
          | some (least, most) => sequence fuel first modes (← repeatLast start least most items)
        else sequence fuel first modes (items ++ [.point modes c.toNat])
      | _ => sequence fuel first modes items

def captured : Nat → Modes → Nat → Option String → Reader Node
  | 0, _, _, _ => fail .unexpectedEnd 0
  | fuel + 1, modes, start, name => do
    let index ← openGroup name
    let body ← alternatives fuel false modes
    closeParenthesis start
    modify fun s => { s with widths := (index, body.width s.widths) :: s.widths }
    return .capture index body

/-- What follows an opening parenthesis and a question mark; no item for comments and for modes of
the whole pattern, which change the modes of what follows. -/
def extension : Nat → Bool → Modes → Nat → Reader (Modes × Option Node)
  | 0, _, _, _ => fail .unexpectedEnd 0
  | fuel + 1, first, modes, start => do
    match ← next with
    | [] => fail .unexpectedEnd 0
    | ['P'] =>
      if ← accept '<' then
        let name ← nameUntil '>' "group name"
        checkGroupName name
        return (modes, some (← captured fuel modes start (some name)))
      else if ← accept '=' then
        let name ← nameUntil ')' "group name"
        checkGroupName name
        match (← get).names.lookup name with
        | none => fail (.unknownGroupName name) (name.length + 1)
        | some index =>
          unless ← isClosed index do fail .openGroupReference (name.length + 1)
          checkBehind index
          return (modes, some (.backreference modes index))
      else
        match ← next with
        | [] => fail .unexpectedEnd 0
        | text => fail (.unknownExtension (String.ofList ('P' :: text))) (text.length + 2)
    | [':'] =>
      let body ← alternatives fuel false modes
      closeParenthesis start
      return (modes, some body)
    | ['>'] =>
      let body ← alternatives fuel false modes
      closeParenthesis start
      return (modes, some (.atomic body))
    | ['#'] =>
      skipComment start ((← get).rest.length + 1)
      return (modes, none)
    | ['='] =>
      let body ← alternatives fuel false modes
      closeParenthesis start
      return (modes, some (.lookAhead false body))
    | ['!'] =>
      let body ← alternatives fuel false modes
      closeParenthesis start
      return (modes, some (.lookAhead true body))
    | ['<'] =>
      let text ← next
      if text.isEmpty then fail .unexpectedEnd 0
      unless text = ['='] || text = ['!'] do
        fail (.unknownExtension (String.ofList ('<' :: text))) (text.length + 2)
      let outer := (← get).behind
      -- Within another look-behind the groups in front of the outer one are asked for.
      modify fun s => { s with behind := outer.or (some (s.opened + 1)) }
      let body ← alternatives fuel false modes
      modify fun s => { s with behind := outer }
      closeParenthesis start
      let width := body.width (← get).widths
      return (modes, some (.lookBehind (text == ['!']) width.least body))
    | ['('] =>
      let index ← condition
      let present ← nested (sequence fuel false modes [])
      let absent ←
        if ← accept '|' then do
          let absent ← nested (sequence fuel false modes [])
          if (← peek) = ['|'] then fail .tooManyBranches 0
          pure absent
        else pure (.sequence [])
      closeParenthesis start
      return (modes, some (.conditional index present absent))
    | text =>
      if (modeLetter? text).isSome || text = ['-'] then
        match ← modeLetters text with
        | none =>
          unless first do fail .lateGlobalModes ((← offset) - start)
          return ((← get).modes, none)
        | some (on, off) =>
          let switched := on.foldl (ModeLetter.set true) modes
          let inner := off.foldl (ModeLetter.set false) switched
          let body ← alternatives fuel false inner
          closeParenthesis start
          return (modes, some (.group body))
      else fail (.unknownExtension (String.ofList text)) (text.length + 1)

end

def whole : Reader Node := do
  checkEnd
  let s ← get
  let body ← alternatives (4 * s.rest.length + 8) true s.modes
  let s ← get
  if s.unicode && s.modes.ascii then throw ⟨.conflictingModes, none⟩
  unless s.rest.isEmpty do fail .unbalancedParenthesis 0
  -- A condition may name a group that is opened later, so it is judged at the end.
  if let some (index, place) := s.conditions.find? (s.opened < ·.1) then
    throw ⟨.invalidGroupReference index, some place⟩
  if let some reason := body.obstacle? s.widths s.template then throw ⟨reason, none⟩
  return body

end Reader

def read (source : String) (modes : Modes) : Except SyntaxError Expression :=
  let (rest, dangling) := lexemesFrom 0 source.toList
  let start : ReadState :=
    { rest, dangling, modes, size := source.length, unicode := false, opened := 0, names := [],
      widths := [], behind := none, conditions := [], template := false, depth := 0 }
  match Reader.whole.run start with
  | .error e => .error e
  | .ok (body, s) => .ok ⟨source, s.modes, s.opened, s.names, body⟩

end UsageGrammar.Pattern
