import UsageGrammar.Decimal.Reading
import UsageGrammar.Pattern.Syntax
import UsageGrammar.Text.Quoted

/-! What can be wrong with the text of a regular expression, and how it is reported. -/

set_option autoImplicit false

namespace UsageGrammar.Pattern

inductive Reason where
  | trailingBackslash
  | badEscape (escape : String)
  | incompleteEscape (escape : String)
  | octalTooLarge (escape : String)
  | braceMissing
  | undefinedCharacterName (name : String)
  | nameMissing (what : String)
  | nameUnterminated (closer : String)
  | openGroupReference
  | lookBehindGroupReference
  | invalidGroupReference (index : Nat)
  | unterminatedSet
  | badRange (low high : String)
  | repeatsReversed
  | nothingToRepeat
  | multipleRepeat
  | unexpectedEnd
  | badGroupName (name : String)
  | unknownGroupName (name : String)
  | badGroupNumber
  | unknownExtension (text : String)
  | unterminatedComment
  | unterminatedGroup
  | tooManyBranches
  | lateGlobalModes
  | groupRedefined (name : String) (index earlier : Nat)
  | localeMode
  | incompatibleModes
  | modesUnterminated
  | unknownMode
  | globalModeOn
  | globalModeOff
  | modeMissing
  | typeModeOff
  | colonMissing
  | modeOnAndOff
  | unbalancedParenthesis
  | variableLookBehind
  | lookBehindTooFar
  | templateRepeat (greed : Greed)
  | repeatTooLarge
  | numeralTooLong (digits : Nat)
  | conflictingModes
  | nestedTooDeep
  deriving DecidableEq, Repr

def Greed.operator : Greed → String
  | .greedy => "MAX_REPEAT"
  | .lazy => "MIN_REPEAT"
  | .possessive => "POSSESSIVE_REPEAT"

def Reason.text : Reason → String
  | .trailingBackslash => "bad escape (end of pattern)"
  | .badEscape escape => "bad escape " ++ escape
  | .incompleteEscape escape => "incomplete escape " ++ escape
  | .octalTooLarge escape => "octal escape value " ++ escape ++ " outside of range 0-0o377"
  | .braceMissing => "missing \x7b"
  | .undefinedCharacterName name => "undefined character name " ++ Text.quoted name
  | .nameMissing what => "missing " ++ what
  | .nameUnterminated closer => "missing " ++ closer ++ ", unterminated name"
  | .openGroupReference => "cannot refer to an open group"
  | .lookBehindGroupReference => "cannot refer to group defined in the same lookbehind subpattern"
  | .invalidGroupReference index => "invalid group reference " ++ toString index
  | .unterminatedSet => "unterminated character set"
  | .badRange low high => "bad character range " ++ low ++ "-" ++ high
  | .repeatsReversed => "min repeat greater than max repeat"
  | .nothingToRepeat => "nothing to repeat"
  | .multipleRepeat => "multiple repeat"
  | .unexpectedEnd => "unexpected end of pattern"
  | .badGroupName name => "bad character in group name " ++ Text.quoted name
  | .unknownGroupName name => "unknown group name " ++ Text.quoted name
  | .badGroupNumber => "bad group number"
  | .unknownExtension text => "unknown extension ?" ++ text
  | .unterminatedComment => "missing ), unterminated comment"
  | .unterminatedGroup => "missing ), unterminated subpattern"
  | .tooManyBranches => "conditional backref with more than two branches"
  | .lateGlobalModes => "global flags not at the start of the expression"
  | .groupRedefined name index earlier =>
    "redefinition of group name " ++ Text.quoted name ++ " as group " ++ toString index ++
      "; was group " ++ toString earlier
  | .localeMode => "bad inline flags: cannot use 'L' flag with a str pattern"
  | .incompatibleModes => "bad inline flags: flags 'a', 'u' and 'L' are incompatible"
  | .modesUnterminated => "missing -, : or )"
  | .unknownMode => "unknown flag"
  | .globalModeOn => "bad inline flags: cannot turn on global flag"
  | .globalModeOff => "bad inline flags: cannot turn off global flag"
  | .modeMissing => "missing flag"
  | .typeModeOff => "bad inline flags: cannot turn off flags 'a', 'u' and 'L'"
  | .colonMissing => "missing :"
  | .modeOnAndOff => "bad inline flags: flag turned on and off"
  | .unbalancedParenthesis => "unbalanced parenthesis"
  | .variableLookBehind => "look-behind requires fixed-width pattern"
  | .lookBehindTooFar => "looks too much behind"
  | .templateRepeat greed => "internal: unsupported template operator " ++ greed.operator
  | .repeatTooLarge => "the repetition number is too large"
  | .numeralTooLong digits => Decimal.tooLongMessage digits
  | .conflictingModes => "ASCII and UNICODE flags are incompatible"
  | .nestedTooDeep => "maximum recursion depth exceeded"

/-- A reason with the offset of the character that it was found at, when it has a place. -/
structure SyntaxError where
  reason : Reason
  offset : Option Nat
  deriving DecidableEq, Repr

/-- The report on an error in `source`; line and column are added when the text has several lines. -/
def SyntaxError.message (e : SyntaxError) (source : String) : String :=
  match e.offset with
  | none => e.reason.text
  | some offset =>
    let text := e.reason.text ++ " at position " ++ toString offset
    if source.toList.contains '\n' then
      let before := source.toList.take offset
      let line := before.count '\n' + 1
      let column := (before.reverse.takeWhile (· != '\n')).length + 1
      text ++ " (line " ++ toString line ++ ", column " ++ toString column ++ ")"
    else text

end UsageGrammar.Pattern
