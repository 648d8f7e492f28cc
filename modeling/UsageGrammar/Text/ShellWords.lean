/-! Division of a command line into words by the rules of a shell: words are set apart by spaces,
tabs and line ends; single quotes keep everything; double quotes keep everything but a backslash
before a backslash or a double quote; elsewhere a backslash keeps the next character. -/

set_option autoImplicit false

namespace UsageGrammar.Text

inductive ShellError where
  | unclosedQuote
  | danglingBackslash
  deriving DecidableEq, Repr

def ShellError.message : ShellError → String
  | .unclosedQuote => "No closing quotation"
  | .danglingBackslash => "No escaped character"

namespace ShellWords

inductive Place where
  | outside
  | word
  | quote (mark : Char)
  | backslash
  | quotedBackslash
  deriving DecidableEq, Repr

def isSeparator (c : Char) : Bool :=
  c == ' ' || c == '\t' || c == '\r' || c == '\n'

/-- Where a character leads that stands outside of quotes, and the word being read after it. -/
def unquoted (word : List Char) (c : Char) : Place × List Char :=
  if c = '\\' then (.backslash, word)
  else if c = '\'' || c = '"' then (.quote c, word)
  else (.word, c :: word)

def wordsFrom : Place → List Char → List Char → Except ShellError (List (List Char))
  | .outside, _, [] => .ok []
  | .word, word, [] => .ok [word.reverse]
  | .quote _, _, [] => .error .unclosedQuote
  | .backslash, _, [] => .error .danglingBackslash
  | .quotedBackslash, _, [] => .error .danglingBackslash
  | .outside, _, c :: rest =>
    if isSeparator c then wordsFrom .outside [] rest
    else
      let (place, word) := unquoted [] c
      wordsFrom place word rest
  | .word, word, c :: rest =>
    if isSeparator c then do return word.reverse :: (← wordsFrom .outside [] rest)
    else
      let (place, word) := unquoted word c
      wordsFrom place word rest
  | .quote mark, word, c :: rest =>
    if c = mark then wordsFrom .word word rest
    else if c = '\\' && mark = '"' then wordsFrom .quotedBackslash word rest
    else wordsFrom (.quote mark) (c :: word) rest
  | .backslash, word, c :: rest => wordsFrom .word (c :: word) rest
  | .quotedBackslash, word, c :: rest =>
    -- In front of other characters the backslash stands for itself.
    let word := if c = '\\' || c = '"' then word else '\\' :: word
    wordsFrom (.quote '"') (c :: word) rest

end ShellWords

def shellWords (line : String) : Except ShellError (List String) :=
  (ShellWords.wordsFrom .outside [] line.toList).map (·.map String.ofList)

end UsageGrammar.Text
