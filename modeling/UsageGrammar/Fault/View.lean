import UsageGrammar.Fault

/-! How a fault is shown: a header with the name of the program, the code and the title, then the
message, then a hint if there is one. In the fancy form the header is the title of a frame. -/

set_option autoImplicit false

namespace UsageGrammar

/-- A text with a style of its own and styles for parts of it, given by first and last place. -/
structure StyledText where
  plain : String
  style : String := ""
  spans : List (Nat × Nat × String) := []
  deriving DecidableEq, Repr

namespace StyledText

def isHidden (c : Char) : Bool :=
  [7, 8, 11, 12, 13].contains c.toNat

def ofText (s : String) (style : String) : StyledText :=
  ⟨String.ofList (s.toList.filter (!isHidden ·)), style, []⟩

/-- Puts a text after another one; its style becomes that of its part. -/
def append (a b : StyledText) : StyledText :=
  let start := a.plain.length
  let part :=
    if b.style.isEmpty || b.plain.isEmpty then [] else [(start, start + b.plain.length, b.style)]
  ⟨a.plain ++ b.plain, a.style, a.spans ++ part⟩

def assemble (parts : List StyledText) : StyledText :=
  parts.foldl append ⟨"", "", []⟩

end StyledText

structure Theme where
  program : Option Datum := none
  codes : List (Nat × Datum) := []
  styles : Table String := []
  deriving Repr

namespace Theme

def standard : Theme := {}

def defaultStyles : Table String := [
  ("prog-name", "bold #E6E6F0"),
  ("code", "bold #00E5FF"),
  ("error-title", "bold #FF4DA6"),
  ("error-message", "#C8C8D0"),
  ("hint-arrow", "#9CE19C dim"),
  ("hint", "italic #9CE19C")]

def style (t : Theme) (name : String) : String :=
  ((t.styles.value? name).or (defaultStyles.value? name)).getD ""

def codeText (t : Theme) (code : Nat) : String :=
  match t.codes.lookup code with
  | some label => label.plain
  | none => toString code

end Theme

structure View where
  frame : Option StyledText
  parts : List StyledText
  deriving DecidableEq, Repr

namespace Fault

/-- The text with capital initials; `initial` says whether a word begins. -/
def capitalized (initial : Bool) : List Char → List Char
  | [] => []
  | c :: rest => (if initial then c.toUpper else c) :: capitalized (c == ' ') rest

/-- A part of the view in the style of its name; styles are left out of a colourless view. -/
def styled (f : Fault) (theme : Theme) (name : String) (content : Datum) : StyledText :=
  if !content.truthy then ⟨"", "", []⟩
  else if (f.option "colorful" (.truth true)).truthy then
    StyledText.ofText content.plain (theme.style name)
  else StyledText.ofText content.plain ""

def header (f : Fault) (theme : Theme) : StyledText :=
  let fixed (s : String) := StyledText.ofText s ""
  let title := String.ofList (capitalized true f.complaint.title.toList)
  StyledText.assemble [
    fixed "[ ", f.styled theme "prog-name" (theme.program.getD (.text f.command)),
    fixed " — ", f.styled theme "code" (.text (theme.codeText f.complaint.code)),
    fixed " | ", f.styled theme "error-title" (.text title), fixed " ]"]

def hintLine (f : Fault) (theme : Theme) : List StyledText :=
  let hint := f.option "hint" .absent
  if hint.truthy then
    [StyledText.assemble [f.styled theme "hint-arrow" (.text " → "), f.styled theme "hint" hint]]
  else []

def view (f : Fault) (theme : Theme) : View :=
  let body := f.styled theme "error-message" (.text f.complaint.message) :: f.hintLine theme
  if (f.option "fancy" (.truth false)).truthy then ⟨some (f.header theme), body⟩
  else ⟨none, f.header theme :: body⟩

end Fault

end UsageGrammar
