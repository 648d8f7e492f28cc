import UsageGrammar.Draft
import UsageGrammar.HelpLine
import UsageGrammar.Text.Blank

/-! Reading of the commands that a help text declares. Separators divide the text into paragraphs. A
usage line opens a command, which flags and help lines belong to until the next usage line or
separator; prose in front of the first usage line of a paragraph belongs to that command. -/

set_option autoImplicit false

namespace UsageGrammar

inductive Paragraph where
  | prose (lines : List String)
  | command (draft : Draft)
  deriving DecidableEq, Repr

structure Reading where
  closed : List Draft
  current : Paragraph
  deriving DecidableEq, Repr

namespace Reading

def start : Reading := ⟨[], .prose []⟩

def drafts (r : Reading) : List Draft :=
  match r.current with
  | .prose _ => r.closed
  | .command d => r.closed ++ [d]

/-- Help lines that a command takes over from in front of its usage line. -/
def heading (r : Reading) : List String :=
  match r.current with
  | .prose lines => lines
  | .command _ => []

def addHelp (r : Reading) (text : String) : Reading :=
  match r.current with
  | .prose lines => { r with current := .prose (lines ++ [text]) }
  | .command d => { r with current := .command (d.addHelp text) }

def step (r : Reading) (n : Nat) (text : String) : Except DefinitionError Reading :=
  let place : Option Int := some n
  match HelpLine.read text with
  | .separator => .ok ⟨r.drafts, .prose []⟩
  | .usage words remainder =>
    if r.drafts.any (·.fullName == joinWords words) then
      .error ⟨.duplicateCommand (joinWords words), place⟩
    else do
      let d ← Draft.declareSlots ⟨words, r.heading, place, [], []⟩ place (Slot.scan remainder)
      return ⟨r.drafts, .command (d.addHelp text)⟩
  | .flags names target =>
    match r.current with
    | .prose _ => .error ⟨.usageLineMissing, place⟩
    | .command d =>
      match d.declareFlags names target place with
      | ⟨_, some e⟩ => .error e
      | ⟨d, none⟩ => .ok { r with current := .command (d.addHelp text) }
  | .prose => .ok (r.addHelp text)

def run (r : Reading) (n : Nat) : List String → Except DefinitionError Reading
  | [] => .ok r
  | text :: rest => do (← r.step n text).run (n + 1) rest

end Reading

def buildLines (lines : List String) : Except DefinitionError (List Command) :=
  (Reading.start.run 1 lines).map fun r => r.drafts.map Draft.toCommand

def build (text : String) : Except DefinitionError (List Command) :=
  buildLines (Text.lines text)

end UsageGrammar
