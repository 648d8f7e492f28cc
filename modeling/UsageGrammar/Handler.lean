import UsageGrammar.Failure

/-! Handlers of faults. Without one a fault is raised to the caller; the console handler shows the
fault and ends the program; any other handler gives a value in place of the result. -/

set_option autoImplicit false

namespace UsageGrammar

structure Console where
  fancy : Datum := .truth false
  colorful : Datum := .truth true
  status : Datum := .integer 1
  deriving Repr

namespace Console

def standard : Console := {}

def set? (c : Console) (name : String) (value : Datum) : Option Console :=
  if name = "fancy" then some { c with fancy := value }
  else if name = "colorful" then some { c with colorful := value }
  else if name = "status" then some { c with status := value }
  else none

/-- A status is an integer, or a truth value, that counts as true. -/
def isStatus : Datum → Bool
  | .truth b => b
  | .integer n => n != 0
  | _ => false

def ofSettings (settings : Table Datum) : Except Failure Console :=
  match settings.foldlM (fun c setting => set? c setting.1 setting.2) standard with
  | none => .error (.wrongKind none)
  | some c =>
    if isStatus c.status then .ok c else .error (.invalid "exit status must be a non-zero integer")

def text (c : Console) : String :=
  "console-handler(fancy=" ++ c.fancy.quoted ++ ", colorful=" ++ c.colorful.quoted ++
    ", status=" ++ c.status.quoted ++ ")"

def shown (c : Console) (f : Fault) : Fault :=
  f.withOptions [("fancy", c.fancy), ("colorful", c.colorful)]

end Console

inductive Handler where
  | raise
  | console (c : Console)
  | custom (handle : Fault → Datum)

namespace Handler

def standard : Handler := .console .standard

def ofDatum : Datum → Except Failure Handler
  | .absent => .ok .raise
  | _ => .error (.wrongKind (some "on_error() argument must be callable or None"))

def handle (h : Handler) (f : Fault) : Except Failure Datum :=
  match h with
  | .raise => .error (.fault f)
  | .console c => .error (.stopped (c.shown f) c.status)
  | .custom handle => .ok (handle f)

def trigger (h : Handler) (given : Option Fault) (options : Table Datum) : Except Failure Datum :=
  match given with
  | some f => h.handle (f.withOptions options)
  | none =>
    .error (.wrongKind (some "trigger() argument must have a __trigger__ and __replace__ methods"))

end Handler

/-- What an operation gives: its result, or the value that a handler gave for a fault of it. -/
inductive Answer (α : Type) where
  | result (a : α)
  | handled (d : Datum)
  deriving Repr

def Handler.settle {α : Type} (h : Handler) : Except Fault α → Except Failure (Answer α)
  | .ok a => .ok (.result a)
  | .error f => (h.handle f).map .handled

end UsageGrammar
