import UsageGrammar.Calendar.Moment
import UsageGrammar.Decimal.Shortest
import UsageGrammar.Pattern.Search
import UsageGrammar.Table
import UsageGrammar.Text.Quoted

/-! Values of any kind: what conversions give, what types are asked for, and what faults and their
handlers carry. A value has a plain text and a quoted one, in which texts stand in quotes. -/

set_option autoImplicit false

namespace UsageGrammar

inductive Kind where
  | truth
  | integer
  | float
  | number
  | text
  | pattern
  | list
  | date
  | moment
  /-- A kind of an application; the number tells kinds of one name apart. -/
  | custom (name : String) (number : Nat)
  deriving DecidableEq, Repr

inductive Datum where
  | absent
  | truth (b : Bool)
  | integer (n : Int)
  | float (x : Float)
  | text (s : String)
  | list (items : List Datum)
  | tuple (items : List Datum)
  | record (entries : List (String × Datum))
  | kind (k : Kind)
  | date (d : Calendar.Date)
  | moment (m : Calendar.Moment)
  | pattern (e : Pattern.Expression)
  | found (f : Pattern.Found)
  deriving Repr, Inhabited

def Kind.quoted : Kind → String
  | .truth => "<class 'bool'>"
  | .integer => "<class 'int'>"
  | .float => "<class 'float'>"
  | .number => "<class 'numbers.Number'>"
  | .text => "<class 'str'>"
  | .pattern => "<class 're.Pattern'>"
  | .list => "<class 'list'>"
  | .date => "<class 'datetime.date'>"
  | .moment => "<class 'datetime.datetime'>"
  | .custom name _ => "<class '" ++ name ++ "'>"

namespace Pattern

def Modes.names (modes : Modes) : List String :=
  (if modes.ignoreCase then ["re.IGNORECASE"] else []) ++
    (if modes.multiline then ["re.MULTILINE"] else []) ++
    (if modes.dotAll then ["re.DOTALL"] else []) ++
    (if modes.verbose then ["re.VERBOSE"] else []) ++
    (if modes.ascii then ["re.ASCII"] else [])

/-- The expression as a quoted value; a long source is cut off. -/
def Expression.quoted (e : Expression) : String :=
  let source := String.ofList ((Text.quoted e.source).toList.take 200)
  let modes := "|".intercalate e.modes.names
  "re.compile(" ++ source ++ (if modes.isEmpty then "" else ", " ++ modes) ++ ")"

def Found.quoted (f : Found) : String :=
  let (first, last) := f.span
  let whole := String.ofList ((Text.quoted (f.slice f.span)).toList.take 50)
  "<re.Match object; span=(" ++ toString first ++ ", " ++ toString last ++ "), match=" ++ whole ++ ">"

end Pattern

namespace Calendar

def Date.quoted (d : Date) : String :=
  "datetime.date(" ++ ", ".intercalate ([d.year, d.month, d.day].map toString) ++ ")"

end Calendar

namespace Datum

def tupleText : List String → String
  | [item] => "(" ++ item ++ ",)"
  | items => "(" ++ ", ".intercalate items ++ ")"

mutual

def quoted : Datum → String
  | .absent => "None"
  | .truth b => if b then "True" else "False"
  | .integer n => toString n
  | .float x => Decimal.floatText x
  | .text s => Text.quoted s
  | .list items => "[" ++ ", ".intercalate (quotedItems items) ++ "]"
  | .tuple items => tupleText (quotedItems items)
  | .record entries => "\x7b" ++ ", ".intercalate (quotedEntries entries) ++ "\x7d"
  | .kind k => k.quoted
  | .date d => d.quoted
  | .moment m => m.text
  | .pattern e => e.quoted
  | .found f => f.quoted

def quotedItems : List Datum → List String
  | [] => []
  | d :: rest => d.quoted :: quotedItems rest

def quotedEntries : List (String × Datum) → List String
  | [] => []
  | (name, d) :: rest => (Text.quoted name ++ ": " ++ d.quoted) :: quotedEntries rest

end

def plain : Datum → String
  | .text s => s
  | .date d => d.text
  | d => d.quoted

def truthy : Datum → Bool
  | .absent => false
  | .truth b => b
  | .integer n => n != 0
  | .float x => x != 0
  | .text s => !s.isEmpty
  | .list items => !items.isEmpty
  | .tuple items => !items.isEmpty
  | .record entries => !entries.isEmpty
  | _ => true

mutual

/-- Can the value name something? Lists and records cannot. -/
def isName : Datum → Bool
  | .list _ => false
  | .record _ => false
  | .tuple items => areNames items
  | _ => true

def areNames : List Datum → Bool
  | [] => true
  | d :: rest => d.isName && areNames rest

end

def integer? : Datum → Option Int
  | .truth b => some (if b then 1 else 0)
  | .integer n => some n
  | .float x =>
    let whole := (Decimal.Binary.ofFloat x).truncate
    if x.isFinite && Float.ofNat whole == x.abs then some (if x < 0 then -(whole : Int) else whole)
    else none
  | _ => none

/-- Do two values name the same thing? Equal numbers do, whatever their kind. -/
def sameName : Datum → Datum → Bool
  | .absent, .absent => true
  | .text a, .text b => a == b
  | .kind a, .kind b => a == b
  | a, b =>
    match a.integer?, b.integer? with
    | some m, some n => m == n
    | none, none =>
      match a, b with
      | .float x, .float y => x == y
      | _, _ => false
    | _, _ => false

def texts? (items : List Datum) : Option (List String) :=
  items.mapM fun
    | .text s => some s
    | _ => none

end Datum

end UsageGrammar
