import UsageGrammar.Conversion.ByteCount
import UsageGrammar.Conversion.FileName
import UsageGrammar.Conversion.Items
import UsageGrammar.Conversion.Number
import UsageGrammar.Conversion.Point
import UsageGrammar.Pattern.Reader
import UsageGrammar.Text.Case

/-! Converters: the stock ones, choices, patterns, arrays, and those that an application defines. -/

set_option autoImplicit false

namespace UsageGrammar

inductive Stock where
  | integer
  | floatNumber
  | number
  | positive
  | negative
  | floatPositive
  | floatNegative
  | byte
  | string
  | upcase
  | downcase
  | capitalize
  | regexp
  | array
  | fileName
  | file
  | directory
  | fileContent
  | date
  | time
  deriving DecidableEq, Repr

def Stock.name : Stock → String
  | .integer => "integer"
  | .floatNumber => "float_number"
  | .number => "number"
  | .positive => "positive"
  | .negative => "negative"
  | .floatPositive => "float_positive"
  | .floatNegative => "float_negative"
  | .byte => "byte"
  | .string => "string"
  | .upcase => "upcase"
  | .downcase => "downcase"
  | .capitalize => "capitalize"
  | .regexp => "regexp"
  | .array => "array"
  | .fileName => "file_name"
  | .file => "file"
  | .directory => "directory"
  | .fileContent => "file_content"
  | .date => "date"
  | .time => "time"

inductive Converter where
  | stock (s : Stock)
  | oneOf (choices : List String)
  | matcher (e : Pattern.Expression)
  | arrayOf (c : Converter)
  | custom (name : String) (convert : Given → List Datum → Table Datum → Attempt Datum)

def Converter.name : Converter → String
  | .stock s => s.name
  | .oneOf _ => "one_of"
  | .matcher _ => "matcher"
  | .arrayOf _ => "array_of"
  | .custom name _ => name

def nonempty (s : String) : Attempt String :=
  if s.isEmpty then refuse "argument can not be empty" else .ok s

/-- How reading a pattern fails when the cause is another one than its form. -/
def Pattern.SyntaxError.failure? (e : Pattern.SyntaxError) (source : String) : Option Failure :=
  match e.reason with
  | .repeatTooLarge => some (.overflow (e.message source))
  | .numeralTooLong _ | .conflictingModes => some (.invalid (e.message source))
  | .nestedTooDeep => some .tooDeep
  | _ => none

def readPattern (s : String) : Attempt Datum := do
  let s ← nonempty s
  let source :=
    match s.toList with
    | '/' :: rest => if rest.getLast? = some '/' then String.ofList rest.dropLast else s
    | _ => s
  match Pattern.read source {} with
  | .ok e => return .pattern e
  | .error e =>
    match e.failure? source with
    | some failure => fail failure
    | none => refuse ("invalid regular expression; " ++ e.message source)

/-- The date that completes dates which are written in part: that of the option `reference`, or the
current one. -/
def referenceDate (today : Calendar.Date) (options : Table Datum) : Attempt Calendar.Date :=
  match (options.value? "reference").getD .absent with
  | .absent => .ok today
  | .date d => .ok d
  | .moment m => .ok m.date
  | _ => fail .unsupported

namespace Stock

def ofText (c : Stock) (s : String) (args : List Datum) (options : Table Datum) :
    Conversion Datum := do
  let here ← get
  match c with
  | .integer => Number.ofInteger s args
  | .floatNumber => Number.ofFloat s args
  | .number => Number.ofNumber s args
  | .positive => Number.ofNumber s [.text "positive"]
  | .negative => Number.ofNumber s [.text "negative"]
  | .floatPositive => Number.ofFloat s [.text "positive"]
  | .floatNegative => Number.ofFloat s [.text "negative"]
  | .byte => Datum.integer <$> Number.ofByteCount s
  | .string => Datum.text <$> nonempty s
  | .upcase => (Datum.text ∘ Text.upper) <$> nonempty s
  | .downcase => (Datum.text ∘ Text.lower) <$> nonempty s
  | .capitalize => (Datum.text ∘ Text.capitalize) <$> nonempty s
  | .regexp => readPattern s
  | .array => (Datum.list ∘ List.map Datum.text) <$> Items.read s
  | .fileName => Datum.text <$> FileName.read here s options
  | .file => Datum.text <$> FileName.readFile here s args options
  | .directory => Datum.text <$> FileName.readFolder here s args options
  | .fileContent => Datum.text <$> FileName.content s args options
  | .date => do
    let reference ← referenceDate here.today options
    Datum.date <$> Point.readDate reference s
  | .time => do
    let reference ← referenceDate here.today options
    Datum.moment <$> Point.readMoment reference s

def ofFlag (c : Stock) (on : Bool) : Attempt Datum :=
  match c with
  | .string => if on then .ok (.truth true) else refuse "argument can not be empty"
  | .upcase | .downcase | .capitalize =>
    if on then fail .unsupported else refuse "argument can not be empty"
  | .regexp | .fileName | .file | .directory | .fileContent =>
    if on then fail (.wrongKind none) else refuse "argument can not be empty"
  | .array | .date | .time => fail .unsupported
  | _ => fail (.wrongKind none)

end Stock

namespace Converter

def oneOfReason (choices : List String) : String :=
  "argument must be one of " ++ ", ".intercalate (choices.map fun c => "`" ++ c ++ "`")

/-- The text, or the match itself when the arguments ask for it. -/
def findPattern (e : Pattern.Expression) (s : String) (args : List Datum) : Attempt Datum :=
  match e.search s with
  | some found => .ok (if args.any (·.sameName (.text "match")) then .found found else .text s)
  | none => refuse ("argument must match " ++ e.source)

def applyWithin (args : List Datum) (options : Table Datum) :
    Nat → Converter → Given → Conversion Datum
  | _, .stock c, .text s => c.ofText s args options
  | _, .stock c, .flag on => c.ofFlag on
  | _, .oneOf choices, .text s =>
    if choices.contains s then return .text s else throw (.refused (oneOfReason choices))
  | _, .oneOf choices, .flag _ => throw (.refused (oneOfReason choices))
  | _, .matcher e, .text s => findPattern e s args
  | _, .matcher _, .flag _ => throw (.failed (.wrongKind none))
  | room, .arrayOf c, .text s => do
    let items ← Items.read s
    -- A level of arrays takes two calls, and what converts the items takes at least two more.
    if room < 4 then throw (.failed .tooDeep)
    else return .list (← items.mapM fun item => applyWithin args options (room - 2) c (.text item))
  | _, .arrayOf _, .flag _ => throw (.failed .unsupported)
  | _, .custom _ convert, given => convert given args options

def apply (args : List Datum) (options : Table Datum) (c : Converter) (given : Given) :
    Conversion Datum :=
  c.applyWithin args options stackRoom given

end Converter

end UsageGrammar
