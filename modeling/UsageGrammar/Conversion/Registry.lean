import UsageGrammar.Conversion.Converter

/-! The registry of converters. A type is a registered name; a pattern; a list or tuple of one type,
which stands for an array of it; a list or tuple of other length, which stands for a choice; or the
text of an array type, with the name of another type in brackets. -/

set_option autoImplicit false

namespace UsageGrammar

/-- Converters under their names, the last definition of a name first. -/
abbrev Registry : Type := List (Datum × Converter)

namespace Registry

def find? (r : Registry) (name : Datum) : Option Converter :=
  (List.find? (fun entry => entry.1.sameName name) r).map (·.2)

def dropWord : List Char → List Char → Option (List Char)
  | [], s => some s
  | _ :: _, [] => none
  | w :: word, c :: s => if c = w then dropWord word s else none

def elementType (s : List Char) : Option (List Char) :=
  let body := Text.strip s
  let bracketed := ((dropWord "array".toList body).or (dropWord "list".toList body)).getD body
  match bracketed with
  | '[' :: rest =>
    match rest.reverse with
    | ']' :: inner =>
      -- The text in brackets is searched for by a pattern that does not go beyond a line.
      if inner.isEmpty || inner.contains '\n' then none else some (Text.strip inner.reverse)
    | _ => none
  | _ => none

def unknown (type : Datum) : Failure :=
  .invalid ("unknown conversion type - " ++ type.quoted)

def element? : Datum → Option String
  | .text s => (elementType s.toList).map String.ofList
  | _ => none

def makingCalls : Nat := 3

def matchingCalls : Nat := 4

def made (room : Nat) (c : Converter) : Except Failure Converter :=
  if room < makingCalls then .error .tooDeep else .ok c

/-- The converter for a list of types: an array of the only one, or else a choice of their texts. -/
def lookupList (room : Nat) (inner : Datum → Except Failure Converter) :
    List Datum → Except Failure Converter
  | [type] => do made room (.arrayOf (← inner type))
  | choices => made room (.oneOf (choices.map fun d => Text.trim d.plain))

def lookupName (r : Registry) (room : Nat) (inner : Datum → Except Failure Converter) (name : Datum) :
    Except Failure Converter :=
  match r.find? name with
  | some c => .ok c
  | none =>
    match name with
    | .text _ =>
      if room < matchingCalls then .error .tooDeep
      else
        match element? name with
        | some element => do made room (.arrayOf (← inner (.text element)))
        | none => .error (unknown name)
    | _ => .error (unknown name)

/-- The converter for a type, found with so much room on the stack. Each level of lists or brackets takes one
call, and there must be room left for the calls that match a text or make a converter. -/
def lookupWithin (r : Registry) : Nat → Datum → Except Failure Converter
  | 0, _ => .error .tooDeep
  | room + 1, .pattern e => made room (.matcher e)
  | room + 1, .list types => lookupList room (r.lookupWithin room) types
  | room + 1, .tuple types => lookupList room (r.lookupWithin room) types
  | room + 1, type =>
    if type.isName then r.lookupName room (r.lookupWithin room) type else .error (.wrongKind none)

def lookup (r : Registry) (type : Datum) : Except Failure Converter :=
  r.lookupWithin stackRoom type

def define (r : Registry) (name : Datum) (c : Converter) : Except Failure Registry :=
  if name.isName then .ok ((name, c) :: r) else .error (.wrongKind none)

def defineAs (r : Registry) (name type : Datum) : Except Failure (Converter × Registry) := do
  let c ← r.lookup type
  return (c, ← r.define name c)

def stock : Registry := [
  (.text "integer", .stock .integer),
  (.text "float", .stock .floatNumber),
  (.text "number", .stock .number),
  (.text "positive", .stock .positive),
  (.text "negative", .stock .negative),
  (.text "float_positive", .stock .floatPositive),
  (.text "float_negative", .stock .floatNegative),
  (.text "byte", .stock .byte),
  (.text "string", .stock .string),
  (.text "upcase", .stock .upcase),
  (.text "downcase", .stock .downcase),
  (.text "capitalize", .stock .capitalize),
  (.text "regexp", .stock .regexp),
  (.text "array", .stock .array),
  (.text "file_name", .stock .fileName),
  (.text "file", .stock .file),
  (.text "directory", .stock .directory),
  (.text "file_content", .stock .fileContent),
  (.text "date", .stock .date),
  (.text "time", .stock .time),
  (.text "int", .stock .integer),
  (.kind .integer, .stock .integer),
  (.kind .float, .stock .floatNumber),
  (.kind .number, .stock .number),
  (.text "str", .stock .string),
  (.kind .text, .stock .string),
  (.text "regex", .stock .regexp),
  (.kind .pattern, .stock .regexp),
  (.text "list", .stock .array),
  (.kind .list, .stock .array),
  (.text "dir", .stock .directory),
  (.kind .date, .stock .date),
  (.kind .moment, .stock .time)]

end Registry

end UsageGrammar
