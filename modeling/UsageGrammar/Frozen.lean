import UsageGrammar.Parameter

/-! Read-only views of values: lists become tuples, records read-only tables, sets frozen sets. -/

set_option autoImplicit false

namespace UsageGrammar

inductive Container where
  | set
  | list
  | tuple
  deriving DecidableEq, Repr

inductive Holding where
  | datum (d : Datum)
  | set (items : List Datum)
  deriving Repr

def Datum.items? : Datum → Option (List Datum)
  | .text s => some (s.toList.map fun c => .text (String.singleton c))
  | .list items => some items
  | .tuple items => some items
  | .record entries => some (entries.map fun (name, _) => .text name)
  | _ => none

def Datum.distinct : List Datum → List Datum
  | [] => []
  | d :: rest => d :: (Datum.distinct rest).filter fun other => !d.sameName other

def Datum.sorted (items : List Datum) : Except Failure (List Datum) :=
  match Datum.texts? items with
  | some texts => .ok ((texts.mergeSort fun a b => !decide (b < a)).map .text)
  | none =>
    match items.mapM Datum.integer? with
    | some numbers => .ok ((numbers.mergeSort fun a b => a ≤ b).map .integer)
    | none => .error (.wrongKind none)

def Container.hold (c : Container) (d : Datum) : Except Failure Holding :=
  match d.items? with
  | none => .error (.wrongKind none)
  | some items =>
    match c with
    | .list => .ok (.datum (.list items))
    | .tuple => .ok (.datum (.tuple items))
    | .set =>
      if items.all (·.isName) then (Datum.sorted (Datum.distinct items)).map .set
      else .error (.wrongKind none)

def Holding.view : Holding → String × Datum
  | .set items => ("frozenset", .tuple items)
  | .datum (.list items) => ("tuple", .tuple items)
  | .datum (.tuple items) => ("tuple", .tuple items)
  | .datum (.record entries) => ("mappingproxy", .record entries)
  | .datum .absent => ("NoneType", .absent)
  | .datum (.truth b) => ("bool", .truth b)
  | .datum (.integer n) => ("int", .integer n)
  | .datum (.float x) => ("float", .float x)
  | .datum (.text s) => ("str", .text s)
  | .datum (.kind k) => ("type", .kind k)
  | .datum (.date d) => ("date", .date d)
  | .datum (.moment m) => ("datetime", .moment m)
  | .datum (.pattern e) => ("Pattern", .pattern e)
  | .datum (.found f) => ("Match", .found f)

def viewFieldType : List Parameter → Except Failure String
  | [.datum (.text _)] => .ok "property"
  | [_] => Parameter.refusal "mirror() argument must be a string"
  | [] => Parameter.refusal "mirror() missing 1 required positional argument: 'name'"
  | ps =>
    Parameter.refusal
      ("mirror() takes 1 positional argument but " ++ toString ps.length ++ " were given")

end UsageGrammar
