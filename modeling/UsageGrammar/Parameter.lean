import UsageGrammar.Failure

/-! Parameters of operations on anything: plain values, functions with labels, and a mark for what is
not given. A function can be labelled anew, unless its label is fixed. -/

set_option autoImplicit false

namespace UsageGrammar

inductive Parameter where
  | datum (d : Datum)
  | unset
  | function (label : String)
  | builtin
  deriving Repr

namespace Parameter

def unsetText : String := "Unset"

def truthy : Parameter → Bool
  | .datum d => d.truthy
  | .unset => false
  | .function _ => true
  | .builtin => true

def coalesce (p default : Parameter) : Parameter :=
  match p with
  | .unset => default
  | p => p

def refusal {α : Type} (message : String) : Except Failure α :=
  .error (.wrongKind (some message))

def isFunction : Parameter → Bool
  | .function _ => true
  | .builtin => true
  | _ => false

def relabel (f name : Parameter) : Except Failure Parameter :=
  if !f.isFunction then refusal "rename() first argument must be callable"
  else
    match name, f with
    | .datum (.text _), .builtin => refusal "rename() first argument must be a updatable callable"
    | .datum (.text label), _ => .ok (.function label)
    | _, _ => refusal "rename() second argument must be a string"

def label : Parameter → Except Failure String
  | .datum (.text name) => .ok name
  | _ => refusal "@rename() argument must be a string"

def rename : List Parameter → Except Failure Parameter
  | [f, name] => relabel f name
  | [name] => do
    let _ ← label name
    return .function "rename"
  | ps => refusal ("rename takes 1 to 2 arguments but " ++ toString ps.length ++ " were given")

def labelFunction (name : String) : List Parameter → Except Failure Parameter
  | [f] =>
    if f.isFunction then relabel f (.datum (.text name))
    else refusal "@rename() must be applied to a callable"
  | [] => refusal "rename() missing 1 required positional argument: 'callable'"
  | ps => refusal ("rename() takes 1 positional argument but " ++ toString ps.length ++ " were given")

end Parameter

inductive SealedType where
  | unset
  | conversion
  deriving DecidableEq, Repr

def SealedType.name : SealedType → String
  | .unset => "UnsetType"
  | .conversion => "Conversion"

def SealedType.extensionRefusal (t : SealedType) : Failure :=
  .wrongKind (some ("type '" ++ t.name ++ "' is not an acceptable base type"))

end UsageGrammar
