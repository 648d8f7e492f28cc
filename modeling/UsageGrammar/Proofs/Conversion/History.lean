import UsageGrammar.Proofs.Conversion.StackRoom

/-! The registry over time. A name is answered with the converter that was last written under it, and
an alias writes the one that its type has at that moment. Names that nothing was written under are
answered as in the stock registry, but the texts of array types are not stored: they follow the type
of the elements. -/

set_option autoImplicit false

namespace UsageGrammar

namespace Registry

/-- What converters are defined under. -/
inductive Label where
  | text (s : String)
  | kind (k : Kind)
  deriving DecidableEq, Repr

def Label.datum : Label → Datum
  | .text s => .text s
  | .kind k => .kind k

inductive Request where
  | define (name : Label) (c : Converter)
  | defineAs (name : Label) (type : Datum)
  | lookup (type : Datum)

def serve (r : Registry) : Request → Except Failure Converter × Registry
  | .define name c =>
    match r.define name.datum c with
    | .ok next => (.ok c, next)
    | .error f => (.error f, r)
  | .defineAs name type =>
    match r.defineAs name.datum type with
    | .ok (c, next) => (.ok c, next)
    | .error f => (.error f, r)
  | .lookup type => (r.lookup type, r)

def run (r : Registry) : List Request → Registry
  | [] => r
  | request :: rest => run (r.serve request).2 rest

/-- The request gives the name a converter: its own, or the one that its type has now. -/
inductive Defines (r : Registry) : Request → Label → Converter → Prop where
  | function (name : Label) (c : Converter) : Defines r (.define name c) name c
  | ofType {name : Label} {type : Datum} {c : Converter} :
      r.lookup type = .ok c → Defines r (.defineAs name type) name c

theorem Label.datum_inj {name other : Label} : name.datum = other.datum ↔ name = other := by
  cases name <;> cases other <;> simp [Label.datum]

theorem Label.sameName_iff (d : Datum) (name : Label) : d.sameName name.datum = true ↔ d = name.datum := by
  cases d with
  | float x =>
    -- A number can be the same name as another number, but labels are none.
    cases name <;> cases whole : (Datum.float x).integer? <;>
      · simp only [Label.datum, Datum.sameName, whole]
        simp [Datum.integer?]
  | _ => cases name <;> simp [Label.datum, Datum.sameName, Datum.integer?]

theorem find?_cons (r : Registry) (name other : Label) (c : Converter) :
    find? ((name.datum, c) :: r) other.datum = if name = other then some c else r.find? other.datum := by
  rw [find?, List.find?_cons]
  by_cases same : name = other
  · simp [same, (Label.sameName_iff _ other).mpr rfl]
  · have different : ¬name.datum.sameName other.datum = true := by
      rw [Label.sameName_iff, Label.datum_inj]
      exact same
    simp [same, different, find?]

theorem mem_of_find? {r : Registry} {name : Label} {c : Converter} (found : r.find? name.datum = some c) :
    (name.datum, c) ∈ r := by
  obtain ⟨entry, listed, rfl⟩ := Option.map_eq_some_iff.mp found
  have named := List.find?_some listed
  rw [← (Label.sameName_iff entry.1 name).mp named]
  exact List.mem_of_find?_eq_some listed

def Request.name? : Request → Option Label
  | .define name _ => some name
  | .defineAs name _ => some name
  | .lookup _ => none

theorem Defines.name {r : Registry} {request : Request} {name : Label} {c : Converter}
    (defines : r.Defines request name c) : request.name? = some name := by
  cases defines <;> rfl

section Serve

variable {r : Registry} {request : Request}

end Serve

section Run

variable {name : Label} {r : Registry} {history : List Request}

end Run

/-- No stock converter has the text of an array type for its name. -/
theorem element?_of_stock {name : Label} {c : Converter} (found : stock.find? name.datum = some c) :
    element? name.datum = none := by
  have bare : ∀ entry ∈ stock, element? entry.1 = none := by decide
  exact bare _ (mem_of_find? found)

end Registry

end UsageGrammar
