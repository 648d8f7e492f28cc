/-! Tables from names to values that keep the order in which the names came. -/

set_option autoImplicit false

namespace UsageGrammar

/-- Entries in the order in which their names were first put. -/
abbrev Table (α : Type) : Type := List (String × α)

namespace Table

variable {α : Type}

def value? (t : Table α) (name : String) : Option α :=
  List.lookup name t

def has (t : Table α) (name : String) : Bool :=
  (t.value? name).isSome

def names (t : Table α) : List String :=
  t.map (·.1)

def values (t : Table α) : List α :=
  t.map (·.2)

/-- Gives a name a value. A name that is there keeps its place; a new one goes to the end. -/
def put (t : Table α) (name : String) (value : α) : Table α :=
  match t with
  | [] => [(name, value)]
  | entry :: rest =>
    if entry.1 = name then (name, value) :: rest else entry :: Table.put rest name value

def putNew (t : Table α) (name : String) (value : α) : Table α :=
  if t.has name then t else t.put name value

def putAll (t other : Table α) : Table α :=
  other.foldl (fun t entry => t.put entry.1 entry.2) t

def same [BEq α] (a b : Table α) : Bool :=
  a.length == b.length && a.all fun entry => b.value? entry.1 == some entry.2

theorem value?_put_self (t : Table α) (name : String) (value : α) :
    (t.put name value).value? name = some value := by
  induction t with
  | nil => simp [put, value?]
  | cons entry rest ih =>
    obtain ⟨k, w⟩ := entry
    unfold put
    split
    · simp [value?]
    · rename_i h
      have h : (name == k) = false := beq_false_of_ne (Ne.symm h)
      simpa [value?, List.lookup_cons, h] using ih

theorem value?_put_of_ne (t : Table α) {name other : String} (h : other ≠ name) (value : α) :
    (t.put name value).value? other = t.value? other := by
  induction t with
  | nil => simp [put, value?, List.lookup_cons, beq_false_of_ne h]
  | cons entry rest ih =>
    obtain ⟨k, w⟩ := entry
    unfold put
    split
    · rename_i same
      simp [value?, List.lookup_cons, beq_false_of_ne h, show k = name from same]
    · simp only [value?, List.lookup_cons] at ih ⊢
      rw [ih]

end Table

end UsageGrammar
