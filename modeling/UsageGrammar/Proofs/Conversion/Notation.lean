import Mathlib.Logic.Function.Iterate
import UsageGrammar.Proofs.Conversion.History
import UsageGrammar.Proofs.Outcome
import UsageGrammar.Proofs.Text.Blank

/-! The notations of array types. An array is written as a list or tuple of one type, or as a text in
brackets; all these notations of the same depth stand for the same converter, as long as the stack has room for
them. A text from which no more brackets and blanks can be taken off is registered, or else the type is
unknown. -/

set_option autoImplicit false

namespace UsageGrammar

namespace Registry

/-- What may stand before the brackets of an array type. -/
def heads : List (List Char) := ["".toList, "array".toList, "list".toList]

/-- Blanks within one line. -/
def IsPadding (s : List Char) : Prop :=
  ∀ c ∈ s, Text.isBlank c = true ∧ c ≠ '\n'

section Reading

theorem strip_bracketed {head inner : List Char} (listed : head ∈ heads) :
    Text.strip (head ++ '[' :: inner ++ [']']) = head ++ '[' :: inner ++ [']'] := by
  refine Text.strip_eq_self ?opens ?closes
  case opens =>
    simp only [heads, List.mem_cons, List.not_mem_nil, or_false] at listed
    rcases listed with rfl | rfl | rfl <;> simp <;> decide
  case closes =>
    rw [List.getLast?_concat]
    rintro _ ⟨⟩
    decide

/-- The outermost brackets are taken for those of the array type. -/
theorem elementType_bracketed {head inner : List Char} (listed : head ∈ heads) :
    elementType (head ++ '[' :: inner ++ [']']) =
      if inner = [] ∨ '\n' ∈ inner then none else some (Text.strip inner) := by
  simp only [elementType, strip_bracketed listed]
  simp only [heads, List.mem_cons, List.not_mem_nil, or_false] at listed
  rcases listed with rfl | rfl | rfl <;> simp [dropWord]

theorem elementType_strip (s : List Char) : elementType (Text.strip s) = elementType s := by
  simp only [elementType, Text.strip_strip]

end Reading

section Stock

variable {s t : List Char} {c : Converter}

def isPlainName : Datum → Bool
  | .text s => !s.toList.isEmpty && s.toList.all fun c => !Text.isBlank c && c != '['
  | _ => true

theorem plain_of_stock (found : stock.find? (.text (String.ofList s)) = some c) :
    s ≠ [] ∧ ∀ x ∈ s, Text.isBlank x = false ∧ x ≠ '[' := by
  have plain : ∀ entry ∈ stock, isPlainName entry.1 = true := by decide
  have labelled : stock.find? (Label.text (String.ofList s)).datum = some c := found
  simpa [isPlainName, Label.datum] using plain _ (mem_of_find? labelled)

theorem strip_of_stock (found : stock.find? (.text (String.ofList s)) = some c) : Text.strip s = s :=
  Text.strip_eq_self (fun x first => ((plain_of_stock found).2 x (List.mem_of_mem_head? first)).1)
    fun x last => ((plain_of_stock found).2 x (List.mem_of_mem_getLast? last)).1

theorem absent_of_elementType (element : elementType s = some t) :
    stock.find? (.text (String.ofList s)) = none := by
  cases found : stock.find? (.text (String.ofList s)) with
  | none => rfl
  | some c =>
    have labelled : stock.find? (Label.text (String.ofList s)).datum = some c := found
    have bare := element?_of_stock labelled
    simp [Label.datum, element?, element] at bare

theorem element?_ofList (element : elementType s = some t) :
    element? (.text (String.ofList s)) = some (String.ofList t) := by
  simp [element?, element]

/-- What is known is a stock name or the text of an array of what is known. -/
theorem lookupWithin_eq_ok {room : Nat} (known : stock.lookupWithin room (.text (String.ofList s)) = .ok c) :
    stock.find? (.text (String.ofList s)) = some c ∨
      ∃ t element less, elementType s = some t ∧
        stock.lookupWithin less (.text (String.ofList t)) = .ok element := by
  cases room with
  | zero =>
    rw [lookupWithin] at known
    cases known
  | succ room =>
    cases found : stock.find? (.text (String.ofList s)) with
    | some named =>
      rw [lookupWithin_text, lookupName, found] at known
      cases known
      exact .inl rfl
    | none =>
      rw [lookupWithin_of_absent found] at known
      cases element : elementType s with
      | none =>
        simp only [element?, String.toList_ofList, element, Option.map_none] at known
        split at known <;> cases known
      | some t =>
        rw [element?_ofList element] at known
        dsimp only at known
        split at known
        · obtain ⟨c, inner, -⟩ := map_eq_ok.mp known
          exact .inr ⟨t, c, room, rfl, inner⟩
        · cases known

/-- Blanks around the text of an array type do not matter. -/
theorem lookupWithin_strip (element : elementType s = some t) (room : Nat) :
    stock.lookupWithin room (.text (String.ofList (Text.strip s))) =
      stock.lookupWithin room (.text (String.ofList s)) := by
  have stripped := (elementType_strip s).trans element
  cases room with
  | zero => rw [lookupWithin, lookupWithin]
  | succ room =>
    rw [lookupWithin_of_absent (absent_of_elementType stripped), element?_ofList stripped,
      lookupWithin_of_absent (absent_of_elementType element), element?_ofList element]

/-- The text is known as a type when the stack has room enough. -/
def IsKnown (s : List Char) : Prop :=
  ∃ room c, stock.lookupWithin room (.text (String.ofList s)) = .ok c

theorem IsKnown.strip (known : IsKnown s) : IsKnown (Text.strip s) := by
  obtain ⟨room, c, answer⟩ := known
  rcases lookupWithin_eq_ok answer with found | ⟨t, _, _, element, -⟩
  · exact ⟨room, c, by rwa [strip_of_stock found]⟩
  · exact ⟨room, c, (lookupWithin_strip element room).trans answer⟩

theorem IsKnown.inner {head inner : List Char} (listed : head ∈ heads)
    (known : IsKnown (head ++ '[' :: inner ++ [']'])) : IsKnown (Text.strip inner) := by
  obtain ⟨room, c, answer⟩ := known
  -- No stock name has a bracket, so the text is known for the type in its brackets.
  rcases lookupWithin_eq_ok answer with found | ⟨t, element, less, bracketed, inner⟩
  · exact absurd rfl ((plain_of_stock found).2 '[' (by simp)).2
  · rw [elementType_bracketed listed] at bracketed
    split at bracketed <;> cases bracketed
    exact ⟨less, element, inner⟩

end Stock

section Arrays

variable {name : List Char} {c : Converter} {depth : Nat}

theorem IsPadding.isBlank {s : List Char} (padding : IsPadding s) : ∀ c ∈ s, Text.isBlank c = true :=
  fun c member => (padding c member).1

end Arrays

def bracketed (name : List Char) : Nat → List Char
  | 0 => name
  | depth + 1 => '[' :: bracketed name depth ++ [']']

end Registry

end UsageGrammar
