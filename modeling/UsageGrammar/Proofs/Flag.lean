import UsageGrammar.Proofs.Text.Characters

/-! Names of flags. The reader of a name takes the longest run that is one, so a name is read back
from any text that goes on with another kind of character. -/

set_option autoImplicit false

namespace UsageGrammar.Flag

open Text

/-- A letter or digit, followed by letters, digits and hyphens. -/
def isName : List Char → Bool
  | [] => false
  | c :: rest => isAlphanumeric c && rest.all isPart

theorem isPart_of_isAlphanumeric {c : Char} (alphanumeric : isAlphanumeric c = true) :
    isPart c = true := by
  simp [isPart, alphanumeric]

theorem isNamePart_of_isPart {c : Char} (part : isPart c = true) : isNamePart c = true := by
  simp only [isPart, Bool.or_eq_true] at part
  rcases part with alphanumeric | hyphen
  · exact isNamePart_of_isWord (isWord_of_isAlphanumeric alphanumeric)
  · simp [isNamePart, hyphen]

theorem ne_hyphen_of_isAlphanumeric {c : Char} (alphanumeric : isAlphanumeric c = true) : c ≠ '-' := by
  rintro rfl
  exact absurd alphanumeric (by decide)

theorem exists_of_isName {name : List Char} (named : isName name = true) :
    ∃ c rest, name = c :: rest ∧ isAlphanumeric c = true ∧ ∀ d ∈ rest, isPart d = true := by
  cases name with
  | nil => cases named
  | cons c rest =>
    simp only [isName, Bool.and_eq_true, List.all_eq_true] at named
    exact ⟨c, rest, rfl, named.1, named.2⟩

theorem isPart_of_isName {name : List Char} (named : isName name = true) :
    ∀ d ∈ name, isPart d = true := by
  obtain ⟨c, rest, rfl, first, others⟩ := exists_of_isName named
  intro d member
  rcases List.mem_cons.mp member with rfl | member
  · exact isPart_of_isAlphanumeric first
  · exact others d member

theorem isName_singleton {c : Char} (alphanumeric : isAlphanumeric c = true) : isName [c] = true := by
  simp [isName, alphanumeric]

theorem takeName_append {name : List Char} (named : isName name = true) (rest : List Char)
    (stops : ∀ d ∈ rest.head?, isPart d = false) : takeName (name ++ rest) = some (name, rest) := by
  obtain ⟨c, parts, rfl, first, others⟩ := exists_of_isName named
  simp only [List.cons_append, takeName, if_pos first, List.takeWhile_append_of_pos others,
    List.dropWhile_append_of_pos others]
  cases rest with
  | nil => simp
  | cons d rest =>
    have outside : ¬isPart d = true := by simp [stops d (by simp)]
    simp [List.takeWhile_cons_of_neg outside, List.dropWhile_cons_of_neg outside]

theorem takeName_eq_some {s name rest : List Char} (taken : takeName s = some (name, rest)) :
    s = name ++ rest ∧ isName name = true ∧ ∀ d ∈ rest.head?, isPart d = false := by
  cases s with
  | nil => cases taken
  | cons c s =>
    simp only [takeName] at taken
    split at taken
    · next first =>
      cases taken
      refine ⟨by simp, by simp [isName, first], ?_⟩
      intro d found
      have stopped := List.head?_dropWhile_not isPart s
      rw [Option.mem_def.mp found] at stopped
      simpa using stopped
    · cases taken

end UsageGrammar.Flag
