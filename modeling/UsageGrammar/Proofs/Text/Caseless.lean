import Mathlib.Data.List.Nodup
import UsageGrammar.Text.Character

/-! Words in lower case letters in front of a text, whatever its case, and the places of words and letters
in a list of them. -/

set_option autoImplicit false

namespace UsageGrammar.Text

variable {word s rest : List Char}

theorem dropCaseless_eq_some_iff :
    dropCaseless word s = some rest ↔ ∃ front, front.map caseless = word ∧ s = front ++ rest := by
  induction word generalizing s with
  | nil => simp [dropCaseless]
  | cons w word ih =>
    cases s with
    | nil =>
      refine iff_of_false nofun ?_
      rintro ⟨front, opened, parts⟩
      obtain ⟨rfl, rfl⟩ := List.nil_eq_append_iff.mp parts
      cases opened
    | cons c s =>
      rw [dropCaseless]
      split
      · next same =>
        rw [ih]
        constructor
        · rintro ⟨front, rfl, rfl⟩
          exact ⟨c :: front, by rw [List.map_cons, same], rfl⟩
        · rintro ⟨front, opened, parts⟩
          obtain ⟨d, front, rfl, -, rfl⟩ := List.map_eq_cons_iff.mp opened
          obtain ⟨-, rfl⟩ := List.cons.inj parts
          exact ⟨front, rfl, rfl⟩
      · next other =>
        refine iff_of_false nofun ?_
        rintro ⟨front, opened, parts⟩
        obtain ⟨d, front, rfl, same, -⟩ := List.map_eq_cons_iff.mp opened
        obtain ⟨rfl, -⟩ := List.cons.inj parts
        exact other same

theorem dropCaseless_append (name rest : List Char) :
    dropCaseless (name.map caseless) (name ++ rest) = some rest :=
  dropCaseless_eq_some_iff.mpr ⟨name, rfl, rfl⟩

theorem dropCaseless_of_ne {w c : Char} (other : caseless c ≠ w) :
    dropCaseless (w :: word) (c :: rest) = none := by
  rw [dropCaseless, if_neg other]

/-- A word from a list of words in lower case letters, in any case, is made of letters. -/
theorem isCaselessLetter_of_mem {words : List String}
    (lower : words.all (fun word => word.toList.all fun c => 'a' ≤ c && c ≤ 'z') = true)
    (listed : s.map caseless ∈ words.map String.toList) : ∀ c ∈ s, isCaselessLetter c = true := by
  intro c member
  obtain ⟨word, listed, same⟩ := List.mem_map.mp listed
  have letters := List.all_eq_true.mp lower word listed
  rw [same] at letters
  exact List.all_eq_true.mp letters (caseless c) (List.mem_map_of_mem member)

theorem idxOf?_eq_some_iff_getElem? {α : Type} [BEq α] [LawfulBEq α] {items : List α} {a : α} {i : Nat}
    (distinct : items.Nodup) : items.idxOf? a = some i ↔ items[i]? = some a := by
  rw [List.idxOf?_eq_some_iff, List.getElem?_eq_some_iff]
  refine exists_congr fun bound => and_iff_left_of_imp fun same other before equal => ?_
  exact Nat.ne_of_lt before (distinct.getElem_inj_iff.mp (equal.trans same.symm))

end UsageGrammar.Text
