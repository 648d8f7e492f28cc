import UsageGrammar.Command
import UsageGrammar.Proofs.Text.Characters

/-! Slots of a usage line. The slots that are read have names of the dialect, and slots that are written
one after the other, set apart by blanks, are read back in order. -/

set_option autoImplicit false

namespace UsageGrammar.Slot

open Text

/-- Word characters and hyphens, and at least one. -/
def isName (name : List Char) : Bool :=
  !name.isEmpty && name.all isNamePart

theorem isNamePart_of_isName {name : List Char} (named : isName name = true) :
    ∀ c ∈ name, isNamePart c = true := by
  simp only [isName, Bool.and_eq_true, List.all_eq_true] at named
  exact named.2

theorem mem_usage {slot : Slot} {c : Char} (member : c ∈ slot.usage.toList) :
    c ∈ slot.name.toList ∨ c ∈ "<>[].".toList := by
  obtain ⟨name, required, variadic⟩ := slot
  cases required <;> cases variadic <;> simp [usage] at member ⊢ <;> grind

theorem isName_of_takeBody {s rest : List Char} {name : String} {variadic : Bool}
    (taken : takeBody s = some (name, variadic, rest)) : isName name.toList = true := by
  unfold takeBody at taken
  extract_lets chars at taken
  have parts : chars.all isNamePart = true := List.all_takeWhile
  split at taken
  · cases taken
  · next nonempty =>
    have named : isName chars = true := by simp_all [isName]
    split at taken
    · cases taken; simpa using named
    · cases taken; simpa using named
    · cases taken

theorem isName_of_take {s rest : List Char} {slot : Slot} (taken : take s = some (slot, rest)) :
    isName slot.name.toList = true := by
  unfold take at taken
  split at taken
  · split at taken
    · next body => cases taken; exact isName_of_takeBody body
    · cases taken
  · obtain ⟨⟨name, variadic, after⟩, body, same⟩ := Option.map_eq_some_iff.mp taken
    cases same
    exact isName_of_takeBody body
  · cases taken

theorem isName_of_mem_scanFrom {skip : Nat} {s : List Char} :
    ∀ slot ∈ scanFrom skip s, isName slot.name.toList = true := by
  fun_induction scanFrom skip s with
  | case1 => simp
  | case2 c rest skip ih => exact ih
  | case3 c rest slot after taken ih =>
    intro found member
    rcases List.mem_cons.mp member with rfl | member
    · exact isName_of_take taken
    · exact ih found member
  | case4 c rest taken ih => exact ih

theorem scanFrom_append (skipped rest : List Char) :
    scanFrom skipped.length (skipped ++ rest) = scanFrom 0 rest := by
  induction skipped with
  | nil => rfl
  | cons c skipped ih => exact ih

theorem takeBody_append {name : List Char} (named : isName name = true) (variadic : Bool)
    {rest : List Char} (stops : rest.head? ≠ some '.') :
    takeBody (name ++ '>' :: (if variadic then "..." else "").toList ++ rest) =
      some (String.ofList name, variadic, rest) := by
  simp only [isName, Bool.and_eq_true, Bool.not_eq_true', List.all_eq_true] at named
  have outside : ¬isNamePart '>' = true := by decide
  have taken (more : List Char) : (name ++ '>' :: more).takeWhile isNamePart = name := by
    rw [List.takeWhile_append_of_pos named.2, List.takeWhile_cons_of_neg outside, List.append_nil]
  have dropped (more : List Char) : (name ++ '>' :: more).dropWhile isNamePart = '>' :: more := by
    rw [List.dropWhile_append_of_pos named.2, List.dropWhile_cons_of_neg outside]
  rw [List.append_assoc, List.cons_append]
  simp only [takeBody, taken, dropped, named.1, Bool.false_eq_true, if_false]
  cases variadic with
  | true => rfl
  | false =>
    cases rest with
    | nil => rfl
    | cons c rest =>
      have other : c ≠ '.' := by simpa using stops
      simp [other]

theorem take_usage {slot : Slot} (named : isName slot.name.toList = true) {rest : List Char}
    (stops : rest.head? ≠ some '.') : take (slot.usage.toList ++ rest) = some (slot, rest) := by
  obtain ⟨name, required, variadic⟩ := slot
  have body (more : List Char) (stops : more.head? ≠ some '.') :
      takeBody (name.toList ++ '>' :: (if variadic then "..." else "").toList ++ more) =
        some (name, variadic, more) := by
    simpa using takeBody_append named variadic stops
  cases required with
  | true =>
    have chars : (usage ⟨name, true, variadic⟩).toList ++ rest =
        '<' :: (name.toList ++ '>' :: (if variadic then "..." else "").toList ++ rest) := by
      simp [usage]
    rw [chars, take, body rest stops]
    rfl
  | false =>
    have chars : (usage ⟨name, false, variadic⟩).toList ++ rest =
        '[' :: '<' :: (name.toList ++ '>' :: (if variadic then "..." else "").toList ++ ']' :: rest) := by
      simp [usage]
    rw [chars, take, body (']' :: rest) (by simp)]
    rfl

theorem exists_of_usage (slot : Slot) : ∃ c rest, slot.usage.toList = c :: rest := by
  obtain ⟨name, required, variadic⟩ := slot
  cases required with
  | true => exact ⟨'<', _, by simp [usage]; rfl⟩
  | false => exact ⟨'[', _, by simp [usage]; rfl⟩

theorem scanFrom_usage {slot : Slot} (named : isName slot.name.toList = true) {rest : List Char}
    (stops : rest.head? ≠ some '.') :
    scanFrom 0 (slot.usage.toList ++ rest) = slot :: scanFrom 0 rest := by
  have taken := take_usage named stops
  obtain ⟨c, more, shape⟩ := exists_of_usage slot
  rw [shape, List.cons_append] at taken ⊢
  have skipped : (more ++ rest).length - rest.length = more.length := by
    rw [List.length_append, Nat.add_sub_cancel]
  rw [scanFrom, taken]
  simp only [skipped, scanFrom_append]

/-- A text without an angle bracket is passed over, unless its last character could open a slot. -/
theorem scanFrom_plain {plain : List Char} (bare : '<' ∉ plain) (closed : plain.getLast? ≠ some '[')
    (rest : List Char) : scanFrom 0 (plain ++ rest) = scanFrom 0 rest := by
  induction plain with
  | nil => rfl
  | cons c plain ih =>
    rw [List.mem_cons, not_or] at bare
    obtain ⟨different, bare⟩ := bare
    -- A slot opens with an angle bracket, in this place or in the next one behind a square bracket.
    have nothing : take (c :: (plain ++ rest)) = none := by
      cases plain with
      | nil =>
        have opens : c ≠ '[' := by simpa using closed
        simp [take, opens, Ne.symm different]
      | cons d plain =>
        have next : d ≠ '<' := fun same => bare (same ▸ List.mem_cons_self)
        simp [take, next, Ne.symm different]
    rw [List.cons_append, scanFrom, nothing]
    cases plain with
    | nil => rfl
    | cons d plain => exact ih bare (by simpa using closed)

theorem scanFrom_blank (rest : List Char) : scanFrom 0 (' ' :: rest) = scanFrom 0 rest := by
  simp [scanFrom, take]

/-- Slots are read back from the text that writes them after a blank each. -/
theorem scan_usage (slots : List Slot) (named : ∀ slot ∈ slots, isName slot.name.toList = true) :
    scan (" " ++ joinWords (slots.map usage)) = slots := by
  have chars : (" " ++ joinWords (slots.map usage)).toList =
      ' ' :: (joinWords (slots.map usage)).toList := by simp
  rw [scan, chars, scanFrom_blank]
  induction slots with
  | nil => rfl
  | cons slot rest ih =>
    have first := named slot List.mem_cons_self
    have others := ih (fun slot member => named slot (List.mem_cons_of_mem _ member)) (by simp)
    cases rest with
    | nil =>
      have alone : joinWords ([slot].map usage) = slot.usage := by simp [joinWords]
      rw [alone, ← List.append_nil slot.usage.toList, scanFrom_usage first (by simp)]
      rfl
    | cons second rest =>
      have more : (joinWords ((slot :: second :: rest).map usage)).toList =
          slot.usage.toList ++ ' ' :: (joinWords ((second :: rest).map usage)).toList := by
        simp [joinWords, String.intercalate_cons_cons]
      rw [more, scanFrom_usage first (by simp), scanFrom_blank, others]

end UsageGrammar.Slot
