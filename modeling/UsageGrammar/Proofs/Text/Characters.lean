import UsageGrammar.HelpLine
import UsageGrammar.Text.Blank

/-! How the classes of characters lie to each other: no word character is a blank, ends a line or is
one of the marks of the help text dialect. -/

set_option autoImplicit false

namespace UsageGrammar.Text

theorem not_word_of_mem (points : List Nat) (apart : points.all (fun n => !inRanges n wordRanges) = true)
    {c : Char} (member : points.contains c.toNat = true) : isWord c = false := by
  have outside := List.all_eq_true.mp apart c.toNat (List.contains_iff_mem.mp member)
  simpa [isWord] using outside

theorem isWord_of_isBlank {c : Char} (blank : isBlank c = true) : isWord c = false :=
  not_word_of_mem blankPoints (by decide +kernel) blank

theorem isBlank_of_isWord {c : Char} (word : isWord c = true) : isBlank c = false := by
  cases blank : isBlank c with
  | false => rfl
  | true => exact absurd word (by simp [isWord_of_isBlank blank])

theorem isBlank_of_isLineBreak {c : Char} (ends : isLineBreak c = true) : isBlank c = true := by
  simp only [isLineBreak, isBlank, blankPoints, List.contains_eq_mem, decide_eq_true_eq] at ends ⊢
  revert ends
  generalize c.toNat = n
  simp only [List.mem_cons, List.not_mem_nil, or_false]
  omega

theorem isLineBreak_of_isWord {c : Char} (word : isWord c = true) : isLineBreak c = false := by
  cases ends : isLineBreak c with
  | false => rfl
  | true =>
    have blank := isBlank_of_isLineBreak ends
    exact absurd word (by simp [isWord_of_isBlank blank])

theorem isWord_of_isAlphanumeric {c : Char} (alphanumeric : isAlphanumeric c = true) :
    isWord c = true := by
  simp only [isAlphanumeric, Bool.and_eq_true] at alphanumeric
  exact alphanumeric.1

theorem isNamePart_of_isWord {c : Char} (word : isWord c = true) : isNamePart c = true := by
  simp [isNamePart, word]

theorem isLineBreak_of_isNamePart {c : Char} (part : isNamePart c = true) : isLineBreak c = false := by
  simp only [isNamePart, Bool.or_eq_true, beq_iff_eq] at part
  rcases part with word | hyphen
  · exact isLineBreak_of_isWord word
  · rw [hyphen]; decide

theorem isBlank_of_isNamePart {c : Char} (part : isNamePart c = true) : isBlank c = false := by
  simp only [isNamePart, Bool.or_eq_true, beq_iff_eq] at part
  rcases part with word | hyphen
  · exact isBlank_of_isWord word
  · rw [hyphen]; decide

theorem isWord_of_ascii {c : Char} (ascii : (48 ≤ c.toNat ∧ c.toNat ≤ 57) ∨ c.toNat = 95 ∨
    (97 ≤ c.toNat ∧ c.toNat ≤ 122)) : isWord c = true := by
  have table : wordRanges = (48, 57) :: (65, 90) :: (95, 95) :: (97, 122) :: wordRanges.drop 4 := rfl
  rw [isWord, table]
  simp only [inRanges]
  grind

end UsageGrammar.Text

namespace UsageGrammar.HelpLine

theorem isNamePart_of_isKeyStart {c : Char} (opens : isKeyStart c = true) :
    Text.isNamePart c = true := by
  simp only [isKeyStart, Bool.and_eq_true, decide_eq_true_eq, Char.le_def, UInt32.le_iff_toNat_le] at opens
  exact Text.isNamePart_of_isWord (Text.isWord_of_ascii (.inr (.inr opens)))

theorem isNamePart_of_isKeyPart {c : Char} (part : isKeyPart c = true) : Text.isNamePart c = true := by
  simp only [isKeyPart, Bool.or_eq_true, beq_iff_eq] at part
  rcases part with ((letter | digit) | rfl) | rfl
  · exact isNamePart_of_isKeyStart letter
  · simp only [Bool.and_eq_true, decide_eq_true_eq, Char.le_def, UInt32.le_iff_toNat_le] at digit
    exact Text.isNamePart_of_isWord (Text.isWord_of_ascii (.inl digit))
  · decide
  · decide

end UsageGrammar.HelpLine
