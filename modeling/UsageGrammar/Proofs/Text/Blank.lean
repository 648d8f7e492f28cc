import Mathlib.Data.List.DropRight
import UsageGrammar.Text.Blank

/-! Taking the blanks off both ends of a text. -/

set_option autoImplicit false

namespace UsageGrammar.Text

variable {before s after : List Char}

theorem strip_append (left : ∀ c ∈ before, isBlank c = true) (right : ∀ c ∈ after, isBlank c = true) :
    strip (before ++ s ++ after) = strip s := by
  rw [strip, strip, List.append_assoc, List.dropWhile_append_of_pos left, List.dropWhile_append]
  -- The text may be blank itself, and then nothing at all is left.
  split
  · rename_i blank
    have ended : after.dropWhile isBlank = [] := by simpa using right
    rw [List.isEmpty_iff.mp blank, ended]
  · have reversed : ∀ c ∈ after.reverse, isBlank c = true := by simpa using right
    rw [List.reverse_append, List.dropWhile_append_of_pos reversed]

theorem strip_append_left (left : ∀ c ∈ before, isBlank c = true) : strip (before ++ s) = strip s := by
  have nothing : ∀ c ∈ ([] : List Char), isBlank c = true := nofun
  have stripped := strip_append (s := s) left nothing
  rwa [List.append_nil] at stripped

theorem strip_append_right (right : ∀ c ∈ after, isBlank c = true) : strip (s ++ after) = strip s := by
  have nothing : ∀ c ∈ ([] : List Char), isBlank c = true := nofun
  have stripped := strip_append (s := s) nothing right
  rwa [List.nil_append] at stripped

theorem exists_padding (s : List Char) :
    ∃ before after, s = before ++ strip s ++ after ∧
      (∀ c ∈ before, isBlank c = true) ∧ ∀ c ∈ after, isBlank c = true := by
  refine ⟨s.takeWhile isBlank, (s.dropWhile isBlank).rtakeWhile isBlank, ?_,
    fun c member => List.mem_takeWhile_imp member, fun c member => List.mem_rtakeWhile_imp member⟩
  have ends : strip s ++ (s.dropWhile isBlank).rtakeWhile isBlank = s.dropWhile isBlank :=
    List.rdropWhile_append_rtakeWhile
  rw [List.append_assoc, ends, List.takeWhile_append_dropWhile]

theorem strip_strip (s : List Char) : strip (strip s) = strip s := by
  obtain ⟨before, after, parts, left, right⟩ := exists_padding s
  calc strip (strip s) = strip (before ++ strip s ++ after) := (strip_append left right).symm
    _ = strip s := by rw [← parts]

theorem strip_eq_nil_iff : strip s = [] ↔ ∀ c ∈ s, isBlank c = true := by
  constructor
  · intro nothing c member
    obtain ⟨before, after, parts, left, right⟩ := exists_padding s
    rw [parts, nothing, List.append_nil] at member
    exact (List.mem_append.mp member).elim (left c) (right c)
  · intro blank
    have nothing := strip_append_left (s := []) blank
    rwa [List.append_nil] at nothing

theorem mem_of_mem_strip {c : Char} (member : c ∈ strip s) : c ∈ s := by
  obtain ⟨before, after, parts, -⟩ := exists_padding s
  rw [parts]
  exact List.mem_append_left after (List.mem_append_right before member)

theorem isBlank_of_head?_strip {c : Char} (first : c ∈ (strip s).head?) : isBlank c = false := by
  obtain ⟨rest, parts⟩ : strip s <+: s.dropWhile isBlank := List.rdropWhile_prefix ..
  have opened := List.head?_dropWhile_not isBlank s
  rwa [← parts, List.head?_append, Option.mem_def.mp first] at opened

theorem isBlank_of_getLast?_strip {c : Char} (last : c ∈ (strip s).getLast?) : isBlank c = false := by
  have filled : (s.dropWhile isBlank).rdropWhile isBlank ≠ [] := by
    intro nothing
    rw [strip, ← List.rdropWhile, nothing] at last
    cases last
  have closed := List.rdropWhile_last_not isBlank (s.dropWhile isBlank) filled
  rw [strip, ← List.rdropWhile, List.getLast?_eq_some_getLast filled] at last
  cases last
  simpa using closed

theorem strip_eq_self (opens : ∀ c ∈ s.head?, isBlank c = false)
    (closes : ∀ c ∈ s.getLast?, isBlank c = false) : strip s = s := by
  have front : s.dropWhile isBlank = s := by
    cases s with
    | nil => rfl
    | cons c s => rw [List.dropWhile_cons_of_neg (by simp [opens c rfl])]
  have back : s.rdropWhile isBlank = s := by
    rw [List.rdropWhile_eq_self_iff]
    intro filled
    simp [closes _ (List.getLast?_eq_some_getLast filled)]
  rw [strip, front, ← List.rdropWhile, back]

/-- The text ends in a character that is no blank. -/
def IsClosed (s : List Char) : Prop :=
  ∃ front last, s = front ++ [last] ∧ isBlank last = false

theorem IsClosed.append (front : List Char) (closed : IsClosed s) : IsClosed (front ++ s) := by
  obtain ⟨front', last, rfl, filled⟩ := closed
  exact ⟨front ++ front', last, (List.append_assoc ..).symm, filled⟩

theorem IsClosed.ne_nil (closed : IsClosed s) : s ≠ [] := by
  obtain ⟨front, last, rfl, -⟩ := closed
  exact List.append_ne_nil_of_right_ne_nil front (List.cons_ne_nil last [])

theorem isClosed_of_forall (filled : s ≠ []) (inside : ∀ c ∈ s, isBlank c = false) : IsClosed s :=
  ⟨s.dropLast, s.getLast filled, (List.dropLast_append_getLast filled).symm,
    inside _ (List.getLast_mem filled)⟩

theorem strip_of_isClosed (opens : ∀ c ∈ s.head?, isBlank c = false) (closed : IsClosed s) : strip s = s := by
  obtain ⟨front, last, rfl, filled⟩ := closed
  refine strip_eq_self opens fun c final => ?_
  rw [List.getLast?_concat] at final
  cases final
  exact filled

end UsageGrammar.Text
