import UsageGrammar.Text.Blank

/-! Lines are read back from the text that joins them. -/

set_option autoImplicit false

namespace UsageGrammar.Text

/-- No character of the text ends a line. -/
def IsOneLine (s : List Char) : Prop :=
  ∀ c ∈ s, isLineBreak c = false

instance (s : List Char) : Decidable (IsOneLine s) :=
  List.decidableBAll (isLineBreak · = false) s

theorem isOneLine_append {s t : List Char} : IsOneLine (s ++ t) ↔ IsOneLine s ∧ IsOneLine t := by
  simp only [IsOneLine, List.mem_append, or_imp, forall_and]

theorem linesFrom_cons (opened rest : List Char) {c : Char} (inside : isLineBreak c = false) :
    linesFrom opened (c :: rest) = linesFrom (c :: opened) rest := by
  have other : c ≠ '\r' := by
    rintro rfl
    exact absurd inside (by decide)
  cases rest <;> simp [linesFrom, inside, other]

theorem linesFrom_append (opened rest : List Char) {line : List Char}
    (inside : IsOneLine line) :
    linesFrom opened (line ++ rest) = linesFrom (line.reverse ++ opened) rest := by
  induction line generalizing opened with
  | nil => rfl
  | cons c line ih =>
    have others := ih (c :: opened) fun d member => inside d (List.mem_cons_of_mem c member)
    rw [List.cons_append, linesFrom_cons opened _ (inside c List.mem_cons_self), others]
    simp

theorem linesFrom_feed (opened rest : List Char) :
    linesFrom opened ('\n' :: rest) = opened.reverse :: linesFrom [] rest := by
  simp [linesFrom, show isLineBreak '\n' = true by decide]

theorem lines_cons_intercalate {line : String} (inside : IsOneLine line.toList) (second : String)
    (rest : List String) :
    Text.lines ("\n".intercalate (line :: second :: rest)) =
      line :: Text.lines ("\n".intercalate (second :: rest)) := by
  have feed : "\n".toList = ['\n'] := rfl
  rw [Text.lines, String.intercalate_cons_cons, String.toList_append, String.toList_append,
    List.append_assoc, linesFrom_append [] _ inside, feed, List.singleton_append, linesFrom_feed]
  simp [Text.lines]

/-- The lines of a text are those that it was joined from; only an empty one at the end is lost. -/
theorem lines_join {lines : List String} (whole : ∀ line ∈ lines, IsOneLine line.toList) :
    lines = Text.lines ("\n".intercalate lines) ∨ lines = Text.lines ("\n".intercalate lines) ++ [""] := by
  induction lines with
  | nil => exact .inl rfl
  | cons line rest ih =>
    have inside := whole line List.mem_cons_self
    cases rest with
    | nil =>
      have ended := linesFrom_append [] [] inside
      simp only [List.append_nil] at ended
      by_cases empty : line = ""
      · exact .inr (by simp [Text.lines, linesFrom, empty])
      · exact .inl (by simp [Text.lines, ended, linesFrom, empty])
    | cons second rest =>
      have others := ih fun line member => whole line (List.mem_cons_of_mem _ member)
      rw [lines_cons_intercalate inside, List.cons_append]
      exact others.imp (congrArg (line :: ·)) (congrArg (line :: ·))

/-- The lines of a text are those that it was joined from, if none is empty or broken. -/
theorem lines_intercalate {lines : List String}
    (whole : ∀ line ∈ lines, line ≠ "" ∧ IsOneLine line.toList) :
    Text.lines ("\n".intercalate lines) = lines := by
  rcases lines_join fun line member => (whole line member).2 with same | shorter
  · exact same.symm
  · have empty : "" ∈ lines := by
      rw [shorter]
      exact List.mem_append_right _ List.mem_cons_self
    exact absurd rfl (whole "" empty).1

theorem lines_closed {lines : List String} (whole : ∀ line ∈ lines, IsOneLine line.toList) :
    Text.lines ("\n".intercalate (lines ++ [""])) = lines := by
  induction lines with
  | nil => rfl
  | cons line rest ih =>
    have others := ih fun line member => whole line (List.mem_cons_of_mem _ member)
    cases rest with
    | nil => exact lines_cons_intercalate (whole line List.mem_cons_self) "" []
    | cons second rest =>
      rw [List.cons_append, List.cons_append, lines_cons_intercalate (whole line List.mem_cons_self),
        ← List.cons_append, others]

theorem isOneLine_of_mem_linesFrom {opened s : List Char} (inside : IsOneLine opened) :
    ∀ line ∈ linesFrom opened s, IsOneLine line := by
  have closed : IsOneLine opened.reverse := fun c member => inside c (List.mem_reverse.mp member)
  fun_induction linesFrom opened s with
  | case1 => simp
  | case2 => simpa using closed
  | case3 opened rest ih =>
    rw [List.forall_mem_cons]
    exact ⟨closed, ih (by simp [IsOneLine]) (by simp [IsOneLine])⟩
  | case4 opened c rest _ ends ih =>
    rw [List.forall_mem_cons]
    exact ⟨closed, ih (by simp [IsOneLine]) (by simp [IsOneLine])⟩
  | case5 opened c rest _ more ih =>
    have longer : IsOneLine (c :: opened) := List.forall_mem_cons.mpr ⟨by simpa using more, inside⟩
    exact ih longer fun d member => longer d (List.mem_reverse.mp member)

theorem isOneLine_of_mem_lines {s line : String} (member : line ∈ Text.lines s) :
    IsOneLine line.toList := by
  obtain ⟨chars, found, rfl⟩ := List.mem_map.mp member
  rw [String.toList_ofList]
  exact isOneLine_of_mem_linesFrom (by simp [IsOneLine]) chars found

end UsageGrammar.Text
