import UsageGrammar.Command
import UsageGrammar.Proofs.Text.Characters

/-! Words of commands. Words hold no blanks, so a name tells the words that it was joined from. -/

set_option autoImplicit false

namespace UsageGrammar

open Text

/-- A word character, followed by word characters and hyphens. -/
def Command.isWord : List Char → Bool
  | [] => false
  | c :: rest => Text.isWord c && rest.all isNamePart

namespace Command

theorem exists_of_isWord {word : List Char} (shape : isWord word = true) :
    ∃ c rest, word = c :: rest ∧ Text.isWord c = true ∧ ∀ d ∈ rest, isNamePart d = true := by
  cases word with
  | nil => cases shape
  | cons c rest =>
    simp only [isWord, Bool.and_eq_true, List.all_eq_true] at shape
    exact ⟨c, rest, rfl, shape.1, shape.2⟩

theorem isWord_concat {word : List Char} (shape : isWord word = true) {c : Char}
    (part : isNamePart c = true) : isWord (word ++ [c]) = true := by
  obtain ⟨d, rest, rfl, opens, inside⟩ := exists_of_isWord shape
  simp only [isWord, List.cons_append, Bool.and_eq_true, List.all_eq_true]
  refine ⟨opens, fun e member => ?_⟩
  rcases List.mem_append.mp member with member | member
  · exact inside e member
  · rwa [List.mem_singleton.mp member]

theorem isNamePart_of_isWord {word : List Char} (shape : isWord word = true) :
    ∀ c ∈ word, isNamePart c = true := by
  obtain ⟨d, rest, rfl, opens, inside⟩ := exists_of_isWord shape
  intro c member
  rcases List.mem_cons.mp member with rfl | member
  · exact Text.isNamePart_of_isWord opens
  · exact inside c member

theorem ne_empty_of_isWord {word : String} (shape : isWord word.toList = true) : word ≠ "" := by
  rintro rfl
  cases shape

theorem ne_hyphen_of_isWord {word : List Char} (shape : isWord word = true) :
    word.head? ≠ some '-' := by
  obtain ⟨d, rest, rfl, opens, -⟩ := exists_of_isWord shape
  intro same
  cases same
  exact absurd opens (by decide)

end Command

theorem joinWords_cons_cons (first second : String) (words : List String) :
    joinWords (first :: second :: words) = first ++ " " ++ joinWords (second :: words) :=
  String.intercalate_cons_cons

theorem joinWords_toList (first : String) (words : List String) :
    (joinWords (first :: words)).toList =
      first.toList ++ (words.map String.toList).flatMap (' ' :: ·) := by
  induction words generalizing first with
  | nil => simp [joinWords]
  | cons second words ih =>
    rw [joinWords_cons_cons]
    simp [ih]

theorem mem_joinWords {words : List String} {c : Char} (member : c ∈ (joinWords words).toList) :
    c = ' ' ∨ ∃ word ∈ words, c ∈ word.toList := by
  cases words with
  | nil => simp [joinWords] at member
  | cons first rest =>
    rw [joinWords_toList, List.mem_append, List.mem_flatMap] at member
    rcases member with member | ⟨chars, later, member⟩
    · exact .inr ⟨first, List.mem_cons_self, member⟩
    · obtain ⟨word, found, rfl⟩ := List.mem_map.mp later
      rcases List.mem_cons.mp member with rfl | member
      · exact .inl rfl
      · exact .inr ⟨word, List.mem_cons_of_mem _ found, member⟩

theorem append_blank_inj {first other s t : List Char} (bare : ' ' ∉ first) (bare' : ' ' ∉ other)
    (same : first ++ ' ' :: s = other ++ ' ' :: t) : first = other ∧ s = t := by
  induction first generalizing other with
  | nil =>
    cases other with
    | nil => exact ⟨rfl, (List.cons.inj same).2⟩
    | cons d other =>
      obtain ⟨rfl, -⟩ := List.cons.inj same
      exact absurd List.mem_cons_self bare'
  | cons c first ih =>
    cases other with
    | nil =>
      obtain ⟨rfl, -⟩ := List.cons.inj same
      exact absurd List.mem_cons_self bare
    | cons d other =>
      obtain ⟨rfl, tails⟩ := List.cons.inj same
      obtain ⟨rfl, rest⟩ := ih (fun member => bare (List.mem_cons_of_mem _ member))
        (fun member => bare' (List.mem_cons_of_mem _ member)) tails
      exact ⟨rfl, rest⟩

theorem fieldsFrom_append (opened rest : List Char) {word : List Char}
    (inside : ∀ c ∈ word, isBlank c = false) :
    fieldsFrom opened (word ++ rest) = fieldsFrom (word.reverse ++ opened) rest := by
  induction word generalizing opened with
  | nil => rfl
  | cons c word ih =>
    have others := ih (c :: opened) fun d member => inside d (List.mem_cons_of_mem c member)
    simp [fieldsFrom, inside c List.mem_cons_self, others]

theorem fields_joinWords {words : List String}
    (shape : ∀ word ∈ words, Command.isWord word.toList = true) :
    fields (joinWords words) = words := by
  suffices chars : fieldsFrom [] (joinWords words).toList = words.map String.toList by
    rw [fields, chars]
    simp [Function.comp_def]
  induction words with
  | nil => rfl
  | cons first rest ih =>
    have opens := shape first List.mem_cons_self
    have others := ih fun word member => shape word (List.mem_cons_of_mem _ member)
    have inside : ∀ c ∈ first.toList, isBlank c = false := fun c member =>
      isBlank_of_isNamePart (Command.isNamePart_of_isWord opens c member)
    have nonempty := Command.ne_empty_of_isWord opens
    cases rest with
    | nil =>
      have ended := fieldsFrom_append [] [] inside
      simp only [List.append_nil] at ended
      simp [joinWords, ended, fieldsFrom, nonempty]
    | cons second rest =>
      rw [joinWords_cons_cons, String.toList_append, String.toList_append, List.append_assoc,
        fieldsFrom_append [] _ inside]
      simp [fieldsFrom, show isBlank ' ' = true by decide, nonempty, others]

theorem joinWords_inj {words others : List String}
    (shape : ∀ word ∈ words, Command.isWord word.toList = true)
    (shape' : ∀ word ∈ others, Command.isWord word.toList = true)
    (same : joinWords words = joinWords others) : words = others := by
  rw [← fields_joinWords shape, same, fields_joinWords shape']

end UsageGrammar
