import UsageGrammar.Binding
import UsageGrammar.Proofs.Flag

/-! The forms of a token. Each form is written down as a relation between a token and its text; the
reader recognizes exactly the texts that have a form, and no text has two. -/

set_option autoImplicit false

namespace UsageGrammar.Token

open Text

/-- The texts of the tokens that are no plain ones. -/
inductive Form : Token → String → Prop
  | terminator : Form .terminator "--"
  | long {name : String} : Flag.isName name.toList = true → Form (.long name) ("--" ++ name)
  | inline {dashes name mark value : String} :
      dashes = "-" ∨ dashes = "--" → Flag.isName name.toList = true → mark = ":" ∨ mark = "=" →
      Form (.inline dashes name value) (dashes ++ name ++ mark ++ value)
  | cluster {letters : List Char} :
      letters ≠ [] → (∀ letter ∈ letters, isAlphanumeric letter = true) →
      Form (.cluster letters) ("-" ++ String.ofList letters)

/-- A text that has no form; it is positional wherever a flag could stand. -/
def IsPositional (text : String) : Prop :=
  ∀ token, ¬Form token text

theorem readNamed_long {name : List Char} (named : Flag.isName name = true) (dashes : String) :
    readNamed dashes name = if dashes = "--" then some (.long (String.ofList name)) else none := by
  have taken : Flag.takeName name = some (name, []) := by
    simpa using Flag.takeName_append named [] (by simp)
  simp only [readNamed, taken]

theorem readNamed_inline {name value : List Char} {mark : Char} (named : Flag.isName name = true)
    (separates : mark = ':' ∨ mark = '=') (dashes : String) :
    readNamed dashes (name ++ mark :: value) =
      some (.inline dashes (String.ofList name) (String.ofList value)) := by
  have stops : Flag.isPart mark = false := by
    rcases separates with rfl | rfl <;> decide
  have taken : Flag.takeName (name ++ mark :: value) = some (name, mark :: value) :=
    Flag.takeName_append named _ (by simpa using stops)
  simp only [readNamed, taken, separates, Bool.or_eq_true, decide_eq_true_eq, if_true]

theorem readChars_double {rest : List Char} (more : rest ≠ []) :
    readChars ('-' :: '-' :: rest) = (readNamed "--" rest).getD .plain := by
  cases rest with
  | nil => exact absurd rfl more
  | cons c rest => rfl

theorem readChars_single {c : Char} {rest : List Char} (other : c ≠ '-') :
    readChars ('-' :: c :: rest) =
      match readNamed "-" (c :: rest) with
      | some token => token
      | none => if (c :: rest).all isAlphanumeric then .cluster (c :: rest) else .plain := by
  unfold readChars
  split
  · next same => simp_all
  · next same => simp_all
  · next same => cases same; rfl
  · next excluded => exact absurd rfl (excluded _)

theorem readNamed_eq_some {dashes : String} {s : List Char} {token : Token}
    (read : readNamed dashes s = some token) :
    ∃ name, Flag.isName name = true ∧
      (s = name ∧ dashes = "--" ∧ token = .long (String.ofList name) ∨
        ∃ mark value, (mark = ':' ∨ mark = '=') ∧ s = name ++ mark :: value ∧
          token = .inline dashes (String.ofList name) (String.ofList value)) := by
  unfold readNamed at read
  split at read
  · next name taken =>
    obtain ⟨whole, named, -⟩ := Flag.takeName_eq_some taken
    split at read
    · next double =>
      cases read
      exact ⟨name, named, .inl ⟨by simpa using whole, double, rfl⟩⟩
    · cases read
  · next name mark value taken =>
    obtain ⟨whole, named, -⟩ := Flag.takeName_eq_some taken
    split at read
    · next separates =>
      cases read
      simp only [Bool.or_eq_true, decide_eq_true_eq] at separates
      exact ⟨name, named, .inr ⟨mark, value, separates, whole, rfl⟩⟩
    · cases read
  · cases read

theorem read_of_form {token : Token} {text : String} (form : Form token text) : read text = token := by
  cases form with
  | terminator => rfl
  | @long name named =>
    obtain ⟨c, rest, shape, -⟩ := Flag.exists_of_isName named
    have more : name.toList ≠ [] := by simp [shape]
    have chars : ("--" ++ name).toList = '-' :: '-' :: name.toList := by simp
    rw [read, chars, readChars_double more, readNamed_long named]
    simp
  | @inline dashes name mark value double named separates =>
    obtain ⟨c, rest, shape, first, -⟩ := Flag.exists_of_isName named
    obtain ⟨m, sign, separates⟩ : ∃ m, mark.toList = [m] ∧ (m = ':' ∨ m = '=') := by
      rcases separates with rfl | rfl
      · exact ⟨':', rfl, .inl rfl⟩
      · exact ⟨'=', rfl, .inr rfl⟩
    have inner : ∀ dashes, readNamed dashes (c :: rest ++ m :: value.toList) =
        some (.inline dashes name value) := by
      intro dashes
      rw [← shape, readNamed_inline named separates]
      simp
    rcases double with rfl | rfl
    · have chars : ("-" ++ name ++ mark ++ value).toList = '-' :: c :: (rest ++ m :: value.toList) := by
        simp [shape, sign]
      rw [read, chars, readChars_single (Flag.ne_hyphen_of_isAlphanumeric first), ← List.cons_append,
        inner]
    · have chars : ("--" ++ name ++ mark ++ value).toList =
          '-' :: '-' :: (c :: rest ++ m :: value.toList) := by
        simp [shape, sign]
      rw [read, chars, readChars_double (by simp), inner]
      rfl
  | @cluster letters nonempty all =>
    cases letters with
    | nil => exact absurd rfl nonempty
    | cons c rest =>
      have first := all c List.mem_cons_self
      have chars : ("-" ++ String.ofList (c :: rest)).toList = '-' :: c :: rest := by simp
      have named : Flag.isName (c :: rest) = true := by
        simp only [Flag.isName, Bool.and_eq_true, List.all_eq_true]
        exact ⟨first, fun d member =>
          Flag.isPart_of_isAlphanumeric (all d (List.mem_cons_of_mem c member))⟩
      rw [read, chars, readChars_single (Flag.ne_hyphen_of_isAlphanumeric first),
        readNamed_long named]
      simp only [show ¬"-" = "--" by decide, if_false, if_pos (List.all_eq_true.mpr all)]

theorem form_of_readNamed {dashes text : String} {s : List Char} {token : Token}
    (double : dashes = "-" ∨ dashes = "--") (chars : text.toList = dashes.toList ++ s)
    (read : readNamed dashes s = some token) : Form token text := by
  obtain ⟨name, named, ⟨rfl, rfl, rfl⟩ | ⟨mark, value, separates, rfl, rfl⟩⟩ := readNamed_eq_some read
  · have whole : text = "--" ++ String.ofList s := by
      rw [← String.toList_inj, chars]; simp
    rw [whole]
    exact .long (by simpa using named)
  · have whole : text = dashes ++ String.ofList name ++ String.singleton mark ++ String.ofList value := by
      rw [← String.toList_inj, chars]; simp
    rw [whole]
    refine .inline double (by simpa using named) ?_
    exact separates.imp (fun same => by rw [same]; rfl) (fun same => by rw [same]; rfl)

theorem form_of_read_single {token : Token} {text : String} {c : Char} {rest : List Char}
    (shape : text.toList = '-' :: c :: rest) (other : c ≠ '-') (read : read text = token)
    (flagged : token ≠ .plain) : Form token text := by
  rw [Token.read, shape, readChars_single other] at read
  split at read
  · next found inner =>
    cases read
    exact form_of_readNamed (.inl rfl) shape inner
  -- With one dash there is no long form, so what has no mark can only be a cluster.
  · split at read
    · next all =>
      have whole : text = "-" ++ String.ofList (c :: rest) := by
        rw [← String.toList_inj, shape]; simp
      rw [whole, ← read]
      exact .cluster (by simp) (List.all_eq_true.mp all)
    · exact absurd read.symm flagged

theorem form_of_read_double {token : Token} {text : String} {rest : List Char}
    (shape : text.toList = '-' :: '-' :: rest) (read : read text = token)
    (flagged : token ≠ .plain) : Form token text := by
  by_cases last : rest = []
  · subst last
    have whole : text = "--" := by rw [← String.toList_inj, shape]; rfl
    rw [whole] at read ⊢
    rw [← read]
    exact .terminator
  · rw [Token.read, shape, readChars_double last] at read
    cases inner : readNamed "--" rest with
    | none => rw [inner] at read; exact absurd read.symm flagged
    | some found =>
      rw [inner] at read
      cases read
      exact form_of_readNamed (.inr rfl) shape inner

theorem exists_of_flagged {s : List Char} (flagged : readChars s ≠ .plain) :
    ∃ c rest, s = '-' :: c :: rest := by
  unfold readChars at flagged
  split at flagged
  · exact ⟨'-', [], rfl⟩
  · exact ⟨'-', _, rfl⟩
  · next rest _ _ =>
    cases rest with
    | nil => exact absurd rfl flagged
    | cons c rest => exact ⟨c, rest, rfl⟩
  · exact absurd rfl flagged

theorem form_of_read {token : Token} {text : String} (read : read text = token)
    (flagged : token ≠ .plain) : Form token text := by
  obtain ⟨c, rest, shape⟩ : ∃ c rest, text.toList = '-' :: c :: rest :=
    exists_of_flagged (by rw [← Token.read, read]; exact flagged)
  by_cases other : c = '-'
  · exact form_of_read_double (other ▸ shape) read flagged
  · exact form_of_read_single shape other read flagged

theorem read_eq_plain_iff {text : String} : read text = .plain ↔ IsPositional text := by
  constructor
  · rintro plain token form
    have same := read_of_form form
    rw [plain] at same
    rw [← same] at form
    cases form
  · intro positional
    exact Decidable.byContradiction fun flagged => positional _ (form_of_read rfl flagged)

end UsageGrammar.Token
