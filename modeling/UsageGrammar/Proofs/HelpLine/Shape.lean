import UsageGrammar.Proofs.Flag
import UsageGrammar.Proofs.Words

/-! What the reader of help lines gives: words of commands and spellings of flags that are of the
shapes of the dialect, whatever the line. -/

set_option autoImplicit false

namespace UsageGrammar

open Text

namespace HelpLine

/-- A lower case letter, followed by lower case letters, digits, underscores and hyphens. -/
def isKey : List Char → Bool
  | [] => false
  | c :: rest => isKeyStart c && rest.all isKeyPart

theorem isNamePart_of_isKey {key : List Char} (shape : isKey key = true) : ∀ c ∈ key, isNamePart c = true := by
  cases key with
  | nil => cases shape
  | cons c rest =>
    simp only [isKey, Bool.and_eq_true, List.all_eq_true] at shape
    intro d member
    rcases List.mem_cons.mp member with rfl | member
    · exact isNamePart_of_isKeyStart shape.1
    · exact isNamePart_of_isKeyPart (shape.2 d member)

theorem isWord_of_mem_wordsFrom {opened gap s : List Char}
    (shape : Command.isWord opened.reverse = true) :
    ∀ word ∈ (wordsFrom opened gap s).1, Command.isWord word = true := by
  fun_induction wordsFrom opened gap s with
  | case1 => simpa using shape
  | case2 opened gap c rest blank ih => exact ih shape
  | case3 opened gap c rest blank empty part ih =>
    exact ih (by simpa using Command.isWord_concat shape part)
  | case4 => simpa using shape
  | case5 opened gap c rest blank more word words remainder read ih =>
    rw [read] at ih
    intro found member
    rcases List.mem_cons.mp member with rfl | member
    · exact shape
    · exact ih (by simp [Command.isWord, word]) found member
  | case6 => simpa using shape

theorem wordsFrom_ne_nil (opened gap s : List Char) : (wordsFrom opened gap s).1 ≠ [] := by
  fun_induction wordsFrom opened gap s <;> simp_all

theorem readUsage_eq_some {s : List Char} {line : HelpLine} (read : readUsage s = some line) :
    ∃ words remainder, line = .usage words remainder ∧ words ≠ [] ∧
      ∀ word ∈ words, Command.isWord word.toList = true := by
  simp only [readUsage, Option.bind_eq_bind, Option.bind_eq_some_iff] at read
  obtain ⟨rest, -, read⟩ := read
  split at read
  · cases read
  · next c more body =>
    split at read
    · next opens =>
      simp only [Bool.and_eq_true] at opens
      cases read
      refine ⟨_, _, rfl, by simpa using wordsFrom_ne_nil [c] [] more, ?_⟩
      intro word member
      obtain ⟨chars, found, rfl⟩ := List.mem_map.mp member
      rw [String.toList_ofList]
      exact isWord_of_mem_wordsFrom (by simp [Command.isWord, opens.2]) chars found
    · cases read

theorem takePair_eq_some {s : List Char} {found : List String × String × List Char}
    (taken : takePair s = some found) :
    found.1 ≠ [] ∧ (∀ name ∈ found.1, Flag.isName name.toList = true) ∧
      Flag.isName found.2.1.toList = true := by
  unfold takePair at taken
  split at taken
  · next c rest =>
    split at taken
    · split at taken
      · next short =>
        obtain ⟨⟨name, after⟩, read, rfl⟩ := Option.map_eq_some_iff.mp taken
        obtain ⟨-, named, -⟩ := Flag.takeName_eq_some read
        simp [named, Flag.isName_singleton short]
      · cases taken
    · cases taken
  · cases taken

theorem takeSingle_eq_some {s : List Char} {found : List String × String × List Char}
    (taken : takeSingle s = some found) :
    found.1 ≠ [] ∧ (∀ name ∈ found.1, Flag.isName name.toList = true) ∧
      Flag.isName found.2.1.toList = true := by
  obtain ⟨rest, named⟩ : ∃ rest, (Flag.takeName rest).map (fun read =>
      ([String.ofList read.1], String.ofList read.1, read.2)) = some found := by
    unfold takeSingle at taken
    split at taken
    · exact ⟨_, taken⟩
    · exact ⟨_, taken⟩
    · cases taken
  obtain ⟨⟨name, after⟩, read, rfl⟩ := Option.map_eq_some_iff.mp named
  obtain ⟨-, shape, -⟩ := Flag.takeName_eq_some read
  simp [shape]

theorem takePlaceholder_eq_some {s after : List Char} {key : String}
    (taken : takePlaceholder s = some (key, after)) : isKey key.toList = true := by
  unfold takePlaceholder at taken
  split at taken
  · next mark c rest =>
    split at taken
    · next opens =>
      simp only [Bool.and_eq_true] at opens
      split at taken
      · cases taken
        simp [isKey, opens.2]
      · cases taken
    · cases taken
  · cases taken

/-- An option binds a lower case word and a switch the name of a flag. -/
def LegalTarget (target : Target) : Prop :=
  match target.kind with
  | .option => isKey target.key.toList = true
  | .switch => Flag.isName target.key.toList = true

/-- A declaration has spellings, which are names of flags, and a legal target. -/
def Declares (names : List String) (target : Target) : Prop :=
  names ≠ [] ∧ (∀ name ∈ names, Flag.isName name.toList = true) ∧ LegalTarget target

def entries : HelpLine → Table Target
  | .flags names target => names.map (·, target)
  | _ => []

/-- Prose and flags may follow a usage line on its page. -/
def IsBody (line : HelpLine) : Prop :=
  line = .prose ∨ ∃ names target, line = .flags names target

theorem readFlags_eq_some {s : List Char} {line : HelpLine} (read : readFlags s = some line) :
    ∃ names target, line = .flags names target ∧ Declares names target := by
  have option : ∀ {found}, asOption found = some line →
      found.1 ≠ [] ∧ (∀ name ∈ found.1, Flag.isName name.toList = true) ∧
        Flag.isName found.2.1.toList = true →
      ∃ names target, line = .flags names target ∧ Declares names target := by
    rintro ⟨names, main, rest⟩ asked ⟨nonempty, named, -⟩
    simp only [asOption, Option.bind_eq_bind, Option.bind_eq_some_iff] at asked
    obtain ⟨⟨key, after⟩, placed, described⟩ := asked
    split at described
    · cases described
      exact ⟨_, _, rfl, nonempty, named, takePlaceholder_eq_some placed⟩
    · cases described
  have switch : ∀ {found}, asSwitch found = some line →
      found.1 ≠ [] ∧ (∀ name ∈ found.1, Flag.isName name.toList = true) ∧
        Flag.isName found.2.1.toList = true →
      ∃ names target, line = .flags names target ∧ Declares names target := by
    rintro ⟨names, main, rest⟩ asked ⟨nonempty, named, bound⟩
    simp only [asSwitch] at asked
    split at asked
    · cases asked
      exact ⟨_, _, rfl, nonempty, named, bound⟩
    · cases asked
  simp only [readFlags, Option.or_eq_some_iff, Option.bind_eq_some_iff] at read
  rcases read with ⟨found, taken, asked⟩ | ⟨-, ⟨found, taken, asked⟩ |
    ⟨-, ⟨found, taken, asked⟩ | ⟨-, found, taken, asked⟩⟩⟩
  · exact option asked (takePair_eq_some taken)
  · exact option asked (takeSingle_eq_some taken)
  · exact switch asked (takePair_eq_some taken)
  · exact switch asked (takeSingle_eq_some taken)

theorem read_cases (text : String) :
    read text = .separator ∨ (∃ body, readUsage body = some (read text)) ∨
      (∃ body, readFlags body = some (read text)) ∨ read text = .prose := by
  unfold read
  extract_lets s body
  split
  · exact .inl rfl
  · split
    · next line usage => exact .inr (.inl ⟨body, usage⟩)
    · split
      · cases flags : readFlags body with
        | none => exact .inr (.inr (.inr rfl))
        | some line => exact .inr (.inr (.inl ⟨body, flags⟩))
      · exact .inr (.inr (.inr rfl))

theorem words_of_read {text : String} {words : List String} {remainder : String}
    (line : read text = .usage words remainder) :
    words ≠ [] ∧ ∀ word ∈ words, Command.isWord word.toList = true := by
  rcases read_cases text with other | ⟨body, usage⟩ | ⟨body, flags⟩ | other
  · rw [line] at other; cases other
  · rw [line] at usage
    obtain ⟨_, _, same, nonempty, words⟩ := readUsage_eq_some usage
    cases same
    exact ⟨nonempty, words⟩
  · rw [line] at flags
    obtain ⟨_, _, same, -⟩ := readFlags_eq_some flags
    cases same
  · rw [line] at other; cases other

theorem declares_of_read {text : String} {names : List String} {target : Target}
    (line : read text = .flags names target) : Declares names target := by
  rcases read_cases text with other | ⟨body, usage⟩ | ⟨body, flags⟩ | other
  · rw [line] at other; cases other
  · rw [line] at usage
    obtain ⟨_, _, same, -⟩ := readUsage_eq_some usage
    cases same
  · rw [line] at flags
    obtain ⟨_, _, same, declares⟩ := readFlags_eq_some flags
    cases same
    exact declares
  · rw [line] at other; cases other

end HelpLine

end UsageGrammar
