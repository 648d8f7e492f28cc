import Mathlib.Data.List.TakeWhile
import UsageGrammar.Proofs.HelpLine.Shape
import UsageGrammar.Proofs.Slot
import UsageGrammar.Proofs.Text.Lines

/-! Help lines as they are written, and that they are read back: a usage line gives its words and what
follows them, and each of the documented forms of a declaration gives its spellings and its target. -/

set_option autoImplicit false

namespace UsageGrammar.HelpLine

open Text

inductive Spelling where
  | pair (letter : Char) (name : String)
  | short (letter : Char)
  | long (name : String)
  deriving DecidableEq, Repr

namespace Spelling

def text : Spelling → String
  | .pair letter name => "-" ++ String.singleton letter ++ ", --" ++ name
  | .short letter => "-" ++ String.singleton letter
  | .long name => "--" ++ name

def names : Spelling → List String
  | .pair letter name => [String.singleton letter, name]
  | .short letter => [String.singleton letter]
  | .long name => [name]

def bound : Spelling → String
  | .pair _ name => name
  | .short letter => String.singleton letter
  | .long name => name

def Legal : Spelling → Prop
  | .pair letter name => isAlphanumeric letter = true ∧ Flag.isName name.toList = true
  | .short letter => isAlphanumeric letter = true
  | .long name => Flag.isName name.toList = true

instance : DecidablePred Legal := fun
  | .pair letter name =>
    inferInstanceAs (Decidable (isAlphanumeric letter = true ∧ Flag.isName name.toList = true))
  | .short letter => inferInstanceAs (Decidable (isAlphanumeric letter = true))
  | .long name => inferInstanceAs (Decidable (Flag.isName name.toList = true))

end Spelling

/-- A line of flags: an option has a key, which its placeholder shows, and a switch has none. -/
structure FlagLine where
  spelling : Spelling
  key : Option String
  remark : String
  deriving DecidableEq, Repr

namespace FlagLine

def target (line : FlagLine) : Target :=
  match line.key with
  | some key => ⟨.option, key⟩
  | none => ⟨.switch, line.spelling.bound⟩

def placeholder (line : FlagLine) : String :=
  match line.key with
  | some key => " <" ++ key ++ ">"
  | none => ""

def text (line : FlagLine) : String :=
  "  " ++ line.spelling.text ++ line.placeholder ++ "  " ++ line.remark

def entries (line : FlagLine) : Table Target :=
  line.spelling.names.map (·, line.target)

/-- The line is of a documented form, and its remark is one line and not blank. -/
structure Legal (line : FlagLine) : Prop where
  spelling : line.spelling.Legal
  key : ∀ key ∈ line.key, isKey key.toList = true
  remark : allBlank line.remark = false
  one_line : IsOneLine line.remark.toList

instance (line : FlagLine) : Decidable line.Legal :=
  decidable_of_iff
    (line.spelling.Legal ∧ (∀ key ∈ line.key, isKey key.toList = true) ∧
      allBlank line.remark = false ∧ IsOneLine line.remark.toList)
    ⟨fun ⟨spelling, key, remark, whole⟩ => ⟨spelling, key, remark, whole⟩,
      fun ⟨spelling, key, remark, whole⟩ => ⟨spelling, key, remark, whole⟩⟩

end FlagLine

/-- The usage line of a command. -/
def usageText (words : List String) (slots : List Slot) : String :=
  "usage: " ++ joinWords words ++ " " ++ joinWords (slots.map Slot.usage)

theorem isGap_of_isNamePart {c : Char} (part : isNamePart c = true) : isGap c = false := by
  have blank := isBlank_of_isNamePart part
  cases gap : isGap c with
  | false => rfl
  | true =>
    simp only [isGap, Bool.or_eq_true, beq_iff_eq] at gap
    rcases gap with rfl | rfl <;> exact absurd blank (by decide)

theorem wordsFrom_parts (opened : List Char) {parts : List Char}
    (inside : ∀ c ∈ parts, isNamePart c = true) (rest : List Char) :
    wordsFrom opened [] (parts ++ rest) = wordsFrom (parts.reverse ++ opened) [] rest := by
  induction parts generalizing opened with
  | nil => rfl
  | cons c parts ih =>
    have first := inside c List.mem_cons_self
    have others := ih (c :: opened) fun d member => inside d (List.mem_cons_of_mem c member)
    simp [wordsFrom, first, isGap_of_isNamePart first, others]

/-- What may follow the words of a command: nothing, or a blank with neither a word nor another blank
behind it. -/
inductive EndsWords : List Char → Prop where
  | nothing : EndsWords []
  | blank {rest : List Char} : (∀ d ∈ rest.head?, isNamePart d = false ∧ isGap d = false) →
      EndsWords (' ' :: rest)

theorem wordsFrom_ends (opened : List Char) {tail : List Char} (ends : EndsWords tail) :
    wordsFrom opened [] tail = ([opened.reverse], tail) := by
  cases ends with
  | nothing => rfl
  | @blank rest stops =>
    cases rest with
    | nil => simp [wordsFrom, isGap]
    | cons d rest =>
      obtain ⟨outside, noGap⟩ := stops d (by simp)
      simp only [isNamePart, Bool.or_eq_false_iff] at outside
      simp [wordsFrom, noGap, outside.1, show isGap ' ' = true by decide]

theorem wordsFrom_join {c : Char} {parts : List Char} (others : List (List Char))
    (inside : ∀ d ∈ parts, isNamePart d = true) (shape : ∀ word ∈ others, Command.isWord word = true)
    {tail : List Char} (ends : EndsWords tail) :
    wordsFrom [c] [] (parts ++ (others.flatMap (' ' :: ·) ++ tail)) = ((c :: parts) :: others, tail) := by
  -- The word that begins with `c` is being read, and the induction is on the words after it.
  induction others generalizing c parts with
  | nil =>
    rw [wordsFrom_parts [c] inside]
    simpa using wordsFrom_ends (parts.reverse ++ [c]) ends
  | cons word others ih =>
    cases word with
    | nil => cases shape [] List.mem_cons_self
    | cons d more =>
      have opens := shape (d :: more) List.mem_cons_self
      simp only [Command.isWord, Bool.and_eq_true, List.all_eq_true] at opens
      have noGap := isGap_of_isNamePart (isNamePart_of_isWord opens.1)
      have further := ih (c := d) opens.2 fun word member => shape word (List.mem_cons_of_mem _ member)
      rw [wordsFrom_parts [c] inside]
      simp [wordsFrom, noGap, opens.1, show isGap ' ' = true by decide, further]

theorem usage_head (slots : List Slot) :
    ∀ d ∈ (joinWords (slots.map Slot.usage)).toList.head?, isNamePart d = false ∧ isGap d = false := by
  cases slots with
  | nil => simp [joinWords]
  | cons slot rest =>
    rw [List.map_cons, joinWords_toList]
    obtain ⟨name, required, variadic⟩ := slot
    cases required with
    | true => simp [Slot.usage]; decide
    | false => simp [Slot.usage]; decide

theorem dropCaseless_usage (rest : List Char) :
    dropCaseless "usage:".toList ("usage:".toList ++ rest) = some rest := by
  have word : "usage:".toList = ['u', 's', 'a', 'g', 'e', ':'] := rfl
  simp [word, dropCaseless, caseless]

theorem read_usage {words : List String} (nonempty : words ≠ [])
    (shape : ∀ word ∈ words, Command.isWord word.toList = true) {tail : String}
    (ends : EndsWords tail.toList) : read ("usage: " ++ joinWords words ++ tail) = .usage words tail := by
  obtain ⟨first, others, rfl⟩ := List.exists_cons_of_ne_nil nonempty
  obtain ⟨c, parts, opening, opens, inside⟩ :=
    Command.exists_of_isWord (shape first List.mem_cons_self)
  have noGap := isGap_of_isNamePart (isNamePart_of_isWord opens)
  have joined := wordsFrom_join (c := c) (others.map String.toList) inside
    (fun word member => by
      obtain ⟨other, found, rfl⟩ := List.mem_map.mp member
      exact shape other (List.mem_cons_of_mem _ found))
    ends
  generalize after : parts ++ ((others.map String.toList).flatMap (' ' :: ·) ++ tail.toList) = more at joined
  have chars : ("usage: " ++ joinWords (first :: others) ++ tail).toList = "usage:".toList ++ ' ' :: c :: more := by
    simp [joinWords_toList, opening, ← after]
  have unindented : ("usage:".toList ++ ' ' :: c :: more).dropWhile isBlank =
      "usage:".toList ++ ' ' :: c :: more := rfl
  have usage : readUsage ("usage:".toList ++ ' ' :: c :: more) = some (.usage (first :: others) tail) := by
    have body : (' ' :: c :: more).dropWhile isGap = c :: more := by
      simp [show isGap ' ' = true by decide, noGap]
    simp only [readUsage, dropCaseless_usage, Option.bind_eq_bind, Option.bind_some, body, joined]
    simp [opens, show isGap ' ' = true by decide, ← opening, Function.comp_def]
  simp only [read, chars, unindented, usage]
  rfl

theorem read_usageText {words : List String} (slots : List Slot) (nonempty : words ≠ [])
    (shape : ∀ word ∈ words, Command.isWord word.toList = true) :
    read (usageText words slots) = .usage words (" " ++ joinWords (slots.map Slot.usage)) := by
  have ends : EndsWords (" " ++ joinWords (slots.map Slot.usage)).toList := by
    simpa using EndsWords.blank (usage_head slots)
  have text : usageText words slots =
      "usage: " ++ joinWords words ++ (" " ++ joinWords (slots.map Slot.usage)) := String.append_assoc
  rw [text]
  exact read_usage nonempty shape ends

theorem takeSingle_double {name rest : List Char} (named : Flag.isName name = true)
    (stops : ∀ d ∈ rest.head?, Flag.isPart d = false) :
    takeSingle ('-' :: '-' :: (name ++ rest)) = some ([String.ofList name], String.ofList name, rest) := by
  simp [takeSingle, Flag.takeName_append named rest stops]

theorem takeSingle_single {name rest : List Char} (named : Flag.isName name = true)
    (stops : ∀ d ∈ rest.head?, Flag.isPart d = false) :
    takeSingle ('-' :: (name ++ rest)) = some ([String.ofList name], String.ofList name, rest) := by
  obtain ⟨c, parts, rfl, first, -⟩ := Flag.exists_of_isName named
  have other := Flag.ne_hyphen_of_isAlphanumeric first
  have taken := Flag.takeName_append named rest stops
  simp only [List.cons_append] at taken ⊢
  simp [takeSingle, other, taken]

theorem takePair_of_ne {c d : Char} {rest : List Char} (other : d ≠ ',') :
    takePair ('-' :: c :: d :: rest) = none := by
  simp [takePair, other]

theorem takePair_pair {letter : Char} {name : String} (legal : (Spelling.pair letter name).Legal)
    (rest : List Char) :
    takePair ((Spelling.pair letter name).text.toList ++ ' ' :: rest) =
      some ((Spelling.pair letter name).names, name, ' ' :: rest) := by
  obtain ⟨alphanumeric, named⟩ := legal
  have chars : (Spelling.pair letter name).text.toList ++ ' ' :: rest =
      '-' :: letter :: ',' :: ' ' :: '-' :: '-' :: (name.toList ++ ' ' :: rest) := by
    simp [Spelling.text]
  have gap : (' ' :: '-' :: '-' :: (name.toList ++ ' ' :: rest)).dropWhile isGap =
      '-' :: '-' :: (name.toList ++ ' ' :: rest) := rfl
  have taken := Flag.takeName_append named (' ' :: rest) (by simp; decide)
  simp only [chars, takePair, gap, if_pos alphanumeric, taken]
  simp [Spelling.names]

/-- The comma of a pair ends the flag in front of it, and no placeholder or remark follows it. -/
theorem takeSingle_pair {letter : Char} {name : String} (legal : (Spelling.pair letter name).Legal)
    (rest : List Char) :
    (takeSingle ((Spelling.pair letter name).text.toList ++ rest)).bind asOption = none ∧
      (takeSingle ((Spelling.pair letter name).text.toList ++ rest)).bind asSwitch = none := by
  have chars : (Spelling.pair letter name).text.toList ++ rest =
      '-' :: ([letter] ++ ',' :: ' ' :: '-' :: '-' :: (name.toList ++ rest)) := by
    simp [Spelling.text]
  rw [chars, takeSingle_single (Flag.isName_singleton legal.1) (by simp; decide)]
  constructor
  · rfl
  · rfl

/-- A flag that stands alone is no pair, and is read with one dash or with two. -/
theorem take_alone {spelling : Spelling} (legal : spelling.Legal)
    (alone : ∀ letter name, spelling ≠ .pair letter name) (rest : List Char) :
    takePair (spelling.text.toList ++ ' ' :: rest) = none ∧
      takeSingle (spelling.text.toList ++ ' ' :: rest) =
        some (spelling.names, spelling.bound, ' ' :: rest) := by
  have stops : ∀ d ∈ (' ' :: rest).head?, Flag.isPart d = false := by simp; decide
  cases spelling with
  | pair letter name => exact absurd rfl (alone letter name)
  | short letter =>
    have chars : (Spelling.short letter).text.toList ++ ' ' :: rest =
        '-' :: ([letter] ++ ' ' :: rest) := by
      simp [Spelling.text]
    rw [chars, takeSingle_single (Flag.isName_singleton legal) stops]
    exact ⟨takePair_of_ne (by decide), rfl⟩
  | long name =>
    have chars : (Spelling.long name).text.toList ++ ' ' :: rest =
        '-' :: '-' :: (name.toList ++ ' ' :: rest) := by
      simp [Spelling.text]
    rw [chars, takeSingle_double legal stops]
    obtain ⟨c, parts, shape, first, -⟩ := Flag.exists_of_isName legal
    have other : c ≠ ',' := by
      rintro rfl
      exact absurd first (by decide)
    refine ⟨?_, by simp [Spelling.names, Spelling.bound]⟩
    rw [shape]
    exact takePair_of_ne other

theorem isDescribed_remark {remark : String} (described : allBlank remark = false) :
    isDescribed (' ' :: ' ' :: remark.toList) = true := by
  have blank : isBlank ' ' = true := by decide
  have left : remark.toList.dropWhile isBlank ≠ [] := by
    rw [ne_eq, List.dropWhile_eq_nil_iff, ← List.all_eq_true]
    simpa [allBlank] using described
  simp [isDescribed, blank, left]

theorem asOption_placeholder (names : List String) (bound : String) {key : String}
    (shape : isKey key.toList = true) {rest : List Char} (described : isDescribed rest = true) :
    asOption (names, bound, ' ' :: '<' :: (key.toList ++ '>' :: rest)) =
      some (.flags names ⟨.option, key⟩) := by
  cases chars : key.toList with
  | nil => rw [chars] at shape; cases shape
  | cons c parts =>
    rw [chars] at shape
    simp only [isKey, Bool.and_eq_true, List.all_eq_true] at shape
    have outside : ¬isKeyPart '>' = true := by decide
    have placed : takePlaceholder (' ' :: '<' :: c :: (parts ++ '>' :: rest)) = some (key, rest) := by
      simp [takePlaceholder, shape.1, List.takeWhile_append_of_pos shape.2,
        List.dropWhile_append_of_pos shape.2, List.takeWhile_cons_of_neg outside,
        List.dropWhile_cons_of_neg outside, ← chars]
    simp [asOption, placed, described]

theorem asOption_remark (names : List String) (bound : String) (rest : List Char) :
    asOption (names, bound, ' ' :: ' ' :: rest) = none := rfl

namespace FlagLine

def tail (line : FlagLine) : List Char :=
  (line.placeholder ++ "  " ++ line.remark).toList

/-- The placeholder makes the line an option; without one the remark makes it a switch. -/
theorem read_tail {line : FlagLine} (legal : line.Legal) (names : List String) :
    (asOption (names, line.spelling.bound, line.tail)).or
      (asSwitch (names, line.spelling.bound, line.tail)) = some (.flags names line.target) := by
  have described := isDescribed_remark legal.remark
  cases key : line.key with
  | none =>
    have chars : line.tail = ' ' :: ' ' :: line.remark.toList := by simp [tail, placeholder, key]
    rw [chars, asOption_remark, Option.none_or, asSwitch, if_pos described, target, key]
  | some word =>
    have chars : line.tail = ' ' :: '<' :: (word.toList ++ '>' :: ' ' :: ' ' :: line.remark.toList) := by
      simp [tail, placeholder, key]
    rw [chars, asOption_placeholder names _ (legal.key word key) described, Option.some_or, target, key]

theorem tail_eq_cons (line : FlagLine) : ∃ rest, line.tail = ' ' :: rest := by
  cases key : line.key with
  | none => exact ⟨_, by simp [tail, placeholder, key]; rfl⟩
  | some word => exact ⟨_, by simp [tail, placeholder, key]; rfl⟩

theorem readFlags_text {line : FlagLine} (legal : line.Legal) :
    readFlags (line.spelling.text.toList ++ line.tail) =
      some (.flags line.spelling.names line.target) := by
  have tailed := read_tail legal line.spelling.names
  obtain ⟨rest, shape⟩ := tail_eq_cons line
  have spelled := legal.spelling
  -- A pair is also read as a single flag, but the comma is then neither a placeholder nor a blank.
  by_cases alone : ∀ letter name, line.spelling ≠ .pair letter name
  · obtain ⟨noPair, single⟩ := take_alone spelled alone rest
    rw [← shape] at noPair single
    simp only [readFlags, noPair, single, Option.bind_none, Option.bind_some, Option.none_or]
    exact tailed
  · simp only [ne_eq, not_forall, not_not] at alone
    obtain ⟨letter, name, same⟩ := alone
    rw [same] at spelled tailed ⊢
    have pair := takePair_pair spelled rest
    obtain ⟨noOption, noSwitch⟩ := takeSingle_pair spelled line.tail
    rw [← shape] at pair
    simp only [readFlags, pair, noOption, noSwitch, Option.bind_some, Option.none_or, Option.or_none]
    exact tailed

theorem exists_of_text (spelling : Spelling) : ∃ rest, spelling.text.toList = '-' :: rest := by
  cases spelling <;> exact ⟨_, by simp [Spelling.text]; rfl⟩

theorem read_text {line : FlagLine} (legal : line.Legal) :
    read line.text = .flags line.spelling.names line.target := by
  have chars : line.text.toList = ' ' :: ' ' :: (line.spelling.text.toList ++ line.tail) := by
    simp [text, tail]
  obtain ⟨rest, dashed⟩ := exists_of_text line.spelling
  have body : (' ' :: ' ' :: (line.spelling.text.toList ++ line.tail)).dropWhile isBlank =
      line.spelling.text.toList ++ line.tail := by
    simp [dashed, show isBlank ' ' = true by decide, show isBlank '-' = false by decide]
  have flags := readFlags_text legal
  have noUsage : readUsage (line.spelling.text.toList ++ line.tail) = none := by
    rw [dashed]; rfl
  have noSeparator : (line.spelling.text.toList ++ line.tail).head? ≠ some '#' := by
    simp [dashed]
  have indented : (line.spelling.text.toList ++ line.tail).length <
      (' ' :: ' ' :: (line.spelling.text.toList ++ line.tail)).length := by
    simp only [List.length_cons]
    omega
  simp only [read, chars, body, if_neg noSeparator, noUsage, if_pos indented, flags, Option.getD_some]

end FlagLine

theorem read_separator (rest : String) : read ("#" ++ rest) = .separator := by
  have chars : ("#" ++ rest).toList = '#' :: rest.toList := by simp
  simp [read, chars, show isBlank '#' = false by decide]

end UsageGrammar.HelpLine
