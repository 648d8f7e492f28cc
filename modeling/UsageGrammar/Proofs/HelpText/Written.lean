import Mathlib.Data.List.TakeWhile
import UsageGrammar.Proofs.HelpLine.Written
import UsageGrammar.Proofs.HelpText.Reading
import UsageGrammar.Proofs.Text.Lines

/-! Help texts that are written from descriptions of commands, and that reading them gives back what
was described: for every list of legal descriptions, and nothing else in the commands. -/

set_option autoImplicit false

namespace UsageGrammar

open HelpLine Text

/-- What a help text says of one command. -/
structure Manual where
  separators : List String
  words : List String
  slots : List Slot
  flagLines : List FlagLine
  deriving DecidableEq, Repr

namespace Manual

def flags (m : Manual) : Table Target :=
  m.flagLines.flatMap FlagLine.entries

def body (m : Manual) : List String :=
  usageText m.words m.slots :: m.flagLines.map FlagLine.text

def front (m : Manual) : List String :=
  m.separators.map ("#" ++ ·)

def lines (m : Manual) : List String :=
  m.front ++ m.body

def command (m : Manual) (line : Nat) : Command where
  words := m.words
  name := joinWords m.words
  help := "\n".intercalate m.body
  slots := m.slots
  flags := m.flags
  line := some line

/-- Words, slots and lines of flags are of the shapes of the dialect and obey the collision rules. -/
structure Legal (m : Manual) : Prop where
  separators : ∀ text ∈ m.separators, IsOneLine text.toList
  words_nonempty : m.words ≠ []
  words : ∀ word ∈ m.words, Command.isWord word.toList = true
  slots : ∀ s ∈ m.slots, Slot.isName s.name.toList = true
  flagLines : ∀ line ∈ m.flagLines, line.Legal
  consistent : Consistent m.slots m.flags

instance (m : Manual) : Decidable m.Legal :=
  decidable_of_iff
    ((∀ text ∈ m.separators, IsOneLine text.toList) ∧ m.words ≠ [] ∧
      (∀ word ∈ m.words, Command.isWord word.toList = true) ∧
      (∀ s ∈ m.slots, Slot.isName s.name.toList = true) ∧ (∀ line ∈ m.flagLines, line.Legal) ∧
      Consistent m.slots m.flags)
    ⟨fun ⟨separators, nonempty, words, slots, lines, consistent⟩ =>
      ⟨separators, nonempty, words, slots, lines, consistent⟩,
    fun ⟨separators, nonempty, words, slots, lines, consistent⟩ =>
      ⟨separators, nonempty, words, slots, lines, consistent⟩⟩

/-- The help text that describes commands one after the other. -/
def written (ms : List Manual) : String :=
  "\n".intercalate (ms.flatMap lines)

def commandsFrom (n : Nat) : List Manual → List Command
  | [] => []
  | m :: rest => m.command (n + m.front.length) :: commandsFrom (n + m.lines.length) rest

end Manual

theorem trimLines_of_filled {lines : List String} (filled : ∀ line ∈ lines, Text.allBlank line = false) :
    Draft.trimLines lines = lines := by
  have kept (lines : List String) (filled : ∀ line ∈ lines, Text.allBlank line = false) :
      lines.dropWhile Text.allBlank = lines := by
    cases lines with
    | nil => rfl
    | cons first rest => simp [filled first List.mem_cons_self]
  have reversed := kept lines.reverse fun line member => filled line (List.mem_reverse.mp member)
  rw [Draft.trimLines, kept lines filled, reversed, List.reverse_reverse]

/-- A line that a manual writes is not blank and holds no line end. -/
def IsWhole (line : String) : Prop :=
  allBlank line = false ∧ IsOneLine line.toList

theorem ne_empty_of_isWhole {line : String} (whole : IsWhole line) : line ≠ "" := by
  rintro rfl
  cases whole.1

theorem isOneLine_of_parts {s : List Char} (parts : ∀ c ∈ s, isNamePart c = true) : IsOneLine s :=
  fun c member => isLineBreak_of_isNamePart (parts c member)

theorem isOneLine_joinWords {words : List String} (inside : ∀ word ∈ words, IsOneLine word.toList) :
    IsOneLine (joinWords words).toList := by
  intro c member
  rcases mem_joinWords member with rfl | ⟨word, found, member⟩
  · decide
  · exact inside word found c member

theorem isOneLine_usage {s : Slot} (named : Slot.isName s.name.toList = true) :
    IsOneLine s.usage.toList := by
  have marks : IsOneLine "<>[].".toList := by decide
  intro c member
  rcases Slot.mem_usage member with member | member
  · exact isLineBreak_of_isNamePart (Slot.isNamePart_of_isName named c member)
  · exact marks c member

theorem isOneLine_flagName {name : List Char} (named : Flag.isName name = true) : IsOneLine name :=
  isOneLine_of_parts fun c member => Flag.isNamePart_of_isPart (Flag.isPart_of_isName named c member)

theorem isOneLine_key {key : List Char} (shape : isKey key = true) : IsOneLine key :=
  isOneLine_of_parts (isNamePart_of_isKey shape)

theorem isOneLine_spelling {spelling : Spelling} (legal : spelling.Legal) :
    IsOneLine spelling.text.toList := by
  have dash : IsOneLine "-".toList := by decide
  have dashes : IsOneLine "--".toList := by decide
  have comma : IsOneLine ", --".toList := by decide
  cases spelling with
  | pair letter name =>
    have short := isOneLine_flagName (Flag.isName_singleton legal.1)
    have long := isOneLine_flagName legal.2
    simp only [Spelling.text, String.toList_append, isOneLine_append, String.toList_singleton]
    exact ⟨⟨⟨dash, short⟩, comma⟩, long⟩
  | short letter =>
    have short := isOneLine_flagName (Flag.isName_singleton legal)
    simp only [Spelling.text, String.toList_append, isOneLine_append, String.toList_singleton]
    exact ⟨dash, short⟩
  | long name =>
    simp only [Spelling.text, String.toList_append, isOneLine_append]
    exact ⟨dashes, isOneLine_flagName legal⟩

theorem isOneLine_placeholder {line : FlagLine} (legal : line.Legal) :
    IsOneLine line.placeholder.toList := by
  have front : IsOneLine " <".toList := by decide
  have back : IsOneLine ">".toList := by decide
  cases key : line.key with
  | none => simp [FlagLine.placeholder, key, IsOneLine]
  | some word =>
    simp only [FlagLine.placeholder, key, String.toList_append, isOneLine_append]
    exact ⟨⟨front, isOneLine_key (legal.key word key)⟩, back⟩

theorem isWhole_usageText {words : List String} {slots : List Slot}
    (shape : ∀ word ∈ words, Command.isWord word.toList = true)
    (named : ∀ s ∈ slots, Slot.isName s.name.toList = true) : IsWhole (usageText words slots) := by
  have opening : IsOneLine "usage: ".toList := by decide
  have blank : IsOneLine " ".toList := by decide
  have first : (usageText words slots).toList.head? = some 'u' := by simp [usageText]
  constructor
  · rw [allBlank, List.all_eq_false]
    exact ⟨'u', List.mem_of_head? first, by decide⟩
  · simp only [usageText, String.toList_append, isOneLine_append]
    refine ⟨⟨⟨opening, isOneLine_joinWords ?_⟩, blank⟩, isOneLine_joinWords ?_⟩
    · intro word member
      exact isOneLine_of_parts (Command.isNamePart_of_isWord (shape word member))
    · intro usage member
      obtain ⟨s, found, rfl⟩ := List.mem_map.mp member
      exact isOneLine_usage (named s found)

theorem isWhole_flagLine {line : FlagLine} (legal : line.Legal) : IsWhole line.text := by
  have blanks : IsOneLine "  ".toList := by decide
  obtain ⟨rest, dashed⟩ := FlagLine.exists_of_text line.spelling
  constructor
  · rw [allBlank, List.all_eq_false]
    exact ⟨'-', by simp [FlagLine.text, dashed], by decide⟩
  · simp only [FlagLine.text, String.toList_append, isOneLine_append]
    exact ⟨⟨⟨⟨blanks, isOneLine_spelling legal.spelling⟩, isOneLine_placeholder legal⟩, blanks⟩,
      legal.one_line⟩

theorem isWhole_of_mem_front {m : Manual} (legal : m.Legal) : ∀ line ∈ m.front, IsWhole line := by
  have sign : IsOneLine "#".toList := by decide
  intro line member
  obtain ⟨text, found, rfl⟩ := List.mem_map.mp member
  constructor
  · rw [allBlank, List.all_eq_false]
    exact ⟨'#', by simp, by decide⟩
  · rw [String.toList_append, isOneLine_append]
    exact ⟨sign, legal.separators text found⟩

theorem isWhole_of_mem_body {m : Manual} (legal : m.Legal) : ∀ line ∈ m.body, IsWhole line := by
  intro line member
  rcases List.mem_cons.mp member with rfl | member
  · exact isWhole_usageText legal.words legal.slots
  · obtain ⟨flags, found, rfl⟩ := List.mem_map.mp member
    exact isWhole_flagLine (legal.flagLines flags found)

theorem toCommand_manual {m : Manual} (legal : m.Legal) (n : Nat) :
    Draft.toCommand ⟨m.words, m.body, some (n : Int), m.slots, m.flags⟩ = m.command n := by
  have trimmed := trimLines_of_filled fun line member => (isWhole_of_mem_body legal line member).1
  simp only [Draft.toCommand, Draft.fullName, Manual.command, trimmed]

namespace Reading

theorem step_usageText {r : Reading} {n : Nat} {words : List String} {slots : List Slot}
    (nonempty : words ≠ []) (shape : ∀ word ∈ words, Command.isWord word.toList = true)
    (named : ∀ s ∈ slots, Slot.isName s.name.toList = true) (consistent : Consistent slots [])
    (heading : r.heading = []) (fresh : joinWords words ∉ r.drafts.map Draft.fullName) :
    r.step n (usageText words slots) =
      .ok ⟨r.drafts, .command ⟨words, [usageText words slots], some n, slots, []⟩⟩ := by
  have line := read_usageText slots nonempty shape
  have scanned := Slot.scan_usage slots named
  rw [← scanned] at consistent
  rw [step_usage line fresh consistent, heading, scanned, List.nil_append]

theorem run_flagLines (closed : List Draft) {d : Draft} {lines : List FlagLine} (n : Nat)
    (legal : ∀ line ∈ lines, line.Legal)
    (consistent : Consistent d.slots (d.flags ++ lines.flatMap FlagLine.entries)) :
    (⟨closed, .command d⟩ : Reading).run n (lines.map FlagLine.text) =
      .ok ⟨closed, .command { d with
        help := d.help ++ lines.map FlagLine.text
        flags := d.flags ++ lines.flatMap FlagLine.entries }⟩ := by
  have inside : ∀ text ∈ lines.map FlagLine.text, (HelpLine.read text).IsBody := by
    intro text member
    obtain ⟨line, found, rfl⟩ := List.mem_map.mp member
    exact .inr ⟨_, _, FlagLine.read_text (legal line found)⟩
  have entries : (lines.map FlagLine.text).flatMap (fun text => (HelpLine.read text).entries) =
      lines.flatMap FlagLine.entries := by
    rw [List.flatMap_map]
    refine List.flatMap_congr fun line member => ?_
    rw [FlagLine.read_text (legal line member)]
    rfl
  rw [← entries] at consistent ⊢
  exact run_body closed n inside consistent

/-- Separators close the command in front of them. -/
theorem run_separators (r : Reading) (n : Nat) (texts : List String) :
    ∃ next, r.run n (texts.map ("#" ++ ·)) = .ok next ∧ next.drafts = r.drafts ∧
      (r.heading = [] → next.heading = []) := by
  induction texts generalizing r n with
  | nil => exact ⟨r, rfl, rfl, id⟩
  | cons text rest ih =>
    obtain ⟨next, ran, same, heading⟩ := ih ⟨r.drafts, .prose []⟩ (n + 1)
    refine ⟨next, ?_, same, fun _ => heading rfl⟩
    simp only [List.map_cons, run, step, read_separator]
    exact ran

theorem run_lines {r : Reading} {n : Nat} {m : Manual} (legal : m.Legal) (heading : r.heading = [])
    (fresh : joinWords m.words ∉ r.drafts.map Draft.fullName) :
    r.run n m.lines = .ok ⟨r.drafts, .command
      ⟨m.words, m.body, some ((n + m.front.length : Nat) : Int), m.slots, m.flags⟩⟩ := by
  obtain ⟨next, ran, same, kept⟩ : ∃ next, r.run n m.front = .ok next ∧ next.drafts = r.drafts ∧
      (r.heading = [] → next.heading = []) := run_separators r n m.separators
  have opened : Consistent m.slots [] :=
    legal.consistent.mono (List.Sublist.refl _) (List.nil_sublist _)
  have usage := step_usageText (n := n + m.front.length) legal.words_nonempty legal.words legal.slots
    opened (kept heading) (same ▸ fresh)
  have flags := run_flagLines r.drafts (d := ⟨m.words, [usageText m.words m.slots],
    some ((n + m.front.length : Nat) : Int), m.slots, []⟩) (n + m.front.length + 1)
    legal.flagLines legal.consistent
  rw [Manual.lines, run_append, ran]
  simp only [Except.bind, Manual.body, run, usage, same]
  exact flags

/-- The names of commands that are still to be read are different and new. -/
theorem run_written {r : Reading} {n : Nat} {ms : List Manual} (legal : ∀ m ∈ ms, m.Legal)
    (heading : r.heading = [])
    (distinct : (r.drafts.map Draft.fullName ++ ms.map (joinWords ·.words)).Nodup) :
    ∃ last, r.run n (ms.flatMap Manual.lines) = .ok last ∧
      last.drafts.map Draft.toCommand = r.drafts.map Draft.toCommand ++ Manual.commandsFrom n ms := by
  -- The reading may be inside of a command written before; only its drafts and heading count.
  induction ms generalizing r n with
  | nil => exact ⟨r, rfl, by simp [Manual.commandsFrom]⟩
  | cons m rest ih =>
    have fresh : joinWords m.words ∉ r.drafts.map Draft.fullName := by
      intro member
      exact (List.nodup_append.mp distinct).2.2 _ member _ List.mem_cons_self rfl
    have first := run_lines (n := n) (legal m List.mem_cons_self) heading fresh
    have split : r.run n ((m :: rest).flatMap Manual.lines) =
        (r.run n m.lines).bind fun r => r.run (n + m.lines.length) (rest.flatMap Manual.lines) := by
      rw [List.flatMap_cons, run_append]
    rw [first] at split
    obtain ⟨last, ran, drafts⟩ := ih (n := n + m.lines.length)
      (r := ⟨r.drafts, .command ⟨m.words, m.body, some ((n + m.front.length : Nat) : Int), m.slots, m.flags⟩⟩)
      (fun m member => legal m (List.mem_cons_of_mem _ member)) rfl
      (by simpa [Reading.drafts, Draft.fullName] using distinct)
    refine ⟨last, split.trans ran, ?_⟩
    rw [drafts, Manual.commandsFrom, ← toCommand_manual (legal m List.mem_cons_self)]
    simp [Reading.drafts]

end Reading

/-- Reading undoes writing: a text that describes commands of different words declares exactly these
commands, each with its words, its slots in order and its spellings in order. -/
theorem build_written (ms : List Manual) (legal : ∀ m ∈ ms, m.Legal)
    (distinct : (ms.map Manual.words).Nodup) :
    build (Manual.written ms) = .ok (Manual.commandsFrom 1 ms) := by
  have whole : ∀ line ∈ ms.flatMap Manual.lines, line ≠ "" ∧ IsOneLine line.toList := by
    intro line member
    obtain ⟨m, found, member⟩ := List.mem_flatMap.mp member
    have whole : IsWhole line := by
      rcases List.mem_append.mp member with member | member
      · exact isWhole_of_mem_front (legal m found) line member
      · exact isWhole_of_mem_body (legal m found) line member
    exact ⟨ne_empty_of_isWhole whole, whole.2⟩
  have names : (ms.map (joinWords ·.words)).Nodup := by
    -- Words hold no blanks, so different ones are joined to different names.
    have joined : ((ms.map Manual.words).map joinWords).Nodup := by
      refine distinct.map_on fun first member second member' same => ?_
      obtain ⟨m, found, rfl⟩ := List.mem_map.mp member
      obtain ⟨m', found', rfl⟩ := List.mem_map.mp member'
      exact joinWords_inj (legal m found).words (legal m' found').words same
    rwa [List.map_map] at joined
  obtain ⟨last, ran, drafts⟩ := Reading.run_written (r := Reading.start) (n := 1) legal rfl
    (by simpa [Reading.start, Reading.drafts] using names)
  rw [build, Manual.written, lines_intercalate whole, buildLines, ran]
  simpa [Reading.start, Reading.drafts, Except.map] using drafts

/-- Two commands that use every form of a slot, of a spelling and of a target. -/
def Manual.archiver : List Manual :=
  [⟨[], ["pack"], [⟨"files", true, true⟩],
      [⟨.pair 'o' "out-dir", "dir", "where to write"⟩, ⟨.pair 'q' "quiet", none, "say <nothing>"⟩,
        ⟨.short 'n', none, "do not write"⟩, ⟨.long "level", "level", "- 0 to 9"⟩]⟩,
    ⟨[" unpacking", ""], ["pack", "x-tract"], [⟨"from", true, false⟩, ⟨"to", false, false⟩, ⟨"part", false, true⟩],
      [⟨.short 'p', "key_1", "the key"⟩, ⟨.long "p2", none, "#"⟩]⟩]

theorem build_written_archiver :
    (∀ m ∈ Manual.archiver, m.Legal) ∧ (Manual.archiver.map Manual.words).Nodup ∧
      build (Manual.written Manual.archiver) = .ok (Manual.commandsFrom 1 Manual.archiver) := by
  have legal : ∀ m ∈ Manual.archiver, m.Legal := by decide +kernel
  have distinct : (Manual.archiver.map Manual.words).Nodup := by decide
  exact ⟨legal, distinct, build_written Manual.archiver legal distinct⟩

example : Manual.written [⟨[""], ["pack"], [⟨"files", true, true⟩], [⟨.short 'n', none, "do nothing"⟩]⟩] =
    "#\nusage: pack <files>...\n  -n  do nothing" := by decide +kernel

end UsageGrammar
