import UsageGrammar.Proofs.Check.Description
import UsageGrammar.Proofs.HelpText.Written
import UsageGrammar.Proofs.Model

/-! The usage line that describes a command, read as a help text. The words and the slots are read back and
the switches are passed over, however many there are. The placeholder of an option is read as one more
slot, so only the usage lines of commands without options read back as they were meant. -/

set_option autoImplicit false

namespace UsageGrammar

open HelpLine Text

namespace Argument

/-- The name is one of slots, and the spellings are names of flags. -/
structure Legal (key : String) (a : Argument) : Prop where
  key : Slot.isName key.toList = true
  names : ∀ name ∈ a.names, Flag.isName name.toList = true

def readAs (key : String) : Argument → List Slot
  | .slot required variadic => [⟨key, required, variadic⟩]
  | .flag .option _ => [⟨key, true, false⟩]
  | .flag .switch _ => []

end Argument

namespace Command

/-- The slots that the placeholders of the options are taken for. -/
def placeholders (c : Command) : List Slot :=
  (c.options.filter (·.1.kind == .option)).map fun (target, _) => ⟨target.key, true, false⟩

def usageTail (arguments : Table Argument) : List Char :=
  (arguments.map fun (key, a) => (a.usage key).toList).flatMap (' ' :: ·)

end Command

theorem mem_spellings {names : List String} (named : ∀ name ∈ names, Flag.isName name.toList = true)
    {c : Char} (member : c ∈ (spellings names).toList) : isNamePart c = true ∨ c ∈ ", ".toList := by
  have spelled : ∀ name ∈ names, ∀ c ∈ (Flag.spell name).toList, isNamePart c = true := by
    intro name found c member
    -- The dashes in front of a name are parts of a name too.
    have parts : c = '-' ∨ c ∈ name.toList := by
      unfold Flag.spell at member
      split at member <;> simpa using member
    rcases parts with rfl | member
    · decide
    · exact Flag.isNamePart_of_isPart (Flag.isPart_of_isName (named name found) c member)
  induction names with
  | nil => simp [spellings] at member
  | cons name rest ih =>
    obtain ⟨first, others⟩ := List.forall_mem_cons.mp spelled
    cases rest with
    | nil => exact .inl (first c (by simpa [spellings] using member))
    | cons second rest =>
      simp only [spellings, List.map_cons, String.intercalate_cons_cons, String.toList_append,
        List.mem_append] at member
      rcases member with (member | comma) | member
      · exact .inl (first c member)
      · exact .inr comma
      · exact ih (fun name member => named name (List.mem_cons_of_mem _ member)) member others

namespace Argument

variable {key : String} {a : Argument}

theorem usage_head (key : String) (a : Argument) (rest : List Char) :
    ∀ d ∈ ((a.usage key).toList ++ rest).head?, isNamePart d = false ∧ isGap d = false := by
  cases a with
  | slot required variadic =>
    cases required with
    | true => simp [usage, Slot.usage]; decide
    | false => simp [usage, Slot.usage]; decide
  | flag kind names => cases kind <;> · simp [usage]; decide

theorem isOneLine_usage (legal : a.Legal key) : IsOneLine (a.usage key).toList := by
  have opening : IsOneLine "[".toList := by decide
  have closing : IsOneLine "]".toList := by decide
  have left : IsOneLine " <".toList := by decide
  have right : IsOneLine ">]".toList := by decide
  have word : IsOneLine key.toList := isOneLine_of_parts (Slot.isNamePart_of_isName legal.key)
  have comma : IsOneLine ", ".toList := by decide
  have spelled : IsOneLine (spellings a.names).toList := fun c member =>
    (mem_spellings legal.names member).elim isLineBreak_of_isNamePart (comma c)
  cases a with
  | slot required variadic => exact UsageGrammar.isOneLine_usage legal.key
  | flag kind names =>
    cases kind with
    | switch =>
      simp only [usage, String.toList_append, isOneLine_append]
      exact ⟨⟨opening, spelled⟩, closing⟩
    | option =>
      simp only [usage, String.toList_append, isOneLine_append]
      exact ⟨⟨⟨⟨opening, spelled⟩, left⟩, word⟩, right⟩

theorem angle_notMem_spellings {names : List String} (named : ∀ name ∈ names, Flag.isName name.toList = true) :
    '<' ∉ (spellings names).toList := by
  intro member
  rcases mem_spellings named member with part | comma
  · exact absurd part (by decide)
  · exact absurd comma (by decide)

/-- An argument of the usage line is read as a slot or passed over, whatever stands behind it. -/
theorem scanFrom_usage (legal : a.Legal key) {rest : List Char} (stops : rest.head? ≠ some '.') :
    Slot.scanFrom 0 ((a.usage key).toList ++ rest) = a.readAs key ++ Slot.scanFrom 0 rest := by
  have named (required variadic : Bool) : Slot.isName (Slot.mk key required variadic).name.toList = true :=
    legal.key
  cases a with
  | slot required variadic => exact Slot.scanFrom_usage (named required variadic) stops
  | flag kind names =>
    have bare := angle_notMem_spellings legal.names
    simp only [Argument.names] at bare
    cases kind with
    | switch =>
      have chars : (usage key (.flag .switch names)).toList ++ rest =
          ('[' :: (spellings names).toList ++ [']']) ++ rest := by simp [usage]
      rw [chars, Slot.scanFrom_plain (by simp [bare]) (by rw [List.getLast?_concat]; decide)]
      rfl
    | option =>
      have chars : (usage key (.flag .option names)).toList ++ rest =
          ('[' :: (spellings names).toList ++ [' ']) ++
            ((Slot.usage ⟨key, true, false⟩).toList ++ ([']'] ++ rest)) := by
        simp [usage, Slot.usage]
      have slot : Slot.scanFrom 0 ((Slot.usage ⟨key, true, false⟩).toList ++ ([']'] ++ rest)) =
          ⟨key, true, false⟩ :: Slot.scanFrom 0 ([']'] ++ rest) :=
        Slot.scanFrom_usage (named true false) (by simp)
      -- The bracket in front of the spellings is not one of the slot, which therefore counts as required.
      rw [chars, Slot.scanFrom_plain (by simp [bare]) (by rw [List.getLast?_concat]; decide), slot,
        Slot.scanFrom_plain (by simp) (by simp)]
      rfl

end Argument

namespace Command

theorem scanFrom_usageTail {arguments : Table Argument} (legal : ∀ entry ∈ arguments, entry.2.Legal entry.1) :
    Slot.scanFrom 0 (usageTail arguments) = arguments.flatMap fun (key, a) => a.readAs key := by
  induction arguments with
  | nil => rfl
  | cons entry rest ih =>
    obtain ⟨first, others⟩ := List.forall_mem_cons.mp legal
    have stops : (usageTail rest).head? ≠ some '.' := by
      cases rest <;> simp [usageTail]
    have chars : usageTail (entry :: rest) = ' ' :: ((entry.2.usage entry.1).toList ++ usageTail rest) := rfl
    rw [chars, Slot.scanFrom_blank, Argument.scanFrom_usage first stops, ih others, List.flatMap_cons]

theorem endsWords_usageTail (arguments : Table Argument) : EndsWords (usageTail arguments) := by
  cases arguments with
  | nil => exact .nothing
  | cons entry rest => exact .blank (Argument.usage_head entry.1 entry.2 _)

variable {c : Command}

theorem usageLine_eq (c : Command) :
    c.usageLine = "usage: " ++ joinWords c.words ++ String.ofList (usageTail c.arguments) := by
  apply String.toList_injective
  simp only [usageLine, usageTail, joinWords_toList, List.map_map, String.toList_append, String.toList_ofList]
  rfl

theorem isName_of_legalTarget {t : Target} (legal : LegalTarget t) : Slot.isName t.key.toList = true := by
  obtain ⟨kind, key⟩ := t
  have parts : ∀ c ∈ key.toList, isNamePart c = true := by
    cases kind with
    | switch => exact fun c member => Flag.isNamePart_of_isPart (Flag.isPart_of_isName legal c member)
    | option => exact isNamePart_of_isKey legal
  have filled : key.toList ≠ [] := by
    intro empty
    simp only [LegalTarget, empty] at legal
    cases kind <;> cases legal
  simp only [Slot.isName, Bool.and_eq_true, Bool.not_eq_true', List.all_eq_true]
  exact ⟨by simpa using filled, parts⟩

theorem legal_of_mem_entries (legal : c.Legal) : ∀ entry ∈ c.entries, entry.2.Legal entry.1 := by
  intro entry member
  rcases List.mem_append.mp member with slot | flag
  · obtain ⟨s, found, rfl⟩ := List.mem_map.mp slot
    exact ⟨legal.slots s found, by simp [Argument.names]⟩
  · simp only [options, List.map_map, List.mem_map, List.mem_eraseDups] at flag
    obtain ⟨target, declared, rfl⟩ := flag
    refine ⟨isName_of_legalTarget (legal.targets target declared), fun name listed => ?_⟩
    obtain ⟨other, found, rfl⟩ := List.mem_map.mp listed
    exact legal.spellings other.1 (Table.mem_names (List.mem_filter.mp found).1)

theorem readAs_entries (c : Command) :
    (c.entries.flatMap fun (key, a) => a.readAs key) = c.slots ++ c.placeholders := by
  have slots : (c.slots.map fun s => (s.name, Argument.slot s.required s.variadic)).flatMap
      (fun (key, a) => a.readAs key) = c.slots := by
    simp [List.flatMap_map, Argument.readAs]
  have flags (options : List (Target × List String)) :
      (options.map fun (target, names) => (target.key, Argument.flag target.kind names)).flatMap
        (fun (key, a) => a.readAs key) =
      (options.filter (·.1.kind == .option)).map fun (target, _) => ⟨target.key, true, false⟩ := by
    induction options with
    | nil => rfl
    | cons option rest ih =>
      obtain ⟨⟨kind, key⟩, names⟩ := option
      cases kind with
      | switch => exact ih
      | option => exact congrArg (⟨key, true, false⟩ :: ·) ih
  rw [entries, List.flatMap_append, slots, flags, placeholders]

theorem read_usageLine (legal : c.Legal) :
    HelpLine.read c.usageLine = .usage c.words (String.ofList (usageTail c.arguments)) ∧
      Slot.scan (String.ofList (usageTail c.arguments)) = c.slots ++ c.placeholders := by
  have ends : EndsWords (String.ofList (usageTail c.arguments)).toList := by
    rw [String.toList_ofList]
    exact endsWords_usageTail c.arguments
  rw [usageLine_eq]
  refine ⟨HelpLine.read_usage legal.words_nonempty legal.words ends, ?_⟩
  rw [Slot.scan, String.toList_ofList, arguments_eq legal.consistent,
    scanFrom_usageTail (legal_of_mem_entries legal), readAs_entries]

theorem isOneLine_usageLine (legal : c.Legal) : IsOneLine c.usageLine.toList := by
  have opening : IsOneLine "usage: ".toList := by decide
  refine isOneLine_joinWords fun part member => ?_
  rcases List.mem_cons.mp member with rfl | member
  · rw [String.toList_append, isOneLine_append]
    refine ⟨opening, isOneLine_joinWords fun word found => ?_⟩
    exact isOneLine_of_parts (Command.isNamePart_of_isWord (legal.words word found))
  · rw [arguments_eq legal.consistent] at member
    obtain ⟨entry, found, rfl⟩ := List.mem_map.mp member
    exact Argument.isOneLine_usage (legal_of_mem_entries legal entry found)

theorem consistent_placeholders (consistent : Consistent c.slots c.flags) :
    Consistent (c.slots ++ c.placeholders) [] := by
  have part : ((c.slots ++ c.placeholders).map Slot.name).Sublist c.entries.names := by
    have kept : (c.placeholders.map Slot.name).Sublist (c.options.map (·.1.key)) := by
      rw [placeholders, List.map_map]
      exact List.filter_sublist.map _
    rw [names_entries, List.map_append]
    exact List.Sublist.append_left kept _
  have distinct := (nodup_entries consistent).sublist part
  exact ⟨distinct, by simp [Table.names], by simp [Table.names], by simp [Table.values], by simp [Table.values]⟩

def reread (c : Command) : Command where
  words := c.words
  name := c.fullName
  help := c.usageLine
  slots := c.slots ++ c.placeholders
  flags := []
  line := some 1

theorem build_usageLine_of_legal (legal : c.Legal) : build c.usageLine = .ok [c.reread] := by
  obtain ⟨line, scanned⟩ := read_usageLine legal
  have whole : ∀ text ∈ [c.usageLine], IsOneLine text.toList :=
    List.forall_mem_singleton.mpr (isOneLine_usageLine legal)
  have joined : c.usageLine = "\n".intercalate [c.usageLine] := by simp
  have consistent := consistent_placeholders legal.consistent
  rw [← scanned] at consistent
  have step := Reading.step_usage (r := Reading.start) (n := 1) line (by simp [Reading.start, Reading.drafts])
    consistent
  have filled : allBlank c.usageLine = false := by
    rw [allBlank, List.all_eq_false]
    exact ⟨'u', by simp [usageLine_eq], by decide⟩
  have trimmed : Draft.trimLines [c.usageLine] = [c.usageLine] :=
    trimLines_of_filled (List.forall_mem_singleton.mpr filled)
  have command : Draft.toCommand ⟨c.words, [c.usageLine], some 1, c.slots ++ c.placeholders, []⟩ = c.reread := by
    rw [Draft.toCommand, trimmed]
    simp [reread, Draft.fullName, fullName]
  have ran : Reading.start.run 1 [c.usageLine] =
      .ok ⟨[], .command ⟨c.words, [c.usageLine], some 1, c.slots ++ c.placeholders, []⟩⟩ := by
    rw [Reading.run, step, scanned]
    rfl
  rw [joined, build_join whole, buildLines, ran, ← command]
  rfl

theorem placeholders_eq_nil_iff : c.placeholders = [] ↔ ∀ t ∈ c.flags.values, t.kind = .switch := by
  have kinds (kind : FlagKind) : ¬kind = .option ↔ kind = .switch := by cases kind <;> decide
  rw [placeholders, List.map_eq_nil_iff, List.filter_eq_nil_iff, options]
  simp only [List.forall_mem_map, List.mem_eraseDups, beq_iff_eq, kinds]

end Command

/-- The usage line that describes a command declares one command of its words and slots, and no flags. It
has a slot more for each option, so the slots are the same exactly when there are none but switches. -/
theorem build_usageLine_iff {text : String} {commands : List Command} (built : build text = .ok commands)
    {c : Command} (member : c ∈ commands) :
    ∃ again, build c.usageLine = .ok [again] ∧ again.words = c.words ∧
      again.slots = c.slots ++ c.placeholders ∧ again.flags = [] ∧
      (again.slots = c.slots ↔ ∀ t ∈ c.flags.values, t.kind = .switch) := by
  have legal := (build_legal built c member).1
  refine ⟨c.reread, Command.build_usageLine_of_legal legal, rfl, rfl, rfl, ?_⟩
  rw [← Command.placeholders_eq_nil_iff]
  exact List.append_right_eq_self

theorem build_usageLine_packList :
    build Model.packText = .ok [Model.packMain, Model.packList] ∧
      ∃ again, build Model.packList.usageLine = .ok [again] ∧ again.words = Model.packList.words ∧
        again.slots = Model.packList.slots := by
  obtain ⟨again, built, words, -, -, same⟩ :=
    build_usageLine_iff Model.build_packText (List.mem_cons_of_mem _ List.mem_cons_self)
  exact ⟨Model.build_packText, again, built, words, same.mpr (by decide)⟩

/-- The placeholder of an option is read as a slot that the command does not have. -/
theorem build_usageLine_export :
    build ("\n".intercalate Command.exportLines) = .ok [Command.exportTable] ∧
      Command.exportTable.usageLine =
        "usage: db export <table> [<columns>...] [-f, --format, --as <format>] [-q, --quiet]" ∧
      ∃ again, build Command.exportTable.usageLine = .ok [again] ∧
        again.slots = Command.exportTable.slots ++ [⟨"format", true, false⟩] := by
  have legal := (build_legal Command.build_exportLines Command.exportTable List.mem_cons_self).1
  exact ⟨Command.build_exportLines, by rfl, Command.exportTable.reread,
    Command.build_usageLine_of_legal legal, by decide⟩

end UsageGrammar
