import UsageGrammar.Proofs.Binding.Positionals
import UsageGrammar.Proofs.Binding.Schema
import UsageGrammar.Proofs.Invocation.Restatement

/-! The main command and the switches for help and version. Whether a command answers them without its
arguments is decided by its name, which tells the main command from sub-commands; but a grammar of a
single command has it for the main one whatever its name. -/

set_option autoImplicit false

namespace UsageGrammar

/-- A name holds a blank when it is joined from several words. -/
theorem Command.Legal.blank_notMem_iff {c : Command} (legal : c.Legal) :
    ' ' ∉ c.fullName.toList ↔ c.words.length = 1 := by
  obtain ⟨first, rest, words⟩ := List.exists_cons_of_ne_nil legal.words_nonempty
  cases rest with
  | nil =>
    have bare := blank_notMem_of_isWord (legal.words first (by simp [words]))
    simpa [Command.fullName, words, joinWords] using bare
  | cons second rest => simp [Command.fullName, words, joinWords_cons_cons]

theorem Handler.settle_eq_result_iff {α : Type} {h : Handler} {x : Except Fault α} {a : α} :
    h.settle x = .ok (.result a) ↔ x = .ok a := by
  cases x with
  | ok b => simp [Handler.settle]
  | error f =>
    simp only [Handler.settle, reduceCtorEq, iff_false]
    cases h.handle f <;> simp [Except.map]

namespace Binding

/-- Slots are left empty when there are no tokens for them and none is required. -/
theorem placements_eq_nil_iff {slots : List Slot} {positionals : List String} :
    placements slots positionals = .ok [] ↔ positionals = [] ∧ ∀ s ∈ slots, s.required = false := by
  constructor
  · intro done
    obtain ⟨-, -, required, tokens⟩ := placements_spec done
    refine ⟨by simpa using tokens.symm, fun s member => ?_⟩
    cases needed : s.required with
    | false => rfl
    | true => simpa [Table.names] using required s member needed
  · rintro ⟨rfl, optional⟩
    have unneeded : requiredSlots slots = [] := by simpa [requiredSlots] using optional
    have dropped : keepFirst 0 slots = [] := by
      rw [← List.length_eq_zero_iff, length_keepFirst, unneeded, Nat.zero_min, List.length_nil]
    have fitted : fit slots 0 = .ok [] := by
      rw [fit_eq_ok (by simp [unneeded]), unneeded, List.length_nil, Nat.sub_self, dropped]
    rw [placements, List.length_nil, fitted]
    rfl

theorem slotValues_eq_nil_iff {c : Command} {values : Table Bound} {positionals : List String} :
    slotValues c values positionals = .ok [] ↔
      isShortcut c values = true ∨ (positionals = [] ∧ ∀ s ∈ c.slots, s.required = false) := by
  rw [← placements_eq_nil_iff, slotValues]
  split
  · next answers => simp [answers]
  · next asks => simp [asks]

/-- No slot is bound exactly when the slots are passed over or stay empty. -/
theorem bind_slotless_iff {c : Command} {tokens positionals : List String} {values : Table Bound} {key : String}
    (consistent : Consistent c.slots c.flags) (scanned : scan c tokens = .ok (values, positionals))
    (on : values.value? key = some (.flag true)) :
    (∃ result, bind c tokens = .ok result ∧ result.value? key = some (.flag true) ∧
        ∀ s ∈ c.slots, s.name ∉ result.names) ↔
      isShortcut c values = true ∨ (positionals = [] ∧ ∀ s ∈ c.slots, s.required = false) := by
  have typed := scan_typed scanned
  have whole : bind c tokens = (slotValues c values positionals).map (combine c values) := by
    rw [bind_eq, scanned]
    rfl
  rw [whole, ← slotValues_eq_nil_iff]
  constructor
  · rintro ⟨result, bound, -, slotless⟩
    obtain ⟨placed, placing, rfl⟩ := map_eq_ok.mp bound
    have slotted := slotValues_spec placing
    -- All names that are placed are names of slots, and no slot is bound in the result.
    have empty : placed.names = [] := by
      refine List.eq_nil_iff_forall_not_mem.mpr fun name member => ?_
      obtain ⟨s, declared, rfl⟩ := List.mem_map.mp (slotted.names.subset member)
      exact slotless s declared ((mem_names_slot slotted typed consistent declared).mpr member)
    rw [placing, List.map_eq_nil_iff.mp empty]
  · intro placing
    have slotted := slotValues_spec placing
    refine ⟨_, map_eq_ok.mpr ⟨[], placing, rfl⟩, (value?_on slotted key consistent typed).mpr on, ?_⟩
    intro s member
    rw [mem_names_slot slotted typed consistent member]
    simp [Table.names]

end Binding

namespace Model

/-- The tokens give the main command a result with the switch on and without any slot. -/
def Answers (m : Model) (h : Handler) (tokens : List String) (key : String) : Prop :=
  ∃ result, m.invoke h (.list (tokens.map .text)) = .ok (.result ⟨m, m.main, result⟩) ∧
    result.value? key = some (.flag true) ∧ ∀ s ∈ m.main.slots, s.name ∉ result.names

theorem invoke_eq_result_iff {m : Model} {c : Command} {tokens rest : List String}
    (resolved : m.resolve tokens = .ok (c, rest)) (h : Handler) (result : Table Bound) :
    m.invoke h (.list (tokens.map .text)) = .ok (.result ⟨m, c, result⟩) ↔ bind c rest = .ok result := by
  have settled : m.invoke h (.list (tokens.map .text)) = h.settle (m.invokeTokens tokens) := by
    rw [invoke, promptTokens_list]
    rfl
  rw [settled, Handler.settle_eq_result_iff]
  simp only [invokeTokens, resolved]
  cases bind c rest <;> simp

end Model

/-- With help or version switched on, the main command answers without its arguments if there are
sub-commands. A single command does so if its name has one word, and otherwise only when it has nothing
to fill its slots with and needs nothing. -/
theorem invoke_answers_iff {text : String} {m : Model} {tokens rest positionals : List String}
    {values : Table Bound} {key : String} (parsed : Model.parse text = .ok m)
    (resolved : m.resolve tokens = .ok (m.main, rest))
    (scanned : Binding.scan m.main rest = .ok (values, positionals))
    (asked : key = "help" ∨ key = "version") (on : values.value? key = some (.flag true)) (h : Handler) :
    (m.children ≠ [] → m.Answers h tokens key) ∧
      (m.Answers h tokens key ↔ m.main.words.length = 1 ∨
        (positionals = [] ∧ ∀ s ∈ m.main.slots, s.required = false)) := by
  have legal := parse_legal parsed
  have main := legal.commands m.main List.mem_cons_self
  have shortcut : Binding.isShortcut m.main values = true ↔ m.main.words.length = 1 := by
    have switched : values.value? "help" = some (.flag true) ∨ values.value? "version" = some (.flag true) := by
      rcases asked with rfl | rfl
      · exact .inl on
      · exact .inr on
    rw [isShortcut_iff, Command.Answers, main.blank_notMem_iff, and_iff_left switched]
  have answers : m.Answers h tokens key ↔ m.main.words.length = 1 ∨
      (positionals = [] ∧ ∀ s ∈ m.main.slots, s.required = false) := by
    simp only [Model.Answers, Model.invoke_eq_result_iff resolved]
    rw [Binding.bind_slotless_iff main.consistent scanned on, shortcut]
  refine ⟨fun several => answers.mpr (.inl ?_), answers⟩
  obtain ⟨child, member⟩ := List.exists_mem_of_ne_nil _ several
  obtain ⟨first, -, single, -⟩ := legal.children child member
  rw [single, List.length_singleton]

theorem invoke_answers_pack :
    Model.pack.resolve ["-q", "--help", "x", "y"] = .ok (Model.packMain, ["-q", "--help", "x", "y"]) ∧
      Binding.scan Model.packMain ["-q", "--help", "x", "y"] =
        .ok ([("quiet", .flag true), ("help", .flag true)], ["x", "y"]) ∧
      Model.pack.Answers .raise ["-q", "--help", "x", "y"] "help" := by
  have resolved : Model.pack.resolve ["-q", "--help", "x", "y"] =
      .ok (Model.pack.main, ["-q", "--help", "x", "y"]) := by
    decide +kernel
  have scanned : Binding.scan Model.pack.main ["-q", "--help", "x", "y"] =
      .ok ([("quiet", .flag true), ("help", .flag true)], ["x", "y"]) := by
    decide +kernel
  exact ⟨resolved, scanned,
    (invoke_answers_iff Model.parse_packText resolved scanned (.inl rfl) rfl .raise).1 (by decide)⟩

namespace Model

def barLines : List String :=
  ["usage: foo bar <file>", "  --help  show help"]

def bar : Model where
  main :=
    { words := ["foo", "bar"]
      name := "foo bar"
      help := "usage: foo bar <file>\n  --help  show help"
      slots := [⟨"file", true, false⟩]
      flags := [("help", ⟨.switch, "help"⟩)]
      line := some 1 }
  children := []

end Model

/-- The main command of two words asks for its argument although it is asked for help, and hints at
asking for help. -/
theorem invoke_answers_bar :
    Model.parse ("\n".intercalate Model.barLines) = .ok Model.bar ∧
      Model.bar.resolve ["--help"] = .ok (Model.bar.main, ["--help"]) ∧
      Binding.scan Model.bar.main ["--help"] = .ok ([("help", .flag true)], []) ∧
      Model.bar.invoke .raise (.list (["--help"].map .text)) =
        .error (.fault ⟨"foo bar", .argumentMissing (some "file"),
          [("hint", .text "try 'foo bar --help' for more information")]⟩) ∧
      ¬Model.bar.Answers .raise ["--help"] "help" := by
  have whole : ∀ line ∈ Model.barLines, line ≠ "" ∧ Text.IsOneLine line.toList := by decide +kernel
  have parsed : Model.parse ("\n".intercalate Model.barLines) = .ok Model.bar := by
    rw [Model.parse, build, Text.lines_intercalate whole]
    decide +kernel
  have resolved : Model.bar.resolve ["--help"] = .ok (Model.bar.main, ["--help"]) := by decide +kernel
  have scanned : Binding.scan Model.bar.main ["--help"] = .ok ([("help", .flag true)], []) := by
    decide +kernel
  have refused : bind Model.bar.main ["--help"] = .error (.argumentMissing (some "file")) := by
    decide +kernel
  have invoked : Model.bar.invoke .raise (.list (["--help"].map .text)) =
      .error (.fault ⟨"foo bar", .argumentMissing (some "file"),
        [("hint", .text "try 'foo bar --help' for more information")]⟩) := by
    rw [Model.invoke, promptTokens_list]
    simp only [Bind.bind, Except.bind, Model.invokeTokens, resolved, refused]
    rfl
  refine ⟨parsed, resolved, scanned, invoked, ?_⟩
  rintro ⟨result, answered, -⟩
  rw [invoked] at answered
  cases answered

end UsageGrammar
