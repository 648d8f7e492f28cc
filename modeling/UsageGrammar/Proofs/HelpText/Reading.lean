import UsageGrammar.HelpText
import UsageGrammar.Proofs.Draft
import UsageGrammar.Proofs.HelpLine.Shape
import UsageGrammar.Proofs.Outcome
import UsageGrammar.Proofs.Slot

/-! What the reading of a help text keeps true. Every command is made of legal words, slots and flags
that obey the collision rules, and no two commands have the same full name. -/

set_option autoImplicit false

namespace UsageGrammar

/-- What is known of every command that a help text declares. -/
structure Command.Legal (c : Command) : Prop where
  words_nonempty : c.words ≠ []
  words : ∀ word ∈ c.words, isWord word.toList = true
  slots : ∀ s ∈ c.slots, Slot.isName s.name.toList = true
  spellings : ∀ name ∈ c.flags.names, Flag.isName name.toList = true
  targets : ∀ t ∈ c.flags.values, HelpLine.LegalTarget t
  consistent : Consistent c.slots c.flags

namespace Draft

theorem opened_legal {words : List String} {help : List String} {line : Option Int}
    {slots : List Slot} (nonempty : words ≠ [])
    (shape : ∀ word ∈ words, Command.isWord word.toList = true)
    (named : ∀ s ∈ slots, Slot.isName s.name.toList = true) {d : Draft}
    (declared : declareSlots ⟨words, help, line, [], []⟩ line slots = .ok d) :
    d.words = words ∧ d.toCommand.Legal := by
  obtain ⟨rfl, consistent⟩ := (declareSlots_eq_ok_iff Consistent.empty).mp declared
  exact ⟨rfl, nonempty, shape, named, by simp [toCommand, Table.names],
    by simp [toCommand, Table.values], consistent⟩

theorem declareFlags_legal {d r : Draft} {names : List String} {target : Target} {line : Option Int}
    (legal : d.toCommand.Legal) (declares : HelpLine.Declares names target)
    (declared : d.declareFlags names target line = ⟨r, none⟩) :
    r.words = d.words ∧ r.toCommand.Legal := by
  obtain ⟨nonempty, named, bound⟩ := declares
  obtain ⟨rfl, consistent⟩ := (declareFlags_eq_none_iff legal.consistent nonempty).mp declared
  refine ⟨rfl, legal.words_nonempty, legal.words, legal.slots, ?_, ?_, consistent⟩
  · intro name member
    simp only [toCommand, Table.names_append, List.mem_append] at member
    rcases member with member | member
    · exact legal.spellings name member
    · exact named name (by simpa [Table.names] using member)
  · intro t member
    simp only [toCommand, Table.values_append, List.mem_append] at member
    rcases member with member | member
    · exact legal.targets t member
    · have same : t = target := by
        simp only [Table.values, List.map_map, List.mem_map, Function.comp_apply] at member
        obtain ⟨_, _, same⟩ := member
        exact same.symm
      rwa [same]

theorem addHelp_legal {d : Draft} (legal : d.toCommand.Legal) (text : String) :
    (d.addHelp text).toCommand.Legal :=
  ⟨legal.words_nonempty, legal.words, legal.slots, legal.spellings, legal.targets, legal.consistent⟩

end Draft

namespace Reading

theorem run_append (r : Reading) (n : Nat) (first second : List String) :
    r.run n (first ++ second) = (r.run n first).bind fun r => r.run (n + first.length) second := by
  induction first generalizing r n with
  | nil => rfl
  | cons text rest ih =>
    simp only [List.cons_append, run, List.length_cons]
    cases r.step n text with
    | error e => rfl
    | ok r =>
      have shift : n + (rest.length + 1) = n + 1 + rest.length := by omega
      rw [shift]
      exact ih r (n + 1)

/-- All that one line can do to the reading. -/
theorem step_cases {r next : Reading} {n : Nat} {text : String} (stepped : r.step n text = .ok next) :
    (HelpLine.read text = .separator ∧ next = ⟨r.drafts, .prose []⟩) ∨
      (∃ words remainder d, HelpLine.read text = .usage words remainder ∧
        joinWords words ∉ r.drafts.map Draft.fullName ∧
        Draft.declareSlots ⟨words, r.heading, some n, [], []⟩ (some n) (Slot.scan remainder) = .ok d ∧
        next = ⟨r.drafts, .command (d.addHelp text)⟩) ∨
      (∃ names target d declared, HelpLine.read text = .flags names target ∧ r.current = .command d ∧
        d.declareFlags names target (some n) = ⟨declared, none⟩ ∧
        next = ⟨r.closed, .command (declared.addHelp text)⟩) ∨
      (HelpLine.read text = .prose ∧ next = r.addHelp text) := by
  unfold step at stepped
  extract_lets place at stepped
  cases line : HelpLine.read text with
  | separator =>
    rw [line] at stepped
    cases stepped
    exact .inl ⟨rfl, rfl⟩
  | usage words remainder =>
    simp only [line] at stepped
    split at stepped
    · cases stepped
    · next fresh =>
      have absent : joinWords words ∉ r.drafts.map Draft.fullName := by
        simpa using fresh
      obtain ⟨d, declared, done⟩ := bind_eq_ok.mp stepped
      cases done
      exact .inr (.inl ⟨words, remainder, d, rfl, absent, declared, rfl⟩)
  | flags names target =>
    simp only [line] at stepped
    split at stepped
    · cases stepped
    · next d current =>
      split at stepped
      · cases stepped
      · next declared accepted =>
        cases stepped
        exact .inr (.inr (.inl ⟨names, target, d, declared, rfl, current, accepted, rfl⟩))
  | prose =>
    rw [line] at stepped
    cases stepped
    exact .inr (.inr (.inr ⟨rfl, rfl⟩))

/-- A usage line opens a command if its name is new and its slots are consistent. -/
theorem step_usage {r : Reading} {n : Nat} {text remainder : String} {words : List String}
    (line : HelpLine.read text = .usage words remainder)
    (fresh : joinWords words ∉ r.drafts.map Draft.fullName)
    (consistent : Consistent (Slot.scan remainder) []) :
    r.step n text =
      .ok ⟨r.drafts, .command ⟨words, r.heading ++ [text], some n, Slot.scan remainder, []⟩⟩ := by
  have unknown : ¬r.drafts.any (·.fullName == joinWords words) = true := by
    simpa using fresh
  have declared : Draft.declareSlots ⟨words, r.heading, some n, [], []⟩ (some n) (Slot.scan remainder) =
      .ok ⟨words, r.heading, some n, Slot.scan remainder, []⟩ :=
    (Draft.declareSlots_eq_ok_iff Consistent.empty).mpr ⟨rfl, consistent⟩
  simp only [step, line, if_neg unknown, declared]
  rfl

/-- Prose in front of a usage line is kept for its command. -/
theorem run_heading (closed : List Draft) (lines : List String) (n : Nat) {heading : List String}
    (prose : ∀ text ∈ heading, HelpLine.read text = .prose) :
    (⟨closed, .prose lines⟩ : Reading).run n heading = .ok ⟨closed, .prose (lines ++ heading)⟩ := by
  induction heading generalizing lines n with
  | nil => simp [run]
  | cons text rest ih =>
    have others := ih (lines ++ [text]) (n + 1) fun other member => prose other (List.mem_cons_of_mem _ member)
    simp only [run, step, prose text List.mem_cons_self]
    refine others.trans ?_
    simp

theorem step_body (closed : List Draft) {d : Draft} (n : Nat) {text : String}
    (inside : (HelpLine.read text).IsBody) (before : Consistent d.slots d.flags)
    (after : Consistent d.slots (d.flags ++ (HelpLine.read text).entries)) :
    (⟨closed, .command d⟩ : Reading).step n text =
      .ok ⟨closed, .command { d with
        help := d.help ++ [text]
        flags := d.flags ++ (HelpLine.read text).entries }⟩ := by
  rcases inside with line | ⟨names, target, line⟩
  · simp [step, line, addHelp, Draft.addHelp, HelpLine.entries]
  · rw [line] at after ⊢
    have declared : d.declareFlags names target (some n) =
        ⟨{ d with flags := d.flags ++ names.map (·, target) }, none⟩ :=
      (Draft.declareFlags_eq_none_iff before (HelpLine.declares_of_read line).1).mpr ⟨rfl, after⟩
    simp only [step, line, declared]
    rfl

/-- The lines behind a usage line are read if the draft with all their flags is consistent. -/
theorem run_body (closed : List Draft) {d : Draft} (n : Nat) {body : List String}
    (inside : ∀ text ∈ body, (HelpLine.read text).IsBody)
    (consistent : Consistent d.slots (d.flags ++ body.flatMap fun text => (HelpLine.read text).entries)) :
    (⟨closed, .command d⟩ : Reading).run n body =
      .ok ⟨closed, .command { d with
        help := d.help ++ body
        flags := d.flags ++ body.flatMap fun text => (HelpLine.read text).entries }⟩ := by
  -- The draft grows with every line; consistency with all lines is that of every draft on the way.
  induction body generalizing d n with
  | nil => simp [run]
  | cons text rest ih =>
    rw [List.flatMap_cons, ← List.append_assoc] at consistent
    have after : Consistent d.slots (d.flags ++ (HelpLine.read text).entries) :=
      consistent.mono (List.Sublist.refl _) (List.sublist_append_left _ _)
    have before : Consistent d.slots d.flags :=
      after.mono (List.Sublist.refl _) (List.sublist_append_left _ _)
    have first := step_body closed n (inside text List.mem_cons_self) before after
    have others := ih (d := { d with
        help := d.help ++ [text]
        flags := d.flags ++ (HelpLine.read text).entries })
      (n + 1) (fun other member => inside other (List.mem_cons_of_mem _ member)) consistent
    simp only [run, first]
    refine others.trans ?_
    simp

/-- The commands read so far are legal and have different names. -/
structure Legal (r : Reading) : Prop where
  drafts : ∀ d ∈ r.drafts, d.toCommand.Legal
  names : (r.drafts.map Draft.fullName).Nodup

theorem start_legal : start.Legal := by
  constructor <;> simp [start, drafts]

theorem drafts_of_command {r : Reading} {d : Draft} (current : r.current = .command d) :
    r.drafts = r.closed ++ [d] := by
  simp [drafts, current]

theorem forall_drafts_command {closed : List Draft} {d : Draft} {P : Draft → Prop} :
    (∀ other ∈ drafts ⟨closed, .command d⟩, P other) ↔ (∀ other ∈ closed, P other) ∧ P d := by
  rw [drafts_of_command rfl, List.forall_mem_append, List.forall_mem_singleton]

theorem addHelp_of_command {r : Reading} {d : Draft} (current : r.current = .command d) (text : String) :
    r.addHelp text = ⟨r.closed, .command (d.addHelp text)⟩ := by
  simp [addHelp, current]

theorem drafts_addHelp_of_prose {r : Reading} {lines : List String} (current : r.current = .prose lines)
    (text : String) : (r.addHelp text).drafts = r.drafts := by
  simp [addHelp, drafts, current]

/-- The last command may be replaced by one of the same name. -/
theorem Legal.replace_last {r : Reading} (legal : r.Legal) {d other : Draft}
    (current : r.current = .command d) (same : other.fullName = d.fullName)
    (replacement : other.toCommand.Legal) : Legal ⟨r.closed, .command other⟩ := by
  have drafts := legal.drafts
  have names := legal.names
  rw [drafts_of_command current] at drafts names
  constructor
  · exact forall_drafts_command.mpr ⟨(List.forall_mem_append.mp drafts).1, replacement⟩
  · have kept : (r.closed ++ [other]).map Draft.fullName = (r.closed ++ [d]).map Draft.fullName := by
      simp [same]
    rw [← kept] at names
    exact names

theorem step_legal {r next : Reading} {n : Nat} {text : String} (legal : r.Legal)
    (stepped : r.step n text = .ok next) : next.Legal := by
  rcases step_cases stepped with ⟨-, rfl⟩ | ⟨words, remainder, d, line, fresh, declared, rfl⟩ |
    ⟨names, target, d, declared, line, current, accepted, rfl⟩ | ⟨-, rfl⟩
  · exact ⟨legal.drafts, legal.names⟩
  · obtain ⟨nonempty, shape⟩ := HelpLine.words_of_read line
    obtain ⟨rfl, opened⟩ := Draft.opened_legal nonempty shape Slot.isName_of_mem_scanFrom declared
    constructor
    · exact forall_drafts_command.mpr ⟨legal.drafts, Draft.addHelp_legal opened text⟩
    · have names := legal.names.concat fresh
      rw [List.concat_eq_append] at names
      simpa [drafts, Draft.fullName, Draft.addHelp] using names
  · have before := legal.drafts d (by simp [drafts_of_command current])
    obtain ⟨same, after⟩ := Draft.declareFlags_legal before (HelpLine.declares_of_read line) accepted
    refine legal.replace_last current ?_ (Draft.addHelp_legal after text)
    simp only [Draft.fullName, Draft.addHelp, same]
  · cases current : r.current with
    | prose lines =>
      have same := drafts_addHelp_of_prose current text
      exact ⟨same ▸ legal.drafts, same ▸ legal.names⟩
    | command d =>
      -- A line of flags adds to the last command, whose name stays as it is.
      have before := legal.drafts d (by simp [drafts_of_command current])
      rw [addHelp_of_command current]
      exact legal.replace_last current rfl (Draft.addHelp_legal before text)

theorem run_legal {r last : Reading} {n : Nat} {lines : List String} (legal : r.Legal)
    (ran : r.run n lines = .ok last) : last.Legal := by
  induction lines generalizing r n with
  | nil => cases ran; exact legal
  | cons text rest ih =>
    obtain ⟨next, stepped, rest⟩ := bind_eq_ok.mp ran
    exact ih (step_legal legal stepped) rest

end Reading

theorem map_fullName_toCommand (drafts : List Draft) :
    (drafts.map Draft.toCommand).map Command.fullName = drafts.map Draft.fullName := by
  rw [List.map_map]
  rfl

theorem buildLines_eq_ok {lines : List String} {commands : List Command}
    (built : buildLines lines = .ok commands) :
    ∃ last, Reading.start.run 1 lines = .ok last ∧ commands = last.drafts.map Draft.toCommand := by
  obtain ⟨last, ran, rfl⟩ := map_eq_ok.mp built
  exact ⟨last, ran, rfl⟩

theorem build_legal {text : String} {commands : List Command} (built : build text = .ok commands) :
    ∀ c ∈ commands, c.Legal ∧ c.name = c.fullName := by
  obtain ⟨last, ran, rfl⟩ := buildLines_eq_ok built
  intro c member
  obtain ⟨d, found, rfl⟩ := List.mem_map.mp member
  exact ⟨(Reading.run_legal Reading.start_legal ran).drafts d found, rfl⟩

theorem build_names {text : String} {commands : List Command} (built : build text = .ok commands) :
    (commands.map Command.fullName).Nodup := by
  obtain ⟨last, ran, rfl⟩ := buildLines_eq_ok built
  rw [map_fullName_toCommand]
  exact (Reading.run_legal Reading.start_legal ran).names

end UsageGrammar
