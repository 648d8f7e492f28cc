import UsageGrammar.Invocation
import UsageGrammar.Proofs.Binding.Interleaving
import UsageGrammar.Proofs.Invocation.Resolution

/-! Results as command lines. A result is restated by the name of its command, an inline token for each
key of a flag, and the tokens of its slots after a terminator; invoking this gives the result again. -/

set_option autoImplicit false

namespace UsageGrammar

/-- The value of a flag as it stands after a colon. -/
def Bound.inlineText : Bound → String
  | .text s => s
  | .flag true => "true"
  | .flag false => "false"
  | .texts _ => ""

namespace Command

def isKey (c : Command) (name : String) : Bool :=
  c.flags.values.any (·.key == name)

def flagEntries (c : Command) (values : Table Bound) : Table Bound :=
  values.filter fun entry => c.isKey entry.1

/-- The tokens that the slots of a result hold, in the order of the slots. -/
def slotTokens (c : Command) (values : Table Bound) : List String :=
  c.slots.flatMap fun s => ((values.value? s.name).map Bound.tokens).getD []

end Command

/-- Inline tokens for entries of flags; the keys are spelled as chosen. -/
def inlineTokens (spelling : String → String) (entries : Table Bound) : List String :=
  entries.map fun entry => "--" ++ spelling entry.1 ++ ":" ++ entry.2.inlineText

/-- The command line that restates a result, with the entries of its flags in the order given. -/
def Model.restated (m : Model) (c : Command) (values : Table Bound) (spelling : String → String)
    (entries : Table Bound) : List String :=
  m.address c ++ (inlineTokens spelling entries ++ "--" :: c.slotTokens values)

namespace Binding

variable {c : Command}

theorem isKey_iff {name : String} : c.isKey name = true ↔ ∃ t ∈ c.flags.values, t.key = name := by
  simp [Command.isKey]

theorem inlineValue_inlineText {target : Target} {bound : Bound} (admits : target.Admits bound) :
    inlineValue target bound.inlineText = bound := by
  cases bound with
  | text text =>
    have option : target.kind = .option := admits
    simp only [inlineValue, option, Bound.inlineText]
  | flag on =>
    have switch : target.kind = .switch := admits
    cases on <;> simp only [inlineValue, switch, Bound.inlineText] <;> decide
  | texts items => exact admits.elim

/-- The inline tokens of typed entries are groups that bind these entries. -/
theorem exists_groups {spelling : String → String} {entries : Table Bound}
    (consistent : Consistent c.slots c.flags)
    (admitted : ∀ entry ∈ entries, ∃ t ∈ c.flags.values, t.key = entry.1 ∧ t.Admits entry.2)
    (spelled : ∀ entry ∈ entries, ∃ t, c.flags.value? (spelling entry.1) = some t ∧ t.key = entry.1) :
    ∃ groups : List (FlagGroup c), writes groups = entries ∧
      Interleaves groups [] (inlineTokens spelling entries) := by
  induction entries with
  | nil => exact ⟨[], rfl, .nil⟩
  | cons entry rest ih =>
    obtain ⟨groups, written, mixed⟩ := ih (fun other member => admitted other (List.mem_cons_of_mem _ member))
      (fun other member => spelled other (List.mem_cons_of_mem _ member))
    obtain ⟨t, declared, key, admits⟩ := admitted entry List.mem_cons_self
    obtain ⟨u, found, key'⟩ := spelled entry List.mem_cons_self
    obtain rfl : u = t := consistent.target_eq (declared_of_value? found) declared (key'.trans key.symm)
    let group : FlagGroup c :=
      ⟨["--" ++ spelling entry.1 ++ ":" ++ entry.2.inlineText], _, .inline (.inr rfl) (.inl rfl) found⟩
    have first : group.writes = [entry] := by
      simp only [group, inlineValue_inlineText admits, key]
    refine ⟨group :: groups, ?_, .group group mixed⟩
    have whole : writes (group :: groups) = group.writes ++ writes groups := rfl
    rw [whole, first, written, List.singleton_append]

theorem scanFrom_verbatim (values : Table Bound) (positionals tokens : List String) :
    scanFrom c ⟨values, positionals, .verbatim⟩ tokens =
      .ok ⟨values, positionals ++ tokens, .verbatim⟩ := by
  induction tokens generalizing positionals with
  | nil => simp [scanFrom]
  | cons token rest ih =>
    refine (ih (positionals ++ [token])).trans ?_
    simp

theorem scan_terminated (legal : c.Legal) {groups : List (FlagGroup c)} {flags : List String}
    (mixed : Interleaves groups [] flags) (rest : List String) :
    scan c (flags ++ "--" :: rest) = .ok (Table.putAll [] (writes groups), rest) := by
  have front := scanFrom_interleaved legal mixed (List.forall_mem_nil _) (s := .start) rfl
  have terminated : step c ⟨Table.putAll [] (writes groups), [], .ready⟩ "--" =
      .ok ⟨Table.putAll [] (writes groups), [], .verbatim⟩ := by
    simp only [step, readToken, Token.read_of_form .terminator]
  rw [scan_eq, scanFrom_append, front]
  have back := scanFrom_verbatim (c := c) (Table.putAll [] (writes groups)) [] rest
  simp only [Scan.start, List.append_nil, Bind.bind, Except.bind, scanFrom, terminated, back]
  rfl

section Restated

variable {values placed entries : Table Bound}

theorem slotTokens_combine (typed : Typed c values) (slotted : Slotted c values placed)
    (consistent : Consistent c.slots c.flags) :
    c.slotTokens (combine c values placed) = placed.flatMap (·.2.tokens) := by
  rw [← Table.flatMap_value? consistent.slots_distinct slotted.names Bound.tokens, List.flatMap_map]
  refine List.flatMap_congr fun s member => ?_
  rw [value?_slot slotted typed consistent member]

/-- The entries of the flags alone, which the inline tokens put. -/
theorem value?_restated (typed : Typed c values) (order : entries.Perm (c.flagEntries (combine c values placed)))
    (name : String) :
    (Table.putAll [] entries).value? name =
      if c.isKey name then (combine c values placed).value? name else none := by
  have whole := nodup_combine c typed.distinct placed
  have part : (c.flagEntries (combine c values placed)).names.Nodup :=
    whole.sublist (List.filter_sublist.map _)
  have distinct : entries.names.Nodup := (order.map _).nodup_iff.mpr part
  rw [Table.value?_putAll, Table.value?_reverse distinct, Table.value?_of_perm distinct order,
    Command.flagEntries, Table.value?_filter]
  exact Option.or_none

theorem isShortcut_restated (typed : Typed c values) (slotted : Slotted c values placed)
    (consistent : Consistent c.slots c.flags)
    (order : entries.Perm (c.flagEntries (combine c values placed))) :
    isShortcut c (Table.putAll [] entries) = isShortcut c values := by
  refine isShortcut_congr fun name => ?_
  rw [value?_restated typed order, ← value?_on slotted name consistent typed]
  constructor
  · intro found
    split at found
    · exact found
    · cases found
  · intro found
    have switched := (value?_on slotted name consistent typed).mp found
    have key := isKey_iff.mpr (typed.key_of_mem (Table.mem_names (Table.mem_of_value? switched)))
    rw [if_pos key, found]

theorem value?_combine_restated (typed : Typed c values) (slotted : Slotted c values placed)
    (consistent : Consistent c.slots c.flags)
    (order : entries.Perm (c.flagEntries (combine c values placed))) (name : String) :
    (combine c (Table.putAll [] entries) placed).value? name =
      (combine c values placed).value? name := by
  have distinct := slotted.distinct consistent
  rw [value?_combine distinct, value?_restated typed order]
  by_cases key : c.isKey name = true
  · obtain ⟨t, declared, rfl⟩ := isKey_iff.mp key
    rw [if_pos key, value?_key slotted consistent declared, slotted.absent_key consistent declared,
      Option.none_or, Option.or_assoc, Option.or_self]
  · have unbound : values.value? name = none :=
      Table.value?_eq_none_iff.mpr fun taken => key (isKey_iff.mpr (typed.key_of_mem taken))
    rw [if_neg key, value?_combine distinct, unbound]

end Restated

/-- The arguments that restate a result are bound to it again. -/
theorem bind_restated (legal : c.Legal) {tokens : List String} {result entries : Table Bound}
    (bound : bind c tokens = .ok result) (order : entries.Perm (c.flagEntries result))
    {spelling : String → String}
    (spelled : ∀ entry ∈ entries, ∃ t, c.flags.value? (spelling entry.1) = some t ∧ t.key = entry.1) :
    ∃ again, bind c (inlineTokens spelling entries ++ "--" :: c.slotTokens result) = .ok again ∧
      again.Perm result := by
  have consistent := legal.consistent
  obtain ⟨values, positionals, placed, -, typed, placing, slotted, rfl⟩ := exists_of_bind bound
  have fits := fits_combine typed slotted consistent
  have admitted : ∀ entry ∈ entries, ∃ t ∈ c.flags.values, t.key = entry.1 ∧ t.Admits entry.2 := by
    intro entry member
    obtain ⟨inside, key⟩ := List.mem_filter.mp (order.subset member)
    obtain ⟨t, declared, same⟩ := isKey_iff.mp key
    exact ⟨t, declared, same, fits.admits_key declared (same ▸ Table.value?_of_mem fits.distinct inside)⟩
  -- The flags are read back as groups, and the positional phase sees the tokens that it saw before.
  obtain ⟨groups, rfl, mixed⟩ := exists_groups consistent admitted spelled
  have scanned := scan_terminated legal mixed (c.slotTokens (combine c values placed))
  have again : slotValues c (Table.putAll [] (writes groups)) (c.slotTokens (combine c values placed)) =
      .ok placed := by
    rw [slotTokens_combine typed slotted consistent]
    unfold slotValues at placing ⊢
    rw [isShortcut_restated typed slotted consistent order]
    split at placing
    · next answers => rw [if_pos answers, placing]
    · next asks => rw [if_neg asks, (placements_spec placing).tokens, placing]
  refine ⟨combine c (Table.putAll [] (writes groups)) placed, ?_, ?_⟩
  · rw [bind_eq, scanned]
    simp only [Bind.bind, Except.bind, again]
    rfl
  · exact Table.perm_of_value?_eq (nodup_combine c (Table.nodup_putAll Table.nodup_names_nil _) placed)
      (nodup_combine c typed.distinct placed) (value?_combine_restated typed slotted consistent order)

end Binding

theorem texts?_map_text (tokens : List String) : Datum.texts? (tokens.map .text) = some tokens := by
  induction tokens with
  | nil => rfl
  | cons token rest ih =>
    unfold Datum.texts? at ih ⊢
    rw [List.map_cons, List.mapM_cons, ih]
    rfl

theorem promptTokens_list (tokens : List String) :
    promptTokens (.list (tokens.map .text)) = .ok tokens := by
  simp only [promptTokens, texts?_map_text]

theorem exists_inlineTokens (spelling : String → String) (entries : Table Bound) (rest : List String) :
    ∃ token more, inlineTokens spelling entries ++ "--" :: rest = token :: more ∧ Model.IsDashed token := by
  cases entries with
  | nil => exact ⟨"--", rest, rfl, rfl⟩
  | cons entry entries => exact ⟨_, _, rfl, by simp [Model.IsDashed]⟩

/-- Every result can be restated: the command line that is written from it gives the same command and
the same values, whatever the spellings and the order that are chosen for its flags. -/
theorem invoke_restated {help : String} {m : Model} {c : Command} {tokens : List String}
    {result entries : Table Bound} {spelling : String → String}
    (parsed : Model.parse help = .ok m) (member : c ∈ m.commands) (bound : bind c tokens = .ok result)
    (order : entries.Perm (c.flagEntries result))
    (spelled : ∀ entry ∈ entries, ∃ t, c.flags.value? (spelling entry.1) = some t ∧ t.key = entry.1)
    (h : Handler) :
    ∃ again, m.invoke h (.list ((m.restated c result spelling entries).map .text)) =
        .ok (.result ⟨m, c, again⟩) ∧ again.Perm result := by
  have legal := parse_legal parsed
  obtain ⟨again, rebound, same⟩ := Binding.bind_restated (legal.commands c member) bound order spelled
  obtain ⟨token, more, shape, dashed⟩ := exists_inlineTokens spelling entries (c.slotTokens result)
  have resolved := Model.resolve_address legal member dashed more
  rw [← shape] at resolved
  refine ⟨again, ?_, same⟩
  have invoked : m.invokeTokens (m.restated c result spelling entries) = .ok ⟨m, c, again⟩ := by
    simp only [Model.invokeTokens, Model.restated, resolved, rebound]
  rw [Model.invoke, promptTokens_list]
  exact congrArg h.settle invoked

theorem invoke_restated_pack :
    bind Model.packChild ["--all", "--", "-a", "b"] =
        .ok [("all", .flag true), ("archive", .text "-a"), ("part", .text "b")] ∧
      ∃ again, Model.pack.invoke .raise (.list (["list", "--all:true", "--", "-a", "b"].map .text)) =
          .ok (.result ⟨Model.pack, Model.packChild, again⟩) ∧
        again.Perm [("all", .flag true), ("archive", .text "-a"), ("part", .text "b")] := by
  have bound : bind Model.packChild ["--all", "--", "-a", "b"] =
      .ok [("all", .flag true), ("archive", .text "-a"), ("part", .text "b")] := by
    decide +kernel
  have child : Model.packChild ∈ Model.pack.commands := by decide
  have order : List.Perm [("all", Bound.flag true)]
      (Model.packChild.flagEntries [("all", .flag true), ("archive", .text "-a"), ("part", .text "b")]) :=
    List.Perm.refl _
  have spelled : ∀ entry ∈ [("all", Bound.flag true)],
      ∃ t, Model.packChild.flags.value? (id entry.1) = some t ∧ t.key = entry.1 := by
    simp only [List.forall_mem_singleton]
    exact ⟨⟨.switch, "all"⟩, by decide, rfl⟩
  have line : Model.pack.restated Model.packChild
      [("all", .flag true), ("archive", .text "-a"), ("part", .text "b")] id [("all", .flag true)] =
      ["list", "--all:true", "--", "-a", "b"] := by
    decide +kernel
  rw [← line]
  exact ⟨bound, invoke_restated Model.parse_packText child bound order spelled .raise⟩

end UsageGrammar
