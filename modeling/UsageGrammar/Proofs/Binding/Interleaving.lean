import UsageGrammar.Proofs.Binding.Groups
import UsageGrammar.Proofs.Binding.Schema

/-! Flags and positional tokens may be mixed. The outcome of binding is a function of the groups of
flags and of the positional tokens, each in their order, and of the last value of every key. -/

set_option autoImplicit false

namespace UsageGrammar

namespace Binding

variable {c : Command}

/-- The tokens hold groups of flags, each in one piece, and positional tokens, both in their order. -/
inductive Interleaves : List (FlagGroup c) → List String → List String → Prop
  | nil : Interleaves [] [] []
  | group {groups : List (FlagGroup c)} {positionals tokens : List String} (group : FlagGroup c) :
      Interleaves groups positionals tokens →
      Interleaves (group :: groups) positionals (group.tokens ++ tokens)
  | positional {groups : List (FlagGroup c)} {positionals tokens : List String} (token : String) :
      Interleaves groups positionals tokens →
      Interleaves groups (token :: positionals) (token :: tokens)

def writes (groups : List (FlagGroup c)) : Table Bound :=
  groups.flatMap FlagGroup.writes

/-- The value that the last of the groups with this key gives it. -/
def lastWrite (groups : List (FlagGroup c)) (key : String) : Option Bound :=
  Table.value? (writes groups).reverse key

theorem step_positional {token : String} (positional : Token.IsPositional token) {s : Scan}
    (ready : s.phase = .ready) :
    step c s token = .ok { s with positionals := s.positionals ++ [token] } := by
  simp only [step, ready, readToken, Token.read_eq_plain_iff.mpr positional]

theorem scanFrom_interleaved (legal : c.Legal) {groups : List (FlagGroup c)}
    {positionals tokens : List String} (mixed : Interleaves groups positionals tokens)
    (plain : ∀ token ∈ positionals, Token.IsPositional token) {s : Scan} (ready : s.phase = .ready) :
    scanFrom c s tokens =
      .ok ⟨s.values.putAll (writes groups), s.positionals ++ positionals, .ready⟩ := by
  -- Groups are complete, so the scan is ready again wherever the next piece begins.
  induction mixed generalizing s with
  | nil =>
    obtain ⟨values, before, phase⟩ := s
    obtain rfl : phase = .ready := ready
    simp [scanFrom, writes, Table.putAll]
  | @group groups positionals tokens group rest ih =>
    rw [scanFrom_append, scanFrom_group legal group ready]
    refine (ih plain (s := { s with values := s.values.putAll group.writes }) ready).trans ?_
    have whole : writes (group :: groups) = group.writes ++ writes groups := rfl
    rw [whole, Table.putAll_append]
  | positional token rest ih =>
    rw [scanFrom, step_positional (plain token List.mem_cons_self) ready]
    refine (ih (fun other member => plain other (List.mem_cons_of_mem _ member))
      (s := { s with positionals := s.positionals ++ [token] }) ready).trans ?_
    simp

theorem scan_interleaved (legal : c.Legal) {groups : List (FlagGroup c)}
    {positionals tokens : List String} (mixed : Interleaves groups positionals tokens)
    (plain : ∀ token ∈ positionals, Token.IsPositional token) :
    scan c tokens = .ok (Table.putAll [] (writes groups), positionals) := by
  rw [scan_eq, scanFrom_interleaved legal mixed plain rfl]
  rfl

theorem value?_writes (groups : List (FlagGroup c)) (key : String) :
    (Table.putAll [] (writes groups)).value? key = lastWrite groups key := by
  rw [Table.value?_putAll, lastWrite]
  exact Option.or_none

theorem value?_assign {placed : Table Bound} {positionals : List String}
    (placing : placements c.slots positionals = .ok placed) (distinct : placed.names.Nodup) :
    ∃ assigned, assign c.slots [] positionals = .ok assigned ∧
      ∀ name, assigned.value? name = placed.value? name := by
  refine ⟨Table.putAll [] placed, ?_, fun name => ?_⟩
  · rw [assign_eq, placing]
    rfl
  · rw [Table.value?_putAll, Table.value?_reverse distinct]
    exact Option.or_none

end Binding

open Binding

/-- All interleavings of groups of flags and positional tokens have the same outcome. A key has the
value of the last group that binds it, and the slots are filled from the positional tokens alone. -/
theorem bind_interleaved {text : String} {commands : List Command} {c : Command}
    (built : build text = .ok commands) (member : c ∈ commands) (groups : List (FlagGroup c))
    {positionals : List String} (plain : ∀ token ∈ positionals, Token.IsPositional token) :
    (∀ first second, Interleaves groups positionals first → Interleaves groups positionals second →
      bind c first = bind c second) ∧
    ∀ tokens values, Interleaves groups positionals tokens → bind c tokens = .ok values →
      (∀ t ∈ c.flags.values, t.kind = .option → values.value? t.key = lastWrite groups t.key) ∧
      (∀ t ∈ c.flags.values, t.kind = .switch →
        values.value? t.key = some ((lastWrite groups t.key).getD (.flag false))) ∧
      (c.Answers values → ∀ s ∈ c.slots, values.value? s.name = none) ∧
      (¬c.Answers values → ∃ assigned, assign c.slots [] positionals = .ok assigned ∧
        ∀ s ∈ c.slots, values.value? s.name = assigned.value? s.name) := by
  have legal := (build_legal built c member).1
  have consistent := legal.consistent
  constructor
  · intro first second mixed mixed'
    rw [bind_eq, bind_eq, scan_interleaved legal mixed plain, scan_interleaved legal mixed' plain]
  · intro tokens values mixed bound
    obtain ⟨written, found, placed, scanned, typed, placing, slotted, rfl⟩ := exists_of_bind bound
    rw [scan_interleaved legal mixed plain] at scanned
    cases scanned
    have fits := fits_combine typed slotted consistent
    refine ⟨?_, ?_, ?_, ?_⟩
    · intro t declared option
      have plain : default c.flags.values t.key = none := default_option consistent declared option
      rw [value?_key slotted consistent declared, value?_writes, plain, Option.or_none]
    · intro t declared switch
      have plain : default c.flags.values t.key = some (.flag false) := default_switch declared switch
      rw [value?_key slotted consistent declared, value?_writes, plain, Option.or_some]
    · intro answers s member
      rw [Table.value?_eq_none_iff]
      exact fits.answered answers s member
    · intro asks
      rw [← isShortcut_iff, isShortcut_combine slotted typed consistent] at asks
      rw [slotValues, if_neg asks] at placing
      obtain ⟨assigned, done, same⟩ := value?_assign placing (slotted.distinct consistent)
      refine ⟨assigned, done, fun s member => ?_⟩
      rw [value?_slot slotted typed consistent member, same]

def Model.packGroups : List (FlagGroup packMain) :=
  [⟨["-" ++ "o" ++ "=" ++ "a"], [("dir", .text "a")],
      .inline (.inl rfl) (.inr rfl) (show packMain.flags.value? "o" = some ⟨.option, "dir"⟩ by decide)⟩,
    ⟨["-" ++ String.ofList ['q', 'o'], "b"], [("quiet", .flag true), ("dir", .text "b")],
      .cluster (by decide) (.switch (by decide) (.option (by decide) (by unfold IsValue; decide) .nil))⟩]

theorem bind_interleaved_pack :
    bind Model.packMain ["-o=a", "x", "-qo", "b", "-"] = bind Model.packMain ["x", "-", "-o=a", "-qo", "b"] ∧
      ∀ values, bind Model.packMain ["-o=a", "x", "-qo", "b", "-"] = .ok values →
        values.value? "dir" = some (.text "b") := by
  have plain : ∀ token ∈ ["x", "-"], Token.IsPositional token := by
    intro token member
    rw [← Token.read_eq_plain_iff]
    revert token
    decide +kernel
  have mixed : Interleaves Model.packGroups ["x", "-"] ["-o=a", "x", "-qo", "b", "-"] :=
    .group _ (.positional "x" (.group _ (.positional "-" .nil)))
  have apart : Interleaves Model.packGroups ["x", "-"] ["x", "-", "-o=a", "-qo", "b"] :=
    .positional "x" (.positional "-" (.group _ (.group _ .nil)))
  obtain ⟨same, results⟩ :=
    bind_interleaved Model.build_packText List.mem_cons_self Model.packGroups plain
  refine ⟨same _ _ mixed apart, fun values bound => ?_⟩
  have last := (results _ values mixed bound).1 ⟨.option, "dir"⟩ (by decide) rfl
  rw [last]
  decide

end UsageGrammar
