import Mathlib.Data.List.Perm.Subperm
import UsageGrammar.Declaration
import UsageGrammar.Fault
import UsageGrammar.Proofs.Invocation.Restatement
import UsageGrammar.Proofs.HelpText.Pages

/-! Commands that count as the same. Their flags may stand in another order, which binding does not
see, but so may their slots, and these are filled in the order in which they stand. -/

set_option autoImplicit false

namespace UsageGrammar

namespace Table

/-- Tables that hold the same values differ in order only. -/
theorem perm_of_same {α : Type} [BEq α] [LawfulBEq α] {t u : Table α} (distinct : t.names.Nodup)
    (same : t.same u = true) : t.Perm u := by
  simp only [Table.same, Bool.and_eq_true, beq_iff_eq, List.all_eq_true] at same
  obtain ⟨size, inside⟩ := same
  have part : t ⊆ u := fun entry member => mem_of_value? (inside entry member)
  exact (List.subperm_of_subset distinct.of_map part).perm_of_length_le size.ge

end Table

namespace Binding

section Scan

variable {a b : Command} (same : ∀ name, a.flags.value? name = b.flags.value? name)

include same

theorem meet_congr (values : Table Bound) (dashes name : String) (letters : List Char) :
    meet a values dashes name letters = meet b values dashes name letters := by
  simp only [meet, same]

theorem meetLetters_congr (values : Table Bound) (letters : List Char) :
    meetLetters a values letters = meetLetters b values letters := by
  induction letters generalizing values with
  | nil => rfl
  | cons letter letters ih => simp only [meetLetters_cons, meet_congr same, ih]

theorem step_congr (s : Scan) (token : String) : step a s token = step b s token := by
  simp only [step, readToken, meet_congr same, meetLetters_congr same, same]

theorem scanFrom_congr (s : Scan) (tokens : List String) : scanFrom a s tokens = scanFrom b s tokens := by
  induction tokens generalizing s with
  | nil => rfl
  | cons token rest ih => simp only [scanFrom, step_congr same, ih]

theorem scan_congr (tokens : List String) : scan a tokens = scan b tokens := by
  rw [scan_eq, scan_eq, scanFrom_congr same]

end Scan

theorem addDefaults_perm {values : Table Bound} (distinct : values.names.Nodup) {targets others : List Target}
    (order : targets.Perm others) : (addDefaults values targets).Perm (addDefaults values others) := by
  refine Table.perm_of_value?_eq (nodup_addDefaults distinct targets) (nodup_addDefaults distinct others) ?_
  intro name
  simp only [value?_addDefaults, default, order.mem_iff]

end Binding

theorem Slot.names_put (slots : List Slot) (s : Slot) :
    (Slot.put slots s).map Slot.name =
      if s.name ∈ slots.map Slot.name then slots.map Slot.name else slots.map Slot.name ++ [s.name] := by
  induction slots with
  | nil => rfl
  | cons other rest ih =>
    unfold Slot.put
    by_cases same : other.name = s.name
    · simp [same]
    · have different : ¬s.name = other.name := fun h => same h.symm
      simp only [List.map_cons, List.mem_cons, if_neg same, different, false_or, ih]
      split <;> rfl

theorem Slot.nodup_foldl_put {slots : List Slot} (distinct : (slots.map Slot.name).Nodup) (more : List Slot) :
    ((more.foldl Slot.put slots).map Slot.name).Nodup := by
  induction more generalizing slots with
  | nil => exact distinct
  | cons s more ih =>
    apply ih
    rw [Slot.names_put]
    split
    · exact distinct
    · next fresh =>
      rw [← List.concat_eq_append]
      exact distinct.concat fresh

theorem Slot.nodup_foldl_put_nil (slots : List Slot) : ((slots.foldl Slot.put []).map Slot.name).Nodup :=
  have bare : (List.map Slot.name []).Nodup := List.nodup_nil
  nodup_foldl_put bare slots

namespace Command

/-- No two slots have the same name, and no spelling is bound twice. -/
structure Keyed (c : Command) : Prop where
  slots : (c.slots.map Slot.name).Nodup
  spellings : c.flags.names.Nodup

theorem Legal.keyed {c : Command} (legal : c.Legal) : c.Keyed :=
  ⟨legal.consistent.slots_distinct, legal.consistent.spellings_distinct⟩

theorem keyed_of_of? {words : List String} {name : Option String} {help : String} {slots : List Slot}
    {flags : Table Target} {line : Option Int} {c : Command} (made : of? words name help slots flags line = some c) :
    c.Keyed := by
  unfold of? at made
  split at made
  · cases made
  · cases made
    exact ⟨Slot.nodup_foldl_put_nil slots, Table.nodup_putAll Table.nodup_names_nil flags⟩

theorem keyed_change {c : Command} (keyed : c.Keyed) (changes : Changes) : (c.change changes).Keyed := by
  obtain ⟨name, help, slots, flags, line⟩ := changes
  constructor
  · cases slots with
    | none => exact keyed.slots
    | some slots => exact Slot.nodup_foldl_put_nil slots
  · cases flags with
    | none => exact keyed.spellings
    | some flags => exact Table.nodup_putAll Table.nodup_names_nil flags

/-- The ways in which a command comes about. -/
inductive Constructed : Command → Prop where
  | made {words : List String} {name : Option String} {help : String} {slots : List Slot} {flags : Table Target}
      {line : Option Int} {c : Command} : of? words name help slots flags line = some c → Constructed c
  | changed {c : Command} (changes : Changes) : Constructed c → Constructed (c.change changes)
  | parsed {text : String} {m : Model} {c : Command} : Model.parse text = .ok m → c ∈ m.commands → Constructed c

theorem Constructed.keyed {c : Command} (constructed : c.Constructed) : c.Keyed := by
  induction constructed with
  | made made => exact keyed_of_of? made
  | changed changes _ ih => exact keyed_change ih changes
  | @parsed text m c parsed member => exact ((parse_legal parsed).commands c member).keyed

end Command

/-- The outcome of binding, with the fault as the command reports it. -/
def Command.outcome (c : Command) (tokens : List String) : Except Fault (Table Bound) :=
  (bind c tokens).mapError fun complaint => ⟨c.fullName, complaint, []⟩

/-- Outcomes with the same values, whatever their order, or with the same fault. -/
inductive Alike : Except Fault (Table Bound) → Except Fault (Table Bound) → Prop where
  | values {v w : Table Bound} : v.Perm w → Alike (.ok v) (.ok w)
  | fault (f : Fault) : Alike (.error f) (.error f)

section Same

variable {a b : Command} (same : a.same b = true)

include same

theorem fullName_eq_of_same : a.fullName = b.fullName := by
  simp only [Command.same, Bool.and_eq_true, beq_iff_eq] at same
  exact congrArg joinWords same.1.1.1.1

theorem help_eq_of_same : a.help = b.help := by
  simp only [Command.same, Bool.and_eq_true, beq_iff_eq] at same
  exact same.1.1.2

theorem flags_perm_of_same (distinct : a.flags.names.Nodup) : a.flags.Perm b.flags := by
  simp only [Command.same, Bool.and_eq_true] at same
  exact Table.perm_of_same distinct same.2

theorem slots_perm_of_same (distinct : (a.slots.map Slot.name).Nodup) : a.slots.Perm b.slots := by
  simp only [Command.same, Bool.and_eq_true, beq_iff_eq, List.all_eq_true, List.contains_iff_mem] at same
  obtain ⟨⟨-, size, inside⟩, -⟩ := same
  exact (List.subperm_of_subset distinct.of_map inside).perm_of_length_le size.ge

theorem slotValues_congr (order : a.slots = b.slots) (values : Table Bound) (positionals : List String) :
    Binding.slotValues a values positionals = Binding.slotValues b values positionals := by
  have shortcut : Binding.isShortcut a values = Binding.isShortcut b values := by
    simp only [Binding.isShortcut, fullName_eq_of_same same]
  rw [Binding.slotValues, Binding.slotValues, shortcut, order]

theorem alike_of_slots_eq (distinct : a.flags.names.Nodup) (order : a.slots = b.slots) (tokens : List String) :
    Alike (a.outcome tokens) (b.outcome tokens) := by
  have flags := flags_perm_of_same same distinct
  have scanned := Binding.scan_congr (Table.value?_of_perm distinct flags) tokens
  simp only [Command.outcome, Binding.bind_eq, scanned, fullName_eq_of_same same]
  cases scanning : Binding.scan b tokens with
  | error complaint => exact .fault _
  | ok read =>
    obtain ⟨values, positionals⟩ := read
    simp only [Bind.bind, Except.bind, slotValues_congr same order]
    cases Binding.slotValues b values positionals with
    | error complaint => exact .fault _
    | ok placed =>
      -- Both commands have put the same values in place; only the defaults can come in another order.
      have typed := Binding.scan_typed scanning
      exact .values (Binding.addDefaults_perm (Table.nodup_putAll typed.distinct placed) (flags.map Prod.snd))

end Same

/-- Only the last slot takes all tokens that are left. -/
def Slot.TailVariadic (slots : List Slot) : Prop :=
  ∀ s ∈ slots.dropLast, s.variadic = false

instance (slots : List Slot) : Decidable (Slot.TailVariadic slots) :=
  inferInstanceAs (Decidable (∀ s ∈ slots.dropLast, s.variadic = false))

def Slot.hold (s : Slot) (token : String) : Bound :=
  if s.variadic then .texts [token] else .text token

theorem Slot.hold_inj {s : Slot} {token other : String} (same : s.hold token = s.hold other) : token = other := by
  unfold Slot.hold at same
  split at same <;> cases same <;> rfl

namespace Binding

def paired (slots : List Slot) (tokens : List String) : Table Bound :=
  (slots.zip tokens).map fun (s, token) => (s.name, s.hold token)

theorem place_paired {slots : List Slot} {tokens : List String} (tail : Slot.TailVariadic slots)
    (size : slots.length = tokens.length) : place slots tokens = .ok (paired slots tokens) := by
  induction slots generalizing tokens with
  | nil => rw [List.length_eq_zero_iff.mp size.symm]; rfl
  | cons s slots ih =>
    obtain ⟨token, tokens, rfl⟩ := List.exists_cons_of_length_eq_add_one size.symm
    have size : slots.length = tokens.length := Nat.succ.inj size
    cases slots with
    | nil =>
      -- Only here the slot can be variadic: it takes the one token that is left.
      rw [List.length_eq_zero_iff.mp size.symm]
      cases variadic : s.variadic <;> simp [place, paired, Slot.hold, variadic, Except.map]
    | cons next slots =>
      obtain ⟨single, tail⟩ := List.forall_mem_cons.mp (show ∀ t ∈ s :: (next :: slots).dropLast, _ from tail)
      simp only [place, single, Bool.false_eq_true, if_false, ih tail size]
      simp [paired, Slot.hold, single, Except.map]

theorem names_paired {slots : List Slot} {tokens : List String} (size : slots.length = tokens.length) :
    (paired slots tokens).names = slots.map Slot.name := by
  conv_rhs => rw [← List.map_fst_zip size.le]
  simp [paired, Table.names]

theorem bind_paired {c : Command} {tokens : List String} (tail : Slot.TailVariadic c.slots)
    (size : c.slots.length = tokens.length) :
    bind c ("--" :: tokens) = .ok (combine c [] (paired c.slots tokens)) := by
  have scanned : scan c ("--" :: tokens) = .ok ([], tokens) := by
    have terminated : step c .start "--" = .ok ⟨[], [], .verbatim⟩ := by
      simp only [step, Scan.start, readToken, Token.read_of_form .terminator]
    simp only [scan_eq, scanFrom, terminated, Bind.bind, Except.bind, scanFrom_verbatim]
    rfl
  have asks : isShortcut c [] = false := by simp [isShortcut, Table.value?]
  have kept : fit c.slots tokens.length = .ok c.slots := by simp [fit, size, dropOptional]
  have placed : slotValues c [] tokens = .ok (paired c.slots tokens) := by
    simp only [slotValues, asks, placements, kept, Bind.bind, Except.bind, place_paired tail size]
    rfl
  simp only [bind_eq, scanned, Bind.bind, Except.bind, placed]
  rfl

theorem value?_paired {c : Command} {tokens : List String} (distinct : (c.slots.map Slot.name).Nodup)
    (size : c.slots.length = tokens.length) {s : Slot} {token : String} (member : (s, token) ∈ c.slots.zip tokens) :
    (combine c [] (paired c.slots tokens)).value? s.name = some (s.hold token) := by
  have names : (paired c.slots tokens).names.Nodup := by rwa [names_paired size]
  have entry : (s.name, s.hold token) ∈ paired c.slots tokens := List.mem_map_of_mem member
  rw [value?_combine names, Table.value?_of_mem names entry, Option.some_or]

end Binding

/-- Commands tell the order of their slots apart when the slots are filled with their own names. -/
theorem slots_eq_of_alike {a b : Command} (same : a.same b = true) (distinct : (a.slots.map Slot.name).Nodup)
    (tail : Slot.TailVariadic a.slots) (tail' : Slot.TailVariadic b.slots)
    (alike : ∀ tokens, Alike (a.outcome tokens) (b.outcome tokens)) : a.slots = b.slots := by
  have order := slots_perm_of_same same distinct
  have distinct' : (b.slots.map Slot.name).Nodup := (order.map Slot.name).nodup_iff.mp distinct
  -- The tokens are the names of the slots in their first order; each slot must hold its own name then.
  generalize filling : a.slots.map Slot.name = names
  have size : a.slots.length = names.length := by rw [← filling, List.length_map]
  have size' : b.slots.length = names.length := order.length_eq.symm.trans size
  have values : ∀ name, (Binding.combine a [] (Binding.paired a.slots names)).value? name =
      (Binding.combine b [] (Binding.paired b.slots names)).value? name := by
    have filled := alike ("--" :: names)
    simp only [Command.outcome, Binding.bind_paired tail size, Binding.bind_paired tail' size'] at filled
    cases filled with
    | values permuted => exact Table.value?_of_perm (Binding.nodup_combine a Table.nodup_names_nil _) permuted
  have own : ∀ pair ∈ b.slots.zip names, pair.1.name = pair.2 := by
    rintro ⟨s, token⟩ member
    have first : (s, s.name) ∈ a.slots.zip names := by
      rw [← filling, ← List.map_prod_left_eq_zip]
      exact List.mem_map.mpr ⟨s, order.mem_iff.mpr (List.of_mem_zip member).1, rfl⟩
    have held := values s.name
    rw [Binding.value?_paired distinct size first, Binding.value?_paired distinct' size' member] at held
    exact Slot.hold_inj (Option.some.inj held)
  have named : b.slots.map Slot.name = names :=
    calc b.slots.map Slot.name = (b.slots.zip names).map fun pair => pair.1.name := by
          conv_lhs => rw [← List.map_fst_zip size'.le, List.map_map]
          rfl
      _ = (b.slots.zip names).map Prod.snd := List.map_congr_left own
      _ = names := List.map_snd_zip size'.ge
  refine List.ext_getElem order.length_eq fun i first second => ?_
  apply List.inj_on_of_nodup_map distinct (List.getElem_mem first) (order.mem_iff.mpr (List.getElem_mem second))
  have here : (a.slots.map Slot.name)[i]? = (b.slots.map Slot.name)[i]? := by rw [filling, named]
  simpa [first, second] using here

/-- The help of a command in a grammar declares a command with its slots. -/
theorem exists_build_help {text : String} {m : Model} (parsed : Model.parse text = .ok m) {c : Command}
    (member : c ∈ m.commands) : ∃ d, build c.help = .ok [d] ∧ d.slots = c.slots := by
  obtain ⟨commands, built, organized⟩ := bind_eq_ok.mp parsed
  obtain ⟨others, order, family⟩ := organize_eq_ok organized
  -- Local names are given after the text is read, and the slots and the help are kept then.
  have declared : ∃ before ∈ commands, c.help = before.help ∧ c.slots = before.slots := by
    rcases List.mem_cons.mp member with rfl | child
    · exact ⟨m.main, order.mem_iff.mpr List.mem_cons_self, rfl, rfl⟩
    · rcases family with ⟨-, alone⟩ | ⟨-, mapped⟩
      · simp [alone] at child
      · obtain ⟨before, found, made⟩ := exists_of_mem_mapM mapped child
        obtain ⟨tail, -, rfl⟩ := asChild_eq_ok made
        exact ⟨before, order.mem_iff.mpr (List.mem_cons_of_mem _ found), rfl, rfl⟩
  obtain ⟨before, found, help, slots⟩ := declared
  obtain ⟨lines, on⟩ := build_isOn built before found
  obtain ⟨line, again⟩ := on.built
  rw [help, slots, on.help, build_join on.one_line, again]
  exact ⟨_, rfl, rfl⟩

/-- Commands of grammars that count as the same bind alike, for they have the same help, and that
declares the slots in their order. -/
theorem alike_of_parsed {text other : String} {m n : Model} (parsed : Model.parse text = .ok m)
    (parsed' : Model.parse other = .ok n) {a b : Command} (member : a ∈ m.commands) (member' : b ∈ n.commands)
    (same : a.same b = true) (tokens : List String) : Alike (a.outcome tokens) (b.outcome tokens) := by
  obtain ⟨d, built, slots⟩ := exists_build_help parsed member
  obtain ⟨e, built', slots'⟩ := exists_build_help parsed' member'
  have declared : d = e := by
    rw [← help_eq_of_same same, built] at built'
    cases built'
    rfl
  have order : a.slots = b.slots := by rw [← slots, ← slots', declared]
  exact alike_of_slots_eq same ((parse_legal parsed).commands a member).keyed.spellings order tokens

/-- Commands that count as the same bind alike when their slots stand in the same order, and when no slot in
front of the last takes all tokens that are left, only then. In whatever way a command came about, its slots and
spellings are distinct; commands of grammars have their slots in the same order. -/
theorem bind_alike {a b : Command} (same : a.same b = true) :
    (a.Constructed → a.Keyed) ∧
      (a.Keyed → a.slots = b.slots → ∀ tokens, Alike (a.outcome tokens) (b.outcome tokens)) ∧
      (a.Keyed → Slot.TailVariadic a.slots → Slot.TailVariadic b.slots →
        (∀ tokens, Alike (a.outcome tokens) (b.outcome tokens)) → a.slots = b.slots) ∧
      ∀ text other m n, Model.parse text = .ok m → Model.parse other = .ok n → a ∈ m.commands →
        b ∈ n.commands → ∀ tokens, Alike (a.outcome tokens) (b.outcome tokens) :=
  ⟨Command.Constructed.keyed, fun keyed => alike_of_slots_eq same keyed.spellings,
    fun keyed => slots_eq_of_alike same keyed.slots,
    fun _ _ _ _ parsed parsed' member member' => alike_of_parsed parsed parsed' member member' same⟩

def copyCommand : Command where
  words := ["copy"]
  name := "copy"
  help := "usage: copy <source> <target>"
  slots := [⟨"source", true, false⟩, ⟨"target", true, false⟩]
  flags := [("f", ⟨.switch, "force"⟩), ("force", ⟨.switch, "force"⟩)]
  line := some 1

def copyReflagged : Command :=
  { copyCommand with flags := copyCommand.flags.reverse, line := none }

def copyReversed : Command :=
  { copyCommand with slots := copyCommand.slots.reverse }

theorem bind_alike_copyReflagged :
    copyCommand.Constructed ∧ copyCommand.same copyReflagged = true ∧
      copyCommand.slots = copyReflagged.slots ∧
      ∀ tokens, Alike (copyCommand.outcome tokens) (copyReflagged.outcome tokens) := by
  have made : Command.of? copyCommand.words none copyCommand.help copyCommand.slots copyCommand.flags (some 1) =
      some copyCommand := by decide
  have constructed : copyCommand.Constructed := .made made
  have same : copyCommand.same copyReflagged = true := by decide
  obtain ⟨keyed, alike, -⟩ := bind_alike same
  exact ⟨constructed, same, rfl, alike (keyed constructed) rfl⟩

/-- Commands that count as the same put two tokens in each other's places. -/
theorem bind_alike_copyReversed :
    copyCommand.same copyReversed = true ∧
      bind copyCommand ["x", "y"] = .ok [("source", .text "x"), ("target", .text "y"), ("force", .flag false)] ∧
      bind copyReversed ["x", "y"] = .ok [("target", .text "x"), ("source", .text "y"), ("force", .flag false)] ∧
      ¬Alike (copyCommand.outcome ["x", "y"]) (copyReversed.outcome ["x", "y"]) := by
  have first : bind copyCommand ["x", "y"] =
      .ok [("source", .text "x"), ("target", .text "y"), ("force", .flag false)] := by decide +kernel
  have second : bind copyReversed ["x", "y"] =
      .ok [("target", .text "x"), ("source", .text "y"), ("force", .flag false)] := by decide +kernel
  refine ⟨by decide, first, second, ?_⟩
  rw [Command.outcome, Command.outcome, first, second]
  intro alike
  cases alike with
  | values permuted => exact absurd permuted (by decide)

end UsageGrammar
