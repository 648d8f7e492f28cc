import UsageGrammar.Check.Document
import UsageGrammar.Proofs.HelpText.Separation

/-! The description of a command is lossless. Its entries have names of their own, as slots and keys
never collide, so the slots and the flags of the command can be rebuilt from them: the slots in order,
and for every spelling its target. -/

set_option autoImplicit false

namespace UsageGrammar

theorem nodup_eraseDups {α : Type} [BEq α] [LawfulBEq α] (items : List α) : items.eraseDups.Nodup := by
  match items with
  | [] => simp
  | item :: rest =>
    rw [List.eraseDups_cons, List.nodup_cons]
    refine ⟨fun member => ?_, nodup_eraseDups _⟩
    have kept := List.mem_eraseDups.mp member
    simp at kept
termination_by items.length
decreasing_by exact Nat.lt_succ_of_le (List.length_filter_le _ _)

namespace Argument

/-- The slot that an entry of this name tells. -/
def slot? (name : String) : Argument → Option Slot
  | .slot required variadic => some ⟨name, required, variadic⟩
  | .flag _ _ => none

def names : Argument → List String
  | .slot _ _ => []
  | .flag _ names => names

/-- What an entry of this key tells of its spellings. -/
def flags (key : String) : Argument → Table Target
  | .slot _ _ => []
  | .flag kind names => names.map (·, ⟨kind, key⟩)

end Argument

namespace Check.Document

def text? : Document → Option String
  | .text s => some s
  | _ => none

/-- The argument that a document is about, read off its type and its other field. -/
def argument? : Document → Option Argument
  | .table [("type", .text "argument"), ("required", .truth required)] => some (.slot required false)
  | .table [("type", .text "argument_array"), ("required", .truth required)] => some (.slot required true)
  | .table [("type", .text "switch"), ("names", .array names)] => (names.mapM text?).map (.flag .switch)
  | .table [("type", .text "option"), ("names", .array names)] => (names.mapM text?).map (.flag .option)
  | _ => none

def ofArguments (arguments : Table Argument) : Document :=
  .table (arguments.map fun (name, a) => (name, ofArgument a))

/-- The slots and the flags that are rebuilt from a document of arguments. -/
def declared? : Document → Option (List Slot × Table Target)
  | .table entries => do
    let arguments ← entries.mapM fun (name, d) => (argument? d).map fun a => (name, a)
    return (arguments.filterMap fun (name, a) => a.slot? name, arguments.flatMap fun (name, a) => a.flags name)
  | _ => none

theorem mapM_text (names : List String) : (names.map Document.text).mapM text? = some names := by
  induction names with
  | nil => rfl
  | cons name rest ih => simp [text?, ih]

theorem argument?_ofArgument (a : Argument) : argument? (ofArgument a) = some a := by
  cases a with
  | slot required variadic => cases variadic <;> rfl
  | flag kind names =>
    have listed := mapM_text names
    cases kind <;> simp [ofArgument, Argument.type, argument?, listed]

theorem declared?_ofArguments (arguments : Table Argument) :
    declared? (ofArguments arguments) =
      some (arguments.filterMap fun (name, a) => a.slot? name, arguments.flatMap fun (name, a) => a.flags name) := by
  have read : (arguments.map fun (name, a) => (name, ofArgument a)).mapM
      (fun (name, d) => (argument? d).map fun a => (name, a)) = some arguments := by
    induction arguments with
    | nil => rfl
    | cons entry rest ih =>
      simp [argument?_ofArgument, ih]
  simp only [ofArguments, declared?, read]
  rfl

end Check.Document

namespace Table

variable {α : Type} [DecidableEq α]

theorem map_names_filter (t : Table α) (value : α) :
    ((t.filter (·.2 == value)).map (·.1)).map (·, value) = t.filter (·.2 == value) := by
  have same : ∀ entry ∈ t.filter (·.2 == value), (entry.1, value) = id entry := by
    intro entry member
    have bound := (List.mem_filter.mp member).2
    rw [beq_iff_eq] at bound
    rw [← bound, id]
  rw [List.map_map]
  exact (List.map_congr_left same).trans (List.map_id _)

/-- A table that is cut by values is cut into all of its entries. -/
theorem perm_grouped {t : Table α} (distinct : t.names.Nodup) :
    (t.values.eraseDups.flatMap fun value => t.filter (·.2 == value)).Perm t := by
  have nodup : t.Nodup := distinct.of_map
  have grouped : (t.values.eraseDups.flatMap fun value => t.filter (·.2 == value)).Nodup := by
    rw [List.nodup_flatMap]
    -- An entry is in the group of its value only.
    refine ⟨fun value _ => nodup.filter _, (nodup_eraseDups t.values).imp fun different => ?_⟩
    intro entry first second
    have value := (List.mem_filter.mp first).2
    have other := (List.mem_filter.mp second).2
    simp only [beq_iff_eq] at value other
    exact different (value.symm.trans other)
  refine (List.perm_ext_iff_of_nodup grouped nodup).mpr fun entry => ?_
  simp only [List.mem_flatMap, List.mem_filter, List.mem_eraseDups, beq_iff_eq]
  constructor
  · rintro ⟨_, -, member, -⟩
    exact member
  · intro member
    exact ⟨entry.2, mem_values member, member, rfl⟩

end Table

namespace Command

def entries (c : Command) : Table Argument :=
  c.slots.map (fun s => (s.name, Argument.slot s.required s.variadic)) ++
    c.options.map fun (target, names) => (target.key, Argument.flag target.kind names)

/-- The arguments tell everything about the slots and the flags of the command. -/
structure ToldBy (c : Command) (arguments : Table Argument) : Prop where
  entries : arguments = c.entries
  distinct : arguments.names.Nodup
  rebuilt : ∃ flags, Check.Document.declared? (.ofArguments arguments) = some (c.slots, flags) ∧
    flags.Perm c.flags ∧ ∀ name, flags.value? name = c.flags.value? name
  listed_once : ∀ name ∈ c.flags.names, (arguments.values.flatMap Argument.names).count name = 1
  listed : ∀ name target, c.flags.value? name = some target →
    ∃ names, (target.key, .flag target.kind names) ∈ arguments ∧ name ∈ names

variable {c : Command}

theorem names_entries (c : Command) :
    c.entries.names = c.slots.map Slot.name ++ c.options.map (·.1.key) := by
  rw [entries, Table.names_append, Table.names, Table.names, List.map_map, List.map_map]
  rfl

theorem keys_options (c : Command) : c.options.map (·.1.key) = c.flags.values.eraseDups.map Target.key := by
  rw [options, List.map_map]
  rfl

theorem nodup_entries (consistent : Consistent c.slots c.flags) : c.entries.names.Nodup := by
  rw [names_entries, keys_options, List.nodup_append]
  refine ⟨consistent.slots_distinct, ?_, ?_⟩
  · refine (nodup_eraseDups c.flags.values).map_on fun t first u second same => ?_
    exact consistent.target_eq (List.mem_eraseDups.mp first) (List.mem_eraseDups.mp second) same
  · rintro name slot key member rfl
    obtain ⟨t, declared, rfl⟩ := List.mem_map.mp member
    exact consistent.key_apart t (List.mem_eraseDups.mp declared) slot

theorem arguments_eq (consistent : Consistent c.slots c.flags) : c.arguments = c.entries :=
  Table.putAll_of_fresh (t := []) (nodup_entries consistent)

theorem slots_entries (c : Command) : (c.entries.filterMap fun (name, a) => a.slot? name) = c.slots := by
  have slots : (c.slots.map fun s => (s.name, Argument.slot s.required s.variadic)).filterMap
      (fun (name, a) => a.slot? name) = c.slots := by
    rw [List.filterMap_map]
    exact List.filterMap_some
  have flags : (c.options.map fun (target, names) => (target.key, Argument.flag target.kind names)).filterMap
      (fun (name, a) => a.slot? name) = [] := by
    simp [Argument.slot?]
  rw [entries, List.filterMap_append, slots, flags, List.append_nil]

theorem flags_entries (c : Command) :
    (c.entries.flatMap fun (name, a) => a.flags name) =
      c.flags.values.eraseDups.flatMap fun target => c.flags.filter (·.2 == target) := by
  have slots : (c.slots.map fun s => (s.name, Argument.slot s.required s.variadic)).flatMap
      (fun (name, a) => a.flags name) = [] := by
    simp [Argument.flags]
  rw [entries, List.flatMap_append, slots, List.nil_append, options, List.map_map, List.flatMap_map]
  exact List.flatMap_congr fun target _ => Table.map_names_filter c.flags target

theorem names_flatMap_flags (arguments : Table Argument) :
    Table.names (arguments.flatMap fun (name, a) => a.flags name) = arguments.values.flatMap Argument.names := by
  induction arguments with
  | nil => rfl
  | cons entry rest ih =>
    obtain ⟨name, a⟩ := entry
    have first : Table.names (a.flags name) = a.names := by
      cases a <;> simp [Argument.flags, Argument.names, Table.names, Function.comp_def]
    rw [List.flatMap_cons, Table.names_append, ih, first, Table.values_cons, List.flatMap_cons]

theorem toldBy_entries (consistent : Consistent c.slots c.flags) : c.ToldBy c.entries := by
  have order := flags_entries c ▸ Table.perm_grouped consistent.spellings_distinct
  have same : ∀ name, Table.value? (c.entries.flatMap fun (name, a) => a.flags name) name = c.flags.value? name :=
    fun name => (Table.value?_of_perm consistent.spellings_distinct order.symm name).symm
  refine ⟨rfl, nodup_entries consistent, ⟨_, ?rebuilt, order, same⟩, ?once, ?own⟩
  case rebuilt => rw [Check.Document.declared?_ofArguments, slots_entries]
  case once =>
    intro name member
    have names := order.map Prod.fst
    rw [← names_flatMap_flags]
    exact (names.count_eq name).trans (List.count_eq_one_of_mem consistent.spellings_distinct member)
  case own =>
    intro name target found
    have member := Table.mem_of_value? found
    have group : (target, (c.flags.filter (·.2 == target)).map (·.1)) ∈ c.options :=
      List.mem_map_of_mem (List.mem_eraseDups.mpr (Table.mem_values member))
    refine ⟨_, List.mem_append_right _ (List.mem_map_of_mem group), ?_⟩
    exact List.mem_map_of_mem (List.mem_filter.mpr ⟨member, beq_self_eq_true target⟩)

end Command

/-- Whatever a help text declares, the description of a command tells all of its slots and flags. -/
theorem describe_lossless {text : String} {commands : List Command} (built : build text = .ok commands)
    {c : Command} (member : c ∈ commands) : c.ToldBy c.describe.arguments := by
  have consistent := (build_legal built c member).1.consistent
  rw [Command.describe, Command.arguments_eq consistent]
  exact Command.toldBy_entries consistent

namespace Command

/-- Lines of a command with an option that two of them declare. -/
def exportLines : List String :=
  ["usage: db export <table> [<columns>...]", "  -f, --format <format>  of the output",
    "  -q, --quiet  silence", "  --as <format>  the same"]

def exportTable : Command where
  words := ["db", "export"]
  name := "db export"
  help := "\n".intercalate exportLines
  slots := [⟨"table", true, false⟩, ⟨"columns", false, true⟩]
  flags := [("f", ⟨.option, "format"⟩), ("format", ⟨.option, "format"⟩), ("q", ⟨.switch, "quiet"⟩),
    ("quiet", ⟨.switch, "quiet"⟩), ("as", ⟨.option, "format"⟩)]
  line := some 1

theorem build_exportLines : build ("\n".intercalate exportLines) = .ok [exportTable] := by
  have whole : ∀ line ∈ exportLines, Text.IsOneLine line.toList := by decide +kernel
  rw [build_join whole]
  decide +kernel

end Command

theorem describe_lossless_export :
    build ("\n".intercalate Command.exportLines) = .ok [Command.exportTable] ∧
      Command.exportTable.describe.arguments =
        [("table", .slot true false), ("columns", .slot false true),
          ("format", .flag .option ["f", "format", "as"]), ("quiet", .flag .switch ["q", "quiet"])] ∧
      Command.exportTable.ToldBy Command.exportTable.describe.arguments :=
  ⟨Command.build_exportLines, by decide +kernel,
    describe_lossless Command.build_exportLines List.mem_cons_self⟩

end UsageGrammar
