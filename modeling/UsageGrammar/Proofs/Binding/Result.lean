import UsageGrammar.Proofs.Binding.Scan
import UsageGrammar.Proofs.Binding.Slots
import UsageGrammar.Proofs.Draft

/-! The table of all values, put together from its parts: the values of the flags, those of the slots,
and the defaults of the switches. Every name is looked up in the part that it belongs to. -/

set_option autoImplicit false

namespace UsageGrammar.Binding

def slotValues (c : Command) (values : Table Bound) (positionals : List String) :
    Except Complaint (Table Bound) :=
  if isShortcut c values then .ok [] else placements c.slots positionals

def combine (c : Command) (values placed : Table Bound) : Table Bound :=
  addDefaults (values.putAll placed) c.flags.values

theorem bind_eq (c : Command) (tokens : List String) :
    bind c tokens = scan c tokens >>= fun (values, positionals) =>
      (slotValues c values positionals).map (combine c values) := by
  unfold bind
  cases scan c tokens with
  | error e => rfl
  | ok scanned =>
    obtain ⟨values, positionals⟩ := scanned
    simp only [slotValues, Bind.bind, Except.bind]
    split
    · rfl
    · rw [assign_eq]
      cases placements c.slots positionals <;> rfl

/-- What a key is bound to when nothing binds it. -/
def default (targets : List Target) (name : String) : Option Bound :=
  if ⟨.switch, name⟩ ∈ targets then some (.flag false) else none

theorem default_switch {targets : List Target} {t : Target} (declared : t ∈ targets)
    (switch : t.kind = .switch) : default targets t.key = some (.flag false) := by
  have same : (⟨.switch, t.key⟩ : Target) = t := by rw [← switch]
  rw [default, same, if_pos declared]

theorem default_option {slots : List Slot} {flags : Table Target} (consistent : Consistent slots flags)
    {t : Target} (declared : t ∈ flags.values) (option : t.kind = .option) :
    default flags.values t.key = none := by
  refine if_neg fun switch => ?_
  have kinds := consistent.one_kind t declared _ switch rfl
  rw [option] at kinds
  cases kinds

theorem value?_putNew (values : Table Bound) (name other : String) (value : Bound) :
    (values.putNew name value).value? other =
      (values.value? other).or (if other = name then some value else none) := by
  unfold Table.putNew
  split
  · next taken =>
    by_cases same : other = name
    · obtain ⟨present, found⟩ := Option.isSome_iff_exists.mp taken
      rw [same, found, Option.some_or]
    · rw [if_neg same, Option.or_none]
  · next free =>
    rw [Table.value?_put]
    by_cases same : other = name
    · have absent : values.value? name = none := by simpa [Table.has] using free
      rw [same, absent, if_pos rfl, Option.none_or]
    · rw [if_neg same, if_neg same, Option.or_none]

theorem value?_addDefaults (values : Table Bound) (targets : List Target) (name : String) :
    (addDefaults values targets).value? name = (values.value? name).or (default targets name) := by
  induction targets generalizing values with
  | nil => simp [addDefaults, default]
  | cons target rest ih =>
    obtain ⟨kind, key⟩ := target
    cases kind with
    | switch =>
      simp only [addDefaults]
      -- A key that two spellings share gets its default once, and the second time nothing happens.
      rw [ih, value?_putNew, Option.or_assoc]
      by_cases same : name = key
      · simp [default, same]
      · simp [default, same]
    | option =>
      simp only [addDefaults]
      rw [ih]
      simp [default]

theorem nodup_addDefaults {values : Table Bound} (distinct : values.names.Nodup)
    (targets : List Target) : (addDefaults values targets).names.Nodup := by
  induction targets generalizing values with
  | nil => exact distinct
  | cons target rest ih =>
    unfold addDefaults
    split
    · refine ih ?_
      unfold Table.putNew
      split
      · exact distinct
      · exact Table.nodup_put distinct _ _
    · exact ih distinct

theorem value?_combine {c : Command} {placed : Table Bound} (distinct : placed.names.Nodup)
    (values : Table Bound) (name : String) :
    (combine c values placed).value? name =
      (placed.value? name).or ((values.value? name).or (default c.flags.values name)) := by
  rw [combine, value?_addDefaults, Table.value?_putAll, Table.value?_reverse distinct, Option.or_assoc]

theorem nodup_combine (c : Command) {values : Table Bound} (distinct : values.names.Nodup)
    (placed : Table Bound) : (combine c values placed).names.Nodup :=
  nodup_addDefaults (Table.nodup_putAll distinct placed) _

/-- The bindings of slots, which a command that answers without its arguments does not have. -/
structure Slotted (c : Command) (values placed : Table Bound) : Prop where
  names : placed.names.Sublist (c.slots.map Slot.name)
  admitted : ∀ entry ∈ placed, ∃ s ∈ c.slots, s.name = entry.1 ∧ s.Admits entry.2
  required : isShortcut c values = false → ∀ s ∈ c.slots, s.required = true → s.name ∈ placed.names
  shortcut : isShortcut c values = true → placed = []

theorem slotValues_spec {c : Command} {values placed : Table Bound} {positionals : List String}
    (done : slotValues c values positionals = .ok placed) : Slotted c values placed := by
  unfold slotValues at done
  split at done
  · next answers =>
    cases done
    exact ⟨List.nil_sublist _, by simp, by simp [answers], fun _ => rfl⟩
  · next asks =>
    obtain ⟨names, admitted, required, -⟩ := placements_spec done
    exact ⟨names, admitted, fun _ => required, fun answers => absurd answers asks⟩

theorem isShortcut_congr {c : Command} {values others : Table Bound}
    (on : ∀ name, values.value? name = some (.flag true) ↔ others.value? name = some (.flag true)) :
    isShortcut c values = isShortcut c others := by
  have same (name : String) : (values.value? name == some (.flag true)) =
      (others.value? name == some (.flag true)) := by
    rw [Bool.eq_iff_iff, beq_iff_eq, beq_iff_eq]
    exact on name
  simp only [isShortcut, same]

section Parts

variable {c : Command} {values placed : Table Bound}

theorem Slotted.distinct (slotted : Slotted c values placed) (consistent : Consistent c.slots c.flags) :
    placed.names.Nodup :=
  consistent.slots_distinct.sublist slotted.names

theorem Slotted.absent_key (slotted : Slotted c values placed) (consistent : Consistent c.slots c.flags)
    {target : Target} (declared : target ∈ c.flags.values) : placed.value? target.key = none :=
  Table.value?_eq_none_iff.mpr fun member =>
    consistent.key_apart target declared (slotted.names.subset member)

theorem value?_key (slotted : Slotted c values placed) (consistent : Consistent c.slots c.flags)
    {target : Target} (declared : target ∈ c.flags.values) :
    (combine c values placed).value? target.key =
      (values.value? target.key).or (default c.flags.values target.key) := by
  rw [value?_combine (slotted.distinct consistent), slotted.absent_key consistent declared, Option.none_or]

theorem value?_slot (slotted : Slotted c values placed) (typed : Typed c values)
    (consistent : Consistent c.slots c.flags) {s : Slot} (member : s ∈ c.slots) :
    (combine c values placed).value? s.name = placed.value? s.name := by
  have apart : ∀ target ∈ c.flags.values, target.key ≠ s.name := by
    intro target declared same
    exact consistent.key_apart target declared (same ▸ List.mem_map_of_mem member)
  have absent : values.value? s.name = none := by
    rw [Table.value?_eq_none_iff]
    intro taken
    obtain ⟨target, declared, key⟩ := typed.key_of_mem taken
    exact apart target declared key
  have plain : default c.flags.values s.name = none :=
    if_neg fun declared => apart _ declared rfl
  rw [value?_combine (slotted.distinct consistent), absent, plain, Option.or_none, Option.or_none]

theorem value?_on (slotted : Slotted c values placed) (name : String)
    (consistent : Consistent c.slots c.flags) (typed : Typed c values) :
    (combine c values placed).value? name = some (.flag true) ↔ values.value? name = some (.flag true) := by
  rw [value?_combine (slotted.distinct consistent)]
  constructor
  -- Slots are bound to texts and defaults are off, so nothing else says that it is on.
  · intro on
    rcases Option.or_eq_some_iff.mp on with slot | ⟨-, on⟩
    · obtain ⟨s, -, -, admits⟩ := slotted.admitted _ (Table.mem_of_value? slot)
      exact absurd admits id
    · rcases Option.or_eq_some_iff.mp on with on | ⟨-, on⟩
      · exact on
      · unfold default at on
        split at on <;> cases on
  · intro on
    obtain ⟨target, declared, rfl⟩ := typed.key_of_mem (Table.mem_names (Table.mem_of_value? on))
    rw [slotted.absent_key consistent declared, on, Option.none_or, Option.some_or]

theorem isShortcut_combine (slotted : Slotted c values placed) (typed : Typed c values)
    (consistent : Consistent c.slots c.flags) :
    isShortcut c (combine c values placed) = isShortcut c values :=
  isShortcut_congr fun name => value?_on slotted name consistent typed

end Parts

theorem exists_of_bind {c : Command} {tokens : List String} {result : Table Bound}
    (bound : bind c tokens = .ok result) :
    ∃ values positionals placed, scan c tokens = .ok (values, positionals) ∧ Typed c values ∧
      slotValues c values positionals = .ok placed ∧ Slotted c values placed ∧
        result = combine c values placed := by
  rw [bind_eq] at bound
  obtain ⟨⟨values, positionals⟩, scanned, bound⟩ := bind_eq_ok.mp bound
  obtain ⟨placed, placing, rfl⟩ := map_eq_ok.mp bound
  exact ⟨values, positionals, placed, scanned, scan_typed scanned, placing, slotValues_spec placing, rfl⟩

end UsageGrammar.Binding
