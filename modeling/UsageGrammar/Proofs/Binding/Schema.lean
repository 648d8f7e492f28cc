import UsageGrammar.Proofs.Binding.Result
import UsageGrammar.Proofs.Model

/-! Results fit the schema that the command declares, for every help text and every command line. -/

set_option autoImplicit false

namespace UsageGrammar

/-- The main command answers without its arguments when the result says help or version. -/
def Command.Answers (c : Command) (values : Table Bound) : Prop :=
  ' ' ∉ c.fullName.toList ∧
    (values.value? "help" = some (.flag true) ∨ values.value? "version" = some (.flag true))

/-- The table binds what the command declares, and everything to a value of its kind. Required slots
are bound unless the command answers without its arguments; then no slot is. -/
structure Command.Fits (c : Command) (values : Table Bound) : Prop where
  distinct : values.names.Nodup
  declared : ∀ name ∈ values.names,
    name ∈ c.slots.map Slot.name ∨ name ∈ c.flags.values.map Target.key
  apart : ∀ s ∈ c.slots, ∀ t ∈ c.flags.values, s.name ≠ t.key
  switches : ∀ t ∈ c.flags.values, t.kind = .switch → ∃ on, values.value? t.key = some (.flag on)
  options : ∀ t ∈ c.flags.values, t.kind = .option → ∀ bound, values.value? t.key = some bound →
    ∃ text, bound = .text text
  singles : ∀ s ∈ c.slots, s.variadic = false → ∀ bound, values.value? s.name = some bound →
    ∃ text, bound = .text text
  variadics : ∀ s ∈ c.slots, s.variadic = true → ∀ bound, values.value? s.name = some bound →
    ∃ items, bound = .texts items ∧ items ≠ []
  required : ¬c.Answers values → ∀ s ∈ c.slots, s.required = true → s.name ∈ values.names
  answered : c.Answers values → ∀ s ∈ c.slots, s.name ∉ values.names

theorem Command.Fits.admits_key {c : Command} {values : Table Bound} (fits : c.Fits values) {t : Target}
    (declared : t ∈ c.flags.values) {bound : Bound} (found : values.value? t.key = some bound) :
    t.Admits bound := by
  cases kind : t.kind with
  | switch =>
    obtain ⟨on, switched⟩ := fits.switches t declared kind
    rw [found] at switched
    cases switched
    exact kind
  | option =>
    obtain ⟨text, rfl⟩ := fits.options t declared kind bound found
    exact kind

theorem isShortcut_iff {c : Command} {values : Table Bound} :
    Binding.isShortcut c values = true ↔ c.Answers values := by
  simp [Binding.isShortcut, Command.Answers]

namespace Binding

variable {c : Command} {values placed : Table Bound}

theorem Typed.target_of_mem (typed : Typed c values) (consistent : Consistent c.slots c.flags)
    {t : Target} (declared : t ∈ c.flags.values) {bound : Bound}
    (found : values.value? t.key = some bound) : t.Admits bound := by
  obtain ⟨other, declared', same, admits⟩ := typed.admitted _ (Table.mem_of_value? found)
  rwa [consistent.target_eq declared declared' same.symm]

theorem Slotted.slot_of_mem (slotted : Slotted c values placed)
    (consistent : Consistent c.slots c.flags) {s : Slot} (member : s ∈ c.slots) {bound : Bound}
    (found : placed.value? s.name = some bound) : s.Admits bound := by
  obtain ⟨other, member', same, admits⟩ := slotted.admitted _ (Table.mem_of_value? found)
  rwa [consistent.slot_eq member member' same.symm]

theorem mem_names_combine {name : String} (distinct : placed.names.Nodup)
    (member : name ∈ (combine c values placed).names) :
    name ∈ placed.names ∨ name ∈ values.names ∨ ⟨.switch, name⟩ ∈ c.flags.values := by
  rw [← Decidable.not_not (p := name ∈ (combine c values placed).names),
    ← Table.value?_eq_none_iff, value?_combine distinct, Option.or_eq_none_iff, Option.or_eq_none_iff,
    Table.value?_eq_none_iff, Table.value?_eq_none_iff] at member
  by_cases slot : name ∈ placed.names
  · exact .inl slot
  · by_cases flag : name ∈ values.names
    · exact .inr (.inl flag)
    · refine .inr (.inr (Decidable.byContradiction fun plain => member ⟨slot, flag, if_neg plain⟩))

theorem mem_names_slot (slotted : Slotted c values placed) (typed : Typed c values)
    (consistent : Consistent c.slots c.flags) {s : Slot} (member : s ∈ c.slots) :
    s.name ∈ (combine c values placed).names ↔ s.name ∈ placed.names := by
  rw [← not_iff_not, ← Table.value?_eq_none_iff, value?_slot slotted typed consistent member,
    Table.value?_eq_none_iff]

theorem fits_combine (typed : Typed c values) (slotted : Slotted c values placed)
    (consistent : Consistent c.slots c.flags) : c.Fits (combine c values placed) where
  distinct := nodup_combine c typed.distinct placed
  declared := by
    intro name member
    rcases mem_names_combine (slotted.distinct consistent) member with slot | flag | plain
    · exact .inl (slotted.names.subset slot)
    · obtain ⟨t, declared, rfl⟩ := typed.key_of_mem flag
      exact .inr (List.mem_map_of_mem declared)
    · exact .inr (List.mem_map.mpr ⟨_, plain, rfl⟩)
  apart := by
    intro s member t declared same
    exact consistent.key_apart t declared (same ▸ List.mem_map_of_mem member)
  switches := by
    intro t declared switch
    rw [value?_key slotted consistent declared, default_switch declared switch]
    cases found : values.value? t.key with
    | none => exact ⟨false, rfl⟩
    | some bound =>
      have admits := typed.target_of_mem consistent declared found
      cases bound with
      | flag on => exact ⟨on, rfl⟩
      | text text => exact absurd (switch.symm.trans admits) (by decide)
      | texts items => exact admits.elim
  options := by
    intro t declared option bound found
    rw [value?_key slotted consistent declared, default_option consistent declared option,
      Option.or_none] at found
    have admits := typed.target_of_mem consistent declared found
    cases bound with
    | text text => exact ⟨text, rfl⟩
    | flag on => exact absurd (option.symm.trans admits) (by decide)
    | texts items => exact admits.elim
  singles := by
    intro s member single bound found
    rw [value?_slot slotted typed consistent member] at found
    have admits := slotted.slot_of_mem consistent member found
    cases bound with
    | text text => exact ⟨text, rfl⟩
    | flag on => exact admits.elim
    | texts items => exact absurd (single.symm.trans admits.1) (by decide)
  variadics := by
    intro s member variadic bound found
    rw [value?_slot slotted typed consistent member] at found
    have admits := slotted.slot_of_mem consistent member found
    cases bound with
    | text text => exact absurd (variadic.symm.trans admits) (by decide)
    | flag on => exact admits.elim
    | texts items => exact ⟨items, rfl, admits.2⟩
  required := by
    intro asks s member needed
    rw [← isShortcut_iff, isShortcut_combine slotted typed consistent, Bool.not_eq_true] at asks
    rw [mem_names_slot slotted typed consistent member]
    exact slotted.required asks s member needed
  answered := by
    intro answers s member
    rw [← isShortcut_iff, isShortcut_combine slotted typed consistent] at answers
    rw [mem_names_slot slotted typed consistent member, slotted.shortcut answers]
    simp [Table.names]

end Binding

/-- Whatever a command line binds fits what its command declares. -/
theorem bind_fits {help : String} {m : Model} {c : Command} {tokens : List String}
    {values : Table Bound} (parsed : Model.parse help = .ok m) (member : c ∈ m.commands)
    (bound : bind c tokens = .ok values) : c.Fits values := by
  obtain ⟨_, _, _, -, typed, -, slotted, rfl⟩ := Binding.exists_of_bind bound
  exact Binding.fits_combine typed slotted ((parse_legal parsed).commands c member).consistent

theorem bind_fits_pack :
    bind Model.packMain ["x", "-qo", "a", "y"] = .ok
        [("quiet", .flag true), ("dir", .text "a"), ("file", .texts ["x", "y"]), ("help", .flag false)] ∧
      Model.packMain.Fits
        [("quiet", .flag true), ("dir", .text "a"), ("file", .texts ["x", "y"]), ("help", .flag false)] ∧
      bind Model.packMain ["x", "--help"] = .ok [("help", .flag true), ("quiet", .flag false)] ∧
      Model.packMain.Fits [("help", .flag true), ("quiet", .flag false)] := by
  have main : Model.packMain ∈ Model.pack.commands := List.mem_cons_self
  have ordinary : bind Model.packMain ["x", "-qo", "a", "y"] = .ok
      [("quiet", .flag true), ("dir", .text "a"), ("file", .texts ["x", "y"]), ("help", .flag false)] := by
    decide +kernel
  have helped : bind Model.packMain ["x", "--help"] =
      .ok [("help", .flag true), ("quiet", .flag false)] := by
    decide +kernel
  exact ⟨ordinary, bind_fits Model.parse_packText main ordinary, helped,
    bind_fits Model.parse_packText main helped⟩

end UsageGrammar
