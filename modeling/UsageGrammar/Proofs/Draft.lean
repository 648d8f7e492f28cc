import UsageGrammar.Draft
import UsageGrammar.Proofs.Table

/-! The collision rules. What a draft has declared is kept consistent by every declaration, refused or
not, and a declaration is accepted exactly when the draft with it is consistent. -/

set_option autoImplicit false

namespace UsageGrammar

/-- A name is that of one slot, or it is a spelling or key of flags; a spelling is declared once and
the spellings of a key are of one kind. -/
structure Consistent (slots : List Slot) (flags : Table Target) : Prop where
  slots_distinct : (slots.map Slot.name).Nodup
  spellings_distinct : flags.names.Nodup
  spelling_apart : ∀ name ∈ flags.names, name ∉ slots.map Slot.name
  key_apart : ∀ t ∈ flags.values, t.key ∉ slots.map Slot.name
  one_kind : ∀ t ∈ flags.values, ∀ u ∈ flags.values, t.key = u.key → t.kind = u.kind

instance (slots : List Slot) (flags : Table Target) : Decidable (Consistent slots flags) :=
  decidable_of_iff
    ((slots.map Slot.name).Nodup ∧ flags.names.Nodup ∧
      (∀ name ∈ flags.names, name ∉ slots.map Slot.name) ∧
      (∀ t ∈ flags.values, t.key ∉ slots.map Slot.name) ∧
      ∀ t ∈ flags.values, ∀ u ∈ flags.values, t.key = u.key → t.kind = u.kind)
    ⟨fun ⟨slots, spellings, apart, keys, kinds⟩ => ⟨slots, spellings, apart, keys, kinds⟩,
      fun ⟨slots, spellings, apart, keys, kinds⟩ => ⟨slots, spellings, apart, keys, kinds⟩⟩

namespace Consistent

variable {slots : List Slot} {flags : Table Target}

theorem empty : Consistent [] [] := by
  constructor <;> simp [Table.names, Table.values]

theorem slot_eq (consistent : Consistent slots flags) {s t : Slot} (first : s ∈ slots)
    (second : t ∈ slots) (same : s.name = t.name) : s = t :=
  List.inj_on_of_nodup_map consistent.slots_distinct first second same

theorem target_eq (consistent : Consistent slots flags) {t u : Target} (first : t ∈ flags.values)
    (second : u ∈ flags.values) (same : t.key = u.key) : t = u := by
  have kinds := consistent.one_kind t first u second same
  cases t; cases u
  simp_all

theorem mono (consistent : Consistent slots flags) {fewer : List Slot} {less : Table Target}
    (kept : fewer.Sublist slots) (part : less.Sublist flags) : Consistent fewer less where
  slots_distinct := consistent.slots_distinct.sublist (kept.map _)
  spellings_distinct := consistent.spellings_distinct.sublist (part.map _)
  spelling_apart name member taken :=
    consistent.spelling_apart name ((part.map _).subset member) ((kept.map _).subset taken)
  key_apart t member taken :=
    consistent.key_apart t ((part.map _).subset member) ((kept.map _).subset taken)
  one_kind t first u second :=
    consistent.one_kind t ((part.map _).subset first) u ((part.map _).subset second)

theorem add_slot_iff {s : Slot} :
    Consistent (slots ++ [s]) flags ↔
      Consistent slots flags ∧ s.name ∉ slots.map Slot.name ∧ s.name ∉ flags.names ∧
        ∀ t ∈ flags.values, t.key ≠ s.name := by
  constructor
  · rintro ⟨distinct, spellings, spellingApart, keyApart, kinds⟩
    simp only [List.map_append, List.map_cons, List.map_nil, List.mem_append, List.mem_singleton,
      not_or] at distinct spellingApart keyApart
    obtain ⟨earlier, -, fresh⟩ := List.nodup_append.mp distinct
    refine ⟨⟨earlier, spellings, fun name member => (spellingApart name member).1,
      fun t member => (keyApart t member).1, kinds⟩, ?_, ?_, fun t member => (keyApart t member).2⟩
    · intro member
      exact fresh _ member _ (by simp) rfl
    · intro member
      exact (spellingApart _ member).2 rfl
  · rintro ⟨⟨distinct, spellings, spellingApart, keyApart, kinds⟩, freshSlot, freshSpelling, freshKey⟩
    refine ⟨?_, spellings, ?_, ?_, kinds⟩
    · simpa [List.concat_eq_append] using distinct.concat freshSlot
    · intro name member
      simp only [List.map_append, List.map_cons, List.map_nil, List.mem_append, List.mem_singleton, not_or]
      exact ⟨spellingApart name member, fun same => freshSpelling (same ▸ member)⟩
    · intro t member
      simp only [List.map_append, List.map_cons, List.map_nil, List.mem_append, List.mem_singleton, not_or]
      exact ⟨keyApart t member, freshKey t member⟩

end Consistent

namespace Draft

theorem hasSlot_iff (d : Draft) (name : String) :
    d.hasSlot name = true ↔ name ∈ d.slots.map Slot.name := by
  simp [hasSlot]

theorem hasKey_iff (d : Draft) (key : String) :
    d.hasKey key = true ↔ ∃ t ∈ d.flags.values, t.key = key := by
  simp [hasKey]

/-- The last target of a key stands for all of them, as they are of one kind. -/
theorem target?_clashes_iff {d : Draft} (consistent : Consistent d.slots d.flags) (target : Target) :
    (d.target? target.key).any (·.kind != target.kind) = true ↔
      ∃ t ∈ d.flags.values, t.key = target.key ∧ t.kind ≠ target.kind := by
  rw [target?, Option.any_eq_true]
  constructor
  · rintro ⟨t, found, different⟩
    exact ⟨t, List.mem_reverse.mp (List.mem_of_find?_eq_some found), by simpa using List.find?_some found,
      by simpa using different⟩
  · rintro ⟨t, member, same, different⟩
    obtain ⟨last, found⟩ : ∃ last, d.flags.values.reverse.find? (·.key == target.key) = some last := by
      rw [← Option.isSome_iff_exists, List.find?_isSome]
      exact ⟨t, List.mem_reverse.mpr member, by simpa using same⟩
    have declared : last ∈ d.flags.values := List.mem_reverse.mp (List.mem_of_find?_eq_some found)
    have key : last.key = target.key := by simpa using List.find?_some found
    refine ⟨last, found, ?_⟩
    rw [consistent.one_kind last declared t member (key.trans same.symm)]
    simpa using different

theorem declareSlot_eq_none_iff {d r : Draft} {s : Slot} {line : Option Int}
    (before : Consistent d.slots d.flags) :
    d.declareSlot s line = ⟨r, none⟩ ↔
      r = { d with slots := d.slots ++ [s] } ∧ Consistent (d.slots ++ [s]) d.flags := by
  rw [Consistent.add_slot_iff]
  unfold declareSlot
  have taken : (d.hasSlot s.name || d.flags.has s.name || d.hasKey s.name) = true ↔
      s.name ∈ d.slots.map Slot.name ∨ s.name ∈ d.flags.names ∨ ∃ t ∈ d.flags.values, t.key = s.name := by
    rw [Bool.or_eq_true, Bool.or_eq_true, hasSlot_iff, Table.has_iff, hasKey_iff, or_assoc]
  split
  · next refused =>
    rw [taken] at refused
    simp only [Declared.mk.injEq, reduceCtorEq, and_false, false_iff, not_and]
    rintro - - freshSlot freshSpelling freshKey
    rcases refused with slot | spelling | ⟨t, member, same⟩
    · exact freshSlot slot
    · exact freshSpelling spelling
    · exact freshKey t member same
  · next accepted =>
    rw [taken, not_or, not_or, not_exists] at accepted
    simp only [Declared.mk.injEq, and_true]
    constructor
    · rintro rfl
      exact ⟨rfl, before, accepted.1, accepted.2.1, fun t member same => accepted.2.2 t ⟨member, same⟩⟩
    · rintro ⟨rfl, -⟩
      rfl

theorem declareSlots_eq_ok_iff {d r : Draft} {line : Option Int} {slots : List Slot}
    (before : Consistent d.slots d.flags) :
    d.declareSlots line slots = .ok r ↔
      r = { d with slots := d.slots ++ slots } ∧ Consistent (d.slots ++ slots) d.flags := by
  induction slots generalizing d with
  | nil => simp [declareSlots, before, eq_comm]
  | cons s rest ih =>
    unfold declareSlots
    split
    · next refused =>
      simp only [reduceCtorEq, false_iff, not_and]
      rintro - after
      -- A draft that is consistent with all slots is consistent with the first of them.
      have extended : Consistent (d.slots ++ [s]) d.flags := after.mono
        (List.Sublist.append_left (List.singleton_sublist.mpr List.mem_cons_self) _) (List.Sublist.refl _)
      rw [(declareSlot_eq_none_iff before).mpr ⟨rfl, extended⟩] at refused
      cases refused
    · next next accepted =>
      obtain ⟨rfl, extended⟩ := (declareSlot_eq_none_iff before).mp accepted
      rw [ih extended, List.append_assoc, List.singleton_append]

/-- Spellings that differ from each other, and from all spellings and slots of the draft. -/
structure Fresh (d : Draft) (names : List String) : Prop where
  distinct : names.Nodup
  unspelled : ∀ name ∈ names, name ∉ d.flags.names
  unslotted : ∀ name ∈ names, name ∉ d.slots.map Slot.name

def withSpellings (d : Draft) (names : List String) (target : Target) : Draft :=
  { d with flags := d.flags ++ names.map (·, target) }

theorem withSpellings_cons (d : Draft) (name : String) (names : List String) (target : Target) :
    (d.withSpellings [name] target).withSpellings names target = d.withSpellings (name :: names) target := by
  simp [withSpellings]

theorem Fresh.nil (d : Draft) : d.Fresh [] := by
  constructor <;> simp

theorem Fresh.cons {d : Draft} {name : String} {names : List String} {target : Target}
    (unspelled : name ∉ d.flags.names) (unslotted : name ∉ d.slots.map Slot.name)
    (fresh : (d.withSpellings [name] target).Fresh names) : d.Fresh (name :: names) := by
  obtain ⟨distinct, others, slots⟩ := fresh
  have apart : ∀ other ∈ names, other ∉ d.flags.names ∧ other ≠ name := by
    intro other member
    simpa [withSpellings, Table.names] using others other member
  refine ⟨List.nodup_cons.mpr ⟨fun member => (apart name member).2 rfl, distinct⟩, ?_, ?_⟩
  · exact List.forall_mem_cons.mpr ⟨unspelled, fun other member => (apart other member).1⟩
  · exact List.forall_mem_cons.mpr ⟨unslotted, slots⟩

/-- All that the registration of spellings can do: fresh ones are kept up to the first that is taken. -/
inductive Registers (d : Draft) (target : Target) (line : Option Int) : List String → Declared → Prop where
  | all {names : List String} : d.Fresh names →
      Registers d target line names ⟨d.withSpellings names target, none⟩
  | spelled {front back : List String} {name : String} : d.Fresh front →
      name ∈ d.flags.names ∨ name ∈ front →
      Registers d target line (front ++ name :: back)
        ⟨d.withSpellings front target, some ⟨.duplicateOption name, line⟩⟩
  | slotted {front back : List String} {name : String} : d.Fresh front → name ∈ d.slots.map Slot.name →
      Registers d target line (front ++ name :: back)
        ⟨d.withSpellings front target, some ⟨.duplicateArgument name, line⟩⟩

theorem Registers.cons {d : Draft} {target : Target} {line : Option Int} {name : String} {names : List String}
    {r : Declared} (unspelled : name ∉ d.flags.names) (unslotted : name ∉ d.slots.map Slot.name)
    (registers : (d.withSpellings [name] target).Registers target line names r) :
    d.Registers target line (name :: names) r := by
  cases registers with
  | all fresh =>
    rw [withSpellings_cons]
    exact .all (fresh.cons unspelled unslotted)
  | @spelled front back other fresh taken =>
    -- The spelling registered first joins the front, where a later one can repeat it.
    rw [withSpellings_cons, ← List.cons_append]
    refine .spelled (fresh.cons unspelled unslotted) ?_
    simpa [withSpellings, Table.names, or_assoc] using taken
  | slotted fresh taken =>
    rw [withSpellings_cons, ← List.cons_append]
    exact .slotted (fresh.cons unspelled unslotted) taken

theorem registers_registerSpellings (d : Draft) (target : Target) (line : Option Int) (names : List String) :
    d.Registers target line names (d.registerSpellings target line names) := by
  induction names generalizing d with
  | nil =>
    have nothing : d.Registers target line [] ⟨d.withSpellings [] target, none⟩ := .all (Fresh.nil d)
    simpa [withSpellings, registerSpellings] using nothing
  | cons name names ih =>
    unfold registerSpellings
    split
    · next taken =>
      have first : d.Registers target line ([] ++ name :: names)
          ⟨d.withSpellings [] target, some ⟨.duplicateOption name, line⟩⟩ :=
        .spelled (Fresh.nil d) (.inl (Table.has_iff.mp taken))
      simpa [withSpellings] using first
    · next unspelled =>
      rw [Table.has_iff] at unspelled
      -- A spelling that no flag has can still be the name of a slot.
      split
      · next taken =>
        have first : d.Registers target line ([] ++ name :: names)
            ⟨d.withSpellings [] target, some ⟨.duplicateArgument name, line⟩⟩ :=
          .slotted (Fresh.nil d) ((hasSlot_iff d name).mp taken)
        simpa [withSpellings] using first
      · next unslotted =>
        rw [hasSlot_iff] at unslotted
        rw [Table.put_of_fresh unspelled]
        exact (ih (d.withSpellings [name] target)).cons unspelled unslotted

theorem refusal_of_registerSpellings {d : Draft} {target : Target} {line : Option Int} {names : List String}
    {e : DefinitionError} (refused : (d.registerSpellings target line names).refusal = some e) :
    ∃ name, e = ⟨.duplicateOption name, line⟩ ∨ e = ⟨.duplicateArgument name, line⟩ := by
  have registers := registers_registerSpellings d target line names
  generalize d.registerSpellings target line names = r at registers refused
  cases registers with
  | all => cases refused
  | spelled => cases refused; exact ⟨_, .inl rfl⟩
  | slotted => cases refused; exact ⟨_, .inr rfl⟩

theorem Fresh.of_middle {d : Draft} {front back : List String} {name : String}
    (fresh : d.Fresh (front ++ name :: back)) :
    name ∉ d.flags.names ∧ name ∉ front ∧ name ∉ d.slots.map Slot.name := by
  have inside : name ∈ front ++ name :: back := by simp
  refine ⟨fresh.unspelled name inside, fun member => ?_, fresh.unslotted name inside⟩
  exact (List.nodup_append.mp fresh.distinct).2.2 name member name List.mem_cons_self rfl

theorem Registers.refusal_eq_none_iff {d : Draft} {target : Target} {line : Option Int} {names : List String}
    {r : Declared} (registers : d.Registers target line names r) : r.refusal = none ↔ d.Fresh names := by
  cases registers with
  | all fresh => exact iff_of_true rfl fresh
  | spelled _ taken =>
    refine iff_of_false (by simp) fun fresh => ?_
    obtain ⟨unspelled, unrepeated, -⟩ := fresh.of_middle
    exact taken.elim unspelled unrepeated
  | slotted _ taken => exact iff_of_false (by simp) fun fresh => fresh.of_middle.2.2 taken

theorem Registers.eq_of_fresh {d : Draft} {target : Target} {line : Option Int} {names : List String}
    {r : Declared} (registers : d.Registers target line names r) (fresh : d.Fresh names) :
    r = ⟨d.withSpellings names target, none⟩ := by
  have accepted := registers.refusal_eq_none_iff.mpr fresh
  cases registers with
  | all => rfl
  | spelled => cases accepted
  | slotted => cases accepted

/-- Fresh spellings are those that a consistent draft stays consistent with. -/
theorem fresh_iff {d : Draft} {names : List String} {target : Target} (before : Consistent d.slots d.flags)
    (freshKey : target.key ∉ d.slots.map Slot.name)
    (agree : ∀ t ∈ d.flags.values, t.key = target.key → t.kind = target.kind) :
    d.Fresh names ↔ Consistent d.slots (d.flags ++ names.map (·, target)) := by
  have spelled : Table.names (names.map (·, target)) = names := by
    simp [Table.names, Function.comp_def]
  have bound : ∀ t ∈ Table.values (names.map (·, target)), t = target := by simp [Table.values]
  constructor
  · rintro ⟨distinct, unspelled, unslotted⟩
    refine ⟨before.slots_distinct, ?_, ?_, ?_, ?_⟩
    · rw [Table.names_append, spelled, List.nodup_append]
      refine ⟨before.spellings_distinct, distinct, fun name earlier other member same => ?_⟩
      exact unspelled other member (same ▸ earlier)
    · rw [Table.names_append, spelled, List.forall_mem_append]
      exact ⟨before.spelling_apart, unslotted⟩
    · rw [Table.values_append, List.forall_mem_append]
      exact ⟨before.key_apart, fun t member => bound t member ▸ freshKey⟩
    · intro t first u second same
      -- All new entries have the target, so it is only compared with the entries before them.
      rw [Table.values_append, List.mem_append] at first second
      rcases first with first | first <;> rcases second with second | second
      · exact before.one_kind t first u second same
      · rw [bound u second] at same ⊢
        exact agree t first same
      · rw [bound t first] at same ⊢
        exact (agree u second same.symm).symm
      · rw [bound t first, bound u second]
  · rintro ⟨-, distinct, apart, -, -⟩
    rw [Table.names_append, spelled, List.nodup_append] at distinct
    rw [Table.names_append, spelled, List.forall_mem_append] at apart
    obtain ⟨-, different, disjoint⟩ := distinct
    exact ⟨different, fun name member earlier => disjoint name earlier name member rfl, apart.2⟩

theorem registerSpellings_eq_none_iff {d r : Draft} {target : Target} {line : Option Int}
    {names : List String} (before : Consistent d.slots d.flags)
    (freshKey : target.key ∉ d.slots.map Slot.name)
    (agree : ∀ t ∈ d.flags.values, t.key = target.key → t.kind = target.kind) :
    d.registerSpellings target line names = ⟨r, none⟩ ↔
      r = { d with flags := d.flags ++ names.map (·, target) } ∧
        Consistent d.slots (d.flags ++ names.map (·, target)) := by
  have registers := registers_registerSpellings d target line names
  rw [← fresh_iff before freshKey agree, ← registers.refusal_eq_none_iff]
  constructor
  · intro accepted
    rw [accepted] at registers ⊢
    cases registers
    exact ⟨rfl, rfl⟩
  · rintro ⟨rfl, accepted⟩
    exact registers.eq_of_fresh (registers.refusal_eq_none_iff.mp accepted)

/-- A key that is the name of a slot, or that spellings of the other kind are bound to. -/
def KeyTaken (d : Draft) (target : Target) : Prop :=
  target.key ∈ d.slots.map Slot.name ∨ ∃ t ∈ d.flags.values, t.key = target.key ∧ t.kind ≠ target.kind

theorem kind_eq_of_not_keyTaken {d : Draft} {target : Target} (free : ¬d.KeyTaken target) :
    ∀ t ∈ d.flags.values, t.key = target.key → t.kind = target.kind := by
  intro t member same
  by_contra different
  exact free (.inr ⟨t, member, same, different⟩)

theorem not_keyTaken_of_consistent {d : Draft} {names : List String} {target : Target} (nonempty : names ≠ [])
    (after : Consistent d.slots (d.flags ++ names.map (·, target))) : ¬d.KeyTaken target := by
  obtain ⟨name, rest, rfl⟩ := List.exists_cons_of_ne_nil nonempty
  have declared : target ∈ Table.values (d.flags ++ (name :: rest).map (·, target)) := by
    simp [Table.values]
  rintro (slot | ⟨t, member, same, different⟩)
  · exact after.key_apart target declared slot
  · refine different (after.one_kind t ?_ target declared same)
    rw [Table.values_append]
    exact List.mem_append_left _ member

section Flags

variable {d : Draft} {target : Target} (before : Consistent d.slots d.flags) (names : List String)
  (line : Option Int)

include before

theorem declareFlags_of_keyTaken (taken : d.KeyTaken target) :
    d.declareFlags names target line = ⟨d, some ⟨.duplicateArgument target.key, line⟩⟩ := by
  refine if_pos ?_
  rwa [Bool.or_eq_true, hasSlot_iff, target?_clashes_iff before]

theorem declareFlags_of_not_keyTaken (free : ¬d.KeyTaken target) :
    d.declareFlags names target line = d.registerSpellings target line names := by
  refine if_neg ?_
  rwa [Bool.or_eq_true, hasSlot_iff, target?_clashes_iff before]

end Flags

theorem declareFlags_eq_none_iff {d r : Draft} {names : List String} {target : Target}
    {line : Option Int} (before : Consistent d.slots d.flags) (nonempty : names ≠ []) :
    d.declareFlags names target line = ⟨r, none⟩ ↔
      r = { d with flags := d.flags ++ names.map (·, target) } ∧
        Consistent d.slots (d.flags ++ names.map (·, target)) := by
  by_cases taken : d.KeyTaken target
  · rw [declareFlags_of_keyTaken before names line taken]
    simp only [Declared.mk.injEq, reduceCtorEq, and_false, false_iff, not_and]
    rintro - after
    exact not_keyTaken_of_consistent nonempty after taken
  · rw [declareFlags_of_not_keyTaken before names line taken]
    exact registerSpellings_eq_none_iff before (fun slot => taken (.inl slot))
      (kind_eq_of_not_keyTaken taken)

end Draft

end UsageGrammar
