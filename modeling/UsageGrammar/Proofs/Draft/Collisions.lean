import UsageGrammar.Proofs.Draft

/-! Declarations that are made on a draft one after the other, in any order, refused ones among them.
Names never collide, and a declaration is refused exactly when it would make them collide. -/

set_option autoImplicit false

namespace UsageGrammar.Draft

inductive Call where
  | slot (s : Slot) (line : Option Int)
  | flags (names : List String) (target : Target) (line : Option Int)
  deriving DecidableEq, Repr

def Call.line : Call → Option Int
  | .slot _ line => line
  | .flags _ _ line => line

def declare (d : Draft) : Call → Declared
  | .slot s line => d.declareSlot s line
  | .flags names target line => d.declareFlags names target line

/-- The draft after some calls; of a refused call it keeps what was registered before the refusal. -/
def declareAll (d : Draft) : List Call → Draft
  | [] => d
  | call :: calls => declareAll (d.declare call).draft calls

/-- The ways in which the names of a call collide with those of a draft, or with each other. -/
inductive Collides (d : Draft) : Call → Prop where
  | slot_declared {s : Slot} {line : Option Int} : s.name ∈ d.slots.map Slot.name → Collides d (.slot s line)
  | slot_spelled {s : Slot} {line : Option Int} : s.name ∈ d.flags.names → Collides d (.slot s line)
  | slot_bound {s : Slot} {line : Option Int} {t : Target} : t ∈ d.flags.values → t.key = s.name →
      Collides d (.slot s line)
  | spelling_declared {names : List String} {target : Target} {line : Option Int} {name : String} :
      name ∈ names → name ∈ d.flags.names → Collides d (.flags names target line)
  | spelling_repeated {names : List String} {target : Target} {line : Option Int} :
      ¬names.Nodup → Collides d (.flags names target line)
  | spelling_slot {names : List String} {target : Target} {line : Option Int} {name : String} :
      name ∈ names → name ∈ d.slots.map Slot.name → Collides d (.flags names target line)
  | key_slot {names : List String} {target : Target} {line : Option Int} :
      target.key ∈ d.slots.map Slot.name → Collides d (.flags names target line)
  | key_kind {names : List String} {target t : Target} {line : Option Int} : t ∈ d.flags.values →
      t.key = target.key → t.kind ≠ target.kind → Collides d (.flags names target line)

def extend (d : Draft) : Call → Draft
  | .slot s _ => { d with slots := d.slots ++ [s] }
  | .flags names target _ => d.withSpellings names target

variable {d : Draft}

theorem collides_slot_iff {s : Slot} {line : Option Int} :
    d.Collides (.slot s line) ↔
      s.name ∈ d.slots.map Slot.name ∨ s.name ∈ d.flags.names ∨ ∃ t ∈ d.flags.values, t.key = s.name := by
  constructor
  · intro collides
    cases collides with
    | slot_declared declared => exact .inl declared
    | slot_spelled spelled => exact .inr (.inl spelled)
    | slot_bound bound same => exact .inr (.inr ⟨_, bound, same⟩)
  · rintro (declared | spelled | ⟨t, bound, same⟩)
    · exact .slot_declared declared
    · exact .slot_spelled spelled
    · exact .slot_bound bound same

theorem collides_flags_iff {names : List String} {target : Target} {line : Option Int} :
    d.Collides (.flags names target line) ↔ d.KeyTaken target ∨ ¬d.Fresh names := by
  constructor
  · intro collides
    cases collides with
    | spelling_declared member declared => exact .inr fun fresh => fresh.unspelled _ member declared
    | spelling_repeated repeated => exact .inr fun fresh => repeated fresh.distinct
    | spelling_slot member slot => exact .inr fun fresh => fresh.unslotted _ member slot
    | key_slot slot => exact .inl (.inl slot)
    | key_kind bound same different => exact .inl (.inr ⟨_, bound, same, different⟩)
  · rintro ((slot | ⟨t, bound, same, different⟩) | stale)
    · exact .key_slot slot
    · exact .key_kind bound same different
    -- Spellings that avoid each of the other collisions are fresh.
    · by_contra apart
      apply stale
      constructor
      · by_contra repeated
        exact apart (.spelling_repeated repeated)
      · exact fun name member declared => apart (.spelling_declared member declared)
      · exact fun name member slot => apart (.spelling_slot member slot)

theorem declareSlot_refused_iff (s : Slot) (line : Option Int) :
    (d.declareSlot s line).refusal ≠ none ↔ d.Collides (.slot s line) := by
  rw [collides_slot_iff, ← hasSlot_iff, ← Table.has_iff, ← hasKey_iff, ← Bool.or_eq_true, ← Bool.or_eq_true,
    ← Bool.or_assoc]
  unfold declareSlot
  split
  · next taken => simp [taken]
  · next free => simp [free]

theorem declareFlags_refused_iff (before : Consistent d.slots d.flags) (names : List String) (target : Target)
    (line : Option Int) :
    (d.declareFlags names target line).refusal ≠ none ↔ d.Collides (.flags names target line) := by
  rw [collides_flags_iff]
  by_cases taken : d.KeyTaken target
  · rw [declareFlags_of_keyTaken before names line taken]
    simp [taken]
  · have registers := registers_registerSpellings d target line names
    rw [declareFlags_of_not_keyTaken before names line taken, ne_eq, registers.refusal_eq_none_iff]
    simp [taken]

theorem consistent_declareSlot (before : Consistent d.slots d.flags) (s : Slot) (line : Option Int) :
    Consistent (d.declareSlot s line).draft.slots (d.declareSlot s line).draft.flags := by
  unfold declareSlot
  split
  · exact before
  · next free =>
    have accepted : d.declareSlot s line = ⟨{ d with slots := d.slots ++ [s] }, none⟩ := if_neg free
    exact ((declareSlot_eq_none_iff before).mp accepted).2

/-- Whatever is refused, only fresh spellings have been registered. -/
theorem Registers.exists_front {target : Target} {line : Option Int} {names : List String} {r : Declared}
    (registers : d.Registers target line names r) :
    ∃ front, d.Fresh front ∧ r.draft = d.withSpellings front target := by
  cases registers with
  | all fresh => exact ⟨_, fresh, rfl⟩
  | spelled fresh => exact ⟨_, fresh, rfl⟩
  | slotted fresh => exact ⟨_, fresh, rfl⟩

theorem consistent_declareFlags (before : Consistent d.slots d.flags) (names : List String) (target : Target)
    (line : Option Int) :
    Consistent (d.declareFlags names target line).draft.slots (d.declareFlags names target line).draft.flags := by
  by_cases taken : d.KeyTaken target
  · rw [declareFlags_of_keyTaken before names line taken]
    exact before
  · rw [declareFlags_of_not_keyTaken before names line taken]
    -- The key is free, so the spellings in front of a refused one are as good as accepted ones.
    obtain ⟨front, fresh, after⟩ := (registers_registerSpellings d target line names).exists_front
    rw [after]
    exact (fresh_iff before (fun slot => taken (.inl slot)) (kind_eq_of_not_keyTaken taken)).mp fresh

theorem consistent_declare (before : Consistent d.slots d.flags) (call : Call) :
    Consistent (d.declare call).draft.slots (d.declare call).draft.flags := by
  cases call with
  | slot s line => exact consistent_declareSlot before s line
  | flags names target line => exact consistent_declareFlags before names target line

theorem consistent_declareAll (before : Consistent d.slots d.flags) (calls : List Call) :
    Consistent (d.declareAll calls).slots (d.declareAll calls).flags := by
  induction calls generalizing d with
  | nil => exact before
  | cons call calls ih => exact ih (consistent_declare before call)

theorem declare_refused_iff (before : Consistent d.slots d.flags) (call : Call) :
    (d.declare call).refusal ≠ none ↔ d.Collides call := by
  cases call with
  | slot s line => exact declareSlot_refused_iff s line
  | flags names target line => exact declareFlags_refused_iff before names target line

/-- A refusal is that of an option or of an argument, on the line of the call. -/
def Call.IsRefusal (call : Call) (e : DefinitionError) : Prop :=
  ∃ name, e = ⟨.duplicateOption name, call.line⟩ ∨ e = ⟨.duplicateArgument name, call.line⟩

theorem isRefusal_of_declare (before : Consistent d.slots d.flags) {call : Call} {e : DefinitionError}
    (refused : (d.declare call).refusal = some e) : call.IsRefusal e := by
  cases call with
  | slot s line =>
    simp only [declare, declareSlot] at refused
    split at refused <;> cases refused
    exact ⟨s.name, .inr rfl⟩
  | flags names target line =>
    simp only [declare] at refused
    by_cases taken : d.KeyTaken target
    · rw [declareFlags_of_keyTaken before names line taken] at refused
      cases refused
      exact ⟨target.key, .inr rfl⟩
    · rw [declareFlags_of_not_keyTaken before names line taken] at refused
      exact refusal_of_registerSpellings refused

theorem declare_of_not_collides (before : Consistent d.slots d.flags) {call : Call} (free : ¬d.Collides call) :
    d.declare call = ⟨d.extend call, none⟩ := by
  cases call with
  | slot s line =>
    have accepted := mt (declareSlot_refused_iff s line).mp free
    simp only [declare, declareSlot] at accepted ⊢
    split at accepted
    · exact absurd nofun accepted
    · next apart => exact if_neg apart
  | flags names target line =>
    obtain ⟨keyFree, fresh⟩ := not_or.mp (mt collides_flags_iff.mpr free)
    rw [declare, declareFlags_of_not_keyTaken before names line keyFree]
    exact (registers_registerSpellings d target line names).eq_of_fresh (not_not.mp fresh)

/-- Whatever was called on a draft that declares nothing, its names do not collide. A further call is refused
exactly when it collides, and registers all that it declares when it does not. -/
theorem declareAll_enforces (words help : List String) (line : Option Int) (calls : List Call) :
    let d := (⟨words, help, line, [], []⟩ : Draft).declareAll calls
    Consistent d.slots d.flags ∧ ∀ call, ((d.declare call).refusal ≠ none ↔ d.Collides call) ∧
      (¬d.Collides call → d.declare call = ⟨d.extend call, none⟩) ∧
      ∀ e, (d.declare call).refusal = some e → call.IsRefusal e := by
  intro d
  have consistent : Consistent d.slots d.flags := consistent_declareAll Consistent.empty calls
  exact ⟨consistent, fun call => ⟨declare_refused_iff consistent call, declare_of_not_collides consistent,
    fun _ => isRefusal_of_declare consistent⟩⟩

/-- A slot, a switch, and an option of which the second spelling is refused. -/
def saving : List Call :=
  [.slot ⟨"file", true, false⟩ (some 1), .flags ["v", "verbose"] ⟨.switch, "verbose"⟩ (some 2),
    .flags ["o", "v"] ⟨.option, "output"⟩ (some 3)]

theorem declareAll_enforces_saving :
    let d := (⟨["save"], [], some 1, [], []⟩ : Draft).declareAll saving
    d.slots = [⟨"file", true, false⟩] ∧ d.flags.names = ["v", "verbose", "o"] ∧
      d.declare (.slot ⟨"output", false, false⟩ (some 4)) = ⟨d, some ⟨.duplicateArgument "output", some 4⟩⟩ ∧
      d.Collides (.slot ⟨"output", false, false⟩ (some 4)) ∧
      d.declare (.flags ["q", "quiet"] ⟨.switch, "quiet"⟩ (some 5)) =
        ⟨d.withSpellings ["q", "quiet"] ⟨.switch, "quiet"⟩, none⟩ := by
  obtain ⟨-, enforced⟩ := declareAll_enforces ["save"] [] (some 1) saving
  have collides := (enforced (.slot ⟨"output", false, false⟩ (some 4))).1.mp (by decide)
  have free := mt (enforced (.flags ["q", "quiet"] ⟨.switch, "quiet"⟩ (some 5))).1.mpr (by decide)
  exact ⟨rfl, rfl, rfl, collides, (enforced _).2.1 free⟩

end UsageGrammar.Draft
