import UsageGrammar.Declaration
import UsageGrammar.Proofs.Draft.Collisions

/-! What a refused declaration leaves behind. A slot and a key are checked before anything is written.
Spellings are written one after the other, so those in front of the first that is taken stay. -/

set_option autoImplicit false

namespace UsageGrammar.Draft

/-- A declaration as it is asked for, with the line of the help text that it stands on. The key of a
flag may be a value that is no key. -/
inductive Demand where
  | slot (s : Slot) (line : Option Int)
  | flags (kind : FlagKind) (names : List String) (key : Datum) (line : Option Int)

def Demand.call : Demand → Except Failure Call
  | .slot s line => .ok (.slot s line)
  | .flags kind names key line => (Target.ofDatum kind key).map fun target => .flags names target line

def serve (d : Draft) (demand : Demand) : Draft × Option Failure :=
  match demand.call with
  | .ok call => ((d.declare call).draft, (d.declare call).refusal.map .definition)
  | .error f => (d, some f)

/-- The drafts that demands and lines of help lead to, from one that declares nothing. -/
inductive Reached : Draft → Prop where
  | opened (words help : List String) (line : Option Int) : Reached ⟨words, help, line, [], []⟩
  | served {d : Draft} (demand : Demand) : Reached d → Reached (d.serve demand).1
  | addHelp {d : Draft} (text : String) : Reached d → Reached (d.addHelp text)

def Taken (d : Draft) (name : String) : Prop :=
  name ∈ d.flags.names ∨ name ∈ d.slots.map Slot.name

/-- If the demand is refused, then before a spelling is written. -/
inductive RefusedWhole (d : Draft) : Demand → Prop where
  | slot {s : Slot} {line : Option Int} : RefusedWhole d (.slot s line)
  | keyless {kind : FlagKind} {names : List String} {key : Datum} {line : Option Int} {f : Failure} :
      Target.ofDatum kind key = .error f → RefusedWhole d (.flags kind names key line)
  | key {kind : FlagKind} {names : List String} {key : Datum} {line : Option Int} {target : Target} :
      Target.ofDatum kind key = .ok target → d.KeyTaken target → RefusedWhole d (.flags kind names key line)
  | first {kind : FlagKind} {name : String} {names : List String} {key : Datum} {line : Option Int} :
      d.Taken name → RefusedWhole d (.flags kind (name :: names) key line)

theorem Reached.consistent {d : Draft} (reached : d.Reached) : Consistent d.slots d.flags := by
  induction reached with
  | opened words help line => exact Consistent.empty
  | @served d demand _ ih =>
    unfold serve
    cases demand.call with
    | ok call => exact consistent_declare ih call
    | error f => exact ih
  | addHelp text _ ih => exact ih

variable {d : Draft}

theorem declareSlot_of_refused {s : Slot} {line : Option Int} {e : DefinitionError}
    (refused : (d.declareSlot s line).refusal = some e) : (d.declareSlot s line).draft = d := by
  unfold declareSlot at refused ⊢
  split
  · rfl
  · next free =>
    rw [if_neg free] at refused
    cases refused

theorem registerSpellings_of_taken {name : String} (taken : d.Taken name) (target : Target)
    (line : Option Int) (names : List String) :
    (d.registerSpellings target line (name :: names)).draft = d := by
  unfold registerSpellings
  split
  · rfl
  · next unspelled =>
    have slot : name ∈ d.slots.map Slot.name :=
      taken.resolve_left fun spelled => unspelled (Table.has_iff.mpr spelled)
    rw [if_pos ((hasSlot_iff d name).mpr slot)]

/-- Refused spellings leave those in front of the first that is taken. -/
theorem Registers.exists_of_refused {target : Target} {line : Option Int} {names : List String} {r : Declared}
    {e : DefinitionError} (registers : d.Registers target line names r) (refused : r.refusal = some e) :
    ∃ front name back, names = front ++ name :: back ∧ d.Fresh front ∧ (d.Taken name ∨ name ∈ front) ∧
      r.draft = d.withSpellings front target := by
  cases registers with
  | all => cases refused
  | spelled fresh taken => exact ⟨_, _, _, rfl, fresh, taken.imp_left .inl, rfl⟩
  | slotted fresh taken => exact ⟨_, _, _, rfl, fresh, .inl (.inr taken), rfl⟩

theorem toCommand_withSpellings_ne {names : List String} (nonempty : names ≠ []) (target : Target) :
    (d.withSpellings names target).toCommand ≠ d.toCommand := by
  intro same
  have flags : d.flags ++ names.map (·, target) = d.flags := congrArg Command.flags same
  rw [List.append_right_eq_self, List.map_eq_nil_iff] at flags
  exact nonempty flags

section Serve

variable (reached : d.Reached) {f : Failure}

include reached

theorem serve_of_refusedWhole {demand : Demand} (whole : d.RefusedWhole demand)
    (refused : (d.serve demand).2 = some f) : (d.serve demand).1 = d := by
  cases whole with
  | slot =>
    obtain ⟨e, refused, -⟩ := Option.map_eq_some_iff.mp refused
    exact declareSlot_of_refused refused
  | keyless missing =>
    unfold serve
    rw [Demand.call, missing]
    rfl
  | key made taken =>
    unfold serve
    rw [Demand.call, made]
    exact congrArg Declared.draft (declareFlags_of_keyTaken reached.consistent _ _ taken)
  | @first kind name names key line taken =>
    unfold serve
    rw [Demand.call]
    cases Target.ofDatum kind key with
    | error f => rfl
    | ok target =>
      show (d.declareFlags (name :: names) target line).draft = d
      by_cases keyTaken : d.KeyTaken target
      · rw [declareFlags_of_keyTaken reached.consistent _ _ keyTaken]
      · rw [declareFlags_of_not_keyTaken reached.consistent _ _ keyTaken]
        exact registerSpellings_of_taken taken target line names

theorem serve_of_not_refusedWhole {demand : Demand} (partly : ¬d.RefusedWhole demand)
    (refused : (d.serve demand).2 = some f) :
    ∃ kind front name back key line target, demand = .flags kind (front ++ name :: back) key line ∧
      front ≠ [] ∧ Target.ofDatum kind key = .ok target ∧ d.Fresh front ∧ (d.Taken name ∨ name ∈ front) ∧
      (d.serve demand).1 = d.withSpellings front target := by
  cases demand with
  | slot s line => exact absurd .slot partly
  | flags kind names key line =>
    cases made : Target.ofDatum kind key with
    | error f => exact absurd (.keyless made) partly
    | ok target =>
      have free : ¬d.KeyTaken target := fun taken => partly (.key made taken)
      have served : d.serve (.flags kind names key line) =
          ((d.registerSpellings target line names).draft,
            (d.registerSpellings target line names).refusal.map .definition) := by
        unfold serve
        rw [Demand.call, made]
        simp only [Except.map, declare, declareFlags_of_not_keyTaken reached.consistent names line free]
      rw [served] at refused ⊢
      obtain ⟨e, refused, -⟩ := Option.map_eq_some_iff.mp refused
      obtain ⟨front, name, back, rfl, fresh, taken, after⟩ :=
        (registers_registerSpellings d target line names).exists_of_refused refused
      refine ⟨kind, front, name, back, key, line, target, rfl, ?_, made, fresh, taken, after⟩
      -- With nothing in front of it, the spelling would have to be taken by the draft itself.
      rintro rfl
      exact partly (.first (taken.resolve_right List.not_mem_nil))

end Serve

/-- A refused demand leaves the draft as it was, and so the command that it makes, exactly when it is
refused before its first spelling is written. Otherwise the spellings in front of the one that is taken
stay declared. -/
theorem serve_refused (reached : d.Reached) {demand : Demand} {f : Failure}
    (refused : (d.serve demand).2 = some f) :
    (d.RefusedWhole demand → (d.serve demand).1 = d) ∧
      (¬d.RefusedWhole demand →
        (d.serve demand).1.toCommand ≠ d.toCommand ∧
          ∃ kind front name back key line target,
            demand = .flags kind (front ++ name :: back) key line ∧ front ≠ [] ∧
              Target.ofDatum kind key = .ok target ∧ d.Fresh front ∧ (d.Taken name ∨ name ∈ front) ∧
              (d.serve demand).1 = d.withSpellings front target) := by
  refine ⟨fun whole => serve_of_refusedWhole reached whole refused, fun partly => ?_⟩
  obtain ⟨kind, front, name, back, key, line, target, shape, nonempty, made, fresh, taken, after⟩ :=
    serve_of_not_refusedWhole reached partly refused
  refine ⟨?_, kind, front, name, back, key, line, target, shape, nonempty, made, fresh, taken, after⟩
  rw [after]
  exact toCommand_withSpellings_ne nonempty target

/-- A draft with a slot and with one switch of two spellings. -/
def verbose : Draft where
  words := ["test"]
  help := ["usage: test <file>", "  -v, --verbose  say more"]
  line := some 1
  slots := [⟨"file", true, false⟩]
  flags := [("v", ⟨.switch, "verbose"⟩), ("verbose", ⟨.switch, "verbose"⟩)]

theorem verbose_reached : verbose.Reached :=
  .addHelp "  -v, --verbose  say more" <|
    .served (.flags .switch ["v", "verbose"] (.text "verbose") (some 2)) <|
      .addHelp "usage: test <file>" <|
        .served (.slot ⟨"file", true, false⟩ (some 1)) (.opened ["test"] [] (some 1))

theorem serve_refused_verbose :
    verbose.Reached ∧
      verbose.serve (.flags .option ["v", "o"] (.text "output") (some 3)) =
        (verbose, some (.definition ⟨.duplicateOption "v", some 3⟩)) := by
  have refused : (verbose.serve (.flags .option ["v", "o"] (.text "output") (some 3))).2 =
      some (.definition ⟨.duplicateOption "v", some 3⟩) := rfl
  have whole : verbose.RefusedWhole (.flags .option ["v", "o"] (.text "output") (some 3)) :=
    .first (.inl (by decide))
  exact ⟨verbose_reached, Prod.ext ((serve_refused verbose_reached refused).1 whole) refused⟩

/-- A spelling stays declared whose declaration was refused. -/
theorem serve_refused_halfway :
    verbose.Reached ∧
      (verbose.serve (.flags .option ["o", "v"] (.text "output") (some 3))).2 =
        some (.definition ⟨.duplicateOption "v", some 3⟩) ∧
      (verbose.serve (.flags .option ["o", "v"] (.text "output") (some 3))).1.flags =
        verbose.flags ++ [("o", ⟨.option, "output"⟩)] := by
  exact ⟨verbose_reached, rfl, by decide⟩

end UsageGrammar.Draft
