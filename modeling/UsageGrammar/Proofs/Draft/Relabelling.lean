import UsageGrammar.Draft

/-! What declarations do not look at. A draft with other help lines, or one that was opened on another
line, accepts the same declarations and refuses the others for the same causes. -/

set_option autoImplicit false

namespace UsageGrammar

def DefinitionError.relocated (place : Option Int → Option Int) (e : DefinitionError) : DefinitionError :=
  { e with line := place e.line }

def Draft.relabelled (help : List String → List String) (place : Option Int → Option Int) (d : Draft) : Draft :=
  { d with help := help d.help, line := place d.line }

def Declared.relabelled (help : List String → List String) (place : Option Int → Option Int) (r : Declared) :
    Declared :=
  ⟨r.draft.relabelled help place, r.refusal.map (DefinitionError.relocated place)⟩

/-- An outcome with its draft or its fault replaced. -/
def relabelledOutcome (help : List String → List String) (place : Option Int → Option Int) :
    Except DefinitionError Draft → Except DefinitionError Draft
  | .ok d => .ok (d.relabelled help place)
  | .error e => .error (e.relocated place)

namespace Draft

variable (help : List String → List String) (place : Option Int → Option Int) (d : Draft)

@[simp] theorem relabelled_flags : (d.relabelled help place).flags = d.flags := rfl

@[simp] theorem relabelled_hasSlot (name : String) : (d.relabelled help place).hasSlot name = d.hasSlot name := rfl

@[simp] theorem relabelled_hasKey (key : String) : (d.relabelled help place).hasKey key = d.hasKey key := rfl

@[simp] theorem relabelled_target? (key : String) : (d.relabelled help place).target? key = d.target? key := rfl

variable (line : Option Int)

theorem declareSlot_relabelled (s : Slot) :
    (d.relabelled help place).declareSlot s (place line) = (d.declareSlot s line).relabelled help place := by
  unfold declareSlot
  rw [relabelled_hasSlot, relabelled_flags, relabelled_hasKey]
  split <;> rfl

theorem declareSlots_relabelled (slots : List Slot) :
    (d.relabelled help place).declareSlots (place line) slots =
      relabelledOutcome help place (d.declareSlots line slots) := by
  induction slots generalizing d with
  | nil => rfl
  | cons s rest ih =>
    simp only [declareSlots, declareSlot_relabelled]
    obtain ⟨after, refusal⟩ := d.declareSlot s line
    cases refusal with
    | none => exact ih after
    | some e => rfl

theorem registerSpellings_relabelled (target : Target) (names : List String) :
    (d.relabelled help place).registerSpellings target (place line) names =
      (d.registerSpellings target line names).relabelled help place := by
  induction names generalizing d with
  | nil => rfl
  | cons name names ih =>
    unfold registerSpellings
    rw [relabelled_hasSlot, relabelled_flags]
    split
    · rfl
    · split
      · rfl
      · exact ih { d with flags := d.flags.put name target }

theorem declareFlags_relabelled (names : List String) (target : Target) :
    (d.relabelled help place).declareFlags names target (place line) =
      (d.declareFlags names target line).relabelled help place := by
  unfold declareFlags
  rw [relabelled_hasSlot, relabelled_target?]
  split
  · rfl
  · exact registerSpellings_relabelled help place d line target names

-- Giving a draft the help that it has changes nothing, and what comes out has that help.
theorem help_declareFlags (names : List String) (target : Target) :
    (d.declareFlags names target line).draft.help = d.help :=
  congrArg (fun r => r.draft.help) (declareFlags_relabelled (fun _ => d.help) id d line names target)

end Draft

end UsageGrammar
