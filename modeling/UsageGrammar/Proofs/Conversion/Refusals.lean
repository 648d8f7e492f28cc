import Mathlib.Data.List.Forall2
import UsageGrammar.Invocation.Convert
import UsageGrammar.Proofs.Outcome

/-! How conversions end. What a converter refuses reaches the handler as a complaint about the key, and
nothing else does. -/

set_option autoImplicit false

namespace UsageGrammar

def Surroundings.bare (today : Calendar.Date) : Surroundings :=
  ⟨"/", "/", [], [], "", today⟩

/-- A command line whose command has a value for the one key. -/
def Invocation.only (words : List String) (key : String) (value : Bound) : Invocation :=
  have command : Command := ⟨words, joinWords words, "", [], [], none⟩
  ⟨⟨command, []⟩, command, [(key, value)]⟩

/-- The converter gives the value for the text and leaves the machine as it is. -/
def Stock.Gives (c : Stock) (args : List Datum) (options : Table Datum) (here : Surroundings) (s : String)
    (value : Datum) : Prop :=
  (c.ofText s args options).run here = .ok (value, here)

/-- The converter refuses the text for the reason. -/
def Stock.Refuses (c : Stock) (args : List Datum) (options : Table Datum) (here : Surroundings) (s : String)
    (reason : String) : Prop :=
  (c.ofText s args options).run here = .error (.refused reason)

/-- The conversion fails in a way that is not the fault of the command line. -/
def Stock.Fails (c : Stock) (args : List Datum) (options : Table Datum) (here : Surroundings) (s : String)
    (f : Failure) : Prop :=
  (c.ofText s args options).run here = .error (.failed f)

variable {c : Stock} {args : List Datum} {options : Table Datum} {here : Surroundings} {kind : Datum → Prop}
  {reason : String} {i : Invocation} {h : Handler} {r : Registry} {q : Request}

/-- Every text gives a value of the kind or is refused for the reason. -/
def Stock.Settles (c : Stock) (args : List Datum) (options : Table Datum) (here : Surroundings)
    (kind : Datum → Prop) (reason : String) : Prop :=
  ∀ s, (∃ value, kind value ∧ c.Gives args options here s value) ∨ c.Refuses args options here s reason

/-- Items are converted one after the other up to the first that is refused. -/
theorem Stock.Settles.items (settles : c.Settles args options here kind reason) (items : List String) :
    (∃ values, List.Forall₂ (fun s value => kind value ∧ c.Gives args options here s value) items values ∧
        (items.mapM fun item => (Converter.stock c).apply args options (.text item)).run here =
          .ok (values, here)) ∨
      (∃ s ∈ items, c.Refuses args options here s reason) ∧
        (items.mapM fun item => (Converter.stock c).apply args options (.text item)).run here =
          .error (.refused reason) := by
  induction items with
  | nil => exact .inl ⟨[], .nil, rfl⟩
  | cons s items ih =>
    have first : ((Converter.stock c).apply args options (.text s)).run here =
        (c.ofText s args options).run here := rfl
    rw [List.mapM_cons, StateT.run_bind, first]
    rcases settles s with ⟨value, ofKind, given⟩ | refused
    · rcases ih with ⟨values, others, done⟩ | ⟨⟨t, member, refused⟩, ended⟩
      · refine .inl ⟨value :: values, .cons ⟨ofKind, given⟩ others, ?_⟩
        rw [given, ok_bind, StateT.run_bind, done]
        rfl
      · refine .inr ⟨⟨t, List.mem_cons_of_mem s member, refused⟩, ?_⟩
        rw [given, ok_bind, StateT.run_bind, ended]
        rfl
    · refine .inr ⟨⟨s, List.mem_cons_self, refused⟩, ?_⟩
      rw [refused]
      rfl

theorem Invocation.convert_eq {b : Bound} (bound : i.values.value? q.key = some b)
    (found : r.lookup q.type = .ok (.stock c)) (free : reservedOptions.any q.options.has = false) :
    i.convert h r q here = match ((Converter.stock c).applyTo q.args q.options b).run here with
      | .ok done => .ok done
      | .error (.failed f) => .error f
      | .error (.refused reason) =>
        (h.handle ⟨i.command.fullName, .conversion reason q.key, []⟩).map (·, here) := by
  rw [Invocation.convert, bound]
  simp only [found, ok_bind, free]
  cases ((Converter.stock c).applyTo q.args q.options b).run here with
  | ok done => rfl
  | error interruption =>
    cases interruption with
    | failed f => rfl
    | refused reason =>
      cases h.handle ⟨i.command.fullName, .conversion reason q.key, []⟩ <;> rfl

section Texts

variable {s : String}

theorem convert_of_gives {value : Datum} (found : r.lookup q.type = .ok (.stock c))
    (free : reservedOptions.any q.options.has = false) (bound : i.values.value? q.key = some (.text s))
    (given : c.Gives q.args q.options here s value) : i.convert h r q here = .ok (value, here) := by
  have run : ((Converter.stock c).applyTo q.args q.options (.text s)).run here = .ok (value, here) := given
  rw [Invocation.convert_eq bound found free, run]

theorem convert_of_refuses (found : r.lookup q.type = .ok (.stock c))
    (free : reservedOptions.any q.options.has = false) (bound : i.values.value? q.key = some (.text s))
    (refused : c.Refuses q.args q.options here s reason) :
    i.convert h r q here =
      (h.handle ⟨i.command.fullName, .conversion reason q.key, []⟩).map (·, here) := by
  have run : ((Converter.stock c).applyTo q.args q.options (.text s)).run here = .error (.refused reason) :=
    refused
  rw [Invocation.convert_eq bound found free, run]

theorem convert_of_fails {f : Failure} (found : r.lookup q.type = .ok (.stock c))
    (free : reservedOptions.any q.options.has = false) (bound : i.values.value? q.key = some (.text s))
    (failed : c.Fails q.args q.options here s f) : i.convert h r q here = .error f := by
  have run : ((Converter.stock c).applyTo q.args q.options (.text s)).run here = .error (.failed f) := failed
  rw [Invocation.convert_eq bound found free, run]

end Texts

/-- The value of a key is converted as its texts are. When one of them is refused, the handler answers for
the key. -/
theorem convert_of_settles (settles : c.Settles q.args q.options here kind reason)
    (found : r.lookup q.type = .ok (.stock c)) (free : reservedOptions.any q.options.has = false) :
    (∀ s, i.values.value? q.key = some (.text s) →
        (∃ value, kind value ∧ c.Gives q.args q.options here s value ∧
            i.convert h r q here = .ok (value, here)) ∨
          c.Refuses q.args q.options here s reason ∧
            i.convert h r q here =
              (h.handle ⟨i.command.fullName, .conversion reason q.key, []⟩).map (·, here)) ∧
      ∀ items, i.values.value? q.key = some (.texts items) →
        (∃ values, List.Forall₂ (fun s value => kind value ∧ c.Gives q.args q.options here s value) items values ∧
            i.convert h r q here = .ok (.list values, here)) ∨
          (∃ s ∈ items, c.Refuses q.args q.options here s reason) ∧
            i.convert h r q here =
              (h.handle ⟨i.command.fullName, .conversion reason q.key, []⟩).map (·, here) := by
  constructor
  · intro s bound
    rcases settles s with ⟨value, ofKind, given⟩ | refused
    · exact .inl ⟨value, ofKind, given, convert_of_gives found free bound given⟩
    · exact .inr ⟨refused, convert_of_refuses found free bound refused⟩
  · intro items bound
    rw [Invocation.convert_eq bound found free, Converter.applyTo, StateT.run_bind]
    rcases settles.items items with ⟨values, each, done⟩ | ⟨some, ended⟩
    · refine .inl ⟨values, each, ?_⟩
      rw [done]
      rfl
    · refine .inr ⟨some, ?_⟩
      rw [ended]
      rfl

end UsageGrammar
