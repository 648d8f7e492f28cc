import UsageGrammar.Invocation.Convert
import UsageGrammar.Proofs.Outcome

/-! Operations up to the faults that they hand over. A handler that gives a value for a fault lets the
operation go on with the value, so that one run may hand over several faults; its course tells them in
order. -/

set_option autoImplicit false

namespace UsageGrammar

/-- An operation ends, or it hands over a fault and goes on with the value that it is given for it. -/
inductive Course (α : Type) where
  | ends (r : Except Failure α)
  | hands (f : Fault) (next : Datum → Course α)

namespace Course

variable {α β : Type}

def andThen (c : Course α) (g : α → Course β) : Course β :=
  match c with
  | .ends (.ok a) => g a
  | .ends (.error e) => .ends (.error e)
  | .hands f next => .hands f fun d => (next d).andThen g

instance : Monad Course where
  pure a := .ends (.ok a)
  bind := andThen

@[simp] theorem ends_ok_bind (a : α) (g : α → Course β) : (Course.ends (.ok a) >>= g) = g a :=
  rfl

@[simp] theorem hands_bind (f : Fault) (next : Datum → Course α) (g : α → Course β) :
    (Course.hands f next >>= g) = .hands f fun d => next d >>= g :=
  rfl

/-- How the operation ends when a handler takes its faults. -/
def under (h : Handler) : Course α → Except Failure α
  | .ends r => r
  | .hands f next => h.handle f >>= fun d => (next d).under h

/-- The faults that are handed over when each gets a value. -/
def handed (answer : Fault → Datum) : Course α → List Fault
  | .ends _ => []
  | .hands f next => f :: (next (answer f)).handed answer

theorem under_ends (h : Handler) (r : Except Failure α) : (Course.ends r).under h = r :=
  rfl

theorem under_bind (h : Handler) (c : Course α) (g : α → Course β) :
    (c >>= g).under h = c.under h >>= fun a => (g a).under h := by
  induction c with
  | ends r => cases r <;> rfl
  | hands f next ih =>
    rw [hands_bind, under, under]
    -- A handler that raises ends both sides; otherwise both go on with its value.
    cases h.handle f with
    | error e => rfl
    | ok d => exact ih d

/-- The first fault is the one that is raised without a handler. -/
theorem under_raise {answer : Fault → Datum} {c : Course α} {f : Fault}
    (first : f ∈ (c.handed answer).head?) : c.under .raise = .error (.fault f) := by
  cases c with
  | ends r => cases first
  | hands other next =>
    cases first
    rfl

/-- The operation hands over at most so many faults, whatever it is given for them, and all of them are of
the kind. -/
inductive Asks (kind : Fault → Prop) : Nat → Course α → Prop where
  | ends {n : Nat} (r : Except Failure α) : Asks kind n (.ends r)
  | hands {n : Nat} {f : Fault} {next : Datum → Course α} :
      kind f → (∀ d, Asks kind n (next d)) → Asks kind (n + 1) (.hands f next)

end Course

def Invocation.converting (i : Invocation) (r : Registry) (q : Request) (here : Surroundings) :
    Course (Datum × Surroundings) :=
  match i.values.value? q.key with
  | none => .ends (.ok (q.default, here))
  | some bound => do
    let c ← .ends (r.lookup q.type)
    if reservedOptions.any q.options.has then .ends (.error (.wrongKind none))
    else
      match (c.applyTo q.args q.options bound).run here with
      | .ok done => .ends (.ok done)
      | .error (.failed f) => .ends (.error f)
      | .error (.refused reason) =>
        .hands ⟨i.command.fullName, .conversion reason q.key, []⟩ fun d => .ends (.ok (d, here))

theorem Invocation.under_converting (i : Invocation) (h : Handler) (r : Registry) (q : Request)
    (here : Surroundings) : (i.converting r q here).under h = i.convert h r q here := by
  unfold converting convert
  cases i.values.value? q.key with
  | none => rfl
  | some bound =>
    simp only [Course.under_bind, Course.under_ends]
    refine bind_congr fun c => ?_
    split
    · rfl
    · cases (c.applyTo q.args q.options bound).run here with
      | ok done => rfl
      | error interruption => cases interruption <;> rfl

theorem Invocation.asks_converting {kind : Fault → Prop} (i : Invocation) (r : Registry) (q : Request)
    (here : Surroundings) (ofKind : ∀ reason, kind ⟨i.command.fullName, .conversion reason q.key, []⟩) :
    (i.converting r q here).Asks kind 1 := by
  unfold converting
  split
  · exact .ends _
  · next bound _ =>
    cases r.lookup q.type with
    | error e => exact .ends _
    | ok c =>
      rw [Course.ends_ok_bind]
      split
      · exact .ends _
      · split
        · exact .ends _
        · exact .ends _
        · exact .hands (ofKind _) fun d => .ends _

def Invocation.complaining (i : Invocation) (message : String) : Course Datum :=
  .hands ⟨i.command.fullName, .application message, []⟩ fun d => .ends (.ok d)

theorem Invocation.under_complaining (i : Invocation) (h : Handler) (message : String) :
    (i.complaining message).under h = i.complain h message [] := by
  unfold complaining complain Course.under
  cases h.handle ⟨i.command.fullName, .application message, []⟩ <;> rfl

def Model.invoking (m : Model) (prompt : Datum) : Course (Answer Invocation) := do
  match m.invokeTokens (← .ends (promptTokens prompt)) with
  | .ok i => .ends (.ok (.result i))
  | .error f => .hands f fun d => .ends (.ok (.handled d))

theorem Model.under_invoking (m : Model) (h : Handler) (prompt : Datum) :
    (m.invoking prompt).under h = m.invoke h prompt := by
  unfold invoking invoke
  simp only [Course.under_bind, Course.under_ends]
  refine bind_congr fun tokens => ?_
  cases m.invokeTokens tokens with
  | ok i => rfl
  | error f =>
    simp only [Handler.settle, Course.under]
    cases h.handle f <;> rfl

end UsageGrammar
