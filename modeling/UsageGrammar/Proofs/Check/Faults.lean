import UsageGrammar.Check.Tool
import UsageGrammar.Proofs.Binding.Complaints
import UsageGrammar.Proofs.Conversion.Refusals
import UsageGrammar.Proofs.Conversion.StackRoom
import UsageGrammar.Proofs.Invocation.Course
import UsageGrammar.Proofs.Invocation.Shortcut
import UsageGrammar.Proofs.Text.Lines

/-! The faults that a run of the tool hands over: one for its command line, or one each for the files, the
name and the format, or a complaint of its own. A run quits at its own complaints. What it is given for any
other fault it takes for an answer and goes on. -/

set_option autoImplicit false

namespace UsageGrammar.Check

def formatting (args : Invocation) (here : Surroundings) (commands : List Command) : Course Report := do
  let formats := [.text "default", .text "json", .text "usage"]
  let (format, _) ←
    args.converting .stock { type := .list formats, key := "format", default := .text "default" } here
  return report format commands

def quitting (args : Invocation) (message : String) : Course Report := do
  return .handled (← args.complaining message)

def displaying (args : Invocation) (m : Model) (here : Surroundings) : Course Report := do
  match args.values.value? "name" with
  | none => formatting args here m.commands
  | some bound =>
    let (name, _) ← args.converting .stock { type := .text "string", key := "name" } here
    match ← .ends (m.findNamed name) with
    | some c => formatting args here [c]
    | none => quitting args ("no such command - " ++ bound.datum.plain)

def checking (args : Invocation) (here : Surroundings) : Course Report := do
  let (content, here) ← args.converting .stock { type := .text "file_content", key := "files" } here
  match Model.parse ("\n".intercalate (← .ends (linesOf content))) with
  | .error e => quitting args ("invalid syntax - " ++ e.message)
  | .ok m => displaying args m here

def answering (args : Invocation) (here : Surroundings) : Course Report :=
  if args.isTrue "help" then return .printed args.help
  else if args.isTrue "version" then return .printed ("check v" ++ version)
  else checking args here

/-- The course of a run. -/
def course (prompt : Datum) (here : Surroundings) : Course Report := do
  match ← (← .ends (Model.ofDatum (.text helpText))).invoking prompt with
  | .handled d => .ends (proceed d)
  | .result args => answering args here

section Handling

variable (h : Handler) (args : Invocation) (here : Surroundings)

theorem under_quitting (message : String) :
    (quitting args message).under h = .handled <$> args.complain h message [] := by
  rw [quitting, Course.under_bind, Invocation.under_complaining]
  cases args.complain h message [] <;> rfl

theorem under_displaying (m : Model) : (displaying args m here).under h = display args h m here := by
  unfold displaying display formatting
  cases args.values.value? "name" with
  | none =>
    simp only [Course.under_bind, Invocation.under_converting, map_bind]
    rfl
  | some bound =>
    simp only [Course.under_bind, Invocation.under_converting, Course.under_ends, map_bind]
    refine bind_congr fun name => bind_congr fun found => ?_
    cases found with
    | none => exact under_quitting h args _
    | some c =>
      simp only [Course.under_bind, Invocation.under_converting]
      rfl

theorem under_checking : (checking args here).under h = checkFiles args h here := by
  unfold checking checkFiles
  simp only [Course.under_bind, Invocation.under_converting, Course.under_ends]
  refine bind_congr fun read => bind_congr fun lines => ?_
  cases Model.parse ("\n".intercalate lines) with
  | error e => exact under_quitting h args _
  | ok m => exact under_displaying h args read.2 m

/-- A handler makes of the course of a run what it makes of the run. -/
theorem under_course (prompt : Datum) : (course prompt here).under h = run h prompt here := by
  unfold course run invoke
  simp only [Course.under_bind, Model.under_invoking, Course.under_ends]
  cases Model.ofDatum (.text helpText) with
  | error e => rfl
  | ok m =>
    simp only [ok_bind]
    refine bind_congr fun answer => ?_
    cases answer with
    | handled d => rfl
    | result args =>
      unfold answering
      dsimp only
      split
      · rfl
      · split
        · rfl
        · exact under_checking h args here

end Handling

/-- The run hands over at most so many faults, whatever it is given for them. It ends with such a value
when it complains as an application, and only then. -/
inductive Stops : Nat → Course Report → Prop where
  | ends {n : Nat} {r : Except Failure Report} : (∀ d, r ≠ .ok (.handled d)) → Stops n (.ends r)
  | asks {n : Nat} {f : Fault} {next : Datum → Course Report} :
      ¬f.complaint.IsOfApplication → (∀ d, Stops n (next d)) → Stops (n + 1) (.hands f next)
  | quits {n : Nat} {f : Fault} :
      f.complaint.IsOfApplication → Stops (n + 1) (.hands f fun d => .ends (.ok (.handled d)))

namespace Stops

variable {n : Nat} {c : Course Report}

theorem mono {more : Nat} (stops : Stops n c) (fewer : n ≤ more) : Stops more c := by
  induction stops generalizing more with
  | ends shown => exact .ends shown
  | asks other _ ih =>
    obtain ⟨more, rfl⟩ := Nat.exists_eq_add_of_le' (Nat.le_of_add_left_le fewer)
    exact .asks other fun d => ih d (Nat.le_of_succ_le_succ fewer)
  | quits own =>
    obtain ⟨more, rfl⟩ := Nat.exists_eq_add_of_le' (Nat.le_of_add_left_le fewer)
    exact .quits own

/-- What is asked before the run goes on adds to what is handed over. -/
theorem after {α : Type} {m : Nat} {first : Course α} {g : α → Course Report}
    (asks : first.Asks (¬·.complaint.IsOfApplication) m) (stops : ∀ a, Stops n (g a)) :
    Stops (m + n) (first >>= g) := by
  -- Nothing that is asked first quits the run, so the end of the run is that of what goes on.
  induction asks with
  | ends r =>
    cases r with
    | error e => exact .ends nofun
    | ok a => exact (stops a).mono (Nat.le_add_left n _)
  | hands other _ ih =>
    rw [Nat.succ_add]
    exact .asks other ih

variable (answer : Fault → Datum)

theorem length_handed_le (stops : Stops n c) : (c.handed answer).length ≤ n := by
  induction stops with
  | ends shown => exact Nat.zero_le _
  | asks other _ ih => exact Nat.succ_le_succ (ih _)
  | quits own => exact Nat.succ_le_succ (Nat.zero_le _)

/-- The run ends with a value that it was given exactly when its last fault is a complaint of the
application, and the value is that for this fault. -/
theorem handled_iff (stops : Stops n c) (d : Datum) :
    c.under (.custom answer) = .ok (.handled d) ↔
      ∃ f ∈ (c.handed answer).getLast?, f.complaint.IsOfApplication ∧ answer f = d := by
  induction stops with
  | ends shown => simp [Course.under, Course.handed, shown]
  | @asks n f next other _ ih =>
    have goes : (Course.hands f next).under (.custom answer) = (next (answer f)).under (.custom answer) := rfl
    rw [goes, ih, Course.handed]
    cases (next (answer f)).handed answer with
    | nil => simp [other]
    | cons second rest => simp
  | @quits n f own =>
    have quit : (Course.hands f fun d => .ends (.ok (Report.handled d))).under (.custom answer) =
        .ok (.handled (answer f)) := rfl
    simp [quit, Course.handed, own]

/-- The run hands over one fault at most, and ends at it, exactly when its first fault is a complaint of the
application. -/
theorem quits_iff (stops : Stops n c) :
    ((c.handed answer).length ≤ 1 ∧
        (c.handed answer ≠ [] → ∃ d, c.under (.custom answer) = .ok (.handled d))) ↔
      ∀ f ∈ (c.handed answer).head?, f.complaint.IsOfApplication := by
  have handled := stops.handled_iff answer
  cases stops with
  | ends shown => simp [Course.handed]
  | @asks _ f next other _ =>
    have first : (Course.hands f next).handed answer = f :: (next (answer f)).handed answer := rfl
    constructor
    · rintro ⟨single, ends⟩
      -- The only fault would be the last one, at which the run quits.
      have last : (next (answer f)).handed answer = [] := by simpa [first] using single
      obtain ⟨d, quit⟩ := ends (by simp [first])
      rw [first, last] at handled
      obtain ⟨_, ⟨⟩, own, _⟩ := (handled d).mp quit
      exact absurd own other
    · intro own
      exact absurd (own f rfl) other
  | @quits _ f own =>
    have quit : (Course.hands f fun d => .ends (.ok (Report.handled d))).under (.custom answer) =
        .ok (.handled (answer f)) := rfl
    simp [quit, Course.handed, own]

end Stops

/-- A value that was given for the command line is taken for the values of a command line, so the run does not
end with it. -/
theorem proceed_ne_handled (given d : Datum) : proceed given ≠ .ok (.handled d) := by
  unfold proceed
  cases entryOf given "help" with
  | error e => nofun
  | ok helped =>
    simp only [ok_bind]
    split
    · nofun
    · cases entryOf given "version" with
      | error e => nofun
      | ok versioned =>
        simp only [ok_bind]
        split <;> nofun

theorem stops_formatting (args : Invocation) (here : Surroundings) (commands : List Command) :
    Stops 1 (formatting args here commands) := by
  refine Stops.after (n := 0) (args.asks_converting _ _ here fun _ => id) fun shown => .ends ?_
  unfold report
  intro d
  split
  · nofun
  · split <;> nofun

theorem stops_quitting (args : Invocation) (message : String) : Stops 1 (quitting args message) :=
  .quits trivial

theorem stops_displaying (args : Invocation) (m : Model) (here : Surroundings) :
    Stops 2 (displaying args m here) := by
  unfold displaying
  split
  · exact (stops_formatting args here _).mono (Nat.le_succ 1)
  · -- A refused name is a first fault; a second comes from the look-up or from the format.
    refine Stops.after (m := 1) (n := 1) (args.asks_converting _ _ here fun _ => id) fun ⟨name, _⟩ => ?_
    refine Stops.after (m := 0) (n := 1) (.ends (m.findNamed name)) fun found => ?_
    cases found with
    | none => exact stops_quitting args _
    | some c => exact stops_formatting args here [c]

theorem stops_checking (args : Invocation) (here : Surroundings) : Stops 3 (checking args here) := by
  refine Stops.after (m := 1) (n := 2) (args.asks_converting _ _ here fun _ => id) ?_
  rintro ⟨content, here⟩
  refine Stops.after (m := 0) (n := 2) (.ends (linesOf content)) fun lines => ?_
  cases Model.parse ("\n".intercalate lines) with
  | error e => exact (stops_quitting args _).mono (Nat.le_succ 1)
  | ok m => exact stops_displaying args m here

theorem stops_answering (args : Invocation) (here : Surroundings) : Stops 3 (answering args here) := by
  unfold answering
  split
  · exact .ends nofun
  · split
    · exact .ends nofun
    · exact stops_checking args here

theorem stops_course (prompt : Datum) (here : Surroundings) : Stops 3 (course prompt here) := by
  refine Stops.after (m := 0) (n := 3) (.ends _) fun m => ?_
  unfold Model.invoking
  cases promptTokens prompt with
  | error e => exact .ends nofun
  | ok tokens =>
    rw [Course.ends_ok_bind]
    cases invoked : m.invokeTokens tokens with
    | error f =>
      have other : ¬f.complaint.IsOfApplication :=
        (Model.isOfLine_of_invokeTokens invoked).not_isOfApplication
      exact .asks other fun d => .ends (proceed_ne_handled d)
    | ok args =>
      rw [Course.ends_ok_bind]
      exact stops_answering args here

def ownCommand : Command where
  words := ["check"]
  name := "check"
  help := "\n".intercalate helpLines
  slots := [⟨"files", true, true⟩]
  flags := [
    ("f", ⟨.option, "format"⟩), ("format", ⟨.option, "format"⟩),
    ("c", ⟨.option, "name"⟩), ("command", ⟨.option, "name"⟩),
    ("h", ⟨.switch, "help"⟩), ("help", ⟨.switch, "help"⟩),
    ("v", ⟨.switch, "version"⟩), ("version", ⟨.switch, "version"⟩)]
  line := some 3

def ownInvocation (values : Table Bound) : Invocation :=
  ⟨⟨ownCommand, []⟩, ownCommand, values⟩

theorem parse_helpText : Model.parse helpText = .ok ⟨ownCommand, []⟩ := by
  have lines : Text.lines helpText = helpLines := Text.lines_closed (by decide +kernel)
  have built : buildLines helpLines = .ok [ownCommand] := by decide +kernel
  rw [Model.parse, build, lines, built]
  rfl

theorem course_list (tokens : List String) (here : Surroundings) :
    course (.list (tokens.map .text)) here =
      match bind ownCommand tokens with
      | .error e => .hands ⟨"check", e, (Model.mk ownCommand []).hint⟩ fun d => .ends (proceed d)
      | .ok values => answering (ownInvocation values) here := by
  have declared : Model.ofDatum (.text helpText) = .ok ⟨ownCommand, []⟩ := by
    rw [Model.ofDatum, asHelpText, ok_bind, parse_helpText]
    rfl
  have resolved : (Model.mk ownCommand []).resolve tokens = .ok (ownCommand, tokens) := rfl
  rw [course, declared, Course.ends_ok_bind, Model.invoking, promptTokens_list, Course.ends_ok_bind,
    Model.invokeTokens, resolved]
  dsimp only
  cases bind ownCommand tokens <;> rfl

theorem checking_input (args : Invocation) (named : args.values.value? "files" = some (.texts ["-"]))
    (here : Surroundings) :
    checking args here =
      match Model.parse here.input with
      | .error e => quitting args ("invalid syntax - " ++ e.message)
      | .ok m => displaying args m { here with input := "" } := by
  have found : Registry.stock.lookup (.text "file_content") = .ok (.stock .fileContent) :=
    Registry.lookup_text rfl
  have read : args.converting .stock { type := .text "file_content", key := "files" } here =
      .ends (.ok (.list [.text here.input], { here with input := "" })) := by
    rw [Invocation.converting, named]
    dsimp only
    rw [found]
    rfl
  have lines : linesOf (.list [.text here.input]) = .ok [here.input] := rfl
  rw [checking, read, Course.ends_ok_bind]
  dsimp only
  rw [lines, Course.ends_ok_bind, String.intercalate_singleton]

theorem course_input {tokens : List String} {values : Table Bound}
    (bound : bind ownCommand tokens = .ok values)
    (named : values.value? "files" = some (.texts ["-"]))
    (helpless : values.value? "help" = some (.flag false))
    (versionless : values.value? "version" = some (.flag false)) (here : Surroundings) :
    course (.list (tokens.map .text)) here =
      match Model.parse here.input with
      | .error e => quitting (ownInvocation values) ("invalid syntax - " ++ e.message)
      | .ok m => displaying (ownInvocation values) m { here with input := "" } := by
  have reads : answering (ownInvocation values) here = checking (ownInvocation values) here := by
    rw [answering, Invocation.isTrue, Invocation.isTrue, ownInvocation, helpless, versionless]
    rfl
  rw [course_list, bound, ← checking_input (ownInvocation values) named]
  exact reads

/-- A run hands over one fault at most, and after a fault it shows nothing and does not fail. -/
def QuitsAtFault (answer : Fault → Datum) (prompt : Datum) (here : Surroundings) : Prop :=
  let faults := (course prompt here).handed answer
  faults.length ≤ 1 ∧ (faults ≠ [] → ∃ d, run (.custom answer) prompt here = .ok (.handled d))

/-- A run hands over three faults at most; the first is the one that is raised without a handler. The run
ends with what the handler gives for the last one when this is a complaint of the tool itself, and only then.
So it quits at a fault exactly when its first fault is such a complaint: what the handler gives for any other
fault is taken for an answer. -/
theorem run_quits_iff (answer : Fault → Datum) (prompt : Datum) (here : Surroundings) :
    let faults := (course prompt here).handed answer
    (∀ h, (course prompt here).under h = run h prompt here) ∧
      (∀ f ∈ faults.head?, run .raise prompt here = .error (.fault f)) ∧
      faults.length ≤ 3 ∧
      (∀ d, run (.custom answer) prompt here = .ok (.handled d) ↔
        ∃ f ∈ faults.getLast?, f.complaint.IsOfApplication ∧ answer f = d) ∧
      (QuitsAtFault answer prompt here ↔ ∀ f ∈ faults.head?, f.complaint.IsOfApplication) := by
  have stops := stops_course prompt here
  have course_run : ∀ h, (course prompt here).under h = run h prompt here := fun h =>
    under_course h here prompt
  refine ⟨course_run, fun f first => ?_, stops.length_handed_le answer, fun d => ?_, ?_⟩
  · exact (course_run .raise).symm.trans (Course.under_raise first)
  · rw [← course_run (.custom answer)]
    exact stops.handled_iff answer d
  · unfold QuitsAtFault
    rw [← course_run (.custom answer)]
    exact stops.quits_iff answer

/-- At a help text without commands the tool complains and quits. -/
theorem run_quits_iff_empty :
    let prompt : Datum := .list [.text "-"]
    let here : Surroundings := .bare ⟨2020, 2, 29⟩
    (course prompt here).handed (fun _ => .absent) =
        [⟨"check", .application "invalid syntax - help text does not define a valid command", []⟩] ∧
      QuitsAtFault (fun _ => .absent) prompt here := by
  intro prompt here
  have bound : bind ownCommand ["-"] =
      .ok [("files", .texts ["-"]), ("help", .flag false), ("version", .flag false)] := by decide +kernel
  have broken : Model.parse here.input = .error ⟨.noCommand, none⟩ := by decide +kernel
  have faults : (course prompt here).handed (fun _ => .absent) =
      [⟨"check", .application "invalid syntax - help text does not define a valid command", []⟩] := by
    have goes := course_input bound rfl rfl rfl here
    rw [broken] at goes
    exact congrArg (Course.handed fun _ => .absent) goes
  refine ⟨faults, (run_quits_iff _ prompt here).2.2.2.2.mpr ?_⟩
  rw [faults]
  rintro _ ⟨⟩
  trivial

/-- Without a value for the format, the listing is shown after the complaint about the format. -/
theorem run_listed_after_fault :
    let prompt : Datum := .list [.text "--format:bogus", .text "-"]
    let here : Surroundings := { Surroundings.bare ⟨2020, 2, 29⟩ with input := "usage: foo" }
    (course prompt here).handed (fun _ => .absent) =
        [⟨"check", .conversion "argument must be one of `default`, `json`, `usage`" "format", []⟩] ∧
      run (.custom fun _ => .absent) prompt here = .ok (.printed "Command: foo") ∧
      ¬QuitsAtFault (fun _ => .absent) prompt here := by
  intro prompt here
  let foo : Command := ⟨["foo"], "foo", "usage: foo", [], [], some 1⟩
  have bound : bind ownCommand ["--format:bogus", "-"] =
      .ok [("format", .text "bogus"), ("files", .texts ["-"]), ("help", .flag false),
        ("version", .flag false)] := by decide +kernel
  have parsed : Model.parse here.input = .ok ⟨foo, []⟩ := by decide +kernel
  have goes : course prompt here =
      .hands ⟨"check", .conversion "argument must be one of `default`, `json`, `usage`" "format", []⟩
        fun d => .ends (.ok (report d [foo])) := by
    refine (course_input bound rfl rfl rfl here).trans ?_
    rw [parsed]
    rfl
  have shown : run (.custom fun _ => .absent) prompt here = .ok (.printed "Command: foo") := by
    rw [← under_course, goes]
    rfl
  refine ⟨by rw [goes]; rfl, shown, ?_⟩
  rintro ⟨-, ends⟩
  obtain ⟨d, quit⟩ := ends (by rw [goes]; exact List.cons_ne_nil _ _)
  rw [shown] at quit
  cases quit

end UsageGrammar.Check
