import Mathlib.Data.List.DropRight
import UsageGrammar.Proofs.HelpText.Separation

/-! The help of a command as the page that declares it: prose, the usage line, and the lines behind it.
Every command that is read has such a page, and reading the page alone gives the command again. -/

set_option autoImplicit false

namespace UsageGrammar

namespace HelpLine

theorem read_of_allBlank {text : String} (blank : Text.allBlank text = true) : read text = .prose := by
  have nothing : text.toList.dropWhile Text.isBlank = [] :=
    List.dropWhile_eq_nil_iff.mpr (List.all_eq_true.mp blank)
  have usage : readUsage [] = none := rfl
  have flags : readFlags [] = none := rfl
  simp only [read, nothing, usage, flags, List.head?_nil, reduceCtorEq, if_false, Option.getD_none, ite_self]

end HelpLine

/-- The lines of a help text that belong to one command. -/
structure Page where
  heading : List String
  usage : String
  body : List String

namespace Page

def lines (p : Page) : List String :=
  p.heading ++ p.usage :: p.body

def flags (p : Page) : Table Target :=
  p.body.flatMap fun text => (HelpLine.read text).entries

def trimmed (p : Page) : Page :=
  ⟨p.heading.dropWhile Text.allBlank, p.usage, p.body.rdropWhile Text.allBlank⟩

/-- The page declares a command of these words and slots: prose stands in front of its usage line, and
prose and flags behind it. -/
structure Declares (p : Page) (words : List String) (slots : List Slot) : Prop where
  heading : ∀ text ∈ p.heading, HelpLine.read text = .prose
  usage : ∃ remainder, HelpLine.read p.usage = .usage words remainder ∧ Slot.scan remainder = slots
  body : ∀ text ∈ p.body, (HelpLine.read text).IsBody
  one_line : ∀ text ∈ p.lines, Text.IsOneLine text.toList

/-- The draft holds what the page declares. -/
structure Records (p : Page) (d : Draft) : Prop where
  help : d.help = p.lines
  flags : d.flags = p.flags
  declares : p.Declares d.words d.slots

variable {p : Page} {words : List String} {slots : List Slot}

theorem Declares.usage_filled (declares : p.Declares words slots) : Text.allBlank p.usage = false := by
  obtain ⟨remainder, line, -⟩ := declares.usage
  cases blank : Text.allBlank p.usage with
  | false => rfl
  | true =>
    rw [HelpLine.read_of_allBlank blank] at line
    cases line

end Page

theorem dropWhile_append_cons {α : Type} {p : α → Bool} {a : α} (stops : ¬p a = true) (front back : List α) :
    (front ++ a :: back).dropWhile p = front.dropWhile p ++ a :: back := by
  rw [List.dropWhile_append]
  split
  · next nothing => rw [List.isEmpty_iff.mp nothing, List.dropWhile_cons_of_neg stops, List.nil_append]
  · rfl

namespace Page

variable {p : Page} {words : List String} {slots : List Slot} {d : Draft}

theorem lines_trimmed (declares : p.Declares words slots) :
    p.trimmed.lines = Draft.trimLines p.lines := by
  have filled : ¬Text.allBlank p.usage = true := by simp [declares.usage_filled]
  simp only [Draft.trimLines, lines, trimmed, List.rdropWhile]
  -- The usage line is not blank, so it stops the trimming from either end.
  rw [dropWhile_append_cons filled, List.reverse_append, List.reverse_cons, List.append_assoc,
    List.singleton_append, dropWhile_append_cons filled]
  simp

theorem trimmed_trimmed (p : Page) : p.trimmed.trimmed = p.trimmed := by
  simp only [trimmed, List.dropWhile_idempotent, List.rdropWhile_idempotent]

theorem flags_trimmed (p : Page) : p.trimmed.flags = p.flags := by
  have blank : (p.body.rtakeWhile Text.allBlank).flatMap (fun text => (HelpLine.read text).entries) = [] := by
    rw [List.flatMap_eq_nil_iff]
    intro text member
    rw [HelpLine.read_of_allBlank (List.mem_rtakeWhile_imp member)]
    rfl
  have whole : p.body.rdropWhile Text.allBlank ++ p.body.rtakeWhile Text.allBlank = p.body :=
    List.rdropWhile_append_rtakeWhile
  rw [flags, flags, ← whole, List.flatMap_append, blank, List.append_nil]
  simp [trimmed]

theorem Declares.trimmed (declares : p.Declares words slots) : p.trimmed.Declares words slots where
  heading text member := declares.heading text (List.dropWhile_subset _ member)
  usage := declares.usage
  body text member := declares.body text ((List.rdropWhile_prefix _ _).subset member)
  one_line := by
    intro text member
    refine declares.one_line text ?_
    simp only [lines, Page.trimmed, List.mem_append, List.mem_cons] at member ⊢
    rcases member with front | usage | back
    · exact .inl (List.dropWhile_subset _ front)
    · exact .inr (.inl usage)
    · exact .inr (.inr ((List.rdropWhile_prefix _ _).subset back))

theorem records_opened {heading : List String} {text remainder : String}
    (prose : ∀ text ∈ heading, HelpLine.read text = .prose)
    (whole : ∀ text ∈ heading, Text.IsOneLine text.toList)
    (line : HelpLine.read text = .usage words remainder) (whole' : Text.IsOneLine text.toList)
    (place : Option Int) :
    Records ⟨heading, text, []⟩ ⟨words, heading ++ [text], place, Slot.scan remainder, []⟩ where
  help := rfl
  flags := rfl
  declares :=
    { heading := prose
      usage := ⟨remainder, line, rfl⟩
      body := by simp
      one_line := by
        simp only [lines, List.forall_mem_append, List.forall_mem_singleton]
        exact ⟨whole, whole'⟩ }

theorem Records.extended (records : p.Records d) {text : String} (inside : (HelpLine.read text).IsBody)
    (whole : Text.IsOneLine text.toList) :
    Records { p with body := p.body ++ [text] } { d with
      help := d.help ++ [text]
      flags := d.flags ++ (HelpLine.read text).entries } := by
  obtain ⟨help, flags, heading, usage, body, one_line⟩ := records
  refine ⟨by simp [help, lines], by simp [flags, Page.flags], heading, usage, ?_, ?_⟩
  · rw [List.forall_mem_append, List.forall_mem_singleton]
    exact ⟨body, inside⟩
  · have longer : lines { p with body := p.body ++ [text] } = p.lines ++ [text] := by simp [lines]
    rw [longer, List.forall_mem_append, List.forall_mem_singleton]
    exact ⟨one_line, whole⟩

end Page

namespace Reading

/-- A page that is read alone gives the draft that it records, on its own lines. -/
theorem run_page {p : Page} {d : Draft} (records : p.Records d) (consistent : Consistent d.slots d.flags) :
    start.run 1 p.lines =
      .ok ⟨[], .command { d with line := some ((1 + p.heading.length : Nat) : Int) }⟩ := by
  obtain ⟨help, flags, declares⟩ := records
  obtain ⟨remainder, line, scanned⟩ := declares.usage
  have flagged : Consistent d.slots ([] ++ p.flags) := flags ▸ consistent
  have opened : Consistent (Slot.scan remainder) [] :=
    scanned ▸ consistent.mono (List.Sublist.refl _) (List.nil_sublist _)
  have heading := run_heading [] [] 1 declares.heading
  have usage := step_usage (r := ⟨[], .prose p.heading⟩) (n := 1 + p.heading.length) line
    List.not_mem_nil opened
  have body := run_body [] (d := ⟨d.words, p.heading ++ [p.usage],
    some ((1 + p.heading.length : Nat) : Int), d.slots, []⟩) (1 + p.heading.length + 1) declares.body flagged
  rw [scanned] at usage
  rw [Page.lines, run_append, show start = ⟨[], .prose []⟩ from rfl, heading]
  simp only [Except.bind, List.nil_append, run, usage]
  refine body.trans ?_
  simp [help, flags, Page.lines, Page.flags]

/-- Every command that is read has a page, and prose in front of a usage line is whole lines. -/
structure Paged (r : Reading) : Prop where
  drafts : ∀ d ∈ r.drafts, ∃ p : Page, p.Records d
  heading : ∀ text ∈ r.heading, HelpLine.read text = .prose ∧ Text.IsOneLine text.toList

theorem start_paged : start.Paged := by
  constructor <;> simp [start, drafts, heading]

theorem Paged.replace_last {r : Reading} (paged : r.Paged) {d other : Draft}
    (current : r.current = .command d) {p : Page} (records : p.Records other) :
    Paged ⟨r.closed, .command other⟩ := by
  have drafts := paged.drafts
  rw [drafts_of_command current] at drafts
  have earlier := (List.forall_mem_append.mp drafts).1
  exact ⟨forall_drafts_command.mpr ⟨earlier, p, records⟩, by simp [Reading.heading]⟩

theorem step_paged {r next : Reading} {n : Nat} {text : String} (legal : r.Legal) (paged : r.Paged)
    (whole : Text.IsOneLine text.toList) (stepped : r.step n text = .ok next) : next.Paged := by
  rcases step_cases stepped with ⟨-, rfl⟩ | ⟨words, remainder, d, line, -, declared, rfl⟩ |
    ⟨names, target, d, declared, line, current, accepted, rfl⟩ | ⟨line, rfl⟩
  · exact ⟨paged.drafts, by simp [heading]⟩
  -- The prose in front of a usage line becomes the heading of the page that the line opens.
  · obtain ⟨rfl, -⟩ := (Draft.declareSlots_eq_ok_iff Consistent.empty).mp declared
    have page := Page.records_opened (fun text member => (paged.heading text member).1)
      (fun text member => (paged.heading text member).2) line whole (some n)
    exact ⟨forall_drafts_command.mpr ⟨paged.drafts, _, page⟩, by simp [heading]⟩
  · have before := legal.drafts d (by simp [drafts_of_command current])
    obtain ⟨nonempty, -⟩ := HelpLine.declares_of_read line
    obtain ⟨rfl, -⟩ := (Draft.declareFlags_eq_none_iff before.consistent nonempty).mp accepted
    obtain ⟨p, records⟩ := paged.drafts d (by simp [drafts_of_command current])
    have longer := records.extended (.inr ⟨names, target, line⟩) whole
    rw [line] at longer
    exact paged.replace_last current longer
  · cases current : r.current with
    | prose lines =>
      have same := drafts_addHelp_of_prose current text
      refine ⟨same ▸ paged.drafts, fun other member => ?_⟩
      have longer : (r.addHelp text).heading = r.heading ++ [text] := by simp [addHelp, heading, current]
      rw [longer, List.mem_append, List.mem_singleton] at member
      rcases member with member | rfl
      · exact paged.heading other member
      · exact ⟨line, whole⟩
    | command d =>
      obtain ⟨p, records⟩ := paged.drafts d (by simp [drafts_of_command current])
      have longer := records.extended (.inl line) whole
      rw [line, show HelpLine.prose.entries = [] from rfl, List.append_nil] at longer
      rw [addHelp_of_command current]
      exact paged.replace_last current longer

theorem run_paged {r last : Reading} {n : Nat} {lines : List String} (legal : r.Legal) (paged : r.Paged)
    (whole : ∀ text ∈ lines, Text.IsOneLine text.toList) (ran : r.run n lines = .ok last) :
    last.Paged := by
  induction lines generalizing r n with
  | nil => cases ran; exact paged
  | cons text rest ih =>
    obtain ⟨next, stepped, ran⟩ := bind_eq_ok.mp ran
    have first := step_paged legal paged (whole text List.mem_cons_self) stepped
    exact ih (step_legal legal stepped) first
      (fun other member => whole other (List.mem_cons_of_mem _ member)) ran

end Reading

/-- The lines are the help of the command, and read alone they declare it, on a line of their own. -/
structure Command.IsOn (c : Command) (lines : List String) : Prop where
  nonempty : lines ≠ []
  one_line : ∀ text ∈ lines, Text.IsOneLine text.toList
  help : c.help = "\n".intercalate lines
  built : ∃ line, buildLines lines = .ok [{ c with line }]

theorem Page.Records.isOn {p : Page} {d : Draft} (records : p.Records d)
    (consistent : Consistent d.slots d.flags) : d.toCommand.IsOn p.trimmed.lines := by
  obtain ⟨help, flags, declares⟩ := records
  have kept : Draft.trimLines (Draft.trimLines p.lines) = Draft.trimLines p.lines := by
    rw [← lines_trimmed declares, ← lines_trimmed declares.trimmed, trimmed_trimmed]
  -- The lines that trimming drops declare nothing, so the trimmed page records the same command.
  have again : p.trimmed.Records { d with help := p.trimmed.lines } :=
    ⟨rfl, flags.trans p.flags_trimmed.symm, declares.trimmed⟩
  refine ⟨by simp [lines], declares.trimmed.one_line, ?_, some ((1 + p.trimmed.heading.length : Nat) : Int), ?_⟩
  · rw [lines_trimmed declares, ← help]
    rfl
  · rw [buildLines, Reading.run_page again consistent]
    simp only [Except.map, Reading.drafts, List.nil_append, List.map_cons, List.map_nil, Draft.toCommand,
      help, lines_trimmed declares, kept]
    rfl

/-- Every command that a help text declares is on lines of its own. -/
theorem build_isOn {text : String} {commands : List Command} (built : build text = .ok commands) :
    ∀ c ∈ commands, ∃ lines, c.IsOn lines := by
  obtain ⟨last, ran, rfl⟩ := buildLines_eq_ok built
  have legal := Reading.run_legal Reading.start_legal ran
  have paged := Reading.run_paged Reading.start_legal Reading.start_paged
    (fun text member => Text.isOneLine_of_mem_lines member) ran
  intro c member
  obtain ⟨d, found, rfl⟩ := List.mem_map.mp member
  obtain ⟨p, records⟩ := paged.drafts d found
  exact ⟨_, records.isOn (legal.drafts d found).consistent⟩

end UsageGrammar
