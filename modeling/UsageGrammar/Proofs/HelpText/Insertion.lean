import UsageGrammar.Proofs.HelpText.Prefixes
import UsageGrammar.Proofs.HelpText.Segments

/-! A line of prose may be put in anywhere. The text with the line and the text without it are read side
by side: they declare the same commands, of which only one can have another help, or they are refused for
the same cause. -/

set_option autoImplicit false

namespace UsageGrammar

/-- Where a line stands when another one is put in behind the first `n`. -/
def pushedLine (n : Nat) (line : Option Int) : Option Int :=
  line.map fun number : Int => if number ≤ n then number else number + 1

theorem pushedLine_some (n m : Nat) :
    pushedLine n (some (m : Int)) = some ((if m ≤ n then m else m + 1 : Nat) : Int) := by
  unfold pushedLine
  by_cases inside : m ≤ n <;> simp [inside]

theorem pushedLine_front {n m : Nat} (inside : m ≤ n) : pushedLine n (some (m : Int)) = some (m : Int) := by
  rw [pushedLine_some, if_pos inside]

theorem pushedLine_behind {n m : Nat} (behind : n < m) :
    pushedLine n (some (m : Int)) = some ((m + 1 : Nat) : Int) := by
  rw [pushedLine_some, if_neg (Nat.not_le.mpr behind)]

section Lists

variable {α β : Type} {k : Nat} {a b : List α}

def AgreeBut (k : Nat) (a b : List α) : Prop :=
  ∀ i, i ≠ k → a[i]? = b[i]?

theorem AgreeBut.refl (k : Nat) (a : List α) : AgreeBut k a a :=
  fun _ _ => rfl

theorem AgreeBut.map (agree : AgreeBut k a b) (f : α → β) : AgreeBut k (a.map f) (b.map f) := by
  intro i other
  rw [List.getElem?_map, List.getElem?_map, agree i other]

theorem AgreeBut.concat (agree : AgreeBut k a b) (size : a.length = b.length) {x y : α}
    (last : a.length ≠ k → x = y) : AgreeBut k (a ++ [x]) (b ++ [y]) := by
  intro i other
  rcases Nat.lt_trichotomy i a.length with inside | rfl | outside
  · rw [List.getElem?_append_left inside, List.getElem?_append_left (size ▸ inside), agree i other]
  · rw [List.getElem?_concat_length, size, List.getElem?_concat_length, last other]
  · have longer : (a ++ [x]).length ≤ i := by simpa using Nat.succ_le_of_lt outside
    have longer' : (b ++ [y]).length ≤ i := by simpa [← size] using Nat.succ_le_of_lt outside
    rw [List.getElem?_eq_none longer, List.getElem?_eq_none longer']

end Lists

/-- The commands differ in their help at most, and one stands where the line of the other is pushed to. -/
structure Command.Reworded (n : Nat) (c d : Command) : Prop where
  words : d.words = c.words
  name : d.name = c.name
  slots : d.slots = c.slots
  flags : d.flags = c.flags
  line : d.line = pushedLine n c.line

def Draft.Reworded (n : Nat) (d e : Draft) : Prop :=
  ∃ help, e = d.relabelled (fun _ => help) (pushedLine n)

theorem Draft.Reworded.toCommand {n : Nat} {d e : Draft} (reworded : d.Reworded n e) :
    Command.Reworded n d.toCommand e.toCommand := by
  obtain ⟨help, rfl⟩ := reworded
  exact ⟨rfl, rfl, rfl, rfl, rfl⟩

theorem Draft.fullName_of_reworded {n : Nat} {drafts others : List Draft}
    (reworded : List.Forall₂ (Draft.Reworded n) drafts others) :
    others.map Draft.fullName = drafts.map Draft.fullName := by
  induction reworded with
  | nil => rfl
  | cons first _ ih =>
    obtain ⟨help, rfl⟩ := first
    rw [List.map_cons, List.map_cons, ih]
    rfl

namespace Paragraph

def text : Paragraph → List String
  | .prose lines => lines
  | .command d => d.help

inductive Reworded (n : Nat) : Paragraph → Paragraph → Prop where
  | prose (lines others : List String) : Reworded n (.prose lines) (.prose others)
  | command {d e : Draft} : d.Reworded n e → Reworded n (.command d) (.command e)

end Paragraph

namespace Reading

/-- Two texts have been read alike: their commands differ in their help at most, and only the help of the
command at one place does. -/
structure Beside (n k : Nat) (r s : Reading) : Prop where
  closed : List.Forall₂ (Draft.Reworded n) r.closed s.closed
  current : r.current.Reworded n s.current
  helps : AgreeBut k (r.closed.map Draft.help) (s.closed.map Draft.help)
  text : r.closed.length ≠ k → r.current.text = s.current.text

inductive BesideOutcome (n k : Nat) : Except DefinitionError Reading → Except DefinitionError Reading → Prop where
  | read {r s : Reading} : Beside n k r s → BesideOutcome n k (.ok r) (.ok s)
  | refused (e : DefinitionError) : BesideOutcome n k (.error e) (.error (e.relocated (pushedLine n)))

variable {n k : Nat} {r s : Reading}

theorem Beside.drafts (beside : r.Beside n k s) :
    List.Forall₂ (Draft.Reworded n) r.drafts s.drafts ∧
      AgreeBut k (r.drafts.map Draft.help) (s.drafts.map Draft.help) := by
  obtain ⟨closed, current⟩ := r
  obtain ⟨others, paragraph⟩ := s
  obtain ⟨reworded, same, helps, text⟩ := beside
  cases same with
  | prose => exact ⟨reworded, helps⟩
  | command last =>
    have size : (closed.map Draft.help).length = (others.map Draft.help).length := by
      simpa using reworded.length_eq
    refine ⟨List.rel_append reworded (.cons last .nil), ?_⟩
    simp only [Reading.drafts, List.map_append]
    exact helps.concat size fun other => text (by simpa using other)

theorem Beside.heading (beside : r.Beside n k s) : r.drafts.length ≠ k → r.heading = s.heading := by
  obtain ⟨closed, current⟩ := r
  obtain ⟨others, paragraph⟩ := s
  obtain ⟨-, same, -, text⟩ := beside
  cases same with
  | prose => exact text
  | command => exact fun _ => rfl

theorem Beside.opened (beside : r.Beside n k s) {first second : Paragraph} (reworded : first.Reworded n second)
    (text : r.drafts.length ≠ k → first.text = second.text) :
    Beside n k ⟨r.drafts, first⟩ ⟨s.drafts, second⟩ :=
  ⟨beside.drafts.1, reworded, beside.drafts.2, text⟩

theorem Beside.addHelp (beside : r.Beside n k s) (text : String) :
    (r.addHelp text).Beside n k (s.addHelp text) := by
  obtain ⟨closed, current⟩ := r
  obtain ⟨others, paragraph⟩ := s
  obtain ⟨reworded, same, helps, before⟩ := beside
  cases same with
  | prose lines more =>
    exact ⟨reworded, .prose _ _, helps, fun other => congrArg (· ++ [text]) (before other)⟩
  | command last =>
    obtain ⟨help, rfl⟩ := last
    exact ⟨reworded, .command ⟨help ++ [text], rfl⟩, helps,
      fun other => congrArg (· ++ [text]) (before other)⟩

theorem step_beside (beside : r.Beside n k s) {m : Nat} (behind : n < m) (text : String) :
    BesideOutcome n k (r.step m text) (s.step (m + 1) text) := by
  unfold step
  rw [← pushedLine_behind behind]
  -- Names, slots and flags are checked without a look at the help, so both readings pass or fail together.
  cases line : HelpLine.read text with
  | separator => exact .read (beside.opened (.prose [] []) fun _ => rfl)
  | prose => exact .read (beside.addHelp text)
  | usage words remainder =>
    have known : s.drafts.any (·.fullName == joinWords words) = r.drafts.any (·.fullName == joinWords words) := by
      have folded (drafts : List Draft) : drafts.any (·.fullName == joinWords words) =
          (drafts.map Draft.fullName).any (· == joinWords words) := by simp [Function.comp_def]
      rw [folded, folded, Draft.fullName_of_reworded beside.drafts.1]
    simp only [known]
    split
    · exact .refused _
    · have opened : (⟨words, s.heading, pushedLine n (some (m : Int)), [], []⟩ : Draft) =
          Draft.relabelled (fun _ => s.heading) (pushedLine n) ⟨words, r.heading, some (m : Int), [], []⟩ := rfl
      rw [opened, Draft.declareSlots_relabelled]
      cases declared : Draft.declareSlots ⟨words, r.heading, some (m : Int), [], []⟩ (some (m : Int))
          (Slot.scan remainder) with
      | error e => exact .refused e
      | ok d =>
        obtain ⟨rfl, -⟩ := (Draft.declareSlots_eq_ok_iff Consistent.empty).mp declared
        refine .read (beside.opened (.command ⟨s.heading ++ [text], rfl⟩) fun other => ?_)
        exact congrArg (· ++ [text]) (beside.heading other)
  | flags names target =>
    obtain ⟨closed, current⟩ := r
    obtain ⟨others, paragraph⟩ := s
    obtain ⟨reworded, same, helps, before⟩ := beside
    cases same with
    | prose => exact .refused _
    | @command d e last =>
      obtain ⟨help, rfl⟩ := last
      have kept := Draft.help_declareFlags d (some (m : Int)) names target
      simp only [Draft.declareFlags_relabelled]
      generalize d.declareFlags names target (some (m : Int)) = declared at kept ⊢
      obtain ⟨after, refusal⟩ := declared
      cases refusal with
      | some e => exact .refused e
      | none =>
        refine .read ⟨reworded, .command ⟨help ++ [text], rfl⟩, helps, fun other => ?_⟩
        have same : after.help = help := kept.trans (before other)
        exact congrArg (· ++ [text]) same

theorem run_beside (beside : r.Beside n k s) {m : Nat} (behind : n < m) (lines : List String) :
    BesideOutcome n k (r.run m lines) (s.run (m + 1) lines) := by
  -- The second reading is one line further on all the time, behind the line that was put in.
  induction lines generalizing r s m with
  | nil => exact .read beside
  | cons text rest ih =>
    have stepped := step_beside beside behind text
    simp only [run]
    generalize r.step m text = first at stepped
    generalize s.step (m + 1) text = second at stepped
    cases stepped with
    | read next => exact ih next (Nat.lt_succ_of_lt behind)
    | refused e => exact .refused e

theorem beside_addHelp {front : List String} (read : start.run 1 front = .ok r) (text : String) :
    r.Beside front.length r.closed.length (r.addHelp text) := by
  -- All commands so far stand in front of the line, so pushing lines behind it moves none of them.
  have placed : ∀ d ∈ r.drafts, d.Reworded front.length d := by
    intro d member
    rw [drafts_of_run start_legal start_reflects read, List.mem_append] at member
    rcases member with none | usage
    · cases none
    · obtain ⟨u, inside, rfl⟩ := List.mem_map.mp usage
      have place := congrArg List.length (mem_usageLines.mp inside).place
      have fits : u.before.length + 1 ≤ front.length := by
        rw [place, List.length_append, List.length_cons]
        omega
      refine ⟨u.draft.help, ?_⟩
      simp only [Draft.relabelled, UsageLine.draft, pushedLine_front fits]
  obtain ⟨closed, current⟩ := r
  have same : List.Forall₂ (Draft.Reworded front.length) closed closed := by
    rw [List.forall₂_same]
    intro d member
    refine placed d ?_
    cases current <;> simp [drafts, member]
  cases current with
  | prose lines => exact ⟨same, .prose _ _, .refl _ _, fun other => absurd rfl other⟩
  | command d =>
    obtain ⟨help, unmoved⟩ := placed d (by simp [drafts])
    have longer : d.Reworded front.length (d.addHelp text) :=
      ⟨d.help ++ [text], congrArg (Draft.addHelp · text) unmoved |>.trans (by rw [unmoved]; rfl)⟩
    exact ⟨same, .command longer, .refl _ _, fun other => absurd rfl other⟩

end Reading

/-- What a text declares, or the fault that it has, beside that of the text with a line more behind the
first `n`. -/
inductive BuildsBeside (n : Nat) : Except DefinitionError (List Command) → Except DefinitionError (List Command) → Prop where
  | declared {commands others : List Command} {k : Nat} :
      List.Forall₂ (Command.Reworded n) commands others →
      AgreeBut k (commands.map Command.help) (others.map Command.help) →
      BuildsBeside n (.ok commands) (.ok others)
  | refused (cause : DefinitionError.Cause) (line : Nat) :
      BuildsBeside n (.error ⟨cause, some (line : Int)⟩)
        (.error ⟨cause, some ((if line ≤ n then line else line + 1 : Nat) : Int)⟩)

theorem DefinitionError.IsAt.line_eq {n : Nat} {e : DefinitionError} (located : e.IsAt n) :
    e.line = some (n : Int) := by
  cases located <;> rfl

theorem buildsBeside_refused {n line : Nat} {e : DefinitionError} (located : e.IsAt line) :
    BuildsBeside n (.error e) (.error (e.relocated (pushedLine n))) := by
  obtain ⟨cause, place⟩ := e
  obtain rfl : place = some (line : Int) := located.line_eq
  have moved := BuildsBeside.refused (n := n) cause line
  rwa [← pushedLine_some] at moved

theorem buildsBeside_declared {n k : Nat} {r s : Reading} (beside : r.Beside n k s) :
    BuildsBeside n (.ok (r.drafts.map Draft.toCommand)) (.ok (s.drafts.map Draft.toCommand)) := by
  obtain ⟨reworded, helps⟩ := beside.drafts
  refine .declared (k := k) ?_ ?_
  · rw [List.forall₂_map_left_iff, List.forall₂_map_right_iff]
    exact reworded.imp fun d e => Draft.Reworded.toCommand
  · have helped (drafts : List Draft) : (drafts.map Draft.toCommand).map Command.help =
        (drafts.map Draft.help).map fun lines => "\n".intercalate (Draft.trimLines lines) := by
      rw [List.map_map, List.map_map]
      rfl
    rw [helped, helped]
    exact helps.map _

theorem buildLines_append_of_error {front : List String} {e : DefinitionError}
    (failed : buildLines front = .error e) :
    (∀ back, buildLines (front ++ back) = .error e) ∧ ∃ line, line ≤ front.length ∧ e.IsAt line := by
  obtain ⟨accepted, text, rest, _, rfl, located, -, refused⟩ := error_of_buildLines failed
  refine ⟨fun back => ?_, accepted.length + 1, ?_, located⟩
  · rw [List.append_assoc, List.cons_append]
    exact refused (rest ++ back)
  · rw [List.length_append, List.length_cons]
    omega

theorem buildLines_prose {front back : List String} {text : String} (prose : HelpLine.read text = .prose) :
    BuildsBeside front.length (buildLines (front ++ back)) (buildLines (front ++ text :: back)) := by
  cases read : Reading.start.run 1 front with
  | error e =>
    -- What is refused in front of the line stays so, on a line that is not pushed.
    obtain ⟨refused, line, inside, located⟩ := buildLines_append_of_error (map_eq_error.mpr read)
    have unmoved : e.relocated (pushedLine front.length) = e := by
      obtain ⟨cause, place⟩ := e
      obtain rfl : place = some (line : Int) := located.line_eq
      rw [DefinitionError.relocated, pushedLine_front inside]
    have beside := buildsBeside_refused (n := front.length) located
    rw [unmoved] at beside
    rw [refused back, refused (text :: back)]
    exact beside
  | ok r =>
    have ran := Reading.run_beside (Reading.beside_addHelp read text) (Nat.lt_succ_self front.length) back
    have first : buildLines (front ++ back) =
        (r.run (front.length + 1) back).map fun r => r.drafts.map Draft.toCommand := by
      rw [buildLines, Reading.run_append, read, Nat.add_comm]
      rfl
    have second : buildLines (front ++ text :: back) =
        ((r.addHelp text).run (front.length + 1 + 1) back).map fun r => r.drafts.map Draft.toCommand := by
      rw [buildLines, Reading.run_append, read, Nat.add_comm 1]
      simp only [Except.bind, Reading.run, Reading.step, prose]
      rfl
    have located : ∀ e, r.run (front.length + 1) back = .error e → ∃ line, e.IsAt line := by
      intro e failed
      rw [failed] at first
      obtain ⟨accepted, _, _, _, -, located, -⟩ := error_of_buildLines first
      exact ⟨accepted.length + 1, located⟩
    rw [first, second]
    generalize r.run (front.length + 1) back = shorter at ran located ⊢
    generalize (r.addHelp text).run (front.length + 1 + 1) back = longer at ran ⊢
    cases ran with
    | read beside => exact buildsBeside_declared beside
    | refused e =>
      obtain ⟨line, place⟩ := located e rfl
      exact buildsBeside_refused place

/-- A line of prose changes nothing but the help of one command, and the lines that stand behind it. -/
theorem build_prose_inserted {front back : List String} {text : String}
    (whole : ∀ line ∈ front ++ back, Text.IsOneLine line.toList) (whole' : Text.IsOneLine text.toList)
    (prose : HelpLine.read text = .prose) :
    BuildsBeside front.length (build ("\n".intercalate (front ++ back)))
      (build ("\n".intercalate (front ++ text :: back))) := by
  obtain ⟨before, behind⟩ := List.forall_mem_append.mp whole
  have longer : ∀ line ∈ front ++ text :: back, Text.IsOneLine line.toList :=
    List.forall_mem_append.mpr ⟨before, List.forall_mem_cons.mpr ⟨whole', behind⟩⟩
  rw [build_join whole, build_join longer]
  exact buildLines_prose prose

theorem build_prose_inserted_pack :
    HelpLine.read "Packs files." = .prose ∧
      BuildsBeside 1 (.ok [Model.packMain, Model.packList])
        (build ("\n".intercalate (["usage: pack <file>..."] ++ "Packs files." :: Model.packLines.tail))) ∧
      BuildsBeside 1 (.error ⟨.duplicateCommand "pack", some 2⟩)
        (build ("\n".intercalate (["usage: pack"] ++ "Packs files." :: ["usage: pack"]))) := by
  have prose : HelpLine.read "Packs files." = .prose := by decide +kernel
  have whole : ∀ line ∈ ["usage: pack <file>..."] ++ Model.packLines.tail, Text.IsOneLine line.toList := by
    decide +kernel
  have whole' : Text.IsOneLine "Packs files.".toList := by decide +kernel
  have twice : ∀ line ∈ ["usage: pack"] ++ ["usage: pack"], Text.IsOneLine line.toList := by decide +kernel
  have duplicate : build ("\n".intercalate (["usage: pack"] ++ ["usage: pack"])) =
      .error ⟨.duplicateCommand "pack", some 2⟩ := by
    rw [build_join twice]
    decide +kernel
  refine ⟨prose, ?_, ?_⟩
  · rw [← Model.build_packText]
    exact build_prose_inserted whole whole' prose
  · rw [← duplicate]
    exact build_prose_inserted twice whole' prose

end UsageGrammar
