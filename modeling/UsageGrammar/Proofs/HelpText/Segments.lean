import UsageGrammar.Proofs.HelpText.Pages

/-! Which lines of a help text make which command. Every usage line has a page of its own: the lines up
to the next usage line or separator and, if it is the first usage line behind a separator, the lines
between the two. A text that is accepted declares the commands of these pages. -/

set_option autoImplicit false

namespace UsageGrammar

namespace HelpLine

def isUsage : HelpLine → Bool
  | .usage .. => true
  | _ => false

/-- Does the page of a command end in front of the line? -/
def isBoundary : HelpLine → Bool
  | .separator => true
  | .usage .. => true
  | _ => false

end HelpLine

/-- The lines behind the last separator. -/
def paragraph (lines : List String) : List String :=
  lines.rtakeWhile fun text => HelpLine.read text ≠ .separator

def isOwned (lines : List String) : Bool :=
  (paragraph lines).any fun text => (HelpLine.read text).isUsage

def headingLines (before : List String) : List String :=
  if isOwned before then [] else paragraph before

def bodyLines (after : List String) : List String :=
  after.takeWhile fun text => !(HelpLine.read text).isBoundary

/-- A usage line, what it reads as, and the lines in front of it and behind it. -/
structure UsageLine where
  before : List String
  text : String
  after : List String
  words : List String
  remainder : String
  deriving DecidableEq, Repr

def usageLine? (before : List String) (text : String) (after : List String) : Option UsageLine :=
  match HelpLine.read text with
  | .usage words remainder => some ⟨before, text, after, words, remainder⟩
  | _ => none

def usageLinesFrom (before : List String) : List String → List UsageLine
  | [] => []
  | text :: after => (usageLine? before text after).toList ++ usageLinesFrom (before ++ [text]) after

def usageLines (lines : List String) : List UsageLine :=
  usageLinesFrom [] lines

namespace UsageLine

structure IsIn (u : UsageLine) (lines : List String) : Prop where
  place : lines = u.before ++ u.text :: u.after
  reads : HelpLine.read u.text = .usage u.words u.remainder

def page (u : UsageLine) : Page :=
  ⟨headingLines u.before, u.text, bodyLines u.after⟩

def command (u : UsageLine) : Command where
  words := u.words
  name := joinWords u.words
  help := "\n".intercalate ((u.page.lines.dropWhile Text.allBlank).rdropWhile Text.allBlank)
  slots := Slot.scan u.remainder
  flags := u.page.flags
  line := some ((u.before.length + 1 : Nat) : Int)

def draft (u : UsageLine) : Draft :=
  ⟨u.words, u.page.lines, some ((u.before.length + 1 : Nat) : Int), Slot.scan u.remainder, u.page.flags⟩

theorem toCommand_draft (u : UsageLine) : u.draft.toCommand = u.command := rfl

end UsageLine

theorem usageLine?_eq_some_iff {before after : List String} {text : String} {u : UsageLine} :
    usageLine? before text after = some u ↔
      HelpLine.read text = .usage u.words u.remainder ∧ before = u.before ∧ text = u.text ∧ after = u.after := by
  obtain ⟨before', text', after', words, remainder⟩ := u
  unfold usageLine?
  split
  · next words' remainder' line =>
    simp only [Option.some.injEq, UsageLine.mk.injEq, line, HelpLine.usage.injEq]
    tauto
  · next other =>
    simp only [reduceCtorEq, false_iff, not_and]
    intro line
    exact absurd line (other words remainder)

theorem mem_usageLinesFrom {before lines : List String} {u : UsageLine} :
    u ∈ usageLinesFrom before lines ↔ ∃ front, u.before = before ++ front ∧
      lines = front ++ u.text :: u.after ∧ HelpLine.read u.text = .usage u.words u.remainder := by
  induction lines generalizing before with
  | nil => simp [usageLinesFrom]
  | cons text after ih =>
    rw [usageLinesFrom, List.mem_append, Option.mem_toList, usageLine?_eq_some_iff, ih]
    -- A usage line is the first of the lines, with nothing between, or is found behind the first.
    constructor
    · rintro (⟨line, rfl, rfl, rfl⟩ | ⟨front, place, rfl, line⟩)
      · exact ⟨[], by simp, rfl, line⟩
      · exact ⟨text :: front, by simp [place], rfl, line⟩
    · rintro ⟨front, place, whole, line⟩
      cases front with
      | nil =>
        obtain ⟨rfl, rfl⟩ := List.cons.inj whole
        exact .inl ⟨line, by simpa using place.symm, rfl, rfl⟩
      | cons first front =>
        obtain ⟨rfl, rfl⟩ := List.cons.inj whole
        exact .inr ⟨front, by simp [place], rfl, line⟩

theorem mem_usageLines {lines : List String} {u : UsageLine} : u ∈ usageLines lines ↔ u.IsIn lines := by
  rw [usageLines, mem_usageLinesFrom]
  constructor
  · rintro ⟨front, rfl, whole, line⟩
    exact ⟨whole, line⟩
  · rintro ⟨whole, line⟩
    exact ⟨u.before, rfl, whole, line⟩

theorem pairwise_usageLinesFrom (before lines : List String) :
    (usageLinesFrom before lines).Pairwise fun u v => u.before.length < v.before.length := by
  induction lines generalizing before with
  | nil => exact List.Pairwise.nil
  | cons text after ih =>
    rw [usageLinesFrom, List.pairwise_append]
    refine ⟨?_, ih _, ?_⟩
    · cases usageLine? before text after <;> simp
    · intro u first v later
      rw [Option.mem_toList, usageLine?_eq_some_iff] at first
      obtain ⟨front, place, -⟩ := mem_usageLinesFrom.mp later
      obtain ⟨-, rfl, -⟩ := first
      simp [place]

theorem paragraph_concat (lines : List String) (text : String) :
    paragraph (lines ++ [text]) =
      if HelpLine.read text = .separator then [] else paragraph lines ++ [text] := by
  unfold paragraph
  rw [List.rtakeWhile_concat]
  by_cases separator : HelpLine.read text = .separator <;> simp [separator]

theorem isOwned_concat (lines : List String) (text : String) :
    isOwned (lines ++ [text]) =
      (HelpLine.read text ≠ .separator && (isOwned lines || (HelpLine.read text).isUsage)) := by
  unfold isOwned
  rw [paragraph_concat]
  by_cases separator : HelpLine.read text = .separator <;> simp [separator]

theorem bodyLines_cons (text : String) (after : List String) :
    bodyLines (text :: after) =
      if (HelpLine.read text).isBoundary then [] else text :: bodyLines after := by
  unfold bodyLines
  rw [List.takeWhile_cons]
  cases (HelpLine.read text).isBoundary <;> rfl

def Draft.continued (d : Draft) (lines : List String) : Draft :=
  { d with
    help := d.help ++ lines
    flags := d.flags ++ lines.flatMap fun text => (HelpLine.read text).entries }

theorem Draft.continued_nil (d : Draft) : d.continued [] = d := by
  simp [continued]

namespace Reading

/-- What is being read is what the lines read so far end in: the prose of a paragraph, or a command when
the paragraph has a usage line. -/
structure Reflects (r : Reading) (before : List String) : Prop where
  heading : r.heading = headingLines before
  owned : (∃ d, r.current = .command d) ↔ isOwned before = true

/-- The drafts when the lines go on with `after`, without those that are opened there. -/
def draftsAt (r : Reading) (after : List String) : List Draft :=
  match r.current with
  | .prose _ => r.closed
  | .command d => r.closed ++ [d.continued (bodyLines after)]

theorem draftsAt_nil (r : Reading) : r.draftsAt [] = r.drafts := by
  obtain ⟨closed, current⟩ := r
  cases current with
  | prose lines => rfl
  | command d => simp [draftsAt, drafts, bodyLines, Draft.continued_nil]

theorem draftsAt_boundary (r : Reading) {text : String} (ends : (HelpLine.read text).isBoundary = true)
    (after : List String) : r.draftsAt (text :: after) = r.drafts := by
  obtain ⟨closed, current⟩ := r
  cases current with
  | prose lines => rfl
  | command d => simp [draftsAt, drafts, bodyLines_cons, ends, Draft.continued_nil]

theorem start_reflects : start.Reflects [] := by
  constructor <;> simp [start, heading, headingLines, isOwned, paragraph]

theorem step_reflects {r next : Reading} {before : List String} {n : Nat} {text : String}
    (reflects : r.Reflects before) (stepped : r.step n text = .ok next) :
    next.Reflects (before ++ [text]) := by
  obtain ⟨front, owned⟩ := reflects
  rcases step_cases stepped with ⟨line, rfl⟩ | ⟨words, remainder, d, line, -, -, rfl⟩ |
    ⟨names, target, d, declared, line, current, -, rfl⟩ | ⟨line, rfl⟩
  · constructor <;> simp [heading, headingLines, isOwned_concat, paragraph_concat, line]
  · constructor <;> simp [heading, headingLines, isOwned_concat, line, HelpLine.isUsage]
  · have taken : isOwned before = true := owned.mp ⟨d, current⟩
    constructor <;> simp [heading, headingLines, isOwned_concat, line, taken]
  · obtain ⟨closed, current⟩ := r
    cases current with
    | prose lines =>
      have free : isOwned before = false := by simpa using owned
      have same : lines = paragraph before := by simpa [heading, headingLines, free] using front
      constructor <;>
        simp [addHelp, heading, headingLines, isOwned_concat, paragraph_concat, line, free, same,
          HelpLine.isUsage]
    | command d =>
      have taken : isOwned before = true := owned.mp ⟨d, rfl⟩
      constructor <;> simp [addHelp, heading, headingLines, isOwned_concat, line, taken]

theorem draftsAt_of_step {r next : Reading} {before after : List String} {text : String} (legal : r.Legal)
    (reflects : r.Reflects before) (stepped : r.step (before.length + 1) text = .ok next) :
    next.draftsAt after =
      r.draftsAt (text :: after) ++ ((usageLine? before text after).map UsageLine.draft).toList := by
  -- The line goes on with the command in front of it or opens one; what comes behind it decides on the end
  -- of the page only.
  rcases step_cases stepped with ⟨line, rfl⟩ | ⟨words, remainder, d, line, -, declared, rfl⟩ |
    ⟨names, target, d, declared, line, current, accepted, rfl⟩ | ⟨line, rfl⟩
  · rw [draftsAt_boundary r (by rw [line]; rfl)]
    simp [draftsAt, usageLine?, line]
  · rw [draftsAt_boundary r (by rw [line]; rfl)]
    obtain ⟨rfl, -⟩ := (Draft.declareSlots_eq_ok_iff Consistent.empty).mp declared
    simp [draftsAt, usageLine?, line, UsageLine.draft, UsageLine.page, Page.lines, Page.flags,
      Draft.addHelp, Draft.continued, reflects.heading]
  · have before := legal.drafts d (by simp [drafts_of_command current])
    obtain ⟨nonempty, -⟩ := HelpLine.declares_of_read line
    obtain ⟨rfl, -⟩ := (Draft.declareFlags_eq_none_iff before.consistent nonempty).mp accepted
    simp [draftsAt, usageLine?, line, current, bodyLines_cons, HelpLine.isBoundary, HelpLine.entries,
      Draft.addHelp, Draft.continued]
  · obtain ⟨closed, current⟩ := r
    cases current with
    | prose lines => simp [addHelp, draftsAt, usageLine?, line]
    | command d =>
      simp [addHelp, draftsAt, usageLine?, line, bodyLines_cons, HelpLine.isBoundary, HelpLine.entries,
        Draft.addHelp, Draft.continued]

theorem drafts_of_run {r last : Reading} {before lines : List String} (legal : r.Legal)
    (reflects : r.Reflects before) (ran : r.run (before.length + 1) lines = .ok last) :
    last.drafts = r.draftsAt lines ++ (usageLinesFrom before lines).map UsageLine.draft := by
  -- The invariant is that the reading reflects the lines read so far; the pages opened by these end in the
  -- lines that are still to come.
  induction lines generalizing r before with
  | nil =>
    cases ran
    simp [draftsAt_nil, usageLinesFrom]
  | cons text after ih =>
    obtain ⟨next, stepped, rest⟩ := bind_eq_ok.mp ran
    have place : before.length + 1 + 1 = (before ++ [text]).length + 1 := by simp
    rw [place] at rest
    rw [ih (step_legal legal stepped) (step_reflects reflects stepped) rest, usageLinesFrom,
      draftsAt_of_step legal reflects stepped, List.map_append, List.append_assoc]
    cases usageLine? before text after <;> rfl

end Reading

/-- The commands of an accepted text are those of its usage lines, one for each and in their order. -/
theorem build_segmented {text : String} {commands : List Command} (built : build text = .ok commands) :
    commands = (usageLines (Text.lines text)).map UsageLine.command ∧
      (usageLines (Text.lines text)).Pairwise (fun u v => u.before.length < v.before.length) ∧
      ∀ u, u ∈ usageLines (Text.lines text) ↔ u.IsIn (Text.lines text) := by
  refine ⟨?_, pairwise_usageLinesFrom [] _, fun u => mem_usageLines⟩
  obtain ⟨last, ran, rfl⟩ := buildLines_eq_ok built
  have drafts := Reading.drafts_of_run Reading.start_legal Reading.start_reflects ran
  have nothing : Reading.start.draftsAt (Text.lines text) = [] := rfl
  rw [drafts, nothing, List.nil_append, List.map_map]
  exact List.map_congr_left fun u _ => u.toCommand_draft

/-- Two usage lines of one paragraph, and one behind a separator with prose in front of it. -/
theorem build_segmented_pack :
    build ("\n".intercalate (Model.packLines ++ "#" :: Model.unpackLines)) =
        .ok [Model.packMain, Model.packList, { Model.unpackCommand with line := some 9 }] ∧
      [Model.packMain, Model.packList, { Model.unpackCommand with line := some 9 }] =
        (usageLines (Text.lines ("\n".intercalate (Model.packLines ++ "#" :: Model.unpackLines)))).map
          UsageLine.command := by
  have whole : ∀ line ∈ Model.packLines ++ "#" :: Model.unpackLines, Text.IsOneLine line.toList := by
    decide +kernel
  have built : build ("\n".intercalate (Model.packLines ++ "#" :: Model.unpackLines)) =
      .ok [Model.packMain, Model.packList, { Model.unpackCommand with line := some 9 }] := by
    rw [build_join whole]
    decide +kernel
  exact ⟨built, (build_segmented built).1⟩

end UsageGrammar
