import UsageGrammar.Proofs.Draft.Relabelling
import UsageGrammar.Proofs.HelpLine.Written
import UsageGrammar.Proofs.HelpText.Reading
import UsageGrammar.Proofs.Model
import UsageGrammar.Proofs.Text.Lines

/-! Separators cut a help text into texts that are read on their own. What stands behind a separator is
read as it is alone, but for the numbers of its lines and for names that are taken in front of it. -/

set_option autoImplicit false

namespace UsageGrammar

def movedLine (k : Nat) (line : Option Int) : Option Int :=
  line.map (· + k)

def DefinitionError.moved (k : Nat) (e : DefinitionError) : DefinitionError :=
  { e with line := movedLine k e.line }

def Command.moved (k : Nat) (c : Command) : Command :=
  { c with line := movedLine k c.line }

def HelpLine.fullName? : HelpLine → Option String
  | .usage words _ => some (joinWords words)
  | _ => none

/-- The usage lines among lines, the first of which has number `n`: full names and numbers. -/
def headers (n : Nat) : List String → List (String × Nat)
  | [] => []
  | text :: rest =>
    match (HelpLine.read text).fullName? with
    | some name => (name, n) :: headers (n + 1) rest
    | none => headers (n + 1) rest

namespace Draft

def moved (k : Nat) (d : Draft) : Draft :=
  { d with line := movedLine k d.line }

end Draft

def Declared.moved (k : Nat) (r : Declared) : Declared :=
  ⟨r.draft.moved k, r.refusal.map (DefinitionError.moved k)⟩

def movedOutcome {α : Type} (move : α → α) (k : Nat) :
    Except DefinitionError α → Except DefinitionError α
  | .ok a => .ok (move a)
  | .error e => .error (e.moved k)

namespace Draft

variable (k : Nat) (d : Draft) (line : Option Int)

theorem declareSlots_moved (slots : List Slot) :
    (d.moved k).declareSlots (movedLine k line) slots =
      movedOutcome (moved k) k (d.declareSlots line slots) := by
  refine (declareSlots_relabelled id (movedLine k) d line slots).trans ?_
  cases d.declareSlots line slots <;> rfl

theorem declareFlags_moved (names : List String) (target : Target) :
    (d.moved k).declareFlags names target (movedLine k line) =
      (d.declareFlags names target line).moved k :=
  declareFlags_relabelled id (movedLine k) d line names target

theorem words_of_registerSpellings {d r : Draft} {target : Target} {line : Option Int}
    {names : List String} (declared : d.registerSpellings target line names = ⟨r, none⟩) :
    r.words = d.words := by
  induction names generalizing d with
  | nil => cases declared; rfl
  | cons name names ih =>
    unfold registerSpellings at declared
    split at declared
    · cases declared
    · split at declared
      · cases declared
      · exact (ih declared :)

theorem words_of_declareFlags {d r : Draft} {target : Target} {line : Option Int} {names : List String}
    (declared : d.declareFlags names target line = ⟨r, none⟩) : r.words = d.words := by
  unfold declareFlags at declared
  split at declared
  · cases declared
  · exact words_of_registerSpellings declared

end Draft

def Paragraph.moved (k : Nat) : Paragraph → Paragraph
  | .prose lines => .prose lines
  | .command d => .command (d.moved k)

namespace Reading

/-- The reading of lines that stand `k` lines further on, behind commands that were read before. -/
def behind (prior : List Draft) (k : Nat) (r : Reading) : Reading :=
  ⟨prior ++ r.closed.map (Draft.moved k), r.current.moved k⟩

variable (prior : List Draft) (k : Nat) (r : Reading)

theorem drafts_behind : (r.behind prior k).drafts = prior ++ r.drafts.map (Draft.moved k) := by
  obtain ⟨closed, current⟩ := r
  cases current <;> simp [behind, drafts, Paragraph.moved]

theorem heading_behind : (r.behind prior k).heading = r.heading := by
  obtain ⟨closed, current⟩ := r
  cases current <;> rfl

theorem addHelp_behind (text : String) :
    (r.behind prior k).addHelp text = (r.addHelp text).behind prior k := by
  obtain ⟨closed, current⟩ := r
  cases current <;> rfl

theorem movedLine_some (n : Nat) : movedLine k (some (n : Int)) = some ((n + k : Nat) : Int) := by
  simp [movedLine]

theorem step_behind_taken {n : Nat} {text name : String}
    (declares : (HelpLine.read text).fullName? = some name) (taken : name ∈ prior.map Draft.fullName) :
    (r.behind prior k).step (n + k) text =
      .error ⟨.duplicateCommand name, some ((n + k : Nat) : Int)⟩ := by
  cases line : HelpLine.read text with
  | separator => rw [line] at declares; cases declares
  | flags names target => rw [line] at declares; cases declares
  | prose => rw [line] at declares; cases declares
  | usage words remainder =>
    rw [line] at declares
    cases declares
    have known : (r.behind prior k).drafts.any (·.fullName == joinWords words) = true := by
      obtain ⟨d, member, same⟩ := List.mem_map.mp taken
      rw [drafts_behind, List.any_append, Bool.or_eq_true]
      exact .inl (List.any_eq_true.mpr ⟨d, member, beq_iff_eq.mpr same⟩)
    simp only [step, line, if_pos known]

/-- A line is read as it is alone, unless it declares a name that is taken in front. -/
theorem step_behind {n : Nat} {text : String}
    (free : ∀ name, (HelpLine.read text).fullName? = some name → name ∉ prior.map Draft.fullName) :
    (r.behind prior k).step (n + k) text = movedOutcome (behind prior k) k (r.step n text) := by
  unfold step
  rw [← movedLine_some]
  cases line : HelpLine.read text with
  | separator =>
    simp only [drafts_behind]
    rfl
  | prose => exact congrArg Except.ok (addHelp_behind prior k r text)
  | usage words remainder =>
    -- The names in front are all others, so the name is new here exactly when it is new alone.
    have same : (r.behind prior k).drafts.any (·.fullName == joinWords words) =
        r.drafts.any (·.fullName == joinWords words) := by
      have none : prior.any (·.fullName == joinWords words) = false := by
        rw [List.any_eq_false]
        intro d member clash
        have fresh := free (joinWords words) (by rw [line]; rfl)
        exact fresh (List.mem_map.mpr ⟨d, member, beq_iff_eq.mp clash⟩)
      rw [drafts_behind, List.any_append, none, Bool.false_or, List.any_map]
      rfl
    simp only [same]
    split
    · rfl
    · have declared := Draft.declareSlots_moved k ⟨words, r.heading, some (n : Int), [], []⟩
        (some (n : Int)) (Slot.scan remainder)
      rw [heading_behind, drafts_behind]
      have opened : (⟨words, r.heading, movedLine k (some (n : Int)), [], []⟩ : Draft) =
          Draft.moved k ⟨words, r.heading, some (n : Int), [], []⟩ := rfl
      rw [opened, declared]
      cases Draft.declareSlots ⟨words, r.heading, some (n : Int), [], []⟩ (some (n : Int))
        (Slot.scan remainder) <;> rfl
  | flags names target =>
    obtain ⟨closed, current⟩ := r
    cases current with
    | prose lines => rfl
    | command d =>
      simp only [behind, Paragraph.moved, Draft.declareFlags_moved]
      obtain ⟨after, refusal⟩ := d.declareFlags names target (some (n : Int))
      cases refusal <;> rfl

theorem names_of_step {r next : Reading} {n : Nat} {text : String} (stepped : r.step n text = .ok next) :
    next.drafts.map Draft.fullName =
      r.drafts.map Draft.fullName ++ (HelpLine.read text).fullName?.toList := by
  rcases step_cases stepped with ⟨line, rfl⟩ | ⟨words, remainder, d, line, -, declared, rfl⟩ |
    ⟨names, target, d, declared, line, current, accepted, rfl⟩ | ⟨line, rfl⟩
  · simp [HelpLine.fullName?, line, drafts]
  · obtain ⟨rfl, -⟩ := (Draft.declareSlots_eq_ok_iff Consistent.empty).mp declared
    simp [HelpLine.fullName?, line, drafts, Draft.fullName, Draft.addHelp]
  · have same := Draft.words_of_declareFlags accepted
    rw [drafts_of_command current]
    simp [HelpLine.fullName?, line, drafts, Draft.fullName, Draft.addHelp, same]
  · obtain ⟨closed, current⟩ := r
    cases current <;> simp [HelpLine.fullName?, line, addHelp, drafts, Draft.fullName, Draft.addHelp]

theorem names_of_run {r last : Reading} {n : Nat} {lines : List String} (ran : r.run n lines = .ok last) :
    last.drafts.map Draft.fullName = r.drafts.map Draft.fullName ++ (headers n lines).map (·.1) := by
  induction lines generalizing r n with
  | nil => cases ran; simp [headers]
  | cons text more ih =>
    obtain ⟨next, stepped, rest⟩ := bind_eq_ok.mp ran
    rw [ih rest, names_of_step stepped, headers]
    cases (HelpLine.read text).fullName? <;> simp

theorem run_behind {n : Nat} {lines : List String}
    (free : ∀ header ∈ headers n lines, header.1 ∉ prior.map Draft.fullName) :
    (r.behind prior k).run (n + k) lines = movedOutcome (behind prior k) k (r.run n lines) := by
  induction lines generalizing r n with
  | nil => rfl
  | cons text rest ih =>
    have first : ∀ name, (HelpLine.read text).fullName? = some name → name ∉ prior.map Draft.fullName :=
      fun name declares => free (name, n) (by simp [headers, declares])
    have later : ∀ header ∈ headers (n + 1) rest, header.1 ∉ prior.map Draft.fullName := by
      intro header member
      refine free header ?_
      rw [headers]
      split
      · exact List.mem_cons_of_mem _ member
      · exact member
    have place : n + k + 1 = n + 1 + k := by omega
    simp only [run, step_behind prior k r first, place]
    cases r.step n text with
    | error e => rfl
    | ok next => exact ih next later

/-- Behind other commands the lines fail at the first usage line whose name these have taken, unless they
fail before on their own. -/
theorem run_behind_taken {n : Nat} {lines : List String} {name : String} {line : Nat}
    (found : (headers n lines).find? (fun header => (prior.map Draft.fullName).contains header.1) =
      some (name, line)) :
    (r.behind prior k).run (n + k) lines =
        .error ⟨.duplicateCommand name, some ((line + k : Nat) : Int)⟩ ∨
      ∃ e, r.run n lines = .error e ∧ (r.behind prior k).run (n + k) lines = .error (e.moved k) := by
  induction lines generalizing r n with
  | nil => cases found
  | cons text rest ih =>
    have place : n + k + 1 = n + 1 + k := by omega
    -- A line that declares a name in front is the one that is found; all other lines are passed.
    by_cases clash : ∃ taken, (HelpLine.read text).fullName? = some taken ∧
        taken ∈ prior.map Draft.fullName
    · obtain ⟨taken, declares, member⟩ := clash
      simp only [headers, declares, List.find?_cons, List.contains_iff_mem.mpr member] at found
      cases found
      refine .inl ?_
      rw [run, step_behind_taken prior k r declares member]
      rfl
    · have free : ∀ taken, (HelpLine.read text).fullName? = some taken →
          taken ∉ prior.map Draft.fullName := fun taken declares member => clash ⟨taken, declares, member⟩
      have passed : (headers (n + 1) rest).find?
          (fun header => (prior.map Draft.fullName).contains header.1) = some (name, line) := by
        rw [headers] at found
        split at found
        · next other declares =>
          rwa [List.find?_cons_of_neg] at found
          rw [List.contains_iff_mem]
          exact free other declares
        · exact found
      simp only [run, step_behind prior k r free, place]
      cases r.step n text with
      | error e => exact .inr ⟨e, rfl, rfl⟩
      | ok next => exact ih next passed

/-- Behind a separator the reading starts again, after the commands that were read in front of it. -/
theorem run_separated {first : List String} {last : Reading} (ran : start.run 1 first = .ok last)
    (second : List String) :
    start.run 1 (first ++ "#" :: second) =
      (start.behind last.drafts (first.length + 1)).run (1 + (first.length + 1)) second := by
  have separator : HelpLine.read "#" = .separator := HelpLine.read_separator ""
  have again : start.behind last.drafts (first.length + 1) = ⟨last.drafts, .prose []⟩ := by
    simp [behind, start, Paragraph.moved]
  have place : 1 + first.length + 1 = 1 + (first.length + 1) := by omega
  rw [run_append, ran, again]
  simp only [Except.bind, run, step, separator, place]
  rfl

end Reading

theorem names_of_buildLines {lines : List String} {commands : List Command}
    (built : buildLines lines = .ok commands) :
    commands.map Command.fullName = (headers 1 lines).map (·.1) := by
  obtain ⟨last, ran, rfl⟩ := buildLines_eq_ok built
  rw [map_fullName_toCommand, Reading.names_of_run ran]
  rfl

theorem trimLines_concat (lines : List String) {last : String} (blank : Text.allBlank last = true) :
    Draft.trimLines (lines ++ [last]) = Draft.trimLines lines := by
  unfold Draft.trimLines
  rw [List.dropWhile_append]
  -- All lines in front may be blank, and then nothing is left.
  split
  · next nothing =>
    rw [List.isEmpty_iff.mp nothing]
    simp [blank]
  · rw [List.reverse_append, List.reverse_singleton, List.singleton_append,
      List.dropWhile_cons_of_pos blank]

/-- A blank line at the end is prose, which the help of no command keeps. -/
theorem buildLines_concat (lines : List String) : buildLines (lines ++ [""]) = buildLines lines := by
  have prose : HelpLine.read "" = .prose := rfl
  have kept (r : Reading) : (r.addHelp "").drafts.map Draft.toCommand = r.drafts.map Draft.toCommand := by
    obtain ⟨closed, current⟩ := r
    cases current with
    | prose lines => rfl
    | command d =>
      have same : (d.addHelp "").toCommand = d.toCommand := by
        have trimmed : Draft.trimLines (d.help ++ [""]) = Draft.trimLines d.help :=
          trimLines_concat d.help rfl
        simp only [Draft.toCommand, Draft.addHelp, trimmed, Draft.fullName]
      simp [Reading.addHelp, Reading.drafts, same]
  rw [buildLines, buildLines, Reading.run_append]
  cases Reading.start.run 1 lines with
  | error e => rfl
  | ok r =>
    simp only [Except.bind, Reading.run, Reading.step, prose]
    exact congrArg Except.ok (kept r)

theorem build_join {lines : List String} (whole : ∀ line ∈ lines, Text.IsOneLine line.toList) :
    build ("\n".intercalate lines) = buildLines lines := by
  rw [build]
  -- An empty line at the end is lost in the text, but it declares nothing.
  rcases Text.lines_join whole with same | shorter
  · rw [← same]
  · rw [← buildLines_concat, ← shorter]

section Separated

variable {first second : List String} {a b : List Command}

theorem isOneLine_separated (whole : ∀ line ∈ first, Text.IsOneLine line.toList)
    (whole' : ∀ line ∈ second, Text.IsOneLine line.toList) :
    ∀ line ∈ first ++ "#" :: second, Text.IsOneLine line.toList := by
  have sign : Text.IsOneLine "#".toList := by decide
  exact List.forall_mem_append.mpr ⟨whole, List.forall_mem_cons.mpr ⟨sign, whole'⟩⟩

/-- Behind a separator lines declare what they declare alone, if no name is taken in front of it. -/
theorem buildLines_free (built : buildLines first = .ok a)
    (free : ∀ header ∈ headers 1 second, header.1 ∉ a.map Command.fullName) :
    buildLines (first ++ "#" :: second) =
      movedOutcome (fun b => a ++ b.map (Command.moved (first.length + 1))) (first.length + 1)
        (buildLines second) := by
  obtain ⟨last, ran, rfl⟩ := buildLines_eq_ok built
  rw [map_fullName_toCommand] at free
  rw [buildLines, buildLines, Reading.run_separated ran, Reading.run_behind _ _ _ free]
  cases Reading.start.run 1 second with
  | error e => rfl
  | ok last' =>
    simp only [movedOutcome, Except.map, Reading.drafts_behind, List.map_append, List.map_map]
    rfl

theorem buildLines_taken {name : String} {line : Nat} (built : buildLines first = .ok a)
    (found : (headers 1 second).find? (fun header => (a.map Command.fullName).contains header.1) =
      some (name, line)) :
    buildLines (first ++ "#" :: second) =
        .error ⟨.duplicateCommand name, some ((line + (first.length + 1) : Nat) : Int)⟩ ∨
      ∃ e, buildLines second = .error e ∧
        buildLines (first ++ "#" :: second) = .error (e.moved (first.length + 1)) := by
  obtain ⟨last, ran, rfl⟩ := buildLines_eq_ok built
  rw [map_fullName_toCommand] at found
  simp only [buildLines, Reading.run_separated ran]
  rcases Reading.run_behind_taken _ (first.length + 1) Reading.start found with refused | ⟨e, failed, moved⟩
  · exact .inl (by rw [refused]; rfl)
  · exact .inr ⟨e, by rw [failed]; rfl, by rw [moved]; rfl⟩

theorem buildLines_separated (built : buildLines first = .ok a) (built' : buildLines second = .ok b)
    (apart : List.Disjoint (a.map Command.fullName) (b.map Command.fullName)) :
    buildLines (first ++ "#" :: second) = .ok (a ++ b.map (Command.moved (first.length + 1))) := by
  have free : ∀ header ∈ headers 1 second, header.1 ∉ a.map Command.fullName := by
    intro header member taken
    refine apart taken ?_
    rw [names_of_buildLines built']
    exact List.mem_map_of_mem member
  rw [buildLines_free built free, built']
  rfl

theorem buildLines_clash (built : buildLines first = .ok a) (built' : buildLines second = .ok b)
    {name : String} (left : name ∈ a.map Command.fullName) (right : name ∈ b.map Command.fullName) :
    ∃ header, (headers 1 second).find? (fun header => (a.map Command.fullName).contains header.1) =
        some header ∧
      buildLines (first ++ "#" :: second) =
        .error ⟨.duplicateCommand header.1, some ((header.2 + (first.length + 1) : Nat) : Int)⟩ := by
  rw [names_of_buildLines built'] at right
  obtain ⟨header, member, rfl⟩ := List.mem_map.mp right
  obtain ⟨found, same⟩ : ∃ found, (headers 1 second).find?
      (fun header => (a.map Command.fullName).contains header.1) = some found := by
    rw [← Option.isSome_iff_exists, List.find?_isSome]
    exact ⟨header, member, List.contains_iff_mem.mpr left⟩
  rcases buildLines_taken built same with refused | ⟨e, failed, -⟩
  · exact ⟨found, same, refused⟩
  · rw [built'] at failed
    cases failed

/-- When the lines on one side of a separator are refused, all of them are. -/
theorem exists_of_separated {commands : List Command}
    (built : buildLines (first ++ "#" :: second) = .ok commands) :
    ∃ a b, buildLines first = .ok a ∧ buildLines second = .ok b ∧
      List.Disjoint (a.map Command.fullName) (b.map Command.fullName) := by
  obtain ⟨last, ran, rfl⟩ := buildLines_eq_ok built
  rw [Reading.run_append] at ran
  obtain ⟨before, ran', -⟩ := bind_eq_ok.mp ran
  have front : buildLines first = .ok (before.drafts.map Draft.toCommand) := by
    rw [buildLines, ran']
    rfl
  -- A name that is taken on both sides, or a failure on the right, would be one of the whole.
  cases found : (headers 1 second).find?
      (fun header => ((before.drafts.map Draft.toCommand).map Command.fullName).contains header.1) with
  | some header =>
    rcases buildLines_taken front found with refused | ⟨e, -, moved⟩
    · rw [built] at refused
      cases refused
    · rw [built] at moved
      cases moved
  | none =>
    have free : ∀ header ∈ headers 1 second,
        header.1 ∉ (before.drafts.map Draft.toCommand).map Command.fullName := by
      intro header member taken
      exact List.find?_eq_none.mp found header member (List.contains_iff_mem.mpr taken)
    have whole := buildLines_free front free
    rw [built] at whole
    cases back : buildLines second with
    | error e => rw [back] at whole; cases whole
    | ok b =>
      refine ⟨_, b, front, rfl, fun name left right => ?_⟩
      rw [names_of_buildLines back] at right
      obtain ⟨header, member, rfl⟩ := List.mem_map.mp right
      exact free header member left

end Separated

/-- A separator cuts a text in two. The whole declares what its parts declare, one after the other, if
both are accepted and no name is in both; a name in both is refused at its first usage line behind the
separator. -/
theorem build_separated {first second : List String}
    (whole : ∀ line ∈ first, Text.IsOneLine line.toList)
    (whole' : ∀ line ∈ second, Text.IsOneLine line.toList) :
    (∀ commands, build ("\n".intercalate (first ++ "#" :: second)) = .ok commands ↔
      ∃ a b, build ("\n".intercalate first) = .ok a ∧ build ("\n".intercalate second) = .ok b ∧
        List.Disjoint (a.map Command.fullName) (b.map Command.fullName) ∧
        commands = a ++ b.map (Command.moved (first.length + 1))) ∧
    ∀ a b name, build ("\n".intercalate first) = .ok a → build ("\n".intercalate second) = .ok b →
      name ∈ a.map Command.fullName → name ∈ b.map Command.fullName →
      ∃ header, (headers 1 second).find? (fun header => (a.map Command.fullName).contains header.1) =
          some header ∧
        build ("\n".intercalate (first ++ "#" :: second)) =
          .error ⟨.duplicateCommand header.1, some ((header.2 + (first.length + 1) : Nat) : Int)⟩ := by
  rw [build_join (isOneLine_separated whole whole'), build_join whole, build_join whole']
  constructor
  · intro commands
    constructor
    · intro built
      obtain ⟨a, b, front, back, apart⟩ := exists_of_separated built
      rw [buildLines_separated front back apart] at built
      exact ⟨a, b, front, back, apart, (Except.ok.inj built).symm⟩
    · rintro ⟨a, b, front, back, apart, rfl⟩
      exact buildLines_separated front back apart
  · intro a b name front back left right
    exact buildLines_clash front back left right

def Model.unpackLines : List String :=
  ["Unpacks.", "usage: unpack <file>", "  -q, --quiet  silence", ""]

def Model.unpackCommand : Command where
  words := ["unpack"]
  name := "unpack"
  help := "Unpacks.\nusage: unpack <file>\n  -q, --quiet  silence"
  slots := [⟨"file", true, false⟩]
  flags := [("q", ⟨.switch, "quiet"⟩), ("quiet", ⟨.switch, "quiet"⟩)]
  line := some 2

theorem build_separated_pack :
    build ("\n".intercalate (Model.packLines ++ "#" :: Model.unpackLines)) =
        .ok [Model.packMain, Model.packList, { Model.unpackCommand with line := some 9 }] ∧
      build ("\n".intercalate (Model.unpackLines ++ "#" :: Model.unpackLines)) =
        .error ⟨.duplicateCommand "unpack", some 7⟩ := by
  have whole : ∀ line ∈ Model.packLines, Text.IsOneLine line.toList := by decide +kernel
  have whole' : ∀ line ∈ Model.unpackLines, Text.IsOneLine line.toList := by decide +kernel
  have built : build ("\n".intercalate Model.unpackLines) = .ok [Model.unpackCommand] := by
    rw [build_join whole']
    decide +kernel
  have apart : ∀ name ∈ [Model.packMain, Model.packList].map Command.fullName,
      name ∉ [Model.unpackCommand].map Command.fullName := by decide
  constructor
  · exact ((build_separated whole whole').1 _).mpr
      ⟨_, _, Model.build_packText, built, fun name => apart name, by decide⟩
  · obtain ⟨header, found, refused⟩ := (build_separated whole' whole').2 _ _ "unpack" built built
      (by decide) (by decide)
    have first : header = ("unpack", 2) := by
      have same : (headers 1 Model.unpackLines).find?
          (fun header => ([Model.unpackCommand].map Command.fullName).contains header.1) =
            some ("unpack", 2) := by decide +kernel
      exact Option.some.inj (found.symm.trans same)
    rw [refused, first]
    rfl

end UsageGrammar
