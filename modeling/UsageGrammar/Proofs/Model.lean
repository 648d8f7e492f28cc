import UsageGrammar.Model
import UsageGrammar.Proofs.HelpText.Reading
import UsageGrammar.Proofs.Outcome
import UsageGrammar.Proofs.Text.Lines
import UsageGrammar.Proofs.Words

/-! What is known of every grammar. Its commands are legal, and when there are sub-commands the main
command has one word, which the words of every sub-command go on from; local names tell them apart. -/

set_option autoImplicit false

namespace UsageGrammar

/-- The words of a sub-command go on from those of the main command, and the others are its name. -/
def Command.IsChildOf (c main : Command) : Prop :=
  ∃ first rest, main.words = [first] ∧ rest ≠ [] ∧ c.words = first :: rest ∧ c.name = joinWords rest

structure Model.Legal (m : Model) : Prop where
  commands : ∀ c ∈ m.commands, c.Legal
  children : ∀ c ∈ m.children, c.IsChildOf m.main
  distinct : (m.children.map Command.name).Nodup

theorem splitMain_eq_some {commands others : List Command} {main : Command}
    (found : Model.splitMain commands = some (main, others)) :
    main.words.length = 1 ∧ commands.Perm (main :: others) := by
  induction commands generalizing others with
  | nil => cases found
  | cons c rest ih =>
    simp only [Model.splitMain] at found
    split at found
    · next single =>
      cases found
      exact ⟨single, List.Perm.refl _⟩
    · obtain ⟨⟨inner, fewer⟩, later, same⟩ := Option.map_eq_some_iff.mp found
      cases same
      obtain ⟨single, order⟩ := ih later
      exact ⟨single, (order.cons c).trans (List.Perm.swap _ _ _)⟩

/-- What the commands of a grammar are: a single one of any name, or one of one word and sub-commands
of it, in their order. -/
theorem organize_eq_ok {commands : List Command} {m : Model} (done : Model.organize commands = .ok m) :
    ∃ others, commands.Perm (m.main :: others) ∧
      ((others = [] ∧ m.children = []) ∨
        (m.main.words.length = 1 ∧ others.mapM (Model.asChild m.main) = .ok m.children)) := by
  unfold Model.organize at done
  split at done
  · cases done
  · cases done
    exact ⟨[], List.Perm.refl _, .inl ⟨rfl, rfl⟩⟩
  · split at done
    · cases done
    · next main others found =>
      obtain ⟨children, mapped, done⟩ := bind_eq_ok.mp done
      cases done
      obtain ⟨single, order⟩ := splitMain_eq_some found
      exact ⟨others, order, .inr ⟨single, mapped⟩⟩

theorem asChild_eq_ok {main c child : Command} (done : Model.asChild main c = .ok child) :
    ∃ tail, c.fullName.toList = main.fullName.toList ++ ' ' :: tail ∧
      child = { c with name := String.ofList tail } := by
  unfold Model.asChild at done
  extract_lets front full at done
  have opening : front = main.fullName.toList ++ [' '] := by simp [front]
  split at done
  · next begins =>
    obtain ⟨tail, whole⟩ := List.isPrefixOf_iff_prefix.mp begins
    cases done
    refine ⟨tail, ?_, ?_⟩
    · rw [show c.fullName.toList = front ++ tail from whole.symm, opening]
      simp
    · rw [show full.drop front.length = tail by rw [← whole]; exact List.drop_left]
  · cases done

theorem blank_notMem_of_isWord {word : String} (shape : Command.isWord word.toList = true) :
    ' ' ∉ word.toList := by
  intro member
  exact absurd (Command.isNamePart_of_isWord shape ' ' member) (by decide)

/-- A full name that goes on after a first word and a blank is that of words that go on after the first. -/
theorem exists_words_of_fullName {c : Command} {first : String} {tail : List Char}
    (bare : ∀ word ∈ c.words, ' ' ∉ word.toList) (bare' : ' ' ∉ first.toList)
    (whole : c.fullName.toList = first.toList ++ ' ' :: tail) :
    ∃ second rest, c.words = first :: second :: rest ∧ String.ofList tail = joinWords (second :: rest) := by
  rw [Command.fullName] at whole
  cases words : c.words with
  | nil => simp [words, joinWords] at whole
  | cons other rest =>
    have outside := bare other (by simp [words])
    rw [words] at whole
    cases rest with
    | nil =>
      have blank : ' ' ∈ other.toList := by
        rw [show other = joinWords [other] by simp [joinWords], whole]
        simp
      exact absurd blank outside
    | cons second rest =>
      rw [joinWords_cons_cons, String.toList_append, String.toList_append, List.append_assoc] at whole
      -- Neither first word holds a blank, so both end where the blank of the prefix stands.
      obtain ⟨opens, follows⟩ := append_blank_inj outside bare' whole
      refine ⟨second, rest, ?_, ?_⟩
      · rw [← String.toList_inj.mp opens]
      · simp [← follows]

theorem isChildOf_of_asChild {main c child : Command} (legal : main.Legal) (legal' : c.Legal)
    (single : main.words.length = 1) (done : Model.asChild main c = .ok child) :
    child.IsChildOf main := by
  obtain ⟨tail, whole, rfl⟩ := asChild_eq_ok done
  obtain ⟨first, one⟩ := List.length_eq_one_iff.mp single
  have bare := blank_notMem_of_isWord (legal.words first (by simp [one]))
  have bare' := fun word member => blank_notMem_of_isWord (legal'.words word member)
  have mainName : main.fullName = first := by simp [Command.fullName, one, joinWords]
  rw [mainName] at whole
  obtain ⟨second, rest, words, name⟩ := exists_words_of_fullName bare' bare whole
  exact ⟨first, second :: rest, one, by simp, words, name⟩

theorem legal_of_asChild {main c child : Command} (legal : c.Legal)
    (done : Model.asChild main c = .ok child) : child.Legal := by
  obtain ⟨tail, -, rfl⟩ := asChild_eq_ok done
  exact ⟨legal.words_nonempty, legal.words, legal.slots, legal.spellings, legal.targets,
    legal.consistent⟩

theorem fullName_of_asChild {main : Command} (c child : Command)
    (done : Model.asChild main c = .ok child) : child.fullName = c.fullName := by
  obtain ⟨tail, -, rfl⟩ := asChild_eq_ok done
  rfl

theorem fullName_eq_of_name_eq {main c other : Command} (legal : c.Legal) (legal' : other.Legal)
    (child : c.IsChildOf main) (child' : other.IsChildOf main) (same : c.name = other.name) :
    c.fullName = other.fullName := by
  obtain ⟨first, rest, one, -, words, name⟩ := child
  obtain ⟨first', rest', one', -, words', name'⟩ := child'
  have firsts : first = first' := by
    rw [one] at one'
    exact (List.cons.inj one').1
  have rests : rest = rest' := by
    refine joinWords_inj (fun word member => legal.words word ?_) (fun word member => legal'.words word ?_) ?_
    · rw [words]
      exact List.mem_cons_of_mem _ member
    · rw [words']
      exact List.mem_cons_of_mem _ member
    · rw [← name, ← name', same]
  rw [Command.fullName, Command.fullName, words, words', firsts, rests]

theorem family_legal {main : Command} {others children : List Command} (legal : main.Legal)
    (later : ∀ c ∈ others, c.Legal) (single : main.words.length = 1)
    (distinct : (others.map Command.fullName).Nodup)
    (done : others.mapM (Model.asChild main) = .ok children) : Model.Legal ⟨main, children⟩ := by
  have isLegal : ∀ child ∈ children, child.Legal := by
    intro child member
    obtain ⟨c, before, made⟩ := exists_of_mem_mapM done member
    exact legal_of_asChild (later c before) made
  have isChild : ∀ child ∈ children, child.IsChildOf main := by
    intro child member
    obtain ⟨c, before, made⟩ := exists_of_mem_mapM done member
    exact isChildOf_of_asChild legal (later c before) single made
  refine ⟨List.forall_mem_cons.mpr ⟨legal, isLegal⟩, isChild, ?_⟩
  have full : (children.map Command.fullName).Nodup := by
    rw [map_of_mapM fullName_of_asChild done]
    exact distinct
  -- Local names differ because full names do, and the main command is in front of all of them.
  refine full.of_map.map_on fun c member other member' same => ?_
  exact List.inj_on_of_nodup_map full member member'
    (fullName_eq_of_name_eq (isLegal c member) (isLegal other member') (isChild c member)
      (isChild other member') same)

theorem organize_legal {commands : List Command} {m : Model} (legal : ∀ c ∈ commands, c.Legal)
    (distinct : (commands.map Command.fullName).Nodup) (done : Model.organize commands = .ok m) :
    m.Legal := by
  obtain ⟨others, order, family⟩ := organize_eq_ok done
  have whole : ∀ c ∈ m.main :: others, c.Legal := fun c member => legal c (order.mem_iff.mpr member)
  obtain ⟨first, later⟩ := List.forall_mem_cons.mp whole
  obtain ⟨main, children⟩ := m
  rcases family with ⟨rfl, rfl⟩ | ⟨single, mapped⟩
  · exact ⟨whole, by simp, List.nodup_nil⟩
  · have names := (order.map Command.fullName).nodup_iff.mp distinct
    exact family_legal first later single (List.nodup_cons.mp names).2 mapped

/-- Every grammar that a help text declares is legal. -/
theorem parse_legal {help : String} {m : Model} (parsed : Model.parse help = .ok m) : m.Legal := by
  obtain ⟨commands, built, organized⟩ := bind_eq_ok.mp parsed
  exact organize_legal (fun c member => (build_legal built c member).1) (build_names built) organized

namespace Model

/-- The lines of a help text with a sub-command, on which facts about all grammars are tried out. -/
def packLines : List String :=
  ["usage: pack <file>...", "  -o, --out <dir>  directory", "  -q, --quiet  silence", "  -h, --help  help",
    "usage: pack list <archive> [<part>]", "  --all  everything"]

def packText : String :=
  "\n".intercalate packLines

def packMain : Command where
  words := ["pack"]
  name := "pack"
  help := "usage: pack <file>...\n  -o, --out <dir>  directory\n  -q, --quiet  silence\n  -h, --help  help"
  slots := [⟨"file", true, true⟩]
  flags := [("o", ⟨.option, "dir"⟩), ("out", ⟨.option, "dir"⟩), ("q", ⟨.switch, "quiet"⟩),
    ("quiet", ⟨.switch, "quiet"⟩), ("h", ⟨.switch, "help"⟩), ("help", ⟨.switch, "help"⟩)]
  line := some 1

def packList : Command where
  words := ["pack", "list"]
  name := "pack list"
  help := "usage: pack list <archive> [<part>]\n  --all  everything"
  slots := [⟨"archive", true, false⟩, ⟨"part", false, false⟩]
  flags := [("all", ⟨.switch, "all"⟩)]
  line := some 5

def packChild : Command :=
  { packList with name := "list" }

def pack : Model :=
  ⟨packMain, [packChild]⟩

theorem build_packText : build packText = .ok [packMain, packList] := by
  have whole : ∀ line ∈ packLines, line ≠ "" ∧ Text.IsOneLine line.toList := by decide +kernel
  rw [build, packText, Text.lines_intercalate whole]
  decide +kernel

theorem parse_packText : parse packText = .ok pack := by
  have organized : organize [packMain, packList] = .ok pack := by decide +kernel
  rw [parse, build_packText]
  exact organized

end Model

end UsageGrammar
