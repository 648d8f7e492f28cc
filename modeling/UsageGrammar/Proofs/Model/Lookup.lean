import Mathlib.Data.List.Find
import UsageGrammar.Proofs.HelpText.Separation
import UsageGrammar.Proofs.Invocation.Restatement

/-! Look-up of commands by their full names. A full name is compared with the local names of all
commands too, so that a command is found unless an earlier one has this full name for a local name. -/

set_option autoImplicit false

namespace UsageGrammar

namespace Model

/-- The words of the other command behind those of the main command. -/
def Shadows (m : Model) (d c : Command) : Prop :=
  d.words = m.main.words ++ c.words

instance (m : Model) (d c : Command) : Decidable (m.Shadows d c) :=
  inferInstanceAs (Decidable (d.words = m.main.words ++ c.words))

theorem main_named {text : String} {m : Model} (parsed : parse text = .ok m) : m.main.name = m.main.fullName := by
  obtain ⟨commands, built, organized⟩ := bind_eq_ok.mp parsed
  obtain ⟨others, order, -⟩ := organize_eq_ok organized
  exact (build_legal built m.main (order.mem_iff.mpr List.mem_cons_self)).2

section Legal

variable {m : Model} (legal : m.Legal)

include legal

theorem main_notMem_children {c : Command} (child : c ∈ m.children) : c.words ≠ m.main.words := by
  obtain ⟨first, rest, single, nonempty, words, -⟩ := legal.children c child
  rw [words, single]
  intro same
  exact nonempty (List.cons.inj same).2

theorem eq_of_words_eq {c d : Command} (member : c ∈ m.commands) (member' : d ∈ m.commands)
    (same : d.words = c.words) : d = c := by
  rcases List.mem_cons.mp member with rfl | child <;> rcases List.mem_cons.mp member' with rfl | child'
  · rfl
  · exact absurd same (main_notMem_children legal child')
  · exact absurd same.symm (main_notMem_children legal child)
  · obtain ⟨first, rest, -, -, words, name⟩ := legal.children c child
    obtain ⟨first', rest', -, -, words', name'⟩ := legal.children d child'
    rw [words, words'] at same
    apply List.inj_on_of_nodup_map legal.distinct child' child
    rw [name, name', (List.cons.inj same).2]

theorem nodup_commands : m.commands.Nodup :=
  List.nodup_cons.mpr ⟨fun child => main_notMem_children legal child rfl, legal.distinct.of_map⟩

theorem fullName_eq_iff {c d : Command} (member : c ∈ m.commands) (member' : d ∈ m.commands) :
    c.fullName = d.fullName ↔ d = c := by
  constructor
  · intro same
    apply eq_of_words_eq legal member member'
    exact joinWords_inj (legal.commands d member').words (legal.commands c member).words same.symm
  · rintro rfl
    rfl

/-- A sub-command has the full name of another command for its local name when it shadows that. -/
theorem name_eq_iff {c d : Command} (member : c ∈ m.commands) (child : d ∈ m.children) :
    c.fullName = d.name ↔ m.Shadows d c := by
  obtain ⟨first, rest, single, -, words, name⟩ := legal.children d child
  rw [Shadows, words, single, name, List.singleton_append, List.cons.injEq, and_iff_right rfl]
  constructor
  · intro same
    -- Words hold no blanks, so names that are joined from words are equal only if the words are.
    refine (joinWords_inj (legal.commands c member).words (fun word inside => ?_) same).symm
    exact (legal.commands d (List.mem_cons_of_mem _ child)).words word (words ▸ List.mem_cons_of_mem _ inside)
  · rintro rfl
    rfl

theorem not_shadows_main {c : Command} (member : c ∈ m.commands) : ¬m.Shadows m.main c := by
  intro shadows
  exact (legal.commands c member).words_nonempty (List.self_eq_append_right.mp shadows)

end Legal

/-- The commands that the look-up of a full name stops at. -/
theorem isNamed_iff {text : String} {m : Model} (parsed : parse text = .ok m) {c d : Command}
    (member : c ∈ m.commands) (member' : d ∈ m.commands) :
    (c.fullName == d.name || c.fullName == d.fullName) = true ↔ d = c ∨ m.Shadows d c := by
  have legal := parse_legal parsed
  rw [Bool.or_eq_true, beq_iff_eq, beq_iff_eq, fullName_eq_iff legal member member']
  rcases List.mem_cons.mp member' with rfl | child
  -- The main command has its full name for its local name, so it shadows nothing.
  · rw [main_named parsed, fullName_eq_iff legal member member', or_self,
      or_iff_left (not_shadows_main legal member)]
  · rw [name_eq_iff legal member child, or_comm]

/-- The command that a full name finds: the first in front of the command that shadows it, or else itself. -/
theorem find?_fullName {text : String} {m : Model} (parsed : parse text = .ok m) {c : Command}
    {front back : List Command} (whole : m.commands = front ++ c :: back) :
    m.find? c.fullName = some ((front.find? fun d => m.Shadows d c).getD c) := by
  have legal := parse_legal parsed
  have member : c ∈ m.commands := by simp [whole]
  have earlier : ∀ d ∈ front, d ∈ m.commands ∧ d ≠ c := by
    have distinct := nodup_commands legal
    rw [whole] at distinct
    intro d inside
    exact ⟨by simp [whole, inside], (List.nodup_append.mp distinct).2.2 d inside c List.mem_cons_self⟩
  have found : (c.fullName == c.name || c.fullName == c.fullName) = true :=
    (isNamed_iff parsed member member).mpr (.inl rfl)
  -- In front of the command, the look-up stops at those that shadow it and at no others.
  have stops : front.find? (fun d => c.fullName == d.name || c.fullName == d.fullName) =
      front.find? fun d => m.Shadows d c := by
    apply List.find?_congr
    intro d inside
    obtain ⟨member', different⟩ := earlier d inside
    rw [Bool.eq_iff_iff, isNamed_iff parsed member member', or_iff_right different, decide_eq_true_iff]
  have name : joinWords (Text.fields c.fullName) = c.fullName :=
    congrArg joinWords (fields_joinWords (legal.commands c member).words)
  simp only [find?, name, whole, List.find?_append, stops, List.find?_cons, found]
  cases front.find? fun d => m.Shadows d c <;> rfl

theorem findNamed_words (m : Model) (words : List String) :
    m.findNamed (.tuple (words.map .text)) = .ok (m.find? (joinWords words)) := by
  simp only [findNamed, texts?_map_text]

theorem not_shadows_self {m : Model} (legal : m.Legal) (c : Command) : ¬m.Shadows c c := by
  intro shadows
  exact (legal.commands m.main List.mem_cons_self).words_nonempty (List.self_eq_append_left.mp shadows)

theorem eq_of_shadows {m : Model} (legal : m.Legal) {c d e : Command} (member : d ∈ m.commands)
    (member' : e ∈ m.commands) (shadows : m.Shadows d c) (shadows' : m.Shadows e c) : e = d :=
  eq_of_words_eq legal member member' (shadows'.trans shadows.symm)

/-- A command is found by its full name and by its words exactly when no command in front of it shadows
it; otherwise that one is found in its place. -/
theorem find?_fullName_iff {text : String} {m : Model} (parsed : parse text = .ok m) {c : Command}
    {front back : List Command} (whole : m.commands = front ++ c :: back) :
    ((m.find? c.fullName = some c ∧ m.findNamed (.tuple (c.words.map .text)) = .ok (some c)) ↔
        ∀ d ∈ front, ¬m.Shadows d c) ∧
      ∀ d ∈ front, m.Shadows d c → d ≠ c ∧ m.find? c.fullName = some d ∧
        m.findNamed (.tuple (c.words.map .text)) = .ok (some d) := by
  have legal := parse_legal parsed
  have looked := find?_fullName parsed whole
  have named : m.findNamed (.tuple (c.words.map .text)) = .ok (m.find? c.fullName) := findNamed_words m c.words
  have instead : ∀ d ∈ front, m.Shadows d c → d ≠ c ∧ m.find? c.fullName = some d := by
    intro d inside shadows
    refine ⟨fun same => not_shadows_self legal c (same ▸ shadows), ?_⟩
    have inFront : ∀ e ∈ front, e ∈ m.commands := fun e inside => by simp [whole, inside]
    cases first : front.find? fun d => m.Shadows d c with
    | none => exact absurd (decide_eq_true shadows) (List.find?_eq_none.mp first d inside)
    | some e =>
      have shadows' : m.Shadows e c := by simpa using List.find?_some first
      have same := eq_of_shadows legal (inFront d inside) (inFront e (List.mem_of_find?_eq_some first)) shadows shadows'
      rw [looked, first, Option.getD_some, same]
  refine ⟨⟨?_, ?_⟩, ?_⟩
  · rintro ⟨found, -⟩ d inside shadows
    obtain ⟨different, other⟩ := instead d inside shadows
    rw [found] at other
    exact different (Option.some.inj other).symm
  · intro unshadowed
    have nobody : front.find? (fun d => m.Shadows d c) = none :=
      List.find?_eq_none.mpr fun d inside => by simpa using unshadowed d inside
    have found : m.find? c.fullName = some c := by rw [looked, nobody, Option.getD_none]
    exact ⟨found, by rw [named, found]⟩
  · intro d inside shadows
    obtain ⟨different, found⟩ := instead d inside shadows
    exact ⟨different, found, by rw [named, found]⟩

def bare (words : List String) (name : String) (line : Int) : Command :=
  ⟨words, name, "usage: " ++ joinWords words, [], [], some line⟩

def barFirst : Model :=
  ⟨bare ["foo"] "foo" 1, [bare ["foo", "bar"] "bar" 2, bare ["foo", "foo", "bar"] "foo bar" 3]⟩

def barLast : Model :=
  ⟨bare ["foo"] "foo" 1, [bare ["foo", "foo", "bar"] "foo bar" 2, bare ["foo", "bar"] "bar" 3]⟩

def barFirstLines : List String :=
  ["usage: foo", "usage: foo bar", "usage: foo foo bar"]

def barLastLines : List String :=
  ["usage: foo", "usage: foo foo bar", "usage: foo bar"]

theorem find?_fullName_barFirst :
    parse ("\n".intercalate barFirstLines) = .ok barFirst ∧
      barFirst.commands = [bare ["foo"] "foo" 1] ++ bare ["foo", "bar"] "bar" 2 ::
        [bare ["foo", "foo", "bar"] "foo bar" 3] ∧
      barFirst.find? "foo bar" = some (bare ["foo", "bar"] "bar" 2) ∧
      barFirst.findNamed (.tuple [.text "foo", .text "bar"]) = .ok (some (bare ["foo", "bar"] "bar" 2)) := by
  have lines : ∀ line ∈ barFirstLines, Text.IsOneLine line.toList := by decide +kernel
  have parsed : parse ("\n".intercalate barFirstLines) = .ok barFirst := by
    rw [parse, build_join lines]
    decide +kernel
  have whole : barFirst.commands = [bare ["foo"] "foo" 1] ++ bare ["foo", "bar"] "bar" 2 ::
      [bare ["foo", "foo", "bar"] "foo bar" 3] := rfl
  exact ⟨parsed, whole, (find?_fullName_iff parsed whole).1.mpr (by decide)⟩

/-- The sub-command named last is not found: its full name is the local name of another one. -/
theorem find?_fullName_barLast :
    parse ("\n".intercalate barLastLines) = .ok barLast ∧ bare ["foo", "bar"] "bar" 3 ∈ barLast.commands ∧
      barLast.find? (bare ["foo", "bar"] "bar" 3).fullName = some (bare ["foo", "foo", "bar"] "foo bar" 2) ∧
      barLast.findNamed (.tuple [.text "foo", .text "bar"]) =
        .ok (some (bare ["foo", "foo", "bar"] "foo bar" 2)) := by
  have lines : ∀ line ∈ barLastLines, Text.IsOneLine line.toList := by decide +kernel
  have parsed : parse ("\n".intercalate barLastLines) = .ok barLast := by
    rw [parse, build_join lines]
    decide +kernel
  have found : barLast.find? "foo bar" = some (bare ["foo", "foo", "bar"] "foo bar" 2) := by decide +kernel
  refine ⟨parsed, by decide, found, ?_⟩
  exact (findNamed_words barLast ["foo", "bar"]).trans (congrArg Except.ok found)

end Model

end UsageGrammar
