import UsageGrammar.Invocation
import UsageGrammar.Proofs.HelpText.Separation
import UsageGrammar.Proofs.Invocation.Resolution

/-! Resolution of any command line. The command is the sub-command that the longest run of leading tokens
names; without tokens that could name one it is the main command, and otherwise there is none. -/

set_option autoImplicit false

namespace UsageGrammar.Model

instance (token : String) : Decidable (IsDashed token) :=
  inferInstanceAs (Decidable (token.toList.head? = some '-'))

def leadingTokens (tokens : List String) : List String :=
  tokens.takeWhile fun token => ¬IsDashed token

/-- The tokens stand in front, and joined by blanks they are the local name of the sub-command. -/
structure Names (m : Model) (lead front : List String) (c : Command) : Prop where
  nonempty : front ≠ []
  leading : front <+: lead
  child : c ∈ m.children
  named : c.name = joinWords front

theorem candidates_eq (tokens : List String) : candidates tokens = leadingTokens tokens := by
  refine congrArg (List.takeWhile · tokens) (funext fun token => ?_)
  rw [Bool.eq_iff_iff, bne_iff_ne, decide_eq_true_iff]
  rfl

theorem names_eq {m : Model} (legal : m.Legal) {lead front : List String} {c d : Command}
    (names : m.Names lead front c) (names' : m.Names lead front d) : d = c :=
  List.inj_on_of_nodup_map legal.distinct names'.child names.child (names'.named.trans names.named.symm)

theorem names_take_succ_iff {m : Model} {tokens front : List String} {count : Nat} {c : Command}
    (unnamed : ∀ d ∈ m.children, d.name ≠ joinWords (tokens.take (count + 1))) :
    m.Names (tokens.take (count + 1)) front c ↔ m.Names (tokens.take count) front c := by
  constructor
  · rintro ⟨nonempty, leading, child, named⟩
    obtain ⟨begins, short⟩ := List.prefix_take_iff.mp leading
    refine ⟨nonempty, List.prefix_take_iff.mpr ⟨begins, ?_⟩, child, named⟩
    refine Nat.le_of_lt_succ (Nat.lt_of_le_of_ne short fun full => unnamed c child ?_)
    rw [named, ← Nat.succ_eq_add_one, ← full, ← List.prefix_iff_eq_take.mp begins]
  · rintro ⟨nonempty, leading, child, named⟩
    exact ⟨nonempty, leading.trans (List.take_prefix_take_left (Nat.le_succ count)), child, named⟩

theorem longestMatch_cases (m : Model) (tokens : List String) {count : Nat} (inside : count ≤ tokens.length) :
    (∃ front c, m.Names (tokens.take count) front c ∧
        (∀ other d, m.Names (tokens.take count) other d → other.length ≤ front.length) ∧
        m.longestMatch tokens count = some (c, tokens.drop front.length)) ∨
      ((∀ front c, ¬m.Names (tokens.take count) front c) ∧ m.longestMatch tokens count = none) := by
  -- The search begins with the longest run, so a name that it finds is not exceeded by any other.
  induction count with
  | zero =>
    refine .inr ⟨fun front c names => ?_, rfl⟩
    have nothing := names.leading
    rw [List.take_zero, List.prefix_nil] at nothing
    exact names.nonempty nothing
  | succ count ih =>
    have size : (tokens.take (count + 1)).length = count + 1 := List.length_take_of_le inside
    cases found : m.children.find? (·.name == joinWords (tokens.take (count + 1))) with
    | some c =>
      have named : c.name = joinWords (tokens.take (count + 1)) := by simpa using List.find?_some found
      refine .inl ⟨tokens.take (count + 1), c, ?_, fun other d names => names.leading.length_le, ?_⟩
      · exact ⟨List.ne_nil_of_length_eq_add_one size, List.prefix_rfl, List.mem_of_find?_eq_some found, named⟩
      · simp only [longestMatch, found, size]
    | none =>
      have unnamed : ∀ d ∈ m.children, d.name ≠ joinWords (tokens.take (count + 1)) := by simpa using found
      simp only [names_take_succ_iff unnamed, longestMatch, found]
      exact ih (Nat.le_of_succ_le inside)

section Resolve

variable {m : Model} {tokens : List String} (several : m.children ≠ [])

include several

theorem resolve_of_unled (unled : leadingTokens tokens = []) : m.resolve tokens = .ok (m.main, tokens) := by
  have inhabited : ¬m.children.isEmpty = true := by simpa using several
  rw [resolve, if_neg inhabited, candidates_eq, unled]

theorem resolve_of_led {first : String} {more : List String} (led : leadingTokens tokens = first :: more) :
    m.resolve tokens = match m.longestMatch tokens (leadingTokens tokens).length with
      | some found => .ok found
      | none => .error (.unknownCommand first) := by
  have inhabited : ¬m.children.isEmpty = true := by simpa using several
  rw [resolve, if_neg inhabited, candidates_eq, led]
  rfl

/-- Tokens that could name a command do, and the longest name is taken, or they are refused. -/
theorem resolve_cases (led : leadingTokens tokens ≠ []) :
    (∃ front c, m.Names (leadingTokens tokens) front c ∧
        (∀ other d, m.Names (leadingTokens tokens) other d → other.length ≤ front.length) ∧
        m.resolve tokens = .ok (c, tokens.drop front.length)) ∨
      ((∀ front c, ¬m.Names (leadingTokens tokens) front c) ∧
        ∃ first, tokens.head? = some first ∧ m.resolve tokens = .error (.unknownCommand first)) := by
  obtain ⟨first, more, led⟩ := List.exists_cons_of_ne_nil led
  have begins : leadingTokens tokens <+: tokens := List.takeWhile_prefix _
  have searched := longestMatch_cases m tokens begins.length_le
  rw [← List.prefix_iff_eq_take.mp begins] at searched
  rw [resolve_of_led several led]
  rcases searched with ⟨front, c, found, longest, matched⟩ | ⟨unnamed, unmatched⟩
  · exact .inl ⟨front, c, found, longest, by simp only [matched]⟩
  · refine .inr ⟨unnamed, first, ?_, by simp only [unmatched]⟩
    obtain ⟨rest, whole⟩ := begins
    rw [← whole, led, List.cons_append, List.head?_cons]

end Resolve

/-- In a grammar with sub-commands the longest run of leading tokens that names one decides, and the words
of its local name lead to each of them. -/
theorem resolve_longest {help : String} {m : Model} (parsed : parse help = .ok m)
    (several : 2 ≤ m.commands.length) :
    (∀ tokens, let lead := leadingTokens tokens
      (lead = [] → m.resolve tokens = .ok (m.main, tokens)) ∧
      ((∃ front c, m.Names lead front c) →
        ∃ front c, m.Names lead front c ∧ (∀ other d, m.Names lead other d → other.length ≤ front.length) ∧
          (∀ d, m.Names lead front d → d = c) ∧ m.resolve tokens = .ok (c, tokens.drop front.length)) ∧
      (lead ≠ [] → (¬∃ front c, m.Names lead front c) →
        ∃ first, tokens.head? = some first ∧ m.resolve tokens = .error (.unknownCommand first) ∧
          m.invokeTokens tokens = .error ⟨m.main.fullName, .unknownCommand first, m.hint⟩)) ∧
    ∀ c ∈ m.children, ∀ rest, EndsName rest → m.resolve (Text.fields c.name ++ rest) = .ok (c, rest) := by
  have legal := parse_legal parsed
  have inhabited : m.children ≠ [] := by
    rintro childless
    simp [commands, childless] at several
  refine ⟨fun tokens => ⟨resolve_of_unled inhabited, ?_, ?_⟩,
    fun c child rest ends => resolve_child legal child ends⟩
  · rintro ⟨front, c, names⟩
    rcases resolve_cases inhabited (names.leading.ne_nil names.nonempty) with
      ⟨front, c, found, longest, resolved⟩ | ⟨unnamed, -⟩
    · exact ⟨front, c, found, longest, fun d other => names_eq legal found other, resolved⟩
    · exact absurd names (unnamed front c)
  · intro led unnamed
    rcases resolve_cases inhabited led with ⟨front, c, found, -⟩ | ⟨-, first, head, refused⟩
    · exact absurd ⟨front, c, found⟩ unnamed
    · exact ⟨first, head, refused, by simp only [invokeTokens, refused]⟩

/-- A sub-command whose local name begins with that of another, which has the name of the main command. -/
def nestedLines : List String :=
  ["usage: var <file>", "usage: var var <name>", "usage: var var add <name>"]

def nested : Model where
  main := ⟨["var"], "var", "usage: var <file>", [⟨"file", true, false⟩], [], some 1⟩
  children :=
    [⟨["var", "var"], "var", "usage: var var <name>", [⟨"name", true, false⟩], [], some 2⟩,
      ⟨["var", "var", "add"], "var add", "usage: var var add <name>", [⟨"name", true, false⟩], [], some 3⟩]

theorem resolve_longest_nested :
    parse ("\n".intercalate nestedLines) = .ok nested ∧ 2 ≤ nested.commands.length ∧
      (∃ front c, nested.Names ["var", "add", "x"] front c ∧
        (∀ other d, nested.Names ["var", "add", "x"] other d → other.length ≤ front.length) ∧
        (∀ d, nested.Names ["var", "add", "x"] front d → d = c) ∧
        nested.resolve ["var", "add", "x"] = .ok (c, ["var", "add", "x"].drop front.length)) ∧
      nested.resolve ["--", "var"] = .ok (nested.main, ["--", "var"]) ∧
      ∀ c ∈ nested.children, nested.resolve (Text.fields c.name ++ []) = .ok (c, []) := by
  have lines : ∀ line ∈ nestedLines, Text.IsOneLine line.toList := by decide +kernel
  have parsed : parse ("\n".intercalate nestedLines) = .ok nested := by
    rw [parse, build_join lines]
    decide +kernel
  have several : 2 ≤ nested.commands.length := by decide
  obtain ⟨longest, each⟩ := resolve_longest parsed several
  refine ⟨parsed, several, ?_, (longest ["--", "var"]).1 (by decide), fun c child => each c child [] nofun⟩
  refine (longest ["var", "add", "x"]).2.1 ⟨["var"], _, by simp, by decide, List.mem_cons_self, rfl⟩

end UsageGrammar.Model
