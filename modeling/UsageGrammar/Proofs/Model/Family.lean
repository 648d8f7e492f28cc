import UsageGrammar.Proofs.Model

/-! Families of commands. Commands are organized into a grammar exactly when one of them has a single word
and the words of all others go on from it; their order decides only the order of the sub-commands and, when
they are no family, what is complained of. -/

set_option autoImplicit false

namespace UsageGrammar

namespace Command

def isSingle (c : Command) : Bool :=
  c.words.length == 1

/-- The words go on from those of another command. -/
def Extends (c main : Command) : Prop :=
  main.words <+: c.words ∧ main.words.length < c.words.length

instance (c main : Command) : Decidable (c.Extends main) :=
  inferInstanceAs (Decidable (main.words <+: c.words ∧ main.words.length < c.words.length))

/-- The command with the words after the first for its name. -/
def localized (c : Command) : Command :=
  { c with name := joinWords c.words.tail }

theorem extends_iff {c main : Command} (single : main.isSingle = true) :
    c.Extends main ↔ c.isSingle = false ∧ c.words.head? = main.words.head? := by
  obtain ⟨word, one⟩ := List.length_eq_one_iff.mp (beq_iff_eq.mp single)
  cases words : c.words with
  | nil => simp [Extends, words, one]
  | cons first rest =>
    simp only [Extends, isSingle, words, one, List.cons_prefix_cons, List.nil_prefix, and_true,
      List.length_cons, List.length_nil, List.head?_cons, Option.some.injEq, beq_eq_false_iff_ne]
    constructor
    · rintro ⟨rfl, longer⟩
      exact ⟨by omega, rfl⟩
    · rintro ⟨other, rfl⟩
      exact ⟨rfl, by omega⟩

end Command

namespace Model

/-- One command has a single word, and the words of all commands begin with it. -/
structure IsFamily (commands : List Command) (main : Command) : Prop where
  single : commands.filter Command.isSingle = [main]
  opens : ∀ c ∈ commands, c.words.head? = main.words.head?

/-- The grammar of a family: the others keep their order and everything but their names. -/
def ofFamily (commands : List Command) (main : Command) : Model :=
  ⟨main, (commands.filter (!·.isSingle)).map Command.localized⟩

theorem splitMain_eq (commands : List Command) :
    splitMain commands =
      (commands.find? Command.isSingle).map fun main => (main, commands.erase main) := by
  induction commands with
  | nil => rfl
  | cons c rest ih =>
    cases single : c.isSingle with
    | true =>
      have one : c.words.length = 1 := beq_iff_eq.mp single
      rw [List.find?_cons_of_pos single, Option.map_some, List.erase_cons_head, splitMain, if_pos one]
    | false =>
      have several : ¬c.words.length = 1 := by simpa [Command.isSingle] using single
      rw [List.find?_cons_of_neg (by simp [single]), splitMain, if_neg several, ih, Option.map_map]
      -- The command that is found has a single word, so it is not the one in front.
      refine Option.map_congr fun main found => ?_
      have different : c ≠ main := by
        rintro rfl
        rw [List.find?_some found] at single
        cases single
      simp [List.erase_cons_tail, different]

theorem isFamily_iff {commands : List Command} {main : Command}
    (found : commands.find? Command.isSingle = some main) :
    IsFamily commands main ↔ ∀ c ∈ commands.erase main, c.Extends main := by
  have member := List.mem_of_find?_eq_some found
  have single := List.find?_some found
  have order := List.perm_cons_erase member
  -- The main command is one of the single ones, and the only one if the others have none.
  have singles : (commands.filter Command.isSingle).Perm
      (main :: (commands.erase main).filter Command.isSingle) := by
    simpa [List.filter_cons_of_pos single] using order.filter Command.isSingle
  constructor
  · rintro ⟨only, opens⟩ c inside
    have none : (commands.erase main).filter Command.isSingle = [] := by
      rw [only] at singles
      simpa using singles.length_eq.symm
    rw [Command.extends_iff single]
    exact ⟨by simpa using List.filter_eq_nil_iff.mp none c inside, opens c (List.mem_of_mem_erase inside)⟩
  · intro extended
    have each := fun c inside => (Command.extends_iff single).mp (extended c inside)
    have none : (commands.erase main).filter Command.isSingle = [] :=
      List.filter_eq_nil_iff.mpr fun c inside => by simp [(each c inside).1]
    rw [none] at singles
    refine ⟨List.perm_singleton.mp singles, fun c inside => ?_⟩
    rcases List.mem_cons.mp (order.mem_iff.mp inside) with rfl | other
    · rfl
    · exact (each c other).2

/-- The others of a family are those of several words, in their order. -/
theorem IsFamily.erase_eq {commands : List Command} {main : Command} (family : IsFamily commands main)
    (found : commands.find? Command.isSingle = some main) :
    commands.erase main = commands.filter (!·.isSingle) := by
  have single := List.find?_some found
  have several : ∀ c ∈ commands.erase main, (!c.isSingle) = true := by
    intro c inside
    have extended := (isFamily_iff found).mp family c inside
    simpa using ((Command.extends_iff single).mp extended).1
  have outside : main ∉ commands.filter (!·.isSingle) := by simp [single]
  rw [← List.filter_eq_self.mpr several, ← List.erase_filter, List.erase_of_not_mem outside]

theorem IsFamily.find?_eq {commands : List Command} {main : Command} (family : IsFamily commands main) :
    commands.find? Command.isSingle = some main := by
  rw [← List.head?_filter, family.single, List.head?_cons]

theorem asChild_of_bare {main c : Command} (single : main.isSingle = true)
    (bare : ∀ word ∈ main.words, ' ' ∉ word.toList) (bare' : ∀ word ∈ c.words, ' ' ∉ word.toList) :
    asChild main c =
      if c.Extends main then .ok c.localized
      else .error ⟨.invalidSubcommandName main.fullName c.fullName, c.line⟩ := by
  obtain ⟨first, one⟩ := List.length_eq_one_iff.mp (beq_iff_eq.mp single)
  have mainName : main.fullName = first := by simp [Command.fullName, one, joinWords]
  have front : (main.fullName ++ " ").toList = first.toList ++ [' '] := by simp [mainName]
  simp only [asChild, front]
  by_cases extended : c.Extends main
  · rw [if_pos extended]
    obtain ⟨⟨rest, whole⟩, longer⟩ := extended
    rw [one, List.singleton_append] at whole
    obtain ⟨second, more, rfl⟩ : ∃ second more, rest = second :: more := by
      cases rest with
      | nil => simp [← whole, one] at longer
      | cons second more => exact ⟨second, more, rfl⟩
    have text : c.fullName.toList = (first.toList ++ [' ']) ++ (joinWords (second :: more)).toList := by
      simp [Command.fullName, ← whole, joinWords_cons_cons]
    rw [text, if_pos (List.isPrefixOf_iff_prefix.mpr (List.prefix_append _ _)), List.drop_left,
      String.ofList_toList]
    simp [Command.localized, ← whole]
  · rw [if_neg extended, if_neg]
    intro begins
    -- No word has a blank, so one behind the name of the main command ends the first word of the other.
    obtain ⟨tail, whole⟩ := List.isPrefixOf_iff_prefix.mp begins
    rw [List.append_assoc, List.singleton_append] at whole
    obtain ⟨second, more, words, -⟩ := exists_words_of_fullName bare' (bare first (by simp [one])) whole.symm
    exact extended ⟨⟨second :: more, by rw [one, words]; rfl⟩, by simp [one, words]⟩

theorem organize_of_several {commands : List Command} (several : 2 ≤ commands.length) :
    organize commands = match splitMain commands with
      | none => .error ⟨.noDefaultCommand, none⟩
      | some (main, others) => (others.mapM (asChild main)).map (⟨main, ·⟩) := by
  match commands, several with
  | _ :: _ :: _, _ => rfl

/-- The first command of a single word is the main one, and the first other one whose words do not go on
from it is refused. -/
theorem organize_eq {commands : List Command} (several : 2 ≤ commands.length)
    (bare : ∀ c ∈ commands, ∀ word ∈ c.words, ' ' ∉ word.toList) :
    organize commands = match commands.find? Command.isSingle with
      | none => .error ⟨.noDefaultCommand, none⟩
      | some main => match (commands.erase main).find? fun c => ¬c.Extends main with
        | some c => .error ⟨.invalidSubcommandName main.fullName c.fullName, c.line⟩
        | none => .ok ⟨main, (commands.erase main).map Command.localized⟩ := by
  rw [organize_of_several several, splitMain_eq]
  cases found : commands.find? Command.isSingle with
  | none => rfl
  | some main =>
    have single := List.find?_some found
    have member := List.mem_of_find?_eq_some found
    have each : ∀ c ∈ commands.erase main, asChild main c =
        if c.Extends main then .ok c.localized
        else .error ⟨.invalidSubcommandName main.fullName c.fullName, c.line⟩ := fun c inside =>
      asChild_of_bare single (bare main member) (bare c (List.mem_of_mem_erase inside))
    simp only [Option.map_some, mapM_eq_of_ite each]
    cases (commands.erase main).find? fun c => ¬c.Extends main <;> rfl

theorem organize_eq_ok_iff {commands : List Command} (several : 2 ≤ commands.length)
    (bare : ∀ c ∈ commands, ∀ word ∈ c.words, ' ' ∉ word.toList) {m : Model} :
    organize commands = .ok m ↔ ∃ main, IsFamily commands main ∧ m = ofFamily commands main := by
  rw [organize_eq several bare]
  constructor
  · intro done
    split at done
    · cases done
    · next main found =>
      split at done
      · cases done
      · next extended =>
        cases done
        have family : IsFamily commands main := (isFamily_iff found).mpr (by simpa using extended)
        exact ⟨main, family, by rw [ofFamily, family.erase_eq found]⟩
  · rintro ⟨main, family, rfl⟩
    have found := family.find?_eq
    have extended := (isFamily_iff found).mp family
    have none : ((commands.erase main).find? fun c => ¬c.Extends main) = none := by simpa using extended
    simp only [found]
    rw [none]
    simp only [ofFamily, family.erase_eq found]

theorem IsFamily.of_perm {commands others : List Command} {main : Command} (family : IsFamily commands main)
    (order : commands.Perm others) : IsFamily others main := by
  refine ⟨?_, fun c member => family.opens c (order.mem_iff.mpr member)⟩
  have singles := order.filter Command.isSingle
  rw [family.single] at singles
  exact List.perm_singleton.mp singles.symm

theorem mem_ofFamily {commands : List Command} {main c : Command}
    (member : c ∈ (ofFamily commands main).children) :
    ∃ d ∈ commands, d.isSingle = false ∧ c = d.localized := by
  obtain ⟨d, inside, rfl⟩ := List.mem_map.mp member
  obtain ⟨inside, several⟩ := List.mem_filter.mp inside
  exact ⟨d, inside, by simpa using several, rfl⟩

section Again

variable {commands : List Command} {main : Command} (family : IsFamily commands main)

include family

theorem IsFamily.mem : main ∈ commands :=
  List.mem_of_find?_eq_some family.find?_eq

theorem IsFamily.single_main : main.isSingle = true :=
  List.find?_some family.find?_eq

theorem IsFamily.length_eq : (ofFamily commands main).commands.length = commands.length := by
  rw [(List.perm_cons_erase family.mem).length_eq, family.erase_eq family.find?_eq]
  simp [ofFamily, Model.commands]

theorem IsFamily.bare (bare : ∀ c ∈ commands, ∀ word ∈ c.words, ' ' ∉ word.toList) :
    ∀ c ∈ (ofFamily commands main).commands, ∀ word ∈ c.words, ' ' ∉ word.toList := by
  refine List.forall_mem_cons.mpr ⟨bare main family.mem, fun c member => ?_⟩
  obtain ⟨d, inside, -, rfl⟩ := mem_ofFamily member
  exact bare d inside

/-- Sub-commands keep their words, so they are a family with the main command as before. -/
theorem IsFamily.again : IsFamily (ofFamily commands main).commands main := by
  have several : ∀ c ∈ (ofFamily commands main).children, ¬c.isSingle = true := by
    intro c member
    obtain ⟨d, -, several, rfl⟩ := mem_ofFamily member
    simpa [Command.isSingle, Command.localized] using several
  refine ⟨?_, List.forall_mem_cons.mpr ⟨rfl, fun c member => ?_⟩⟩
  · refine (List.filter_cons_of_pos family.single_main).trans ?_
    rw [List.filter_eq_nil_iff.mpr several]
  · obtain ⟨d, inside, -, rfl⟩ := mem_ofFamily member
    exact family.opens d inside

theorem IsFamily.ofFamily_again : ofFamily (ofFamily commands main).commands main = ofFamily commands main := by
  have others : (ofFamily commands main).commands.filter (!·.isSingle) = (ofFamily commands main).children := by
    refine (List.filter_cons_of_neg (by simp [ofFamily, family.single_main])).trans ?_
    refine List.filter_eq_self.mpr fun c member => ?_
    obtain ⟨d, -, several, rfl⟩ := mem_ofFamily member
    simpa [Command.isSingle, Command.localized] using several
  have named : (ofFamily commands main).children.map Command.localized = (ofFamily commands main).children := by
    simp only [ofFamily, List.map_map]
    rfl
  rw [ofFamily, others, named]
  rfl

end Again

/-- Commands are organized exactly when they are a family, whatever their order, and organizing the grammar
again changes nothing; other commands are refused for want of a main one or for a name that does not go on
from it. -/
theorem organize_family {commands : List Command} (several : 2 ≤ commands.length)
    (bare : ∀ c ∈ commands, ∀ word ∈ c.words, ' ' ∉ word.toList) :
    ((∃ m, organize commands = .ok m) ↔ ∃ main, IsFamily commands main) ∧
      (∀ main, IsFamily commands main →
        organize commands = .ok (ofFamily commands main) ∧
          organize (ofFamily commands main).commands = .ok (ofFamily commands main) ∧
          ∀ others, commands.Perm others →
            ∃ m, organize others = .ok m ∧ m.main = main ∧ m.commands.Perm (ofFamily commands main).commands) ∧
      ∀ e, organize commands = .error e →
        ((∀ c ∈ commands, c.isSingle = false) ∧ e = ⟨.noDefaultCommand, none⟩) ∨
          ∃ main c, commands.find? Command.isSingle = some main ∧
            ((commands.erase main).find? fun c => ¬c.Extends main) = some c ∧
            e = ⟨.invalidSubcommandName main.fullName c.fullName, c.line⟩ := by
  have organized := @organize_eq_ok_iff commands several bare
  refine ⟨⟨?_, ?_⟩, ?_, ?_⟩
  · rintro ⟨m, done⟩
    obtain ⟨main, family, -⟩ := organized.mp done
    exact ⟨main, family⟩
  · rintro ⟨main, family⟩
    exact ⟨_, organized.mpr ⟨main, family, rfl⟩⟩
  · intro main family
    have again : organize (ofFamily commands main).commands = .ok (ofFamily commands main) := by
      refine (organize_eq_ok_iff (family.length_eq ▸ several) (family.bare bare)).mpr ⟨main, family.again, ?_⟩
      exact family.ofFamily_again.symm
    refine ⟨organized.mpr ⟨main, family, rfl⟩, again, fun others order => ?_⟩
    have bare' : ∀ c ∈ others, ∀ word ∈ c.words, ' ' ∉ word.toList :=
      fun c member => bare c (order.mem_iff.mpr member)
    have reordered := (organize_eq_ok_iff (order.length_eq ▸ several) bare').mpr ⟨main, family.of_perm order, rfl⟩
    exact ⟨ofFamily others main, reordered, rfl, (((order.filter _).map _).cons main).symm⟩
  · intro e failed
    rw [organize_eq several bare] at failed
    split at failed
    · next nothing =>
      cases failed
      exact .inl ⟨by simpa using nothing, rfl⟩
    · next main found =>
      split at failed
      · next c refused =>
        cases failed
        exact .inr ⟨main, c, found, refused, rfl⟩
      · cases failed

def multi : Command := ⟨["multi"], "multi", "usage: multi", [], [], some 2⟩

/-- The name begins with that of `multi`, but the words do not. -/
def multiple : Command := ⟨["multiple", "x"], "multiple x", "usage: multiple x", [], [], some 1⟩

theorem organize_family_pack :
    organize [packList, packMain] = .ok pack ∧ organize pack.commands = .ok pack ∧
      (¬∃ m, organize [multiple, multi] = .ok m) ∧
      ∀ e, organize [multiple, multi] = .error e →
        ((∀ c ∈ [multiple, multi], c.isSingle = false) ∧ e = ⟨.noDefaultCommand, none⟩) ∨
          ∃ main c, [multiple, multi].find? Command.isSingle = some main ∧
            (([multiple, multi].erase main).find? fun c => ¬c.Extends main) = some c ∧
            e = ⟨.invalidSubcommandName main.fullName c.fullName, c.line⟩ := by
  have bare : ∀ c ∈ [packList, packMain], ∀ word ∈ c.words, ' ' ∉ word.toList := by decide
  have bare' : ∀ c ∈ [multiple, multi], ∀ word ∈ c.words, ' ' ∉ word.toList := by decide
  have family : IsFamily [packList, packMain] packMain := ⟨by decide, by decide⟩
  have strangers : ¬∃ main, IsFamily [multiple, multi] main := by
    rintro ⟨main, single, opens⟩
    have only : [multi] = [main] := single
    cases only
    exact absurd opens (by decide)
  obtain ⟨organized, again, -⟩ := (organize_family (by decide) bare).2.1 packMain family
  have two : 2 ≤ [multiple, multi].length := by decide
  have refused := organize_family two bare'
  exact ⟨organized, again, refused.1.not.mpr strangers, refused.2.2⟩

end Model

end UsageGrammar
