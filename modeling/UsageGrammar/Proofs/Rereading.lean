import UsageGrammar.Proofs.HelpText.Pages

/-! The help texts that a grammar stores are a help text themselves. Joined by separators, the main one
first, they declare the same grammar again, whatever text it was read from. -/

set_option autoImplicit false

namespace UsageGrammar

namespace Command

def unplaced (c : Command) : Command :=
  { c with line := none }

theorem unplaced_eq_iff {c d : Command} : c.unplaced = d.unplaced ↔ ∃ line, c = { d with line } := by
  constructor
  · intro alike
    obtain ⟨words, name, help, slots, flags, line⟩ := c
    simp only [unplaced, Command.mk.injEq, and_true] at alike
    obtain ⟨rfl, rfl, rfl, rfl, rfl⟩ := alike
    exact ⟨line, rfl⟩
  · rintro ⟨line, rfl⟩
    rfl

theorem fullName_of_alike {commands again : List Command}
    (alike : again.map unplaced = commands.map unplaced) :
    again.map fullName = commands.map fullName := by
  have named (list : List Command) : list.map fullName = (list.map unplaced).map fullName := by
    rw [List.map_map]
    rfl
  rw [named, alike, ← named]

/-- Legal commands that differ in their places only count as the same. -/
theorem same_of_alike {c d : Command} (legal : d.Legal) (alike : c.unplaced = d.unplaced) :
    c.same d = true := by
  obtain ⟨line, rfl⟩ := unplaced_eq_iff.mp alike
  have flags : d.flags.same d.flags = true := by
    simp only [Table.same, beq_self_eq_true, Bool.true_and, List.all_eq_true, beq_iff_eq]
    exact fun entry member => Table.value?_of_mem legal.consistent.spellings_distinct member
  simp [same, flags]

theorem forall_same {commands again : List Command} (legal : ∀ d ∈ commands, d.Legal)
    (alike : again.map unplaced = commands.map unplaced) :
    List.Forall₂ (fun c d => c.same d = true) again commands := by
  induction commands generalizing again with
  | nil => rw [List.map_eq_nil_iff.mp alike]; exact .nil
  | cons d commands ih =>
    obtain ⟨first, later⟩ := List.forall_mem_cons.mp legal
    obtain ⟨c, again, rfl, front, rest⟩ := List.map_eq_cons_iff.mp alike
    exact .cons (same_of_alike first front) (ih later rest)

end Command

/-- Lines of commands, cut by separators, are read as these commands. -/
theorem exists_lines_of_isOn {commands : List Command} (nonempty : commands ≠ [])
    (pages : ∀ c ∈ commands, ∃ lines, c.IsOn lines) (distinct : (commands.map Command.fullName).Nodup) :
    ∃ lines again, lines ≠ [] ∧ (∀ text ∈ lines, Text.IsOneLine text.toList) ∧
      "\n#\n".intercalate (commands.map Command.help) = "\n".intercalate lines ∧
      buildLines lines = .ok again ∧ again.map Command.unplaced = commands.map Command.unplaced := by
  induction commands with
  | nil => exact absurd rfl nonempty
  | cons c rest ih =>
    obtain ⟨⟨page, on⟩, pages⟩ := List.forall_mem_cons.mp pages
    obtain ⟨line, built⟩ := on.built
    cases rest with
    | nil => exact ⟨page, _, on.nonempty, on.one_line, by simp [on.help], built, rfl⟩
    | cons second rest =>
      obtain ⟨fresh, distinct⟩ := List.nodup_cons.mp distinct
      obtain ⟨lines, again, filled, whole, joined, built', alike⟩ := ih (by simp) pages distinct
      -- No name is declared twice, so the page and the lines behind it are read on their own.
      have apart : List.Disjoint ([{ c with line }].map Command.fullName) (again.map Command.fullName) := by
        rw [Command.fullName_of_alike alike]
        exact List.singleton_disjoint.mpr fresh
      refine ⟨page ++ "#" :: lines, _, by simp, isOneLine_separated on.one_line whole, ?_,
        buildLines_separated built built' apart, ?_⟩
      · have separator : "\n#\n" = "\n" ++ ("#" ++ "\n") := by decide
        rw [List.map_cons, String.intercalate_cons_of_ne_nil (by simp), joined, on.help,
          String.intercalate_append_of_ne_nil on.nonempty (by simp),
          String.intercalate_cons_of_ne_nil filled, separator]
        simp only [String.append_assoc]
      · rw [List.map_append, List.map_map]
        exact congrArg (c.unplaced :: ·) alike

namespace Model

/-- The help of all commands, the main one first, with separators between them. -/
def helps (m : Model) : String :=
  "\n#\n".intercalate (m.commands.map Command.help)

theorem help_of_asChild {main : Command} (c child : Command) (done : asChild main c = .ok child) :
    child.help = c.help := by
  obtain ⟨tail, -, rfl⟩ := asChild_eq_ok done
  rfl

theorem asChild_alike {main main' c c' child : Command} (named : main'.fullName = main.fullName)
    (alike : c'.unplaced = c.unplaced) (done : asChild main c = .ok child) :
    ∃ child', asChild main' c' = .ok child' ∧ child'.unplaced = child.unplaced := by
  obtain ⟨line, rfl⟩ := Command.unplaced_eq_iff.mp alike
  unfold asChild at done ⊢
  rw [named]
  extract_lets front at done ⊢
  split at done
  · cases done
    exact ⟨_, if_pos ‹_›, rfl⟩
  · cases done

theorem mapM_asChild_alike {main main' : Command} {others others' children : List Command}
    (named : main'.fullName = main.fullName)
    (alike : others'.map Command.unplaced = others.map Command.unplaced)
    (done : others.mapM (asChild main) = .ok children) :
    ∃ children', others'.mapM (asChild main') = .ok children' ∧
      children'.map Command.unplaced = children.map Command.unplaced := by
  induction others generalizing others' children with
  | nil =>
    cases done
    rw [List.map_eq_nil_iff.mp alike]
    exact ⟨[], rfl, rfl⟩
  | cons c others ih =>
    obtain ⟨child, later, first, rest, rfl⟩ := mapM_cons_eq_ok done
    obtain ⟨c', others', rfl, front, back⟩ := List.map_eq_cons_iff.mp alike
    obtain ⟨child', made, same⟩ := asChild_alike named front first
    obtain ⟨later', mapped, sames⟩ := ih back rest
    refine ⟨child' :: later', ?_, by rw [List.map_cons, List.map_cons, same, sames]⟩
    rw [List.mapM_cons, made, mapped]
    rfl

theorem organize_main_first {main : Command} {others children : List Command}
    (single : main.words.length = 1) (done : others.mapM (asChild main) = .ok children) :
    organize (main :: others) = .ok ⟨main, children⟩ := by
  cases others with
  | nil => cases done; rfl
  | cons second others =>
    simp only [organize, splitMain, if_pos single, done]
    rfl

end Model

/-- The help texts of a grammar declare it again: as many commands in the same order, each the same. -/
theorem parse_helps {text : String} {m : Model} (parsed : Model.parse text = .ok m) :
    ∃ again, Model.parse m.helps = .ok again ∧
      List.Forall₂ (fun c d => c.same d = true) again.commands m.commands ∧
      again.main.same m.main = true := by
  obtain ⟨commands, built, organized⟩ := bind_eq_ok.mp parsed
  obtain ⟨others, order, family⟩ := organize_eq_ok organized
  have helps : m.commands.map Command.help = (m.main :: others).map Command.help := by
    rw [Model.commands, List.map_cons, List.map_cons]
    rcases family with ⟨rfl, alone⟩ | ⟨-, mapped⟩
    · rw [alone]
    · rw [map_of_mapM Model.help_of_asChild mapped]
  have pages : ∀ c ∈ m.main :: others, ∃ lines, c.IsOn lines :=
    fun c member => build_isOn built c (order.mem_iff.mpr member)
  have distinct : ((m.main :: others).map Command.fullName).Nodup :=
    (order.map Command.fullName).nodup_iff.mp (build_names built)
  obtain ⟨lines, again, -, whole, joined, built', alike⟩ := exists_lines_of_isOn (by simp) pages distinct
  obtain ⟨main, others', rfl, first, later⟩ := List.map_eq_cons_iff.mp alike
  -- The main command comes first now, so it is the first of one word, if there are others at all.
  have organized' : ∃ m', Model.organize (main :: others') = .ok m' ∧
      m'.commands.map Command.unplaced = m.commands.map Command.unplaced := by
    obtain ⟨line, rfl⟩ := Command.unplaced_eq_iff.mp first
    rcases family with ⟨rfl, alone⟩ | ⟨single, mapped⟩
    · rw [List.map_eq_nil_iff.mp later]
      exact ⟨_, rfl, by simp [Model.commands, alone, first]⟩
    · obtain ⟨children, mapped', same⟩ := Model.mapM_asChild_alike rfl later mapped
      exact ⟨_, Model.organize_main_first single mapped', by simp [Model.commands, first, same]⟩
  obtain ⟨m', organized', same⟩ := organized'
  have sames := Command.forall_same (parse_legal parsed).commands same
  refine ⟨m', ?_, sames, (List.forall₂_cons.mp sames).1⟩
  rw [Model.parse, Model.helps, helps, joined, build_join whole, built']
  exact organized'

/-- Lines that declare the sub-command in front of the main command. -/
def Model.listFirstLines : List String :=
  ["", "Lists an archive.", "", "usage: pack list <archive>", "  --all  everything", "", "#", "",
    "usage: pack <file>...", "", "  -q, --quiet  silence", ""]

def Model.listFirst : Model where
  main :=
    { words := ["pack"]
      name := "pack"
      help := "usage: pack <file>...\n\n  -q, --quiet  silence"
      slots := [⟨"file", true, true⟩]
      flags := [("q", ⟨.switch, "quiet"⟩), ("quiet", ⟨.switch, "quiet"⟩)]
      line := some 9 }
  children :=
    [{ words := ["pack", "list"]
       name := "list"
       help := "Lists an archive.\n\nusage: pack list <archive>\n  --all  everything"
       slots := [⟨"archive", true, false⟩]
       flags := [("all", ⟨.switch, "all"⟩)]
       line := some 4 }]

theorem parse_helps_listFirst :
    Model.parse ("\n".intercalate Model.listFirstLines) = .ok Model.listFirst ∧
      ∃ again, Model.parse Model.listFirst.helps = .ok again ∧
        List.Forall₂ (fun c d => c.same d = true) again.commands Model.listFirst.commands ∧
        again.main.same Model.listFirst.main = true := by
  have whole : ∀ text ∈ Model.listFirstLines, Text.IsOneLine text.toList := by decide +kernel
  have parsed : Model.parse ("\n".intercalate Model.listFirstLines) = .ok Model.listFirst := by
    rw [Model.parse, build_join whole]
    decide +kernel
  exact ⟨parsed, parse_helps parsed⟩

end UsageGrammar
