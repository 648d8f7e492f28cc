import UsageGrammar.Declaration
import UsageGrammar.Proofs.HelpText.Separation

/-! Faults of a help text are found at one line. The lines in front of it are accepted, whatever follows it
is not looked at, and nothing that any line declares could not be made. -/

set_option autoImplicit false

namespace UsageGrammar

/-- The faults that a line can have, with its number. -/
inductive DefinitionError.IsAt (n : Nat) : DefinitionError → Prop where
  | duplicateCommand (name : String) : IsAt n ⟨.duplicateCommand name, some n⟩
  | duplicateOption (name : String) : IsAt n ⟨.duplicateOption name, some n⟩
  | duplicateArgument (name : String) : IsAt n ⟨.duplicateArgument name, some n⟩
  | usageLineMissing : IsAt n ⟨.usageLineMissing, some n⟩

/-- What the line declares can be made from plain values: no name, no key and no command is empty. -/
def HelpLine.IsMakeable : HelpLine → Prop
  | .usage words remainder =>
    (∀ name help slots flags line, ∃ c, Command.ofParts words name help slots flags line = .ok c) ∧
      ∀ s ∈ Slot.scan remainder, Slot.ofDatum (.text s.name) s.required s.variadic = .ok s
  | .flags _ target => Target.ofDatum target.kind (.text target.key) = .ok target
  | _ => True

theorem Command.exists_ofParts {words : List String} (nonempty : words ≠ []) (name : Option String)
    (help : String) (slots : List Slot) (flags : Table Target) (line : Option Int) :
    ∃ c, ofParts words name help slots flags line = .ok c := by
  have worded : ¬words.isEmpty = true := by simpa using nonempty
  exact ⟨_, by rw [ofParts, of?, if_neg worded]⟩

theorem Slot.ofDatum_of_isName {s : Slot} (named : isName s.name.toList = true) :
    ofDatum (.text s.name) s.required s.variadic = .ok s := by
  have filled : s.name ≠ "" := by
    intro empty
    rw [empty] at named
    cases named
  simp [ofDatum]

theorem Target.ofDatum_of_legal {target : Target} (legal : HelpLine.LegalTarget target) :
    ofDatum target.kind (.text target.key) = .ok target := by
  have filled : target.key ≠ "" := by
    obtain ⟨kind, key⟩ := target
    rintro rfl
    cases kind <;> cases legal
  simp [ofDatum, filled]

theorem HelpLine.isMakeable (text : String) : (read text).IsMakeable := by
  cases line : read text with
  | usage words remainder =>
    exact ⟨Command.exists_ofParts (words_of_read line).1,
      fun s member => Slot.ofDatum_of_isName (Slot.isName_of_mem_scanFrom s member)⟩
  | flags names target => exact Target.ofDatum_of_legal (declares_of_read line).2.2
  | separator => trivial
  | prose => trivial

theorem Draft.refusal_of_declareSlots {d : Draft} {line : Option Int} {slots : List Slot} {e : DefinitionError}
    (failed : d.declareSlots line slots = .error e) : ∃ name, e = ⟨.duplicateArgument name, line⟩ := by
  induction slots generalizing d with
  | nil => cases failed
  | cons s rest ih =>
    unfold declareSlots at failed
    split at failed
    · next refused =>
      cases failed
      unfold declareSlot at refused
      split at refused <;> cases refused
      exact ⟨s.name, rfl⟩
    · exact ih failed

theorem Draft.refusal_of_declareFlags {d r : Draft} {names : List String} {target : Target} {line : Option Int}
    {e : DefinitionError} (refused : d.declareFlags names target line = ⟨r, some e⟩) :
    ∃ name, e = ⟨.duplicateOption name, line⟩ ∨ e = ⟨.duplicateArgument name, line⟩ := by
  unfold declareFlags at refused
  split at refused
  · cases refused
    exact ⟨target.key, .inr rfl⟩
  · exact refusal_of_registerSpellings (congrArg Declared.refusal refused)

namespace Reading

theorem error_of_step {r : Reading} {n : Nat} {text : String} {e : DefinitionError}
    (failed : r.step n text = .error e) : e.IsAt n := by
  unfold step at failed
  extract_lets place at failed
  -- A usage line is refused for its name or for a slot, a line of flags for the place or for a spelling.
  cases line : HelpLine.read text with
  | separator => rw [line] at failed; cases failed
  | prose => rw [line] at failed; cases failed
  | usage words remainder =>
    simp only [line] at failed
    split at failed
    · cases failed
      exact .duplicateCommand _
    · cases declared : Draft.declareSlots ⟨words, r.heading, place, [], []⟩ place (Slot.scan remainder) with
      | ok d => rw [declared] at failed; cases failed
      | error other =>
        rw [declared] at failed
        cases failed
        obtain ⟨name, rfl⟩ := Draft.refusal_of_declareSlots declared
        exact .duplicateArgument name
  | flags names target =>
    simp only [line] at failed
    split at failed
    · cases failed
      exact .usageLineMissing
    · split at failed
      · next refused =>
        cases failed
        obtain ⟨name, rfl | rfl⟩ := Draft.refusal_of_declareFlags refused
        · exact .duplicateOption name
        · exact .duplicateArgument name
      · cases failed

/-- A run fails at one line: those in front of it are read, and it is refused. -/
theorem error_of_run {r : Reading} {n : Nat} {lines : List String} {e : DefinitionError}
    (failed : r.run n lines = .error e) :
    ∃ front text back mid, lines = front ++ text :: back ∧ r.run n front = .ok mid ∧
      mid.step (n + front.length) text = .error e := by
  induction lines generalizing r n with
  | nil => cases failed
  | cons text rest ih =>
    cases stepped : r.step n text with
    | error other =>
      rw [run, stepped] at failed
      cases failed
      exact ⟨[], text, rest, r, rfl, rfl, stepped⟩
    | ok next =>
      rw [run, stepped] at failed
      obtain ⟨front, refused, back, mid, rfl, read, failing⟩ := ih failed
      have place : n + (front.length + 1) = n + 1 + front.length := by omega
      refine ⟨text :: front, refused, back, mid, rfl, ?_, ?_⟩
      · rw [run, stepped]
        exact read
      · rw [List.length_cons, place]
        exact failing

/-- What was refused stays so, whatever comes behind the refused line. -/
theorem run_refused {r mid : Reading} {n : Nat} {front : List String} {text : String} {e : DefinitionError}
    (read : r.run n front = .ok mid) (refused : mid.step (n + front.length) text = .error e)
    (other : List String) : r.run n (front ++ text :: other) = .error e := by
  rw [run_append, read]
  simp only [Except.bind, run, refused]
  rfl

theorem exists_of_run_append {r last : Reading} {n : Nat} {front back : List String}
    (ran : r.run n (front ++ back) = .ok last) : ∃ mid, r.run n front = .ok mid := by
  rw [run_append] at ran
  obtain ⟨mid, read, -⟩ := bind_eq_ok.mp ran
  exact ⟨mid, read⟩

end Reading

theorem buildLines_of_prefix {front lines : List String} (first : front <+: lines) {commands : List Command}
    (built : buildLines lines = .ok commands) : ∃ fewer, buildLines front = .ok fewer := by
  obtain ⟨back, rfl⟩ := first
  obtain ⟨last, ran, -⟩ := buildLines_eq_ok built
  obtain ⟨mid, read⟩ := Reading.exists_of_run_append ran
  exact exists_map_eq_ok.mpr ⟨mid, read⟩

theorem error_of_buildLines {lines : List String} {e : DefinitionError} (failed : buildLines lines = .error e) :
    ∃ front text back commands, lines = front ++ text :: back ∧ e.IsAt (front.length + 1) ∧
      buildLines front = .ok commands ∧ ∀ other, buildLines (front ++ text :: other) = .error e := by
  obtain ⟨front, text, back, mid, whole, read, refused⟩ := Reading.error_of_run (map_eq_error.mp failed)
  refine ⟨front, text, back, _, whole, ?_, map_eq_ok.mpr ⟨mid, read, rfl⟩, fun other => ?_⟩
  · rw [Nat.add_comm]
    exact Reading.error_of_step refused
  · exact map_eq_error.mpr (Reading.run_refused read refused other)

/-- A text is accepted, or it is refused at one of its lines: the lines in front of that line are accepted,
and every text that begins with these lines and that line is refused alike. -/
theorem build_localized (text : String) :
    ((∃ commands, build text = .ok commands) ∨
        ∃ e n, build text = .error e ∧ e.IsAt n ∧ 1 ≤ n ∧ n ≤ (Text.lines text).length ∧
          (∃ commands, build ("\n".intercalate ((Text.lines text).take (n - 1))) = .ok commands) ∧
          (∀ front, Text.lines front <+: (Text.lines text).take (n - 1) →
            ∃ commands, build front = .ok commands) ∧
          ∀ other, (Text.lines text).take n <+: Text.lines other → build other = .error e) ∧
      (∀ commands, build text = .ok commands →
        ∀ front, Text.lines front <+: Text.lines text → ∃ fewer, build front = .ok fewer) ∧
      ∀ line ∈ Text.lines text, (HelpLine.read line).IsMakeable := by
  refine ⟨?_, fun commands built front first => buildLines_of_prefix first built,
    fun line _ => HelpLine.isMakeable line⟩
  cases built : build text with
  | ok commands => exact .inl ⟨commands, rfl⟩
  | error e =>
    obtain ⟨front, line, back, commands, whole, located, accepted, refused⟩ := error_of_buildLines built
    have size : (Text.lines text).length = front.length + 1 + back.length := by simp [whole]; omega
    have before : (Text.lines text).take (front.length + 1 - 1) = front := by
      rw [whole, Nat.add_sub_cancel, List.take_left]
    have through : (Text.lines text).take (front.length + 1) = front ++ [line] := by
      rw [whole, List.take_length_add_append, List.take_succ_cons, List.take_zero]
    have unbroken : ∀ earlier ∈ front, Text.IsOneLine earlier.toList := by
      intro earlier member
      apply Text.isOneLine_of_mem_lines (s := text)
      rw [whole]
      exact List.mem_append_left _ member
    refine .inr ⟨e, front.length + 1, rfl, located, by omega, by omega, ?_, ?_, ?_⟩
    · rw [before, build_join unbroken]
      exact ⟨commands, accepted⟩
    · intro earlier first
      rw [before] at first
      exact buildLines_of_prefix first accepted
    · rintro other ⟨rest, same⟩
      rw [through, List.append_assoc, List.singleton_append] at same
      rw [build, ← same]
      exact refused rest

end UsageGrammar
