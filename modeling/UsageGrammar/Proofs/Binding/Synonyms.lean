import UsageGrammar.Proofs.Binding.Groups
import UsageGrammar.Proofs.Binding.Result
import UsageGrammar.Proofs.Model

/-! The ways to write a flag on a command line. Groups of flags that bind the same entries can stand
for each other wherever flags are read, and every form and every spelling of a flag is such a group. -/

set_option autoImplicit false

namespace UsageGrammar

namespace Binding

/-- The tokens that give a value to an option under one of its spellings. -/
inductive Gives (name value : String) : List String → Prop
  | inline {dashes mark : String} : dashes = "-" ∨ dashes = "--" → mark = ":" ∨ mark = "=" →
      Gives name value [dashes ++ name ++ mark ++ value]
  | long : IsValue value → Gives name value ["--" ++ name, value]
  | short : name.length = 1 → IsValue value → Gives name value ["-" ++ name, value]

/-- The tokens that switch a switch on under one of its spellings. -/
inductive SwitchesOn (name : String) : List String → Prop
  | inline {dashes mark value : String} : dashes = "-" ∨ dashes = "--" → mark = ":" ∨ mark = "=" →
      value ∈ truthy → SwitchesOn name [dashes ++ name ++ mark ++ value]
  | long : SwitchesOn name ["--" ++ name]
  | short : name.length = 1 → SwitchesOn name ["-" ++ name]

variable {c : Command}

theorem exists_letter {name : String} (single : name.length = 1) :
    ∃ letter, name = String.singleton letter ∧ "-" ++ name = "-" ++ String.ofList [letter] := by
  have one : name.toList.length = 1 := by rw [String.length_toList]; exact single
  obtain ⟨letter, chars⟩ := List.length_eq_one_iff.mp one
  have same : name = String.singleton letter := by
    rw [← String.toList_inj, chars, String.toList_singleton]
  exact ⟨letter, same, by rw [same]; rfl⟩

theorem completes_of_gives {name value key : String} {tokens : List String}
    (declared : c.flags.value? name = some ⟨.option, key⟩) (gives : Gives name value tokens) :
    Completes c tokens [(key, .text value)] := by
  cases gives with
  | inline dashed marked => exact .inline dashed marked declared
  | long isValue => exact .option declared isValue
  | short single isValue =>
    obtain ⟨letter, rfl, spelled⟩ := exists_letter single
    rw [spelled]
    exact .cluster (by simp) (.option declared isValue .nil)

theorem completes_of_switchesOn {name key : String} {tokens : List String}
    (declared : c.flags.value? name = some ⟨.switch, key⟩) (on : SwitchesOn name tokens) :
    Completes c tokens [(key, .flag true)] := by
  cases on with
  | @inline dashes mark value dashed marked isTrue =>
    have switched : inlineValue ⟨.switch, key⟩ value = .flag true :=
      congrArg Bound.flag (List.contains_iff_mem.mpr isTrue)
    rw [← switched]
    exact .inline dashed marked declared
  | long => exact .switch declared
  | short single =>
    obtain ⟨letter, rfl, spelled⟩ := exists_letter single
    rw [spelled]
    exact .cluster (by simp) (.switch declared .nil)

theorem Completes.exists_first {tokens : List String} {writes : Table Bound}
    (complete : Completes c tokens writes) : ∃ token rest, tokens = token :: rest ∧ ¬IsValue token := by
  cases complete with
  | inline dashed _ _ =>
    refine ⟨_, _, rfl, ?_⟩
    rcases dashed with rfl | rfl <;> simp [IsValue]
  | switch _ => exact ⟨_, _, rfl, by simp [IsValue]⟩
  | option _ _ => exact ⟨_, _, rfl, by simp [IsValue]⟩
  | cluster _ _ => exact ⟨_, _, rfl, by simp [IsValue]⟩

/-- Groups that bind the same entries have the same effect wherever flags are read. -/
theorem scanFrom_exchange (legal : c.Legal) {first second : List String} {writes : Table Bound}
    (complete : Completes c first writes) (complete' : Completes c second writes) {s : Scan}
    (reads : s.phase ≠ .verbatim) : scanFrom c s first = scanFrom c s second := by
  cases phase : s.phase with
  | ready =>
    have read := scanFrom_group legal ⟨first, writes, complete⟩ phase
    exact read.trans (scanFrom_group legal ⟨second, writes, complete'⟩ phase).symm
  | verbatim => exact absurd phase reads
  | awaiting key spelling letters =>
    have refused {tokens : List String} (complete : Completes c tokens writes) :
        scanFrom c s tokens = .error (.optionArgumentMissing key spelling) := by
      obtain ⟨token, rest, rfl, dashed⟩ := complete.exists_first
      exact scanFrom_refused phase dashed rest
    rw [refused complete, refused complete']

theorem reads_of_meet {values : Table Bound} {dashes name : String} {letters : List Char}
    {next : Table Bound × Phase} (met : meet c values dashes name letters = .ok next) :
    next.2 ≠ .verbatim := by
  unfold meet at met
  split at met <;> cases met <;> simp

theorem reads_of_meetLetters {values : Table Bound} {letters : List Char} {next : Table Bound × Phase}
    (met : meetLetters c values letters = .ok next) : next.2 ≠ .verbatim := by
  induction letters generalizing values with
  | nil => cases met; simp
  | cons letter letters ih =>
    rw [meetLetters_cons] at met
    split at met
    · cases met
    · exact ih met
    · next first =>
      cases met
      exact reads_of_meet first

theorem reads_of_step {s next : Scan} {token : String} (reads : s.phase ≠ .verbatim)
    (other : token ≠ "--") (stepped : step c s token = .ok next) : next.phase ≠ .verbatim := by
  unfold step at stepped
  split at stepped
  · next phase => exact absurd phase reads
  · split at stepped
    · cases stepped
    · obtain ⟨_, met, rfl⟩ := map_eq_ok.mp stepped
      exact reads_of_meetLetters met
  · unfold readToken at stepped
    split at stepped
    · next terminates =>
      cases Token.form_of_read terminates (by simp)
      exact absurd rfl other
    · obtain ⟨_, met, rfl⟩ := map_eq_ok.mp stepped
      exact reads_of_meet met
    · split at stepped
      · cases stepped
      · cases stepped
        exact reads
    · obtain ⟨_, met, rfl⟩ := map_eq_ok.mp stepped
      exact reads_of_meetLetters met
    · cases stepped
      exact reads

theorem reads_of_scanFrom {s last : Scan} {tokens : List String} (reads : s.phase ≠ .verbatim)
    (unterminated : "--" ∉ tokens) (ran : scanFrom c s tokens = .ok last) :
    last.phase ≠ .verbatim := by
  induction tokens generalizing s with
  | nil => cases ran; exact reads
  | cons token rest ih =>
    obtain ⟨next, stepped, rest⟩ := bind_eq_ok.mp ran
    rw [List.mem_cons, not_or] at unterminated
    exact ih (reads_of_step reads (Ne.symm unterminated.1) stepped) unterminated.2 rest

theorem bind_eq_of_scanFrom {first second : List String}
    (same : ∀ s : Scan, s.phase ≠ .verbatim → scanFrom c s first = scanFrom c s second) {front : List String}
    (unterminated : "--" ∉ front) (back : List String) :
    bind c (front ++ first ++ back) = bind c (front ++ second ++ back) := by
  have scanned : scanFrom c .start (front ++ first ++ back) =
      scanFrom c .start (front ++ second ++ back) := by
    rw [scanFrom_append, scanFrom_append, scanFrom_append, scanFrom_append]
    cases ran : scanFrom c .start front with
    | error e => rfl
    | ok s =>
      have reads := reads_of_scanFrom (by simp [Scan.start]) unterminated ran
      exact congrArg (· >>= fun s => scanFrom c s back) (same s reads)
  rw [bind_eq, bind_eq, scan_eq, scan_eq, scanned]

theorem bind_exchange (legal : c.Legal) {first second : List String} {writes : Table Bound}
    (complete : Completes c first writes) (complete' : Completes c second writes) {front : List String}
    (unterminated : "--" ∉ front) (back : List String) :
    bind c (front ++ first ++ back) = bind c (front ++ second ++ back) :=
  bind_eq_of_scanFrom (fun _ => scanFrom_exchange legal complete complete') unterminated back

/-- A token that is met as a flag of the command wherever flags are read: it is neither unknown nor
positional, and it is refused only in the place of a value. -/
def IsFlagOf (c : Command) (token : String) : Prop :=
  ∀ front s, "--" ∉ front → scanFrom c .start front = .ok s →
    (∃ key spelling letters, s.phase = .awaiting key spelling letters ∧
      step c s token = .error (.optionArgumentMissing key spelling)) ∨
    ∃ next, s.phase = .ready ∧ step c s token = .ok next ∧ next.positionals = s.positionals

theorem readToken_spell {name : String} (named : Flag.isName name.toList = true) (s : Scan) :
    ∃ dashes, readToken c s (Flag.spell name) = (meet c s.values dashes name []).map s.advance := by
  unfold Flag.spell
  split
  · next single =>
    obtain ⟨letter, rfl, spelled⟩ := exists_letter single
    have all : ∀ c ∈ [letter], Text.isAlphanumeric c = true := by
      simpa [Flag.isName] using named
    refine ⟨"-", ?_⟩
    rw [spelled, readToken_cluster (by simp) all, meetLetters_cons]
    split <;> simp_all [meetLetters]
  · exact ⟨"--", readToken_long named s⟩

theorem isFlagOf_spell (legal : c.Legal) {name : String} {target : Target}
    (declared : c.flags.value? name = some target) : IsFlagOf c (Flag.spell name) := by
  intro front s unterminated ran
  cases phase : s.phase with
  | verbatim => exact absurd phase (reads_of_scanFrom (by simp [Scan.start]) unterminated ran)
  | awaiting key spelling letters =>
    have dashed : (Flag.spell name).toList.head? = some '-' := by
      unfold Flag.spell
      split <;> simp
    refine .inl ⟨key, spelling, letters, rfl, ?_⟩
    simp only [step, phase, if_pos dashed]
  | ready =>
    obtain ⟨dashes, read⟩ := readToken_spell (c := c) (isName_of_value? legal declared) s
    obtain ⟨kind, key⟩ := target
    refine .inr ?_
    simp only [step, phase, read, meet, declared]
    cases kind with
    | switch => exact ⟨_, trivial, rfl, rfl⟩
    | option => exact ⟨_, trivial, rfl, rfl⟩

end Binding

open Binding

/-- All forms and all spellings of a flag are equivalent, in front of a terminator, whatever stands
around them; and the spelling that is shown for a flag is always met as a flag. -/
theorem bind_synonymous {text : String} {commands : List Command} {c : Command}
    (built : build text = .ok commands) (member : c ∈ commands) {target : Target}
    {name other : String} (declared : c.flags.value? name = some target)
    (synonym : c.flags.value? other = some target) {front : List String}
    (unterminated : "--" ∉ front) (back : List String) :
    (target.kind = .option → ∀ value given given', Gives name value given → Gives other value given' →
      bind c (front ++ given ++ back) = bind c (front ++ given' ++ back)) ∧
    (target.kind = .switch → ∀ given given', SwitchesOn name given → SwitchesOn other given' →
      bind c (front ++ given ++ back) = bind c (front ++ given' ++ back)) ∧
    IsFlagOf c (Flag.spell name) := by
  have legal := (build_legal built c member).1
  obtain ⟨kind, key⟩ := target
  refine ⟨?_, ?_, isFlagOf_spell legal declared⟩
  · rintro rfl value given given' gives gives'
    exact bind_exchange legal (completes_of_gives declared gives) (completes_of_gives synonym gives')
      unterminated back
  · rintro rfl given given' on on'
    exact bind_exchange legal (completes_of_switchesOn declared on) (completes_of_switchesOn synonym on')
      unterminated back

theorem bind_synonymous_pack :
    bind Model.packMain (["-q", "x"] ++ ["-o", "a:b"] ++ ["--out"]) =
        bind Model.packMain (["-q", "x"] ++ ["--out=a:b"] ++ ["--out"]) ∧
      bind Model.packMain ([] ++ ["-q"] ++ ["x"]) = bind Model.packMain ([] ++ ["-quiet:yes"] ++ ["x"]) ∧
      IsFlagOf Model.packMain "-o" := by
  have main : Model.packMain ∈ [Model.packMain, Model.packList] := List.mem_cons_self
  have option (name : String) (among : name ∈ ["o", "out"]) :
      Model.packMain.flags.value? name = some ⟨.option, "dir"⟩ := by
    revert name
    decide
  have switch (name : String) (among : name ∈ ["q", "quiet"]) :
      Model.packMain.flags.value? name = some ⟨.switch, "quiet"⟩ := by
    revert name
    decide
  have front : "--" ∉ ["-q", "x"] := by decide
  obtain ⟨options, -, spelled⟩ := bind_synonymous Model.build_packText main (option "o" (by decide))
    (option "out" (by decide)) front ["--out"]
  obtain ⟨-, switches, -⟩ := bind_synonymous Model.build_packText main (switch "q" (by decide))
    (switch "quiet" (by decide)) List.not_mem_nil ["x"]
  have isValue : IsValue "a:b" := by unfold IsValue; decide
  have long : Gives "out" "a:b" ["--" ++ "out" ++ "=" ++ "a:b"] := .inline (.inr rfl) (.inr rfl)
  have inline : SwitchesOn "quiet" ["-" ++ "quiet" ++ ":" ++ "yes"] :=
    .inline (.inl rfl) (.inl rfl) (by decide)
  exact ⟨options rfl "a:b" ["-o", "a:b"] _ (.short (by decide) isValue) long,
    switches rfl ["-q"] _ (.short (by decide)) inline, spelled⟩

end UsageGrammar
