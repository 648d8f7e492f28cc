import UsageGrammar.Proofs.Binding.Scan
import UsageGrammar.Proofs.HelpText.Reading
import UsageGrammar.Proofs.Token

/-! Complete groups of flags: flags that stand with all values they take. Reading one has the same
effect wherever it stands, which is to put the values that the group binds. -/

set_option autoImplicit false

namespace UsageGrammar.Binding

def IsValue (token : String) : Prop :=
  token.toList.head? ≠ some '-'

/-- The letters of a cluster take values, one for each option, and bind the entries `writes`. -/
inductive Takes (c : Command) : List Char → List String → Table Bound → Prop
  | nil : Takes c [] [] []
  | switch {letter : Char} {letters : List Char} {key : String} {values : List String}
      {writes : Table Bound} : c.flags.value? (String.singleton letter) = some ⟨.switch, key⟩ →
      Takes c letters values writes → Takes c (letter :: letters) values ((key, .flag true) :: writes)
  | option {letter : Char} {letters : List Char} {key value : String} {values : List String}
      {writes : Table Bound} : c.flags.value? (String.singleton letter) = some ⟨.option, key⟩ →
      IsValue value → Takes c letters values writes →
      Takes c (letter :: letters) (value :: values) ((key, .text value) :: writes)

/-- Tokens that are one complete group of flags, and the entries that the group binds. -/
inductive Completes (c : Command) : List String → Table Bound → Prop
  | inline {dashes name mark value : String} {target : Target} :
      dashes = "-" ∨ dashes = "--" → mark = ":" ∨ mark = "=" →
      c.flags.value? name = some target →
      Completes c [dashes ++ name ++ mark ++ value] [(target.key, inlineValue target value)]
  | switch {name key : String} : c.flags.value? name = some ⟨.switch, key⟩ →
      Completes c ["--" ++ name] [(key, .flag true)]
  | option {name key value : String} : c.flags.value? name = some ⟨.option, key⟩ → IsValue value →
      Completes c ["--" ++ name, value] [(key, .text value)]
  | cluster {letters : List Char} {values : List String} {writes : Table Bound} : letters ≠ [] →
      Takes c letters values writes → Completes c (("-" ++ String.ofList letters) :: values) writes

/-- A group of flags that is complete for a command. -/
structure FlagGroup (c : Command) where
  tokens : List String
  writes : Table Bound
  complete : Completes c tokens writes

variable {c : Command}

theorem isName_of_value? (legal : c.Legal) {name : String} {target : Target}
    (declared : c.flags.value? name = some target) : Flag.isName name.toList = true :=
  legal.spellings name (Table.mem_names (Table.mem_of_value? declared))

theorem step_value {value : String} (isValue : IsValue value) (s : Scan) (values : Table Bound)
    (key spelling : String) (letters : List Char) :
    step c (s.advance (values, .awaiting key spelling letters)) value =
      (meetLetters c (values.put key (.text value)) letters).map s.advance :=
  if_neg isValue

/-- An option that waits refuses a token that is no value, and complains about itself. -/
theorem scanFrom_refused {s : Scan} {key spelling : String} {letters : List Char}
    (waits : s.phase = .awaiting key spelling letters) {token : String} (dashed : ¬IsValue token)
    (rest : List String) : scanFrom c s (token :: rest) = .error (.optionArgumentMissing key spelling) := by
  have step : step c s token = .error (.optionArgumentMissing key spelling) := by
    simp only [step, waits, if_pos (Decidable.not_not.mp dashed)]
  rw [scanFrom, step]
  rfl

theorem meetLetters_switch {letter : Char} {key : String}
    (declared : c.flags.value? (String.singleton letter) = some ⟨.switch, key⟩) (values : Table Bound)
    (letters : List Char) :
    meetLetters c values (letter :: letters) = meetLetters c (values.put key (.flag true)) letters := by
  simp only [meetLetters_cons, meet, declared]

theorem meetLetters_option {letter : Char} {key : String}
    (declared : c.flags.value? (String.singleton letter) = some ⟨.option, key⟩) (values : Table Bound)
    (letters : List Char) :
    meetLetters c values (letter :: letters) =
      .ok (values, .awaiting key ("-" ++ String.singleton letter) letters) := by
  simp only [meetLetters_cons, meet, declared]

/-- The values that follow a cluster are taken by its letters in order. -/
theorem scanFrom_takes {letters : List Char} {tokens : List String} {writes : Table Bound}
    (takes : Takes c letters tokens writes) (s : Scan) (values : Table Bound) :
    ((meetLetters c values letters).map s.advance >>= fun s => scanFrom c s tokens) =
      .ok (s.advance (values.putAll writes, .ready)) := by
  induction takes generalizing s values with
  | nil => rfl
  | @switch letter letters key tokens writes declared takes ih =>
    rw [meetLetters_switch declared]
    exact ih s (values.put key (.flag true))
  | @option letter letters key value tokens writes declared isValue takes ih =>
    -- The scan stops at the option; its value is read next and the other letters go on from there.
    have taken := step_value (c := c) isValue s values key ("-" ++ String.singleton letter) letters
    have rest := ih s (values.put key (.text value))
    rw [meetLetters_option declared]
    rw [← taken] at rest
    exact rest

theorem readToken_long {name : String} (named : Flag.isName name.toList = true) (s : Scan) :
    readToken c s ("--" ++ name) = (meet c s.values "--" name []).map s.advance := by
  simp only [readToken, Token.read_of_form (.long named)]

theorem readToken_inline {dashes name mark : String} {target : Target}
    (dashed : dashes = "-" ∨ dashes = "--") (marked : mark = ":" ∨ mark = "=")
    (named : Flag.isName name.toList = true) (declared : c.flags.value? name = some target)
    (value : String) (s : Scan) :
    readToken c s (dashes ++ name ++ mark ++ value) =
      .ok { s with values := s.values.put target.key (inlineValue target value) } := by
  simp only [readToken, Token.read_of_form (.inline dashed named marked), declared]

theorem isAlphanumeric_of_value? (legal : c.Legal) {letter : Char} {target : Target}
    (declared : c.flags.value? (String.singleton letter) = some target) :
    Text.isAlphanumeric letter = true := by
  simpa [Flag.isName] using isName_of_value? legal declared

theorem isAlphanumeric_of_takes (legal : c.Legal) {letters : List Char} {values : List String}
    {writes : Table Bound} (takes : Takes c letters values writes) :
    ∀ letter ∈ letters, Text.isAlphanumeric letter = true := by
  induction takes with
  | nil => simp
  | switch declared _ ih => exact List.forall_mem_cons.mpr ⟨isAlphanumeric_of_value? legal declared, ih⟩
  | option declared _ _ ih => exact List.forall_mem_cons.mpr ⟨isAlphanumeric_of_value? legal declared, ih⟩

theorem readToken_cluster {letters : List Char} (nonempty : letters ≠ [])
    (all : ∀ letter ∈ letters, Text.isAlphanumeric letter = true) (s : Scan) :
    readToken c s ("-" ++ String.ofList letters) = (meetLetters c s.values letters).map s.advance := by
  simp only [readToken, Token.read_of_form (.cluster nonempty all)]

/-- A complete group only puts the entries that it binds. -/
theorem scanFrom_group (legal : c.Legal) (group : FlagGroup c) {s : Scan} (ready : s.phase = .ready) :
    scanFrom c s group.tokens = .ok { s with values := s.values.putAll group.writes } := by
  obtain ⟨values, positionals, phase⟩ := s
  obtain rfl : phase = .ready := ready
  obtain ⟨tokens, writes, complete⟩ := group
  cases complete with
  | @inline dashes name mark value target dashed marked declared =>
    have read := readToken_inline dashed marked (isName_of_value? legal declared) declared value
      ⟨values, positionals, .ready⟩
    simp only [scanFrom, step, read]
    rfl
  | @switch name key declared =>
    have read := readToken_long (c := c) (isName_of_value? legal declared) ⟨values, positionals, .ready⟩
    simp only [meet, declared] at read
    simp only [scanFrom, step, read]
    rfl
  | @option name key value declared isValue =>
    have read := readToken_long (c := c) (isName_of_value? legal declared) ⟨values, positionals, .ready⟩
    simp only [meet, declared] at read
    have taken := step_value (c := c) isValue ⟨values, positionals, .ready⟩ values key ("--" ++ name) []
    have first : scanFrom c ⟨values, positionals, .ready⟩ ["--" ++ name, value] =
        step c (Scan.advance ⟨values, positionals, .ready⟩ (values, .awaiting key ("--" ++ name) []))
          value >>= .ok := by
      simp only [scanFrom, step, read]
      rfl
    rw [first, taken]
    rfl
  | @cluster letters tokens writes nonempty takes =>
    have read := readToken_cluster (c := c) nonempty (isAlphanumeric_of_takes legal takes)
      ⟨values, positionals, .ready⟩
    simp only [scanFrom, step, read]
    exact scanFrom_takes takes ⟨values, positionals, .ready⟩ values

end UsageGrammar.Binding
