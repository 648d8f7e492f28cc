import UsageGrammar.Binding
import UsageGrammar.Proofs.Outcome
import UsageGrammar.Proofs.Table

/-! The reading of a command line, token by token. Every form of a token keeps the values typed: they
stand under keys of flags and are of the kinds of these. -/

set_option autoImplicit false

namespace UsageGrammar

/-- The values that a flag may have. -/
def Target.Admits (t : Target) : Bound → Prop
  | .text _ => t.kind = .option
  | .flag _ => t.kind = .switch
  | .texts _ => False

namespace Binding

theorem admits_inlineValue (target : Target) (value : String) :
    target.Admits (inlineValue target value) := by
  unfold inlineValue
  split
  · next kind => exact kind
  · next kind => exact kind

/-- The values bind keys of flags, each key once and to a value of its kind. -/
structure Typed (c : Command) (values : Table Bound) : Prop where
  distinct : values.names.Nodup
  admitted : ∀ entry ∈ values, ∃ t ∈ c.flags.values, t.key = entry.1 ∧ t.Admits entry.2

/-- A value is awaited by an option only. -/
def Phase.Sound (c : Command) : Phase → Prop
  | .awaiting key _ _ => ⟨.option, key⟩ ∈ c.flags.values
  | _ => True

structure Scan.Sound (c : Command) (s : Scan) : Prop where
  values : Typed c s.values
  phase : s.phase.Sound c

variable {c : Command}

theorem Typed.empty (c : Command) : Typed c [] := by
  constructor <;> simp [Table.names]

theorem Typed.put {values : Table Bound} (typed : Typed c values) {target : Target}
    (declared : target ∈ c.flags.values) {value : Bound} (admits : target.Admits value) :
    Typed c (values.put target.key value) := by
  refine ⟨Table.nodup_put typed.distinct target.key value, fun entry member => ?_⟩
  rcases Table.mem_put member with rfl | member
  · exact ⟨target, declared, rfl, admits⟩
  · exact typed.admitted entry member

theorem Typed.key_of_mem {values : Table Bound} (typed : Typed c values) {name : String}
    (member : name ∈ values.names) : ∃ t ∈ c.flags.values, t.key = name := by
  obtain ⟨entry, found, rfl⟩ := List.mem_map.mp member
  obtain ⟨t, declared, same, -⟩ := typed.admitted entry found
  exact ⟨t, declared, same⟩

theorem declared_of_value? {name : String} {target : Target}
    (found : c.flags.value? name = some target) : target ∈ c.flags.values :=
  Table.mem_values (Table.mem_of_value? found)

theorem meet_sound {values after : Table Bound} {dashes name : String} {letters : List Char}
    {phase : Phase} (typed : Typed c values)
    (met : meet c values dashes name letters = .ok (after, phase)) : Typed c after ∧ phase.Sound c := by
  unfold meet at met
  split at met
  · cases met
  · next key found =>
    cases met
    exact ⟨typed.put (declared_of_value? found) rfl, trivial⟩
  · next key found =>
    cases met
    exact ⟨typed, declared_of_value? found⟩

theorem meetLetters_cons (values : Table Bound) (letter : Char) (letters : List Char) :
    meetLetters c values (letter :: letters) =
      match meet c values "-" (String.singleton letter) letters with
      | .error e => .error e
      | .ok (values, .ready) => meetLetters c values letters
      | .ok waiting => .ok waiting := by
  rw [meetLetters]
  cases meet c values "-" (String.singleton letter) letters with
  | error e => rfl
  | ok next =>
    obtain ⟨values, phase⟩ := next
    cases phase <;> rfl

theorem meetLetters_sound {values after : Table Bound} {letters : List Char} {phase : Phase}
    (typed : Typed c values) (met : meetLetters c values letters = .ok (after, phase)) :
    Typed c after ∧ phase.Sound c := by
  induction letters generalizing values with
  | nil => cases met; exact ⟨typed, trivial⟩
  | cons letter letters ih =>
    rw [meetLetters_cons] at met
    split at met
    · cases met
    · next values first => exact ih (meet_sound typed first).1 met
    · next waiting _ first =>
      cases met
      exact meet_sound typed first

theorem readToken_sound {s next : Scan} {token : String} (sound : s.Sound c)
    (read : readToken c s token = .ok next) : next.Sound c := by
  unfold readToken at read
  split at read
  · cases read
    exact ⟨sound.values, trivial⟩
  · next name form =>
    obtain ⟨_, met, rfl⟩ := map_eq_ok.mp read
    obtain ⟨values, phase⟩ := meet_sound sound.values met
    exact ⟨values, phase⟩
  · next dashes name value form =>
    split at read
    · cases read
    · next target found =>
      cases read
      exact ⟨sound.values.put (declared_of_value? found) (admits_inlineValue target value), sound.phase⟩
  · next letters form =>
    obtain ⟨_, met, rfl⟩ := map_eq_ok.mp read
    obtain ⟨values, phase⟩ := meetLetters_sound sound.values met
    exact ⟨values, phase⟩
  · cases read
    exact ⟨sound.values, sound.phase⟩

theorem step_sound {s next : Scan} {token : String} (sound : s.Sound c)
    (stepped : step c s token = .ok next) : next.Sound c := by
  unfold step at stepped
  split at stepped
  · cases stepped
    exact ⟨sound.values, sound.phase⟩
  · next key spelling letters phase =>
    split at stepped
    · cases stepped
    -- The key was checked when the option was met, which the phase remembers.
    · have declared : ⟨.option, key⟩ ∈ c.flags.values := by
        have waits := sound.phase
        rwa [phase] at waits
      have typed := sound.values.put declared (show Target.Admits _ (.text token) from rfl)
      obtain ⟨_, met, rfl⟩ := map_eq_ok.mp stepped
      obtain ⟨values, phase⟩ := meetLetters_sound typed met
      exact ⟨values, phase⟩
  · exact readToken_sound sound stepped

theorem scanFrom_sound {s last : Scan} {tokens : List String} (sound : s.Sound c)
    (ran : scanFrom c s tokens = .ok last) : last.Sound c := by
  induction tokens generalizing s with
  | nil => cases ran; exact sound
  | cons token rest ih =>
    obtain ⟨next, stepped, rest⟩ := bind_eq_ok.mp ran
    exact ih (step_sound sound stepped) rest

theorem scanFrom_append (s : Scan) (first second : List String) :
    scanFrom c s (first ++ second) = scanFrom c s first >>= fun s => scanFrom c s second := by
  induction first generalizing s with
  | nil => rfl
  | cons token rest ih =>
    simp only [List.cons_append, scanFrom]
    cases step c s token with
    | error e => rfl
    | ok next => exact ih next

def Scan.finish (s : Scan) : Except Complaint (Table Bound × List String) :=
  match s.phase with
  | .awaiting key spelling _ => .error (.optionArgumentMissing key spelling)
  | _ => .ok (s.values, s.positionals)

theorem scan_eq (c : Command) (tokens : List String) :
    scan c tokens = scanFrom c .start tokens >>= Scan.finish := by
  unfold scan
  cases scanFrom c .start tokens with
  | error e => rfl
  | ok last =>
    obtain ⟨values, positionals, phase⟩ := last
    cases phase <;> rfl

theorem scan_typed {tokens positionals : List String} {values : Table Bound}
    (scanned : scan c tokens = .ok (values, positionals)) : Typed c values := by
  rw [scan_eq] at scanned
  obtain ⟨last, ran, finished⟩ := bind_eq_ok.mp scanned
  have started : Scan.start.Sound c := ⟨Typed.empty c, trivial⟩
  have sound := scanFrom_sound started ran
  unfold Scan.finish at finished
  split at finished
  · cases finished
  · cases finished
    exact sound.values

end Binding

end UsageGrammar
