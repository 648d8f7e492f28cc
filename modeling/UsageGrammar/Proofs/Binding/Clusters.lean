import UsageGrammar.Proofs.Binding.Refusals
import UsageGrammar.Proofs.Binding.Synonyms

/-! A cluster is read like its letters one after the other, each option with its own value behind it.
Where the values do not go round, the first option without one complains. -/

set_option autoImplicit false

namespace UsageGrammar

namespace Binding

def isOptionLetter (c : Command) (letter : Char) : Bool :=
  (c.flags.value? (String.singleton letter)).any (·.kind == .option)

/-- The letters that take a value. -/
def optionLetters (c : Command) (letters : List Char) : List Char :=
  letters.filter (isOptionLetter c)

/-- The letters as tokens of their own, each option with its value behind it. -/
def spread (c : Command) : List Char → List String → List String
  | [], _ => []
  | letter :: letters, values =>
    let taken := if isOptionLetter c letter then 1 else 0
    ("-" ++ String.singleton letter) :: values.take taken ++ spread c letters (values.drop taken)

variable {c : Command} {letter : Char} {key : String}

section Switch

variable (declared : c.flags.value? (String.singleton letter) = some ⟨.switch, key⟩)

include declared

theorem optionLetters_switch (letters : List Char) :
    optionLetters c (letter :: letters) = optionLetters c letters := by
  simp [optionLetters, isOptionLetter, declared]

theorem spread_switch (letters : List Char) (values : List String) :
    spread c (letter :: letters) values = ["-" ++ String.singleton letter] ++ spread c letters values := by
  simp [spread, isOptionLetter, declared]

end Switch

section Option

variable (declared : c.flags.value? (String.singleton letter) = some ⟨.option, key⟩)

include declared

theorem optionLetters_option (letters : List Char) :
    optionLetters c (letter :: letters) = letter :: optionLetters c letters := by
  simp [optionLetters, isOptionLetter, declared]

theorem spread_option (letters : List Char) (value : String) (values : List String) :
    spread c (letter :: letters) (value :: values) =
      ["-" ++ String.singleton letter, value] ++ spread c letters values := by
  simp [spread, isOptionLetter, declared]

end Option

theorem exists_takes {letters : List Char} {values : List String}
    (declared : ∀ letter ∈ letters, String.singleton letter ∈ c.flags.names)
    (plain : ∀ value ∈ values, IsValue value)
    (enough : values.length = (optionLetters c letters).length) :
    ∃ writes, Takes c letters values writes := by
  -- Only an option takes a value, so the count goes down with the options among the letters.
  induction letters generalizing values with
  | nil =>
    obtain rfl : values = [] := List.eq_nil_of_length_eq_zero enough
    exact ⟨[], .nil⟩
  | cons letter letters ih =>
    obtain ⟨first, others⟩ := List.forall_mem_cons.mp declared
    obtain ⟨⟨kind, key⟩, found⟩ := Table.exists_value? first
    cases kind with
    | switch =>
      rw [optionLetters_switch found] at enough
      obtain ⟨writes, takes⟩ := ih others plain enough
      exact ⟨_, .switch found takes⟩
    | option =>
      rw [optionLetters_option found] at enough
      cases values with
      | nil => cases enough
      | cons value values =>
        obtain ⟨isValue, plain⟩ := List.forall_mem_cons.mp plain
        obtain ⟨writes, takes⟩ := ih others plain (Nat.succ.inj enough)
        exact ⟨_, .option found isValue takes⟩

theorem scanFrom_spread (legal : c.Legal) {letters : List Char} {values : List String}
    {writes : Table Bound} (takes : Takes c letters values writes) {s : Scan} (ready : s.phase = .ready) :
    scanFrom c s (spread c letters values) = .ok { s with values := s.values.putAll writes } := by
  induction takes generalizing s with
  | nil => rfl
  | @switch letter letters key values writes declared takes ih =>
    have alone : Completes c ["-" ++ String.singleton letter] [(key, .flag true)] :=
      .cluster (List.cons_ne_nil letter []) (.switch declared .nil)
    rw [spread_switch declared, scanFrom_append, scanFrom_group legal ⟨_, _, alone⟩ ready]
    exact ih ready
  | @option letter letters key value values writes declared isValue takes ih =>
    have alone : Completes c ["-" ++ String.singleton letter, value] [(key, .text value)] :=
      .cluster (List.cons_ne_nil letter []) (.option declared isValue .nil)
    rw [spread_option declared, scanFrom_append, scanFrom_group legal ⟨_, _, alone⟩ ready]
    exact ih ready

theorem scanFrom_cluster (legal : c.Legal) {letters : List Char} {values : List String}
    {writes : Table Bound} (nonempty : letters ≠ []) (takes : Takes c letters values writes) {s : Scan}
    (reads : s.phase ≠ .verbatim) :
    scanFrom c s (("-" ++ String.ofList letters) :: values) = scanFrom c s (spread c letters values) := by
  cases phase : s.phase with
  | ready =>
    have together := scanFrom_group legal ⟨_, _, .cluster nonempty takes⟩ phase
    exact together.trans (scanFrom_spread legal takes phase).symm
  | verbatim => exact absurd phase reads
  | awaiting key spelling waiting =>
    -- The option that waits refuses the cluster as well as its first letter.
    obtain ⟨letter, rest, rfl⟩ := List.exists_cons_of_ne_nil nonempty
    have together : ¬IsValue ("-" ++ String.ofList (letter :: rest)) := by simp [IsValue]
    have first : ¬IsValue ("-" ++ String.singleton letter) := by simp [IsValue]
    rw [scanFrom_refused phase together, spread, List.cons_append, scanFrom_refused phase first]

theorem exists_awaiting {letters : List Char} {values : List String}
    (declared : ∀ letter ∈ letters, String.singleton letter ∈ c.flags.names)
    (plain : ∀ value ∈ values, IsValue value) {letter : Char}
    (short : (optionLetters c letters)[values.length]? = some letter) (s : Scan) (bound : Table Bound) :
    ∃ last key rest,
      ((meetLetters c bound letters).map s.advance >>= fun s => scanFrom c s values) = .ok last ∧
      last.phase = .awaiting key ("-" ++ String.singleton letter) rest ∧
      c.flags.value? (String.singleton letter) = some ⟨.option, key⟩ := by
  -- The values go to the first options among the letters, one each, and the option after these waits.
  induction letters generalizing values s bound with
  | nil => cases short
  | cons first letters ih =>
    obtain ⟨member, others⟩ := List.forall_mem_cons.mp declared
    obtain ⟨⟨kind, key⟩, found⟩ := Table.exists_value? member
    cases kind with
    | switch =>
      rw [optionLetters_switch found] at short
      rw [meetLetters_switch found]
      exact ih others plain short s (bound.put key (.flag true))
    | option =>
      rw [optionLetters_option found] at short
      rw [meetLetters_option found]
      cases values with
      | nil =>
        cases short
        exact ⟨_, key, letters, rfl, rfl, found⟩
      | cons value values =>
        obtain ⟨isValue, plain⟩ := List.forall_mem_cons.mp plain
        have taken := step_value (c := c) isValue s bound key ("-" ++ String.singleton first) letters
        have rest := ih others plain short s (bound.put key (.text value))
        rw [← taken] at rest
        exact rest

theorem ready_of_scan {front : List String} (unterminated : "--" ∉ front)
    {read : Table Bound × List String} (scanned : scan c front = .ok read) :
    ∃ s, scanFrom c .start front = .ok s ∧ s.phase = .ready := by
  rw [scan_eq] at scanned
  obtain ⟨s, ran, finished⟩ := bind_eq_ok.mp scanned
  refine ⟨s, ran, ?_⟩
  cases phase : s.phase with
  | ready => rfl
  | verbatim => exact absurd phase (reads_of_scanFrom (by simp [Scan.start]) unterminated ran)
  | awaiting key spelling letters => simp [Scan.finish, phase] at finished

/-- A cluster with too few values behind it is refused for the first option that gets none. -/
theorem bind_short_cluster (legal : c.Legal) {letters : List Char} (nonempty : letters ≠ [])
    (declared : ∀ letter ∈ letters, String.singleton letter ∈ c.flags.names) {values : List String}
    (plain : ∀ value ∈ values, IsValue value) {front : List String} (unterminated : "--" ∉ front)
    {read : Table Bound × List String} (scanned : scan c front = .ok read) {letter : Char}
    (short : (optionLetters c letters)[values.length]? = some letter) {back : List String}
    (stops : ¬OpensWithValue back) :
    ∃ key, c.flags.value? (String.singleton letter) = some ⟨.option, key⟩ ∧
      bind c (front ++ (("-" ++ String.ofList letters) :: values) ++ back) =
        .error (.optionArgumentMissing key ("-" ++ String.singleton letter)) := by
  obtain ⟨s, ran, ready⟩ := ready_of_scan unterminated scanned
  obtain ⟨last, key, rest, read, waits, found⟩ := exists_awaiting declared plain short s s.values
  have alphanumeric : ∀ letter ∈ letters, Text.isAlphanumeric letter = true := by
    intro letter member
    obtain ⟨target, found⟩ := Table.exists_value? (declared letter member)
    exact isAlphanumeric_of_value? legal found
  have cluster : scanFrom c s (("-" ++ String.ofList letters) :: values) = .ok last := by
    simp only [scanFrom, step, ready, readToken_cluster nonempty alphanumeric]
    exact read
  have failed : scan c (front ++ (("-" ++ String.ofList letters) :: values)) =
      .error (.optionArgumentMissing key ("-" ++ String.singleton letter)) := by
    rw [scan_eq, scanFrom_append, ran]
    refine (congrArg (· >>= Scan.finish) cluster).trans ?_
    simp only [Bind.bind, Except.bind, Scan.finish, waits]
  exact ⟨key, found, bind_of_scan (scan_append_of_error failed fun both => stops both.2)⟩

end Binding

open Binding

/-- A cluster and its values bind what its letters bind one by one, each option in front of its own value;
with too few values, the first option that gets none complains, if nothing in front does. -/
theorem bind_cluster {text : String} {commands : List Command} {c : Command}
    (built : build text = .ok commands) (member : c ∈ commands) {letters : List Char}
    (nonempty : letters ≠ []) (declared : ∀ letter ∈ letters, String.singleton letter ∈ c.flags.names)
    {values : List String} (plain : ∀ value ∈ values, IsValue value) {front : List String}
    (unterminated : "--" ∉ front) (back : List String) :
    (values.length = (optionLetters c letters).length →
      bind c (front ++ (("-" ++ String.ofList letters) :: values) ++ back) =
        bind c (front ++ spread c letters values ++ back)) ∧
    (∀ letter, (optionLetters c letters)[values.length]? = some letter → ¬OpensWithValue back →
      (∃ read, scan c front = .ok read) →
      ∃ key, c.flags.value? (String.singleton letter) = some ⟨.option, key⟩ ∧
        bind c (front ++ (("-" ++ String.ofList letters) :: values) ++ back) =
          .error (.optionArgumentMissing key ("-" ++ String.singleton letter))) := by
  have legal := (build_legal built c member).1
  constructor
  · intro enough
    obtain ⟨writes, takes⟩ := exists_takes declared plain enough
    exact bind_eq_of_scanFrom (fun _ => scanFrom_cluster legal nonempty takes) unterminated back
  · rintro letter short stops ⟨read, scanned⟩
    exact bind_short_cluster legal nonempty declared plain unterminated scanned short stops

theorem bind_cluster_pack :
    bind Model.packMain (["x"] ++ ["-qoo", "a", "b"] ++ ["--"]) =
        bind Model.packMain (["x"] ++ ["-q", "-o", "a", "-o", "b"] ++ ["--"]) ∧
      bind Model.packMain (["x"] ++ ["-qoo", "a"] ++ ["-q", "b"]) =
        .error (.optionArgumentMissing "dir" "-o") := by
  have main : Model.packMain ∈ [Model.packMain, Model.packList] := List.mem_cons_self
  have quiet : String.singleton 'q' ∈ Model.packMain.flags.names := by decide
  have out : String.singleton 'o' ∈ Model.packMain.flags.names := by decide
  have declared : ∀ letter ∈ ['q', 'o', 'o'], String.singleton letter ∈ Model.packMain.flags.names :=
    List.forall_mem_cons.mpr ⟨quiet, List.forall_mem_cons.mpr ⟨out, List.forall_mem_singleton.mpr out⟩⟩
  have plain : ∀ value ∈ ["a", "b"], IsValue value := by unfold IsValue; decide
  have first : ∀ value ∈ ["a"], IsValue value := by unfold IsValue; decide
  have front : "--" ∉ ["x"] := by decide
  have enough := (bind_cluster Model.build_packText main (by simp) declared plain front ["--"]).1 (by decide)
  have short := (bind_cluster Model.build_packText main (by simp) declared first front ["-q", "b"]).2
  obtain ⟨key, found, refused⟩ := short 'o' (by decide) (by unfold OpensWithValue IsValue; decide)
    ⟨([], ["x"]), by decide +kernel⟩
  have option : Model.packMain.flags.value? (String.singleton 'o') = some ⟨.option, "dir"⟩ := by decide
  rw [option] at found
  cases found
  exact ⟨enough, refused⟩

end UsageGrammar
