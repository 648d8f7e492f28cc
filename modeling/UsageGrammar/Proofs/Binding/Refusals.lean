import UsageGrammar.Proofs.Binding.Congruence

/-! Faults of flags. They are found from the left and before the slots are filled, so what follows on the
command line does not change them. Only an option that is left without a value at the end may still get
one. -/

set_option autoImplicit false

namespace UsageGrammar

/-- The complaints that the scan of the flags can end in. -/
def Complaint.IsOfFlag : Complaint → Prop
  | .unknownOption _ => True
  | .optionArgumentMissing .. => True
  | _ => False

def Complaint.IsOfSlot : Complaint → Prop
  | .argumentMissing _ => True
  | .tooManyArguments => True
  | _ => False

theorem Complaint.IsOfSlot.not_isOfFlag {e : Complaint} (slot : e.IsOfSlot) : ¬e.IsOfFlag := by
  intro flag
  cases e <;> trivial

namespace Binding

/-- An option is left without a value when all tokens are read. -/
def RunsOut (c : Command) (tokens : List String) : Prop :=
  ∃ s key spelling letters, scanFrom c .start tokens = .ok s ∧ s.phase = .awaiting key spelling letters

def OpensWithValue (tokens : List String) : Prop :=
  ∃ token ∈ tokens.head?, IsValue token

theorem isOfSlot_of_dropOptional {count excess : Nat} {slots : List Slot} {e : Complaint}
    (failed : dropOptional count excess slots = .error e) : e.IsOfSlot := by
  induction excess generalizing slots with
  | zero => cases failed
  | succ excess ih =>
    simp only [dropOptional] at failed
    split at failed
    · exact ih failed
    · cases failed
      trivial

theorem isOfSlot_of_place {slots : List Slot} {tokens : List String} {e : Complaint}
    (failed : place slots tokens = .error e) : e.IsOfSlot := by
  fun_induction place slots tokens with
  | case1 => cases failed
  | case2 => cases failed; trivial
  | case3 => cases failed; trivial
  | case4 s slots optional ih => exact ih failed
  | case5 s slots token tokens variadic ih => exact ih (map_eq_error.mp failed)
  | case6 s slots token tokens single ih => exact ih (map_eq_error.mp failed)

theorem isOfSlot_of_slotValues {c : Command} {values : Table Bound} {positionals : List String}
    {e : Complaint} (failed : slotValues c values positionals = .error e) : e.IsOfSlot := by
  unfold slotValues at failed
  split at failed
  · cases failed
  · unfold placements at failed
    cases kept : fit c.slots positionals.length with
    | error other =>
      rw [kept] at failed
      cases failed
      exact isOfSlot_of_dropOptional kept
    | ok slots =>
      rw [kept] at failed
      exact isOfSlot_of_place failed

theorem scan_of_bind {c : Command} {tokens : List String} {e : Complaint}
    (failed : bind c tokens = .error e) (flag : e.IsOfFlag) : scan c tokens = .error e := by
  rw [bind_eq] at failed
  cases scanned : scan c tokens with
  | error other =>
    rw [scanned] at failed
    cases failed
    rfl
  | ok read =>
    rw [scanned] at failed
    exact absurd flag (isOfSlot_of_slotValues (map_eq_error.mp failed)).not_isOfFlag

theorem bind_of_scan {c : Command} {tokens : List String} {e : Complaint}
    (failed : scan c tokens = .error e) : bind c tokens = .error e := by
  rw [bind_eq, failed]
  rfl

theorem scan_append_of_error {c : Command} {front back : List String} {e : Complaint}
    (failed : scan c front = .error e) (stops : ¬(RunsOut c front ∧ OpensWithValue back)) :
    scan c (front ++ back) = .error e := by
  rw [scan_eq] at failed ⊢
  rw [scanFrom_append]
  -- A scan that fails among the tokens of the front does not come to those behind them.
  cases ran : scanFrom c .start front with
  | error other =>
    rw [ran] at failed
    cases failed
    rfl
  | ok s =>
    rw [ran] at failed
    have ended : s.finish = .error e := failed
    cases phase : s.phase with
    | ready => simp [Scan.finish, phase] at ended
    | verbatim => simp [Scan.finish, phase] at ended
    | awaiting key spelling letters =>
      cases back with
      | nil => exact failed
      | cons token rest =>
        -- The option that waits is not given the next token, so it complains there as at the end.
        have dashed : ¬IsValue token := fun isValue =>
          stops ⟨⟨s, key, spelling, letters, ran, phase⟩, token, rfl, isValue⟩
        have same : e = .optionArgumentMissing key spelling := by
          simp only [Scan.finish, phase, Except.error.injEq] at ended
          exact ended.symm
        have refused := scanFrom_refused (c := c) phase dashed rest
        rw [same]
        exact congrArg (· >>= Scan.finish) refused

end Binding

open Binding

/-- A fault of a flag is found wherever the command line goes on after it, and by every command with the
name and the flags, whatever its slots; but a value that comes next is still taken by an option that was
left without one at the end. -/
theorem outcome_append_of_error {c other : Command} (named : other.fullName = c.fullName)
    (same : ∀ name, other.flags.value? name = c.flags.value? name) {front : List String} {f : Fault}
    (failed : c.outcome front = .error f) (flag : f.complaint.IsOfFlag) {back : List String}
    (stops : ¬(RunsOut c front ∧ OpensWithValue back)) : other.outcome (front ++ back) = .error f := by
  cases bound : bind c front with
  | ok values =>
    rw [Command.outcome, bound] at failed
    cases failed
  | error e =>
    rw [Command.outcome, bound] at failed
    cases failed
    have scanned := scan_append_of_error (scan_of_bind bound flag) stops
    rw [← scan_congr same] at scanned
    rw [Command.outcome, bind_of_scan scanned, named]
    rfl

theorem outcome_append_of_error_pack :
    ({ Model.packMain with slots := [] } : Command).outcome (["-q", "--out"] ++ ["-x"]) =
        .error ⟨"pack", .optionArgumentMissing "dir" "--out", []⟩ ∧
      ({ Model.packMain with slots := [] } : Command).outcome (["--out", "-q"] ++ ["a"]) =
        .error ⟨"pack", .optionArgumentMissing "dir" "--out", []⟩ := by
  have refused (front : List String) (among : front ∈ [["-q", "--out"], ["--out", "-q"]]) :
      Model.packMain.outcome front = .error ⟨"pack", .optionArgumentMissing "dir" "--out", []⟩ := by
    have bound : bind Model.packMain front = .error (.optionArgumentMissing "dir" "--out") := by
      revert front
      decide +kernel
    rw [Command.outcome, bound]
    rfl
  have named : ({ Model.packMain with slots := [] } : Command).fullName = Model.packMain.fullName := rfl
  have same (name : String) : ({ Model.packMain with slots := [] } : Command).flags.value? name =
      Model.packMain.flags.value? name := rfl
  have atEnd := refused ["-q", "--out"] (by decide)
  have inside := refused ["--out", "-q"] (by decide)
  -- The first option is left without a value at the end and meets a flag then, the second meets one before.
  constructor
  · refine outcome_append_of_error named same atEnd trivial fun both => ?_
    exact absurd both.2 (by unfold OpensWithValue IsValue; decide)
  · refine outcome_append_of_error named same inside trivial fun both => ?_
    obtain ⟨⟨s, key, spelling, letters, ran, -⟩, -⟩ := both
    have stopped : scanFrom Model.packMain .start ["--out", "-q"] =
        .error (.optionArgumentMissing "dir" "--out") := by decide +kernel
    rw [stopped] at ran
    cases ran

end UsageGrammar
