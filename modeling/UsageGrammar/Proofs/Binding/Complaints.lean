import UsageGrammar.Invocation
import UsageGrammar.Proofs.Binding.Refusals

/-! The complaints about the tokens of a command line. Whatever is wrong with them is found when the command
is resolved, when its flags are read or when its slots are filled. -/

set_option autoImplicit false

namespace UsageGrammar

/-- Complaints about the tokens of a command line, and not about what they mean to an application. -/
def Complaint.IsOfLine : Complaint → Prop
  | .conversion .. => False
  | .application _ => False
  | .general _ => False
  | _ => True

def Complaint.IsOfApplication : Complaint → Prop
  | .application _ => True
  | _ => False

theorem Complaint.IsOfLine.not_isOfApplication {e : Complaint} (line : e.IsOfLine) : ¬e.IsOfApplication := by
  intro application
  cases e <;> trivial

theorem Complaint.IsOfFlag.isOfLine {e : Complaint} (flag : e.IsOfFlag) : e.IsOfLine := by
  cases e <;> trivial

theorem Complaint.IsOfSlot.isOfLine {e : Complaint} (slot : e.IsOfSlot) : e.IsOfLine := by
  cases e <;> trivial

namespace Binding

variable {c : Command} {e : Complaint}

theorem isOfFlag_of_meet {values : Table Bound} {dashes name : String} {letters : List Char}
    (failed : meet c values dashes name letters = .error e) : e.IsOfFlag := by
  unfold meet at failed
  split at failed
  · cases failed
    trivial
  · cases failed
  · cases failed

theorem isOfFlag_of_meetLetters {values : Table Bound} {letters : List Char}
    (failed : meetLetters c values letters = .error e) : e.IsOfFlag := by
  induction letters generalizing values with
  | nil => cases failed
  | cons letter letters ih =>
    rw [meetLetters_cons] at failed
    split at failed
    · next other met =>
      cases failed
      exact isOfFlag_of_meet met
    · exact ih failed
    · cases failed

theorem isOfFlag_of_step {s : Scan} {token : String} (failed : step c s token = .error e) : e.IsOfFlag := by
  unfold step at failed
  split at failed
  · cases failed
  · split at failed
    · cases failed
      trivial
    · exact isOfFlag_of_meetLetters (map_eq_error.mp failed)
  · unfold readToken at failed
    split at failed
    · cases failed
    · exact isOfFlag_of_meet (map_eq_error.mp failed)
    · split at failed
      · cases failed
        trivial
      · cases failed
    · exact isOfFlag_of_meetLetters (map_eq_error.mp failed)
    · cases failed

theorem isOfFlag_of_scanFrom {s : Scan} {tokens : List String} (failed : scanFrom c s tokens = .error e) :
    e.IsOfFlag := by
  induction tokens generalizing s with
  | nil => cases failed
  | cons token rest ih =>
    cases stepped : step c s token with
    | error other =>
      rw [scanFrom, stepped] at failed
      cases failed
      exact isOfFlag_of_step stepped
    | ok next =>
      rw [scanFrom, stepped] at failed
      exact ih failed

theorem isOfFlag_of_scan {tokens : List String} (failed : scan c tokens = .error e) : e.IsOfFlag := by
  rw [scan_eq] at failed
  cases ran : scanFrom c .start tokens with
  | error other =>
    rw [ran] at failed
    cases failed
    exact isOfFlag_of_scanFrom ran
  | ok last =>
    rw [ran, ok_bind, Scan.finish] at failed
    split at failed
    · cases failed
      trivial
    · cases failed

end Binding

theorem isOfLine_of_bind {c : Command} {tokens : List String} {e : Complaint}
    (failed : bind c tokens = .error e) : e.IsOfLine := by
  rw [Binding.bind_eq] at failed
  cases scanned : Binding.scan c tokens with
  | error other =>
    rw [scanned] at failed
    cases failed
    exact (Binding.isOfFlag_of_scan scanned).isOfLine
  | ok read =>
    rw [scanned] at failed
    exact (Binding.isOfSlot_of_slotValues (map_eq_error.mp failed)).isOfLine

namespace Model

theorem isOfLine_of_resolve {m : Model} {tokens : List String} {e : Complaint}
    (failed : m.resolve tokens = .error e) : e.IsOfLine := by
  unfold resolve at failed
  split at failed
  · cases failed
  · split at failed
    · cases failed
    · split at failed
      · cases failed
      · cases failed
        trivial

/-- A command line that is not matched is complained about as such. -/
theorem isOfLine_of_invokeTokens {m : Model} {tokens : List String} {f : Fault}
    (failed : m.invokeTokens tokens = .error f) : f.complaint.IsOfLine := by
  unfold invokeTokens at failed
  split at failed
  · next e refused =>
    cases failed
    exact isOfLine_of_resolve refused
  · split at failed
    · next e refused =>
      cases failed
      exact isOfLine_of_bind refused
    · cases failed

end Model

end UsageGrammar
