import UsageGrammar.Binding
import UsageGrammar.Proofs.Outcome
import UsageGrammar.Proofs.Table

/-! The positional phase by itself. The slots that are kept, what each of them is bound to, and that
the bindings of the slots hold the positional tokens in order. -/

set_option autoImplicit false

namespace UsageGrammar

/-- The values that a slot may have. -/
def Slot.Admits (s : Slot) : Bound → Prop
  | .text _ => s.variadic = false
  | .texts items => s.variadic = true ∧ items ≠ []
  | .flag _ => False

def Bound.tokens : Bound → List String
  | .text token => [token]
  | .texts items => items
  | .flag _ => []

namespace Binding

/-- Slots without a number of optional ones: all others are kept, in order. -/
structure Kept (kept slots : List Slot) : Prop where
  sublist : kept.Sublist slots
  required : ∀ s ∈ slots, s.required = true → s ∈ kept

theorem dropLastOptional_kept {slots kept : List Slot} (dropped : dropLastOptional slots = some kept) :
    Kept kept slots := by
  induction slots generalizing kept with
  | nil => cases dropped
  | cons s rest ih =>
    simp only [dropLastOptional] at dropped
    split at dropped
    · next fewer inner =>
      cases dropped
      obtain ⟨sublist, required⟩ := ih inner
      refine ⟨sublist.cons_cons s, fun t member needed => ?_⟩
      rcases List.mem_cons.mp member with rfl | member
      · exact List.mem_cons_self
      · exact List.mem_cons_of_mem _ (required t member needed)
    -- No slot behind this one is optional, so it is the one that goes.
    · split at dropped
      · cases dropped
      · next optional =>
        cases dropped
        refine ⟨List.sublist_cons_self s rest, fun t member needed => ?_⟩
        rcases List.mem_cons.mp member with rfl | member
        · exact absurd needed optional
        · exact member

theorem dropOptional_kept {count excess : Nat} {slots kept : List Slot}
    (dropped : dropOptional count excess slots = .ok kept) : Kept kept slots := by
  induction excess generalizing slots with
  | zero =>
    cases dropped
    exact ⟨List.Sublist.refl _, fun _ member _ => member⟩
  | succ excess ih =>
    simp only [dropOptional] at dropped
    split at dropped
    · next fewer last =>
      have first := dropLastOptional_kept last
      have others := ih dropped
      exact ⟨others.sublist.trans first.sublist,
        fun s member needed => others.required s (first.required s member needed) needed⟩
    · cases dropped

/-- What slots are bound to when tokens fill them from left to right. -/
def place : List Slot → List String → Except Complaint (Table Bound)
  | [], [] => .ok []
  | [], _ :: _ => .error .tooManyArguments
  | s :: slots, [] => if s.required then .error (.argumentMissing (some s.name)) else place slots []
  | s :: slots, token :: tokens =>
    if s.variadic then (place slots []).map ((s.name, .texts (token :: tokens)) :: ·)
    else (place slots tokens).map ((s.name, .text token) :: ·)

theorem fill_eq (values : Table Bound) (slots : List Slot) (tokens : List String) :
    fill values slots tokens = (place slots tokens).map values.putAll := by
  fun_induction fill values slots tokens with
  | case1 values => rfl
  | case2 values token tokens => rfl
  | case3 values s slots required => simp [place, required, Except.map]
  | case4 values s slots optional ih => simp [place, optional, ih]
  | case5 values s slots token tokens variadic ih =>
    rw [ih, place, if_pos variadic]
    cases place slots [] <;> rfl
  | case6 values s slots token tokens single ih =>
    rw [ih, place, if_neg single]
    cases place slots tokens <;> rfl

theorem place_cons {s : Slot} {slots : List Slot} {tokens : List String} {placed : Table Bound}
    (done : place (s :: slots) tokens = .ok placed) :
    (tokens = [] ∧ s.required = false ∧ place slots [] = .ok placed) ∨
      ∃ bound rest others, tokens = bound.tokens ++ rest ∧ s.Admits bound ∧
        place slots rest = .ok others ∧ placed = (s.name, bound) :: others := by
  cases tokens with
  | nil =>
    simp only [place] at done
    split at done
    · cases done
    · next optional => exact .inl ⟨rfl, by simpa using optional, done⟩
  | cons token tokens =>
    simp only [place] at done
    split at done
    · next variadic =>
      obtain ⟨others, placing, rfl⟩ := map_eq_ok.mp done
      exact .inr ⟨.texts (token :: tokens), [], others, by simp [Bound.tokens], ⟨variadic, by simp⟩,
        placing, rfl⟩
    · next single =>
      obtain ⟨others, placing, rfl⟩ := map_eq_ok.mp done
      exact .inr ⟨.text token, tokens, others, rfl, by simpa [Slot.Admits] using single, placing, rfl⟩

/-- The bindings of slots: each is admitted by its slot, they come in the order of the slots, every
required slot has one, and together they hold the tokens. -/
structure Placed (slots : List Slot) (tokens : List String) (placed : Table Bound) : Prop where
  names : placed.names.Sublist (slots.map Slot.name)
  admitted : ∀ entry ∈ placed, ∃ s ∈ slots, s.name = entry.1 ∧ s.Admits entry.2
  required : ∀ s ∈ slots, s.required = true → s.name ∈ placed.names
  tokens : placed.flatMap (·.2.tokens) = tokens

theorem place_spec {slots : List Slot} {tokens : List String} {placed : Table Bound}
    (done : place slots tokens = .ok placed) : Placed slots tokens placed := by
  induction slots generalizing tokens placed with
  | nil =>
    cases tokens with
    | nil => cases done; constructor <;> simp [Table.names]
    | cons token tokens => cases done
  | cons s slots ih =>
    -- The slot is passed over, or it takes the first tokens and leaves the others to those behind.
    rcases place_cons done with ⟨rfl, optional, placing⟩ | ⟨bound, rest, others, rfl, admits, placing, rfl⟩
    · obtain ⟨names, admitted, required, tokens⟩ := ih placing
      refine ⟨names.cons s.name, ?_, ?_, tokens⟩
      · intro entry member
        obtain ⟨t, found, same⟩ := admitted entry member
        exact ⟨t, List.mem_cons_of_mem _ found, same⟩
      · intro t member needed
        rcases List.mem_cons.mp member with rfl | member
        · rw [optional] at needed; cases needed
        · exact required t member needed
    · obtain ⟨names, admitted, required, tokens⟩ := ih placing
      refine ⟨names.cons_cons s.name, ?_, ?_, ?_⟩
      · intro entry member
        rcases List.mem_cons.mp member with rfl | member
        · exact ⟨s, List.mem_cons_self, rfl, admits⟩
        · obtain ⟨t, found, same⟩ := admitted entry member
          exact ⟨t, List.mem_cons_of_mem _ found, same⟩
      · intro t member needed
        rw [Table.names_cons, List.mem_cons]
        rcases List.mem_cons.mp member with rfl | member
        · exact .inl rfl
        · exact .inr (required t member needed)
      · rw [List.flatMap_cons, tokens]

def placements (slots : List Slot) (positionals : List String) : Except Complaint (Table Bound) := do
  place (← fit slots positionals.length) positionals

theorem assign_eq (slots : List Slot) (values : Table Bound) (positionals : List String) :
    assign slots values positionals = (placements slots positionals).map values.putAll := by
  simp only [assign, placements]
  cases fit slots positionals.length with
  | error e => rfl
  | ok kept => exact fill_eq values kept positionals

/-- No required slot is skipped, whatever the number of tokens. -/
theorem placements_spec {slots : List Slot} {positionals : List String} {placed : Table Bound}
    (done : placements slots positionals = .ok placed) : Placed slots positionals placed := by
  obtain ⟨kept, fitted, placing⟩ := bind_eq_ok.mp done
  -- Only optional slots were dropped, so the required ones are among those that are filled.
  obtain ⟨sublist, needed⟩ := dropOptional_kept fitted
  obtain ⟨names, admitted, required, tokens⟩ := place_spec placing
  refine ⟨names.trans (sublist.map _), ?_, ?_, tokens⟩
  · intro entry member
    obtain ⟨s, found, same⟩ := admitted entry member
    exact ⟨s, sublist.subset found, same⟩
  · intro s member isNeeded
    exact required s (needed s member isNeeded) isNeeded

end Binding

end UsageGrammar
