import Mathlib.Data.List.TakeWhile
import UsageGrammar.Proofs.Binding.Slots

/-! The positional phase as a whole: which slots the number of tokens selects, when the tokens fill these
slots, and what is complained of when they do not. -/

set_option autoImplicit false

namespace UsageGrammar

def requiredSlots (slots : List Slot) : List Slot :=
  slots.filter (·.required)

def optionalSlots (slots : List Slot) : List Slot :=
  slots.filter (!·.required)

/-- The slots that a number of tokens selects: all of them when there are enough tokens for them, and
otherwise the required ones and the first optional ones. -/
def selectSlots (slots : List Slot) (count : Nat) : List Slot :=
  if slots.length ≤ count then slots
  else
    slots.filter fun s =>
      s.required || ((optionalSlots slots).take (count - (requiredSlots slots).length)).contains s

/-- The slots after the first variadic one. -/
def slotsBehindVariadic (slots : List Slot) : List Slot :=
  (slots.dropWhile (!·.variadic)).tail

namespace Binding

section Reduction

def keepFirst : Nat → List Slot → List Slot
  | _, [] => []
  | 0, s :: rest => if s.required then s :: keepFirst 0 rest else keepFirst 0 rest
  | spare + 1, s :: rest =>
    if s.required then s :: keepFirst (spare + 1) rest else s :: keepFirst spare rest

theorem keepFirst_required {s : Slot} (needed : s.required = true) (spare : Nat) (rest : List Slot) :
    keepFirst spare (s :: rest) = s :: keepFirst spare rest := by
  cases spare <;> simp [keepFirst, needed]

theorem keepFirst_optional_zero {s : Slot} (optional : s.required = false) (rest : List Slot) :
    keepFirst 0 (s :: rest) = keepFirst 0 rest := by
  simp [keepFirst, optional]

theorem keepFirst_optional_succ {s : Slot} (optional : s.required = false) (spare : Nat) (rest : List Slot) :
    keepFirst (spare + 1) (s :: rest) = s :: keepFirst spare rest := by
  simp [keepFirst, optional]

theorem optionalSlots_required {s : Slot} (needed : s.required = true) (rest : List Slot) :
    optionalSlots (s :: rest) = optionalSlots rest := by
  simp [optionalSlots, needed]

theorem optionalSlots_optional {s : Slot} (optional : s.required = false) (rest : List Slot) :
    optionalSlots (s :: rest) = s :: optionalSlots rest := by
  simp [optionalSlots, optional]

theorem length_requiredSlots_add (slots : List Slot) :
    (requiredSlots slots).length + (optionalSlots slots).length = slots.length := by
  have parts := List.length_eq_countP_add_countP (l := slots) (·.required)
  simpa [requiredSlots, optionalSlots, List.countP_eq_length_filter] using parts.symm

theorem keepFirst_of_le {slots : List Slot} {spare : Nat} (enough : (optionalSlots slots).length ≤ spare) :
    keepFirst spare slots = slots := by
  induction slots generalizing spare with
  | nil => cases spare <;> rfl
  | cons s rest ih =>
    cases needed : s.required with
    | true =>
      rw [optionalSlots_required needed] at enough
      rw [keepFirst_required needed, ih enough]
    | false =>
      rw [optionalSlots_optional needed, List.length_cons] at enough
      obtain ⟨fewer, rfl⟩ := Nat.exists_eq_add_of_le' (Nat.le_of_add_left_le enough)
      rw [keepFirst_optional_succ needed, ih (by omega)]

theorem requiredSlots_keepFirst (spare : Nat) (slots : List Slot) :
    requiredSlots (keepFirst spare slots) = requiredSlots slots := by
  fun_induction keepFirst spare slots <;> simp_all [requiredSlots]

theorem optionalSlots_keepFirst (spare : Nat) (slots : List Slot) :
    optionalSlots (keepFirst spare slots) = (optionalSlots slots).take spare := by
  fun_induction keepFirst spare slots <;> simp_all [optionalSlots]

theorem keepFirst_keepFirst {fewer spare : Nat} (less : fewer ≤ spare) (slots : List Slot) :
    keepFirst fewer (keepFirst spare slots) = keepFirst fewer slots := by
  induction slots generalizing fewer spare with
  | nil => cases spare <;> rfl
  | cons s rest ih =>
    cases needed : s.required with
    | true => rw [keepFirst_required needed, keepFirst_required needed, keepFirst_required needed, ih less]
    | false =>
      -- Both reductions pass the slot, or one of them has no room left for it.
      cases spare with
      | zero =>
        obtain rfl := Nat.le_zero.mp less
        rw [keepFirst_optional_zero needed, ih less]
      | succ spare =>
        rw [keepFirst_optional_succ needed]
        cases fewer with
        | zero => rw [keepFirst_optional_zero needed, keepFirst_optional_zero needed, ih (Nat.zero_le spare)]
        | succ fewer =>
          rw [keepFirst_optional_succ needed, keepFirst_optional_succ needed, ih (Nat.le_of_succ_le_succ less)]

theorem dropLastOptional_of_required {slots : List Slot} (none : optionalSlots slots = []) :
    dropLastOptional slots = .none := by
  induction slots with
  | nil => rfl
  | cons s rest ih =>
    cases needed : s.required with
    | true =>
      rw [optionalSlots_required needed] at none
      simp [dropLastOptional, ih none, needed]
    | false =>
      rw [optionalSlots_optional needed] at none
      cases none

/-- The last optional slot goes, so the others are the first ones. -/
theorem dropLastOptional_of_optional {slots : List Slot} {spare : Nat}
    (size : (optionalSlots slots).length = spare + 1) :
    dropLastOptional slots = some (keepFirst spare slots) := by
  induction slots generalizing spare with
  | nil => cases size
  | cons s rest ih =>
    cases needed : s.required with
    | true =>
      rw [optionalSlots_required needed] at size
      rw [dropLastOptional, ih size, keepFirst_required needed]
    | false =>
      rw [optionalSlots_optional needed, List.length_cons] at size
      cases spare with
      | zero =>
        -- No slot behind this one is optional: all of them stay.
        have last : optionalSlots rest = [] := List.length_eq_zero_iff.mp (Nat.succ.inj size)
        rw [dropLastOptional, dropLastOptional_of_required last, keepFirst_optional_zero needed,
          keepFirst_of_le (by simp [last])]
        simp [needed]
      | succ spare => rw [dropLastOptional, ih (Nat.succ.inj size), keepFirst_optional_succ needed]

theorem requiredSlots_eq_self {slots : List Slot} (none : optionalSlots slots = []) :
    requiredSlots slots = slots := by
  simpa [requiredSlots, optionalSlots, List.filter_eq_nil_iff, List.filter_eq_self] using none

theorem dropOptional_eq (count : Nat) {excess spare : Nat} {slots : List Slot}
    (size : (optionalSlots slots).length = spare) :
    dropOptional count excess slots =
      if excess ≤ spare then .ok (keepFirst (spare - excess) slots)
      else .error (.argumentMissing ((requiredSlots slots)[count]?.map Slot.name)) := by
  -- One step drops the last optional slot: the first ones are kept, so the steps add up.
  induction excess generalizing slots spare with
  | zero => rw [dropOptional, if_pos (Nat.zero_le spare), keepFirst_of_le (by omega)]
  | succ excess ih =>
    cases spare with
    | zero =>
      have none : optionalSlots slots = [] := List.length_eq_zero_iff.mp size
      rw [dropOptional, dropLastOptional_of_required none, if_neg (by omega), requiredSlots_eq_self none]
    | succ spare =>
      have shorter : (optionalSlots (keepFirst spare slots)).length = spare := by
        rw [optionalSlots_keepFirst, List.length_take, size]
        omega
      rw [dropOptional, dropLastOptional_of_optional size]
      simp only [ih shorter, requiredSlots_keepFirst, Nat.add_le_add_iff_right, Nat.add_sub_add_right]
      rw [keepFirst_keepFirst (Nat.sub_le spare excess)]

theorem fit_eq_ok {slots : List Slot} {count : Nat} (enough : (requiredSlots slots).length ≤ count) :
    fit slots count = .ok (keepFirst (count - (requiredSlots slots).length) slots) := by
  have whole := length_requiredSlots_add slots
  rw [fit, dropOptional_eq count rfl, if_pos (by omega)]
  by_cases all : slots.length ≤ count
  · rw [keepFirst_of_le (by omega), keepFirst_of_le (by omega)]
  · have spare : (optionalSlots slots).length - (slots.length - count) = count - (requiredSlots slots).length := by
      omega
    rw [spare]

theorem fit_eq_error {slots : List Slot} {count : Nat} (few : count < (requiredSlots slots).length) :
    fit slots count = .error (.argumentMissing (some (requiredSlots slots)[count].name)) := by
  have whole := length_requiredSlots_add slots
  rw [fit, dropOptional_eq count rfl, if_neg (by omega), List.getElem?_eq_getElem few]
  rfl

theorem length_keepFirst (spare : Nat) (slots : List Slot) :
    (keepFirst spare slots).length = (requiredSlots slots).length + min spare (optionalSlots slots).length := by
  rw [← length_requiredSlots_add, requiredSlots_keepFirst, optionalSlots_keepFirst, List.length_take]

theorem keepFirst_eq_filter {slots : List Slot} (distinct : slots.Nodup) (spare : Nat) :
    keepFirst spare slots =
      slots.filter fun s => s.required || ((optionalSlots slots).take spare).contains s := by
  induction slots generalizing spare with
  | nil => cases spare <;> rfl
  | cons s rest ih =>
    obtain ⟨fresh, distinct⟩ := List.nodup_cons.mp distinct
    cases needed : s.required with
    | true =>
      rw [keepFirst_required needed, optionalSlots_required needed, ih distinct, List.filter_cons_of_pos]
      simp [needed]
    | false =>
      rw [optionalSlots_optional needed]
      cases spare with
      | zero =>
        rw [keepFirst_optional_zero needed, ih distinct, List.filter_cons_of_neg]
        · simp
        · simp [needed]
      | succ spare =>
        rw [keepFirst_optional_succ needed, ih distinct, List.take_succ_cons, List.filter_cons_of_pos]
        · congr 1
          -- No slot behind this one is equal to it, so one less of the others is looked for.
          refine List.filter_congr fun t member => ?_
          have different : t ≠ s := fun same => fresh (same ▸ member)
          simp [different]
        · simp

theorem fit_eq_selectSlots {slots : List Slot} (distinct : slots.Nodup) {count : Nat}
    (enough : (requiredSlots slots).length ≤ count) :
    fit slots count = .ok (selectSlots slots count) ∧ (selectSlots slots count).length ≤ count := by
  have whole := length_requiredSlots_add slots
  rw [fit_eq_ok enough, selectSlots]
  split
  · next all => exact ⟨by rw [keepFirst_of_le (by omega)], all⟩
  · rw [← keepFirst_eq_filter distinct, length_keepFirst]
    exact ⟨rfl, by omega⟩

end Reduction

section Filling

theorem place_nil (slots : List Slot) :
    place slots [] = match slots.find? (·.required) with
      | some s => .error (.argumentMissing (some s.name))
      | none => .ok [] := by
  induction slots with
  | nil => rfl
  | cons s rest ih =>
    cases needed : s.required with
    | true => simp [place, needed]
    | false => simpa [place, needed] using ih

theorem place_of_single {slots : List Slot} (single : ∀ s ∈ slots, s.variadic = false) {tokens : List String}
    (enough : slots.length ≤ tokens.length) :
    (slots.length = tokens.length → ∃ placed, place slots tokens = .ok placed) ∧
      (slots.length < tokens.length → place slots tokens = .error .tooManyArguments) := by
  induction slots generalizing tokens with
  | nil => cases tokens <;> simp [place]
  | cons s rest ih =>
    obtain ⟨first, others⟩ := List.forall_mem_cons.mp single
    cases tokens with
    | nil => simp at enough
    | cons token tokens =>
      have enough' : rest.length ≤ tokens.length := Nat.le_of_succ_le_succ enough
      obtain ⟨filling, beyond⟩ := ih others enough'
      simp only [place, first, List.length_cons, Bool.false_eq_true, if_false]
      constructor
      · intro same
        obtain ⟨placed, done⟩ := filling (Nat.succ.inj same)
        exact ⟨_, by rw [done]; rfl⟩
      · intro more
        rw [beyond (Nat.lt_of_succ_lt_succ more)]
        rfl

theorem place_of_variadic {front behind : List Slot} {v : Slot} (single : ∀ s ∈ front, s.variadic = false)
    (variadic : v.variadic = true) {tokens : List String} (enough : front.length < tokens.length) :
    ∃ placed, place (front ++ v :: behind) tokens = (place behind []).map (placed ++ ·) := by
  -- Each slot in front takes one token, so the variadic one is reached with some left.
  induction front generalizing tokens with
  | nil =>
    obtain ⟨token, more, rfl⟩ := List.exists_cons_of_ne_nil (List.ne_nil_of_length_pos enough)
    exact ⟨[(v.name, .texts (token :: more))], by simp [place, variadic]⟩
  | cons s rest ih =>
    obtain ⟨first, others⟩ := List.forall_mem_cons.mp single
    cases tokens with
    | nil => simp at enough
    | cons token tokens =>
      have enough' : rest.length < tokens.length := Nat.lt_of_succ_lt_succ enough
      obtain ⟨placed, done⟩ := ih others enough'
      refine ⟨(s.name, .text token) :: placed, ?_⟩
      simp only [List.cons_append, place, first, Bool.false_eq_true, if_false, done]
      cases place behind [] <;> rfl

theorem slotsBehindVariadic_of_single {slots : List Slot} (single : ∀ s ∈ slots, s.variadic = false) :
    slotsBehindVariadic slots = [] := by
  have passed : ∀ s ∈ slots, (!s.variadic) = true := fun s member => by simp [single s member]
  rw [slotsBehindVariadic, List.dropWhile_eq_nil_iff.mpr passed, List.tail_nil]

theorem slotsBehindVariadic_append {front behind : List Slot} {v : Slot}
    (single : ∀ s ∈ front, s.variadic = false) (variadic : v.variadic = true) :
    slotsBehindVariadic (front ++ v :: behind) = behind := by
  have passed : ∀ s ∈ front, (!s.variadic) = true := fun s member => by simp [single s member]
  rw [slotsBehindVariadic, List.dropWhile_append_of_pos passed, List.dropWhile_cons_of_neg (by simp [variadic]),
    List.tail_cons]

theorem single_or_exists_variadic (slots : List Slot) :
    (∀ s ∈ slots, s.variadic = false) ∨
      ∃ front v behind, slots = front ++ v :: behind ∧ (∀ s ∈ front, s.variadic = false) ∧
        v.variadic = true := by
  induction slots with
  | nil => simp
  | cons s rest ih =>
    cases variadic : s.variadic with
    | true => exact .inr ⟨[], s, rest, rfl, by simp, variadic⟩
    | false =>
      rcases ih with single | ⟨front, v, behind, rfl, single, found⟩
      · exact .inl (List.forall_mem_cons.mpr ⟨variadic, single⟩)
      · exact .inr ⟨s :: front, v, behind, rfl, List.forall_mem_cons.mpr ⟨variadic, single⟩, found⟩

/-- Slots that have at least as many tokens are filled when a variadic one takes the others and leaves no
required slot behind, or when there are no others. -/
theorem place_outcome {slots : List Slot} {tokens : List String} (enough : slots.length ≤ tokens.length) :
    ((∃ placed, place slots tokens = .ok placed) ↔
        ((∃ s ∈ slots, s.variadic = true) ∧ ∀ s ∈ slotsBehindVariadic slots, s.required = false) ∨
          ((∀ s ∈ slots, s.variadic = false) ∧ tokens.length = slots.length)) ∧
      ∀ e, place slots tokens = .error e → e =
        match (slotsBehindVariadic slots).find? (·.required) with
        | some s => .argumentMissing (some s.name)
        | none => .tooManyArguments := by
  rcases single_or_exists_variadic slots with single | ⟨front, v, behind, rfl, single, variadic⟩
  · obtain ⟨filling, beyond⟩ := place_of_single single enough
    have unmixed : ¬∃ s ∈ slots, s.variadic = true := by
      rintro ⟨s, member, variadic⟩
      rw [single s member] at variadic
      cases variadic
    simp only [unmixed, false_and, false_or, and_iff_right single, slotsBehindVariadic_of_single single,
      List.find?_nil]
    rcases Nat.lt_or_eq_of_le enough with more | same
    · rw [beyond more]
      refine ⟨⟨by simp, fun same => by omega⟩, ?_⟩
      rintro e ⟨⟩
      rfl
    · obtain ⟨placed, done⟩ := filling same
      rw [done]
      exact ⟨⟨fun _ => same.symm, fun _ => ⟨placed, rfl⟩⟩, by simp⟩
  · have reached : front.length < tokens.length := by
      rw [List.length_append, List.length_cons] at enough
      omega
    obtain ⟨placed, done⟩ :
        ∃ placed, place (front ++ v :: behind) tokens = (place behind []).map (placed ++ ·) :=
      place_of_variadic single variadic reached
    have mixed : ∃ s ∈ front ++ v :: behind, s.variadic = true := ⟨v, by simp, variadic⟩
    have unmixed : ¬∀ s ∈ front ++ v :: behind, s.variadic = false := by
      intro single
      rw [single v (by simp)] at variadic
      cases variadic
    simp only [and_iff_right mixed, unmixed, false_and, or_false, slotsBehindVariadic_append single variadic]
    rw [done, place_nil]
    -- What is left to do is decided by the first required slot behind the variadic one.
    cases found : behind.find? (·.required) with
    | some s =>
      have needed : s.required = true := by simpa using List.find?_some found
      have member := List.mem_of_find?_eq_some found
      refine ⟨⟨by simp [Except.map], fun optional => ?_⟩, ?_⟩
      · rw [optional s member] at needed
        cases needed
      · rintro e ⟨⟩
        rfl
    | none =>
      have optional : ∀ s ∈ behind, s.required = false := by simpa using found
      exact ⟨⟨fun _ => optional, fun _ => ⟨_, rfl⟩⟩, by simp [Except.map]⟩

end Filling

section Holding

variable {slots : List Slot} {tokens : List String} {values placed : Table Bound}

theorem value?_putAll_placed (distinct : (slots.map Slot.name).Nodup) (holds : Placed slots tokens placed)
    (name : String) : (values.putAll placed).value? name = (placed.value? name).or (values.value? name) := by
  rw [Table.value?_putAll, Table.value?_reverse (distinct.sublist holds.names)]

theorem has_putAll_placed (distinct : (slots.map Slot.name).Nodup) (holds : Placed slots tokens placed)
    {s : Slot} (member : s ∈ slots) (needed : s.required = true) :
    (values.putAll placed).has s.name = true := by
  have bound : placed.has s.name = true := Table.has_iff.mpr (holds.required s member needed)
  rw [Table.has] at bound ⊢
  rw [value?_putAll_placed distinct holds, Option.isSome_or, bound, Bool.true_or]

/-- What the slots hold in the end is what was placed, if they held nothing before. -/
theorem tokens_putAll_placed (distinct : (slots.map Slot.name).Nodup) (holds : Placed slots tokens placed)
    (unbound : ∀ s ∈ slots, values.value? s.name = none) :
    slots.flatMap (fun s => (((values.putAll placed).value? s.name).map Bound.tokens).getD []) = tokens := by
  rw [← holds.tokens, ← Table.flatMap_value? distinct holds.names Bound.tokens, List.flatMap_map]
  refine List.flatMap_congr fun s member => ?_
  rw [value?_putAll_placed distinct holds, unbound s member, Option.or_none]

end Holding

/-- The positional tokens fill the slots that their number selects, in order, or the complaint names the
slot that is not reached. -/
theorem assign_outcome {slots : List Slot} (distinct : (slots.map Slot.name).Nodup) (values : Table Bound)
    (positionals : List String) :
    let needed := requiredSlots slots
    let selected := selectSlots slots positionals.length
    ((∃ result, assign slots values positionals = .ok result) ↔
        needed.length ≤ positionals.length ∧
          (((∃ s ∈ selected, s.variadic = true) ∧ ∀ s ∈ slotsBehindVariadic selected, s.required = false) ∨
            ((∀ s ∈ selected, s.variadic = false) ∧ positionals.length = selected.length))) ∧
      (∀ result, assign slots values positionals = .ok result →
        (∃ placed, result = values.putAll placed ∧ Placed slots positionals placed) ∧
          (∀ s ∈ slots, s.required = true → result.has s.name = true) ∧
          ((∀ s ∈ slots, values.value? s.name = none) →
            slots.flatMap (fun s => ((result.value? s.name).map Bound.tokens).getD []) = positionals)) ∧
      ∀ e, assign slots values positionals = .error e → e =
        if few : positionals.length < needed.length then .argumentMissing (some needed[positionals.length].name)
        else
          match (slotsBehindVariadic selected).find? (·.required) with
          | some s => .argumentMissing (some s.name)
          | none => .tooManyArguments := by
  intro needed selected
  rw [assign_eq, exists_map_eq_ok]
  simp only [map_eq_error]
  have filled : ∀ result, (placements slots positionals).map values.putAll = .ok result →
      (∃ placed, result = values.putAll placed ∧ Placed slots positionals placed) ∧
        (∀ s ∈ slots, s.required = true → result.has s.name = true) ∧
        ((∀ s ∈ slots, values.value? s.name = none) →
          slots.flatMap (fun s => ((result.value? s.name).map Bound.tokens).getD []) = positionals) := by
    intro result done
    obtain ⟨placed, placing, rfl⟩ := map_eq_ok.mp done
    have holds := placements_spec placing
    exact ⟨⟨placed, rfl, holds⟩, fun s => has_putAll_placed distinct holds, tokens_putAll_placed distinct holds⟩
  by_cases few : positionals.length < needed.length
  · have missing : placements slots positionals =
        .error (.argumentMissing (some needed[positionals.length].name)) := by
      rw [placements, fit_eq_error few]
      rfl
    refine ⟨?_, filled, ?_⟩
    · rw [missing]
      exact iff_of_false (by simp) fun enough => Nat.not_lt.mpr enough.1 few
    · intro e failed
      rw [missing] at failed
      rw [dif_pos few, Except.error.inj failed]
  · have enough : needed.length ≤ positionals.length := Nat.le_of_not_lt few
    obtain ⟨fitted, fits⟩ := fit_eq_selectSlots distinct.of_map enough
    have reduced : placements slots positionals = place selected positionals := by
      rw [placements, fitted]
      rfl
    -- As many tokens as selected slots, or more: it is left to their kinds.
    obtain ⟨placeable, failing⟩ := place_outcome fits
    refine ⟨?_, filled, ?_⟩
    · rw [reduced, placeable, and_iff_right enough]
    · intro e failed
      rw [dif_neg few]
      exact failing e (reduced ▸ failed)

/-- A variadic slot between required ones, which can be filled only when it is not selected. -/
def moveSlots : List Slot :=
  [⟨"mode", false, false⟩, ⟨"source", true, false⟩, ⟨"others", false, true⟩, ⟨"target", true, false⟩]

theorem assign_outcome_move :
    (moveSlots.map Slot.name).Nodup ∧
      (∃ result, assign moveSlots [] ["a", "b", "c"] = .ok result) ∧
      (¬∃ result, assign moveSlots [] ["a", "b", "c", "d"] = .ok result) ∧
      ∀ e, assign moveSlots [] ["a"] = .error e → e = .argumentMissing (some "target") := by
  have distinct : (moveSlots.map Slot.name).Nodup := by decide
  refine ⟨distinct, (assign_outcome distinct [] ["a", "b", "c"]).1.mpr (by decide), ?_, ?_⟩
  · exact (assign_outcome distinct [] ["a", "b", "c", "d"]).1.not.mpr (by decide)
  · exact (assign_outcome distinct [] ["a"]).2.2

end Binding

end UsageGrammar
