import UsageGrammar.Proofs.Binding.Positionals

/-! The reduction of slots to a number of tokens. All required slots stay, and of the optional ones the
first, as many as there are tokens left for; with more tokens no slot is lost. -/

set_option autoImplicit false

namespace UsageGrammar

/-- The slots at the places where a slot is required, or has fewer than `spare` optional ones in front. -/
def slotsWithin (slots : List Slot) (spare : Nat) : List Slot :=
  (slots.zipIdx.filter fun (s, place) =>
    s.required || (optionalSlots (slots.take place)).length < spare).map Prod.fst

namespace Binding

/-- Slots reduced to a number of tokens: a part of them, in order, in which every required slot and the
first `spare` optional ones are left. -/
structure Reduced (slots : List Slot) (spare : Nat) (kept : List Slot) : Prop where
  sublist : kept.Sublist slots
  required : requiredSlots kept = requiredSlots slots
  optional : optionalSlots kept = (optionalSlots slots).take spare
  places : kept = slotsWithin slots spare

theorem keepFirst_sublist (spare : Nat) (slots : List Slot) : (keepFirst spare slots).Sublist slots := by
  fun_induction keepFirst spare slots with
  | case1 => exact List.Sublist.refl _
  | case2 s rest needed ih => exact ih.cons_cons s
  | case3 s rest optional ih => exact ih.cons s
  | case4 spare s rest needed ih => exact ih.cons_cons s
  | case5 spare s rest optional ih => exact ih.cons_cons s

theorem length_optionalSlots_concat (front : List Slot) (s : Slot) :
    (optionalSlots (front ++ [s])).length = (optionalSlots front).length + if s.required then 0 else 1 := by
  cases needed : s.required <;> simp [optionalSlots, needed]

/-- One pass over the slots that counts the optional ones in front keeps the first of them. -/
theorem keepFirst_places (front slots : List Slot) (spare : Nat) :
    keepFirst (spare - (optionalSlots front).length) slots =
      ((slots.zipIdx front.length).filter fun (s, place) =>
        s.required || (optionalSlots ((front ++ slots).take place)).length < spare).map Prod.fst := by
  induction slots generalizing front with
  | nil => simp [keepFirst]
  | cons s rest ih =>
    -- The slot moves to those in front, where it counts if it is optional.
    have passed := ih (front ++ [s])
    rw [List.append_assoc, List.singleton_append, List.length_append, List.length_singleton,
      length_optionalSlots_concat] at passed
    rw [List.zipIdx_cons, List.filter_cons]
    simp only [List.take_left']
    cases needed : s.required with
    | true =>
      rw [keepFirst_required needed]
      simpa [needed] using passed
    | false =>
      by_cases room : (optionalSlots front).length < spare
      · obtain ⟨fewer, left⟩ := Nat.exists_eq_add_one.mpr (Nat.sub_pos_of_lt room)
        have fewer_eq : spare - ((optionalSlots front).length + 1) = fewer := by omega
        rw [left, keepFirst_optional_succ needed]
        simpa [needed, room, fewer_eq] using passed
      · have none : spare - (optionalSlots front).length = 0 := Nat.sub_eq_zero_of_le (Nat.le_of_not_lt room)
        have none' : spare - ((optionalSlots front).length + 1) = 0 := by omega
        rw [none, keepFirst_optional_zero needed]
        simpa [needed, room, none'] using passed

theorem keepFirst_reduced (spare : Nat) (slots : List Slot) : Reduced slots spare (keepFirst spare slots) where
  sublist := keepFirst_sublist spare slots
  required := requiredSlots_keepFirst spare slots
  optional := optionalSlots_keepFirst spare slots
  places := by simpa [optionalSlots, slotsWithin] using keepFirst_places [] slots spare

theorem keepFirst_min (spare : Nat) (slots : List Slot) :
    keepFirst (min spare (optionalSlots slots).length) slots = keepFirst spare slots := by
  rcases Nat.le_total spare (optionalSlots slots).length with few | enough
  · rw [Nat.min_eq_left few]
  · rw [Nat.min_eq_right enough, keepFirst_of_le (Nat.le_refl _), keepFirst_of_le enough]

/-- With a token for every required slot, these and the first optional slots are kept, as many as there are
tokens if there are so many. With fewer tokens the first required slot without one is missing. More tokens
keep all that fewer keep. -/
theorem fit_reduced (slots : List Slot) (count : Nat) :
    ((requiredSlots slots).length ≤ count → ∃ kept, fit slots count = .ok kept ∧
        Reduced slots (min (count - (requiredSlots slots).length) (optionalSlots slots).length) kept ∧
        kept.length = min count slots.length) ∧
      (∀ few : count < (requiredSlots slots).length,
        fit slots count = .error (.argumentMissing (some (requiredSlots slots)[count].name))) ∧
      ∀ more kept, count ≤ more → fit slots count = .ok kept →
        ∃ wider, fit slots more = .ok wider ∧ kept.Sublist wider := by
  refine ⟨fun enough => ?_, fun few => fit_eq_error few, fun more kept fewer fitted => ?_⟩
  · refine ⟨_, fit_eq_ok enough, ?_, ?_⟩
    · rw [← keepFirst_min]
      exact keepFirst_reduced _ slots
    · have whole := length_requiredSlots_add slots
      rw [length_keepFirst]
      omega
  · rcases Nat.lt_or_ge count (requiredSlots slots).length with few | enough
    · rw [fit_eq_error few] at fitted
      cases fitted
    · rw [fit_eq_ok enough] at fitted
      cases fitted
      refine ⟨_, fit_eq_ok (Nat.le_trans enough fewer), ?_⟩
      have spare : count - (requiredSlots slots).length ≤ more - (requiredSlots slots).length :=
        Nat.sub_le_sub_right fewer _
      -- What fewer tokens leave is a reduction of what more tokens leave.
      rw [← keepFirst_keepFirst spare]
      exact keepFirst_sublist _ _

theorem fit_reduced_move :
    (∃ kept, fit moveSlots 3 = .ok kept ∧ kept.map Slot.name = ["mode", "source", "target"]) ∧
      fit moveSlots 1 = .error (.argumentMissing (some "target")) := by
  obtain ⟨kept, fitted, reduced, -⟩ := (fit_reduced moveSlots 3).1 (by decide)
  have names : kept.map Slot.name = ["mode", "source", "target"] := by
    rw [reduced.places]
    decide
  exact ⟨⟨kept, fitted, names⟩, (fit_reduced moveSlots 1).2.1 (by decide)⟩

end Binding

end UsageGrammar
