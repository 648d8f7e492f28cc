/-! Operations that may fail, one after the other: when they succeed, each of them has. -/

set_option autoImplicit false

namespace UsageGrammar

variable {ε α β : Type}

theorem ok_bind (a : α) (f : α → Except ε β) : (Except.ok a >>= f) = f a :=
  rfl

theorem bind_eq_ok {x : Except ε α} {f : α → Except ε β} {b : β} :
    x >>= f = .ok b ↔ ∃ a, x = .ok a ∧ f a = .ok b := by
  cases x with
  | error e =>
    constructor
    · intro failed
      cases failed
    · rintro ⟨_, failed, _⟩
      cases failed
  | ok a =>
    constructor
    · intro done
      exact ⟨a, rfl, done⟩
    · rintro ⟨_, same, done⟩
      cases same
      exact done

theorem map_bind {γ : Type} (x : Except ε α) (f : α → β) (g : β → Except ε γ) :
    x.map f >>= g = x >>= fun a => g (f a) := by
  cases x <;> rfl

theorem map_eq_ok {x : Except ε α} {f : α → β} {b : β} :
    x.map f = .ok b ↔ ∃ a, x = .ok a ∧ f a = b := by
  cases x <;> simp [Except.map]

theorem map_eq_error {x : Except ε α} {f : α → β} {e : ε} : x.map f = .error e ↔ x = .error e := by
  cases x <;> simp [Except.map]

theorem exists_map_eq_ok {x : Except ε α} {f : α → β} : (∃ b, x.map f = .ok b) ↔ ∃ a, x = .ok a := by
  cases x <;> simp [Except.map]

theorem mapM_cons_eq_ok {f : α → Except ε β} {a : α} {items : List α} {images : List β}
    (done : (a :: items).mapM f = .ok images) :
    ∃ b others, f a = .ok b ∧ items.mapM f = .ok others ∧ images = b :: others := by
  rw [List.mapM_cons] at done
  obtain ⟨b, first, done⟩ := bind_eq_ok.mp done
  obtain ⟨others, later, done⟩ := bind_eq_ok.mp done
  cases done
  exact ⟨b, others, first, later, rfl⟩

theorem exists_of_mem_mapM {f : α → Except ε β} {items : List α} {images : List β}
    (done : items.mapM f = .ok images) {b : β} (member : b ∈ images) : ∃ a ∈ items, f a = .ok b := by
  induction items generalizing images with
  | nil => cases done; cases member
  | cons a rest ih =>
    obtain ⟨c, others, first, later, rfl⟩ := mapM_cons_eq_ok done
    rcases List.mem_cons.mp member with rfl | member
    · exact ⟨a, List.mem_cons_self, first⟩
    · obtain ⟨a', found, made⟩ := ih later member
      exact ⟨a', List.mem_cons_of_mem a found, made⟩

theorem map_of_mapM {γ : Type} {f : α → Except ε β} {before : α → γ} {after : β → γ} {items : List α}
    {images : List β} (kept : ∀ a b, f a = .ok b → after b = before a)
    (done : items.mapM f = .ok images) : images.map after = items.map before := by
  induction items generalizing images with
  | nil => cases done; rfl
  | cons a rest ih =>
    obtain ⟨b, others, first, later, rfl⟩ := mapM_cons_eq_ok done
    rw [List.map_cons, List.map_cons, kept a b first, ih later]

/-- An operation that fails on items of one kind fails on the first of them. -/
theorem mapM_eq_of_ite {p : α → Prop} [DecidablePred p] {f : α → Except ε β} {g : α → β} {h : α → ε}
    {items : List α} (each : ∀ a ∈ items, f a = if p a then .ok (g a) else .error (h a)) :
    items.mapM f = match items.find? fun a => ¬p a with
      | some a => .error (h a)
      | none => .ok (items.map g) := by
  induction items with
  | nil => rfl
  | cons a rest ih =>
    obtain ⟨first, others⟩ := List.forall_mem_cons.mp each
    rw [List.mapM_cons, first, ih others]
    by_cases accepted : p a
    · rw [if_pos accepted, List.find?_cons_of_neg (by simpa using accepted)]
      cases rest.find? fun a => ¬p a <;> rfl
    · rw [if_neg accepted, List.find?_cons_of_pos (by simpa using accepted)]
      rfl

end UsageGrammar
