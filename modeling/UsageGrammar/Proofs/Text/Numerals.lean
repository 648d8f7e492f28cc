import UsageGrammar.Proofs.Text.Blank
import UsageGrammar.Text.Character

/-! Runs of characters of one kind in front of a text, and the numbers that runs of digits write. -/

set_option autoImplicit false

namespace UsageGrammar.Text

section Runs

variable {kind : Char → Bool} {run rest front more : List Char}

/-- No character of the kind stands in front of the text. -/
def Stops (kind : Char → Bool) (s : List Char) : Prop :=
  ∀ c ∈ s.head?, kind c = false

theorem stops_nil : Stops kind [] :=
  nofun

theorem stops_cons {c : Char} {s : List Char} : Stops kind (c :: s) ↔ kind c = false := by
  simp [Stops]

theorem stops_dropWhile (kind : Char → Bool) (s : List Char) : Stops kind (s.dropWhile kind) := by
  intro c first
  have stopped := List.head?_dropWhile_not kind s
  rw [first] at stopped
  exact stopped

theorem Stops.append (ends : Stops kind run) (filled : run ≠ []) : Stops kind (run ++ rest) := by
  cases run with
  | nil => exact absurd rfl filled
  | cons c run => exact stops_cons.mpr (stops_cons.mp ends)

theorem stops_append (filled : run ≠ []) (outside : ∀ c ∈ run, kind c = false) :
    Stops kind (run ++ rest) := by
  exact Stops.append (fun c first => outside c (List.mem_of_mem_head? first)) filled

theorem takeWhile_run (inside : ∀ c ∈ run, kind c = true) (ends : Stops kind rest) :
    (run ++ rest).takeWhile kind = run := by
  rw [List.takeWhile_append_of_pos inside]
  cases rest with
  | nil => rw [List.takeWhile_nil, List.append_nil]
  | cons c rest =>
    rw [List.takeWhile_cons_of_neg (by simp [stops_cons.mp ends]), List.append_nil]

theorem dropWhile_run (inside : ∀ c ∈ run, kind c = true) (ends : Stops kind rest) :
    (run ++ rest).dropWhile kind = rest := by
  rw [List.dropWhile_append_of_pos inside]
  cases rest with
  | nil => rfl
  | cons c rest => rw [List.dropWhile_cons_of_neg (by simp [stops_cons.mp ends])]

/-- What is of one kind in front of a text lies within the run that stands there. -/
theorem prefix_of_run (same : front ++ more = run ++ rest) (inside : ∀ c ∈ front, kind c = true)
    (ends : Stops kind rest) : ∃ others, run = front ++ others ∧ more = others ++ rest := by
  rcases List.append_eq_append_iff.mp same with ⟨others, left, right⟩ | ⟨others, left, right⟩
  · exact ⟨others, left, right⟩
  · cases others with
    | nil =>
      rw [List.append_nil] at left
      exact ⟨[], by rw [left, List.append_nil], right.symm⟩
    | cons c others =>
      have member : kind c = true := inside c (by simp [left])
      have outside := ends c (by simp [right])
      rw [member] at outside
      cases outside

theorem notMem_of_kind {c : Char} (inside : ∀ d ∈ run, kind d = true) (outside : kind c = false) :
    c ∉ run := by
  intro member
  have other := inside c member
  rw [outside] at other
  cases other

end Runs

section Digits

variable {c : Char}

theorem isDigit_iff : isDigit c = true ↔ ∃ z ∈ zeroPoints, z ≤ c.toNat ∧ c.toNat < z + 10 := by
  rw [isDigit, digitValue?, Option.isSome_map, List.find?_isSome]
  simp only [Bool.and_eq_true, decide_eq_true_eq]

theorem isDigit_eq_false_iff :
    isDigit c = false ↔ ∀ z ∈ zeroPoints, ¬(z ≤ c.toNat ∧ c.toNat < z + 10) := by
  rw [← Bool.not_eq_true, isDigit_iff]
  simp only [not_exists, not_and]

theorem isDigit_of_isBlank (blank : isBlank c = true) : isDigit c = false := by
  have apart : ∀ n ∈ blankPoints, ∀ z ∈ zeroPoints, ¬(z ≤ n ∧ n < z + 10) := by decide
  exact isDigit_eq_false_iff.mpr (apart _ (List.contains_iff_mem.mp blank))

/-- Between the ASCII digits and those of the next script there is no digit. -/
theorem isDigit_of_between (above : 58 ≤ c.toNat) (below : c.toNat < 1632) : isDigit c = false := by
  have apart : ∀ z ∈ zeroPoints, z + 10 ≤ 58 ∨ 1632 ≤ z := by decide
  rw [isDigit_eq_false_iff]
  intro z member
  have := apart z member
  omega

/-- The letters lie between those two scripts, but for the Kelvin sign. -/
theorem toNat_of_isCaselessLetter (letter : isCaselessLetter c = true) :
    (58 ≤ c.toNat ∧ c.toNat < 1632) ∨ c.toNat = 0x212A := by
  have code (d : Char) : d.val.toNat = d.toNat := rfl
  simp only [isCaselessLetter, caseless, Bool.and_eq_true, decide_eq_true_eq, Char.le_def,
    UInt32.le_iff_toNat_le, code] at letter
  split at letter
  · next upper =>
    have : 65 ≤ c.toNat ∧ c.toNat ≤ 90 := upper
    omega
  · split at letter
    · omega
    · split at letter
      · exact .inr ‹_›
      · split at letter
        · next dotted =>
          simp only [Bool.or_eq_true, decide_eq_true_eq] at dotted
          omega
        · have : 97 ≤ c.toNat ∧ c.toNat ≤ 122 := letter
          omega

theorem isDigit_of_isCaselessLetter (letter : isCaselessLetter c = true) : isDigit c = false := by
  rcases toNat_of_isCaselessLetter letter with ⟨above, below⟩ | kelvin
  · exact isDigit_of_between above below
  · rw [isDigit_eq_false_iff, kelvin]
    decide

theorem isBlank_of_isDigit (digit : isDigit c = true) : isBlank c = false := by
  cases blank : isBlank c with
  | false => rfl
  | true => exact absurd digit (by simp [isDigit_of_isBlank blank])

theorem isBlank_of_isCaselessLetter (letter : isCaselessLetter c = true) : isBlank c = false := by
  -- There are few blanks, so they are gone through.
  have apart : ∀ n ∈ blankPoints, isCaselessLetter (Char.ofNat n) = false := by decide
  cases blank : isBlank c with
  | false => rfl
  | true =>
    have other := apart _ (List.contains_iff_mem.mp blank)
    rw [Char.ofNat_toNat, letter] at other
    cases other

theorem isCaselessLetter_of_isAlpha (letter : c.isAlpha = true) : isCaselessLetter c = true := by
  have table : ∀ n < 123, (Char.ofNat n).isAlpha = true → isCaselessLetter (Char.ofNat n) = true := by decide
  have below : c.toNat < 123 := by
    rcases (Bool.or_eq_true _ _).mp letter with upper | lower
    · have bounds : 'A'.val ≤ c.val ∧ c.val ≤ 'Z'.val := of_decide_eq_true upper
      have last : c.toNat ≤ 90 := bounds.2
      omega
    · have bounds : ('a'.val ≤ c.val && c.val ≤ 'z'.val) = true := lower
      rw [Bool.and_eq_true, decide_eq_true_eq, decide_eq_true_eq] at bounds
      have last : c.toNat ≤ 122 := bounds.2
      omega
  rw [← Char.ofNat_toNat c] at letter ⊢
  exact table c.toNat below letter

end Digits

section Numerals

/-- The text is made of digits that write the number; their count lies between the bounds. -/
structure IsNumeral (least most : Nat) (s : List Char) (n : Nat) : Prop where
  digits : ∀ c ∈ s, isDigit c = true
  least : least ≤ s.length
  most : s.length ≤ most
  value : numeral s = n

variable {least most n : Nat} {s rest : List Char}

instance : Decidable (IsNumeral least most s n) :=
  decidable_of_iff (s.all isDigit = true ∧ least ≤ s.length ∧ s.length ≤ most ∧ numeral s = n)
    ⟨fun ⟨digits, least, most, value⟩ => ⟨List.all_eq_true.mp digits, least, most, value⟩,
      fun ⟨digits, least, most, value⟩ => ⟨List.all_eq_true.mpr digits, least, most, value⟩⟩

theorem IsNumeral.ne_nil (written : IsNumeral (least + 1) most s n) : s ≠ [] := by
  rintro rfl
  have := written.least
  simp at this

theorem IsNumeral.notMem {c : Char} (written : IsNumeral least most s n) (outside : isDigit c = false) :
    c ∉ s :=
  notMem_of_kind written.digits outside

theorem IsNumeral.isClosed (written : IsNumeral (least + 1) most s n) : IsClosed s :=
  isClosed_of_forall written.ne_nil fun c member => isBlank_of_isDigit (written.digits c member)

theorem IsNumeral.length_eq (written : IsNumeral most most s n) : s.length = most :=
  Nat.le_antisymm written.most written.least

theorem IsNumeral.one_or_two (written : IsNumeral 1 2 s n) : s.length = 1 ∨ s.length = 2 := by
  have := written.least
  have := written.most
  omega

theorem IsNumeral.short (written : IsNumeral 2 2 s n) : IsNumeral 1 2 s n :=
  ⟨written.digits, by have := written.least; omega, written.most, written.value⟩

theorem IsNumeral.stops_alone {kind : Char → Bool} (written : IsNumeral least most s n)
    (apart : ∀ c, kind c = true → isDigit c = false) : Stops kind s := by
  intro c first
  cases other : kind c with
  | false => rfl
  | true => exact absurd (written.digits c (List.mem_of_mem_head? first)) (by simp [apart c other])

theorem IsNumeral.stops {kind : Char → Bool} (written : IsNumeral (least + 1) most s n)
    (apart : ∀ c, kind c = true → isDigit c = false) : Stops kind (s ++ rest) :=
  (written.stops_alone apart).append written.ne_nil

end Numerals

end UsageGrammar.Text
