import UsageGrammar.Proofs.Conversion.Refusals
import UsageGrammar.Proofs.Conversion.StackRoom
import UsageGrammar.Proofs.Text.Caseless
import UsageGrammar.Proofs.Text.Numerals

/-! Conversion of byte counts. A count without fraction is exact, but for numbers of more digits than an
integer is read from; a count with one may be too large for a float. -/

set_option autoImplicit false

namespace UsageGrammar

open Text

namespace ByteCount

/-- Nothing, or a point and digits. -/
inductive FractionText : List Char → Option (List Char) → Prop where
  | absent : FractionText [] none
  | written {digits : List Char} :
      digits ≠ [] → (∀ c ∈ digits, isDigit c = true) → FractionText ('.' :: digits) (some digits)

/-- Nothing, or a letter; the letter at position `i` among the units stands for the power `i + 1`. -/
inductive UnitText : List Char → Nat → Prop where
  | absent : UnitText [] 0
  | letter {c : Char} {i : Nat} : units[i]? = some (caseless c) → UnitText [c] (i + 1)

def IsByteWord (s : List Char) : Prop :=
  s.map caseless ∈ ["", "b", "byte", "bytes"].map String.toList

/-- A number, a unit and a word for bytes, with blanks around them and in front of the unit. -/
inductive ByteText : List Char → ByteCount → Prop where
  | count {left digits point gap unit word right : List Char} {fraction : Option (List Char)} {power : Nat} :
      (∀ c ∈ left, isBlank c = true) → digits ≠ [] → (∀ c ∈ digits, isDigit c = true) →
      FractionText point fraction → (∀ c ∈ gap, isBlank c = true) → UnitText unit power →
      IsByteWord word → (∀ c ∈ right, isBlank c = true) →
      ByteText (left ++ (digits ++ (point ++ (gap ++ (unit ++ (word ++ right)))))) ⟨digits, fraction, power⟩

section Soundness

variable {s : List Char} {power : Nat} {b : ByteCount}

theorem unitPower?_eq_some_iff {c : Char} :
    unitPower? c = some power ↔ ∃ i, units[i]? = some (caseless c) ∧ i + 1 = power := by
  have distinct : units.Nodup := by decide
  have place : units.findIdx? (· == caseless c) = units.idxOf? (caseless c) := rfl
  simp only [unitPower?, place, Option.map_eq_some_iff, idxOf?_eq_some_iff_getElem? distinct]

theorem exists_point (s : List Char) :
    ∃ point, FractionText point (takeFraction s).1 ∧ s = point ++ (takeFraction s).2 := by
  rw [takeFraction.eq_def]
  split
  · next c others =>
    split
    · next digit =>
      have inside : ∀ d ∈ c :: others.takeWhile isDigit, isDigit d = true :=
        List.forall_mem_cons.mpr ⟨digit, fun d member => List.mem_takeWhile_imp member⟩
      refine ⟨_, .written (List.cons_ne_nil _ _) inside, ?_⟩
      rw [List.cons_append, List.cons_append, List.takeWhile_append_dropWhile]
    · exact ⟨[], .absent, rfl⟩
  · exact ⟨[], .absent, rfl⟩

theorem exists_unit (s : List Char) : ∃ unit, UnitText unit (takeUnit s).1 ∧ s = unit ++ (takeUnit s).2 := by
  rw [takeUnit.eq_def]
  split
  · exact ⟨[], .absent, rfl⟩
  · next c others =>
    split
    · next found =>
      obtain ⟨i, letter, rfl⟩ := unitPower?_eq_some_iff.mp found
      exact ⟨[c], .letter letter, rfl⟩
    · exact ⟨[], .absent, rfl⟩

theorem isEnding_iff :
    isEnding s = true ↔
      ∃ word right, IsByteWord word ∧ (∀ c ∈ right, isBlank c = true) ∧ s = word ++ right := by
  rw [isEnding, List.any_eq_true]
  constructor
  · rintro ⟨word, listed, ended⟩
    split at ended
    · next right dropped =>
      obtain ⟨front, same, rfl⟩ := dropCaseless_eq_some_iff.mp dropped
      have named : IsByteWord front := by
        rw [IsByteWord, same]
        exact List.mem_map_of_mem listed
      exact ⟨front, right, named, List.all_eq_true.mp ended, rfl⟩
    · cases ended
  · rintro ⟨front, right, named, blank, rfl⟩
    obtain ⟨word, listed, same⟩ := List.mem_map.mp named
    refine ⟨word, listed, ?_⟩
    rw [same, dropCaseless_append]
    exact List.all_eq_true.mpr blank

theorem text_of_read (found : read s = some b) : ByteText s b := by
  have parts : s = s.takeWhile isBlank ++ ((s.dropWhile isBlank).takeWhile isDigit ++
      (s.dropWhile isBlank).dropWhile isDigit) := by
    rw [List.takeWhile_append_dropWhile, List.takeWhile_append_dropWhile]
  obtain ⟨point, pointed, afterDigits⟩ := exists_point ((s.dropWhile isBlank).dropWhile isDigit)
  simp only [read] at found
  generalize takeFraction ((s.dropWhile isBlank).dropWhile isDigit) = taken at pointed afterDigits found
  have gapped : taken.2 = taken.2.takeWhile isBlank ++ taken.2.dropWhile isBlank :=
    List.takeWhile_append_dropWhile.symm
  obtain ⟨unit, unitWritten, afterGap⟩ := exists_unit (taken.2.dropWhile isBlank)
  generalize takeUnit (taken.2.dropWhile isBlank) = unitTaken at unitWritten afterGap found
  split at found
  · next whole =>
    cases found
    rw [Bool.and_eq_true, Bool.not_eq_true', List.isEmpty_eq_false_iff] at whole
    obtain ⟨word, right, named, blank, afterWord⟩ := isEnding_iff.mp whole.2
    have inside (kind : Char → Bool) (t : List Char) : ∀ c ∈ t.takeWhile kind, kind c = true :=
      fun c member => List.mem_takeWhile_imp member
    have form := ByteText.count (inside isBlank s) whole.1 (inside isDigit _) pointed (inside isBlank taken.2)
      unitWritten named blank
    rwa [← afterWord, ← afterGap, ← gapped, ← afterDigits, ← parts] at form
  · cases found

end Soundness

section Completeness

variable {s word right unit : List Char} {power : Nat} {b : ByteCount}

theorem IsByteWord.letters (named : IsByteWord word) : ∀ c ∈ word, isCaselessLetter c = true :=
  isCaselessLetter_of_mem (by decide) named

theorem isCaselessLetter_of_mem_units {c : Char} (listed : caseless c ∈ units) : isCaselessLetter c = true := by
  have lower : units.all (fun c => 'a' ≤ c && c ≤ 'z') = true := by decide
  exact List.all_eq_true.mp lower _ listed

theorem UnitText.letters (written : UnitText unit power) : ∀ c ∈ unit, isCaselessLetter c = true := by
  cases written with
  | absent => nofun
  | letter found => simpa using isCaselessLetter_of_mem_units (List.mem_of_getElem? found)

theorem takeFraction_append {point tail : List Char} {fraction : Option (List Char)}
    (written : FractionText point fraction) (digitless : Stops isDigit tail) (pointless : '.' ∉ tail) :
    takeFraction (point ++ tail) = (fraction, tail) := by
  cases written with
  | absent =>
    rw [List.nil_append, takeFraction.eq_def]
    split
    · exact absurd List.mem_cons_self pointless
    · rfl
  | @written digits filled inside =>
    obtain ⟨c, digits, rfl⟩ := List.exists_cons_of_ne_nil filled
    rw [List.forall_mem_cons] at inside
    rw [List.cons_append, List.cons_append, takeFraction, if_pos inside.1, takeWhile_run inside.2 digitless,
      dropWhile_run inside.2 digitless]

theorem takeUnit_word (named : IsByteWord word) (blank : ∀ c ∈ right, isBlank c = true) :
    takeUnit (word ++ right) = (0, word ++ right) := by
  have skipped {c : Char} {rest : List Char} (other : caseless c ∉ units) :
      takeUnit (c :: rest) = (0, c :: rest) := by
    rw [takeUnit]
    cases found : unitPower? c with
    | none => rfl
    | some power =>
      obtain ⟨i, same, -⟩ := unitPower?_eq_some_iff.mp found
      exact absurd (List.mem_of_getElem? same) other
  cases word with
  | nil =>
    cases right with
    | nil => rfl
    | cons c right =>
      refine skipped fun listed => ?_
      have filled := isBlank_of_isCaselessLetter (isCaselessLetter_of_mem_units listed)
      rw [blank c List.mem_cons_self] at filled
      cases filled
  | cons c word =>
    -- The words for bytes begin with a letter that is no unit.
    have other : ∀ word ∈ ["", "b", "byte", "bytes"].map String.toList,
        word.head?.all (fun letter => !units.contains letter) = true := by decide
    exact skipped (by simpa using other _ named)

theorem dropWhile_word (named : IsByteWord word) (blank : ∀ c ∈ right, isBlank c = true) :
    ∃ rest, (word ++ right).dropWhile isBlank = word ++ rest ∧ ∀ c ∈ rest, isBlank c = true := by
  cases word with
  | nil => exact ⟨[], List.dropWhile_eq_nil_iff.mpr blank, nofun⟩
  | cons c word =>
    have filled := isBlank_of_isCaselessLetter (named.letters c List.mem_cons_self)
    exact ⟨right, List.dropWhile_cons_of_neg (by simp [filled]), blank⟩

theorem takeUnit_append {gap : List Char} (gapBlank : ∀ c ∈ gap, isBlank c = true)
    (written : UnitText unit power) (named : IsByteWord word) (blank : ∀ c ∈ right, isBlank c = true) :
    ∃ rest, takeUnit ((gap ++ (unit ++ (word ++ right))).dropWhile isBlank) = (power, rest) ∧
      isEnding rest = true := by
  rw [List.dropWhile_append_of_pos gapBlank]
  cases written with
  | absent =>
    obtain ⟨rest, dropped, blank⟩ := dropWhile_word named blank
    refine ⟨word ++ rest, ?_, isEnding_iff.mpr ⟨word, rest, named, blank, rfl⟩⟩
    rw [List.nil_append, dropped, takeUnit_word named blank]
  | letter found =>
    have letter := isCaselessLetter_of_mem_units (List.mem_of_getElem? found)
    refine ⟨word ++ right, ?_, isEnding_iff.mpr ⟨word, right, named, blank, rfl⟩⟩
    rw [List.singleton_append, List.dropWhile_cons_of_neg (by simp [isBlank_of_isCaselessLetter letter]), takeUnit,
      unitPower?_eq_some_iff.mpr ⟨_, found, rfl⟩]

theorem read_of_text (form : ByteText s b) : read s = some b := by
  obtain @⟨left, digits, point, gap, unit, word, right, fraction, power, leftBlank, filled, inside, pointed,
    gapBlank, unitWritten, named, rightBlank⟩ := form
  -- Only blanks and letters stand behind the number, so it ends where it should.
  have mild : ∀ c ∈ gap ++ (unit ++ (word ++ right)), isBlank c = true ∨ isCaselessLetter c = true := by
    simp only [List.forall_mem_append]
    exact ⟨fun c member => .inl (gapBlank c member), fun c member => .inr (unitWritten.letters c member),
      fun c member => .inr (named.letters c member), fun c member => .inl (rightBlank c member)⟩
  have digitless : Stops isDigit (gap ++ (unit ++ (word ++ right))) := by
    intro c first
    rcases mild c (List.mem_of_mem_head? first) with blank | letter
    · exact isDigit_of_isBlank blank
    · exact isDigit_of_isCaselessLetter letter
  have pointless : '.' ∉ gap ++ (unit ++ (word ++ right)) := fun member => absurd (mild '.' member) (by decide)
  have afterDigits : Stops isDigit (point ++ (gap ++ (unit ++ (word ++ right)))) := by
    cases pointed with
    | absent => exact digitless
    | written => exact stops_cons.mpr (by decide)
  have opened : Stops isBlank (digits ++ (point ++ (gap ++ (unit ++ (word ++ right))))) :=
    stops_append filled fun c member => isBlank_of_isDigit (inside c member)
  obtain ⟨rest, unitTaken, ended⟩ := takeUnit_append gapBlank unitWritten named rightBlank
  simp only [read, dropWhile_run leftBlank opened, takeWhile_run inside afterDigits,
    dropWhile_run inside afterDigits, takeFraction_append pointed digitless pointless, unitTaken, ended]
  simp [filled]

/-- A text is read as a byte count exactly when it is written like one. -/
theorem read_eq_some_iff : read s = some b ↔ ByteText s b :=
  ⟨text_of_read, read_of_text⟩

end Completeness

/-- The numbers of bytes that are beyond a float make the one failure of a count with a fraction. -/
theorem value_of_fraction {b : ByteCount} {fraction : List Char} (broken : b.fraction = some fraction) :
    (∃ n : Nat, b.value = .ok (n : Int)) ∨
      b.value = .error (.failed (.overflow "cannot convert float infinity to integer")) := by
  rw [value, broken]
  dsimp only
  split
  · exact .inl ⟨_, rfl⟩
  · exact .inr rfl

theorem value_of_whole {b : ByteCount} (whole : b.fraction = none) :
    b.value =
      if Decimal.digitLimit < b.digits.length then
        .error (.failed (.invalid (Decimal.tooLongMessage b.digits.length)))
      else .ok ((numeral b.digits * Nat.pow 1024 b.power : Nat) : Int) := by
  rw [value, whole, Decimal.boundedNumeral]
  by_cases long : Decimal.digitLimit < b.digits.length
  · rw [if_pos long, if_pos long]
    rfl
  · rw [if_neg long, if_neg long]

end ByteCount

section Conversions

open ByteCount

variable {here : Surroundings} {args : List Datum} {options : Table Datum} {s : String} {b : ByteCount}

theorem run_byte (args : List Datum) (options : Table Datum) (here : Surroundings) (s : String) :
    (Stock.byte.ofText s args options).run here =
      (Number.ofByteCount s).map fun n => (.integer n, here) := by
  simp only [Stock.ofText, StateT.run_bind, StateT.run_get, pure_bind]
  cases Number.ofByteCount s <;> rfl

theorem ofByteCount_of_text (written : ByteText s.toList b) : Number.ofByteCount s = b.value := by
  rw [Number.ofByteCount, read_eq_some_iff.mpr written]

theorem byte_refuses (unwritten : ∀ b, ¬ByteText s.toList b) :
    Stock.byte.Refuses args options here s "argument must be a byte number" := by
  have unread : ByteCount.read s.toList = none :=
    Option.eq_none_iff_forall_ne_some.mpr fun b found => unwritten b (read_eq_some_iff.mp found)
  rw [Stock.Refuses, run_byte, Number.ofByteCount, unread]
  rfl

theorem byte_gives (written : ByteText s.toList b) (whole : b.fraction = none)
    (short : b.digits.length ≤ Decimal.digitLimit) :
    Stock.byte.Gives args options here s (.integer (numeral b.digits * Nat.pow 1024 b.power : Nat)) := by
  rw [Stock.Gives, run_byte, ofByteCount_of_text written, value_of_whole whole, if_neg short.not_gt]
  rfl

theorem byte_fails (written : ByteText s.toList b) (whole : b.fraction = none)
    (long : Decimal.digitLimit < b.digits.length) :
    Stock.byte.Fails args options here s (.invalid (Decimal.tooLongMessage b.digits.length)) := by
  rw [Stock.Fails, run_byte, ofByteCount_of_text written, value_of_whole whole, if_pos long]
  rfl

theorem byte_gives_or_fails {fraction : List Char} (written : ByteText s.toList b)
    (broken : b.fraction = some fraction) :
    (∃ n : Nat, Stock.byte.Gives args options here s (.integer n)) ∨
      Stock.byte.Fails args options here s (.overflow "cannot convert float infinity to integer") := by
  rw [Stock.Fails, run_byte, ofByteCount_of_text written]
  rcases value_of_fraction broken with ⟨n, given⟩ | failed
  · have run : Stock.byte.Gives args options here s (.integer n) := by
      rw [Stock.Gives, run_byte, ofByteCount_of_text written, given]
      rfl
    exact .inl ⟨n, run⟩
  · rw [failed]
    exact .inr rfl

/-- Texts of another form are refused. A count without fraction is exact, in every spelling of its unit,
unless it has more digits than an integer is read from; one with a fraction is a number of bytes unless it is
beyond all floats. In those two cases the conversion fails, and the handler does not learn of it. -/
theorem byte_converted {i : Invocation} {h : Handler} {r : Registry} {q : Request}
    (found : r.lookup q.type = .ok (.stock .byte)) (free : reservedOptions.any q.options.has = false)
    (bound : i.values.value? q.key = some (.text s)) :
    ((∀ b, ¬ByteText s.toList b) →
        Stock.byte.Refuses q.args q.options here s "argument must be a byte number" ∧
          i.convert h r q here =
            (h.handle ⟨i.command.fullName, .conversion "argument must be a byte number" q.key, []⟩).map (·, here)) ∧
      ∀ b, ByteText s.toList b →
        (b.fraction = none → b.digits.length ≤ Decimal.digitLimit →
          Stock.byte.Gives q.args q.options here s (.integer (numeral b.digits * Nat.pow 1024 b.power : Nat)) ∧
            i.convert h r q here = .ok (.integer (numeral b.digits * Nat.pow 1024 b.power : Nat), here)) ∧
        (b.fraction = none → Decimal.digitLimit < b.digits.length →
          Stock.byte.Fails q.args q.options here s (.invalid (Decimal.tooLongMessage b.digits.length)) ∧
            i.convert h r q here = .error (.invalid (Decimal.tooLongMessage b.digits.length))) ∧
        ∀ fraction, b.fraction = some fraction →
          (∃ n : Nat, Stock.byte.Gives q.args q.options here s (.integer n) ∧
              i.convert h r q here = .ok (.integer n, here)) ∨
            Stock.byte.Fails q.args q.options here s (.overflow "cannot convert float infinity to integer") ∧
              i.convert h r q here = .error (.overflow "cannot convert float infinity to integer") := by
  constructor
  · intro unwritten
    have refused : Stock.byte.Refuses q.args q.options here s "argument must be a byte number" :=
      byte_refuses unwritten
    exact ⟨refused, convert_of_refuses found free bound refused⟩
  · intro b written
    refine ⟨fun whole short => ?_, fun whole long => ?_, fun fraction broken => ?_⟩
    · have given : Stock.byte.Gives q.args q.options here s _ := byte_gives written whole short
      exact ⟨given, convert_of_gives found free bound given⟩
    · have failed : Stock.byte.Fails q.args q.options here s _ := byte_fails written whole long
      exact ⟨failed, convert_of_fails found free bound failed⟩
    · rcases byte_gives_or_fails written broken with ⟨n, given⟩ | failed
      · exact .inl ⟨n, given, convert_of_gives found free bound given⟩
      · exact .inr ⟨failed, convert_of_fails found free bound failed⟩

theorem byte_converted_kilo :
    (Invocation.only ["store"] "size" (.text " 12 KByte")).convert .raise .stock
        ⟨.text "byte", "size", [], [], .absent⟩ (.bare ⟨2020, 2, 29⟩) =
      .ok (.integer 12288, .bare ⟨2020, 2, 29⟩) := by
  have found : Registry.stock.lookup (.text "byte") = .ok (.stock .byte) :=
    Registry.lookup_text rfl
  have blank : ∀ c ∈ [' '], isBlank c = true := List.forall_mem_singleton.mpr (by decide)
  have nothing : ∀ c ∈ ([] : List Char), isBlank c = true := nofun
  have digits : ∀ c ∈ "12".toList, isDigit c = true := List.all_eq_true.mp (by decide)
  have kilo : UnitText "K".toList 1 := .letter (i := 0) rfl
  have word : IsByteWord "Byte".toList := by
    rw [IsByteWord]
    decide
  have written : ByteText " 12 KByte".toList ⟨"12".toList, none, 1⟩ :=
    .count blank (by decide) digits .absent blank kilo word nothing
  exact (((byte_converted (q := ⟨.text "byte", "size", [], [], .absent⟩) found rfl rfl).2 _ written).1 rfl
    (by decide)).2

theorem ByteCount.ByteText.digits {digits : List Char} (filled : digits ≠ [])
    (inside : ∀ c ∈ digits, isDigit c = true) : ByteText digits ⟨digits, none, 0⟩ := by
  have nothing : ∀ c ∈ ([] : List Char), isBlank c = true := nofun
  have bare : IsByteWord [] := by
    rw [IsByteWord]
    decide
  have written := ByteText.count nothing filled inside .absent nothing .absent bare nothing
  simpa using written

/-- A text that writes a number is neither converted to it nor refused when the number is very long. -/
theorem byte_of_long_number :
    ByteText (List.replicate 4301 '1') ⟨List.replicate 4301 '1', none, 0⟩ ∧
      ¬Stock.byte.Gives [] [] (.bare ⟨2020, 2, 29⟩) (String.ofList (List.replicate 4301 '1'))
        (.integer (numeral (List.replicate 4301 '1'))) ∧
      ¬Stock.byte.Refuses [] [] (.bare ⟨2020, 2, 29⟩) (String.ofList (List.replicate 4301 '1'))
        "argument must be a byte number" ∧
      (Invocation.only ["store"] "size" (.text (String.ofList (List.replicate 4301 '1')))).convert .raise .stock
          ⟨.text "byte", "size", [], [], .absent⟩ (.bare ⟨2020, 2, 29⟩) =
        .error (.invalid (Decimal.tooLongMessage 4301)) := by
  have found : Registry.stock.lookup (.text "byte") = .ok (.stock .byte) :=
    Registry.lookup_text rfl
  generalize ones : List.replicate 4301 '1' = digits
  have size : digits.length = 4301 := by rw [← ones, List.length_replicate]
  have inside : ∀ c ∈ digits, isDigit c = true := by
    intro c member
    rw [← ones] at member
    rw [List.eq_of_mem_replicate member]
    decide
  have filled : digits ≠ [] := List.ne_nil_of_length_pos (by omega)
  have written : ByteText (String.ofList digits).toList ⟨digits, none, 0⟩ := by
    rw [String.toList_ofList]
    exact .digits filled inside
  have failed : Stock.byte.Fails [] [] (.bare ⟨2020, 2, 29⟩) (String.ofList digits)
      (.invalid (Decimal.tooLongMessage digits.length)) :=
    byte_fails (b := ⟨digits, none, 0⟩) written rfl (by simp [size, Decimal.digitLimit])
  rw [size] at failed
  refine ⟨.digits filled inside, fun given => ?_, fun refused => ?_, ?_⟩
  · cases failed.symm.trans given
  · cases failed.symm.trans refused
  · exact convert_of_fails (q := ⟨.text "byte", "size", [], [], .absent⟩) found rfl rfl failed

end Conversions

end UsageGrammar
