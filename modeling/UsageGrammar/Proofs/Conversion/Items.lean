import Mathlib.Data.List.Induction
import Mathlib.Data.List.Nodup
import UsageGrammar.Proofs.Conversion.Refusals
import UsageGrammar.Proofs.Text.Blank

/-! Conversion of lists with commas. The items are the distinct parts between the commas without the blanks
at their ends, in the order in which they first occur, and a list of such items between brackets is read as
the list itself. -/

set_option autoImplicit false

namespace UsageGrammar

open Text

/-- Items without repetitions are in the order in which they first occur. -/
theorem pairwise_idxOf_eraseDups {α : Type} [BEq α] [LawfulBEq α] (items : List α) :
    items.eraseDups.Pairwise fun a b => items.idxOf a < items.idxOf b := by
  induction items using List.reverseRecOn with
  | nil => simp
  | append_singleton front last ih =>
    have within : ∀ a ∈ front.eraseDups, a ∈ front := fun a member => List.mem_eraseDups.mp member
    have before : front.eraseDups.Pairwise fun a b =>
        (front ++ [last]).idxOf a < (front ++ [last]).idxOf b := by
      refine ih.imp_of_mem fun {a b} first second less => ?_
      rwa [List.idxOf_append_of_mem (within a first), List.idxOf_append_of_mem (within b second)]
    rw [List.eraseDups_append]
    by_cases again : last ∈ front
    · have nothing : [last].removeAll front = [] := by simp [List.removeAll, again]
      simpa [nothing] using before
    · have fresh : ([last].removeAll front).eraseDups = [last] := by
        simp [List.removeAll, again, List.eraseDups_cons]
      rw [fresh]
      refine List.pairwise_append.mpr ⟨before, List.pairwise_singleton _ _, fun a member b only => ?_⟩
      have inside := List.idxOf_lt_length_of_mem (within a member)
      rw [List.mem_singleton.mp only, List.idxOf_append_of_mem (within a member), List.idxOf_append,
        if_neg again]
      omega

theorem eraseDups_of_nodup {α : Type} [BEq α] [LawfulBEq α] {items : List α} (distinct : items.Nodup) :
    items.eraseDups = items := by
  induction items with
  | nil => rfl
  | cons item rest ih =>
    obtain ⟨fresh, distinct⟩ := List.nodup_cons.mp distinct
    have others : rest.filter (fun other => !other == item) = rest := by
      rw [List.filter_eq_self]
      intro other member
      have different : other ≠ item := fun same => fresh (same ▸ member)
      simpa using different
    rw [List.eraseDups_cons, others, ih distinct]

namespace Items

/-- The text inside the brackets around a text, or the text itself when no pair of brackets is around it. -/
def IsBody (s body : List Char) : Prop :=
  s = '[' :: body ++ [']'] ∨ s = body ∧ ∀ inner, s ≠ '[' :: inner ++ [']']

def parts (body : List Char) : List (List Char) :=
  (body.splitOn ',').map strip

/-- The items of a list that is not empty, all of them different. An item is a text without commas that
neither begins nor ends with a blank. -/
structure IsNormal (items : List String) : Prop where
  filled : items ≠ []
  distinct : items.Nodup
  nonempty : ∀ item ∈ items, item ≠ ""
  commaless : ∀ item ∈ items, ',' ∉ item.toList
  opens : ∀ item ∈ items, ∀ c ∈ item.toList.head?, isBlank c = false
  closes : ∀ item ∈ items, ∀ c ∈ item.toList.getLast?, isBlank c = false

/-- The items are the parts that are not empty, in the order in which they first occur. -/
structure Collects (parts : List (List Char)) (items : List String) : Prop where
  mem_iff : ∀ item, item ∈ items ↔ item ≠ "" ∧ item.toList ∈ parts
  order : items.Pairwise fun a b => parts.idxOf a.toList < parts.idxOf b.toList

theorem isBody_dropBrackets (s : List Char) : IsBody s (dropBrackets s) := by
  unfold dropBrackets
  split
  · next rest =>
    split
    · next closed =>
      have filled : rest ≠ [] := by
        rintro rfl
        cases closed
      have last : rest.getLast filled = ']' := by
        rw [List.getLast?_eq_some_getLast filled] at closed
        exact Option.some.inj closed
      refine .inl ?_
      rw [List.cons_append, ← last, List.dropLast_append_getLast]
    · next opened =>
      refine .inr ⟨rfl, fun inner same => opened ?_⟩
      rw [(List.cons.inj same).2]
      exact List.getLast?_concat
  · next other => exact .inr ⟨rfl, fun inner same => other (inner ++ [']']) same⟩

theorem dropBrackets_bracketed (inner : List Char) : dropBrackets ('[' :: inner ++ [']']) = inner := by
  simp [dropBrackets]

theorem splitCommas_eq (s : List Char) : splitCommas s = s.splitOn ',' := by
  induction s with
  | nil => rfl
  | cons c rest ih =>
    rw [splitCommas, List.splitOn_cons_eq_if_modifyHead, ih]
    by_cases comma : c = ','
    · simp [comma]
    · cases tail : rest.splitOn ',' with
      | nil => exact absurd tail (List.splitOn_ne_nil ',' rest)
      | cons part parts => simp [comma]

theorem comma_notMem_of_mem_splitCommas {s : List Char} : ∀ part ∈ splitCommas s, ',' ∉ part := by
  fun_induction splitCommas s with
  | case1 => simp
  | case2 rest ih => simpa using ih
  | case3 c rest other part parts divided ih =>
    rw [divided] at ih
    obtain ⟨first, others⟩ := List.forall_mem_cons.mp ih
    refine List.forall_mem_cons.mpr ⟨?_, others⟩
    rw [List.mem_cons, not_or]
    exact ⟨Ne.symm other, first⟩
  | case4 c rest other divided ih => simpa using Ne.symm other

theorem split_eq (s : List Char) : split s = (parts (dropBrackets s)).eraseDups.filter (!·.isEmpty) := by
  rw [split, splitCommas_eq, parts]

theorem mem_split_iff {s item : List Char} : item ∈ split s ↔ item ≠ [] ∧ item ∈ parts (dropBrackets s) := by
  rw [split_eq, List.mem_filter, List.mem_eraseDups, and_comm]
  simp

theorem split_eq_nil_iff {s : List Char} :
    split s = [] ↔ ∀ part ∈ (dropBrackets s).splitOn ',', ∀ c ∈ part, isBlank c = true := by
  simp only [List.eq_nil_iff_forall_not_mem, mem_split_iff, parts, List.mem_map, not_and, not_exists]
  constructor
  · intro none part member
    by_contra filled
    exact none (strip part) (strip_eq_nil_iff.not.mpr filled) part member rfl
  · rintro blank item filled part member rfl
    exact filled (strip_eq_nil_iff.mpr (blank part member))

theorem pairwise_split (s : List Char) :
    (split s).Pairwise fun a b => (parts (dropBrackets s)).idxOf a < (parts (dropBrackets s)).idxOf b := by
  rw [split_eq]
  exact (pairwise_idxOf_eraseDups _).filter _

theorem exists_part_of_mem_split {s item : List Char} (member : item ∈ split s) :
    ∃ part, ',' ∉ part ∧ strip part = item := by
  obtain ⟨-, collected⟩ := mem_split_iff.mp member
  obtain ⟨part, divided, rfl⟩ := List.mem_map.mp collected
  rw [← splitCommas_eq] at divided
  exact ⟨part, comma_notMem_of_mem_splitCommas part divided, rfl⟩

theorem isNormal_split {s : List Char} (filled : split s ≠ []) : IsNormal ((split s).map String.ofList) where
  filled := by simpa using filled
  distinct := by
    have distinct : (split s).Nodup := by
      refine (pairwise_split s).imp ?_
      rintro a _ less rfl
      exact Nat.lt_irrefl _ less
    exact distinct.map fun _ _ => String.ofList_injective
  nonempty := by
    simp only [List.forall_mem_map]
    intro item member
    have filled := (mem_split_iff.mp member).1
    simpa using filled
  commaless := by
    simp only [List.forall_mem_map, String.toList_ofList]
    intro item member comma
    obtain ⟨part, commaless, rfl⟩ := exists_part_of_mem_split member
    exact commaless (mem_of_mem_strip comma)
  opens := by
    simp only [List.forall_mem_map, String.toList_ofList]
    intro item member c first
    obtain ⟨part, -, rfl⟩ := exists_part_of_mem_split member
    exact isBlank_of_head?_strip first
  closes := by
    simp only [List.forall_mem_map, String.toList_ofList]
    intro item member c last
    obtain ⟨part, -, rfl⟩ := exists_part_of_mem_split member
    exact isBlank_of_getLast?_strip last

theorem collects_split (s : List Char) :
    Collects (parts (dropBrackets s)) ((split s).map String.ofList) where
  mem_iff := by
    intro item
    rw [List.mem_map]
    constructor
    · rintro ⟨chars, member, rfl⟩
      simpa using mem_split_iff.mp member
    · rintro ⟨filled, member⟩
      exact ⟨item.toList, mem_split_iff.mpr ⟨by simpa using filled, member⟩, String.ofList_toList⟩
  order := by
    rw [List.pairwise_map]
    simpa using pairwise_split s

theorem split_bracketed {items : List String} (normal : IsNormal items) :
    split ('[' :: (",".intercalate items).toList ++ [']']) = items.map String.toList := by
  have divided : (",".intercalate items).toList.splitOn ',' = items.map String.toList := by
    rw [String.toList_intercalate]
    refine List.splitOn_intercalate ',' ?_ (by simpa using normal.filled)
    simpa using normal.commaless
  have stripped : (items.map String.toList).map strip = items.map String.toList := by
    rw [List.map_map]
    refine List.map_congr_left fun item member => ?_
    exact strip_eq_self (normal.opens item member) (normal.closes item member)
  have distinct : (items.map String.toList).Nodup := normal.distinct.map fun _ _ => String.toList_injective
  rw [split_eq, dropBrackets_bracketed, parts, divided, stripped, eraseDups_of_nodup distinct,
    List.filter_eq_self]
  simpa using normal.nonempty

end Items

section Conversions

variable {args : List Datum} {options : Table Datum} {here : Surroundings} {s : String}

theorem run_array (args : List Datum) (options : Table Datum) (here : Surroundings) (s : String) :
    (Stock.array.ofText s args options).run here =
      (Items.read s).map fun items => (.list (items.map .text), here) := by
  simp only [Stock.ofText, StateT.run_bind, StateT.run_get, pure_bind]
  cases Items.read s <;> rfl

theorem array_refuses (nothing : Items.split s.toList = []) :
    Stock.array.Refuses args options here s "argument can not be empty" := by
  rw [Stock.Refuses, run_array, Items.read, nothing]
  rfl

theorem array_gives {items : List String} (filled : items ≠ [])
    (found : Items.split s.toList = items.map String.toList) :
    Stock.array.Gives args options here s (.list (items.map .text)) := by
  obtain ⟨first, rest, rfl⟩ := List.exists_cons_of_ne_nil filled
  rw [Stock.Gives, run_array, Items.read, found]
  simp [Except.map, Function.comp_def]

theorem array_gives_items (filled : Items.split s.toList ≠ []) : ∃ items : List String,
    Stock.array.Gives args options here s (.list (items.map .text)) ∧ Items.IsNormal items ∧
      Items.Collects (Items.parts (Items.dropBrackets s.toList)) items := by
  have found : Items.split s.toList = ((Items.split s.toList).map String.ofList).map String.toList := by
    simp [Function.comp_def]
  exact ⟨_, array_gives (by simpa using filled) found, Items.isNormal_split filled,
    Items.collects_split s.toList⟩

/-- A text is refused when all its parts are blank, and otherwise gives the distinct parts that are not, in
the order in which they first occur. A list that such a text can give is read back from its items between
brackets, whatever brackets the items hold. -/
theorem array_normal (args : List Datum) (options : Table Datum) (here : Surroundings) :
    (∀ s : String, ∃ body, Items.IsBody s.toList body ∧
        (Stock.array.Refuses args options here s "argument can not be empty" ↔
          ∀ part ∈ body.splitOn ',', ∀ c ∈ part, isBlank c = true) ∧
        ((∃ part ∈ body.splitOn ',', ∃ c ∈ part, isBlank c = false) → ∃ items : List String,
          Stock.array.Gives args options here s (.list (items.map .text)) ∧ Items.IsNormal items ∧
            Items.Collects (Items.parts body) items)) ∧
      ∀ items, Items.IsNormal items →
        Stock.array.Gives args options here ("[" ++ ",".intercalate items ++ "]") (.list (items.map .text)) := by
  constructor
  · intro s
    refine ⟨Items.dropBrackets s.toList, Items.isBody_dropBrackets s.toList, ⟨fun refused => ?_, fun blank => ?_⟩, ?_⟩
    · rw [← Items.split_eq_nil_iff]
      by_contra filled
      obtain ⟨items, given, -⟩ : ∃ items : List String,
          Stock.array.Gives args options here s (.list (items.map .text)) ∧ _ := array_gives_items filled
      cases given.symm.trans refused
    · exact array_refuses (Items.split_eq_nil_iff.mpr blank)
    · rintro ⟨part, divided, c, member, solid⟩
      refine array_gives_items fun nothing => ?_
      rw [Items.split_eq_nil_iff.mp nothing part divided c member] at solid
      cases solid
  · intro items normal
    refine array_gives normal.filled ?_
    rw [← Items.split_bracketed normal]
    simp

/-- Items that brackets come with are read back with them. -/
theorem array_normal_brackets :
    Items.IsNormal ["[x", "y]", "]["] ∧
      Stock.array.Gives [] [] (.bare ⟨2020, 2, 29⟩) "[[x,y],][]" (.list [.text "[x", .text "y]", .text "]["]) := by
  have solid : isBlank '[' = false ∧ isBlank ']' = false ∧ isBlank 'x' = false ∧ isBlank 'y' = false := by
    decide
  have normal : Items.IsNormal ["[x", "y]", "]["] :=
    ⟨by decide, by decide, by decide, by decide, by simp [solid], by simp [solid]⟩
  have written : "[" ++ ",".intercalate ["[x", "y]", "]["] ++ "]" = "[[x,y],][]" := by decide
  rw [← written]
  exact ⟨normal, (array_normal [] [] (.bare ⟨2020, 2, 29⟩)).2 _ normal⟩

end Conversions

end UsageGrammar
