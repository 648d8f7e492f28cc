import Mathlib.Data.List.Nodup
import Mathlib.Data.List.Perm.Basic
import UsageGrammar.Table

/-! Tables as finite maps. What a table holds after values were put into it, that names stay distinct,
and that tables of distinct names with the same values differ in order only. -/

set_option autoImplicit false

namespace UsageGrammar.Table

variable {α : Type}

theorem value?_put (t : Table α) (name other : String) (value : α) :
    (t.put name value).value? other = if other = name then some value else t.value? other := by
  split
  · next same => rw [same, value?_put_self]
  · next different => exact value?_put_of_ne t different value

theorem value?_cons (entry : String × α) (t : Table α) (name : String) :
    value? (entry :: t) name = if name = entry.1 then some entry.2 else t.value? name := by
  unfold value?
  rw [List.lookup_cons]
  by_cases same : name = entry.1
  · simp [same]
  · simp [same, beq_false_of_ne same]

@[simp] theorem names_cons (entry : String × α) (t : Table α) :
    names (entry :: t) = entry.1 :: t.names := rfl

@[simp] theorem values_cons (entry : String × α) (t : Table α) :
    values (entry :: t) = entry.2 :: t.values := rfl

theorem names_append (t u : Table α) : names (t ++ u) = t.names ++ u.names :=
  List.map_append

theorem values_append (t u : Table α) : values (t ++ u) = t.values ++ u.values :=
  List.map_append

theorem mem_names {t : Table α} {entry : String × α} (member : entry ∈ t) : entry.1 ∈ t.names :=
  List.mem_map_of_mem member

theorem mem_values {t : Table α} {entry : String × α} (member : entry ∈ t) : entry.2 ∈ t.values :=
  List.mem_map_of_mem member

theorem value?_eq_none_iff {t : Table α} {name : String} : t.value? name = none ↔ name ∉ t.names := by
  induction t with
  | nil => simp [value?, names]
  | cons entry rest ih =>
    rw [value?_cons]
    by_cases same : name = entry.1
    · simp [same]
    · simpa [same] using ih

theorem has_iff {t : Table α} {name : String} : t.has name = true ↔ name ∈ t.names := by
  unfold has
  rw [Option.isSome_iff_ne_none, ne_eq, value?_eq_none_iff, not_not]

theorem exists_value? {t : Table α} {name : String} (member : name ∈ t.names) :
    ∃ value, t.value? name = some value :=
  Option.isSome_iff_exists.mp (has_iff.mpr member)

theorem mem_of_value? {t : Table α} {name : String} {value : α} (found : t.value? name = some value) :
    (name, value) ∈ t := by
  induction t with
  | nil => simp [value?] at found
  | cons entry rest ih =>
    rw [value?_cons] at found
    split at found
    · next same =>
      cases found
      rw [same]
      exact List.mem_cons_self
    · exact List.mem_cons_of_mem _ (ih found)

theorem value?_of_mem {t : Table α} (distinct : t.names.Nodup) {entry : String × α}
    (member : entry ∈ t) : t.value? entry.1 = some entry.2 := by
  induction t with
  | nil => cases member
  | cons first rest ih =>
    rw [names_cons, List.nodup_cons] at distinct
    rw [value?_cons]
    rcases List.mem_cons.mp member with same | member
    · simp [same]
    · have different : entry.1 ≠ first.1 := by
        intro same
        apply distinct.1
        rw [← same]
        exact mem_names member
      rw [if_neg different, ih distinct.2 member]

theorem value?_eq_some_iff {t : Table α} (distinct : t.names.Nodup) {name : String} {value : α} :
    t.value? name = some value ↔ (name, value) ∈ t :=
  ⟨mem_of_value?, fun member => value?_of_mem distinct member⟩

theorem value?_reverse {t : Table α} (distinct : t.names.Nodup) (name : String) :
    value? t.reverse name = t.value? name := by
  have reversed : (names t.reverse).Nodup := by
    simpa [names] using distinct
  apply Option.ext
  intro value
  rw [value?_eq_some_iff reversed, value?_eq_some_iff distinct, List.mem_reverse]

theorem put_of_fresh {t : Table α} {name : String} (fresh : name ∉ t.names) (value : α) :
    t.put name value = t ++ [(name, value)] := by
  induction t with
  | nil => rfl
  | cons entry rest ih =>
    simp only [names_cons, List.mem_cons, not_or] at fresh
    have different : ¬entry.1 = name := fun same => fresh.1 same.symm
    simp only [put, if_neg different, List.cons_append]
    rw [ih fresh.2]

theorem mem_put {t : Table α} {name : String} {value : α} {entry : String × α}
    (member : entry ∈ t.put name value) : entry = (name, value) ∨ entry ∈ t := by
  induction t with
  | nil => simpa [put] using member
  | cons first rest ih =>
    unfold put at member
    split at member
    · rcases List.mem_cons.mp member with same | member
      · exact .inl same
      · exact .inr (List.mem_cons_of_mem _ member)
    · rcases List.mem_cons.mp member with same | member
      · exact .inr (same ▸ List.mem_cons_self)
      · exact (ih member).imp_right (List.mem_cons_of_mem _)

theorem names_put (t : Table α) (name : String) (value : α) :
    (t.put name value).names = if name ∈ t.names then t.names else t.names ++ [name] := by
  induction t with
  | nil => rfl
  | cons entry rest ih =>
    unfold put
    by_cases same : entry.1 = name
    · simp [same]
    · have different : ¬name = entry.1 := fun h => same h.symm
      simp only [names_cons, List.mem_cons, if_neg same, different, false_or, ih]
      split <;> rfl

theorem nodup_put {t : Table α} (distinct : t.names.Nodup) (name : String) (value : α) :
    (t.put name value).names.Nodup := by
  rw [names_put]
  split
  · exact distinct
  · next fresh =>
    rw [← List.concat_eq_append]
    exact distinct.concat fresh

theorem putAll_append (t u v : Table α) : t.putAll (u ++ v) = (t.putAll u).putAll v :=
  List.foldl_append

/-- New names go to the end, in order. -/
theorem putAll_of_fresh {t other : Table α} (distinct : (names (t ++ other)).Nodup) :
    t.putAll other = t ++ other := by
  induction other generalizing t with
  | nil => rw [List.append_nil]; rfl
  | cons entry rest ih =>
    have fresh : entry.1 ∉ t.names := by
      rw [names_append, names_cons] at distinct
      exact fun member => (List.nodup_append.mp distinct).2.2 _ member _ List.mem_cons_self rfl
    have step : t.putAll (entry :: rest) = (t.put entry.1 entry.2).putAll rest := rfl
    rw [List.append_cons] at distinct ⊢
    rw [step, put_of_fresh fresh, ih distinct]

theorem nodup_names_nil : (names ([] : Table α)).Nodup :=
  List.nodup_nil

theorem nodup_putAll {t : Table α} (distinct : t.names.Nodup) (other : Table α) :
    (t.putAll other).names.Nodup := by
  induction other generalizing t with
  | nil => exact distinct
  | cons entry rest ih => exact ih (nodup_put distinct entry.1 entry.2)

/-- The last value that is put under a name stays. -/
theorem value?_putAll (t other : Table α) (name : String) :
    (t.putAll other).value? name = (value? other.reverse name).or (t.value? name) := by
  induction other generalizing t with
  | nil => simp [putAll, value?]
  | cons entry rest ih =>
    have step : t.putAll (entry :: rest) = (t.put entry.1 entry.2).putAll rest := rfl
    have last : value? (rest.reverse ++ [entry]) name =
        (value? rest.reverse name).or (value? [entry] name) := List.lookup_append
    -- Later entries are looked up first; behind them this entry hides what was there.
    rw [step, ih, List.reverse_cons, last, Option.or_assoc, value?_put, value?_cons]
    congr 1
    split <;> simp [value?]

theorem value?_of_perm {t u : Table α} (distinct : t.names.Nodup) (order : t.Perm u) (name : String) :
    t.value? name = u.value? name := by
  have distinct' : u.names.Nodup := (order.map _).nodup_iff.mp distinct
  apply Option.ext
  intro value
  rw [value?_eq_some_iff distinct, value?_eq_some_iff distinct', order.mem_iff]

theorem value?_filter (t : Table α) (kept : String → Bool) (name : String) :
    value? (t.filter fun entry => kept entry.1) name = if kept name then t.value? name else none := by
  induction t with
  | nil => simp [value?]
  | cons entry rest ih =>
    rw [List.filter_cons, value?_cons]
    by_cases same : name = entry.1
    · subst same
      by_cases keeps : kept entry.1 = true
      · simp [keeps, value?_cons]
      · rw [if_neg keeps, ih, if_neg keeps, if_neg keeps]
    · rw [if_neg same, ← ih]
      split
      · rw [value?_cons, if_neg same]
      · rfl

/-- Looking up all names in order goes through the table, whose names are some of them in order. -/
theorem flatMap_value? {β : Type} {t : Table α} {all : List String} (distinct : all.Nodup)
    (part : t.names.Sublist all) (items : α → List β) :
    all.flatMap (fun name => ((t.value? name).map items).getD []) = t.flatMap (items ·.2) := by
  induction all generalizing t with
  | nil =>
    have empty : t = [] := List.map_eq_nil_iff.mp (List.sublist_nil.mp part)
    rw [empty, List.flatMap_nil, List.flatMap_nil]
  | cons name all ih =>
    obtain ⟨fresh, distinct⟩ := List.nodup_cons.mp distinct
    rw [List.flatMap_cons]
    cases t with
    | nil => simp [value?]
    | cons entry rest =>
      -- The table begins with this name or does not have it at all.
      by_cases same : entry.1 = name
      · have others : (names rest).Sublist all := by
          rw [names_cons, same] at part
          exact List.cons_sublist_cons.mp part
        have later : all.flatMap (fun name => ((value? (entry :: rest) name).map items).getD []) =
            all.flatMap (fun name => ((value? rest name).map items).getD []) := by
          refine List.flatMap_congr fun other member => ?_
          have different : other ≠ entry.1 := by
            rintro rfl
            exact fresh (same ▸ member)
          rw [value?_cons, if_neg different]
        rw [later, ih distinct others, value?_cons, if_pos same.symm]
        rfl
      · have others : (names (entry :: rest)).Sublist all := by
          rw [names_cons] at part ⊢
          cases part with
          | cons _ shorter => exact shorter
          | cons_cons _ shorter => exact absurd rfl same
        have absent : value? (entry :: rest) name = none :=
          value?_eq_none_iff.mpr fun member => fresh (others.subset member)
        rw [absent, ih distinct others]
        rfl

theorem perm_of_value?_eq {t u : Table α} (distinct : t.names.Nodup) (distinct' : u.names.Nodup)
    (same : ∀ name, t.value? name = u.value? name) : t.Perm u := by
  refine (List.perm_ext_iff_of_nodup distinct.of_map distinct'.of_map).mpr ?_
  rintro ⟨name, value⟩
  rw [← value?_eq_some_iff distinct, same, value?_eq_some_iff distinct']

end UsageGrammar.Table
