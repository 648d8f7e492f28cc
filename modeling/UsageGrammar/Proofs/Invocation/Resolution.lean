import Mathlib.Data.List.TakeWhile
import UsageGrammar.Proofs.Model

/-! Resolution of a command that is named in front of its flags. The words of its local name are no
flags, so the name ends where the flags begin, and no other command has the whole of it. -/

set_option autoImplicit false

namespace UsageGrammar.Model

/-- The words that name a command in front of its arguments; the main command needs none. -/
def address (m : Model) (c : Command) : List String :=
  if c = m.main then [] else Text.fields c.name

/-- A token that cannot be part of the name of a command. -/
def IsDashed (token : String) : Prop :=
  token.toList.head? = some '-'

theorem find_child {m : Model} (legal : m.Legal) {c : Command} (member : c ∈ m.children) :
    m.children.find? (·.name == c.name) = some c := by
  obtain ⟨found, same⟩ : ∃ found, m.children.find? (·.name == c.name) = some found := by
    rw [← Option.isSome_iff_exists, List.find?_isSome]
    exact ⟨c, member, beq_self_eq_true c.name⟩
  have named : found.name = c.name := by simpa using List.find?_some same
  rw [same, List.inj_on_of_nodup_map legal.distinct (List.mem_of_find?_eq_some same) member named]

/-- A token that cannot be part of the name comes next, or nothing does. -/
def EndsName (tokens : List String) : Prop :=
  ∀ token ∈ tokens.head?, IsDashed token

theorem candidates_append {words rest : List String}
    (plain : ∀ word ∈ words, ¬IsDashed word) (ends : EndsName rest) :
    candidates (words ++ rest) = words := by
  have passes : ∀ word ∈ words, (word.toList.head? != some '-') = true := fun word member =>
    bne_iff_ne.mpr (plain word member)
  rw [candidates, List.takeWhile_append_of_pos passes]
  cases rest with
  | nil => exact List.append_nil words
  | cons token rest =>
    have dashed : token.toList.head? = some '-' := ends token rfl
    rw [List.takeWhile_cons_of_neg (by simp [dashed])]
    exact List.append_nil words

theorem longestMatch_child {m : Model} (legal : m.Legal) {c : Command} (member : c ∈ m.children)
    {first : String} {words : List String} (named : c.name = joinWords (first :: words)) (rest : List String) :
    m.longestMatch (first :: words ++ rest) (words.length + 1) = some (c, rest) := by
  have taken : (first :: words ++ rest).take (words.length + 1) = first :: words := by
    rw [← List.length_cons]
    exact List.take_left
  have dropped : (first :: words ++ rest).drop (words.length + 1) = rest := by
    rw [← List.length_cons]
    exact List.drop_left
  simp only [longestMatch, taken, dropped, ← named, find_child legal member]

theorem resolve_child {m : Model} (legal : m.Legal) {c : Command} (child : c ∈ m.children)
    {rest : List String} (ends : EndsName rest) :
    m.resolve (Text.fields c.name ++ rest) = .ok (c, rest) := by
  obtain ⟨first, words, -, nonempty, whole, named⟩ := legal.children c child
  have shape : ∀ word ∈ words, Command.isWord word.toList = true := fun word inside =>
    (legal.commands c (List.mem_cons_of_mem _ child)).words word (whole ▸ List.mem_cons_of_mem first inside)
  have plain : ∀ word ∈ words, ¬IsDashed word := fun word inside =>
    Command.ne_hyphen_of_isWord (shape word inside)
  have inhabited : ¬m.children.isEmpty = true := by
    rw [List.isEmpty_iff]
    exact List.ne_nil_of_mem child
  obtain ⟨second, more, rfl⟩ := List.exists_cons_of_ne_nil nonempty
  have matched := longestMatch_child legal child named rest
  rw [named, fields_joinWords shape, resolve, if_neg inhabited, candidates_append plain ends]
  simp only [matched]

theorem resolve_address {m : Model} (legal : m.Legal) {c : Command} (member : c ∈ m.commands)
    {token : String} (dashed : IsDashed token) (rest : List String) :
    m.resolve (m.address c ++ token :: rest) = .ok (c, token :: rest) := by
  have ends : EndsName (token :: rest) := by
    rintro other ⟨⟩
    exact dashed
  by_cases main : c = m.main
  · have unnamed := candidates_append (List.forall_mem_nil _) ends
    rw [List.nil_append] at unnamed
    rw [address, if_pos main, List.nil_append, resolve, unnamed, main]
    split <;> rfl
  · rw [address, if_neg main]
    exact resolve_child legal ((List.mem_cons.mp member).resolve_left main) ends

end UsageGrammar.Model
