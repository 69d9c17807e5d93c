import Mathlib.Data.List.DropRight
import Retrieval.Proofs.Ident
import Retrieval.Text.Blank

/-!
# Pieces of a text

What the readers of lists rest on, said of the texts themselves: `Joins` of the pieces between
separators, and `Trims` of the name between blanks. A text has one list of pieces and one name, and
cutting and trimming find them (`joins_iff`, `trimBlanks_eq_iff`).

Both are relations with one result, and so are those that are built on them. Over a list such a
relation is a map (`forall₂_iff_map_eq`).
-/

namespace Retrieval

/-- A relation that is the graph of a function holds member by member where the function maps one
list to the other. -/
theorem forall₂_iff_map_eq {α β : Type} {R : α → β → Prop} {f : α → β}
    (graph : ∀ a b, R a b ↔ f a = b) {l : List α} {results : List β} :
    List.Forall₂ R l results ↔ l.map f = results := by
  have eq : R = fun a b => f a = b := by
    funext a b
    exact propext (graph a b)
  rw [eq, ← List.forall₂_map_left_iff, List.forall₂_eq_eq_eq]

namespace Text

theorem map_toList_ofList (texts : List (List Char)) :
    (texts.map String.ofList).map String.toList = texts := by
  rw [List.map_map]
  exact List.map_id'' (fun _ => String.toList_ofList) texts

/-! ## Between separators -/

/-- Whether some pieces, at least one, are a text when they are joined by a separator that is in
none of them. -/
structure Joins (sep : Char) (text : String) (pieces : List String) : Prop where
  ne_nil : pieces ≠ []
  absent : ∀ piece ∈ pieces, sep ∉ piece.toList
  joined : text = (String.singleton sep).intercalate pieces

/-- A text has the pieces that cutting it yields, and no others. -/
theorem joins_iff {sep : Char} {text : String} {pieces : List String} :
    Joins sep text pieces ↔ (split sep text.toList).map String.ofList = pieces := by
  constructor
  · rintro ⟨ne_nil, absent, rfl⟩
    rw [String.toList_intercalate, String.toList_singleton,
      split_intercalate (mt List.map_eq_nil_iff.1 ne_nil) (List.forall_mem_map.2 absent),
      List.map_map]
    exact List.map_id'' (fun _ => String.ofList_toList) pieces
  · rintro rfl
    refine ⟨mt List.map_eq_nil_iff.1 (split_ne_nil sep text.toList), ?_, ?_⟩
    · rw [List.forall_mem_map]
      intro piece mem
      rw [String.toList_ofList]
      exact not_mem_of_mem_split mem
    · rw [← String.toList_inj, String.toList_intercalate, String.toList_singleton,
        map_toList_ofList]
      exact (intercalate_split sep text.toList).symm

instance (sep : Char) (text : String) (pieces : List String) : Decidable (Joins sep text pieces) :=
  decidable_of_iff _ joins_iff.symm

/-- Several texts have the pieces of each. -/
theorem forall₂_joins_iff {sep : Char} {texts : List String} {pieces : List (List String)} :
    List.Forall₂ (Joins sep) texts pieces ↔
      texts.map (fun text => (split sep text.toList).map String.ofList) = pieces := by
  refine forall₂_iff_map_eq ?_
  intro text pieces
  exact joins_iff

/-! ## Between blanks -/

/-- Whether a name is all of a text but the blanks at either end. -/
structure Trims (text name : List Char) : Prop where
  blanks : ∃ before after, text = before ++ name ++ after ∧ ∀ c ∈ before ++ after, isBlank c
  first : ∀ c ∈ name.head?, ¬isBlank c
  last : ∀ c ∈ name.getLast?, ¬isBlank c

/-- Blanks are dropped from both ends. -/
theorem trimBlanks_eq (text : List Char) :
    trimBlanks text = (text.dropWhile isBlank).rdropWhile isBlank := rfl

/-- What is trimmed has a blank at neither end. -/
theorem trims_trimBlanks (text : List Char) : Trims text (trimBlanks text) := by
  rw [trimBlanks_eq]
  refine ⟨⟨text.takeWhile isBlank, (text.dropWhile isBlank).rtakeWhile isBlank, ?_, ?_⟩, ?_, ?_⟩
  · rw [List.append_assoc, List.rdropWhile_append_rtakeWhile, List.takeWhile_append_dropWhile]
  · intro c mem
    rcases List.mem_append.1 mem with mem | mem
    · exact List.mem_takeWhile_imp mem
    · exact List.mem_rtakeWhile_imp mem
  · intro c first
    -- what is left begins as the text without the blanks before it does
    obtain ⟨rest, eq⟩ := List.rdropWhile_prefix isBlank (text.dropWhile isBlank)
    have first : (text.dropWhile isBlank).head? = some c := by
      rw [← eq, List.head?_append, first, Option.some_or]
    have := List.head?_dropWhile_not isBlank text
    rw [first] at this
    simpa using this
  · intro c last
    have ne_nil : (text.dropWhile isBlank).rdropWhile isBlank ≠ [] := by
      intro eq
      rw [eq] at last
      cases last
    rw [List.getLast?_eq_some_getLast ne_nil] at last
    cases last
    exact List.rdropWhile_last_not isBlank _ ne_nil

/-- Trimming leaves the one name that stands between blanks. -/
theorem trimBlanks_eq_iff {text name : List Char} : trimBlanks text = name ↔ Trims text name := by
  constructor
  · rintro rfl
    exact trims_trimBlanks text
  · rintro ⟨⟨before, after, rfl, blank⟩, first, last⟩
    obtain ⟨blank, blank'⟩ := List.forall_mem_append.1 blank
    have ends : (name ++ after).rdropWhile isBlank = name := by
      rw [List.rdropWhile, List.reverse_append,
        List.dropWhile_append_of_pos fun c mem => blank' c (List.mem_reverse.1 mem),
        ← List.rdropWhile, List.rdropWhile_eq_self_iff]
      exact fun ne_nil => last _ (List.getLast?_eq_some_getLast ne_nil)
    rw [trimBlanks_eq, List.append_assoc, List.dropWhile_append_of_pos blank]
    cases name with
    | nil =>
      rw [List.nil_append, List.dropWhile_eq_nil_iff.2 blank']
      rfl
    | cons c rest =>
      rw [List.cons_append, List.dropWhile_cons_of_neg (first c rfl), ← List.cons_append, ends]

end Text

end Retrieval
