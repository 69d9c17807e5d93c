import Mathlib.Data.List.Basic
import Retrieval.Text.Split

/-!
# Beginnings and endings of a text

What stands in front of the first separator of a text is one thing (`append_sep_inj`). A text has a
given beginning or not (`after?_eq_some_iff`), and likewise an ending (`before?_eq_some_iff`). Where
a beginning is taken off as often as it stands there, what is left is the one text without it behind
some repetitions of it (`dropRepeated_eq_iff`); so only a text that has the beginning is changed
(`dropRepeated_eq_self_iff`).
-/

namespace Retrieval.Text

/-- Texts that are cut at a separator are equal when their parts are. -/
theorem append_sep_inj {sep : Char} {before before' after after' : List Char} (absent : sep ∉ before)
    (absent' : sep ∉ before') (eq : before ++ sep :: after = before' ++ sep :: after') :
    before = before' ∧ after = after' := by
  have cut := cut_eq_some_iff.2 ⟨eq, absent'⟩
  rw [cut_eq_some_iff.2 ⟨rfl, absent⟩, Prod.mk.injEq, Option.some.injEq] at cut
  exact cut

variable {beginning text rest : List Char}

/-- What is behind a beginning makes up the text with it. -/
theorem after?_eq_some_iff : after? beginning text = some rest ↔ text = beginning ++ rest := by
  induction beginning generalizing text with
  | nil => simp [after?]
  | cons b bs ih =>
    cases text with
    | nil => simp [after?]
    | cons c cs =>
      rw [after?]
      split
      case isTrue eq => rw [ih, eq, List.cons_append, List.cons.injEq, and_iff_right rfl]
      case isFalse ne => simp [Ne.symm ne]

/-- Nothing is behind what does not begin the text. -/
theorem after?_eq_none_iff : after? beginning text = none ↔ ¬beginning <+: text := by
  rw [Option.eq_none_iff_forall_ne_some]
  constructor
  · rintro none ⟨rest, rfl⟩
    exact none rest (after?_eq_some_iff.2 rfl)
  · intro none rest has
    exact none ⟨rest, (after?_eq_some_iff.1 has).symm⟩

variable {ending stem : List Char}

/-- What is before an ending makes up the text with it. -/
theorem before?_eq_some_iff :
    before? ending text = some stem ↔ text = stem ++ ending := by
  rw [before?, Option.map_eq_some_iff]
  constructor
  · rintro ⟨reversed, has, rfl⟩
    rw [← List.reverse_reverse text, after?_eq_some_iff.1 has, List.reverse_append,
      List.reverse_reverse]
  · rintro rfl
    exact ⟨stem.reverse, after?_eq_some_iff.2 List.reverse_append, List.reverse_reverse stem⟩

/-- Something is before just what ends the text. -/
theorem isSome_before?_iff : (before? ending text).isSome ↔ ending <:+ text := by
  rw [Option.isSome_iff_exists]
  exact exists_congr fun stem => before?_eq_some_iff.trans eq_comm

/-- Whether a text is some repetitions of a beginning and then a rest that does not have it. -/
structure Repeats (beginning text rest : List Char) : Prop where
  behind : ∃ n, text = (List.replicate n beginning).flatten ++ rest
  bare : ¬beginning <+: rest

/-- Nothing is dropped from a text that begins otherwise. -/
theorem dropRepeated_of_not_prefix (bare : ¬beginning <+: text) :
    dropRepeated beginning text = text := by
  rw [dropRepeated, after?_eq_none_iff.2 bare]

/-- One repetition more is dropped as well. -/
theorem dropRepeated_append (ne_nil : beginning ≠ []) (rest : List Char) :
    dropRepeated beginning (beginning ++ rest) = dropRepeated beginning rest := by
  have shorter : rest.length < (beginning ++ rest).length := by
    have := List.length_pos_iff.2 ne_nil
    rw [List.length_append]
    omega
  rw [dropRepeated, after?_eq_some_iff.2 rfl]
  exact if_pos shorter

/-- Taking off all repetitions leaves the one rest behind them. -/
theorem dropRepeated_eq_iff (ne_nil : beginning ≠ []) :
    dropRepeated beginning text = rest ↔ Repeats beginning text rest := by
  constructor
  · rintro rfl
    fun_induction dropRepeated beginning text with
    | case1 text rest has _ ih =>
      obtain ⟨⟨n, behind⟩, bare⟩ := ih
      refine ⟨⟨n + 1, ?_⟩, bare⟩
      rw [after?_eq_some_iff.1 has, List.replicate_succ, List.flatten_cons, List.append_assoc,
        ← behind]
    | case2 text rest has not_shorter =>
      rw [after?_eq_some_iff.1 has, List.length_append] at not_shorter
      have := List.length_pos_iff.2 ne_nil
      omega
    | case3 text none => exact ⟨⟨0, rfl⟩, after?_eq_none_iff.1 none⟩
  · rintro ⟨⟨n, rfl⟩, bare⟩
    induction n with
    | zero => exact dropRepeated_of_not_prefix bare
    | succ n ih =>
      rw [List.replicate_succ, List.flatten_cons, List.append_assoc, dropRepeated_append ne_nil, ih]

/-- Only a text that begins otherwise is left as it is. -/
theorem dropRepeated_eq_self_iff (ne_nil : beginning ≠ []) :
    dropRepeated beginning text = text ↔ ¬beginning <+: text :=
  ⟨fun h => ((dropRepeated_eq_iff ne_nil).1 h).bare, dropRepeated_of_not_prefix⟩

/-- Of one character, all that stand at the beginning are taken off. -/
theorem dropRepeated_singleton (c : Char) (text : List Char) :
    dropRepeated [c] text = text.dropWhile (· = c) := by
  induction text with
  | nil => exact dropRepeated_of_not_prefix (by simp)
  | cons d rest ih =>
    by_cases eq : d = c
    · rw [eq, List.dropWhile_cons_of_pos (by simp), ← ih]
      exact dropRepeated_append (List.cons_ne_nil c []) rest
    · rw [List.dropWhile_cons_of_neg (by simpa using eq)]
      exact dropRepeated_of_not_prefix (by simp [Ne.symm eq])

end Retrieval.Text
