import Mathlib.Data.List.Basic
import Retrieval.Text.Case

/-!
# Texts in lower case

Only a capital sigma looks at the characters around it, and neither of its lower cases is a capital
sigma. So a text is its own lower case exactly when each of its characters is, whatever their order
(`lower_eq_self_iff`).
-/

namespace Retrieval.Text

variable {text : List Char}

/-- The lower case of a character can begin with the character only if it is nothing else. -/
theorem lowerChar_append_eq_cons_iff {c : Char} {others : List Char} :
    lowerChar c ++ others = c :: text ↔ lowerChar c = [c] ∧ others = text := by
  rw [lowerChar]
  split
  case isTrue dotted =>
    subst dotted
    constructor
    · intro eq
      exact absurd (List.cons.inj eq).1 (by decide)
    · rintro ⟨eq, -⟩
      exact absurd (List.cons.inj eq).1 (by decide)
  case isFalse => rw [List.singleton_append, List.cons.injEq, List.cons.injEq, and_iff_left rfl]

/-- Apart from its place in a word, the capital sigma has one small letter. -/
theorem lowerChar_sigma : lowerChar '\u03A3' = ['\u03C3'] := by decide +kernel

/-- What comes before a text does not decide whether the text is in lower case. -/
theorem lowerAfter_eq_self_iff {before : List Char} :
    lowerAfter before text = text ↔ ∀ c ∈ text, lowerChar c = [c] := by
  induction text generalizing before with
  | nil => simp [lowerAfter]
  | cons c rest ih =>
    rw [lowerAfter, List.forall_mem_cons]
    by_cases sigma : c = '\u03A3'
    · subst sigma
      rw [if_pos rfl, lowerChar_sigma]
      constructor
      · intro eq
        -- the lower case begins with a small sigma, final or not
        have head := (List.cons.inj eq).1
        split at head <;> exact absurd head (by decide)
      · rintro ⟨eq, -⟩
        exact absurd (List.cons.inj eq).1 (by decide)
    · rw [if_neg sigma, lowerChar_append_eq_cons_iff, ih]

/-- A text in lower case is one of characters in lower case. -/
theorem lower_eq_self_iff : lower text = text ↔ ∀ c ∈ text, lowerChar c = [c] :=
  lowerAfter_eq_self_iff

end Retrieval.Text
