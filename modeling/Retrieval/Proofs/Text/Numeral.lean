import Mathlib.Data.List.TakeWhile
import Retrieval.Text.Numeral

/-!
# Texts that are numerals

Which texts are read as counts. A numeral is at least one ASCII digit, with one plus sign allowed in
front, and it has the value of its digits (`Text.Writes`). With blanks around it, it is read as a
positive count exactly when that value is positive and fits into 64 bits
(`Text.positive?_eq_some_iff`); so a count that is written out is read back
(`Text.positive?_toString`).
-/

namespace Retrieval.Text

/-- Whether a text is a numeral of a number. -/
def Writes (text : List Char) (n : Nat) : Prop :=
  ∃ digits, (text = digits ∨ text = '+' :: digits) ∧ digits ≠ [] ∧ (∀ c ∈ digits, c.isDigit) ∧
    Nat.ofDigitChars 10 digits 0 = n

/-- Whether a text, blanks around it aside, is a numeral of a positive number of 64 bits. -/
def WritesCount (text : String) (n : UInt64) : Prop :=
  Writes (trimBlanks text.toList) n.toNat ∧ 0 < n

/-! ## Digits -/

/-- The value of a digit is its distance from zero. -/
theorem digit?_eq (c : Char) :
    digit? c = if c.isDigit then some (c.toNat - '0'.toNat) else none := by
  have range : ('0' ≤ c ∧ c ≤ '9') ↔ c.isDigit := by
    rw [Char.isDigit_iff_toNat]
    rfl
  rw [digit?]
  exact if_congr range rfl rfl

/-- Digits are read from the most significant one on. -/
theorem readDigits?_eq_some_iff {value n : Nat} {digits : List Char} :
    readDigits? value digits = some n ↔
      (∀ c ∈ digits, c.isDigit) ∧ Nat.ofDigitChars 10 digits value = n := by
  induction digits generalizing value with
  | nil => simp [readDigits?]
  | cons c rest ih =>
    rw [readDigits?, digit?_eq, Nat.ofDigitChars_cons, List.forall_mem_cons]
    by_cases digit : c.isDigit
    · simp [digit, ih]
    · simp [digit]

/-- A numeral is one digit or more. -/
theorem readNat?_eq_some_iff {digits : List Char} {n : Nat} :
    readNat? digits = some n ↔
      digits ≠ [] ∧ (∀ c ∈ digits, c.isDigit) ∧ Nat.ofDigitChars 10 digits 0 = n := by
  cases digits with
  | nil => simp [readNat?]
  | cons c rest =>
    rw [readNat?, readDigits?_eq_some_iff]
    simp

/-! ## Numerals -/

/-- A plus in front is passed over. -/
theorem writes_iff_of_signed {rest : List Char} {n : Nat} :
    Writes ('+' :: rest) n ↔ readNat? rest = some n := by
  rw [readNat?_eq_some_iff]
  constructor
  · rintro ⟨digits, text, some, plain, value⟩
    rcases text with rfl | text
    · -- the sign is no digit
      exact absurd (plain '+' List.mem_cons_self) (by decide)
    · obtain rfl := List.tail_eq_of_cons_eq text
      exact ⟨some, plain, value⟩
  · intro number
    exact ⟨rest, .inr rfl, number⟩

/-- Without a plus the whole text is the numeral. -/
theorem writes_iff_of_unsigned {text : List Char} {n : Nat}
    (unsigned : ∀ rest, text ≠ '+' :: rest) : Writes text n ↔ readNat? text = some n := by
  rw [readNat?_eq_some_iff]
  constructor
  · rintro ⟨digits, rfl | signed, number⟩
    · exact number
    · exact absurd signed (unsigned digits)
  · intro number
    exact ⟨text, .inl rfl, number⟩

/-- A count is a numeral that fits in 64 bits. -/
theorem readCount?_eq_some_iff {text : List Char} {n : UInt64} :
    readCount? text = some n ↔ Writes text n.toNat := by
  -- of the numbers that fit, a count is the only one with its value
  have fits (number : Option Nat) :
      (number.filter (· < UInt64.size)).map UInt64.ofNat = some n ↔ number = some n.toNat := by
    rw [Option.map_eq_some_iff]
    constructor
    · rintro ⟨m, found, rfl⟩
      obtain ⟨found, small⟩ := Option.filter_eq_some_iff.1 found
      rw [found, UInt64.toNat_ofNat_of_lt' (of_decide_eq_true small)]
    · intro found
      refine ⟨n.toNat, Option.filter_eq_some_iff.2 ⟨found, ?_⟩, UInt64.ofNat_toNat⟩
      exact decide_eq_true n.toNat_lt
  unfold readCount?
  rw [fits]
  split
  case h_1 => exact writes_iff_of_signed.symm
  case h_2 unsigned => exact (writes_iff_of_unsigned unsigned).symm

/-- What is read is what is written. -/
theorem positive?_eq_some_iff {text : String} {n : UInt64} :
    positive? text = some n ↔ WritesCount text n := by
  rw [positive?, Option.filter_eq_some_iff, readCount?_eq_some_iff, decide_eq_true_iff]
  rfl

/-- A text is read as positive just when it writes a count. -/
theorem isSome_positive?_iff {text : String} :
    (positive? text).isSome ↔ ∃ n, WritesCount text n := by
  simp only [Option.isSome_iff_exists, positive?_eq_some_iff]

/-! ## Written counts -/

/-- A digit is no blank. -/
theorem isBlank_of_isDigit {c : Char} (digit : c.isDigit) : isBlank c = false := by
  rw [Char.isDigit_iff_toNat] at digit
  have low : 48 ≤ c.toNat := digit.1
  have high : c.toNat ≤ 57 := digit.2
  simp only [isBlank, inRanges, blankRanges, List.any_cons, List.any_nil]
  simp
  omega

/-- Digits have no blanks to trim. -/
theorem trimBlanks_of_digits {digits : List Char} (plain : ∀ c ∈ digits, c.isDigit) :
    trimBlanks digits = digits := by
  have kept {digits : List Char} (plain : ∀ c ∈ digits, c.isDigit) :
      digits.dropWhile isBlank = digits := by
    rw [List.dropWhile_eq_self_iff]
    intro some
    rw [isBlank_of_isDigit (plain _ (List.getElem_mem some))]
    exact Bool.false_ne_true
  rw [trimBlanks, kept plain, kept fun c mem => plain c (List.mem_reverse.1 mem),
    List.reverse_reverse]

/-- A positive count that is written out is read back. -/
theorem positive?_toString {n : UInt64} (positive : 0 < n) :
    positive? (toString n.toNat) = some n := by
  have digits : (toString n.toNat).toList = Nat.toDigits 10 n.toNat := by simp
  have plain : ∀ c ∈ Nat.toDigits 10 n.toNat, c.isDigit := fun c mem =>
    Nat.isDigit_of_mem_toDigits (by decide) (by decide) mem
  rw [positive?_eq_some_iff, WritesCount, digits, trimBlanks_of_digits plain]
  exact ⟨⟨_, .inl rfl, Nat.toDigits_ne_nil, plain, Nat.ofDigitChars_ten_toDigits⟩, positive⟩

end Retrieval.Text
