import Retrieval.Proofs.Ident
import Retrieval.Statement

/-!
# Placeholders in a text

A placeholder is a dollar sign outside of double quotes together with the digits behind it
(`Text.placeholders`); a dollar sign in quotes is part of a name. The reader knows nothing of how a
text was put together.

A piece of a text is `Silent` if the reader passes over it and comes out of it outside of quotes
again, whatever stands around it. So in a statement whose texts are silent and do not go on with the
digits of a numeral, the reader finds exactly the placeholders of the statement: each with the text
that is written before it, and numbered from one (`Statement.placeholders_text`).
-/

namespace Retrieval

namespace Text

/-- A dollar sign outside of double quotes. -/
structure Placeholder where
  before : List Char
  numeral : List Char
deriving DecidableEq

/-- The placeholders of a text, given the text before it and whether that ends inside of quotes. -/
def placeholdersFrom (before : List Char) (inside : Bool) : List Char → List Placeholder
  | [] => []
  | c :: rest =>
    let later := placeholdersFrom (before ++ [c]) (if c = '"' then !inside else inside) rest
    if c = '$' ∧ inside = false then ⟨before, rest.takeWhile Char.isDigit⟩ :: later else later

/-- The placeholders of a text, from left to right. -/
def placeholders (text : List Char) : List Placeholder := placeholdersFrom [] false text

/-! ## Pieces without placeholders -/

/-- Whether a piece of a text has no placeholder and leaves no quote open. -/
def Silent (piece : List Char) : Prop :=
  ∀ before rest, placeholdersFrom before false (piece ++ rest) =
    placeholdersFrom (before ++ piece) false rest

variable {before piece part rest : List Char}

theorem silent_nil : Silent [] := by
  intro before rest
  rw [List.nil_append, List.append_nil]

/-- Silent pieces are silent together. -/
theorem Silent.append {other : List Char} (h : Silent piece) (h' : Silent other) :
    Silent (piece ++ other) := by
  intro before rest
  rw [List.append_assoc, h, h', List.append_assoc]

/-- Without dollar signs and quotes there is nothing to be found. -/
theorem silent_of_not_mem (dollars : '$' ∉ piece) (quotes : '"' ∉ piece) : Silent piece := by
  intro before rest
  induction piece generalizing before with
  | nil => exact silent_nil before rest
  | cons c piece ih =>
    rw [List.mem_cons, not_or] at dollars quotes
    rw [List.cons_append, placeholdersFrom, if_neg (Ne.symm quotes.1),
      if_neg fun h => dollars.1 h.1.symm, ih dollars.2 quotes.2, List.append_assoc,
      List.singleton_append]

/-- Up to the closing quote there is nothing to be found. -/
theorem placeholdersFrom_inside (quotes : '"' ∉ part) (before rest : List Char) :
    placeholdersFrom before true (part ++ '"' :: rest) =
      placeholdersFrom (before ++ part ++ ['"']) false rest := by
  induction part generalizing before with
  | nil =>
    rw [List.nil_append, List.append_nil, placeholdersFrom]
    rfl
  | cons c part ih =>
    rw [List.mem_cons, not_or] at quotes
    rw [List.cons_append, placeholdersFrom, if_neg (Ne.symm quotes.1),
      if_neg fun h => Bool.noConfusion h.2, ih quotes.2, List.append_assoc before [c],
      List.singleton_append]

/-- A part in its quotes is silent, even if it looks like a placeholder. -/
theorem silent_quotePart (quotes : '"' ∉ part) : Silent (Ident.quotePart part) := by
  intro before rest
  have opened : Ident.quotePart part ++ rest = '"' :: (part ++ '"' :: rest) := by
    simp [Ident.quotePart]
  rw [opened, placeholdersFrom]
  -- the first quote opens, and is no dollar sign
  show placeholdersFrom (before ++ ['"']) true (part ++ '"' :: rest) = _
  rw [placeholdersFrom_inside quotes]
  simp [Ident.quotePart]

/-! ## Numerals -/

/-- Whether a text cannot be read as more digits of a numeral before it. -/
def Undigited (text : List Char) : Prop := ∀ c ∈ text.head?, c.isDigit = false

/-- Digits are silent by themselves. -/
theorem silent_digits (digits : ∀ c ∈ piece, c.isDigit) : Silent piece := by
  refine silent_of_not_mem (fun mem => ?_) (fun mem => ?_)
  · exact absurd (digits _ mem) (by decide)
  · exact absurd (digits _ mem) (by decide)

/-- A numeral ends where the digits do. -/
theorem takeWhile_digits (digits : ∀ c ∈ piece, c.isDigit) (end' : Undigited rest) :
    (piece ++ rest).takeWhile Char.isDigit = piece := by
  rw [List.takeWhile_append_of_pos digits]
  cases rest with
  | nil => rw [List.takeWhile_nil, List.append_nil]
  | cons c rest =>
    have stop : c.isDigit = false := end' c rfl
    rw [List.takeWhile_cons_of_neg (by simp [stop]), List.append_nil]

/-- A placeholder is found with its whole numeral. -/
theorem placeholdersFrom_numeral (digits : ∀ c ∈ piece, c.isDigit) (end' : Undigited rest) :
    placeholdersFrom before false ('$' :: piece ++ rest) =
      ⟨before, piece⟩ :: placeholdersFrom (before ++ '$' :: piece) false rest := by
  rw [List.cons_append, placeholdersFrom]
  show ⟨before, _⟩ :: placeholdersFrom (before ++ ['$']) false (piece ++ rest) = _
  rw [takeWhile_digits digits end', silent_digits digits, List.append_assoc, List.singleton_append]

end Text

/-! ## Statements -/

namespace Statement

open Text (Placeholder Silent Undigited)

/-- The numeral of a placeholder. -/
def numeral (n : Nat) : List Char := (toString n).toList

/-- The placeholders of some pieces, given the text before the pieces and how many placeholders are
there. -/
def placesFrom (before : List Char) (count : Nat) : List Part → List Placeholder
  | [] => []
  | .text s :: rest => placesFrom (before ++ s.toList) count rest
  | .placeholder :: rest =>
    ⟨before, numeral (count + 1)⟩ ::
      placesFrom (before ++ '$' :: numeral (count + 1)) (count + 1) rest

/-- Whether a text of a statement is silent and cannot be read as digits of a numeral before it. -/
structure Quiet (text : String) : Prop where
  silent : Silent text.toList
  undigited : Undigited text.toList
  ne_nil : text.toList ≠ []

/-- Whether a text begins with no digit and has neither dollar signs nor quotes. -/
def isFixed (text : String) : Bool :=
  text.toList.head?.any (!·.isDigit) && text.toList.all fun c => c ≠ '$' && c ≠ '"'

/-- A text without dollar signs and quotes is quiet unless it begins with a digit. -/
theorem quiet_of_isFixed {text : String} (h : isFixed text) : Quiet text := by
  rw [isFixed, Bool.and_eq_true, List.all_eq_true] at h
  obtain ⟨first, plain⟩ := h
  have plain : ∀ c ∈ text.toList, c ≠ '$' ∧ c ≠ '"' := by simpa using plain
  refine ⟨Text.silent_of_not_mem (fun mem => ?_) (fun mem => ?_), fun c head => ?_, fun none => ?_⟩
  · exact (plain _ mem).1 rfl
  · exact (plain _ mem).2 rfl
  · have eq : text.toList.head? = some c := head
    simpa [eq] using first
  · simp [none] at first

/-- A quoted identifier is quiet. -/
theorem quiet_quoted (i : Ident) : Quiet i.quoted := by
  obtain ⟨part, rest, eq⟩ := i.exists_parts
  have text := Ident.toList_quoted eq
  refine ⟨?_, ?_, ?_⟩
  · refine Ident.quoted_induction .append ?_ (Text.silent_of_not_mem (by decide) (by decide)) i
    exact fun valid => Text.silent_quotePart (Ident.not_mem_part valid (by decide))
  · intro c head
    rw [text] at head
    obtain rfl : '"' = c := by simpa [Ident.quotePart] using head
    rfl
  · rw [text, Ident.quotePart]
    exact List.cons_ne_nil _ _

/-- A placeholder is its sign and its numeral. -/
theorem toList_placeholder (count : Nat) (rest : List Part) :
    (textFrom count (.placeholder :: rest)).toList =
      '$' :: numeral (count + 1) ++ (textFrom (count + 1) rest).toList := by
  have sign : toString "$" = "$" := rfl
  simp [textFrom, numeral, sign]

/-- A numeral has only digits. -/
theorem isDigit_of_mem_numeral {n : Nat} {c : Char} (mem : c ∈ numeral n) : c.isDigit := by
  have digits : numeral n = Nat.toDigits 10 n := by simp [numeral]
  rw [digits] at mem
  exact Nat.isDigit_of_mem_toDigits (by decide) (by decide) mem

/-- The text of pieces whose texts are quiet begins with no digit. -/
theorem undigited_textFrom {parts : List Part} (quiet : ∀ s, Part.text s ∈ parts → Quiet s)
    (count : Nat) : Undigited (textFrom count parts).toList := by
  intro c mem
  cases parts with
  | nil => simp [textFrom] at mem
  | cons part rest =>
    cases part with
    | text s =>
      have h := quiet s List.mem_cons_self
      obtain ⟨d, tail, eq⟩ := List.exists_cons_of_ne_nil h.ne_nil
      rw [textFrom, String.toList_append, eq] at mem
      exact h.undigited c (eq ▸ mem)
    | placeholder =>
      rw [toList_placeholder] at mem
      obtain rfl : '$' = c := by simpa using mem
      rfl

/-- Among quiet texts the reader finds the placeholders and nothing else. -/
theorem placeholdersFrom_textFrom {parts : List Part}
    (quiet : ∀ s, Part.text s ∈ parts → Quiet s) (before : List Char) (count : Nat) :
    Text.placeholdersFrom before false (textFrom count parts).toList =
      placesFrom before count parts := by
  induction parts generalizing before count with
  | nil => rfl
  | cons part rest ih =>
    have later : ∀ s, Part.text s ∈ rest → Quiet s := fun s mem =>
      quiet s (List.mem_cons_of_mem _ mem)
    cases part with
    | text s =>
      rw [textFrom, String.toList_append, (quiet s List.mem_cons_self).silent, ih later, placesFrom]
    | placeholder =>
      rw [toList_placeholder, Text.placeholdersFrom_numeral (fun c => isDigit_of_mem_numeral)
        (undigited_textFrom later _), ih later, placesFrom]

/-- The reader of the text of a statement finds its placeholders and nothing else. -/
theorem placeholders_text {statement : Statement}
    (quiet : ∀ s, Part.text s ∈ statement.parts → Quiet s) :
    Text.placeholders statement.text.toList = placesFrom [] 0 statement.parts :=
  placeholdersFrom_textFrom quiet [] 0

/-- The placeholders are numbered without a gap. -/
theorem numerals_placesFrom (before : List Char) (count : Nat) (parts : List Part) :
    (placesFrom before count parts).map (·.numeral) =
      (List.range' (count + 1) (parts.countP Part.isPlaceholder)).map numeral := by
  induction parts generalizing before count with
  | nil => rfl
  | cons part rest ih =>
    cases part with
    | text s => rw [placesFrom, ih, List.countP_cons_of_neg Bool.false_ne_true]
    | placeholder =>
      rw [placesFrom, List.map_cons, ih, List.countP_cons_of_pos rfl, List.range'_succ,
        List.map_cons]

/-- There is one place for every placeholder. -/
theorem length_placesFrom (before : List Char) (count : Nat) (parts : List Part) :
    (placesFrom before count parts).length = parts.countP Part.isPlaceholder := by
  have length := congrArg List.length (numerals_placesFrom before count parts)
  rwa [List.length_map, List.length_map, List.length_range'] at length

/-- Places are counted on through the parts. -/
theorem placesFrom_append (before : List Char) (count : Nat) (parts others : List Part) :
    placesFrom before count (parts ++ others) = placesFrom before count parts ++
      placesFrom (before ++ (textFrom count parts).toList)
        (count + parts.countP Part.isPlaceholder) others := by
  induction parts generalizing before count with
  | nil => simp [placesFrom, textFrom]
  | cons part rest ih =>
    cases part with
    | text s =>
      rw [List.cons_append, placesFrom, ih, placesFrom, textFrom, String.toList_append,
        List.append_assoc, List.countP_cons_of_neg Bool.false_ne_true]
    | placeholder =>
      rw [List.cons_append, placesFrom, ih, placesFrom, toList_placeholder,
        List.countP_cons_of_pos rfl, List.cons_append, List.append_assoc, Nat.add_assoc,
        Nat.add_comm 1]

end Statement

end Retrieval
