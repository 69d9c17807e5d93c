/-!
# Cutting text at a separator

Text is worked on as a list of characters. Splitting keeps the empty pieces, so joining the pieces
with the separator gives the text back.
-/

namespace Retrieval.Text

/-- The pieces between the occurrences of a separator, empty pieces included. -/
def split (sep : Char) : List Char → List (List Char)
  | [] => [[]]
  | c :: rest =>
    if c = sep then [] :: split sep rest
    else match split sep rest with
      | [] => [[c]]
      | piece :: pieces => (c :: piece) :: pieces

/-- There is a piece even of the empty text. -/
theorem split_ne_nil (sep : Char) (text : List Char) : split sep text ≠ [] := by
  cases text with
  | nil => simp [split]
  | cons c rest =>
    rw [split]
    split
    · simp
    · split <;> simp

/-- The pieces and the separators between them are the text. -/
theorem intercalate_split (sep : Char) (text : List Char) :
    List.intercalate [sep] (split sep text) = text := by
  induction text with
  | nil => rfl
  | cons c rest ih =>
    rw [split]
    split
    case isTrue h =>
      subst h
      -- a separator opens a new piece, any other character goes to the first one
      obtain ⟨piece, pieces, eq⟩ := List.exists_cons_of_ne_nil (split_ne_nil c rest)
      rw [eq] at ih ⊢
      rw [← ih]
      rfl
    case isFalse =>
      obtain ⟨piece, pieces, eq⟩ := List.exists_cons_of_ne_nil (split_ne_nil sep rest)
      rw [eq] at ih ⊢
      rw [← ih]
      cases pieces <;> rfl

/-- No piece holds the separator. -/
theorem not_mem_of_mem_split {sep : Char} {text piece : List Char} (h : piece ∈ split sep text) :
    sep ∉ piece := by
  induction text generalizing piece with
  | nil => simp_all [split]
  | cons c rest ih =>
    rw [split] at h
    split at h
    case isTrue =>
      rcases List.mem_cons.1 h with rfl | h
      · exact List.not_mem_nil
      · exact ih h
    case isFalse ne =>
      obtain ⟨head, pieces, eq⟩ := List.exists_cons_of_ne_nil (split_ne_nil sep rest)
      rw [eq] at h ih
      rcases List.mem_cons.1 h with rfl | h
      · simpa [Ne.symm ne] using ih List.mem_cons_self
      · exact ih (List.mem_cons_of_mem _ h)

/-! ## Cutting once -/

/-- The text before the first occurrence of a separator and, if there is one, the text after it. -/
def cut (sep : Char) : List Char → List Char × Option (List Char)
  | [] => ([], none)
  | c :: rest =>
    if c = sep then ([], some rest)
    else ((cut sep rest).map (c :: ·) id)

/-- A text is cut at its first separator. -/
theorem cut_eq_some_iff {sep : Char} {text before after : List Char} :
    cut sep text = (before, some after) ↔ text = before ++ sep :: after ∧ sep ∉ before := by
  induction text generalizing before with
  | nil => simp [cut]
  | cons c rest ih =>
    rw [cut]
    by_cases h : c = sep
    · subst h
      rw [if_pos rfl]
      cases before with
      | nil => simp
      | cons d before => simp +contextual [eq_comm]
    · rw [if_neg h]
      cases before with
      | nil => simp [Prod.ext_iff, h]
      | cons d before =>
        -- the character is put back in front of what was cut behind it
        have step : Prod.map (c :: ·) id (cut sep rest) = (d :: before, some after) ↔
            c = d ∧ cut sep rest = (before, some after) := by
          simp [Prod.ext_iff, and_assoc]
        rw [step, ih]
        constructor
        · rintro ⟨rfl, rfl, absent⟩
          exact ⟨rfl, by simpa [Ne.symm h] using absent⟩
        · rintro ⟨eq, absent⟩
          obtain ⟨rfl, rfl⟩ := List.cons.inj eq
          exact ⟨rfl, rfl, fun mem => absent (List.mem_cons_of_mem _ mem)⟩

/-- Only a text without the separator is not cut. -/
theorem cut_eq_none_iff {sep : Char} {text before : List Char} :
    cut sep text = (before, none) ↔ before = text ∧ sep ∉ text := by
  induction text generalizing before with
  | nil => simp [cut, eq_comm]
  | cons c rest ih =>
    rw [cut]
    by_cases h : c = sep
    · simp [h]
    · rw [if_neg h]
      have step : Prod.map (c :: ·) id (cut sep rest) = (before, none) ↔
          ∃ tail, before = c :: tail ∧ cut sep rest = (tail, none) := by
        rw [Prod.ext_iff]
        constructor
        · rintro ⟨rfl, eq⟩
          exact ⟨_, rfl, Prod.ext rfl eq⟩
        · rintro ⟨tail, rfl, eq⟩
          simp [eq]
      rw [step]
      constructor
      · rintro ⟨tail, rfl, eq⟩
        obtain ⟨rfl, absent⟩ := ih.1 eq
        exact ⟨rfl, by simpa [Ne.symm h] using absent⟩
      · rintro ⟨rfl, absent⟩
        exact ⟨rest, rfl, ih.2 ⟨rfl, fun mem => absent (List.mem_cons_of_mem _ mem)⟩⟩

/-- What stands behind the separator is shorter than the text. -/
theorem cut_rest_length {sep : Char} {text before after : List Char}
    (h : cut sep text = (before, some after)) : after.length < text.length := by
  rw [(cut_eq_some_iff.1 h).1, List.length_append, List.length_cons]
  omega

/-! ## Beginnings and endings -/

/-- The text without one given first character. -/
def dropOne (c : Char) : List Char → List Char
  | [] => []
  | d :: rest => if d = c then rest else d :: rest

/-- The text with one character in the place of another. -/
def replace (old new : Char) (text : List Char) : List Char :=
  text.map fun c => if c = old then new else c

/-- What follows a given beginning, if the text has it. -/
def after? : (beginning text : List Char) → Option (List Char)
  | [], text => some text
  | _ :: _, [] => none
  | b :: bs, c :: cs => if b = c then after? bs cs else none

/-- What follows a given beginning, if the text has it up to the case of ASCII letters. -/
def afterAnyCase? : (beginning text : List Char) → Option (List Char)
  | [], text => some text
  | _ :: _, [] => none
  | b :: bs, c :: cs => if b.toLower = c.toLower then afterAnyCase? bs cs else none

/-- The text without a given beginning, however often it stands there. -/
def dropRepeated (beginning text : List Char) : List Char :=
  match after? beginning text with
  | some rest => if rest.length < text.length then dropRepeated beginning rest else text
  | none => text
termination_by text.length

/-- What precedes a given ending, if the text has it. -/
def before? (ending text : List Char) : Option (List Char) :=
  (after? ending.reverse text.reverse).map List.reverse

end Retrieval.Text
