import Retrieval.Command.Arguments
import Retrieval.Proofs.Text.Beginnings
import Retrieval.Query.RawParams

/-!
# Question marks in front of a query

A query string is read with or without a question mark in front of it, and a command line drops all
the question marks in front of its query. One question mark makes no difference then
(`ofQuery_queryOf`). Behind a second one the key of the first pair begins with a question mark,
which is no key that is known; so the query itself is read without its first pair
(`ofQuery_of_marks`).
-/

namespace Retrieval.RawParams

open Text.Percent (decodeForm)

/-- A character that is neither a plus sign nor the beginning of an escape stands for itself. -/
theorem decodeForm_cons {c : Char} (plus : c ≠ '+') (percent : c ≠ '%') (rest : List Char) :
    decodeForm (c :: rest) = c :: decodeForm rest := by
  have first : Text.replace '+' ' ' (c :: rest) = c :: Text.replace '+' ' ' rest := by
    rw [Text.replace, List.map_cons, if_neg plus, ← Text.replace]
  rw [decodeForm, Text.Percent.decode, first, Text.Percent.unescape_cons percent,
    Text.Utf8.decode_encodeChar]
  rfl

/-- The base of a key stands before its first bracket. -/
theorem splitKey_fst (key : List Char) : (splitKey key).1 = (Text.cut '[' key).1 := by
  rw [splitKey]
  split
  case h_1 base eq => rw [eq]
  case h_2 base rest eq =>
    rw [eq]
    split <;> rfl

/-- No key that is known begins with a question mark. -/
theorem pairItem?_of_mark (pair : List Char) : pairItem? ('?' :: pair) = none := by
  obtain ⟨key, value, cut⟩ : ∃ key value, Text.cut '=' ('?' :: pair) = ('?' :: key, value) :=
    ⟨_, _, if_neg (by decide)⟩
  rw [pairItem?, cut]
  show item? ('?' :: key) (value.getD []) = none
  have first : (splitKey (decodeForm ('?' :: key))).1.head? = some '?' := by
    rw [decodeForm_cons (by decide) (by decide), splitKey_fst, Text.cut, if_neg (by decide)]
    rfl
  rw [item?]
  generalize splitKey (decodeForm ('?' :: key)) = named at first
  obtain ⟨base, sub?⟩ := named
  -- the base begins with the question mark, and no known word does
  have unknown {word : String} (other : word.toList.head? ≠ some '?') : ¬base = word.toList := by
    rintro rfl
    exact other first
  cases sub? with
  | none =>
    have sorting : ¬base = "sorting".toList := unknown (by decide)
    have sort : ¬base = "sort".toList := unknown (by decide)
    have page : ¬base = "page".toList := unknown (by decide)
    have perPage : ¬base = "per_page".toList := unknown (by decide)
    simp only [sorting, sort, page, perPage, or_self, if_false]
  | some sub =>
    have fields : ¬base = "fields".toList := unknown (by decide)
    have filters : ¬base = "filters".toList := unknown (by decide)
    have limit : ¬base = "limit".toList := unknown (by decide)
    simp only [fields, filters, limit, if_false]

/-! ## One mark -/

/-- Nothing is dropped from a text that begins otherwise. -/
theorem dropOne_of_head?_ne {c : Char} {text : List Char} (h : text.head? ≠ some c) :
    Text.dropOne c text = text := by
  cases text with
  | nil => rfl
  | cons d rest => exact if_neg fun eq => h (congrArg some eq)

/-- What is left does not begin with what was dropped. -/
theorem head?_dropWhile_ne {p : Char → Bool} {c : Char} (h : p c) (text : List Char) :
    (text.dropWhile p).head? ≠ some c := by
  intro first
  have stops := List.head?_dropWhile_not p text
  rw [first] at stops
  simp [h] at stops

/-- Taking off one character takes off all, unless two of them stand in front. -/
theorem dropOne_of_not_two_marks {c : Char} {text : List Char} (h : ¬[c, c] <+: text) :
    Text.dropOne c text = text.dropWhile (· = c) := by
  cases text with
  | nil => rfl
  | cons d rest =>
    by_cases same : d = c
    · rw [Text.dropOne, if_pos same, List.dropWhile_cons_of_pos (by simpa using same)]
      cases rest with
      | nil => rfl
      | cons e rest =>
        have ne : e ≠ c := by
          rintro rfl
          exact h (by simp [same])
        rw [List.dropWhile_cons_of_neg (by simpa using ne)]
    · rw [Text.dropOne, if_neg same, List.dropWhile_cons_of_neg (by simpa using same)]

/-- Where one question mark stands at most, the query of a command is read as it is given. -/
theorem ofQuery_queryOf {query : String} (h : ¬['?', '?'] <+: query.toList) :
    ofQuery (Command.queryOf query) = ofQuery query := by
  rw [ofQuery, ofQuery, items, items, Command.queryOf, String.toList_ofList,
    Text.dropRepeated_singleton, dropOne_of_head?_ne (head?_dropWhile_ne (by simp) _),
    dropOne_of_not_two_marks h]

/-! ## Several marks -/

/-- From the first separator on, a text has the pieces behind its first one. -/
theorem split_dropWhile (sep : Char) (text : List Char) : ∃ piece pieces,
    Text.split sep text = piece :: pieces ∧
      Text.split sep (text.dropWhile (· ≠ sep)) = [] :: pieces := by
  induction text with
  | nil => exact ⟨[], [], rfl, rfl⟩
  | cons c rest ih =>
    by_cases eq : c = sep
    · refine ⟨[], Text.split sep rest, if_pos eq, ?_⟩
      rw [List.dropWhile_cons_of_neg (by simpa using eq)]
      exact if_pos eq
    · obtain ⟨piece, pieces, whole, behind⟩ := ih
      refine ⟨c :: piece, pieces, ?_, ?_⟩
      · rw [Text.split, if_neg eq, whole]
      · rw [List.dropWhile_cons_of_pos (by simpa using eq), behind]

/-- Behind two question marks, the first pair of a query is not read. -/
theorem ofQuery_of_marks {query : String} (h : ['?', '?'] <+: query.toList) :
    ofQuery query = ofQuery (String.ofList (query.toList.dropWhile (· ≠ '&'))) := by
  obtain ⟨rest, eq⟩ := h
  obtain ⟨piece, pieces, whole, behind⟩ := split_dropWhile '&' rest
  have marked : Text.split '&' ('?' :: rest) = ('?' :: piece) :: pieces := by
    rw [Text.split, if_neg (by decide), whole]
  have unmarked : Text.dropOne '?' (rest.dropWhile (· ≠ '&')) = rest.dropWhile (· ≠ '&') :=
    dropOne_of_head?_ne (head?_dropWhile_ne rfl rest)
  have items_eq : items ('?' :: '?' :: rest) = items (rest.dropWhile (· ≠ '&')) := by
    rw [items, items, unmarked, behind]
    show (Text.split '&' ('?' :: rest)).filterMap _ = _
    rw [marked, List.filterMap_cons, List.filterMap_cons]
    simp [pairItem?_of_mark]
  rw [ofQuery, ofQuery, String.toList_ofList, ← eq]
  exact congrArg (List.foldl add empty) items_eq

end Retrieval.RawParams
