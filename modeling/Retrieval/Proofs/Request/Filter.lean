import Retrieval.Proofs.Ident
import Retrieval.Request.Filter

/-!
# Fields and literals of filters

The field of a filter is cut out of a text by its characters, which are among those of a part of an
identifier. So whatever a client sends, a filter names a single column. The literal is an ending of
the text (`value_suffix`), so it has the characters that the client sent.
-/

namespace Retrieval

namespace Text

/-- What follows a beginning is an ending of the text. -/
theorem suffix_of_afterAnyCase? {beginning text rest : List Char}
    (h : afterAnyCase? beginning text = some rest) : rest <:+ text := by
  induction beginning generalizing text with
  | nil => exact Option.some.inj h ▸ List.suffix_rfl
  | cons b beginning ih =>
    cases text with
    | nil => exact nomatch h
    | cons c text =>
      rw [afterAnyCase?] at h
      split at h
      · exact (ih h).trans (List.suffix_cons c text)
      · exact nomatch h

/-- Dropping a character leaves an ending. -/
theorem dropOne_suffix (c : Char) (text : List Char) : dropOne c text <:+ text := by
  cases text with
  | nil => exact List.suffix_rfl
  | cons d rest =>
    rw [dropOne]
    split
    · exact List.suffix_cons d rest
    · exact List.suffix_rfl

end Text

namespace Filter

/-- A condition is an operator and, if it compares, the literal that follows the operator. -/
theorem eq_of_condition? {field text : List Char} {filter : Filter}
    (h : condition? field text = some filter) :
    ∃ op rest, operator? (Text.dropOne ' ' text) = some (op, rest) ∧
      filter = ⟨String.ofList field, op,
        if op.takesValue then some (String.ofList (Text.dropOne ' ' rest)) else none⟩ := by
  simp only [condition?, Option.bind_eq_bind, Option.bind_eq_some_iff] at h
  obtain ⟨⟨op, rest⟩, operated, h⟩ := h
  split at h
  case isTrue => exact nomatch h
  case isFalse => exact ⟨op, rest, operated, (Option.some.inj h).symm⟩

/-! ## The field -/

/-- What may begin a field may begin an identifier. -/
theorem isStart_of_isFieldStart {c : Char} (h : isFieldStart c) : Ident.isStart c := by
  rw [isFieldStart, Bool.or_comm] at h
  exact h

/-- What may begin a field may stand later in it. -/
theorem isFieldChar_of_isFieldStart {c : Char} (h : isFieldStart c) : isFieldChar c := by
  simp only [isFieldStart, isFieldChar, Char.isAlphanum, Bool.or_eq_true] at h ⊢
  exact h.elim (fun alpha => .inl (.inl alpha)) .inr

/-- What may stand in a field may stand in an identifier. -/
theorem isLater_of_isFieldChar {c : Char} (h : isFieldChar c) : Ident.isLater c := by
  simp only [isFieldChar, Ident.isLater, Bool.or_eq_true, decide_eq_true_iff] at h ⊢
  exact h.elim .inr fun underscore => .inl (.inl underscore)

/-- The field of a filter is one part of an identifier. -/
theorem isPart_field {text : List Char} {filter : Filter} (h : ofText? text = some filter) :
    Ident.isPart filter.field.toList := by
  cases text with
  | nil => simp [ofText?] at h
  | cons c rest =>
    rw [ofText?] at h
    split at h
    case isFalse => simp at h
    case isTrue start =>
      have run : (c :: rest).takeWhile isFieldChar = c :: rest.takeWhile isFieldChar := by
        rw [List.takeWhile_cons, if_pos (isFieldChar_of_isFieldStart start)]
      -- whatever follows the field, the condition keeps it as it was cut
      have cut : filter.field = String.ofList ((c :: rest).takeWhile isFieldChar) := by
        obtain ⟨op, tail, -, eq⟩ := eq_of_condition? h
        rw [eq]
      rw [cut, String.toList_ofList, run, Ident.isPart, Bool.and_eq_true, List.all_eq_true]
      refine ⟨isStart_of_isFieldStart start, fun d mem => ?_⟩
      exact isLater_of_isFieldChar (List.all_eq_true.1 List.all_takeWhile d mem)

/-- The field of a filter is a name. -/
theorem isName_field {text : List Char} {filter : Filter} (h : ofText? text = some filter) :
    Ident.isName filter.field :=
  Ident.isName_of_isPart (isPart_field h)

/-! ## The literal -/

/-- What stands behind an operator is an ending of the text. -/
theorem suffix_of_operator? {text rest : List Char} {op : Op}
    (h : operator? text = some (op, rest)) : rest <:+ text := by
  obtain ⟨op', -, found⟩ := List.exists_of_findSome?_eq_some h
  obtain ⟨rest', after, same⟩ := Option.map_eq_some_iff.1 found
  obtain ⟨-, rfl⟩ := Prod.mk.inj same
  exact Text.suffix_of_afterAnyCase? after

/-- The literal of a filter is an ending of its text. -/
theorem value_suffix {text : List Char} {filter : Filter} (h : ofText? text = some filter)
    {value : String} (compares : filter.value = some value) : value.toList <:+ text := by
  cases text with
  | nil => exact nomatch h
  | cons c rest =>
    rw [ofText?] at h
    split at h
    case isFalse => exact nomatch h
    case isTrue =>
      obtain ⟨op, tail, operated, rfl⟩ := eq_of_condition? h
      have eq : value = String.ofList (Text.dropOne ' ' tail) := by
        dsimp only at compares
        split at compares
        · exact (Option.some.inj compares).symm
        · exact nomatch compares
      rw [eq, String.toList_ofList]
      have condition : (c :: rest).dropWhile isFieldChar <:+ c :: rest := List.dropWhile_suffix _
      have unspaced := (Text.dropOne_suffix ' ' _).trans condition
      have unsigned := (suffix_of_operator? operated).trans unspaced
      exact (Text.dropOne_suffix ' ' tail).trans unsigned

end Filter

end Retrieval
