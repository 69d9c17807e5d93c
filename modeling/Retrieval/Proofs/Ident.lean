import Retrieval.Proofs.Except
import Retrieval.Failure

/-!
# Which texts are names

A text is the name of an identifier when every piece between its dots is a part (`isName_iff`).
Names are built from names: two names written one behind the other are a name, and so are two names
with a dot between them. Every conventional key is built that way, so keys made from valid names are
valid.
-/

namespace Retrieval

namespace Text

/-- Where two texts meet, the last piece of the first and the first piece of the second are one. -/
theorem split_append {sep : Char} {text rest last first : List Char} {init tail : List (List Char)}
    (h : split sep text = init ++ [last]) (h' : split sep rest = first :: tail) :
    split sep (text ++ rest) = init ++ (last ++ first) :: tail := by
  -- the pieces before the last one are passed by, until only the last one is left
  induction text generalizing init last with
  | nil =>
    obtain ⟨rfl, rfl⟩ : init = [] ∧ last = [] := by
      cases init with
      | nil => simpa [split, eq_comm] using h
      | cons => simp [split] at h
    exact h'
  | cons c text ih =>
    obtain ⟨piece, pieces, eq⟩ := List.exists_cons_of_ne_nil (split_ne_nil sep text)
    rw [List.cons_append, split]
    rw [split] at h
    split at h
    case isTrue sepc =>
      rw [if_pos sepc]
      cases init with
      | nil => simp [eq] at h
      | cons head init =>
        obtain ⟨rfl, same⟩ := List.cons.inj h
        rw [ih same, List.cons_append]
    case isFalse sepc =>
      rw [if_neg sepc]
      rw [eq] at h
      cases init with
      | nil =>
        obtain ⟨rfl, rfl⟩ : c :: piece = last ∧ pieces = [] := by simpa using h
        have single : split sep text = [] ++ [piece] := eq
        rw [ih single]
        rfl
      | cons head init =>
        obtain ⟨rfl, rfl⟩ := List.cons.inj h
        have longer : split sep text = (piece :: init) ++ [last] := eq
        rw [ih longer]
        rfl

/-- A text has a last piece. -/
theorem exists_split_last (sep : Char) (text : List Char) :
    ∃ init last, split sep text = init ++ [last] := by
  obtain ⟨init, last, eq⟩ := (List.eq_nil_or_concat (split sep text)).resolve_left
    (split_ne_nil sep text)
  exact ⟨init, last, by rw [eq, List.concat_eq_append]⟩

/-- Every piece of two texts in a row is a piece of one of them or made of a piece of each. -/
theorem mem_split_append {sep : Char} {text rest piece : List Char}
    (h : piece ∈ split sep (text ++ rest)) :
    piece ∈ split sep text ∨ piece ∈ split sep rest ∨
      ∃ last ∈ split sep text, ∃ first ∈ split sep rest, piece = last ++ first := by
  obtain ⟨init, last, eq⟩ := exists_split_last sep text
  obtain ⟨first, tail, eq'⟩ := List.exists_cons_of_ne_nil (split_ne_nil sep rest)
  rw [split_append eq eq', List.mem_append, List.mem_cons] at h
  rw [eq, eq']
  rcases h with mem | rfl | mem
  · exact .inl (List.mem_append_left _ mem)
  · exact .inr (.inr ⟨last, by simp, first, by simp, rfl⟩)
  · exact .inr (.inl (List.mem_cons_of_mem _ mem))

/-- A separator between two texts separates their pieces. -/
theorem split_append_cons (sep : Char) (text rest : List Char) :
    split sep (text ++ sep :: rest) = split sep text ++ split sep rest := by
  obtain ⟨init, last, eq⟩ := exists_split_last sep text
  have next : split sep (sep :: rest) = [] :: split sep rest := by rw [split, if_pos rfl]
  rw [split_append eq next, eq, List.append_nil, List.append_assoc, List.singleton_append]

/-- A text without the separator is one piece. -/
theorem split_of_not_mem {sep : Char} {text : List Char} (h : sep ∉ text) :
    split sep text = [text] := by
  induction text with
  | nil => rfl
  | cons c text ih =>
    rw [List.mem_cons, not_or] at h
    rw [split, if_neg (Ne.symm h.1), ih h.2]

/-- Only a text with the separator has more than one piece. -/
theorem one_lt_length_split_iff {sep : Char} {text : List Char} :
    1 < (split sep text).length ↔ sep ∈ text := by
  constructor
  · intro long
    refine Decidable.by_contra fun absent => ?_
    rw [split_of_not_mem absent] at long
    exact Nat.lt_irrefl 1 long
  · intro mem
    obtain ⟨before, rest, rfl⟩ := List.append_of_mem mem
    rw [split_append_cons, List.length_append]
    have left := List.length_pos_iff.2 (split_ne_nil sep before)
    have right := List.length_pos_iff.2 (split_ne_nil sep rest)
    omega

/-- Joined pieces are taken apart again if the separator is in none of them. -/
theorem split_intercalate {sep : Char} {pieces : List (List Char)} (ne_nil : pieces ≠ [])
    (absent : ∀ piece ∈ pieces, sep ∉ piece) :
    split sep (List.intercalate [sep] pieces) = pieces := by
  induction pieces with
  | nil => exact absurd rfl ne_nil
  | cons piece rest ih =>
    have first : split sep piece = [piece] := split_of_not_mem (absent piece List.mem_cons_self)
    cases rest with
    | nil => rw [List.intercalate_singleton, first]
    | cons next rest =>
      have later := ih (List.cons_ne_nil _ _) fun piece mem => absent piece (.tail _ mem)
      rw [List.intercalate_cons_cons, List.append_assoc, List.singleton_append, split_append_cons,
        first, later, List.singleton_append]

end Text

namespace Ident

/-! ## Parts -/

/-- What may begin a part may stand later in it. -/
theorem isLater_of_isStart {c : Char} (h : isStart c) : isLater c := by
  simp only [isStart, isLater, Char.isAlphanum, Bool.or_eq_true, decide_eq_true_iff] at h ⊢
  rcases h with h | h
  · exact .inl (.inl h)
  · exact .inr (.inl h)

/-- All characters of a part may stand later in a part. -/
theorem isLater_of_mem_part {part : List Char} (h : isPart part) {c : Char} (mem : c ∈ part) :
    isLater c := by
  cases part with
  | nil => simp at mem
  | cons d rest =>
    rw [isPart, Bool.and_eq_true, List.all_eq_true] at h
    rcases List.mem_cons.1 mem with rfl | mem
    · exact isLater_of_isStart h.1
    · exact h.2 c mem

/-- A part may be continued by characters that may stand in one. -/
theorem isPart_append {part rest : List Char} (h : isPart part) (later : ∀ c ∈ rest, isLater c) :
    isPart (part ++ rest) := by
  cases part with
  | nil => simp [isPart] at h
  | cons d tail =>
    rw [isPart, Bool.and_eq_true, List.all_eq_true] at h
    rw [List.cons_append, isPart, Bool.and_eq_true, List.all_eq_true]
    refine ⟨h.1, fun c mem => ?_⟩
    rcases List.mem_append.1 mem with mem | mem
    · exact h.2 c mem
    · exact later c mem

/-- No character that is not allowed later stands in a part. -/
theorem not_mem_part {part : List Char} (h : isPart part) {c : Char} (bad : isLater c = false) :
    c ∉ part := by
  intro mem
  rw [isLater_of_mem_part h mem] at bad
  exact Bool.noConfusion bad

/-! ## Names -/

/-- Reading succeeds on the names, and the parts are the pieces between the dots. -/
theorem parse_eq_ok_iff {name : String} {ident : Ident} :
    parse name = .ok ident ↔ ident.parts = Text.split '.' name.toList := by
  -- a list of pieces is read when none of them has an error, and all are parts then
  have whole (ne_nil : Text.split '.' name.toList ≠ []) :
      ofParts name (Text.split '.' name.toList) ne_nil = .ok ident ↔
        ident.parts = Text.split '.' name.toList := by
    obtain ⟨parts, nonempty, valid⟩ := ident
    unfold ofParts
    split
    case h_1 error found =>
      refine ⟨fun h => by simp at h, fun (h : parts = _) => ?_⟩
      have none : (Text.split '.' name.toList).findSome? (partError? name) = none := by
        rw [List.findSome?_eq_none_iff]
        intro part mem
        exact partError?_eq_none_iff.2 (valid part (h ▸ mem))
      simp [none] at found
    case h_2 none =>
      rw [Except.ok.injEq, Ident.mk.injEq, eq_comm]
  rw [parse]
  split
  case isTrue empty =>
    obtain rfl : name = "" := by simpa using empty
    refine ⟨fun h => by simp at h, fun h => ?_⟩
    have bad := ident.valid [] (by rw [h]; decide)
    simp [isPart] at bad
  case isFalse => exact whole _

/-- A text is a name when every piece between its dots is a part. -/
theorem isName_iff {name : String} :
    isName name ↔ ∀ part ∈ Text.split '.' name.toList, isPart part := by
  constructor
  · intro h
    cases read : parse name with
    | error error => simp [isName, read, Except.isOk, Except.toBool] at h
    | ok ident =>
      rw [← parse_eq_ok_iff.1 read]
      exact ident.valid
  · intro h
    have read : parse name = .ok ⟨Text.split '.' name.toList, Text.split_ne_nil _ _, h⟩ :=
      parse_eq_ok_iff.2 rfl
    rw [isName, read]
    rfl

/-- Whether a text is a part of an identifier, or several with dots between them. -/
def Dotted (name : String) : Prop :=
  ∃ parts : List (List Char), parts ≠ [] ∧ (∀ part ∈ parts, isPart part) ∧
    name.toList = List.intercalate ['.'] parts

/-- Names are parts with dots between them. -/
theorem isName_iff_dotted {name : String} : isName name ↔ Dotted name := by
  rw [isName_iff]
  constructor
  · intro valid
    exact ⟨_, Text.split_ne_nil _ _, valid, (Text.intercalate_split '.' _).symm⟩
  · rintro ⟨parts, ne_nil, valid, joined⟩
    -- no part has a dot, so the pieces of the text are the parts
    rw [joined, Text.split_intercalate ne_nil fun part mem => not_mem_part (valid part mem) rfl]
    exact valid

/-- A single part is a name. -/
theorem isName_of_isPart {name : String} (h : isPart name.toList) : isName name := by
  rw [isName_iff, Text.split_of_not_mem (not_mem_part h (by decide))]
  simpa using h

/-- A name without a dot is a single part. -/
theorem isPart_of_isName {name : String} (h : isName name) (plain : '.' ∉ name.toList) :
    isPart name.toList := by
  rw [isName_iff, Text.split_of_not_mem plain] at h
  exact h _ List.mem_cons_self

/-- Two names in a row are a name. -/
theorem isName_append {name other : String} (h : isName name) (h' : isName other) :
    isName (name ++ other) := by
  rw [isName_iff] at h h' ⊢
  rw [String.toList_append]
  intro part mem
  rcases Text.mem_split_append mem with mem | mem | ⟨last, inLast, first, inFirst, rfl⟩
  · exact h part mem
  · exact h' part mem
  · exact isPart_append (h last inLast) fun c => isLater_of_mem_part (h' first inFirst)

/-- Two names with a dot between them are a name. -/
theorem isName_dotted {name other : String} (h : isName name) (h' : isName other) :
    isName (name ++ "." ++ other) := by
  rw [isName_iff] at h h' ⊢
  intro part mem
  have joined : (name ++ "." ++ other).toList = name.toList ++ '.' :: other.toList := by simp
  rw [joined, Text.split_append_cons, List.mem_append] at mem
  exact mem.elim (h part) (h' part)

/-! ## Reading names -/

/-- A name is read as its pieces between dots. -/
theorem get_eq_ok_iff {name : String} {ident : Ident} :
    get name = .ok ident ↔ ident.parts = Text.split '.' name.toList := by
  rw [← parse_eq_ok_iff, get, Except.mapError_eq_ok_iff]

/-- Just the names can be read. -/
theorem exists_get_iff {name : String} : (∃ ident, get name = .ok ident) ↔ isName name := by
  rw [isName_iff]
  constructor
  · rintro ⟨ident, read⟩
    rw [← get_eq_ok_iff.1 read]
    exact ident.valid
  · intro valid
    exact ⟨⟨_, Text.split_ne_nil _ _, valid⟩, get_eq_ok_iff.2 rfl⟩

/-- An identifier has several parts just when there is a dot in its name. -/
theorem isDotted_iff {name : String} {ident : Ident} (h : parse name = .ok ident) :
    ident.isDotted = true ↔ '.' ∈ name.toList := by
  rw [isDotted, decide_eq_true_iff, parse_eq_ok_iff.1 h]
  exact Text.one_lt_length_split_iff

/-- A column is written when it is a name, and its qualifier is a part or not needed. -/
theorem exists_column_iff {qualifier name : String} :
    (∃ ident, column qualifier name = .ok ident) ↔
      isName name ∧ ('.' ∈ name.toList ∨ isPart qualifier.toList) := by
  simp only [column, Except.mapError_eq_ok_iff]
  rw [qualified]
  -- the qualifier is looked at only where the name is read and has no dot
  cases read : parse name with
  | error error =>
    have bad : ¬isName name := by simp [isName, read, Except.isOk, Except.toBool]
    simp [bind, Except.bind, bad]
  | ok ident =>
    have named : isName name := by simp [isName, read, Except.isOk, Except.toBool]
    have part : partError? qualifier qualifier.toList = none ↔ isPart qualifier.toList :=
      partError?_eq_none_iff
    rw [← isDotted_iff read, ← part]
    cases dotted : ident.isDotted with
    | true => simp [bind, Except.bind, pure, Except.pure, named, dotted]
    | false =>
      simp only [bind, Except.bind, dotted, named, true_and, Bool.false_eq_true, false_or, if_false]
      split
      case h_1 error found => simp [throw, throwThe, MonadExceptOf.throw, found]
      case h_2 none => simp [pure, Except.pure, none]

/-- The parts of a column are the pieces of its name, behind the qualifier unless the name is
dotted. -/
theorem parts_of_column {qualifier name : String} {ident : Ident}
    (h : column qualifier name = .ok ident) :
    ident.parts = Text.split '.'
      (if '.' ∈ name.toList then name else qualifier ++ "." ++ name).toList := by
  rw [column, Except.mapError_eq_ok_iff, qualified, Except.bind_eq_ok_iff] at h
  obtain ⟨i, read, h⟩ := h
  have parts := parse_eq_ok_iff.1 read
  by_cases dot : '.' ∈ name.toList
  · rw [if_pos ((isDotted_iff read).2 dot), Except.pure_eq_ok_iff] at h
    rw [if_pos dot, ← h, parts]
  · rw [if_neg (mt (isDotted_iff read).1 dot)] at h
    split at h
    case h_1 => simp [throw, throwThe, MonadExceptOf.throw] at h
    case h_2 part =>
      -- the qualifier has no dot, so it is the first piece
      have plain : '.' ∉ qualifier.toList :=
        not_mem_part (partError?_eq_none_iff.1 part) (by decide)
      have whole : (qualifier ++ "." ++ name).toList = qualifier.toList ++ '.' :: name.toList := by
        simp
      rw [Except.pure_eq_ok_iff] at h
      rw [if_neg dot, whole, Text.split_append_cons, Text.split_of_not_mem plain, ← h, ← parts]
      rfl

/-! ## Quoted names -/

/-- The separator stands in front of every piece but the first. -/
theorem intercalate_cons (sep : Char) (piece : List Char) (pieces : List (List Char)) :
    List.intercalate [sep] (piece :: pieces) = piece ++ pieces.flatMap (sep :: ·) := by
  induction pieces generalizing piece with
  | nil => rw [List.intercalate_singleton, List.flatMap_nil, List.append_nil]
  | cons next pieces ih =>
    rw [List.intercalate_cons_cons, ih, List.flatMap_cons, List.cons_append, List.append_assoc,
      List.singleton_append]

/-- A quoted name is its first part in quotes and every other one behind a dot. -/
theorem toList_quoted {ident : Ident} {part : List Char} {rest : List (List Char)}
    (h : ident.parts = part :: rest) :
    ident.quoted.toList = quotePart part ++ rest.flatMap fun part => '.' :: quotePart part := by
  rw [quoted, String.toList_ofList, h, List.map_cons, intercalate_cons, List.flatMap_map]

theorem exists_parts (ident : Ident) : ∃ part rest, ident.parts = part :: rest :=
  List.exists_cons_of_ne_nil ident.ne_nil

/-- What holds of quoted parts and of dots holds of a quoted identifier, if it is kept when texts
are put together. -/
theorem quoted_induction {P : List Char → Prop} (append : ∀ {a b}, P a → P b → P (a ++ b))
    (part : ∀ {part}, isPart part → P (quotePart part)) (dot : P ['.']) (ident : Ident) :
    P ident.quoted.toList := by
  obtain ⟨first, rest, eq⟩ := exists_parts ident
  have valid := ident.valid
  rw [eq] at valid
  obtain ⟨here, later⟩ := List.forall_mem_cons.1 valid
  rw [toList_quoted eq]
  clear eq valid
  induction rest generalizing first with
  | nil => simpa using part here
  | cons next rest ih =>
    obtain ⟨there, others⟩ := List.forall_mem_cons.1 later
    rw [List.flatMap_cons, List.cons_append, ← List.singleton_append]
    exact append (part here) (append dot (ih next there others))

/-- A name that is not dotted is one part in quotes. -/
theorem toList_quoted_of_plain {ident : Ident} (plain : ident.isDotted = false) :
    ∃ part, isPart part ∧ ident.quoted.toList = quotePart part := by
  obtain ⟨part, rest, eq⟩ := exists_parts ident
  have single : rest = [] := by
    rw [isDotted, eq, decide_eq_false_iff_not, List.length_cons] at plain
    exact List.length_eq_zero_iff.1 (by omega)
  refine ⟨part, ident.valid part (by rw [eq]; exact List.mem_cons_self), ?_⟩
  rw [toList_quoted eq, single, List.flatMap_nil, List.append_nil]

/-- A name differs from what is none. -/
theorem ne_of_isName {name other : String} (h : isName name) (h' : isName other = false) :
    name ≠ other := by
  rintro rfl
  rw [h] at h'
  exact Bool.noConfusion h'

end Ident

end Retrieval
