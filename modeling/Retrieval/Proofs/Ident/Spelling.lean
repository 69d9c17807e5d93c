import Retrieval.Proofs.Text.Pieces

/-!
# The spelling of identifiers

Which texts are identifiers, said without reading them: a text is one if it is made of parts with
dots between them, and a part is spelled by the pattern `[A-Za-z_][A-Za-z0-9_$]*`
(`Ident.Spelling`). A dot stands in no part, so a text has one spelling at most, and reading finds
it (`Ident.parse_eq_ok_iff_spelling`). The text that is written for it is the same spelling with
every part in quotes; from that the parts are read off again, so two identifiers that are written
alike are one (`Ident.quoted_inj`).
-/

namespace Retrieval.Ident

/-! ## Spelled parts -/

/-- Whether a character is a letter of the ASCII alphabet. -/
def IsLetter (c : Char) : Prop := 'A' ≤ c ∧ c ≤ 'Z' ∨ 'a' ≤ c ∧ c ≤ 'z'

/-- Whether a text matches the pattern `[A-Za-z_][A-Za-z0-9_$]*`. -/
def SpellsPart (text : String) : Prop :=
  ∃ first later, text.toList = first :: later ∧ (IsLetter first ∨ first = '_') ∧
    ∀ c ∈ later, IsLetter c ∨ '0' ≤ c ∧ c ≤ '9' ∨ c = '_' ∨ c = '$'

/-- Whether a text is made of some parts, at least one, with dots between them. -/
structure Spelling (name : String) (parts : List String) : Prop where
  ne_nil : parts ≠ []
  valid : ∀ part ∈ parts, SpellsPart part
  joined : name = ".".intercalate parts

/-- Parts as they stand in a statement: each in double quotes, joined by dots. -/
def inQuotes (parts : List String) : String :=
  ".".intercalate (parts.map fun part => "\"" ++ part ++ "\"")

/-- The parts of an identifier as texts. -/
def texts (ident : Ident) : List String := ident.parts.map String.ofList

theorem isAlpha_iff {c : Char} : c.isAlpha ↔ IsLetter c := by
  have upper : c.isUpper ↔ 'A' ≤ c ∧ c ≤ 'Z' := decide_eq_true_iff
  have lower : c.isLower ↔ 'a' ≤ c ∧ c ≤ 'z' :=
    Bool.and_eq_true_iff.trans (and_congr decide_eq_true_iff decide_eq_true_iff)
  show (c.isUpper || c.isLower) = true ↔ _
  rw [Bool.or_eq_true, upper, lower, IsLetter]

/-- A part begins with a letter or an underscore. -/
theorem isStart_iff {c : Char} : isStart c ↔ IsLetter c ∨ c = '_' := by
  rw [isStart, Bool.or_eq_true, decide_eq_true_iff, isAlpha_iff, or_comm]

/-- Behind its first character a part may have digits and dollar signs as well. -/
theorem isLater_iff {c : Char} :
    isLater c ↔ IsLetter c ∨ '0' ≤ c ∧ c ≤ '9' ∨ c = '_' ∨ c = '$' := by
  have digit : c.isDigit ↔ '0' ≤ c ∧ c ≤ '9' := by
    rw [Char.isDigit, Bool.and_eq_true, decide_eq_true_iff, decide_eq_true_iff]
    exact .rfl
  simp only [isLater, Char.isAlphanum, Bool.or_eq_true, decide_eq_true_iff, isAlpha_iff, digit]
  constructor
  · rintro ((rfl | rfl) | letter | digit)
    · exact .inr (.inr (.inl rfl))
    · exact .inr (.inr (.inr rfl))
    · exact .inl letter
    · exact .inr (.inl digit)
  · rintro (letter | digit | rfl | rfl)
    · exact .inr (.inl letter)
    · exact .inr (.inr digit)
    · exact .inl (.inl rfl)
    · exact .inl (.inr rfl)

/-- The parts are the texts that match the pattern. -/
theorem isPart_iff {text : String} : isPart text.toList ↔ SpellsPart text := by
  rw [SpellsPart]
  cases text.toList with
  | nil => simp [isPart]
  | cons first later =>
    simp only [isPart, Bool.and_eq_true, List.all_eq_true, isStart_iff, isLater_iff]
    constructor
    · rintro ⟨start, rest⟩
      exact ⟨first, later, rfl, start, rest⟩
    · rintro ⟨_, _, eq, start, rest⟩
      obtain ⟨rfl, rfl⟩ := List.cons.inj eq
      exact ⟨start, rest⟩

/-! ## Reading -/

/-- The texts of an identifier are its parts. -/
theorem map_toList_texts (ident : Ident) : ident.texts.map String.toList = ident.parts :=
  Text.map_toList_ofList ident.parts

/-- A spelling is the pieces between dots, each of which matches the pattern. -/
theorem spelling_iff {name : String} {parts : List String} :
    Spelling name parts ↔ Text.Joins '.' name parts ∧ ∀ part ∈ parts, SpellsPart part := by
  constructor
  · rintro ⟨ne_nil, valid, joined⟩
    have absent : ∀ part ∈ parts, '.' ∉ part.toList := fun part mem =>
      not_mem_part (isPart_iff.2 (valid part mem)) (by decide)
    exact ⟨⟨ne_nil, absent, joined⟩, valid⟩
  · rintro ⟨⟨ne_nil, -, joined⟩, valid⟩
    exact ⟨ne_nil, valid, joined⟩

/-- A spelled text is cut at the dots into what it was spelled from. -/
theorem Spelling.split_eq {name : String} {parts : List String} (h : Spelling name parts) :
    Text.split '.' name.toList = parts.map String.toList := by
  rw [← Text.joins_iff.1 (spelling_iff.1 h).1, Text.map_toList_ofList]

/-- A text is read as an identifier exactly if the parts of the identifier spell it. -/
theorem parse_eq_ok_iff_spelling {name : String} {ident : Ident} :
    parse name = .ok ident ↔ Spelling name ident.texts := by
  rw [parse_eq_ok_iff]
  constructor
  · intro pieces
    refine spelling_iff.2 ⟨Text.joins_iff.2 (by rw [texts, pieces]), ?_⟩
    rw [texts, List.forall_mem_map]
    intro part mem
    rw [← isPart_iff, String.toList_ofList]
    exact ident.valid part mem
  · intro spelled
    rw [spelled.split_eq, map_toList_texts]

/-- A text is accepted just when it can be spelled. -/
theorem exists_parse_iff {name : String} :
    (∃ ident, parse name = .ok ident) ↔ ∃ parts, Spelling name parts := by
  constructor
  · rintro ⟨ident, read⟩
    exact ⟨ident.texts, parse_eq_ok_iff_spelling.1 read⟩
  · rintro ⟨parts, spelled⟩
    have valid : ∀ part ∈ parts.map String.toList, isPart part := by
      rw [List.forall_mem_map]
      exact fun part mem => isPart_iff.2 (spelled.valid part mem)
    refine ⟨⟨_, mt List.map_eq_nil_iff.1 spelled.ne_nil, valid⟩, ?_⟩
    rw [parse_eq_ok_iff, spelled.split_eq]

/-- A text has only one spelling. -/
theorem Spelling.unique {name : String} {parts others : List String} (h : Spelling name parts)
    (h' : Spelling name others) : parts = others :=
  List.map_injective_iff.2 (fun _ _ => String.toList_injective) (h.split_eq.symm.trans h'.split_eq)

/-! ## Writing -/

/-- An identifier is written with every text in quotes and dots between them. -/
theorem quoted_eq (ident : Ident) : ident.quoted = inQuotes ident.texts := by
  have parts : (ident.texts.map fun part => "\"" ++ part ++ "\"").map String.toList =
      ident.parts.map quotePart := by
    rw [← map_toList_texts, List.map_map, List.map_map]
    refine List.map_congr_left fun part _ => ?_
    simp [quotePart]
  rw [← String.toList_inj, inQuotes, String.toList_intercalate, parts, quoted, String.toList_ofList]
  rfl

/-- A part is told by what stands between its quotes. -/
theorem quotePart_injective : Function.Injective quotePart := by
  intro part other eq
  exact List.append_cancel_right (List.cons.inj eq).2

/-- Two identifiers that are written alike are one: the dots in the text are those between the
parts, so the quoted parts are the pieces between them. -/
theorem quoted_inj {ident other : Ident} : ident.quoted = other.quoted ↔ ident = other := by
  have pieces (ident : Ident) :
      Text.split '.' ident.quoted.toList = ident.parts.map quotePart := by
    rw [quoted, String.toList_ofList]
    refine Text.split_intercalate (mt List.map_eq_nil_iff.1 ident.ne_nil) ?_
    rw [List.forall_mem_map]
    intro part mem
    have plain : '.' ∉ part := not_mem_part (ident.valid part mem) (by decide)
    simpa [quotePart] using plain
  refine ⟨fun same => ?_, fun same => same ▸ rfl⟩
  have parts : ident.parts = other.parts := by
    apply List.map_injective_iff.2 quotePart_injective
    rw [← pieces, ← pieces, same]
  cases ident
  cases other
  cases parts
  rfl

/-! ## Qualified columns -/

variable {qualifier column : String}

/-- A dotted column is read as it is, and its qualifier is not looked at. -/
theorem qualified_of_dotted (dot : '.' ∈ column.toList) :
    qualified qualifier column = parse column := by
  rw [qualified]
  cases read : parse column with
  | error error => rfl
  | ok ident =>
    show (if ident.isDotted then _ else _) = _
    rw [if_pos ((isDotted_iff read).2 dot)]
    rfl

/-- A plain column behind a part is read like the two with a dot between them. -/
theorem qualified_of_plain (plain : '.' ∉ column.toList)
    (read : ∃ ident, parse column = .ok ident) (part : SpellsPart qualifier) :
    qualified qualifier column = parse (qualifier ++ "." ++ column) := by
  have named : isName column := by
    obtain ⟨ident, read⟩ := read
    rw [isName, read]
    rfl
  obtain ⟨ident, found⟩ := exists_column_iff.2 ⟨named, .inr (isPart_iff.2 part)⟩
  have parts := parts_of_column found
  rw [if_neg plain] at parts
  rw [Ident.column, Except.mapError_eq_ok_iff] at found
  rw [found, parse_eq_ok_iff.2 parts]

/-- A column is written behind a qualifier if it is read, and is dotted or the qualifier is a single
part. -/
theorem exists_qualified_iff : (∃ ident, qualified qualifier column = .ok ident) ↔
    (∃ ident, parse column = .ok ident) ∧ ('.' ∈ column.toList ∨ SpellsPart qualifier) := by
  have named : (∃ ident, parse column = .ok ident) ↔ isName column := by
    rw [← exists_get_iff]
    simp only [get, Except.mapError_eq_ok_iff]
  rw [named, ← isPart_iff, ← exists_column_iff]
  simp only [Ident.column, Except.mapError_eq_ok_iff]

/-- Exactly the spelled texts are read, as the parts that spell them. An identifier is written as
its parts in quotes, and no two texts are written alike. A column behind a qualifier is the column
itself if it is dotted, and the dotted text of both if not. -/
theorem parse_spelling :
    (∀ name, (∃ ident, parse name = .ok ident) ↔ ∃ parts, Spelling name parts) ∧
      (∀ name ident, parse name = .ok ident → Spelling name ident.texts ∧
        (∀ parts, Spelling name parts → parts = ident.texts) ∧
        ident.quoted = inQuotes ident.texts) ∧
      (∀ name other ident ident', parse name = .ok ident → parse other = .ok ident' →
        ident.quoted = ident'.quoted → name = other) ∧
      ∀ qualifier column,
        ((∃ ident, qualified qualifier column = .ok ident) ↔
          (∃ ident, parse column = .ok ident) ∧
            ('.' ∈ column.toList ∨ SpellsPart qualifier)) ∧
        ('.' ∈ column.toList → qualified qualifier column = parse column) ∧
        ('.' ∉ column.toList → (∃ ident, parse column = .ok ident) → SpellsPart qualifier →
          qualified qualifier column = parse (qualifier ++ "." ++ column)) := by
  refine ⟨fun name => exists_parse_iff, fun name ident read => ?_,
    fun name other ident ident' read read' same => ?_, fun qualifier column => ?_⟩
  · have spelled := parse_eq_ok_iff_spelling.1 read
    exact ⟨spelled, fun parts other => other.unique spelled, quoted_eq ident⟩
  · obtain rfl := quoted_inj.1 same
    rw [(parse_eq_ok_iff_spelling.1 read).joined, (parse_eq_ok_iff_spelling.1 read').joined]
  · exact ⟨exists_qualified_iff, qualified_of_dotted, qualified_of_plain⟩

/-- A dotted column keeps its own qualifier, a plain one takes that of its place, and a column of
like letters is another one. -/
theorem parse_spelling_tags : ∃ ident other, parse "tags.id" = .ok ident ∧
    parse "tags_id" = .ok other ∧ Spelling "tags.id" ["tags", "id"] ∧
    ident.quoted = "\"tags\".\"id\"" ∧ ident.quoted ≠ other.quoted ∧
    qualified "bad alias" "tags.id" = .ok ident ∧ qualified "tags" "id" = .ok ident := by
  obtain ⟨-, spelled, alike, columns⟩ := parse_spelling
  have read : parse "tags.id" = .ok _ := rfl
  have read' : parse "tags_id" = .ok _ := rfl
  have plain : parse "id" = .ok _ := rfl
  obtain ⟨spelling, -, quoted⟩ := spelled "tags.id" _ read
  have part : SpellsPart "tags" := isPart_iff.1 (by decide)
  refine ⟨_, _, read, read', spelling, quoted, fun same => ?_, ?_, ?_⟩
  · exact absurd (alike _ _ _ _ read read' same) (by decide)
  · exact ((columns "bad alias" "tags.id").2.1 (by decide)).trans read
  · exact ((columns "tags" "id").2.2 (by decide) ⟨_, plain⟩ part).trans read

end Retrieval.Ident
