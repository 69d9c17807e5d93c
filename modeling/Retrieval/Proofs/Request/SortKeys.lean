import Retrieval.Proofs.Request.Flawless
import Retrieval.Proofs.Text.Pieces

/-!
# What becomes of a list of sort keys

A list of sort keys is made of tokens. Each token is blank or spells one sort key, said of its
characters (`SortKey.Blank` and `SortKey.Spells`); reading finds out which (`ofToken?_eq_some_iff`,
`ofToken?_eq_none_iff`). A key is kept or its field is refused, so every token is accounted for by
one rule of `Metadata.Sorts`, and by induction on these rules the pass leaves what they say
(`Request.readSorting_of_sorts`).
-/

namespace Retrieval

namespace SortKey

/-! ## Tokens -/

/-- The signs that may stand in front of the name of a field. -/
def signs : List Char := ['-', '+', ' ']

/-- Whether a text is a token without the one sign in front, or all of a token without a sign. -/
def Unsigned (token rest : List Char) : Prop :=
  (∃ sign ∈ signs, token = sign :: rest) ∨ token = rest ∧ ∀ sign ∈ signs, token.head? ≠ some sign

/-- Whether a token spells a sort key. -/
structure Spells (token : String) (key : SortKey) : Prop where
  field : ∃ rest, Unsigned token.toList rest ∧ Text.Trims rest key.field.toList
  ne_empty : key.field ≠ ""
  descending_iff : key.direction = .descending ↔ token.toList.head? = some '-'

/-- Whether a token has nothing but blanks once a sign is taken off. -/
def Blank (token : String) : Prop := ∃ rest, Unsigned token.toList rest ∧ Text.Trims rest []

/-- The sort key that is read from a token. -/
def ofToken? (token : String) : Option SortKey := ofPiece? token.toList

/-- The tokens of a list of sort keys; there are none if no list is sent. -/
def Tokens (sorting : Option String) (tokens : List String) : Prop :=
  match sorting with
  | none => tokens = []
  | some text => Text.Joins ',' text tokens

/-- A sign is taken off. -/
theorem unsigned_cons_iff {sign : Char} (mem : sign ∈ signs) {token rest : List Char} :
    Unsigned (sign :: token) rest ↔ token = rest := by
  constructor
  · rintro (⟨other, -, eq⟩ | ⟨-, plain⟩)
    · exact (List.cons.inj eq).2
    · exact absurd rfl (plain sign mem)
  · rintro rfl
    exact .inl ⟨sign, mem, rfl⟩

/-- A token without a sign is its own rest. -/
theorem unsigned_iff_of_plain {token rest : List Char}
    (plain : ∀ sign ∈ signs, token.head? ≠ some sign) : Unsigned token rest ↔ token = rest := by
  constructor
  · rintro (⟨sign, mem, rfl⟩ | ⟨eq, -⟩)
    · exact absurd rfl (plain sign mem)
    · exact eq
  · exact fun eq => .inr ⟨eq, plain⟩

/-- The name in a token, said without taking it out. -/
theorem nameOf_eq_iff {token name : List Char} :
    nameOf token = name ↔ ∃ rest, Unsigned token rest ∧ Text.Trims rest name := by
  unfold nameOf
  split
  case h_1 rest | h_2 rest | h_3 rest =>
    simp (disch := decide) only [unsigned_cons_iff, exists_eq_left', Text.trimBlanks_eq_iff]
  case h_4 minus plus space =>
    have plain : ∀ sign ∈ signs, token.head? ≠ some sign := by
      intro sign mem first
      obtain ⟨rest, rfl⟩ := List.head?_eq_some_iff.1 first
      simp only [signs, List.mem_cons, List.not_mem_nil, or_false] at mem
      rcases mem with rfl | rfl | rfl
      · exact minus rest rfl
      · exact plus rest rfl
      · exact space rest rfl
    simp only [unsigned_iff_of_plain plain, exists_eq_left', Text.trimBlanks_eq_iff]

/-- The direction is descending just behind a minus. -/
theorem descending_iff_of_ofPiece? {token : List Char} {key : SortKey}
    (read : ofPiece? token = some key) :
    key.direction = .descending ↔ token.head? = some '-' := by
  unfold ofPiece? at read
  split at read
  next direction field eq =>
    have same : key.direction = direction := by
      split at read
      · cases read
      · exact congrArg SortKey.direction (Option.some.inj read).symm
    rw [same]
    -- a sign with one of the three directions, or a token without any
    split at eq
    all_goals
      obtain ⟨rfl, -⟩ := Prod.mk.inj eq
    case h_1 | h_2 | h_3 => simp
    case h_4 minus _ _ =>
      refine ⟨Direction.noConfusion, fun first => ?_⟩
      obtain ⟨rest, rfl⟩ := List.head?_eq_some_iff.1 first
      exact absurd rfl (minus rest)

/-- Only a blank token gives no key. -/
theorem ofToken?_eq_none_iff {token : String} : ofToken? token = none ↔ Blank token := by
  have field := Request.map_field_ofPiece? token.toList
  rw [Blank, ← nameOf_eq_iff, ofToken?, ← Option.map_eq_none_iff, field]
  split <;> simp [*]

/-- A token is read as the sort key that it spells. -/
theorem ofToken?_eq_some_iff {token : String} {key : SortKey} :
    ofToken? token = some key ↔ Spells token key := by
  have field := Request.map_field_ofPiece? token.toList
  rw [ofToken?]
  constructor
  · intro read
    rw [read, Option.map_some] at field
    split at field
    case isTrue => exact absurd field (Option.some_ne_none _)
    case isFalse some =>
      have name : key.field.toList = nameOf token.toList := by
        rw [Option.some.inj field, String.toList_ofList]
      refine ⟨nameOf_eq_iff.1 name.symm, ?_, descending_iff_of_ofPiece? read⟩
      rintro empty
      rw [empty] at name
      exact some name.symm
  · obtain ⟨field', direction⟩ := key
    rintro ⟨name, ne_empty, descending⟩
    have name := nameOf_eq_iff.2 name
    have some : nameOf token.toList ≠ [] := by
      rw [name]
      exact mt String.toList_eq_nil_iff.1 ne_empty
    rw [if_neg some, name, String.ofList_toList, Option.map_eq_some_iff] at field
    obtain ⟨⟨_, direction'⟩, read, rfl⟩ := field
    have descending := (descending_iff_of_ofPiece? read).trans descending.symm
    -- the direction that is read is the one that was spelled, since both are told by the minus
    have same : direction' = direction := by
      cases direction <;> cases direction' <;> simp at descending <;> rfl
    rw [read, same]

instance (token : String) : Decidable (Blank token) :=
  decidable_of_iff _ ofToken?_eq_none_iff

/-- What spells a key is not blank. -/
theorem not_blank_of_spells {token : String} {key : SortKey} (h : Spells token key) :
    ¬Blank token := by
  rw [← ofToken?_eq_none_iff, ofToken?_eq_some_iff.2 h]
  exact Option.some_ne_none key

/-- A token that is not blank spells a sort key. -/
theorem exists_spells {token : String} (h : ¬Blank token) : ∃ key, Spells token key := by
  rw [← ofToken?_eq_none_iff] at h
  obtain ⟨key, read⟩ := Option.ne_none_iff_exists'.1 h
  exact ⟨key, ofToken?_eq_some_iff.1 read⟩

/-- Every text has its tokens. -/
theorem exists_tokens (sorting : Option String) : ∃ tokens, Tokens sorting tokens :=
  match sorting with
  | none => ⟨[], rfl⟩
  | some _ => ⟨_, Text.joins_iff.2 rfl⟩

/-- The keys of a text are those of its tokens, in order. -/
theorem ofText_of_joins {text : String} {tokens : List String} (h : Text.Joins ',' text tokens) :
    ofText text = tokens.filterMap ofToken? := by
  rw [← Text.joins_iff.1 h, List.filterMap_map, ofText]
  refine List.filterMap_congr fun piece _ => ?_
  rw [Function.comp_apply, ofToken?, String.toList_ofList]

end SortKey

/-! ## Lists of tokens -/

open SortKey (Blank Spells Tokens)

/-- What becomes of tokens in order: the sort keys that are kept and the fields that are refused. -/
inductive Metadata.Sorts (main : Metadata) : List String → List SortKey → List String → Prop
  | nil : Sorts main [] [] []
  | blank {token : String} {tokens : List String} {kept : List SortKey} {refused : List String} :
    Blank token → Sorts main tokens kept refused → Sorts main (token :: tokens) kept refused
  | keep {token : String} {tokens : List String} {kept : List SortKey} {refused : List String}
    {key : SortKey} :
    Spells token key → key.field ∈ main.sortable → Sorts main tokens kept refused →
    Sorts main (token :: tokens) (key :: kept) refused
  | refuse {token : String} {tokens : List String} {kept : List SortKey} {refused : List String}
    {key : SortKey} :
    Spells token key → key.field ∉ main.sortable → Sorts main tokens kept refused →
    Sorts main (token :: tokens) kept (key.field :: refused)

namespace Metadata

variable {main : Metadata} {tokens : List String} {kept : List SortKey} {refused : List String}

/-- Every list of tokens is sorted into kept and refused keys. -/
theorem exists_sorts (main : Metadata) (tokens : List String) :
    ∃ kept refused, main.Sorts tokens kept refused := by
  induction tokens with
  | nil => exact ⟨[], [], .nil⟩
  | cons token rest ih =>
    obtain ⟨kept, refused, sorts⟩ := ih
    by_cases blank : Blank token
    · exact ⟨kept, refused, .blank blank sorts⟩
    · obtain ⟨key, spells⟩ := SortKey.exists_spells blank
      by_cases allowed : key.field ∈ main.sortable
      · exact ⟨key :: kept, refused, .keep spells allowed sorts⟩
      · exact ⟨kept, key.field :: refused, .refuse spells allowed sorts⟩

/-- Every token that is not blank is accounted for once. -/
theorem Sorts.length_add (h : main.Sorts tokens kept refused) :
    kept.length + refused.length = (tokens.filter (¬Blank ·)).length := by
  induction h with
  | nil => rfl
  | blank blank _ ih => rw [List.filter_cons_of_neg (by simpa using blank), ih]
  | keep spells _ _ ih =>
    have some := SortKey.not_blank_of_spells spells
    rw [List.filter_cons_of_pos (by simpa using some), List.length_cons, List.length_cons, ← ih]
    omega
  | refuse spells _ _ ih =>
    have some := SortKey.not_blank_of_spells spells
    rw [List.filter_cons_of_pos (by simpa using some), List.length_cons, List.length_cons, ← ih]
    omega

end Metadata

namespace Request

variable {main : Metadata} {tokens : List String} {kept : List SortKey} {refused : List String}

/-- The request with sort keys and refused fields behind those that it has. -/
def withSorting (request : Request) (kept : List SortKey) (refused : List String) : Request :=
  { request with
    sorting := request.sorting ++ kept
    problems := request.problems ++ refused.map .unknownSortField }

theorem withSorting_nil (request : Request) : request.withSorting [] [] = request := by
  rw [withSorting, List.map_nil, List.append_nil, List.append_nil]

/-- Reading the keys one by one keeps and refuses what the rules do. -/
theorem foldl_sortBy (h : main.Sorts tokens kept refused) (request : Request) :
    (tokens.filterMap SortKey.ofToken?).foldl (sortBy main) request =
      request.withSorting kept refused := by
  induction h generalizing request with
  | nil => exact request.withSorting_nil.symm
  | blank blank _ ih => rw [List.filterMap_cons_none (SortKey.ofToken?_eq_none_iff.2 blank), ih]
  | @keep token tokens kept refused key spells allowed _ ih =>
    rw [List.filterMap_cons_some (SortKey.ofToken?_eq_some_iff.2 spells), List.foldl_cons, ih,
      sortBy, if_pos (by simpa [Metadata.canSort] using allowed)]
    simp only [withSorting, List.append_assoc, List.singleton_append]
  | @refuse token tokens kept refused key spells refusal _ ih =>
    rw [List.filterMap_cons_some (SortKey.ofToken?_eq_some_iff.2 spells), List.foldl_cons, ih,
      sortBy, if_neg (by simpa [Metadata.canSort] using refusal)]
    simp only [withSorting, report, List.append_assoc, List.singleton_append, List.map_cons]

/-- The pass leaves what becomes of the tokens. -/
theorem readSorting_of_sorts {sorting : Option String} (tokenized : Tokens sorting tokens)
    (h : main.Sorts tokens kept refused) (request : Request) :
    request.readSorting main sorting = request.withSorting kept refused := by
  cases sorting with
  | none =>
    cases tokenized
    cases h
    exact request.withSorting_nil.symm
  | some text => rw [readSorting, SortKey.ofText_of_joins tokenized, foldl_sortBy h]

end Request

end Retrieval
