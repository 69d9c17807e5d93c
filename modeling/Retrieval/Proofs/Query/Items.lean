import Retrieval.Proofs.Text.Forms
import Retrieval.Query.RawParams

/-!
# Queries that write items

The items of a query can be written in many ways. `SplitsAs` says what a key names, and every key
names something (`splitKey_eq_iff`); `Names` allows the key itself to be written as a component.
`Spells` relates an item to the pairs that write it and `Idle` tells the pairs that write none.
A query is made of both, in any number (`WritesQuery`), and reading it gives back its items in order
(`items_of_writesQuery`). All items have such a query but those with a name that no key can hold, or
with a filter that cannot stand there as it is (`exists_writesQuery_iff`).
-/

namespace Retrieval.RawParams

open Text.Percent (Writes decodeForm encode)

/-! ## Keys -/

/-- What a key names: a base, and what stands in the first brackets behind it. Brackets that are
empty or not closed name nothing, and whatever follows the first ones does not matter. -/
inductive SplitsAs : (key base : List Char) → Option (List Char) → Prop where
  | plain {base : List Char} (h : '[' ∉ base) : SplitsAs base base none
  | group {base sub : List Char} (more : List Char) (h : '[' ∉ base) (ne_nil : sub ≠ [])
      (closes : ']' ∉ sub) : SplitsAs (base ++ '[' :: (sub ++ ']' :: more)) base (some sub)
  | blank {base : List Char} (more : List Char) (h : '[' ∉ base) :
      SplitsAs (base ++ '[' :: ']' :: more) base none
  | unclosed {base rest : List Char} (h : '[' ∉ base) (opened : ']' ∉ rest) :
      SplitsAs (base ++ '[' :: rest) base none

/-- Behind a bracket, the key names what the first closing bracket ends. -/
theorem splitKey_bracket {base : List Char} (h : '[' ∉ base) (rest : List Char) :
    splitKey (base ++ '[' :: rest) = (base, match Text.cut ']' rest with
      | (c :: sub, some _) => some (c :: sub)
      | _ => none) := by
  rw [splitKey, Text.cut_eq_some_iff.2 ⟨rfl, h⟩]
  show (match Text.cut ']' rest with
    | (c :: sub, some _) => (base, some (c :: sub))
    | _ => (base, none)) = _
  split <;> rfl

/-- Every key is split into what it names. -/
theorem splitKey_eq_iff {key base : List Char} {sub? : Option (List Char)} :
    splitKey key = (base, sub?) ↔ SplitsAs key base sub? := by
  constructor
  · intro h
    cases first : Text.cut '[' key with
    | mk before rest? =>
      cases rest? with
      | none =>
        obtain ⟨rfl, plain⟩ := Text.cut_eq_none_iff.1 first
        rw [splitKey, first] at h
        cases h
        exact .plain plain
      | some rest =>
        obtain ⟨rfl, plain⟩ := Text.cut_eq_some_iff.1 first
        rw [splitKey_bracket plain, Prod.mk.injEq] at h
        obtain ⟨rfl, rfl⟩ := h
        -- the three ways in which the bracket may go on
        match second : Text.cut ']' rest with
        | (c :: sub, some more) =>
          obtain ⟨rfl, closes⟩ := Text.cut_eq_some_iff.1 second
          exact .group more plain (List.cons_ne_nil c sub) closes
        | ([], some more) =>
          obtain ⟨rfl, -⟩ := Text.cut_eq_some_iff.1 second
          exact .blank more plain
        | (sub, none) =>
          obtain ⟨rfl, opened⟩ := Text.cut_eq_none_iff.1 second
          cases sub <;> exact .unclosed plain opened
  · intro h
    cases h with
    | plain h => rw [splitKey, Text.cut_eq_none_iff.2 ⟨rfl, h⟩]
    | group more h ne_nil closes =>
      obtain ⟨c, rest, rfl⟩ := List.exists_cons_of_ne_nil ne_nil
      rw [splitKey_bracket h, Text.cut_eq_some_iff.2 ⟨rfl, closes⟩]
    | blank more h => rw [splitKey_bracket h, Text.cut, if_pos rfl]
    | @unclosed _ rest h opened =>
      rw [splitKey_bracket h, Text.cut_eq_none_iff.2 ⟨rfl, opened⟩]
      cases rest <;> rfl

/-- The writings of keys with a base and what stands in the brackets behind it. -/
def Names (base : String) (sub? : Option (List Char)) (written : List Char) : Prop :=
  ∃ key, SplitsAs key base.toList sub? ∧ Writes key written

/-- Whether a key names something: these bases in front of a name, and those without one. -/
def IsKnown (base : String) : Option (List Char) → Prop
  | some _ => base ∈ ["fields", "filters", "limit"]
  | none => base ∈ ["sorting", "sort", "page", "per_page"]

/-! ## Pairs -/

/-- The pairs that write an item. A filter is not escaped; plus signs in it are spaces. -/
inductive Spells : Item → List Char → Prop where
  | fields {resource text : String} {key value : List Char}
      (named : Names "fields" (some resource.toList) key) (sent : Writes text.toList value) :
      Spells (.fields resource text) (key ++ '=' :: value)
  | filters {resource : String} {key value : List Char}
      (named : Names "filters" (some resource.toList) key) (whole : '&' ∉ value) :
      Spells (.filters resource (String.ofList (Text.replace '+' ' ' value))) (key ++ '=' :: value)
  | limit {relation text : String} {key value : List Char}
      (named : Names "limit" (some relation.toList) key) (sent : Writes text.toList value) :
      Spells (.limit relation text) (key ++ '=' :: value)
  | sorting {base text : String} {key value : List Char} (either : base ∈ ["sorting", "sort"])
      (named : Names base none key) (sent : Writes text.toList value) :
      Spells (.sorting text) (key ++ '=' :: value)
  | page {text : String} {key value : List Char} (named : Names "page" none key)
      (sent : Writes text.toList value) : Spells (.page text) (key ++ '=' :: value)
  | perPage {text : String} {key value : List Char} (named : Names "per_page" none key)
      (sent : Writes text.toList value) : Spells (.perPage text) (key ++ '=' :: value)

/-- The pairs that write no item: the empty one, and those whose key is not known. -/
inductive Idle : List Char → Prop where
  | empty : Idle []
  | pair {base : String} {sub? : Option (List Char)} {key value : List Char}
      (unknown : ¬IsKnown base sub?) (named : Names base sub? key) (whole : '&' ∉ value) :
      Idle (key ++ '=' :: value)
  | key {base : String} {sub? : Option (List Char)} {key : List Char}
      (unknown : ¬IsKnown base sub?) (named : Names base sub? key) : Idle key

/-- The lists of pairs that write items in order, with any idle pairs between them. -/
inductive WritesPairs : List Item → List (List Char) → Prop where
  | nil : WritesPairs [] []
  | item {item : Item} {items : List Item} {pair : List Char} {pairs : List (List Char)}
      (spells : Spells item pair) (rest : WritesPairs items pairs) :
      WritesPairs (item :: items) (pair :: pairs)
  | idle {items : List Item} {pair : List Char} {pairs : List (List Char)} (idle : Idle pair)
      (rest : WritesPairs items pairs) : WritesPairs items (pair :: pairs)

/-- The queries that write items in order: their pairs, behind a question mark or not. -/
def WritesQuery (items : List Item) (query : List Char) : Prop :=
  ∃ pairs, WritesPairs items pairs ∧ (query = List.intercalate ['&'] pairs ∨
    query = '?' :: List.intercalate ['&'] pairs)

/-! ## Reading pairs -/

/-- A key that names a place gives the item of that place. -/
theorem item?_of_names {base : String} {sub? : Option (List Char)} {key : List Char}
    (h : Names base sub? key) (value : List Char) : item? key value = match sub? with
      | some sub =>
        if base = "fields" then some (.fields (String.ofList sub) (String.ofList (decodeForm value)))
        else if base = "filters" then
          some (.filters (String.ofList sub) (String.ofList (Text.replace '+' ' ' value)))
        else if base = "limit" then
          some (.limit (String.ofList sub) (String.ofList (decodeForm value)))
        else none
      | none =>
        if base = "sorting" ∨ base = "sort" then some (.sorting (String.ofList (decodeForm value)))
        else if base = "page" then some (.page (String.ofList (decodeForm value)))
        else if base = "per_page" then some (.perPage (String.ofList (decodeForm value)))
        else none := by
  obtain ⟨name, splits, written⟩ := h
  rw [item?, written.decodeForm_eq, splitKey_eq_iff.2 splits]
  cases sub? <;> simp only [String.toList_inj]

/-- A key that names no place gives no item. -/
theorem item?_of_unknown {base : String} {sub? : Option (List Char)} {key : List Char}
    (h : Names base sub? key) (unknown : ¬IsKnown base sub?) (value : List Char) :
    item? key value = none := by
  rw [item?_of_names h]
  cases sub? with
  | none =>
    simp only [IsKnown, List.mem_cons, List.not_mem_nil, or_false, not_or] at unknown
    obtain ⟨sorting, sort, page, perPage⟩ := unknown
    simp only [sorting, sort, page, perPage, or_self, if_false]
  | some sub =>
    simp only [IsKnown, List.mem_cons, List.not_mem_nil, or_false, not_or] at unknown
    obtain ⟨fields, filters, limit⟩ := unknown
    simp only [fields, filters, limit, if_false]

/-- What reading a query does with a pair: it comes out whole and yields an item, or none. -/
structure ReadsAs (pair : List Char) (item? : Option Item) : Prop where
  whole : '&' ∉ pair
  /-- The pair is not taken for the mark of a query. -/
  unmarked : pair.head? ≠ some '?'
  read : (if pair.isEmpty then none else pairItem? pair) = item?

namespace ReadsAs

variable {base : String} {sub? : Option (List Char)} {key value : List Char}

/-- A key and a value are cut at the sign between them. -/
theorem of_names (h : Names base sub? key) (whole : '&' ∉ value) :
    ReadsAs (key ++ '=' :: value) (item? key value) := by
  obtain ⟨name, -, written⟩ := h
  refine ⟨?_, ?_, ?_⟩
  · have ampersand : '&' ∉ key := written.uncut (by decide)
    simp [ampersand, whole]
  · have question : '?' ∉ key := written.uncut (by decide)
    intro first
    cases key with
    | nil => exact absurd (Option.some.inj first) (by decide)
    | cons c rest => exact question (Option.some.inj first ▸ List.mem_cons_self)
  · have equals : '=' ∉ key := written.uncut (by decide)
    rw [if_neg (by simp), pairItem?, Text.cut_eq_some_iff.2 ⟨rfl, equals⟩]
    rfl

/-- A key alone has an empty value. -/
theorem of_names_alone (h : Names base sub? key) (unknown : ¬IsKnown base sub?) :
    ReadsAs key none := by
  have read := item?_of_unknown h unknown []
  obtain ⟨name, -, written⟩ := h
  refine ⟨written.uncut (by decide), ?_, ?_⟩
  · have question : '?' ∉ key := written.uncut (by decide)
    exact fun first => question (List.mem_of_mem_head? first)
  · have equals : '=' ∉ key := written.uncut (by decide)
    rw [pairItem?, Text.cut_eq_none_iff.2 ⟨rfl, equals⟩]
    exact ite_eq_left_iff.2 fun _ => read

end ReadsAs

/-- A pair that spells an item is read as the item. -/
theorem Spells.readsAs {item : Item} {pair : List Char} (h : Spells item pair) :
    ReadsAs pair (some item) := by
  have ampersand {text value : List Char} (sent : Writes text value) : '&' ∉ value :=
    sent.uncut (by decide)
  cases h with
  | fields named sent =>
    have read := ReadsAs.of_names named (ampersand sent)
    simpa [item?_of_names named, sent.decodeForm_eq] using read
  | filters named whole =>
    have read := ReadsAs.of_names named whole
    simpa [item?_of_names named] using read
  | limit named sent =>
    have read := ReadsAs.of_names named (ampersand sent)
    simpa [item?_of_names named, sent.decodeForm_eq] using read
  | @sorting base _ _ _ either named sent =>
    have read := ReadsAs.of_names named (ampersand sent)
    have either : base = "sorting" ∨ base = "sort" := by simpa using either
    simpa [item?_of_names named, sent.decodeForm_eq, either] using read
  | page named sent =>
    have read := ReadsAs.of_names named (ampersand sent)
    simpa [item?_of_names named, sent.decodeForm_eq] using read
  | perPage named sent =>
    have read := ReadsAs.of_names named (ampersand sent)
    simpa [item?_of_names named, sent.decodeForm_eq] using read

/-- An idle pair is read as nothing. -/
theorem Idle.readsAs {pair : List Char} (h : Idle pair) : ReadsAs pair none := by
  cases h with
  | empty => exact ⟨List.not_mem_nil, nofun, rfl⟩
  | pair unknown named whole =>
    have read := ReadsAs.of_names named whole
    rwa [item?_of_unknown named unknown] at read
  | key unknown named => exact .of_names_alone named unknown

/-! ## Reading queries -/

/-- What a query yields for its pairs, once it is cut into them. -/
theorem filterMap_of_writesPairs {items : List Item} {pairs : List (List Char)}
    (h : WritesPairs items pairs) :
    pairs.filterMap (fun pair => if pair.isEmpty then none else pairItem? pair) = items := by
  induction h with
  | nil => rfl
  | item spells _ ih => rw [List.filterMap_cons, spells.readsAs.read, ih]
  | idle idle _ ih => rw [List.filterMap_cons, idle.readsAs.read, ih]

/-- No pair that is written holds a separator or begins like a query. -/
theorem forall_of_writesPairs {items : List Item} {pairs : List (List Char)}
    (h : WritesPairs items pairs) : ∀ pair ∈ pairs, '&' ∉ pair ∧ pair.head? ≠ some '?' := by
  induction h with
  | nil => exact fun pair mem => absurd mem List.not_mem_nil
  | item spells _ ih =>
    exact List.forall_mem_cons.2 ⟨⟨spells.readsAs.whole, spells.readsAs.unmarked⟩, ih⟩
  | idle idle _ ih =>
    exact List.forall_mem_cons.2 ⟨⟨idle.readsAs.whole, idle.readsAs.unmarked⟩, ih⟩

/-- The mark is dropped where it was put, and nowhere else. -/
theorem dropOne_of_writesPairs {items : List Item} {pairs : List (List Char)}
    (h : WritesPairs items pairs) {query : List Char}
    (eq : query = List.intercalate ['&'] pairs ∨ query = '?' :: List.intercalate ['&'] pairs) :
    Text.dropOne '?' query = List.intercalate ['&'] pairs := by
  rcases eq with rfl | rfl
  · -- a query begins like its first pair, and no pair begins like the mark
    have unmarked : (List.intercalate ['&'] pairs).head? ≠ some '?' := by
      cases pairs with
      | nil => exact nofun
      | cons pair rest =>
        have first := (forall_of_writesPairs h pair List.mem_cons_self).2
        rw [Ident.intercalate_cons]
        cases pair with
        | cons c tail => exact first
        | nil => cases rest <;> simp
    cases joined : List.intercalate ['&'] pairs with
    | nil => rfl
    | cons c tail =>
      rw [joined] at unmarked
      exact if_neg fun eq => unmarked (congrArg some eq)
  · rfl

/-- Reading a query gives back the items it writes, in order. -/
theorem items_of_writesQuery {list : List Item} {query : List Char} (h : WritesQuery list query) :
    items query = list := by
  obtain ⟨pairs, written, eq⟩ := h
  rw [items, dropOne_of_writesPairs written eq]
  by_cases none : pairs = []
  · -- a query without pairs is cut into one empty pair
    subst none
    cases written
    rfl
  · rw [Text.split_intercalate none fun pair mem => (forall_of_writesPairs written pair mem).1]
    exact filterMap_of_writesPairs written

/-! ## Items that can be written -/

/-- Whether a query can write an item: a name is not empty and has no closing bracket, and a filter,
which is not escaped, has none of the characters that are not taken literally there. -/
def Item.IsWritable : Item → Prop
  | .fields name _ | .limit name _ => name ≠ "" ∧ ']' ∉ name.toList
  | .filters name text => (name ≠ "" ∧ ']' ∉ name.toList) ∧ '&' ∉ text.toList ∧ '+' ∉ text.toList
  | .sorting _ | .page _ | .perPage _ => True

/-- A key can be written for every name without a closing bracket, but for the empty one. -/
theorem exists_names_iff (base : String) {name : String} (plain : '[' ∉ base.toList) :
    (∃ key, Names base (some name.toList) key) ↔ name ≠ "" ∧ ']' ∉ name.toList := by
  constructor
  · rintro ⟨_, _, splits, -⟩
    generalize sub : some name.toList = sub? at splits
    cases splits with
    | plain | blank | unclosed => exact nomatch sub
    | group _ _ ne_nil closes =>
      obtain rfl := Option.some.inj sub
      exact ⟨fun empty => ne_nil (by rw [empty]; rfl), closes⟩
  · rintro ⟨ne_empty, closes⟩
    exact ⟨_, _, .group [] plain (by simpa using ne_empty) closes, .encode _⟩

/-- Just the writable items can be spelled. -/
theorem exists_spells_iff {item : Item} : (∃ pair, Spells item pair) ↔ item.IsWritable := by
  constructor
  · rintro ⟨_, spells⟩
    cases spells with
    | fields named => exact (exists_names_iff "fields" (by decide)).1 ⟨_, named⟩
    | limit named => exact (exists_names_iff "limit" (by decide)).1 ⟨_, named⟩
    | @filters _ _ value named whole =>
      refine ⟨(exists_names_iff "filters" (by decide)).1 ⟨_, named⟩, ?_, ?_⟩
      · -- the text of a filter is what was written, with blanks for `+`, and holds no `&`
        rw [String.toList_ofList, Text.replace, List.mem_map]
        rintro ⟨c, mem, eq⟩
        split at eq
        · exact absurd eq (by decide)
        · exact whole (eq ▸ mem)
      · rw [String.toList_ofList, Text.replace, List.mem_map]
        rintro ⟨c, mem, eq⟩
        split at eq
        · exact absurd eq (by decide)
        · contradiction
    | sorting | page | perPage => trivial
  · intro writable
    have alone (base : String) (plain : '[' ∉ base.toList) :
        Names base none (encode base.toList) := ⟨_, .plain plain, .encode _⟩
    cases item with
    | fields name text =>
      obtain ⟨key, named⟩ := (exists_names_iff "fields" (by decide)).2 writable
      exact ⟨_, .fields named (.encode _)⟩
    | limit name text =>
      obtain ⟨key, named⟩ := (exists_names_iff "limit" (by decide)).2 writable
      exact ⟨_, .limit named (.encode _)⟩
    | filters name text =>
      -- without `+` in it a filter is written as it is
      obtain ⟨nameable, ampersand, plus⟩ := writable
      obtain ⟨key, named⟩ := (exists_names_iff "filters" (by decide)).2 nameable
      have spells := Spells.filters named ampersand
      rw [Text.replace_of_not_mem ' ' plus, String.ofList_toList] at spells
      exact ⟨_, spells⟩
    | sorting => exact ⟨_, .sorting (by decide) (alone "sorting" (by decide)) (.encode _)⟩
    | page => exact ⟨_, .page (alone "page" (by decide)) (.encode _)⟩
    | perPage => exact ⟨_, .perPage (alone "per_page" (by decide)) (.encode _)⟩

/-- Some query writes a list of items exactly when each of them can be written. -/
theorem exists_writesQuery_iff {list : List Item} :
    (∃ query, WritesQuery list query) ↔ ∀ item ∈ list, item.IsWritable := by
  constructor
  · rintro ⟨_, pairs, written, -⟩
    induction written with
    | nil => exact fun item mem => absurd mem List.not_mem_nil
    | item spells _ ih => exact List.forall_mem_cons.2 ⟨exists_spells_iff.1 ⟨_, spells⟩, ih⟩
    | idle _ _ ih => exact ih
  · intro writable
    suffices ∃ pairs, WritesPairs list pairs by
      obtain ⟨pairs, written⟩ := this
      exact ⟨_, pairs, written, .inl rfl⟩
    induction list with
    | nil => exact ⟨[], .nil⟩
    | cons item list ih =>
      obtain ⟨first, rest⟩ := List.forall_mem_cons.1 writable
      obtain ⟨pair, spells⟩ := exists_spells_iff.2 first
      obtain ⟨pairs, written⟩ := ih rest
      exact ⟨pair :: pairs, .item spells written⟩

end Retrieval.RawParams
