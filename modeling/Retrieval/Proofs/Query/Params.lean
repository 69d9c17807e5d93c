import Retrieval.Proofs.OrderedMap
import Retrieval.Proofs.Query.Items

/-!
# Parameters gathered from items

An item puts a text at a place: under a name among the fields, the filters or the limits, or as one
of the three texts of the whole request. `Gathers` says what parameters hold once items are read.
Adding an item keeps it (`Gathers.add`), so reading a query does, too. Parameters are determined by
the texts at every place, so only the order of items at one place can matter
(`ofQuery_of_writesQuery`).
-/

namespace Retrieval

/-- The value of texts sent under one name: none, a single text, or several. -/
def RawValue.ofTexts? : List String → Option RawValue
  | [] => none
  | [text] => some (.one text)
  | texts => some (.many texts)

namespace RawParams

/-- Where an item puts its text. -/
inductive Place where
  | fields (resource : String)
  | filters (resource : String)
  | limit (relation : String)
  | sorting
  | page
  | perPage
deriving DecidableEq

/-- The place of an item. -/
def Item.place : Item → Place
  | .fields resource _ => .fields resource
  | .filters resource _ => .filters resource
  | .limit relation _ => .limit relation
  | .sorting _ => .sorting
  | .page _ => .page
  | .perPage _ => .perPage

/-- The text of an item. -/
def Item.text : Item → String
  | .fields _ text | .filters _ text | .limit _ text | .sorting text | .page text | .perPage text =>
    text

/-- The texts that items put at a place, in order. -/
def textsAt (items : List Item) (place : Place) : List String :=
  (items.filter (·.place = place)).map (·.text)

/-- Parameters hold what items put there: under each name all the texts in order, and the last of
the texts for the whole request. -/
structure Gathers (params : RawParams) (items : List Item) : Prop where
  fields : ∀ resource,
    params.fields.find? resource = RawValue.ofTexts? (textsAt items (.fields resource))
  filters : ∀ resource,
    params.filters.find? resource = RawValue.ofTexts? (textsAt items (.filters resource))
  limit : ∀ relation,
    params.limit.find? relation = RawValue.ofTexts? (textsAt items (.limit relation))
  sorting : params.sorting = (textsAt items .sorting).getLast?
  page : params.page = (textsAt items .page).getLast?
  perPage : params.perPage = (textsAt items .perPage).getLast?

/-- The texts of a value are all that were sent, and without a value none were. -/
theorem texts_ofTexts? (texts : List String) :
    ((RawValue.ofTexts? texts).map (·.texts)).getD [] = texts := by
  match texts with
  | [] => rfl
  | [_] => rfl
  | _ :: _ :: _ => rfl

/-! ## Adding an item -/

/-- One more item adds its text at its own place. -/
theorem textsAt_append (items : List Item) (item : Item) (place : Place) :
    textsAt (items ++ [item]) place =
      if item.place = place then textsAt items place ++ [item.text] else textsAt items place := by
  rw [textsAt, textsAt, List.filter_append, List.map_append]
  by_cases h : item.place = place
  · rw [if_pos h, List.filter_cons_of_pos (by simpa using h)]
    rfl
  · rw [if_neg h, List.filter_cons_of_neg (by simpa using h)]
    exact List.append_nil _

/-- One more text is pushed behind the others; the first stands alone. -/
theorem ofTexts?_append (texts : List String) (text : String) :
    RawValue.ofTexts? (texts ++ [text]) = some (match RawValue.ofTexts? texts with
      | none => .one text
      | some value => value.push text) := by
  match texts with
  | [] => rfl
  | [_] => rfl
  | _ :: _ :: _ => rfl

/-- A text accumulated under a name stands behind those already there. -/
theorem find?_accumulate {values : OrderedMap RawValue} {texts : String → List String}
    (h : ∀ name, values.find? name = RawValue.ofTexts? (texts name)) (key text name : String) :
    (accumulate values key text).find? name =
      RawValue.ofTexts? (if key = name then texts name ++ [text] else texts name) := by
  rw [accumulate, OrderedMap.find?_insert]
  by_cases eq : key = name
  · subst eq
    rw [if_pos rfl, if_pos rfl, h]
    exact (ofTexts?_append (texts key) text).symm
  · rw [if_neg (Ne.symm eq), if_neg eq, h]

namespace Gathers

variable {params : RawParams} {items : List Item}

/-- Nothing is gathered from no items. -/
theorem empty : Gathers empty [] := by
  constructor <;> first | exact fun _ => rfl | rfl

/-- One more item is gathered behind the others: where it belongs its text comes last, and all other
places keep their texts. -/
theorem add (h : Gathers params items) (item : Item) :
    Gathers (params.add item) (items ++ [item]) where
  fields resource := by
    rw [textsAt_append]
    -- only an item of the place itself adds a text there
    cases item with
    | fields => simpa [RawParams.add, Item.place, Item.text] using find?_accumulate h.fields ..
    | _ => exact h.fields resource
  filters resource := by
    rw [textsAt_append]
    cases item with
    | filters =>
      simpa [RawParams.add, filter, Item.place, Item.text] using find?_accumulate h.filters ..
    | _ => exact h.filters resource
  limit relation := by
    rw [textsAt_append]
    cases item with
    | limit => simpa [RawParams.add, Item.place, Item.text] using find?_accumulate h.limit ..
    | _ => exact h.limit relation
  sorting := by
    rw [textsAt_append]
    cases item with
    | sorting => exact List.getLast?_concat.symm
    | _ => exact h.sorting
  page := by
    rw [textsAt_append]
    cases item with
    | page => exact List.getLast?_concat.symm
    | _ => exact h.page
  perPage := by
    rw [textsAt_append]
    cases item with
    | perPage => exact List.getLast?_concat.symm
    | _ => exact h.perPage

/-- Items read one after the other are all gathered. -/
theorem foldl (h : Gathers params items) (rest : List Item) :
    Gathers (rest.foldl RawParams.add params) (items ++ rest) := by
  induction rest generalizing params items with
  | nil => rwa [List.append_nil]
  | cons item rest ih =>
    rw [List.foldl_cons, ← List.singleton_append, ← List.append_assoc]
    exact ih (h.add item)

/-- The texts at every place determine the parameters. -/
theorem unique {other : RawParams} {others : List Item} (h : Gathers params items)
    (h' : Gathers other others) (same : ∀ place, textsAt items place = textsAt others place) :
    params = other := by
  have fields : params.fields = other.fields :=
    OrderedMap.ext_find? fun name => by rw [h.fields, h'.fields, same]
  have filters : params.filters = other.filters :=
    OrderedMap.ext_find? fun name => by rw [h.filters, h'.filters, same]
  have limit : params.limit = other.limit :=
    OrderedMap.ext_find? fun name => by rw [h.limit, h'.limit, same]
  have sorting : params.sorting = other.sorting := by rw [h.sorting, h'.sorting, same]
  have page : params.page = other.page := by rw [h.page, h'.page, same]
  have perPage : params.perPage = other.perPage := by rw [h.perPage, h'.perPage, same]
  exact (RawParams.mk.injEq ..).mpr ⟨fields, filters, limit, sorting, page, perPage⟩

end Gathers

/-! ## Reading a query -/

/-- A query gathers the items it is written from. -/
theorem gathers_ofQuery {list : List Item} {query : String} (h : WritesQuery list query.toList) :
    Gathers (ofQuery query) list := by
  rw [ofQuery, items_of_writesQuery h]
  exact Gathers.empty.foldl list

/-- However a client writes items, the parameters hold them in order of appearance; and a query that
writes items of which only those at one place keep their order is read as the same parameters. -/
theorem ofQuery_of_writesQuery {list : List Item} {query : String}
    (h : WritesQuery list query.toList) :
    Gathers (ofQuery query) list ∧
      ∀ others query', WritesQuery others query'.toList →
        (∀ place, textsAt others place = textsAt list place) → ofQuery query' = ofQuery query := by
  refine ⟨gathers_ofQuery h, ?_⟩
  intro others query' h' same
  exact (gathers_ofQuery h').unique (gathers_ofQuery h) same

/-- Two queries that write the same items, those at one place in the same order. The first has a
mark, an empty pair, a pair without a name and one that is not known. -/
theorem ofQuery_of_writesQuery_reordered :
    let items := [.fields "post" "a&b", .filters "post" "x%3D%=b", .page "1", .fields "post" "ï",
      .page "2"]
    let query :=
      "?fields%5Bpost%5D=a%26b&&filters[post][]=x%3D%=b&page=1&fields=&fields[post]=ï&x&page=2"
    let query' := "page=1&filters[post][]=x%3D%=b&fields%5Bpost%5D=a%26b&page=2&fields[post]=ï"
    WritesQuery items query.toList ∧ Gathers (ofQuery query) items ∧
      ofQuery query' = ofQuery query := by
  intro items query query'
  have escaped : Names "fields" (some "post".toList) "fields%5Bpost%5D".toList :=
    ⟨_, .group [] (by decide) (by decide) (by decide), .encode _⟩
  have bracketed : Names "fields" (some "post".toList) "fields[post]".toList :=
    ⟨_, .group [] (by decide) (by decide) (by decide), .refl_of_plain (by decide)⟩
  have filters : Names "filters" (some "post".toList) "filters[post][]".toList :=
    ⟨_, .group "[]".toList (by decide) (by decide) (by decide), .refl_of_plain (by decide)⟩
  have page : Names "page" none "page".toList :=
    ⟨_, .plain (by decide), .refl_of_plain (by decide)⟩
  -- the pairs of both queries
  have first : Spells (.fields "post" "a&b") "fields%5Bpost%5D=a%26b".toList :=
    .fields escaped (.encode "a&b".toList)
  have second : Spells (.filters "post" "x%3D%=b") "filters[post][]=x%3D%=b".toList :=
    @Spells.filters _ _ "x%3D%=b".toList filters (by decide)
  have third : Spells (.page "1") "page=1".toList := .page page (.refl_of_plain (by decide))
  have fourth : Spells (.fields "post" "ï") "fields[post]=ï".toList :=
    .fields bracketed (.refl_of_plain (by decide))
  have fifth : Spells (.page "2") "page=2".toList := .page page (.refl_of_plain (by decide))
  have bare : Idle "fields=".toList :=
    @Idle.pair "fields" none _ [] (by simp [IsKnown])
      ⟨_, .plain (by decide), .refl_of_plain (by decide)⟩ (by decide)
  have unknown : Idle "x".toList :=
    @Idle.key "x" none _ (by simp [IsKnown])
      ⟨_, .plain (by decide), .refl_of_plain (by decide)⟩
  have written : WritesQuery items query.toList := by
    refine ⟨_, .item first (.idle .empty (.item second (.item third (.idle bare (.item fourth
      (.idle unknown (.item fifth .nil))))))), .inr ?_⟩
    decide +kernel
  have reordered : WritesQuery [.page "1", .filters "post" "x%3D%=b", .fields "post" "a&b",
      .page "2", .fields "post" "ï"] query'.toList := by
    refine ⟨_, .item third (.item second (.item first (.item fifth (.item fourth .nil)))), .inl ?_⟩
    decide +kernel
  obtain ⟨gathers, same⟩ := ofQuery_of_writesQuery written
  refine ⟨written, gathers, same _ _ reordered fun place => ?_⟩
  cases place with
  | fields name | filters name | limit name =>
    by_cases h : "post" = name <;> simp [items, textsAt, Item.place, Item.text, h]
  | sorting | page | perPage => rfl

end RawParams

end Retrieval
